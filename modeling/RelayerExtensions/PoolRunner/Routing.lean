import RelayerExtensions.Lib.Procs
import RelayerExtensions.PoolRunner.Runner

/-!
# Routing tasks side by side

The runner spawns a routing task from two places: the listener does it for every order-created
message of the global pool, and every (re)connect of the listener does it for all orders of the
global pool at once. Nothing in either place asks whether a task for the order is already
running, and the registry of fill waiters knows orders, not attempts.

A task is cut at its awaits: asking for the price, `register`, the two admin calls, the wait, and
the `remove` at the end. The registry's methods hold its lock from beginning to end and are one
action each.

As long as a task is only spawned for an order that has none (`Spaced`), attempts are separate:
one attempt per order between `register` and `remove`, no `remove` takes another attempt's waiter,
and no fill passes a waiting attempt by (`attempts_separate`). A created message and the rescan
of the connect that follows it are enough to break all three (`overlapping_attempts`).
-/

namespace RelayerExtensions.PoolRunner

open Procs (Pid World)

/-! ## A routing task -/

/-- Where `try_route_user_order` is. -/
inductive RouteTask where
  /-- Deciding whether the order is routable at all, and where to. -/
  | evaluate (order : ApiAdminOrder)
  | register (order : OrderId) (pool : String)
  | assign (order : OrderId) (pool : String) (chan : Nat)
  /-- The first assignment failed; the waiter is to be removed. -/
  | unassigned (order : OrderId) (chan : Nat) (e : String)
  | await (order : OrderId) (pool : String) (chan : Nat)
  | reassign (order : OrderId) (pool : String) (chan : Nat) (fill : FillOutcome)
  | cleanup (order : OrderId) (pool : String) (chan : Nat) (fill : FillOutcome)

namespace RouteTask

def order : RouteTask → OrderId
  | .evaluate order => order.id
  | .register order _ | .assign order _ _ | .unassigned order _ _ | .await order _ _
  | .reassign order _ _ _ | .cleanup order _ _ _ => order

/-- The channel of a task that is between `register` and its final `remove`. -/
def attempt : RouteTask → Option Nat
  | .evaluate _ | .register _ _ => none
  | .assign _ _ c | .unassigned _ c _ | .await _ _ c | .reassign _ _ c _ | .cleanup _ _ c _ =>
      some c

/-- The channel of a task whose receiver has not been asked for the last time. -/
def pending : RouteTask → Option Nat
  | .assign _ _ c | .await _ _ c => some c
  | _ => none

/-- The channel of a task that waits for a fill. -/
def awaiting : RouteTask → Option Nat
  | .await _ _ c => some c
  | _ => none

theorem attempt_of_pending {t : RouteTask} {c : Nat} (h : t.pending = some c) :
    t.attempt = some c := by
  cases t <;> first | exact h | simp [pending] at h

theorem pending_of_awaiting {t : RouteTask} {c : Nat} (h : t.awaiting = some c) :
    t.pending = some c := by
  cases t <;> first | exact h | simp [awaiting] at h

end RouteTask

/-- What a task can be told: the answer of the price reporter, the answer of the relayer. -/
structure RouteInput where
  price : Except String Float
  admin : AdminReply

/-- The runner, and three logs: what the tasks returned, the waiters that the cleanup of another
attempt removed, and the attempts that were waiting when a fill for their order went elsewhere. -/
structure RunnerShared extends ServerState where
  nextTask : Pid
  returned : List (OrderId × Except String Unit)
  stolen : List Nat
  missed : List Nat

namespace RunnerShared

def setRegistry (s : RunnerShared) (r : FillWaiterRegistry) : RunnerShared :=
  { s with fillWaiters := r }

def setRelayer (s : RunnerShared) (r : Relayer) : RunnerShared := { s with relayer := r }

def answer (s : RunnerShared) (order : OrderId) (result : Except String Unit) : RunnerShared :=
  { s with returned := s.returned ++ [(order, result)] }

/-- The final `remove` of the attempt with channel `chan`. -/
def cleanup (s : RunnerShared) (order : OrderId) (chan : Nat) : RunnerShared :=
  { s with
    fillWaiters := s.fillWaiters.remove order
    stolen := s.stolen ++ (s.fillWaiters.waiters order).toList.filter (· ≠ chan) }

end RunnerShared

section Code

variable (lib : RunnerLib) (pools : List ManagedPool)

/-- The next action of a task. The deadline of the wait is the scheduler's choice: a task that is
advanced while its channel has nothing for it has timed out. -/
def nextRoute (s : RunnerShared) (input : RouteInput) : RouteTask → RunnerShared × Option RouteTask
  | .evaluate order =>
      match choosePool lib pools order input.price with
      | .ok (some pool) => (s, some (.register order.id pool.name))
      | .ok none => (s.answer order.id (.ok ()), none)
      | .error e => (s.answer order.id (.error e), none)
  | .register order pool =>
      let (registered, chan) := s.fillWaiters.register order
      (s.setRegistry registered, some (.assign order pool chan))
  | .assign order pool chan =>
      let s' := s.setRelayer (s.relayer.adminAssignOrderToPool input.admin order pool)
      match input.admin.result with
      | .ok () => (s', some (.await order pool chan))
      | .error e => (s', some (.unassigned order chan e))
  | .unassigned order chan e =>
      ((s.cleanup order chan).answer order (.error s!"Failed to assign order to pool: {e}"), none)
  | .await order pool chan =>
      match s.fillWaiters.channels chan with
      | .delivered => (s, some (.reassign order pool chan .filled))
      | .closed => (s, some (.reassign order pool chan .closed))
      | .waiting | .abandoned =>
          (s.setRegistry (s.fillWaiters.dropReceiver chan),
            some (.reassign order pool chan .timedOut))
  | .reassign order pool chan fill =>
      (s.setRelayer (s.relayer.adminAssignOrderToPool input.admin order lib.globalMatchingPool),
        some (.cleanup order pool chan fill))
  | .cleanup order pool chan fill =>
      ((s.cleanup order chan).answer order (fill.result pool), none)

/-! ## The listener -/

inductive ApiOrderUpdateType where
  | created
  | internalFill
  /-- The types the runner does not look at. -/
  | other
  deriving DecidableEq

structure AdminOrderUpdateMessage where
  updateType : ApiOrderUpdateType
  order : ApiAdminOrder

/-- The routing tasks of a runner, over what they share. -/
abbrev RunnerWorld := World RunnerShared RouteTask

/-- `tokio::spawn` of a routing task. -/
def spawnRoute (w : RunnerWorld) (order : ApiAdminOrder) : RunnerWorld :=
  w.put w.shared.nextTask { w.shared with nextTask := w.shared.nextTask + 1 }
    (some (.evaluate order))

/-- The channels of the attempts that wait for a fill of the order and have none yet. -/
def waitingFor (w : RunnerWorld) (order : OrderId) : List Nat :=
  (List.range w.shared.nextTask).filterMap fun p =>
    (w.ops p).bind fun t =>
      t.awaiting.filter fun c => t.order = order ∧ w.shared.fillWaiters.channels c ≠ .delivered

/-- A fill message reaches the registry. -/
def notifyFill (w : RunnerWorld) (order : OrderId) : RunnerWorld :=
  { w with
    shared := { w.shared with
      fillWaiters := (w.shared.fillWaiters.notify order).1
      missed := w.shared.missed ++
        (waitingFor w order).filter (w.shared.fillWaiters.waiters order ≠ some ·) } }

/-- The orders that an update makes the listener spawn a task for. -/
def AdminOrderUpdateMessage.routes (message : AdminOrderUpdateMessage) : List ApiAdminOrder :=
  if message.updateType = .created ∧ message.order.matchingPool = lib.globalMatchingPool then
    [message.order]
  else []

def handleOrderUpdate (w : RunnerWorld) (message : AdminOrderUpdateMessage) : RunnerWorld :=
  let notified :=
    if message.updateType = .internalFill then notifyFill w message.order.id else w
  (message.routes lib).foldl spawnRoute notified

/-- What can happen: the websocket delivers an update; the listener (re)connects and the relayer
lists these orders as those of the global pool; a task gets its answer and goes on. -/
inductive RunnerEvent where
  | orderUpdate (message : AdminOrderUpdateMessage)
  | rescan (globalOrders : List ApiAdminOrder)
  | advance (task : Pid) (input : RouteInput)

def runnerStep (w : RunnerWorld) : RunnerEvent → Option RunnerWorld
  | .orderUpdate message => some (handleOrderUpdate lib w message)
  | .rescan globalOrders => some (globalOrders.foldl spawnRoute w)
  | .advance task input =>
      (w.ops task).map fun t =>
        w.put task (nextRoute lib pools w.shared input t).1
          (nextRoute lib pools w.shared input t).2

def startedRunner (relayer : Relayer) : RunnerWorld where
  shared := ⟨⟨relayer, .new⟩, 0, [], [], []⟩
  ops := fun _ => none

/-! ## When tasks are spaced -/

/-- Some task for the order is running. -/
def busy (w : RunnerWorld) (order : OrderId) : Bool :=
  (List.range w.shared.nextTask).any fun p => (w.ops p).any fun t => t.order = order

/-- The orders an event spawns tasks for. -/
def RunnerEvent.routes : RunnerEvent → List ApiAdminOrder
  | .orderUpdate message => message.routes lib
  | .rescan globalOrders => globalOrders
  | .advance _ _ => []

/-- Tasks are spawned for different orders, none of which has a task that is still running. -/
def Spaced (w : RunnerWorld) (e : RunnerEvent) : Prop :=
  ((e.routes lib).map (·.id)).Nodup ∧ ∀ o ∈ e.routes lib, busy w o.id = false

instance (w : RunnerWorld) (e : RunnerEvent) : Decidable (Spaced lib w e) :=
  inferInstanceAs (Decidable (_ ∧ _))

end Code

/-! ## Attempts are separate -/

/-- At most one attempt per order is between `register` and its final `remove`; no `remove` took
the waiter of another attempt; no fill went past an attempt that was waiting for it. -/
structure Separate (w : RunnerWorld) : Prop where
  one : ∀ p q t u c d, w.ops p = some t → w.ops q = some u → t.attempt = some c →
    u.attempt = some d → t.order = u.order → p = q
  kept : w.shared.stolen = []
  met : w.shared.missed = []

/-- The invariant: one task per order; channels belong to one attempt each; a waiter in the
registry is that of the order's attempt; and an attempt whose wait is not over either has its
fill or is the one in the registry. -/
structure Orderly (w : RunnerWorld) : Prop where
  fresh : ∀ p t, w.ops p = some t → p < w.shared.nextTask
  one : ∀ p q t u, w.ops p = some t → w.ops q = some u → t.order = u.order → p = q
  made : ∀ p t c, w.ops p = some t → t.attempt = some c → c < w.shared.fillWaiters.made
  own : ∀ p q t u c, w.ops p = some t → w.ops q = some u → t.attempt = some c →
    u.attempt = some c → p = q
  held : ∀ o c, w.shared.fillWaiters.waiters o = some c →
    ∃ p t, w.ops p = some t ∧ t.order = o ∧ t.attempt = some c
  listed : ∀ p t c, w.ops p = some t → t.pending = some c →
    w.shared.fillWaiters.channels c = .delivered ∨
      (w.shared.fillWaiters.channels c = .waiting ∧
        w.shared.fillWaiters.waiters t.order = some c)
  kept : w.shared.stolen = []
  met : w.shared.missed = []

theorem Orderly.separate {w : RunnerWorld} (h : Orderly w) : Separate w :=
  ⟨fun p q t u _ _ hp hq _ _ => h.one p q t u hp hq, h.kept, h.met⟩

theorem orderly_started (relayer : Relayer) : Orderly (startedRunner relayer) := by
  constructor <;> simp [startedRunner, FillWaiterRegistry.new]

section Steps

variable {lib : RunnerLib} {pools : List ManagedPool} {w : RunnerWorld} {t : RouteTask} {p : Pid}
  {order : OrderId}

/-- The waiter kept for a task's order is the task's own. -/
theorem Orderly.waiter_own (h : Orderly w) {c : Nat} (hp : w.ops p = some t)
    (hc : w.shared.fillWaiters.waiters t.order = some c) :
    t.attempt = some c := by
  obtain ⟨q, u, hq, ho, hu⟩ := h.held _ _ hc
  have hqp := h.one q p u t hq hp ho
  subst hqp
  rw [hq, Option.some.injEq] at hp
  exact hp ▸ hu

/-- No task for the order is running. -/
def Idle (w : RunnerWorld) (order : OrderId) : Prop := ∀ p t, w.ops p = some t → t.order ≠ order

theorem Orderly.idle (h : Orderly w) (hb : busy w order = false) : Idle w order := by
  intro p t hp ho
  have hany := (List.any_eq_false.mp hb) p (List.mem_range.mpr (h.fresh p t hp))
  simp [hp, ho] at hany

/-- **Spawning.** A new task has no attempt yet, so only its order has to be new. -/
theorem Orderly.spawn (h : Orderly w) {order : ApiAdminOrder} (hi : Idle w order.id) :
    Orderly (spawnRoute w order) where
  fresh p t hp := by
    rcases Procs.put_cases hp with ⟨rfl, -⟩ | ⟨-, hp⟩
    · exact Nat.lt_succ_self _
    · exact Nat.lt_succ_of_lt (h.fresh p t hp)
  one p q t u hp hq ho := by
    rcases Procs.put_cases hp with ⟨rfl, ht⟩ | ⟨-, hp⟩ <;>
      rcases Procs.put_cases hq with ⟨rfl, hu⟩ | ⟨-, hq⟩
    · rfl
    · cases ht
      exact absurd ho.symm (hi q u hq)
    · cases hu
      exact absurd ho (hi p t hp)
    · exact h.one p q t u hp hq ho
  made p t c hp hc := by
    rcases Procs.put_cases hp with ⟨-, ht⟩ | ⟨-, hp⟩
    · cases ht
      cases hc
    · exact h.made p t c hp hc
  own p q t u c hp hq hc hd := by
    rcases Procs.put_cases hp with ⟨-, ht⟩ | ⟨-, hp⟩
    · cases ht
      cases hc
    · rcases Procs.put_cases hq with ⟨-, hu⟩ | ⟨-, hq⟩
      · cases hu
        cases hd
      · exact h.own p q t u c hp hq hc hd
  held o c hc := by
    obtain ⟨p, t, hp, ho, hct⟩ := h.held o c hc
    refine ⟨p, t, ?_, ho, hct⟩
    exact (Procs.put_of_ne (Nat.ne_of_lt (h.fresh p t hp))).trans hp
  listed p t c hp hc := by
    rcases Procs.put_cases hp with ⟨-, ht⟩ | ⟨-, hp⟩
    · cases ht
      cases hc
    · exact h.listed p t c hp hc
  kept := h.kept
  met := h.met

theorem idle_spawn {order : ApiAdminOrder} {o : OrderId} (hi : Idle w o) (ho : order.id ≠ o) :
    Idle (spawnRoute w order) o := by
  intro p t hp
  rcases Procs.put_cases hp with ⟨-, ht⟩ | ⟨-, hp⟩
  · cases ht
    exact ho
  · exact hi p t hp

theorem Orderly.spawns : ∀ {orders : List ApiAdminOrder} {w : RunnerWorld}, Orderly w →
    (orders.map (·.id)).Nodup → (∀ o ∈ orders, Idle w o.id) →
    Orderly (orders.foldl spawnRoute w)
  | [], _, h, _, _ => h
  | order :: orders, w, h, hnd, hi => by
      rw [List.map_cons, List.nodup_cons] at hnd
      obtain ⟨hw, hrest⟩ := List.forall_mem_cons.mp hi
      rw [List.foldl_cons]
      refine Orderly.spawns (h.spawn hw) hnd.2 fun o ho => idle_spawn (hrest o ho) ?_
      intro heq
      exact hnd.1 (heq ▸ List.mem_map_of_mem ho)

/-- A waiting attempt is the one in the registry. -/
theorem Orderly.waitingFor_registered (h : Orderly w) {c : Nat}
    (hc : c ∈ waitingFor w order) : w.shared.fillWaiters.waiters order = some c := by
  obtain ⟨p, -, hp⟩ := List.mem_filterMap.mp hc
  obtain ⟨t, ht, hf⟩ := Option.bind_eq_some_iff.mp hp
  obtain ⟨haw, hcond⟩ := Option.filter_eq_some_iff.mp hf
  simp only [ne_eq, Bool.decide_and, Bool.and_eq_true, decide_eq_true_eq] at hcond
  obtain ⟨rfl, hnot⟩ := hcond
  rcases h.listed p t c ht (t.pending_of_awaiting haw) with hdel | ⟨-, hreg⟩
  · exact absurd hdel hnot
  · exact hreg

/-- **A fill message.** It finds the waiter of the order's attempt, if there is one. -/
theorem Orderly.notify (h : Orderly w) (order : OrderId) : Orderly (notifyFill w order) where
  fresh := h.fresh
  one := h.one
  made p t c hp hc := by
    have := h.made p t c hp hc
    simpa [notifyFill, FillWaiterRegistry.notify] using this
  own := h.own
  held o c hc := by
    by_cases ho : o = order
    · subst ho
      simp [notifyFill, FillWaiterRegistry.notify] at hc
    · refine h.held o c ?_
      rwa [← FillWaiterRegistry.waiters_take_of_ne _ ho]
  listed p t c hp hc := by
    have hlisted := h.listed p t c hp hc
    by_cases hreg : w.shared.fillWaiters.waiters order = some c
    · left
      refine (FillWaiterRegistry.channels_take_self _ hreg _).trans ?_
      rcases hlisted with hdel | ⟨hwait, -⟩
      · rw [hdel]
        rfl
      · rw [hwait]
        rfl
    · have hchan : (notifyFill w order).shared.fillWaiters.channels c =
          w.shared.fillWaiters.channels c := FillWaiterRegistry.channels_take_of_ne _ hreg _
      rw [hchan]
      refine hlisted.imp_right fun ⟨hwait, hown⟩ => ⟨hwait, ?_⟩
      have hne : t.order ≠ order := fun ho => hreg (ho ▸ hown)
      exact (FillWaiterRegistry.waiters_take_of_ne _ hne _).trans hown
  kept := h.kept
  met := by
    have hnone : (waitingFor w order).filter (w.shared.fillWaiters.waiters order ≠ some ·) = [] :=
      List.filter_eq_nil_iff.mpr fun c hc => by simpa using h.waitingFor_registered hc
    change w.shared.missed ++ _ = []
    rw [h.met, List.nil_append, hnone]

/-- **One action of a task.** It may touch its own order's waiter and its own channel, and the
next point of the task must be in order; then nobody else is disturbed. -/
theorem Orderly.put (h : Orderly w) (hp : w.ops p = some t) {s : RunnerShared}
    {o : Option RouteTask} (hnext : s.nextTask = w.shared.nextTask)
    (horder : ∀ t', o = some t' → t'.order = t.order)
    (hmade : w.shared.fillWaiters.made ≤ s.fillWaiters.made)
    (hchan : ∀ t' c, o = some t' → t'.attempt = some c → c < s.fillWaiters.made ∧
      (t.attempt = some c ∨ c = w.shared.fillWaiters.made))
    (hwaiters : ∀ o', o' ≠ t.order → s.fillWaiters.waiters o' = w.shared.fillWaiters.waiters o')
    (hheld : ∀ c, s.fillWaiters.waiters t.order = some c → ∃ t', o = some t' ∧ t'.attempt = some c)
    (hchannels : ∀ c, c < w.shared.fillWaiters.made → t.attempt ≠ some c →
      s.fillWaiters.channels c = w.shared.fillWaiters.channels c)
    (hlisted : ∀ t' c, o = some t' → t'.pending = some c → s.fillWaiters.channels c = .delivered ∨
      (s.fillWaiters.channels c = .waiting ∧ s.fillWaiters.waiters t.order = some c))
    (hkept : s.stolen = []) (hmet : s.missed = []) : Orderly (w.put p s o) where
  fresh q u hq := by
    refine Nat.lt_of_lt_of_eq ?_ hnext.symm
    rcases Procs.put_cases hq with ⟨rfl, -⟩ | ⟨-, hq⟩
    · exact h.fresh q t hp
    · exact h.fresh q u hq
  one q r u v hq hr ho := by
    rcases Procs.put_cases hq with ⟨rfl, hu⟩ | ⟨-, hq₀⟩ <;>
      rcases Procs.put_cases hr with ⟨rfl, hv⟩ | ⟨-, hr₀⟩
    · rfl
    · exact h.one q r t v hp hr₀ ((horder u hu).symm.trans ho)
    · exact h.one q r u t hq₀ hp (ho.trans (horder v hv))
    · exact h.one q r u v hq₀ hr₀ ho
  made q u c hq hc := by
    rcases Procs.put_cases hq with ⟨-, hu⟩ | ⟨-, hq⟩
    · exact (hchan u c hu hc).1
    · exact Nat.lt_of_lt_of_le (h.made q u c hq hc) hmade
  own q r u v c hq hr hc hd := by
    rcases Procs.put_cases hq with ⟨rfl, hu⟩ | ⟨-, hq₀⟩ <;>
      rcases Procs.put_cases hr with ⟨rfl, hv⟩ | ⟨-, hr₀⟩
    · rfl
    · rcases (hchan u c hu hc).2 with ht | rfl
      · exact h.own q r t v c hp hr₀ ht hd
      · exact absurd (h.made r v _ hr₀ hd) (Nat.lt_irrefl _)
    · rcases (hchan v c hv hd).2 with ht | rfl
      · exact h.own q r u t c hq₀ hp hc ht
      · exact absurd (h.made q u _ hq₀ hc) (Nat.lt_irrefl _)
    · exact h.own q r u v c hq₀ hr₀ hc hd
  held o' c hc := by
    by_cases ho : o' = t.order
    · subst ho
      obtain ⟨t', ho', hc'⟩ := hheld c hc
      exact ⟨p, t', Procs.put_self.trans ho', horder t' ho', hc'⟩
    · obtain ⟨q, u, hq, huo, huc⟩ := h.held o' c ((hwaiters o' ho).symm.trans hc)
      refine ⟨q, u, ?_, huo, huc⟩
      have hqp : q ≠ p := by
        rintro rfl
        rw [hp, Option.some.injEq] at hq
        exact ho (hq ▸ huo.symm)
      exact (Procs.put_of_ne hqp).trans hq
  listed q u c hq hc := by
    rcases Procs.put_cases hq with ⟨-, hu⟩ | ⟨hqp, hq⟩
    · rw [horder u hu]
      exact hlisted u c hu hc
    · have hatt := u.attempt_of_pending hc
      have hmine : t.attempt ≠ some c := fun ht => hqp (h.own q p u t c hq hp hatt ht)
      have ho : u.order ≠ t.order := fun ho => hqp (h.one q p u t hq hp ho)
      rw [show (w.put p s o).shared = s from rfl, hchannels c (h.made q u c hq hatt) hmine,
        hwaiters _ ho]
      exact h.listed q u c hq hc
  kept := hkept
  met := hmet

/-- An action that does not touch the registry. -/
theorem Orderly.keep (h : Orderly w) (hp : w.ops p = some t) {s : RunnerShared}
    {o : Option RouteTask} (hreg : s.fillWaiters = w.shared.fillWaiters)
    (hnext : s.nextTask = w.shared.nextTask) (hstolen : s.stolen = w.shared.stolen)
    (hmissed : s.missed = w.shared.missed) (horder : ∀ t', o = some t' → t'.order = t.order)
    (hattempt : o.bind RouteTask.attempt = t.attempt)
    (hpending : ∀ c, o.bind RouteTask.pending = some c → t.pending = some c) :
    Orderly (w.put p s o) := by
  refine h.put hp hnext horder (Nat.le_of_eq (by rw [hreg])) ?_ (fun _ _ => by rw [hreg]) ?_
    (fun _ _ _ => by rw [hreg]) ?_ (hstolen.trans h.kept) (hmissed.trans h.met)
  · rintro t' c rfl hc
    have htc : t.attempt = some c := hattempt.symm.trans hc
    exact ⟨hreg ▸ h.made p t c hp htc, .inl htc⟩
  · intro c hc
    exact Option.bind_eq_some_iff.mp (hattempt.trans (h.waiter_own hp (hreg ▸ hc)))
  · rintro t' c rfl hc
    rw [hreg]
    exact h.listed p t c hp (hpending c hc)

theorem Orderly.cleanup (h : Orderly w) {chan : Nat} (hp : w.ops p = some t)
    (ht : t.attempt = some chan) (result : Except String Unit) :
    Orderly (w.put p ((w.shared.cleanup t.order chan).answer t.order result) none) := by
  have hown : ∀ c, w.shared.fillWaiters.waiters t.order = some c → c = chan := fun c hc =>
    Option.some.inj ((h.waiter_own hp hc).symm.trans ht)
  refine h.put hp rfl (by simp) (Nat.le_of_eq (FillWaiterRegistry.made_take ..).symm) (by simp)
    (fun o' ho => FillWaiterRegistry.waiters_take_of_ne _ ho _) ?_ ?_ (by simp) ?_ h.met
  · intro c hc
    cases (FillWaiterRegistry.waiters_take_self ..).symm.trans hc
  · intro c _ hc
    refine FillWaiterRegistry.channels_take_of_ne _ (fun hreg => hc ?_) _
    exact h.waiter_own hp hreg
  · -- what is removed, if anything, is this attempt's own waiter
    have hnone : (w.shared.fillWaiters.waiters t.order).toList.filter (· ≠ chan) = [] := by
      refine List.filter_eq_nil_iff.mpr fun c hc => ?_
      simpa using hown c (Option.mem_toList.mp hc)
    change w.shared.stolen ++ _ = []
    rw [h.kept, List.nil_append, hnone]

theorem Orderly.register (h : Orderly w) {pool : String}
    (hp : w.ops p = some (.register order pool)) :
    Orderly (w.put p (w.shared.setRegistry (w.shared.fillWaiters.register order).1)
      (some (.assign order pool (w.shared.fillWaiters.register order).2))) := by
  -- this task is the only one of its order, and it has no attempt yet
  have hfree : w.shared.fillWaiters.waiters order = none := by
    cases hc : w.shared.fillWaiters.waiters order with
    | none => rfl
    | some c => cases h.waiter_own hp hc
  have htake : w.shared.fillWaiters.take order Channel.dropSender = w.shared.fillWaiters := by
    simp [FillWaiterRegistry.take, hfree]
  refine h.put hp rfl ?_ (Nat.le_succ _) ?_ ?_ ?_ ?_ ?_ h.kept h.met
  · rintro t' ⟨⟩
    rfl
  · rintro t' c ⟨⟩ ⟨⟩
    exact ⟨Nat.lt_succ_self _, .inr rfl⟩
  · intro o' ho
    refine (Function.update_of_ne ho ..).trans ?_
    rw [htake]
  · intro c hc
    exact ⟨_, rfl, (FillWaiterRegistry.waiters_register ..).symm.trans hc⟩
  · intro c hc _
    refine (Function.update_of_ne (Nat.ne_of_lt hc) ..).trans ?_
    rw [htake]
  · rintro t' c ⟨⟩ ⟨⟩
    exact .inr ⟨FillWaiterRegistry.channels_register .., FillWaiterRegistry.waiters_register ..⟩

theorem Orderly.timedOut (h : Orderly w) {pool : String} {chan : Nat}
    (hp : w.ops p = some (.await order pool chan)) :
    Orderly (w.put p (w.shared.setRegistry (w.shared.fillWaiters.dropReceiver chan))
      (some (.reassign order pool chan .timedOut))) := by
  refine h.put hp rfl ?_ (Nat.le_refl _) ?_ (fun _ _ => rfl) ?_ ?_ ?_ h.kept h.met
  · rintro t' ⟨⟩
    rfl
  · rintro t' c ⟨⟩ ⟨⟩
    exact ⟨h.made p _ chan hp rfl, .inl rfl⟩
  · intro c hc
    have hown : (RouteTask.await order pool chan).attempt = some c := h.waiter_own hp hc
    exact ⟨_, rfl, hown⟩
  · intro c _ hc
    exact Function.update_of_ne (fun hcc => hc (congrArg some hcc.symm)) ..
  · rintro t' c ⟨⟩ ⟨⟩

/-- **Every action of every task keeps the attempts apart.** -/
theorem Orderly.next (h : Orderly w) (hp : w.ops p = some t) (input : RouteInput) :
    Orderly (w.put p (nextRoute lib pools w.shared input t).1
      (nextRoute lib pools w.shared input t).2) := by
  cases t with
  | evaluate order =>
      rcases hpool : choosePool lib pools order input.price with e | _ | pool
      all_goals
        simp only [nextRoute, hpool]
        exact h.keep hp rfl rfl rfl rfl (by simp [RouteTask.order]) rfl
          (by simp [RouteTask.pending])
  | register order pool => exact h.register hp
  | assign order pool chan =>
      cases hr : input.admin.result
      all_goals
        simp only [nextRoute, hr]
        exact h.keep hp rfl rfl rfl rfl (by simp [RouteTask.order]) rfl
          (by simp [RouteTask.pending])
  | unassigned order chan e | cleanup order pool chan fill => exact h.cleanup hp rfl _
  | await order pool chan =>
      cases hc : w.shared.fillWaiters.channels chan
      all_goals simp only [nextRoute, hc]
      case waiting | abandoned => exact h.timedOut hp
      case delivered | closed =>
        exact h.keep hp rfl rfl rfl rfl (by simp [RouteTask.order]) rfl
          (by simp [RouteTask.pending])
  | reassign order pool chan fill =>
      exact h.keep hp rfl rfl rfl rfl (by simp [nextRoute, RouteTask.order]) rfl
        (by simp [nextRoute, RouteTask.pending])

theorem Orderly.step {w' : RunnerWorld} {e : RunnerEvent} (h : Orderly w) (hs : Spaced lib w e)
    (hw : runnerStep lib pools w e = some w') : Orderly w' := by
  obtain ⟨hnd, hbusy⟩ := hs
  cases e with
  | orderUpdate message =>
      cases hw
      have hidle : ∀ o ∈ message.routes lib, Idle w o.id := fun o ho => h.idle (hbusy o ho)
      unfold handleOrderUpdate
      dsimp only
      split
      · -- a notification leaves the tasks alone
        exact (h.notify _).spawns hnd hidle
      · exact h.spawns hnd hidle
  | rescan globalOrders =>
      cases hw
      exact h.spawns hnd fun o ho => h.idle (hbusy o ho)
  | advance task input =>
      obtain ⟨t, ht, rfl⟩ := Option.map_eq_some_iff.mp hw
      exact h.next ht input

end Steps

/-- **Attempts are separate as long as tasks are spaced.** From a runner that has just started
and any relayer, in every run of updates, rescans and task actions in which a routing task is
spawned only for orders that have none running. -/
theorem attempts_separate (lib : RunnerLib) (pools : List ManagedPool) (relayer : Relayer)
    (es : List RunnerEvent) (w : RunnerWorld)
    (hm : Runs.Meets (runnerStep lib pools) (Spaced lib) (startedRunner relayer) es)
    (hr : Runs.run (runnerStep lib pools) (startedRunner relayer) es = some w) : Separate w :=
  (Runs.run_invariant (fun _ _ _ h hs hw => Orderly.step h hs hw) es (orderly_started relayer)
    hm hr).separate

/-! ## A task by itself -/

section Alone

variable {lib : RunnerLib} {pools : List ManagedPool} {w : RunnerWorld} {p : Pid}

theorem run_advance {t : RouteTask} {input : RouteInput} {s : RunnerShared} {o : Option RouteTask}
    (hp : w.ops p = some t) (hn : nextRoute lib pools w.shared input t = (s, o))
    (es : List RunnerEvent) :
    Runs.run (runnerStep lib pools) w (.advance p input :: es) =
      Runs.run (runnerStep lib pools) (w.put p s o) es := by
  rw [Runs.run_cons, runnerStep, hp, Option.map_some, hn]
  rfl

theorem nextRoute_await_delivered {s : RunnerShared} {input : RouteInput} {order : OrderId}
    {pool : String} {chan : Nat} (hc : s.fillWaiters.channels chan = .delivered) :
    nextRoute lib pools s input (.await order pool chan) =
      (s, some (.reassign order pool chan .filled)) := by
  simp only [nextRoute, hc]

theorem nextRoute_await_waiting {s : RunnerShared} {input : RouteInput} {order : OrderId}
    {pool : String} {chan : Nat} (hc : s.fillWaiters.channels chan = .waiting) :
    nextRoute lib pools s input (.await order pool chan) =
      (s.setRegistry (s.fillWaiters.dropReceiver chan),
        some (.reassign order pool chan .timedOut)) := by
  simp only [nextRoute, hc]

/-- The actions of an attempt that meets `replies`, with the fill message where there is one. -/
def attemptEvents (p : Pid) (order : ApiAdminOrder) (replies : MatchReplies) : List RunnerEvent :=
  let act (reply : AdminReply) : RunnerEvent := .advance p ⟨.error "not asked", reply⟩
  match replies.assign.result with
  | .error _ => [act .done, act replies.assign, act .done]
  | .ok () =>
      [act .done, act replies.assign] ++
        (if replies.fill = .filled then [.orderUpdate ⟨.internalFill, order⟩] else []) ++
        [act .done, act replies.reassign, act .done]

/-- **A task that nobody else disturbs does what `executePoolMatch` says.** (The channel of such a
task is never closed on it.) -/
theorem attempt_alone (order : ApiAdminOrder) (pool : String) (replies : MatchReplies)
    (hfill : replies.fill ≠ .closed) (hp : w.ops p = some (.register order.id pool)) :
    ∃ w', Runs.run (runnerStep lib pools) w (attemptEvents p order replies) = some w' ∧
      w'.ops p = none ∧
      w'.shared.toServerState =
        (executePoolMatch lib replies order.id pool w.shared.toServerState).1 ∧
      w'.shared.returned = w.shared.returned ++
        [(order.id, (executePoolMatch lib replies order.id pool w.shared.toServerState).2)] := by
  unfold attemptEvents executePoolMatch
  cases hr : replies.assign.result with
  | error e =>
      dsimp only
      rw [run_advance hp (by rfl), run_advance Procs.put_self (by simp only [nextRoute, hr]; rfl),
        run_advance Procs.put_self (by rfl)]
      exact ⟨_, rfl, Procs.put_self, rfl, rfl⟩
  | ok u =>
      obtain ⟨assign, fill, reassign⟩ := replies
      dsimp only at hr hfill ⊢
      rw [List.cons_append, List.cons_append, List.cons_append, List.cons_append,
        run_advance hp (by rfl), run_advance Procs.put_self (by simp only [nextRoute, hr]; rfl)]
      cases fill with
      | closed => exact absurd rfl hfill
      | filled =>
          -- the message finds the sender that `register` put into the map
          simp only [if_pos, List.nil_append, List.cons_append]
          rw [Runs.run_cons]
          dsimp only [runnerStep, handleOrderUpdate, AdminOrderUpdateMessage.routes,
            Option.bind_some]
          simp only [reduceCtorEq, false_and, if_false, if_true, List.foldl_nil]
          have hdel : ((w.shared.fillWaiters.register order.id).1.notify order.id).1.channels
              (w.shared.fillWaiters.register order.id).2 = .delivered := by
            refine (FillWaiterRegistry.channels_take_self _
              (FillWaiterRegistry.waiters_register ..) _).trans ?_
            rw [FillWaiterRegistry.channels_register]
            rfl
          rw [run_advance (t := .await order.id pool _) (by exact Procs.put_self)
              (nextRoute_await_delivered (by exact hdel)),
            run_advance Procs.put_self (by rfl), run_advance Procs.put_self (by rfl)]
          exact ⟨_, rfl, Procs.put_self, rfl, rfl⟩
      | timedOut =>
          simp only [reduceCtorEq, if_false, List.nil_append]
          rw [run_advance Procs.put_self
              (nextRoute_await_waiting (by exact FillWaiterRegistry.channels_register ..)),
            run_advance Procs.put_self (by rfl), run_advance Procs.put_self (by rfl)]
          exact ⟨_, rfl, Procs.put_self, rfl, rfl⟩

/-- One task, about to register for the order. -/
def registering : RunnerWorld :=
  { startedRunner sampleServer.relayer with
    ops := fun p => if p = 0 then some (.register 7 "mm") else none }

theorem attempt_alone_filled :
    ∃ w', Runs.run (runnerStep sampleLib []) registering
        (attemptEvents 0 ⟨7, 0, 1, 100, "global"⟩ ⟨.done, .filled, .done⟩) = some w' ∧
      w'.ops 0 = none ∧ w'.shared.returned = [(7, .ok ())] := by
  obtain ⟨w', hr, hnone, -, hreturned⟩ := @attempt_alone sampleLib [] registering 0
    ⟨7, 0, 1, 100, "global"⟩ "mm" ⟨.done, .filled, .done⟩ (by decide) rfl
  exact ⟨w', hr, hnone, hreturned⟩

end Alone

/-! ## One order, twice -/

/-- A pool that takes every order of WETH. -/
def sampleConfig : List ManagedPool := [⟨"mm", ["WETH"], 0, none⟩]

/-- An order that sells USDC for WETH. -/
def sampleOrder : ApiAdminOrder := ⟨7, 0, 1, 100, "global"⟩

def sampleInput : RouteInput := ⟨.error "not asked", .done⟩

abbrev sampleRun : List RunnerEvent → Option RunnerWorld :=
  Runs.run (runnerStep sampleLib sampleConfig) (startedRunner sampleServer.relayer)

/-- An order is created, routed, filled and moved back; then the listener reconnects and the
rescan routes the order again. -/
def routedTwice : List RunnerEvent :=
  [.rescan [], .orderUpdate ⟨.created, sampleOrder⟩] ++
    List.replicate 3 (.advance 0 sampleInput) ++ [.orderUpdate ⟨.internalFill, sampleOrder⟩] ++
    List.replicate 3 (.advance 0 sampleInput) ++ [.rescan [sampleOrder]] ++
    List.replicate 3 (.advance 1 sampleInput)

theorem attempts_separate_routedTwice :
    ∃ w, sampleRun routedTwice = some w ∧ Separate w ∧ w.shared.returned.map (·.1) = [7] := by
  obtain ⟨w, hw, hret⟩ := Option.map_eq_some_iff.mp
    (show (sampleRun routedTwice).map (fun w => w.shared.returned.map (·.1)) = some [7] by
      decide +kernel)
  exact ⟨w, hw, attempts_separate _ _ _ _ _ (by decide +kernel) hw, hret⟩

/-- The order is created while the listener connects: the created message and the rescan both
route it. The second `register` drops the first attempt's sender; the first attempt, woken by
that, moves the order back and removes the second one's waiter; then the order is filled. -/
def createdWhileConnecting : List RunnerEvent :=
  [.rescan [sampleOrder], .orderUpdate ⟨.created, sampleOrder⟩] ++
    List.replicate 3 (.advance 0 sampleInput) ++ List.replicate 3 (.advance 1 sampleInput) ++
    List.replicate 3 (.advance 0 sampleInput) ++ [.orderUpdate ⟨.internalFill, sampleOrder⟩]

/-- After eight of these events two attempts for the order are under way; in the end one has
removed the other's waiter, and the fill has gone past the attempt that waited for it. -/
theorem overlapping_attempts :
    (∃ w, sampleRun (createdWhileConnecting.take 8) = some w ∧
      (w.ops 0).bind RouteTask.attempt = some 0 ∧ (w.ops 1).bind RouteTask.attempt = some 1 ∧
      (w.ops 0).map RouteTask.order = (w.ops 1).map RouteTask.order) ∧
    ∃ w, sampleRun createdWhileConnecting = some w ∧ w.shared.stolen = [1] ∧ w.shared.missed = [1] ∧
      (w.ops 1).bind RouteTask.awaiting = some 1 := by
  constructor
  · obtain ⟨w, hw, hproj⟩ := Option.map_eq_some_iff.mp
      (show (sampleRun (createdWhileConnecting.take 8)).map (fun w =>
          ((w.ops 0).bind RouteTask.attempt, (w.ops 1).bind RouteTask.attempt,
          (w.ops 0).map RouteTask.order, (w.ops 1).map RouteTask.order)) =
          some (some 0, some 1, some 7, some 7) by decide +kernel)
    simp only [Prod.mk.injEq] at hproj
    obtain ⟨h0, h1, ho0, ho1⟩ := hproj
    exact ⟨w, hw, h0, h1, ho0.trans ho1.symm⟩
  · obtain ⟨w, hw, hproj⟩ := Option.map_eq_some_iff.mp
      (show (sampleRun createdWhileConnecting).map (fun w => (w.shared.stolen, w.shared.missed,
          (w.ops 1).bind RouteTask.awaiting)) = some ([1], [1], some 1) by decide +kernel)
    simp only [Prod.mk.injEq] at hproj
    exact ⟨w, hw, hproj⟩

end RelayerExtensions.PoolRunner
