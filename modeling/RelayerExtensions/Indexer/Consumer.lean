import Mathlib.Data.Set.Finite.List
import Mathlib.Order.UpperLower.Basic
import RelayerExtensions.Lib.Procs
import RelayerExtensions.Lib.Rows
import RelayerExtensions.Indexer.Handlers

/-!
# The order of messages within a group

The queue is a FIFO queue with message groups. `receive_message` returns up to ten messages; of
each group they are the first ones still there, in order, and a group of which messages are in
flight is not served again until those are deleted or their visibility timeout has passed
(`Queue.Receivable`). The consumer sorts a batch by group and handles each group in a task of its
own, message by message. A message is deleted after its handler has returned.

A handler that fails is only logged, and the loop goes on with the next message of the group.
So the order is kept where a message that is not applied is the last of its batch
(`applied_in_order`), and lost where one more message follows it (`failed_message_overtaken`).

A message is applied once a handler has committed a transaction for it. That it can be delivered
again after that, to a second task while the first still runs, does not matter here: it can only
be applied again.
-/

namespace RelayerExtensions.Indexer

open Procs (Pid World)

abbrev GroupId := String

/-- A message as it is received. Its `sequence` is its place in its group's order. -/
structure Message where
  messageGroupId : Option GroupId
  sequence : Nat
  body : Option String
  receiptHandle : Option String
  deriving DecidableEq

/-! ## The queue -/

/-- Per group: the bodies sent so far, the places of the deleted messages, and the places of
those in flight. -/
structure Queue where
  sent : GroupId → List (Option String)
  deleted : GroupId → List Nat
  inFlight : GroupId → List Nat

namespace Queue

def empty : Queue := ⟨fun _ => [], fun _ => [], fun _ => []⟩

def send (q : Queue) (g : GroupId) (body : Option String) : Queue :=
  { q with sent := Function.update q.sent g (q.sent g ++ [body]) }

/-- The places of the messages that are still there, in order. -/
def undeleted (q : Queue) (g : GroupId) : List Nat :=
  (List.range (q.sent g).length).filter (· ∉ q.deleted g)

def delete (q : Queue) (g : GroupId) (i : Nat) : Queue :=
  { q with
    deleted := Function.update q.deleted g (i :: q.deleted g)
    inFlight := Function.update q.inFlight g ((q.inFlight g).filter (· ≠ i)) }

/-- The visibility timeout of a group's messages passes. -/
def expire (q : Queue) (g : GroupId) : Queue :=
  { q with inFlight := Function.update q.inFlight g [] }

end Queue

def maxRecvMessages : Nat := 10

/-- The messages of a batch that belong to a group. -/
def ofGroup (batch : List Message) (g : GroupId) : List Message :=
  batch.filter fun m => m.messageGroupId = some g

/-- What `receive_message` may return about the group of one message: the group has nothing in
flight, and the batch holds its first messages. -/
def Queue.Serves (q : Queue) (batch : List Message) (m : Message) : Prop :=
  match m.messageGroupId with
  | none => False
  | some g =>
      q.inFlight g = [] ∧ (ofGroup batch g).map Message.sequence <+: q.undeleted g ∧
        (q.sent g)[m.sequence]? = some m.body

instance (q : Queue) (batch : List Message) (m : Message) : Decidable (q.Serves batch m) :=
  match h : m.messageGroupId with
  | none => .isFalse (by simp [Queue.Serves, h])
  | some g => decidable_of_iff (q.inFlight g = [] ∧
      (ofGroup batch g).map Message.sequence <+: q.undeleted g ∧
        (q.sent g)[m.sequence]? = some m.body) (by simp [Queue.Serves, h])

def Queue.Receivable (q : Queue) (batch : List Message) : Prop :=
  batch.length ≤ maxRecvMessages ∧ ∀ m ∈ batch, q.Serves batch m

instance (q : Queue) (batch : List Message) : Decidable (q.Receivable batch) :=
  inferInstanceAs (Decidable (_ ∧ _))

def Queue.receive (q : Queue) (batch : List Message) : Queue :=
  { q with inFlight := fun g => q.inFlight g ++ (ofGroup batch g).map Message.sequence }

/-! ## The consumer -/

/-- What a task is at: a message of its group to handle, or one to delete, and the messages that
come after it. -/
inductive ConsumerTask where
  | handle (group : GroupId) (message : Message) (rest : List Message)
  | delete (group : GroupId) (message : Message) (rest : List Message)
  deriving DecidableEq

/-- The loop over a group's messages. -/
def forEach (group : GroupId) : List Message → Option ConsumerTask
  | [] => none
  | m :: rest => some (.handle group m rest)

/-- How `delete_message` can end. -/
inductive DeleteReply where
  | done
  | failed (e : String)
  /-- Deleted, but the answer did not arrive. -/
  | lost (e : String)
  deriving DecidableEq

def DeleteReply.applied : DeleteReply → Bool
  | .done | .lost _ => true
  | .failed _ => false

structure ConsumerReplies extends HandlerReplies where
  delete : DeleteReply

/-- The database and the queue, and the messages that have been applied, by their place. -/
structure ConsumerShared where
  db : Database
  queue : Queue
  nextTask : Pid
  applied : GroupId → List Nat

namespace ConsumerShared

def record (s : ConsumerShared) (g : GroupId) (i : Nat) (h : Handled) : ConsumerShared :=
  { s with
    db := h.db
    applied := if h.committed then Function.update s.applied g (i :: s.applied g)
      else s.applied }

def setQueue (s : ConsumerShared) (q : Queue) : ConsumerShared := { s with queue := q }

end ConsumerShared

section Code

variable (lib : IndexerLib) (unwritten : Unwritten)

/-- The next action of a task. An error of `handle_sqs_message` is logged, whether the handler or
the deletion failed; a panic ends the task. -/
def nextConsumer (s : ConsumerShared) (r : ConsumerReplies) :
    ConsumerTask → ConsumerShared × Option ConsumerTask
  | .handle g m rest =>
      let handled := handleBody lib unwritten r.toHandlerReplies m.body s.db
      let s' := s.record g m.sequence handled
      match handled.result with
      | .ok () => (s', some (.delete g m rest))
      | .error (.error _) => (s', forEach g rest)
      | .error (.panic _) => (s', none)
  | .delete g m rest =>
      match m.receiptHandle with
      | none => (s, forEach g rest)
      | some _ =>
          (if r.delete.applied then s.setQueue (s.queue.delete g m.sequence) else s,
            forEach g rest)

abbrev ConsumerWorld := World ConsumerShared ConsumerTask

def spawnGroup (w : ConsumerWorld) (group : GroupId × List Message) : ConsumerWorld :=
  w.put w.shared.nextTask { w.shared with nextTask := w.shared.nextTask + 1 }
    (forEach group.1 group.2)

/-- What the loop of `run_sqs_consumer` does with a batch. -/
def consumeBatch (w : ConsumerWorld) (batch : List Message) : ConsumerWorld :=
  (Rows.collect Message.messageGroupId batch).foldl spawnGroup w

/-- What can happen: somebody sends a message; the consumer receives a batch; a visibility
timeout passes; a task goes on. A failed `receive_message` changes nothing. -/
inductive ConsumerEvent where
  | send (g : GroupId) (body : Option String)
  | receive (batch : List Message)
  | expire (g : GroupId)
  | advance (task : Pid) (replies : ConsumerReplies)

def ConsumerWorld.setQueue (w : ConsumerWorld) (q : Queue) : ConsumerWorld :=
  { w with shared := w.shared.setQueue q }

def consumerStep (w : ConsumerWorld) : ConsumerEvent → Option ConsumerWorld
  | .send g body => some (w.setQueue (w.shared.queue.send g body))
  | .receive batch =>
      if w.shared.queue.Receivable batch then
        some (consumeBatch (w.setQueue (w.shared.queue.receive batch)) batch)
      else none
  | .expire g => some (w.setQueue (w.shared.queue.expire g))
  | .advance task replies =>
      (w.ops task).map fun t =>
        w.put task (nextConsumer lib unwritten w.shared replies t).1
          (nextConsumer lib unwritten w.shared replies t).2

/-- An indexer that has just started, on a queue that nobody has sent to. -/
def startedConsumer (db : Database) : ConsumerWorld where
  shared := ⟨db, .empty, 0, fun _ => []⟩
  ops := fun _ => none

/-! ## Failures that stop their batch -/

/-- If a call for a message that was never applied is about to fail, no message of the group
comes after it in the batch. -/
def StopsBatch (s : ConsumerShared) (r : ConsumerReplies) : ConsumerTask → Prop
  | .handle g m rest => BodyFails lib unwritten r.toHandlerReplies s.db m.body →
      m.sequence ∈ s.applied g ∨ rest.isEmpty = true
  | .delete _ _ _ => True

instance (s : ConsumerShared) (r : ConsumerReplies) :
    DecidablePred (StopsBatch lib unwritten s r)
  | .handle _ _ _ => inferInstanceAs (Decidable (_ → _))
  | .delete _ _ _ => .isTrue trivial

def FailuresStop (w : ConsumerWorld) : ConsumerEvent → Prop
  | .advance task replies => ∀ t, w.ops task = some t → StopsBatch lib unwritten w.shared replies t
  | _ => True

instance (w : ConsumerWorld) : DecidablePred (FailuresStop lib unwritten w)
  | .advance task _ => Procs.decidableOp w task _
  | .send _ _ | .receive _ | .expire _ => .isTrue trivial

end Code

/-! ## Batches in order -/

/-- Handled one after the other, each message of the list finds all earlier ones of its group
applied. -/
def Ready (applied : List Nat) : List Message → Prop
  | [] => True
  | m :: rest => (∀ i, i < m.sequence → i ∈ applied) ∧ Ready (m.sequence :: applied) rest

theorem Ready.mono : ∀ {ms : List Message} {a b : List Nat}, (∀ i ∈ a, i ∈ b) → Ready a ms →
    Ready b ms
  | [], _, _, _, _ => trivial
  | m :: rest, a, b, hab, h => by
      refine ⟨fun i hi => hab i (h.1 i hi), h.2.mono fun i hi => ?_⟩
      rcases List.mem_cons.mp hi with rfl | hi
      · exact List.mem_cons_self
      · exact List.mem_cons_of_mem _ (hab i hi)

/-- The first messages of a list in which nothing is left out that is not applied. -/
theorem ready_of_prefix : ∀ {ms : List Message} {a l : List Nat},
    ms.map Message.sequence <+: l → l.Pairwise (· < ·) →
    (∀ i, ∀ j ∈ l, i < j → i ∈ a ∨ i ∈ l) → Ready a ms
  | [], _, _, _, _, _ => trivial
  | m :: rest, a, [], hpre, _, _ => by simp at hpre
  | m :: rest, a, j :: l, hpre, hsorted, hall => by
      rw [List.map_cons, List.cons_prefix_cons] at hpre
      obtain ⟨rfl, hpre⟩ := hpre
      obtain ⟨hfirst, hsorted⟩ := List.pairwise_cons.mp hsorted
      constructor
      · intro i hi
        rcases hall i _ List.mem_cons_self hi with ha | hl
        · exact ha
        · -- what is in the list is not smaller than its first element
          rcases List.mem_cons.mp hl with rfl | hl
          · exact absurd hi (Nat.lt_irrefl _)
          · exact absurd (hfirst i hl) (Nat.lt_asymm hi)
      · refine ready_of_prefix hpre hsorted fun i j hj hij => ?_
        rcases hall i j (List.mem_cons_of_mem _ hj) hij with ha | hl
        · exact .inl (List.mem_cons_of_mem _ ha)
        · rcases List.mem_cons.mp hl with rfl | hl
          · exact .inl List.mem_cons_self
          · exact .inr hl

theorem Queue.pairwise_undeleted (q : Queue) (g : GroupId) : (q.undeleted g).Pairwise (· < ·) :=
  List.Pairwise.filter _ List.pairwise_lt_range

theorem Queue.mem_undeleted_of_lt {q : Queue} {g : GroupId} {i j : Nat} (hj : j ∈ q.undeleted g)
    (hij : i < j) : i ∈ q.deleted g ∨ i ∈ q.undeleted g := by
  by_cases hi : i ∈ q.deleted g
  · exact .inl hi
  · right
    have hlen := List.mem_range.mp (List.mem_filter.mp hj).1
    exact List.mem_filter.mpr ⟨List.mem_range.mpr (Nat.lt_trans hij hlen), by simpa using hi⟩

/-! ## The invariant -/

/-- The messages that are applied are the first ones of their group, and a message is deleted only
after it and all earlier ones of its group have been applied. -/
structure InOrder (s : ConsumerShared) : Prop where
  applied : ∀ g, ∃ n, ∀ i, i ∈ s.applied g ↔ i < n
  deleted : ∀ g, ∀ j ∈ s.queue.deleted g, ∀ i ≤ j, i ∈ s.applied g

/-- The same, in the form a step can be checked against. -/
structure Ordered (s : ConsumerShared) : Prop where
  closed : ∀ g i j, i < j → j ∈ s.applied g → i ∈ s.applied g
  deleted : ∀ g, ∀ i ∈ s.queue.deleted g, i ∈ s.applied g

/-- A finite set of places that is closed downwards is an initial segment. -/
theorem exists_bound {l : List Nat} (h : ∀ i j, i < j → j ∈ l → i ∈ l) :
    ∃ n, ∀ i, i ∈ l ↔ i < n := by
  have hlower : IsLowerSet {i | i ∈ l} := by
    intro j i hij hj
    rcases Nat.lt_or_eq_of_le hij with hlt | rfl
    · exact h i j hlt hj
    · exact hj
  rcases hlower.eq_univ_or_Iio with huniv | ⟨n, hn⟩
  · exact absurd (huniv ▸ l.finite_toSet) Set.infinite_univ
  · exact ⟨n, fun i => Set.ext_iff.mp hn i⟩

variable {s : ConsumerShared}

theorem Ordered.inOrder (h : Ordered s) : InOrder s where
  applied g := exists_bound (h.closed g)
  deleted g j hj i hij := by
    have hja := h.deleted g j hj
    rcases Nat.lt_or_eq_of_le hij with hlt | rfl
    · exact h.closed g i j hlt hja
    · exact hja

/-- What a task knows: its next message finds everything before it applied, and so does every
later one provided those in between are applied by then. -/
def TaskReady (s : ConsumerShared) : ConsumerTask → Prop
  | .handle g m rest => Ready (s.applied g) (m :: rest)
  | .delete g m rest => m.sequence ∈ s.applied g ∧ Ready (s.applied g) rest

theorem taskReady_forEach {g : GroupId} {ms : List Message}
    (h : Ready (s.applied g) ms) : ∀ t, forEach g ms = some t → TaskReady s t := by
  intro t ht
  cases ms with
  | nil => cases ht
  | cons m rest =>
      cases ht
      exact h

theorem TaskReady.mono {s s' : ConsumerShared} (hs : ∀ g, ∀ i ∈ s.applied g, i ∈ s'.applied g)
    {t : ConsumerTask} (h : TaskReady s t) : TaskReady s' t := by
  cases t with
  | handle g m rest => exact Ready.mono (hs g) h
  | delete g m rest => exact ⟨hs g _ h.1, h.2.mono (hs g)⟩

/-- Nothing that was applied is forgotten. -/
theorem ConsumerShared.applied_record (s : ConsumerShared) (g : GroupId) (i : Nat) (h : Handled) :
    ∀ g', ∀ j ∈ s.applied g', j ∈ (s.record g i h).applied g' := by
  intro g' j hj
  unfold ConsumerShared.record
  dsimp only
  split
  · by_cases hg : g' = g
    · subst hg
      rw [Function.update_self]
      exact List.mem_cons_of_mem _ hj
    · rwa [Function.update_of_ne hg]
  · exact hj

theorem ConsumerShared.applied_record_committed (s : ConsumerShared) (g : GroupId) (i : Nat)
    {h : Handled} (hc : h.committed = true) : i ∈ (s.record g i h).applied g := by
  simp [ConsumerShared.record, hc]

theorem Ordered.record (hs : Ordered s) {g : GroupId} {i : Nat} (hi : ∀ j, j < i → j ∈ s.applied g)
    (h : Handled) : Ordered (s.record g i h) where
  closed g' j k hjk hk := by
    unfold ConsumerShared.record at hk ⊢
    dsimp only at hk ⊢
    split at hk
    · rename_i hc
      rw [if_pos hc]
      by_cases hg : g' = g
      · subst hg
        rw [Function.update_self] at hk ⊢
        refine List.mem_cons_of_mem _ ?_
        rcases List.mem_cons.mp hk with rfl | hk
        · exact hi j hjk
        · exact hs.closed g' j k hjk hk
      · rw [Function.update_of_ne hg] at hk ⊢
        exact hs.closed g' j k hjk hk
    · rename_i hc
      rw [if_neg hc]
      exact hs.closed g' j k hjk hk
  deleted g' j hj := s.applied_record g i h g' j (hs.deleted g' j hj)

theorem Ordered.delete (hs : Ordered s) {g : GroupId} {i : Nat}
    (hi : i ∈ s.applied g) : Ordered (s.setQueue (s.queue.delete g i)) where
  closed := hs.closed
  deleted g' j hj := by
    by_cases hg : g' = g
    · subst hg
      change j ∈ Function.update s.queue.deleted g' _ g' at hj
      rw [Function.update_self] at hj
      rcases List.mem_cons.mp hj with rfl | hj
      · exact hi
      · exact hs.deleted g' j hj
    · change j ∈ Function.update s.queue.deleted g _ g' at hj
      rw [Function.update_of_ne hg] at hj
      exact hs.deleted g' j hj

section Steps

variable {lib : IndexerLib} {unwritten : Unwritten} {w w' : ConsumerWorld}

abbrev ConsumerInv (w : ConsumerWorld) : Prop := Procs.Inv Ordered TaskReady w

/-- Sending and expiring do not touch what has been applied or deleted. -/
theorem ConsumerInv.queue (h : ConsumerInv w) {q : Queue}
    (hq : q.deleted = w.shared.queue.deleted) : ConsumerInv (w.setQueue q) := by
  refine ⟨⟨h.1.closed, fun g i hi => ?_⟩, fun p t ht => ?_⟩
  · exact h.1.deleted g i (hq ▸ hi)
  · exact (h.2 p t ht).mono fun _ _ hi => hi

theorem ConsumerInv.spawn (h : ConsumerInv w) {group : GroupId × List Message}
    (hready : Ready (w.shared.applied group.1) group.2) : ConsumerInv (spawnGroup w group) := by
  refine Procs.inv_put ⟨h.1.closed, h.1.deleted⟩ ?_ ?_
  · exact taskReady_forEach hready
  · exact fun q t _ ht => (h.2 q t ht).mono fun _ _ hi => hi

theorem ConsumerInv.spawns : ∀ {groups : List (GroupId × List Message)} {w : ConsumerWorld},
    ConsumerInv w → (∀ g ∈ groups, Ready (w.shared.applied g.1) g.2) →
    ConsumerInv (groups.foldl spawnGroup w)
  | [], _, h, _ => h
  | group :: groups, w, h, hready => by
      obtain ⟨hfirst, hrest⟩ := List.forall_mem_cons.mp hready
      rw [List.foldl_cons]
      exact ConsumerInv.spawns (h.spawn hfirst) hrest

/-- **A batch.** Of each group it holds the first messages that are not deleted, and what is
deleted is applied. -/
theorem ConsumerInv.receive (h : ConsumerInv w) {batch : List Message}
    (hb : w.shared.queue.Receivable batch) :
    ConsumerInv (consumeBatch (w.setQueue (w.shared.queue.receive batch)) batch) := by
  refine ConsumerInv.spawns (h.queue rfl) fun group hgroup => ?_
  rw [Rows.mem_collect hgroup]
  change Ready (w.shared.applied group.1) (ofGroup batch group.1)
  cases hms : ofGroup batch group.1 with
  | nil => trivial
  | cons m rest =>
      have hm : m ∈ ofGroup batch group.1 := hms ▸ List.mem_cons_self
      obtain ⟨hmb, hmg⟩ := List.mem_filter.mp hm
      have hserves := hb.2 m hmb
      rw [Queue.Serves, of_decide_eq_true hmg] at hserves
      rw [← hms]
      refine ready_of_prefix hserves.2.1 (Queue.pairwise_undeleted ..) fun i j hj hij => ?_
      exact (Queue.mem_undeleted_of_lt hj hij).imp_left (h.1.deleted group.1 i)

/-- **One action of a task**, under the condition on failures. -/
theorem ConsumerInv.next (h : ConsumerInv w) {p : Pid} {t : ConsumerTask} (hp : w.ops p = some t)
    {r : ConsumerReplies} (hstop : StopsBatch lib unwritten w.shared r t) :
    ConsumerInv (w.put p (nextConsumer lib unwritten w.shared r t).1
      (nextConsumer lib unwritten w.shared r t).2) := by
  have ht := h.2 p t hp
  cases t with
  | handle g m rest =>
      have hsound := sound_handleBody lib unwritten r.toHandlerReplies m.body w.shared.db
      rw [StopsBatch, ← handleBody_failed_iff] at hstop
      generalize hhandled : handleBody lib unwritten r.toHandlerReplies m.body w.shared.db =
        handled at hsound hstop
      have hgrow := w.shared.applied_record g m.sequence handled
      have hord : Ordered (w.shared.record g m.sequence handled) := h.1.record ht.1 handled
      have hothers : ∀ q u, q ≠ p → w.ops q = some u →
          TaskReady (w.shared.record g m.sequence handled) u :=
        fun q u _ hu => (h.2 q u hu).mono hgrow
      -- once this message is applied, the rest of the batch is ready
      have hrest : m.sequence ∈ (w.shared.record g m.sequence handled).applied g →
          Ready ((w.shared.record g m.sequence handled).applied g) rest := fun hm =>
        ht.2.mono fun i hi => by
          rcases List.mem_cons.mp hi with rfl | hi
          · exact hm
          · exact hgrow g i hi
      rcases hres : handled.result with (e | msg) | u
      · simp only [nextConsumer, hhandled, hres]
        refine Procs.inv_put hord (taskReady_forEach ?_) hothers
        cases hc : handled.committed with
        | true => exact hrest (w.shared.applied_record_committed g _ hc)
        | false =>
            rcases hstop (by simp [Handled.failed, hres, hc]) with happ | hlast
            · exact hrest (hgrow g _ happ)
            · rw [List.isEmpty_iff.mp hlast]
              trivial
      · simp only [nextConsumer, hhandled, hres]
        exact Procs.inv_put hord (by simp) hothers
      · simp only [nextConsumer, hhandled, hres]
        have hm := w.shared.applied_record_committed g m.sequence (hsound.committed_of_ok hres)
        refine Procs.inv_put hord ?_ hothers
        rintro t' ⟨⟩
        exact ⟨hm, hrest hm⟩
  | delete g m rest =>
      have hloop := taskReady_forEach ht.2
      cases hh : m.receiptHandle with
      | none =>
          simp only [nextConsumer, hh]
          exact Procs.inv_put h.1 hloop fun q u _ hu => h.2 q u hu
      | some handle =>
          simp only [nextConsumer, hh]
          split
          · refine Procs.inv_put (h.1.delete ht.1) ?_ fun q u _ hu => (h.2 q u hu).mono ?_
            · exact fun t' ht' => (hloop t' ht').mono fun _ _ hi => hi
            · exact fun _ _ hi => hi
          · exact Procs.inv_put h.1 hloop fun q u _ hu => h.2 q u hu

theorem ConsumerInv.step {e : ConsumerEvent} (h : ConsumerInv w)
    (hstop : FailuresStop lib unwritten w e) (hw : consumerStep lib unwritten w e = some w') :
    ConsumerInv w' := by
  cases e with
  | send g body | expire g =>
      cases hw
      exact h.queue rfl
  | receive batch =>
      obtain ⟨hb, hw⟩ := Option.ite_none_right_eq_some.mp hw
      cases hw
      exact h.receive hb
  | advance task replies =>
      obtain ⟨t, ht, rfl⟩ := Option.map_eq_some_iff.mp hw
      exact h.next ht (hstop t ht)

end Steps

theorem consumerInv_started (db : Database) : ConsumerInv (startedConsumer db) := by
  refine ⟨⟨?_, ?_⟩, ?_⟩ <;> simp [startedConsumer, Queue.empty]

/-- **Messages are applied in their group's order**, in every run of senders, batches, timeouts
and tasks in which a handler that fails on a message not yet applied has the last message of its
group's batch. -/
theorem applied_in_order (lib : IndexerLib) (unwritten : Unwritten) (db : Database)
    (es : List ConsumerEvent) (w : ConsumerWorld)
    (hm : Runs.Meets (consumerStep lib unwritten) (FailuresStop lib unwritten)
      (startedConsumer db) es)
    (hr : Runs.run (consumerStep lib unwritten) (startedConsumer db) es = some w) :
    InOrder w.shared :=
  (Runs.run_invariant (fun _ _ _ h hs hw => ConsumerInv.step h hs hw) es (consumerInv_started db)
    hm hr).1.inOrder

/-! ## One failure, two messages -/

/-- Bodies that register account 1 and account 2. -/
def sampleIndexerLib : IndexerLib where
  parse body :=
    if body = "one" then .ok (.registerMasterViewSeed ⟨1, 0, 1⟩)
    else if body = "two" then .ok (.registerMasterViewSeed ⟨2, 0, 2⟩)
    else .error "expected value"
  getIth seed i := seed + i
  recoverySeedCsprng := id
  shareSeedCsprng := id
  poseidonHash xs := xs.foldl (· + ·) 0
  formatHash _ := "0x0"

def emptyDatabase : Database := ⟨[], [], [], []⟩

def sampleMessage (sequence : Nat) (body : String) : Message :=
  ⟨some "g", sequence, some body, some "handle"⟩

def healthy : ConsumerReplies := ⟨⟨none, fun _ => none, .done, .ok none⟩, .done⟩

def noConnection : ConsumerReplies := ⟨⟨some "timed out", fun _ => none, .done, .ok none⟩, .done⟩

abbrev sampleRun : List ConsumerEvent → Option ConsumerWorld :=
  Runs.run (consumerStep sampleIndexerLib todoParts) (startedConsumer emptyDatabase)

/-- The first message fails alone in its batch; after the timeout both are received together. -/
def failedAlone : List ConsumerEvent :=
  [.send "g" (some "one"), .receive [sampleMessage 0 "one"], .send "g" (some "two"),
    .advance 0 noConnection, .expire "g",
    .receive [sampleMessage 0 "one", sampleMessage 1 "two"]] ++
    List.replicate 4 (.advance 1 healthy)

theorem applied_in_order_failedAlone :
    ∃ w, sampleRun failedAlone = some w ∧ InOrder w.shared ∧
      w.shared.queue.deleted "g" = [1, 0] := by
  obtain ⟨w, hw, hdel⟩ := Option.map_eq_some_iff.mp
    (show (sampleRun failedAlone).map (fun w => w.shared.queue.deleted "g") = some [1, 0] by
      decide +kernel)
  exact ⟨w, hw, applied_in_order _ _ _ _ _ (by decide +kernel) hw, hdel⟩

/-- Both messages are received in one batch; the first one fails for want of a connection. -/
def failedTogether : List ConsumerEvent :=
  [.send "g" (some "one"), .send "g" (some "two"),
    .receive [sampleMessage 0 "one", sampleMessage 1 "two"],
    .advance 0 noConnection, .advance 0 healthy, .advance 0 healthy]

/-- The second message has been applied and deleted, and the first has not been applied. -/
theorem failed_message_overtaken :
    ∃ w, sampleRun failedTogether = some w ∧ w.shared.applied "g" = [1] ∧
      w.shared.queue.deleted "g" = [1] ∧
      w.shared.db.masterViewSeeds.map MasterViewSeed.accountId = [2] := by
  obtain ⟨w, hw, hproj⟩ := Option.map_eq_some_iff.mp
    (show (sampleRun failedTogether).map (fun w =>
        (w.shared.applied "g", w.shared.queue.deleted "g",
          w.shared.db.masterViewSeeds.map MasterViewSeed.accountId)) = some ([1], [1], [2]) by
      decide +kernel)
  simp only [Prod.mk.injEq] at hproj
  exact ⟨w, hw, hproj⟩

end RelayerExtensions.Indexer
