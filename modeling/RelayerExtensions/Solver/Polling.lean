import Mathlib.Data.List.Perm.Subperm
import RelayerExtensions.Lib.Lru

/-!
# Polling for orders

The solver asks the UniswapX API for open orders once a second and spawns a task to solve each
(`renegade-solver/src/uniswapx/mod.rs`, `uniswap_api/methods.rs`). An open order is listed again
and again while its auction runs, so the solver keeps the hashes of the orders it has handed over
in a cache of 100 entries that forgets the least recently used one. The orders of a response are
checked against the cache before any of them is put there: `fetch_open_orders` filters the whole
response, then `poll_orders` marks and spawns order after order. Looking a hash up does not make it
more recent.

So what a poll hands over can be read off the log of the tasks spawned before it
(`spawned_by_poll`): the orders of the response that are not among the last 100 different ones of
that log. With up to 100 open orders nothing is solved twice. With more, the cache does not hold
them all, and polling for the same orders again solves the first of them again (`poll_twice`).
-/

namespace RelayerExtensions.Solver

def orderCacheSize : Nat := 100

/-- The fields that polling and solving read. -/
structure OrderEntity where
  orderHash : String
  encodedOrder : String
deriving DecidableEq

/-- What becomes of a request to the orders endpoint. -/
inductive OrdersReply where
  | unreachable (message : String)
  | status (code : Nat)
  | unreadable (message : String)
  | malformed (message : String)
  | orders (orders : List OrderEntity)
deriving DecidableEq

inductive PollError where
  | http (message : String)
  | serialization (message : String)
deriving DecidableEq

/-- The crate of the cache. -/
abbrev LruLib := Lru.Lib String orderCacheSize

/-- The polling loop's part of the solver: its cache, and the tasks spawned so far. -/
structure Poller (lib : LruLib) where
  orderCache : lib.Cache
  spawned : List OrderEntity

variable {lib : LruLib}

namespace Poller

def new : Poller lib := ⟨lib.empty, []⟩

def isOrderProcessed (p : Poller lib) (order : OrderEntity) : Bool :=
  lib.contains p.orderCache order.orderHash

def markOrderProcessed (p : Poller lib) (order : OrderEntity) : Poller lib :=
  { p with orderCache := lib.put p.orderCache order.orderHash }

def fetchOpenOrders (p : Poller lib) : OrdersReply → Except PollError (List OrderEntity)
  | .unreachable message => .error (.http message)
  -- an answer with an error status counts as no orders
  | .status _ => .ok []
  | .unreadable message => .error (.http message)
  | .malformed message => .error (.serialization message)
  | .orders orders => .ok (orders.filter fun order => !p.isOrderProcessed order)

/-- `tokio::spawn(solve_order(order))` -/
def spawn (p : Poller lib) (order : OrderEntity) : Poller lib :=
  { p with spawned := p.spawned ++ [order] }

def handOver (p : Poller lib) (order : OrderEntity) : Poller lib :=
  (p.markOrderProcessed order).spawn order

def pollOrders (p : Poller lib) (reply : OrdersReply) : Except PollError (Poller lib) := do
  let orders ← p.fetchOpenOrders reply
  return orders.foldl handOver p

/-- One turn of `polling_loop`: an error is logged, and the loop goes on. -/
def turn (p : Poller lib) (reply : OrdersReply) : Poller lib :=
  match p.pollOrders reply with
  | .ok p' => p'
  | .error _ => p

end Poller

/-- The loop after the replies to so many polls. -/
def pollingLoop (lib : LruLib) (replies : List OrdersReply) : Poller lib :=
  replies.foldl Poller.turn .new

theorem pollingLoop_concat (replies : List OrdersReply) (reply : OrdersReply) :
    pollingLoop lib (replies ++ [reply]) = (pollingLoop lib replies).turn reply := by
  rw [pollingLoop, List.foldl_append]
  rfl

/-! ## The cache against the log -/

/-- The hashes of the tasks spawned so far, the oldest first. -/
def Poller.log (p : Poller lib) : List String := p.spawned.map (·.orderHash)

theorem foldl_handOver (p : Poller lib) (orders : List OrderEntity) :
    orders.foldl Poller.handOver p =
      ⟨(orders.map (·.orderHash)).foldl lib.put p.orderCache, p.spawned ++ orders⟩ := by
  induction orders generalizing p with
  | nil => exact congrArg (Poller.mk p.orderCache) (List.append_nil p.spawned).symm
  | cons order orders ih =>
      rw [List.foldl_cons, ih]
      change (⟨_, p.spawned ++ [order] ++ orders⟩ : Poller lib) = _
      rw [List.append_assoc]
      rfl

/-- What a turn can do: nothing, or hand over what is new of a list of orders. -/
theorem turn_cases (p : Poller lib) (reply : OrdersReply) :
    ((∀ orders, reply ≠ .orders orders) ∧ p.turn reply = p) ∨
      ∃ orders, reply = .orders orders ∧
        p.turn reply = (orders.filter fun order => !p.isOrderProcessed order).foldl
          Poller.handOver p := by
  cases reply with
  | unreachable message | status code | unreadable message | malformed message =>
      exact .inl ⟨fun _ h => OrdersReply.noConfusion h, rfl⟩
  | orders orders => exact .inr ⟨orders, rfl, rfl⟩

/-- **The cache is what the log leaves in it.** -/
theorem orderCache_eq (replies : List OrdersReply) :
    (pollingLoop lib replies).orderCache =
      (pollingLoop lib replies).log.foldl lib.put lib.empty := by
  induction replies using List.reverseRecOn with
  | nil => rfl
  | append_singleton replies reply ih =>
      rw [pollingLoop_concat]
      rcases turn_cases (pollingLoop lib replies) reply with ⟨-, heq⟩ | ⟨orders, -, heq⟩
      · rw [heq]
        exact ih
      · rw [heq, foldl_handOver, Poller.log, List.map_append, List.foldl_append]
        exact congrArg (List.foldl lib.put · _) ih

theorem isOrderProcessed_iff {replies : List OrdersReply} {order : OrderEntity} :
    (pollingLoop lib replies).isOrderProcessed order = true ↔
      Lru.Within orderCacheSize (pollingLoop lib replies).log order.orderHash := by
  rw [Poller.isOrderProcessed, orderCache_eq, lib.contains_iff]

/-- **What a poll hands over**: the orders of the response that are not among the last 100
different ones handed over before it. -/
theorem spawned_by_poll (lib : LruLib) (replies : List OrdersReply) (orders : List OrderEntity) :
    (pollingLoop lib (replies ++ [.orders orders])).spawned =
      (pollingLoop lib replies).spawned ++
        orders.filter fun order =>
          ¬ Lru.Within orderCacheSize (pollingLoop lib replies).log order.orderHash := by
  rw [pollingLoop_concat]
  change (List.foldl Poller.handOver _ _).spawned = _
  rw [foldl_handOver]
  refine congrArg ((pollingLoop lib replies).spawned ++ ·) (List.filter_congr fun order _ => ?_)
  rw [Bool.eq_iff_iff, Bool.not_eq_true', ← Bool.not_eq_true, isOrderProcessed_iff,
    decide_eq_true_iff]

/-! ## Few orders, and many -/

/-- The log after one more response. -/
theorem log_of_poll (replies : List OrdersReply) (orders : List OrderEntity) :
    (pollingLoop lib (replies ++ [.orders orders])).log =
      (pollingLoop lib replies).log ++ (orders.map (·.orderHash)).filter fun hash =>
        ¬ Lru.Within orderCacheSize (pollingLoop lib replies).log hash := by
  rw [Poller.log, spawned_by_poll, List.map_append, List.filter_map]
  rfl

/-- **With up to 100 different orders, each is solved once.** No response may list an order
twice: the whole response is checked before any of its orders is marked. -/
theorem solved_once (replies : List OrdersReply) (hashes : List String)
    (hfew : hashes.length ≤ orderCacheSize) (hlisted : ∀ orders, .orders orders ∈ replies →
      (orders.map (·.orderHash)).Nodup ∧ ∀ order ∈ orders, order.orderHash ∈ hashes) :
    (pollingLoop lib replies).log.Nodup ∧
      ∀ hash, hash ∈ (pollingLoop lib replies).log ↔
        ∃ orders, .orders orders ∈ replies ∧ hash ∈ orders.map (·.orderHash) := by
  induction replies using List.reverseRecOn with
  | nil =>
      refine ⟨List.nodup_nil, fun hash => iff_of_false List.not_mem_nil ?_⟩
      rintro ⟨orders, hmem, -⟩
      exact List.not_mem_nil hmem
  | append_singleton replies reply ih =>
      obtain ⟨hnodup, hlog⟩ := ih fun orders hmem => hlisted orders (List.mem_append_left _ hmem)
      -- what is in the log is still in the cache, since it all fits
      have hwithin : ∀ hash, Lru.Within orderCacheSize (pollingLoop lib replies).log hash ↔
          hash ∈ (pollingLoop lib replies).log := by
        intro hash
        constructor
        · rintro ⟨before, after, heq, -⟩
          rw [heq]
          exact List.mem_append_right _ List.mem_cons_self
        · intro hmem
          refine Lru.within_of_mem hmem (Nat.le_trans ?_ hfew)
          refine (List.subperm_of_subset (List.nodup_dedup _) fun h hh => ?_).length_le
          obtain ⟨orders, horders, hin⟩ := (hlog h).mp (List.mem_dedup.mp hh)
          obtain ⟨order, horder, rfl⟩ := List.mem_map.mp hin
          exact (hlisted orders (List.mem_append_left _ horders)).2 order horder
      rcases turn_cases (pollingLoop lib replies) reply with ⟨hno, heq⟩ | ⟨orders, rfl, -⟩
      · have hmem : ∀ orders, .orders orders ∈ replies ++ [reply] ↔ .orders orders ∈ replies := by
          intro orders
          rw [List.mem_append, List.mem_singleton]
          exact or_iff_left fun h => hno orders h.symm
        rw [pollingLoop_concat, heq]
        refine ⟨hnodup, fun hash => ?_⟩
        rw [hlog]
        exact exists_congr fun orders => and_congr_left' (hmem orders).symm
      · have hnew := hlisted orders (List.mem_append_right _ List.mem_cons_self)
        rw [log_of_poll]
        constructor
        · refine List.nodup_append'.mpr ⟨hnodup, hnew.1.filter _, ?_⟩
          intro hash hold hfil
          have hnot := (List.mem_filter.mp hfil).2
          rw [decide_eq_true_iff, hwithin] at hnot
          exact hnot hold
        · intro hash
          rw [List.mem_append, List.mem_filter, decide_eq_true_iff, hwithin]
          constructor
          · rintro (hold | ⟨hin, -⟩)
            · obtain ⟨orders', hmem, hin⟩ := (hlog hash).mp hold
              exact ⟨orders', List.mem_append_left _ hmem, hin⟩
            · exact ⟨orders, List.mem_append_right _ List.mem_cons_self, hin⟩
          · rintro ⟨orders', hmem, hin⟩
            rcases List.mem_append.mp hmem with hmem | hmem
            · exact .inl ((hlog hash).mpr ⟨orders', hmem, hin⟩)
            · cases List.mem_singleton.mp hmem
              by_cases hold : hash ∈ (pollingLoop lib replies).log
              · exact .inl hold
              · exact .inr ⟨hin, hold⟩

/-- One order, listed by two responses with a failed request between them. -/
theorem solved_once_between_failures :
    ["0x1"].length ≤ orderCacheSize ∧
      (pollingLoop .keyList
        [.orders [⟨"0x1", ""⟩], .status 500, .orders [⟨"0x1", ""⟩]]).log.Nodup := by
  refine ⟨by decide, (solved_once _ ["0x1"] (by decide) fun orders hmem => ?_).1⟩
  simp only [List.mem_cons, OrdersReply.orders.injEq, List.not_mem_nil, or_false] at hmem
  rcases hmem with rfl | hmem | rfl
  · exact ⟨by decide, by decide⟩
  · cases hmem
  · exact ⟨by decide, by decide⟩

/-- An order is in the cache after its response exactly if fewer than 100 orders follow it. -/
theorem within_iff_of_nodup {before after : List String} {hash : String}
    (h : (before ++ hash :: after).Nodup) :
    Lru.Within orderCacheSize (before ++ hash :: after) hash ↔ after.length < orderCacheSize := by
  obtain ⟨hnot, hafter⟩ := List.nodup_cons.mp (List.nodup_append'.mp h).2.1
  rw [Lru.within_iff_of_last hnot, List.dedup_eq_self.mpr hafter]

/-- A filter that takes exactly the first so many elements. -/
theorem filter_eq_take {P : OrderEntity → Bool} {orders : List OrderEntity} (n : Nat)
    (hfront : ∀ order ∈ orders.take n, P order = true)
    (hback : ∀ order ∈ orders.drop n, P order = false) : orders.filter P = orders.take n := by
  have hnone : (orders.drop n).filter P = [] := by
    rw [List.filter_eq_nil_iff]
    intro order horder
    rw [hback order horder]
    exact Bool.false_ne_true
  calc orders.filter P = (orders.take n ++ orders.drop n).filter P := by
        rw [List.take_append_drop]
    _ = orders.take n := by
        rw [List.filter_append, List.filter_eq_self.mpr hfront, hnone, List.append_nil]

/-- **The same orders twice.** A first response that lists each order once is handed over as a
whole. Of the same response again, all but the last 100 orders are handed over again. -/
theorem poll_twice (orders : List OrderEntity) (hdistinct : (orders.map (·.orderHash)).Nodup) :
    (pollingLoop lib [.orders orders]).spawned = orders ∧
      (pollingLoop lib [.orders orders, .orders orders]).spawned =
        orders ++ orders.take (orders.length - orderCacheSize) := by
  have hfirst : (pollingLoop lib [.orders orders]).spawned = orders := by
    have hpoll := spawned_by_poll lib [] orders
    rw [List.nil_append] at hpoll
    rw [hpoll]
    change orders.filter _ = orders
    rw [List.filter_eq_self]
    intro order _
    rw [decide_eq_true_iff]
    rintro ⟨before, after, heq, -⟩
    cases before <;> cases heq
  refine ⟨hfirst, ?_⟩
  have hpoll := spawned_by_poll lib [.orders orders] orders
  rw [List.singleton_append, hfirst, Poller.log, hfirst] at hpoll
  rw [hpoll]
  congr 1
  -- an order of the first part has 100 others behind it, one of the last 100 has not
  have hcut : orders = orders.take (orders.length - orderCacheSize) ++
      orders.drop (orders.length - orderCacheSize) := (List.take_append_drop _ _).symm
  have hat : ∀ before after order, orders = before ++ order :: after →
      (Lru.Within orderCacheSize (orders.map (·.orderHash)) order.orderHash ↔
        after.length < orderCacheSize) := by
    intro before after order heq
    rw [heq, List.map_append, List.map_cons] at hdistinct ⊢
    rw [within_iff_of_nodup hdistinct, List.length_map]
  have hfront : ∀ order ∈ orders.take (orders.length - orderCacheSize),
      ¬ Lru.Within orderCacheSize (orders.map (·.orderHash)) order.orderHash := by
    intro order horder
    obtain ⟨before, after, htake⟩ := List.append_of_mem horder
    have hlen := congrArg List.length htake
    rw [hat before (after ++ orders.drop (orders.length - orderCacheSize)) order
      (by rw [← List.cons_append, ← List.append_assoc, ← htake, ← hcut])]
    simp only [List.length_append, List.length_cons, List.length_take, List.length_drop] at hlen ⊢
    omega
  have hback : ∀ order ∈ orders.drop (orders.length - orderCacheSize),
      Lru.Within orderCacheSize (orders.map (·.orderHash)) order.orderHash := by
    intro order horder
    obtain ⟨before, after, hdrop⟩ := List.append_of_mem horder
    have hlen := congrArg List.length hdrop
    rw [hat (orders.take (orders.length - orderCacheSize) ++ before) after order
      (by rw [List.append_assoc, ← hdrop, ← hcut])]
    simp only [List.length_append, List.length_cons, List.length_drop] at hlen
    omega
  refine filter_eq_take _ (fun order horder => ?_) fun order horder => ?_
  · exact decide_eq_true (hfront order horder)
  · exact decide_eq_false (not_not_intro (hback order horder))

def manyOrders : List OrderEntity :=
  (List.range 101).map fun i => ⟨String.ofList (List.replicate i 'x'), ""⟩

theorem manyOrders_nodup : (manyOrders.map (·.orderHash)).Nodup := by
  rw [manyOrders, List.map_map]
  refine List.nodup_range.map fun i j hij => ?_
  have hlist : List.replicate i 'x' = List.replicate j 'x' := String.ofList_injective hij
  simpa using congrArg List.length hlist

theorem poll_twice_many :
    (manyOrders.map (·.orderHash)).Nodup ∧
      (pollingLoop .keyList [.orders manyOrders, .orders manyOrders]).spawned.length = 102 := by
  refine ⟨manyOrders_nodup, ?_⟩
  have hlength : manyOrders.length = 101 := by rw [manyOrders, List.length_map, List.length_range]
  rw [(poll_twice manyOrders manyOrders_nodup).2, List.length_append, List.length_take, hlength]
  decide

end RelayerExtensions.Solver
