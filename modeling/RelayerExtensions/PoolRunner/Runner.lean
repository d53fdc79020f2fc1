import Mathlib.Logic.Function.Basic

/-!
# The pool runner: one order through one managed pool

The runner moves a user order from the relayer's global matching pool into a managed pool,
waits for a fill there, and moves the order back. Everything it does to the relayer is one
admin call, `admin_assign_order_to_pool`. A call goes over the network: it can be refused, and
it can also take effect with its answer lost, so that the runner sees a failure of a call that
was carried out (`AdminReply`).

Fills are announced on the admin websocket. The attempt waits on a oneshot channel whose sender
is kept in the `FillWaiterRegistry` under the order's id. A channel knows only whether it is
still open, has its message, has lost its sender or has lost its receiver.

The runner finds orders by listing the global pool, so an order that is left behind in a managed
pool is an order it never looks at again. `executePoolMatch_returns_order_iff` says exactly
under which behaviour of the relayer that does not happen.
-/

namespace RelayerExtensions.PoolRunner

/-- An order's `Uuid`. -/
abbrev OrderId := Nat

/-- A token's address. -/
abbrev TokenAddress := BitVec 160

/-- What the runner takes from the relayer's libraries. -/
structure RunnerLib where
  globalMatchingPool : String
  usdc : TokenAddress
  getTicker : TokenAddress → Option String
  convertToDecimal : TokenAddress → Nat → Float

/-- The fields of an order the runner reads. -/
structure ApiAdminOrder where
  id : OrderId
  inToken : TokenAddress
  outToken : TokenAddress
  matchableAmount : Nat
  matchingPool : String

structure ManagedPool where
  name : String
  baseTickers : List String
  minValueUsd : Float
  maxValueUsd : Option Float

/-! ## Which pool -/

def selectManagedPool (pools : List ManagedPool) (baseTicker : String) (valueUsd : Float) :
    Option ManagedPool :=
  pools.find? fun p =>
    p.baseTickers.contains baseTicker && decide (p.minValueUsd ≤ valueUsd) &&
      match p.maxValueUsd with
      | none => true
      | some max => decide (valueUsd ≤ max)

/-- The ticker of the token that is not USDC, if exactly one of the two is not. -/
def extractBaseTicker (lib : RunnerLib) (order : ApiAdminOrder) : Option String :=
  if order.inToken = lib.usdc ∧ order.outToken ≠ lib.usdc then lib.getTicker order.outToken
  else if order.inToken ≠ lib.usdc ∧ order.outToken = lib.usdc then lib.getTicker order.inToken
  else none

def hasManagedPoolForTicker (pools : List ManagedPool) (baseTicker : String) : Bool :=
  pools.any fun p => p.baseTickers.contains baseTicker

/-- `price` is what the price reporter answers; it is asked only if USDC is not what is sold. -/
def computeOrderValueUsd (lib : RunnerLib) (order : ApiAdminOrder) (baseTicker : String)
    (price : Except String Float) : Except String Float :=
  if order.matchableAmount = 0 then .error s!"Order {order.id} has zero matchable amount"
  else if order.inToken = lib.usdc then
    .ok (lib.convertToDecimal lib.usdc order.matchableAmount)
  else
    match price with
    | .error e => .error s!"Failed to get price for {baseTicker}: {e}"
    | .ok basePrice => .ok (lib.convertToDecimal order.inToken order.matchableAmount * basePrice)

/-- The part of `try_route_user_order` before the order is touched: the pool to route it to,
nothing for the orders that are skipped silently. -/
def choosePool (lib : RunnerLib) (pools : List ManagedPool) (order : ApiAdminOrder)
    (price : Except String Float) : Except String (Option ManagedPool) :=
  match extractBaseTicker lib order with
  | none => .ok none
  | some baseTicker =>
      if hasManagedPoolForTicker pools baseTicker then
        (computeOrderValueUsd lib order baseTicker price).map
          (selectManagedPool pools baseTicker)
      else .ok none

/-! ## The relayer -/

/-- What the runner can see and change of the relayer: its open orders, and the matching pool
each of them is in. -/
structure Relayer where
  openOrders : List OrderId
  matchingPool : OrderId → String

/-- What a rescan gets to see. -/
def Relayer.openOrdersInMatchingPool (r : Relayer) (pool : String) : List OrderId :=
  r.openOrders.filter fun o => r.matchingPool o = pool

/-- How an admin call can end: it was carried out; it failed and was not; it failed, but only
after the relayer had carried it out. -/
inductive AdminReply where
  | done
  | refused (e : String)
  | lost (e : String)
  deriving DecidableEq

/-- Whether the call took effect. -/
def AdminReply.applied : AdminReply → Bool
  | .done | .lost _ => true
  | .refused _ => false

@[simp] theorem AdminReply.applied_done : AdminReply.done.applied = true := rfl
@[simp] theorem AdminReply.applied_refused (e : String) : (AdminReply.refused e).applied = false :=
  rfl
@[simp] theorem AdminReply.applied_lost (e : String) : (AdminReply.lost e).applied = true := rfl

/-- What the caller is told. -/
def AdminReply.result : AdminReply → Except String Unit
  | .done => .ok ()
  | .refused e | .lost e => .error e

def Relayer.adminAssignOrderToPool (r : Relayer) (reply : AdminReply) (order : OrderId)
    (pool : String) : Relayer :=
  if reply.applied then { r with matchingPool := Function.update r.matchingPool order pool }
  else r

@[simp] theorem Relayer.openOrders_assign (r : Relayer) (reply : AdminReply) (order : OrderId)
    (pool : String) : (r.adminAssignOrderToPool reply order pool).openOrders = r.openOrders := by
  cases reply <;> rfl

theorem Relayer.matchingPool_assign (r : Relayer) (reply : AdminReply) (order : OrderId)
    (pool : String) : (r.adminAssignOrderToPool reply order pool).matchingPool order =
      if reply.applied then pool else r.matchingPool order := by
  cases reply <;> simp [Relayer.adminAssignOrderToPool]

/-! ## Fill waiters -/

/-- A oneshot channel, seen from its receiver: nothing yet, the message, the sender was dropped
without sending; or the receiver itself is gone. -/
inductive Channel where
  | waiting
  | delivered
  | closed
  | abandoned
  deriving DecidableEq

def Channel.send : Channel → Channel
  | .waiting => .delivered
  | c => c

def Channel.dropSender : Channel → Channel
  | .waiting => .closed
  | c => c

def Channel.dropReceiver (_ : Channel) : Channel := .abandoned

/-- The map from order ids to senders. Channels are numbered in the order they are made; a
sender is the number of its channel. -/
structure FillWaiterRegistry where
  waiters : OrderId → Option Nat
  channels : Nat → Channel
  made : Nat

namespace FillWaiterRegistry

def new : FillWaiterRegistry := ⟨fun _ => none, fun _ => .waiting, 0⟩

/-- Takes the sender kept for the order out of the map and does something with it. -/
def take (r : FillWaiterRegistry) (order : OrderId) (f : Channel → Channel) : FillWaiterRegistry :=
  match r.waiters order with
  | none => r
  | some c => ⟨Function.update r.waiters order none,
      Function.update r.channels c (f (r.channels c)), r.made⟩

/-- Inserting the new sender drops the one that was there before. -/
def register (r : FillWaiterRegistry) (order : OrderId) : FillWaiterRegistry × Nat :=
  let old := r.take order Channel.dropSender
  (⟨Function.update old.waiters order (some r.made),
    Function.update old.channels r.made .waiting, r.made + 1⟩, r.made)

def notify (r : FillWaiterRegistry) (order : OrderId) : FillWaiterRegistry × Bool :=
  (r.take order Channel.send, (r.waiters order).isSome)

def remove (r : FillWaiterRegistry) (order : OrderId) : FillWaiterRegistry :=
  r.take order Channel.dropSender

/-- The receiver of a channel goes out of scope. -/
def dropReceiver (r : FillWaiterRegistry) (c : Nat) : FillWaiterRegistry :=
  { r with channels := Function.update r.channels c (r.channels c).dropReceiver }

@[simp] theorem made_take (r : FillWaiterRegistry) (order : OrderId) (f : Channel → Channel) :
    (r.take order f).made = r.made := by
  unfold take
  split <;> rfl

@[simp] theorem waiters_take_self (r : FillWaiterRegistry) (order : OrderId)
    (f : Channel → Channel) : (r.take order f).waiters order = none := by
  unfold take
  split
  · assumption
  · exact Function.update_self ..

theorem waiters_take_of_ne (r : FillWaiterRegistry) {order other : OrderId} (h : other ≠ order)
    (f : Channel → Channel) : (r.take order f).waiters other = r.waiters other := by
  unfold take
  split
  · rfl
  · exact Function.update_of_ne h ..

/-- Only the channel whose sender is taken can change. -/
theorem channels_take_of_ne (r : FillWaiterRegistry) {order : OrderId} {c : Nat}
    (h : r.waiters order ≠ some c) (f : Channel → Channel) :
    (r.take order f).channels c = r.channels c := by
  unfold take
  split
  · rfl
  · rename_i c' hc'
    have hcc : c ≠ c' := fun hcc => h (hc'.trans (congrArg some hcc.symm))
    exact Function.update_of_ne hcc ..

theorem channels_take_self (r : FillWaiterRegistry) {order : OrderId} {c : Nat}
    (h : r.waiters order = some c) (f : Channel → Channel) :
    (r.take order f).channels c = f (r.channels c) := by
  simp [take, h]

theorem waiters_register (r : FillWaiterRegistry) (order : OrderId) :
    (r.register order).1.waiters order = some (r.register order).2 := Function.update_self ..

theorem channels_register (r : FillWaiterRegistry) (order : OrderId) :
    (r.register order).1.channels (r.register order).2 = .waiting := Function.update_self ..

end FillWaiterRegistry

/-! ## One attempt -/

/-- How the wait for a fill ends. -/
inductive FillOutcome where
  | filled
  | closed
  | timedOut
  deriving DecidableEq

/-- `FILL_TIMEOUT`, in seconds. -/
def fillTimeoutSecs : Nat := 30

def timeoutError (pool : String) : String :=
  s!"Fill timeout after {fillTimeoutSecs}s in pool {pool}"

/-- What the attempt returns once the wait has ended. -/
def FillOutcome.result (pool : String) : FillOutcome → Except String Unit
  | .filled => .ok ()
  | .closed => .error "Fill waiter channel closed unexpectedly"
  | .timedOut => .error (timeoutError pool)

/-- What the environment does to the registry for the wait to end so: the listener notifies, or
another caller drops the sender, or the deadline passes and the receiver is dropped. -/
def FillOutcome.onRegistry (order : OrderId) (c : Nat) (r : FillWaiterRegistry) :
    FillOutcome → FillWaiterRegistry
  | .filled => (r.notify order).1
  | .closed => r.remove order
  | .timedOut => r.dropReceiver c

/-- What an attempt meets: the answers to its two admin calls and the end of its wait. -/
structure MatchReplies where
  assign : AdminReply
  fill : FillOutcome
  reassign : AdminReply

/-- The runner's state, with the relayer it works on. -/
structure ServerState where
  relayer : Relayer
  fillWaiters : FillWaiterRegistry

def executePoolMatch (lib : RunnerLib) (replies : MatchReplies) (order : OrderId)
    (pool : String) (s : ServerState) : ServerState × Except String Unit :=
  let (registered, c) := s.fillWaiters.register order
  let relayer := s.relayer.adminAssignOrderToPool replies.assign order pool
  match replies.assign.result with
  | .error e => (⟨relayer, registered.remove order⟩, .error s!"Failed to assign order to pool: {e}")
  | .ok () =>
      let waited := replies.fill.onRegistry order c registered
      -- a failure of the way back is logged, not returned
      let relayer := relayer.adminAssignOrderToPool replies.reassign order lib.globalMatchingPool
      (⟨relayer, waited.remove order⟩, replies.fill.result pool)

/-- **The pool an attempt leaves the order in**, on all four of its exits. -/
theorem matchingPool_executePoolMatch (lib : RunnerLib) (replies : MatchReplies) (order : OrderId)
    (pool : String) (s : ServerState) :
    (executePoolMatch lib replies order pool s).1.relayer.matchingPool order =
      match replies.assign with
      | .refused _ => s.relayer.matchingPool order
      | .lost _ => pool
      | .done => if replies.reassign.applied then lib.globalMatchingPool else pool := by
  cases ha : replies.assign <;>
    simp [executePoolMatch, ha, AdminReply.result, Relayer.matchingPool_assign]

@[simp] theorem openOrders_executePoolMatch (lib : RunnerLib) (replies : MatchReplies)
    (order : OrderId) (pool : String) (s : ServerState) :
    (executePoolMatch lib replies order pool s).1.relayer.openOrders = s.relayer.openOrders := by
  cases ha : replies.assign <;> simp [executePoolMatch, ha, AdminReply.result]

/-- The behaviours of the relayer under which the order comes back: the first assignment did
nothing, or it succeeded and the second one took effect (whether or not its answer arrived). -/
def MatchReplies.Returning (replies : MatchReplies) : Prop :=
  replies.assign.applied = false ∨
    (replies.assign = .done ∧ replies.reassign.applied = true)

instance (replies : MatchReplies) : Decidable replies.Returning :=
  inferInstanceAs (Decidable (_ ∨ _))

/-- **When an order comes back.** For every order in the global pool, every pool to route it to
and every behaviour of the relayer and of the fill: the order is in the global pool when the
attempt returns, and an open order is listed by the next rescan, exactly if the relayer's
behaviour is a returning one. (A pool configured under the name of the global pool is never
left.) -/
theorem executePoolMatch_returns_order_iff (lib : RunnerLib) (replies : MatchReplies)
    (order : OrderId) (pool : String) (s : ServerState)
    (hglobal : s.relayer.matchingPool order = lib.globalMatchingPool) :
    ((executePoolMatch lib replies order pool s).1.relayer.matchingPool order =
        lib.globalMatchingPool ↔ pool = lib.globalMatchingPool ∨ replies.Returning) ∧
    (order ∈ s.relayer.openOrders →
      (order ∈ (executePoolMatch lib replies order pool s).1.relayer.openOrdersInMatchingPool
        lib.globalMatchingPool ↔ pool = lib.globalMatchingPool ∨ replies.Returning)) := by
  have hback : (executePoolMatch lib replies order pool s).1.relayer.matchingPool order =
      lib.globalMatchingPool ↔ pool = lib.globalMatchingPool ∨ replies.Returning := by
    rw [matchingPool_executePoolMatch]
    cases ha : replies.assign with
    | refused e => simp [MatchReplies.Returning, ha, hglobal]
    | lost e => simp [MatchReplies.Returning, ha]
    | done => cases hr : replies.reassign.applied <;> simp [MatchReplies.Returning, ha, hr]
  refine ⟨hback, fun hopen => ?_⟩
  rw [← hback]
  simp [Relayer.openOrdersInMatchingPool, hopen]

/-- A library for concrete runs: token 0 is USDC, token 1 has a ticker. -/
def sampleLib : RunnerLib where
  globalMatchingPool := "global"
  usdc := 0
  getTicker := fun t => if t = 1 then some "WETH" else none
  convertToDecimal := fun _ amount => amount.toFloat

/-- A relayer with one order, in the global pool, and a runner that has done nothing yet. -/
def sampleServer : ServerState := ⟨⟨[7], fun _ => "global"⟩, .new⟩

theorem executePoolMatch_returns_filled :
    sampleServer.relayer.matchingPool 7 = sampleLib.globalMatchingPool ∧
    (executePoolMatch sampleLib ⟨.done, .filled, .lost "reset"⟩ 7 "mm"
      sampleServer).1.relayer.matchingPool 7 = sampleLib.globalMatchingPool :=
  ⟨rfl, (executePoolMatch_returns_order_iff sampleLib ⟨.done, .filled, .lost "reset"⟩ 7 "mm"
    sampleServer rfl).1.mpr (by decide)⟩

/-- The answer to the first assignment is lost; or the order is assigned and filled, and the one
attempt to move it back is refused. -/
def strandingReplies : List MatchReplies :=
  [⟨.lost "reset", .filled, .done⟩, ⟨.done, .filled, .refused "unavailable"⟩]

/-- Two ways to lose an order: it stays in the managed pool, and the rescan that listed it before
no longer does. -/
theorem executePoolMatch_strands_order :
    sampleServer.relayer.openOrdersInMatchingPool "global" = [7] ∧
    ∀ replies ∈ strandingReplies,
      (executePoolMatch sampleLib replies 7 "mm" sampleServer).1.relayer.matchingPool 7 = "mm" ∧
      (executePoolMatch sampleLib replies 7 "mm"
        sampleServer).1.relayer.openOrdersInMatchingPool "global" = [] := by
  decide

end RelayerExtensions.PoolRunner
