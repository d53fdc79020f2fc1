import RelayerExtensions.Lib.Effect
import RelayerExtensions.Lib.Runs
import RelayerExtensions.Dealer.GenerateProof

/-!
# The dealer's open requests

`handle_req` (`dealer/renegade-dealer/src/main.rs`) turns an accepted HTTP request
into a job with a response channel of its own; `handle_request` and
`handle_ready_pair` (`dealer/renegade-dealer/src/dealer.rs`) pair jobs up.

`handle_request` runs under the `open_requests` mutex from its first line to its
last, so calls do not interleave with each other. They do interleave with clients
going away: a client that drops its connection drops the receiver of its channel,
at any moment, also between the two sends of one call. `Disconnects` places these
moments.

A panic unwinds through the guard and poisons the mutex. `handle` is one call
together with what its end does to the mutex.
-/

namespace RelayerExtensions.Dealer

open Effect

/-- A response channel, as its sender and its receiver know it. -/
abbrev Chan := Nat

/-- One party's request, waiting for its counterparty. -/
structure DealerJob (PK : Type) where
  requestId : RequestId
  partyId : PartyId
  request : DealerRequest PK
  chan : Chan
deriving DecidableEq

/-- What is sent on a response channel. -/
abbrev Reply (F : Type) := Except BadRequestError (DealerResponse F)

/-- The dealer, with the channels it shares with the HTTP tasks. -/
structure DealerState (PK F : Type) where
  openRequests : RequestId → Option (DealerJob PK)
  /-- The mutex around `openRequests` is poisoned. -/
  poisoned : Bool
  /-- The channels whose receiver is gone. -/
  closed : List Chan
  /-- Every reply sent so far, oldest first. -/
  sent : List (Chan × Reply F)

/-- The receivers that go away during one call. -/
structure Disconnects where
  beforeFirst : List Chan := []
  beforeSecond : List Chan := []
deriving DecidableEq

variable {F PK Sig : Type}

/-- `handle_req`, up to the point where the job is queued on a fresh channel. -/
def handleReq (sch : SigScheme PK Sig) (requestId : RequestId) (partyId : PartyId)
    (signature : String) (body : DealerRequest PK) (chan : Chan) :
    Except Panic (Except Rejection (DealerJob PK)) :=
  (validateRequest sch requestId partyId signature body).map fun checked =>
    checked.map fun _ => ⟨requestId, partyId, body, chan⟩

abbrev DealerM (PK F α : Type) := Effect Panic (DealerState PK F) α

/-- `open_requests.lock().unwrap()` -/
def lock : DealerM PK F Unit := do
  if ← look (·.poisoned) then throw .lockPoisoned

def DealerState.remove (s : DealerState PK F) (id : RequestId) : DealerState PK F :=
  { s with openRequests := Function.update s.openRequests id none }

def DealerState.insert (s : DealerState PK F) (id : RequestId) (job : DealerJob PK) :
    DealerState PK F :=
  { s with openRequests := Function.update s.openRequests id (some job) }

/-- `open_requests.remove(&id)` -/
def removeRequest (id : RequestId) : DealerM PK F (Option (DealerJob PK)) := do
  let existing ← look (·.openRequests id)
  modify (·.remove id)
  return existing

/-- `open_requests.insert(id, request)` -/
def insertRequest (id : RequestId) (job : DealerJob PK) : DealerM PK F Unit :=
  modify (·.insert id job)

/-- `chan.send(reply).unwrap()` -/
def send (chan : Chan) (reply : Reply F) : DealerM PK F Unit := do
  if chan ∈ (← look (·.closed)) then throw .channelClosed
  modify fun s => { s with sent := s.sent ++ [(chan, reply)] }

def disconnect (chans : List Chan) : DealerM PK F Unit :=
  modify fun s => { s with closed := chans ++ s.closed }

/-- The two sends of a call, with receivers going away around them. -/
def sendBoth (first second : Chan × Reply F) (gone : Disconnects) : DealerM PK F Unit := do
  disconnect gone.beforeFirst
  send first.1 first.2
  disconnect gone.beforeSecond
  send second.1 second.2

section Calls

variable [Field F] [DecidableEq PK]

def handleReadyPair (inverse : F → Option F) (req1 req2 : DealerJob PK) (tape : Tape F)
    (gone : Disconnects) : DealerM PK F Unit := do
  let (resp1, resp2) ← Effect.ofExcept ((genResponses inverse req1.request tape).map (·.1))
  sendBoth (req1.chan, .ok resp1) (req2.chan, .ok resp2) gone

def duplicateParty : BadRequestError := ⟨"Duplicate party ID"⟩

def handleRequest (inverse : F → Option F) (request : DealerJob PK) (tape : Tape F)
    (gone : Disconnects) : DealerM PK F Unit := do
  lock
  match ← removeRequest request.requestId with
  | some existing =>
      if existing.request ≠ request.request then throw .requestMismatch
      if existing.partyId = request.partyId then
        -- the newcomer is told first
        sendBoth (request.chan, .error duplicateParty) (existing.chan, .error duplicateParty) gone
      else
        handleReadyPair inverse existing request tape gone
  | none => insertRequest request.requestId request

/-- One call: a panic, wherever it happens, leaves the mutex poisoned. -/
def handle (inverse : F → Option F) (s : DealerState PK F) (job : DealerJob PK)
    (tape : Tape F) (gone : Disconnects) : DealerState PK F :=
  match exec (handleRequest inverse job tape gone) s with
  | (.ok _, s') => s'
  | (.error _, s') => { s' with poisoned := true }

inductive Event (PK F : Type) where
  /-- A queued job is handled, with these draws, while these receivers go away. -/
  | handle (job : DealerJob PK) (tape : Tape F) (gone : Disconnects)
  /-- A client drops its connection between calls. -/
  | disconnect (chan : Chan)

def step (inverse : F → Option F) (s : DealerState PK F) :
    Event PK F → Option (DealerState PK F)
  | .handle job tape gone => some (handle inverse s job tape gone)
  | .disconnect chan => some { s with closed := chan :: s.closed }

end Calls

/-- `Dealer::start` -/
def start : DealerState PK F := ⟨fun _ => none, false, [], []⟩

@[simp] theorem remove_self (s : DealerState PK F) (id : RequestId) :
    (s.remove id).openRequests id = none := Function.update_self ..

theorem remove_of_ne (s : DealerState PK F) {id id' : RequestId} (h : id' ≠ id) :
    (s.remove id).openRequests id' = s.openRequests id' := Function.update_of_ne h ..

@[simp] theorem insert_self (s : DealerState PK F) (id : RequestId) (job : DealerJob PK) :
    (s.insert id job).openRequests id = some job := Function.update_self ..

theorem insert_of_ne (s : DealerState PK F) {id id' : RequestId} (h : id' ≠ id)
    (job : DealerJob PK) : (s.insert id job).openRequests id' = s.openRequests id' :=
  Function.update_of_ne h ..

/-! ## What one call does -/

theorem exec_send_open {chan : Chan} {reply : Reply F} {s : DealerState PK F}
    (h : chan ∉ s.closed) :
    exec (send chan reply) s = (.ok (), { s with sent := s.sent ++ [(chan, reply)] }) := by
  simp [send, exec_bind, h]

theorem exec_send_closed {chan : Chan} {reply : Reply F} {s : DealerState PK F}
    (h : chan ∈ s.closed) : exec (send chan reply) s = (.error .channelClosed, s) := by
  simp [send, exec_bind, h]

/-- Both receivers are there when it is their turn. -/
def Reachable (s : DealerState PK F) (first second : Chan) (gone : Disconnects) : Prop :=
  first ∉ gone.beforeFirst ++ s.closed ∧
    second ∉ gone.beforeSecond ++ (gone.beforeFirst ++ s.closed)

instance (s : DealerState PK F) (first second : Chan) (gone : Disconnects) :
    Decidable (Reachable s first second gone) := inferInstanceAs (Decidable (_ ∧ _))

variable {first second : Chan × Reply F}

theorem exec_sendBoth {gone : Disconnects} {s : DealerState PK F}
    (h : Reachable s first.1 second.1 gone) :
    exec (sendBoth first second gone) s = (.ok (),
      { s with
        closed := gone.beforeSecond ++ (gone.beforeFirst ++ s.closed)
        sent := s.sent ++ [first, second] }) := by
  obtain ⟨h1, h2⟩ := h
  simp only [sendBoth, disconnect, exec_bind, exec_modify]
  rw [exec_send_open h1]
  dsimp only
  rw [exec_send_open h2]
  simp

/-- If one is missing the call panics; what had been sent before stays sent. -/
theorem exec_sendBoth_error {gone : Disconnects} {s : DealerState PK F}
    (h : ¬ Reachable s first.1 second.1 gone) :
    ∃ closed sent, exec (sendBoth first second gone) s
        = (.error .channelClosed, { s with closed := closed, sent := sent })
      ∧ (sent = s.sent ∨ sent = s.sent ++ [first]) := by
  simp only [sendBoth, disconnect, exec_bind, exec_modify]
  by_cases h1 : first.1 ∈ gone.beforeFirst ++ s.closed
  · rw [exec_send_closed h1]
    exact ⟨_, _, rfl, .inl rfl⟩
  · rw [exec_send_open h1]
    dsimp only
    have h2 : second.1 ∈ gone.beforeSecond ++ (gone.beforeFirst ++ s.closed) := by
      by_contra h2
      exact h ⟨h1, h2⟩
    rw [exec_send_closed h2]
    exact ⟨_, _, rfl, .inr rfl⟩

variable [Field F] [DecidableEq PK] {inverse : F → Option F} {s : DealerState PK F}
  {job existing : DealerJob PK} {tape : Tape F} {gone : Disconnects}

/-- What the two jobs of a pair are told, in the order in which it is sent. -/
inductive Replies (inverse : F → Option F) (existing job : DealerJob PK) (tape : Tape F) :
    Chan × Reply F → Chan × Reply F → Prop where
  | duplicate : existing.partyId = job.partyId →
      Replies inverse existing job tape
        (job.chan, .error duplicateParty) (existing.chan, .error duplicateParty)
  | pair {r : Responses F} {t' : Tape F} : existing.partyId ≠ job.partyId →
      genResponses inverse existing.request tape = .ok (r, t') →
      Replies inverse existing job tape (existing.chan, .ok r.1) (job.chan, .ok r.2)

theorem handle_poisoned (h : s.poisoned = true) : handle inverse s job tape gone = s := by
  have hx : exec (handleRequest inverse job tape gone) s = (.error .lockPoisoned, s) := by
    simp [handleRequest, lock, exec_bind, h]
  unfold handle
  rw [hx, ← h]

/-- Nobody is waiting under the id: the job waits. -/
theorem handle_store (h : s.poisoned = false) (ho : s.openRequests job.requestId = none) :
    handle inverse s job tape gone = s.insert job.requestId job := by
  simp [handle, handleRequest, lock, removeRequest, insertRequest, exec_bind, h, ho,
    DealerState.insert, DealerState.remove]

/-- Somebody is: the call continues with the pair, the id being free again. -/
theorem exec_handleRequest_open (h : s.poisoned = false)
    (ho : s.openRequests job.requestId = some existing) :
    exec (handleRequest inverse job tape gone) s =
      if existing.request ≠ job.request then
        (.error .requestMismatch, s.remove job.requestId)
      else if existing.partyId = job.partyId then
        exec (sendBoth (job.chan, .error duplicateParty) (existing.chan, .error duplicateParty)
          gone) (s.remove job.requestId)
      else
        exec (handleReadyPair inverse existing job tape gone) (s.remove job.requestId) := by
  simp only [handleRequest, lock, removeRequest, exec_bind, exec_look, h, ho, exec_modify,
    exec_pure, Bool.false_eq_true, if_false]
  split
  · rw [exec_bind, exec_throw]
  · split <;> rfl

/-- What a call needs to come to an end: whoever is waiting under its id asked for the same
thing, the receivers are there, and what is drawn for inverse pairs can be inverted. -/
def ServiceableJob (inverse : F → Option F) (s : DealerState PK F) (job : DealerJob PK)
    (tape : Tape F) (gone : Disconnects) : Prop :=
  ∀ existing, s.openRequests job.requestId = some existing →
    existing.request = job.request ∧
      (existing.partyId = job.partyId → Reachable s job.chan existing.chan gone) ∧
      (existing.partyId ≠ job.partyId →
        Invertible inverse existing.request tape ∧ Reachable s existing.chan job.chan gone)

/-- **A call that finds a serviceable pair answers both and frees the id.** -/
theorem handle_answers (h : s.poisoned = false) (ho : s.openRequests job.requestId = some existing)
    (hs : ServiceableJob inverse s job tape gone) :
    ∃ first second, Replies inverse existing job tape first second ∧
      handle inverse s job tape gone =
        { s.remove job.requestId with
          closed := gone.beforeSecond ++ (gone.beforeFirst ++ s.closed)
          sent := s.sent ++ [first, second] } := by
  obtain ⟨hreq, hdup, hpair⟩ := hs existing ho
  unfold handle
  rw [exec_handleRequest_open h ho, if_neg (not_not.mpr hreq)]
  by_cases hp : existing.partyId = job.partyId
  · have hr : Reachable (s.remove job.requestId) job.chan existing.chan gone := hdup hp
    refine ⟨_, _, .duplicate hp, ?_⟩
    rw [if_pos hp, exec_sendBoth hr]
    rfl
  · obtain ⟨hinv, hr⟩ := hpair hp
    have hr : Reachable (s.remove job.requestId) existing.chan job.chan gone := hr
    obtain ⟨r, t', hgen⟩ := genResponses_ok_iff.mpr hinv
    refine ⟨_, _, .pair hp hgen, ?_⟩
    rw [if_neg hp, handleReadyPair, hgen, exec_bind, exec_ofExcept]
    dsimp only [Except.map]
    rw [exec_sendBoth hr]
    rfl

/-- What a call that panics leaves behind: one of the two may have been answered. -/
structure Broken (s : DealerState PK F) (existing job : DealerJob PK)
    (s' : DealerState PK F) : Prop where
  poisoned : s'.poisoned = true
  freed : s'.openRequests = (s.remove job.requestId).openRequests
  sent : ∀ m ∈ s'.sent, m ∈ s.sent ∨ m.1 = job.chan ∨ m.1 = existing.chan

theorem broken_of_error {e : Panic} {s' : DealerState PK F}
    (he : exec (handleRequest inverse job tape gone) s = (.error e, s'))
    (hfree : s'.openRequests = (s.remove job.requestId).openRequests)
    (hsent : ∀ m ∈ s'.sent, m ∈ s.sent ∨ m.1 = job.chan ∨ m.1 = existing.chan) :
    Broken s existing job (handle inverse s job tape gone) := by
  unfold handle
  rw [he]
  exact ⟨rfl, hfree, hsent⟩

theorem broken_of_unreachable (hr : ¬ Reachable s first.1 second.1 gone)
    (hfirst : first.1 = job.chan ∨ first.1 = existing.chan)
    (hx : exec (handleRequest inverse job tape gone) s
      = exec (sendBoth first second gone) (s.remove job.requestId)) :
    Broken s existing job (handle inverse s job tape gone) := by
  have hr : ¬ Reachable (s.remove job.requestId) first.1 second.1 gone := hr
  obtain ⟨closed, sent, he, hsent⟩ := exec_sendBoth_error hr
  refine broken_of_error (hx.trans he) rfl ?_
  intro m hm
  rcases hsent with rfl | rfl
  · exact .inl hm
  · rcases List.mem_append.mp hm with hm | hm
    · exact .inl hm
    · rw [List.mem_singleton.mp hm]
      exact .inr hfirst

/-- **Any other call panics under the lock.** -/
theorem handle_panics (h : s.poisoned = false) (hs : ¬ ServiceableJob inverse s job tape gone) :
    ∃ existing, s.openRequests job.requestId = some existing ∧
      Broken s existing job (handle inverse s job tape gone) := by
  unfold ServiceableJob at hs
  push Not at hs
  obtain ⟨existing, ho, hs⟩ := hs
  refine ⟨existing, ho, ?_⟩
  have hx := @exec_handleRequest_open F PK _ _ inverse s job existing tape gone h ho
  by_cases hreq : existing.request = job.request
  case neg =>
    rw [if_pos hreq] at hx
    exact broken_of_error hx rfl fun m hm => .inl hm
  rw [if_neg (not_not.mpr hreq)] at hx
  by_cases hp : existing.partyId = job.partyId
  case pos =>
    rw [if_pos hp] at hx
    have hr : ¬ Reachable s job.chan existing.chan gone :=
      fun hr => (hs hreq fun _ => hr).1 hp
    exact broken_of_unreachable hr (.inl rfl) hx
  rw [if_neg hp, handleReadyPair, exec_bind, exec_ofExcept] at hx
  have hr := (hs hreq fun hp' => absurd hp' hp).2
  cases hgen : genResponses inverse existing.request tape with
  | error e =>
      rw [hgen] at hx
      exact broken_of_error hx rfl fun m hm => .inl hm
  | ok p =>
      rw [hgen] at hx
      exact broken_of_unreachable (hr (genResponses_ok_iff.mp ⟨_, _, hgen⟩)) (.inr rfl) hx

end RelayerExtensions.Dealer
