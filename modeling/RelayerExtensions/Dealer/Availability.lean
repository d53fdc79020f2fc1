import RelayerExtensions.Dealer.Queue

/-!
# When one id can block another

`handle_request` asserts and unwraps under the mutex, so a pair that cannot be
served takes the whole dealer down with it. `Serviceable` is the exact condition on
a call under which that does not happen, and `freshPair_served_iff` follows it
through whole runs: a fresh pair gets its randomness if and only if every call
before it was serviceable.

Two invariants carry the two directions. Below the poisoned flag the events that are
not about the pair leave its slot and its receivers alone (`Undisturbed`); and
whatever happens, nothing is sent to a channel whose job has not been handled
(`Unused`).
-/

namespace RelayerExtensions.Dealer

open Runs

variable {F PK Sig : Type} [Field F] [DecidableEq PK] {inverse : F → Option F}

/-- A call comes to its end; a disconnect between calls never hurts by itself. -/
def Serviceable (inverse : F → Option F) (s : DealerState PK F) : Event PK F → Prop
  | .handle job tape gone => ServiceableJob inverse s job tape gone
  | .disconnect _ => True

/-- A step poisons the mutex exactly if its call is not serviceable. -/
theorem step_unpoisoned_iff (s : DealerState PK F) (e : Event PK F) (s' : DealerState PK F)
    (h : s.poisoned = false) (hs : step inverse s e = some s') :
    s'.poisoned = false ↔ Serviceable inverse s e := by
  cases e with
  | disconnect chan =>
      cases hs
      exact ⟨fun _ => trivial, fun _ => h⟩
  | handle job tape gone =>
      cases hs
      constructor
      · intro hp
        by_contra hno
        obtain ⟨existing, -, hb⟩ := handle_panics h hno
        rw [hb.poisoned] at hp
        cases hp
      · intro hserve
        cases ho : s.openRequests job.requestId with
        | none =>
            rw [handle_store h ho]
            exact h
        | some existing =>
            obtain ⟨first, second, -, heq⟩ := handle_answers h ho hserve
            rw [heq]
            exact h

theorem step_poisoned (s : DealerState PK F) (e : Event PK F) (s' : DealerState PK F)
    (h : ¬ s.poisoned = false) (hs : step inverse s e = some s') : ¬ s'.poisoned = false := by
  have ht : s.poisoned = true := by simpa using h
  cases e with
  | disconnect chan =>
      cases hs
      exact h
  | handle job tape gone =>
      cases hs
      rw [handle_poisoned ht]
      exact h

/-- The mutex is intact exactly after the runs all of whose calls were serviceable. -/
theorem run_unpoisoned_iff {es : List (Event PK F)} {s s' : DealerState PK F}
    (h : s.poisoned = false) (hr : run (step inverse) s es = some s') :
    s'.poisoned = false ↔ Meets (step inverse) (Serviceable inverse) s es :=
  run_iff_meets (I := fun s => s.poisoned = false) step_unpoisoned_iff step_poisoned es h hr

/-! ## A pair nobody else's events are about -/

def Disconnects.Spares (gone : Disconnects) (a b : DealerJob PK) : Prop :=
  ∀ c ∈ gone.beforeSecond ++ gone.beforeFirst, c ≠ a.chan ∧ c ≠ b.chan

/-- The event concerns another id, and both receivers of the pair stay. -/
def Unrelated (a b : DealerJob PK) : Event PK F → Prop
  | .handle job _ gone =>
      job.requestId ≠ a.requestId ∧ (job.chan ≠ a.chan ∧ job.chan ≠ b.chan) ∧ gone.Spares a b
  | .disconnect chan => chan ≠ a.chan ∧ chan ≠ b.chan

/-- As long as the mutex is intact: the pair's slot holds `slot`, its receivers are there. -/
def Undisturbed (a b : DealerJob PK) (slot : Option (DealerJob PK)) (s : DealerState PK F) : Prop :=
  s.poisoned = false →
    s.openRequests a.requestId = slot ∧ a.chan ∉ s.closed ∧ b.chan ∉ s.closed

theorem not_mem_closed {c : Chan} {gone : Disconnects} {closed : List Chan}
    (hg : c ∉ gone.beforeSecond ++ gone.beforeFirst) (hc : c ∉ closed) :
    c ∉ gone.beforeSecond ++ (gone.beforeFirst ++ closed) := by
  rw [← List.append_assoc, List.mem_append]
  exact not_or.mpr ⟨hg, hc⟩

omit [DecidableEq PK] in
theorem Disconnects.Spares.closed {a b : DealerJob PK} {gone : Disconnects} (hg : gone.Spares a b)
    {closed : List Chan} (ha : a.chan ∉ closed) (hb : b.chan ∉ closed) :
    a.chan ∉ gone.beforeSecond ++ (gone.beforeFirst ++ closed) ∧
      b.chan ∉ gone.beforeSecond ++ (gone.beforeFirst ++ closed) :=
  ⟨not_mem_closed (fun hm => (hg _ hm).1 rfl) ha, not_mem_closed (fun hm => (hg _ hm).2 rfl) hb⟩

theorem undisturbed_step {a b : DealerJob PK} {slot : Option (DealerJob PK)} (s : DealerState PK F)
    (e : Event PK F) (s' : DealerState PK F) (hu : Unrelated a b e) (h : Undisturbed a b slot s)
    (hs : step inverse s e = some s') :
    Undisturbed a b slot s' := by
  intro hp'
  have hp : s.poisoned = false := by
    by_contra hp
    exact step_poisoned s e s' hp hs hp'
  obtain ⟨hslot, ha, hb⟩ := h hp
  have hserve := (step_unpoisoned_iff s e s' hp hs).mp hp'
  cases e with
  | disconnect chan =>
      cases hs
      refine ⟨hslot, ?_, ?_⟩
      · exact List.not_mem_cons_of_ne_of_not_mem (Ne.symm hu.1) ha
      · exact List.not_mem_cons_of_ne_of_not_mem (Ne.symm hu.2) hb
  | handle job tape gone =>
      cases hs
      obtain ⟨hid, -, hg⟩ := hu
      cases ho : s.openRequests job.requestId with
      | none =>
          rw [handle_store hp ho]
          exact ⟨(insert_of_ne s (Ne.symm hid) job).trans hslot, ha, hb⟩
      | some existing =>
          obtain ⟨first, second, -, heq⟩ := handle_answers hp ho hserve
          rw [heq]
          exact ⟨(remove_of_ne s (Ne.symm hid)).trans hslot, hg.closed ha hb⟩

/-- Nothing was sent to the channel, and no job that could be answered has it. -/
def Unused (chan : Chan) (s : DealerState PK F) : Prop :=
  (∀ m ∈ s.sent, m.1 ≠ chan) ∧ ∀ id j, s.openRequests id = some j → j.chan ≠ chan

omit [Field F] [DecidableEq PK] in
theorem Unused.remove {chan : Chan} {s : DealerState PK F} (h : Unused chan s) (id : RequestId) :
    ∀ id' j, (s.remove id).openRequests id' = some j → j.chan ≠ chan := by
  intro id' j hj
  by_cases hid : id' = id
  · subst hid
    simp at hj
  · rw [remove_of_ne s hid] at hj
    exact h.2 id' j hj

/-- Handling a job with another channel keeps it so, also if the call panics. -/
theorem unused_handle {chan : Chan} {s : DealerState PK F} (h : Unused chan s) {job : DealerJob PK}
    (hne : job.chan ≠ chan) (tape : Tape F) (gone : Disconnects) :
    Unused chan (handle inverse s job tape gone) := by
  by_cases hp : s.poisoned = true
  case pos => rwa [handle_poisoned hp]
  have hp : s.poisoned = false := by simpa using hp
  by_cases hserve : ServiceableJob inverse s job tape gone
  case neg =>
    obtain ⟨existing, ho, hb⟩ := handle_panics hp hserve
    refine ⟨fun m hm => ?_, fun id j hj => ?_⟩
    · rcases hb.sent m hm with hm | hm | hm
      · exact h.1 m hm
      · rwa [hm]
      · rw [hm]
        exact h.2 _ _ ho
    · rw [hb.freed] at hj
      exact h.remove _ id j hj
  cases ho : s.openRequests job.requestId with
  | none =>
      rw [handle_store hp ho]
      refine ⟨h.1, fun id j hj => ?_⟩
      by_cases hid : id = job.requestId
      · subst hid
        rw [insert_self, Option.some.injEq] at hj
        rwa [← hj]
      · rw [insert_of_ne s hid] at hj
        exact h.2 id j hj
  | some existing =>
      obtain ⟨first, second, hr, heq⟩ := handle_answers hp ho hserve
      have hex := h.2 _ _ ho
      rw [heq]
      refine ⟨fun m hm => ?_, h.remove _⟩
      rcases List.mem_append.mp hm with hm | hm
      · exact h.1 m hm
      · cases hr with
        | duplicate _ =>
            rcases List.mem_pair.mp hm with rfl | rfl
            · exact hne
            · exact hex
        | pair _ _ =>
            rcases List.mem_pair.mp hm with rfl | rfl
            · exact hex
            · exact hne

theorem unused_step {a b : DealerJob PK} (s : DealerState PK F) (e : Event PK F)
    (s' : DealerState PK F) (hu : Unrelated a b e) (h : Unused b.chan s)
    (hs : step inverse s e = some s') : Unused b.chan s' := by
  cases e with
  | disconnect chan =>
      cases hs
      exact h
  | handle job tape gone =>
      cases hs
      exact unused_handle h hu.2.1.2 tape gone

/-- Two jobs that ought to be served: one fresh id, one body, both parties, both connected. -/
structure FreshPair (inverse : F → Option F) (a b : DealerJob PK) (tape : Tape F)
    (others : List (Event PK F)) : Prop where
  id_eq : b.requestId = a.requestId
  body_eq : a.request = b.request
  party_ne : a.partyId ≠ b.partyId
  chan_ne : a.chan ≠ b.chan
  draws : Invertible inverse a.request tape
  unrelated : ∀ e ∈ others, Unrelated a b e

/-- Both jobs got their half of one run of the generator. -/
def Served (a b : DealerJob PK) (s : DealerState PK F) : Prop :=
  ∃ r : Responses F, (a.chan, .ok r.1) ∈ s.sent ∧ (b.chan, .ok r.2) ∈ s.sent

section Pair

variable {before between : List (Event PK F)} {a b : DealerJob PK} {ta tb : Tape F}
  {ga gb : Disconnects} {s : DealerState PK F}

/-- When the second job of a fresh pair comes in, the first is waiting for it, unless the
mutex is poisoned. -/
theorem freshPair_ready (hf : FreshPair inverse a b tb (before ++ between))
    (hr : run (step inverse) start (before ++ .handle a ta ga :: between) = some s) :
    Undisturbed a b (some a) s := by
  rw [run_append] at hr
  obtain ⟨s₀, h₀, hr⟩ := Option.bind_eq_some_iff.mp hr
  obtain ⟨s₁, h₁, hr⟩ := run_cons_some.mp hr
  have hempty : Undisturbed a b none (start : DealerState PK F) :=
    fun _ => ⟨rfl, List.not_mem_nil, List.not_mem_nil⟩
  have hu₀ := run_preserves_of undisturbed_step before
    (fun e he => hf.unrelated e (List.mem_append_left _ he)) hempty h₀
  refine run_preserves_of undisturbed_step between
    (fun e he => hf.unrelated e (List.mem_append_right _ he)) ?_ hr
  -- the first job finds its slot empty and takes it
  cases h₁
  intro hp
  by_cases hp₀ : s₀.poisoned = false
  · obtain ⟨hslot, hca, hcb⟩ := hu₀ hp₀
    rw [handle_store hp₀ hslot]
    exact ⟨insert_self .., hca, hcb⟩
  · rw [handle_poisoned (by simpa using hp₀)] at hp
    exact absurd hp hp₀

theorem freshPair_unused (hf : FreshPair inverse a b tb (before ++ between))
    (hr : run (step inverse) start (before ++ .handle a ta ga :: between) = some s) :
    Unused b.chan s := by
  rw [run_append] at hr
  obtain ⟨s₀, h₀, hr⟩ := Option.bind_eq_some_iff.mp hr
  obtain ⟨s₁, h₁, hr⟩ := run_cons_some.mp hr
  have hempty : Unused b.chan (start : DealerState PK F) := by
    constructor <;> simp [start]
  have hu₀ := run_preserves_of unused_step before
    (fun e he => hf.unrelated e (List.mem_append_left _ he)) hempty h₀
  refine run_preserves_of unused_step between
    (fun e he => hf.unrelated e (List.mem_append_right _ he)) ?_ hr
  cases h₁
  exact unused_handle hu₀ hf.chan_ne ta ga

/--
**A fresh pair is served exactly if every call before it was serviceable**, and the mutex
stays intact exactly then. The run is arbitrary: any jobs, in any order, with receivers going
away at any time, also between the two jobs of the pair; only the pair's own receivers stay.
-/
theorem freshPair_served_iff (hf : FreshPair inverse a b tb (before ++ between))
    (hgb : gb.Spares a b)
    (hr : run (step inverse) start (before ++ .handle a ta ga :: between) = some s) :
    (Served a b (handle inverse s b tb gb) ↔
        Meets (step inverse) (Serviceable inverse) start (before ++ .handle a ta ga :: between))
      ∧ ((handle inverse s b tb gb).poisoned = false ↔
        Meets (step inverse) (Serviceable inverse) start
          (before ++ .handle a ta ga :: between)) := by
  rw [← run_unpoisoned_iff rfl hr]
  by_cases hp : s.poisoned = false
  case neg =>
    -- the call finds the mutex poisoned, and nobody has answered `b` before
    have hu := freshPair_unused hf hr
    rw [handle_poisoned (by simpa using hp)]
    exact ⟨⟨fun ⟨r, _, hb⟩ => absurd rfl (hu.1 _ hb), fun h => absurd h hp⟩, Iff.rfl⟩
  obtain ⟨hslot, hca, hcb⟩ := freshPair_ready hf hr hp
  rw [← hf.id_eq] at hslot
  obtain ⟨hla, hlb⟩ := hgb.closed hca hcb
  have hserve : ServiceableJob inverse s b tb gb := by
    intro existing hex
    cases hslot.symm.trans hex
    refine ⟨hf.body_eq, fun h => absurd h hf.party_ne, fun _ => ⟨hf.draws, ?_, hlb⟩⟩
    exact fun hm => hla (List.mem_append_right _ hm)
  obtain ⟨first, second, hrep, heq⟩ := handle_answers hp hslot hserve
  rw [heq]
  refine ⟨⟨fun _ => hp, fun _ => ?_⟩, Iff.rfl⟩
  cases hrep with
  | duplicate h => exact absurd h hf.party_ne
  | @pair r _ _ _ => exact ⟨r, by simp, by simp⟩

end Pair

/-! ## A client that goes away -/

/-- One random value, for the parties that sign with A and B. -/
def smallRequest : DealerRequest UInt8 where
  firstPartyKey := 65
  secondPartyKey := 66
  nRandomBits := 0
  nRandomValues := 1
  nInputMasks := 0
  nInversePairs := 0
  nTriples := 0

def zmodInverse (x : ZMod 13) : Option (ZMod 13) := if x = 0 then none else some x⁻¹

def onesTape : Tape (ZMod 13) := ⟨Stream'.const 1, Stream'.const true⟩

def smallJob (id : RequestId) (party : PartyId) (chan : Chan) : DealerJob UInt8 :=
  ⟨id, party, smallRequest, chan⟩

/-- Party 0 of id 1 comes, and leaves before its counterparty arrives. -/
def abandonedRun : List (Event UInt8 (ZMod 13)) :=
  [.handle (smallJob 1 party0 0) onesTape {}, .disconnect 0,
    .handle (smallJob 1 party1 1) onesTape {}]

/-- All four requests are accepted, the pair under id 2 is fresh and connected, and yet
neither of its jobs is ever answered. -/
theorem abandoned_request_blocks_pair :
    handleReq keyScheme 1 party0 "A" smallRequest 0 = .ok (.ok (smallJob 1 party0 0))
      ∧ handleReq keyScheme 1 party1 "B" smallRequest 1 = .ok (.ok (smallJob 1 party1 1))
      ∧ handleReq keyScheme 2 party0 "A" smallRequest 2 = .ok (.ok (smallJob 2 party0 2))
      ∧ handleReq keyScheme 2 party1 "B" smallRequest 3 = .ok (.ok (smallJob 2 party1 3))
      ∧ FreshPair zmodInverse (smallJob 2 party0 2) (smallJob 2 party1 3) onesTape abandonedRun
      ∧ ∃ s, run (step zmodInverse) start (abandonedRun ++
          [.handle (smallJob 2 party0 2) onesTape {}, .handle (smallJob 2 party1 3) onesTape {}])
          = some s ∧ s.poisoned = true ∧ s.sent = [] := by
  refine ⟨by decide, by decide, by decide, by decide, ⟨rfl, rfl, by decide, by decide, ?_, ?_⟩,
    ?_⟩
  · simp [Invertible, inverseDraws, smallJob, smallRequest]
  · simp [abandonedRun, Unrelated, smallJob, Disconnects.Spares]
  · exact ⟨_, rfl, rfl, rfl⟩

/-- The same pair when the client stayed. -/
def patientRun : List (Event UInt8 (ZMod 13)) :=
  [.handle (smallJob 1 party0 0) onesTape {}, .handle (smallJob 1 party1 1) onesTape {}]

theorem freshPair_served_patient :
    ∃ s, run (step zmodInverse) start
        (patientRun ++ .handle (smallJob 2 party0 2) onesTape {} :: [.disconnect 0]) = some s
      ∧ Served (smallJob 2 party0 2) (smallJob 2 party1 3)
        (handle zmodInverse s (smallJob 2 party1 3) onesTape {}) := by
  have hf : FreshPair zmodInverse (smallJob 2 party0 2) (smallJob 2 party1 3) onesTape
      (patientRun ++ [.disconnect 0]) := by
    refine ⟨rfl, rfl, by decide, by decide, ?_, ?_⟩
    · simp [Invertible, inverseDraws, smallJob, smallRequest]
    · simp [patientRun, Unrelated, smallJob, Disconnects.Spares]
  have hr : ∃ s, run (step zmodInverse) start
      (patientRun ++ .handle (smallJob 2 party0 2) onesTape {} :: [.disconnect 0]) = some s
      ∧ s.poisoned = false := ⟨_, rfl, rfl⟩
  obtain ⟨s, hr, hp⟩ := hr
  refine ⟨s, hr, (freshPair_served_iff hf (by simp [Disconnects.Spares]) hr).1.mpr ?_⟩
  exact (run_unpoisoned_iff rfl hr).mp hp

end RelayerExtensions.Dealer
