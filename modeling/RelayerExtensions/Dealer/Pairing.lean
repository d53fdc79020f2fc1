import RelayerExtensions.Dealer.Queue
import Mathlib.Algebra.Order.Ring.Int
import Mathlib.Data.List.Nodup
import Mathlib.Algebra.Group.Nat.Even

/-!
# Who is paired with whom

When nobody disconnects and the jobs of one id ask for the same thing, the map of
open requests is a one-slot buffer per id: the first job of an id waits, the second
is paired with it, the third waits again, and so on, for as long as the id is used.
`Paired` says this of a whole history of calls, and of everything that was ever sent.

The step lemma follows the parity of the number of calls made for the id so far.
If it is even the slot is empty and the job is stored; if it is odd the slot holds
the last of them, and `handle_answers` says what both are told.
-/

namespace RelayerExtensions.Dealer

variable {F PK : Type} [Field F]

/-- One call of `handle_request`, with the randomness it would draw. -/
structure Call (PK F : Type) where
  job : DealerJob PK
  tape : Tape F

/-- The call, nobody going away. -/
def Call.event (c : Call PK F) : Event PK F := .handle c.job c.tape {}

/-- The calls made for one id, in order. -/
def callsFor (id : RequestId) (h : List (Call PK F)) : List (Call PK F) :=
  h.filter fun c => c.job.requestId = id

/-- The calls of rank `2k + 1` and `2k + 2` for an id. -/
def PairAt (h : List (Call PK F)) (id : RequestId) (k : Nat) (a b : Call PK F) : Prop :=
  (callsFor id h)[2 * k]? = some a ∧ (callsFor id h)[2 * k + 1]? = some b

/-- What is assumed of a history. Channels are distinct because `handle_req` makes a new one
for every job. -/
structure Admissible (inverse : F → Option F) (h : List (Call PK F)) : Prop where
  chans : (h.map (·.job.chan)).Nodup
  bodies : ∀ a ∈ h, ∀ b ∈ h, a.job.requestId = b.job.requestId → a.job.request = b.job.request
  draws : ∀ a ∈ h, Invertible inverse a.job.request a.tape

/-- Where a history leaves the dealer. -/
structure Paired (inverse : F → Option F) (h : List (Call PK F)) (s : DealerState PK F) :
    Prop where
  unpoisoned : s.poisoned = false
  connected : s.closed = []
  /-- What is open is the last call of an id, if an odd number of calls was made for it. -/
  waiting : ∀ id j, s.openRequests id = some j ↔
    ∃ k c, (callsFor id h).length = 2 * k + 1 ∧ (callsFor id h)[2 * k]? = some c ∧ c.job = j
  unanswered : ∀ id j, s.openRequests id = some j → j.chan ∉ s.sent.map Prod.fst
  /-- Every pair has been answered, from one run of the generator if the parties differ. -/
  answered : ∀ id k a b, PairAt h id k a b → ∃ first second,
    Replies inverse a.job b.job b.tape first second ∧ first ∈ s.sent ∧ second ∈ s.sent
  /-- Nothing else was ever sent. -/
  only : ∀ m ∈ s.sent, ∃ id k a b first second, PairAt h id k a b ∧
    Replies inverse a.job b.job b.tape first second ∧ (m = first ∨ m = second)
  once : (s.sent.map Prod.fst).Nodup

/-! ## One more call -/

section Histories

omit [Field F]

variable {h : List (Call PK F)} {c : Call PK F} {id : RequestId}

theorem callsFor_snoc_self (hid : c.job.requestId = id) :
    callsFor id (h ++ [c]) = callsFor id h ++ [c] := by
  simp [callsFor, hid]

theorem callsFor_snoc_other (hid : c.job.requestId ≠ id) :
    callsFor id (h ++ [c]) = callsFor id h := by
  simp [callsFor, hid]

theorem mem_of_callsFor {a : Call PK F} {i : Nat} (ha : (callsFor id h)[i]? = some a) :
    a ∈ h ∧ a.job.requestId = id := by
  have hmem := List.mem_filter.mp (List.mem_of_getElem? ha)
  exact ⟨hmem.1, of_decide_eq_true hmem.2⟩

/-- A call completes at most one pair: its own, with the one before it. -/
theorem pairAt_snoc {k : Nat} {a b : Call PK F} :
    PairAt (h ++ [c]) id k a b ↔ PairAt h id k a b ∨
      (c.job.requestId = id ∧ (callsFor id h).length = 2 * k + 1
        ∧ (callsFor id h)[2 * k]? = some a ∧ b = c) := by
  unfold PairAt
  by_cases hid : c.job.requestId = id
  case neg => simp [callsFor_snoc_other hid, hid]
  rw [callsFor_snoc_self hid]
  rcases Nat.lt_trichotomy (callsFor id h).length (2 * k + 1) with hlt | heq | hgt
  · have h1 : (callsFor id h)[2 * k + 1]? = none := List.getElem?_eq_none (by omega)
    have h2 : (callsFor id h ++ [c])[2 * k + 1]? = none :=
      List.getElem?_eq_none (by rw [List.length_append, List.length_singleton]; omega)
    rw [h1, h2]
    simp only [reduceCtorEq, and_false, false_or, false_iff]
    omega
  · have h0 : (callsFor id h ++ [c])[2 * k]? = (callsFor id h)[2 * k]? :=
      List.getElem?_append_left (by omega)
    have h1 : (callsFor id h)[2 * k + 1]? = none := List.getElem?_eq_none (by omega)
    have h2 : (callsFor id h ++ [c])[2 * k + 1]? = some c := by
      rw [← heq, List.getElem?_concat_length]
    rw [h0, h1, h2]
    simp [hid, heq, eq_comm]
  · have h0 : (callsFor id h ++ [c])[2 * k]? = (callsFor id h)[2 * k]? :=
      List.getElem?_append_left (by omega)
    have h2 : (callsFor id h ++ [c])[2 * k + 1]? = (callsFor id h)[2 * k + 1]? :=
      List.getElem?_append_left (by omega)
    rw [h0, h2]
    constructor
    · exact .inl
    · rintro (hp | ⟨-, hl, -⟩)
      · exact hp
      · omega

end Histories

variable {inverse : F → Option F} {h : List (Call PK F)} {c : Call PK F} {s : DealerState PK F}

omit [Field F] in
theorem Admissible.init (hadm : Admissible inverse (h ++ [c])) : Admissible inverse h where
  chans := by
    have hnd := hadm.chans
    rw [List.map_append] at hnd
    exact (List.nodup_append.mp hnd).1
  bodies a ha b hb :=
    hadm.bodies a (List.mem_append_left _ ha) b (List.mem_append_left _ hb)
  draws a ha := hadm.draws a (List.mem_append_left _ ha)

omit [Field F] in
/-- The new call's channel has not been used. -/
theorem Admissible.fresh (hadm : Admissible inverse (h ++ [c])) {a : Call PK F} (ha : a ∈ h) :
    a.job.chan ≠ c.job.chan := by
  have hnd := hadm.chans
  rw [List.map_append] at hnd
  exact (List.nodup_append.mp hnd).2.2 _ (List.mem_map_of_mem ha) _ (by simp)

/-- Replies only go to the two jobs they answer. -/
theorem Replies.chan {existing job : DealerJob PK} {tape : Tape F} {first second : Chan × Reply F}
    (hr : Replies inverse existing job tape first second) :
    (first.1 = job.chan ∧ second.1 = existing.chan) ∨
      (first.1 = existing.chan ∧ second.1 = job.chan) := by
  cases hr with
  | duplicate _ => exact .inl ⟨rfl, rfl⟩
  | pair _ _ => exact .inr ⟨rfl, rfl⟩

/-- What is open under an id is a call of the history. -/
theorem Paired.open_call (hp : Paired inverse h s) {id : RequestId} {j : DealerJob PK}
    (hj : s.openRequests id = some j) : ∃ a ∈ h, a.job.requestId = id ∧ a.job = j := by
  obtain ⟨k, a, -, ha, haj⟩ := (hp.waiting id j).mp hj
  obtain ⟨hmem, hid⟩ := mem_of_callsFor ha
  exact ⟨a, hmem, hid, haj⟩

theorem Paired.sent_chan (hp : Paired inverse h s) {m : Chan × Reply F} (hm : m ∈ s.sent) :
    ∃ a ∈ h, m.1 = a.job.chan := by
  obtain ⟨id, k, a, b, first, second, ⟨ha, hb⟩, hr, rfl | rfl⟩ := hp.only m hm <;>
    rcases hr.chan with ⟨h1, h2⟩ | ⟨h1, h2⟩
  · exact ⟨b, (mem_of_callsFor hb).1, h1⟩
  · exact ⟨a, (mem_of_callsFor ha).1, h1⟩
  · exact ⟨a, (mem_of_callsFor ha).1, h2⟩
  · exact ⟨b, (mem_of_callsFor hb).1, h2⟩

theorem Paired.chan_unused (hp : Paired inverse h s) (hadm : Admissible inverse (h ++ [c])) :
    c.job.chan ∉ s.sent.map Prod.fst := by
  intro hmem
  obtain ⟨m, hm, heq⟩ := List.mem_map.mp hmem
  obtain ⟨a, ha, hma⟩ := hp.sent_chan hm
  exact hadm.fresh ha (hma.symm.trans heq)

theorem paired_start : Paired inverse ([] : List (Call PK F)) start := by
  constructor <;> simp [start, callsFor, PairAt]

variable [DecidableEq PK]

/-- An even number of calls came before: the job is stored. -/
theorem paired_store (hp : Paired inverse h s) (hadm : Admissible inverse (h ++ [c])) {n : Nat}
    (hn : (callsFor c.job.requestId h).length = 2 * n) :
    Paired inverse (h ++ [c]) (handle inverse s c.job c.tape {}) := by
  have hnone : s.openRequests c.job.requestId = none := by
    cases ho : s.openRequests c.job.requestId with
    | none => rfl
    | some j =>
        obtain ⟨k, -, hk, -⟩ := (hp.waiting _ j).mp ho
        omega
  rw [handle_store hp.unpoisoned hnone]
  constructor
  case unpoisoned => exact hp.unpoisoned
  case connected => exact hp.connected
  case waiting =>
    intro id j
    by_cases hid : c.job.requestId = id
    · subst hid
      rw [callsFor_snoc_self rfl]
      rw [insert_self, Option.some.injEq, List.length_append, List.length_singleton]
      constructor
      · intro hj
        refine ⟨n, c, by omega, ?_, hj⟩
        rw [← hn, List.getElem?_concat_length]
      · rintro ⟨k, d, hk, hd, rfl⟩
        obtain rfl : k = n := by omega
        rw [← hn, List.getElem?_concat_length, Option.some.injEq] at hd
        rw [hd]
    · rw [callsFor_snoc_other hid]
      rw [insert_of_ne s (Ne.symm hid)]
      exact hp.waiting id j
  case unanswered =>
    intro id j hj
    by_cases hid : id = c.job.requestId
    · subst hid
      rw [insert_self, Option.some.injEq] at hj
      subst hj
      exact hp.chan_unused hadm
    · rw [insert_of_ne s hid] at hj
      exact hp.unanswered id j hj
  case answered =>
    intro id k a b hab
    rcases pairAt_snoc.mp hab with hab | ⟨rfl, hk, -⟩
    · exact hp.answered id k a b hab
    · omega
  case only =>
    intro m hm
    obtain ⟨id, k, a, b, first, second, hab, hr, heq⟩ := hp.only m hm
    exact ⟨id, k, a, b, first, second, pairAt_snoc.mpr (.inl hab), hr, heq⟩
  case once => exact hp.once

/-- The call and the one it is paired with are answered on channels nothing was sent on. -/
theorem paired_answer (hp : Paired inverse h s) (hadm : Admissible inverse (h ++ [c])) {n : Nat}
    (hn : (callsFor c.job.requestId h).length = 2 * n + 1) :
    Paired inverse (h ++ [c]) (handle inverse s c.job c.tape {}) := by
  obtain ⟨a, ha⟩ : ∃ a, (callsFor c.job.requestId h)[2 * n]? = some a :=
    ⟨_, List.getElem?_eq_getElem (by omega)⟩
  obtain ⟨hah, haid⟩ := mem_of_callsFor ha
  have hopen : s.openRequests c.job.requestId = some a.job :=
    (hp.waiting _ _).mpr ⟨n, a, hn, ha, rfl⟩
  have hbody : a.job.request = c.job.request :=
    hadm.bodies a (List.mem_append_left _ hah) c (by simp) haid
  have hserve : ServiceableJob inverse s c.job c.tape {} := by
    intro existing hex
    cases hopen.symm.trans hex
    refine ⟨hbody, fun _ => ?_, fun _ => ⟨?_, ?_⟩⟩
    · simp [Reachable, hp.connected]
    · rw [hbody]
      exact hadm.draws c (by simp)
    · simp [Reachable, hp.connected]
  obtain ⟨first, second, hr, heq⟩ := handle_answers hp.unpoisoned hopen hserve
  rw [heq]
  have hca := hp.chan_unused hadm
  have haa := hp.unanswered _ _ hopen
  have hne := hadm.fresh hah
  constructor
  case unpoisoned => exact hp.unpoisoned
  case connected => simp [hp.connected]
  case waiting =>
    intro id j
    by_cases hid : c.job.requestId = id
    · subst hid
      rw [callsFor_snoc_self rfl]
      simp only [remove_self, reduceCtorEq, false_iff]
      rintro ⟨k, d, hk, -⟩
      rw [List.length_append, List.length_singleton] at hk
      omega
    · rw [callsFor_snoc_other hid]
      rw [show _ = _ from remove_of_ne s (Ne.symm hid)]
      exact hp.waiting id j
  case unanswered =>
    intro id j hj
    by_cases hid : id = c.job.requestId
    · subst hid
      simp at hj
    rw [show _ = _ from remove_of_ne s hid] at hj
    obtain ⟨d, hd, hdid, rfl⟩ := hp.open_call hj
    have hda : d.job.chan ≠ a.job.chan := by
      intro hchan
      have hsame := List.inj_on_of_nodup_map hadm.init.chans hd hah hchan
      exact hid (by rw [← hdid, hsame, haid])
    have hold := hp.unanswered id _ hj
    have hdc := hadm.fresh hd
    rw [List.map_append, List.mem_append, not_or]
    refine ⟨hold, ?_⟩
    rcases hr.chan with ⟨h1, h2⟩ | ⟨h1, h2⟩ <;> simp [h1, h2, hda, hdc]
  case answered =>
    intro id k a' b hab
    rcases pairAt_snoc.mp hab with hab | ⟨rfl, hk, ha', rfl⟩
    · obtain ⟨f, g, hfg, hf, hg⟩ := hp.answered id k a' b hab
      exact ⟨f, g, hfg, List.mem_append_left _ hf, List.mem_append_left _ hg⟩
    · obtain rfl : k = n := by omega
      cases ha.symm.trans ha'
      exact ⟨first, second, hr, by simp, by simp⟩
  case only =>
    intro m hm
    rcases List.mem_append.mp hm with hm | hm
    · obtain ⟨id, k, a', b, f, g, hab, hfg, hmem⟩ := hp.only m hm
      exact ⟨id, k, a', b, f, g, pairAt_snoc.mpr (.inl hab), hfg, hmem⟩
    · refine ⟨_, n, a, c, first, second, pairAt_snoc.mpr (.inr ⟨rfl, hn, ha, rfl⟩), hr, ?_⟩
      simpa using hm
  case once =>
    rw [List.map_append]
    refine List.nodup_append.mpr ⟨hp.once, ?_, ?_⟩
    · rcases hr.chan with ⟨h1, h2⟩ | ⟨h1, h2⟩ <;> simp [h1, h2, hne, hne.symm]
    · intro x hx y hy hxy
      subst hxy
      rcases hr.chan with ⟨h1, h2⟩ | ⟨h1, h2⟩ <;>
        (simp only [List.map_cons, List.map_nil, h1, h2, List.mem_cons, List.not_mem_nil,
          or_false] at hy
         rcases hy with rfl | rfl)
      · exact hca hx
      · exact haa hx
      · exact haa hx
      · exact hca hx

/-- **One more call keeps the history paired.** -/
theorem paired_step (hp : Paired inverse h s) (hadm : Admissible inverse (h ++ [c])) :
    Paired inverse (h ++ [c]) (handle inverse s c.job c.tape {}) := by
  rcases Nat.even_or_odd' (callsFor c.job.requestId h).length with ⟨n, hn | hn⟩
  · exact paired_store hp hadm hn
  · exact paired_answer hp hadm hn

theorem paired_run (hadm : Admissible inverse h) :
    ∃ s, Runs.run (step inverse) start (h.map Call.event) = some s ∧ Paired inverse h s := by
  induction h using List.reverseRecOn with
  | nil => exact ⟨start, rfl, paired_start⟩
  | append_singleton h c ih =>
      obtain ⟨s, hs, hp⟩ := ih hadm.init
      refine ⟨_, ?_, paired_step hp hadm⟩
      rw [List.map_append, Runs.run_append, hs]
      rfl

/--
**Jobs are paired in order of arrival, per id, and answered once**: after every prefix of an
admissible history, each pair has been told what it is to be told and nobody else anything;
what is left in the map is, per id, the job that is still waiting for its counterparty.
-/
theorem handleRequest_pairs (hadm : Admissible inverse h) (n : Nat) :
    ∃ s, Runs.run (step inverse) start ((h.take n).map Call.event) = some s
      ∧ Paired inverse (h.take n) s := by
  refine paired_run ⟨?_, ?_, ?_⟩
  · rw [List.map_take]
    exact hadm.chans.sublist (List.take_sublist ..)
  · intro a ha b hb
    exact hadm.bodies a (List.mem_of_mem_take ha) b (List.mem_of_mem_take hb)
  · intro a ha
    exact hadm.draws a (List.mem_of_mem_take ha)

/-- Three jobs under one id, the first two of them a pair, and one under another. -/
def sampleCalls : List (Call Unit (ZMod 13)) :=
  [⟨⟨7, party0, sampleRequest, 0⟩, ⟨Stream'.const 1, Stream'.const true⟩⟩,
    ⟨⟨7, party1, sampleRequest, 1⟩, ⟨Stream'.const 2, Stream'.const false⟩⟩,
    ⟨⟨9, party1, sampleRequest, 2⟩, ⟨Stream'.const 3, Stream'.const true⟩⟩,
    ⟨⟨7, party1, sampleRequest, 3⟩, ⟨Stream'.const 4, Stream'.const true⟩⟩]

theorem handleRequest_pairs_sample :
    ∃ s, Runs.run (step fun x => if x = 0 then none else some x⁻¹) start
        ((sampleCalls.take 4).map Call.event) = some s
      ∧ Paired (fun x => if x = 0 then none else some x⁻¹) (sampleCalls.take 4) s :=
  handleRequest_pairs ⟨by decide, by decide, by decide⟩ 4

end RelayerExtensions.Dealer
