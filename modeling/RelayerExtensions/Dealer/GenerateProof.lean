import RelayerExtensions.Dealer.Generate
import Mathlib.Algebra.Field.ZMod

/-!
# What the dealer deals is correlated the way SPDZ needs it

The subject is one run of `genResponses`. `WellDealt` is the contract the two
parties rely on, written in terms of the two responses alone: nothing in it
mentions the values the dealer had in the clear.

The argument follows the code. `genSecretShares` splits a vector along the tape,
so `genAuthenticatedSecretShares` is an instance of `AuthShare.shares_of_split`;
each `gen_*` helper then stores sharings of vectors that have the wanted relation
by construction. The counts in `Yields` say where on the tape each helper starts,
which is only needed to say which draws the inverse pairs are made from.
-/

namespace RelayerExtensions.Dealer

open AuthShare Tape

variable {F : Type} [Field F] {PK : Type} {inverse : F → Option F}

/-! ## The helpers -/

omit [Field F] in
theorem yields_random (t : Tape F) : Yields (random : Gen F F) t 1 0 t.scalars.head := rfl

omit [Field F] in
theorem yields_randoms (n : Nat) (t : Tape F) :
    Yields (repeatDraw random n : Gen F _) t n 0 (t.scalars.take n) := yields_scalars n t

theorem genSecretShares_yields : ∀ (values : List F) (t : Tape F),
    Yields (genSecretShares values) t values.length 0
      (t.scalars.take values.length,
        List.zipWith (· - ·) values (t.scalars.take values.length))
  | [], t => yields_pure t _
  | value :: rest, t => by
      have htail := genSecretShares_yields rest (t.skip 1 0)
      unfold Yields genSecretShares
      rw [(yields_random t).bind_eq, htail.bind_eq, skip_skip, List.length_cons, Nat.add_comm 1]
      rfl

/-- Authenticating a vector costs two draws an element and gives a sharing of it. -/
theorem genAuthenticatedSecretShares_yields (macKey : F) (values : List F) (t : Tape F) :
    ∃ xs ys, Yields (genAuthenticatedSecretShares macKey values) t (2 * values.length) 0 (xs, ys)
      ∧ Shares macKey values xs ys := by
  have hv := genSecretShares_yields values t
  have hm := genSecretShares_yields (computeMacs macKey values) (t.skip values.length 0)
  have hlen : (computeMacs macKey values).length = values.length := List.length_map ..
  rw [hlen] at hm
  refine ⟨_, _, ?_, shares_of_split macKey values (t.scalars.take values.length)
    ((t.skip values.length 0).scalars.take values.length) (Stream'.length_take ..)
    (Stream'.length_take ..)⟩
  unfold Yields genAuthenticatedSecretShares
  dsimp only
  rw [hv.bind_eq, hm.bind_eq, skip_skip, two_mul]
  rfl

theorem genRandomBits_yields (n : Nat) (macKey : F) (r : Responses F) (t : Tape F) :
    ∃ w xs ys, Yields (genRandomBits n macKey r) t (2 * n) n
        (r.1.setRandomBits xs, r.2.setRandomBits ys)
      ∧ w.length = n ∧ Shares macKey (List.map ofBool w) xs ys := by
  have hb : Yields (repeatDraw bit n : Gen F _) t 0 n (t.bits.take n) := yields_bits n t
  obtain ⟨xs, ys, hs, hsh⟩ := genAuthenticatedSecretShares_yields macKey
    ((t.bits.take n).map ofBool) (t.skip 0 n)
  rw [List.length_map, Stream'.length_take] at hs
  refine ⟨_, xs, ys, ?_, Stream'.length_take .., hsh⟩
  unfold Yields genRandomBits
  rw [hb.bind_eq, hs.bind_eq, skip_skip, Nat.zero_add]
  rfl

theorem genRandomValues_yields (n : Nat) (macKey : F) (r : Responses F) (t : Tape F) :
    ∃ vs xs ys, Yields (genRandomValues n macKey r) t (3 * n) 0
        (r.1.setRandomValues xs, r.2.setRandomValues ys)
      ∧ vs.length = n ∧ Shares macKey vs xs ys := by
  obtain ⟨xs, ys, hs, hsh⟩ := genAuthenticatedSecretShares_yields macKey
    (t.scalars.take n) (t.skip n 0)
  rw [Stream'.length_take] at hs
  refine ⟨_, xs, ys, ?_, Stream'.length_take .., hsh⟩
  unfold Yields genRandomValues
  rw [(yields_randoms n t).bind_eq, hs.bind_eq, skip_skip, show n + 2 * n = 3 * n by omega]
  rfl

/-- Each party's masks are shared crosswise: the first slot of one response opens with the
second slot of the other. -/
theorem genInputMasks_yields (n : Nat) (macKey : F) (r : Responses F) (t : Tape F) :
    ∃ m1 m2 x1 x2 y1 y2, Yields (genInputMasks n macKey r) t (6 * n) 0
        (r.1.setInputMasks m1 x1 y1, r.2.setInputMasks m2 y2 x2)
      ∧ m1.length = n ∧ m2.length = n
      ∧ Shares macKey m1 x1 x2 ∧ Shares macKey m2 y1 y2 := by
  obtain ⟨x1, x2, hx, hxs⟩ := genAuthenticatedSecretShares_yields macKey
    (t.scalars.take n) ((t.skip n 0).skip n 0)
  obtain ⟨y1, y2, hy, hys⟩ := genAuthenticatedSecretShares_yields macKey
    ((t.skip n 0).scalars.take n) (((t.skip n 0).skip n 0).skip (2 * n) 0)
  rw [Stream'.length_take] at hx hy
  refine ⟨_, _, x1, x2, y1, y2, ?_, Stream'.length_take .., Stream'.length_take .., hxs, hys⟩
  unfold Yields genInputMasks
  rw [(yields_randoms n t).bind_eq, (yields_randoms n _).bind_eq, hx.bind_eq]
  dsimp only
  rw [hy.bind_eq]
  simp only [skip_skip, show n + n + 2 * n + 2 * n = 6 * n by omega]
  rfl

omit [Field F] in
/-- Inverting a vector returns exactly if each of its values has an inverse. -/
theorem invertAll_ok_iff : ∀ (xs : List F),
    (∃ inv, invertAll inverse xs = .ok inv ∧ inv.length = xs.length)
      ↔ ∀ x ∈ xs, (inverse x).isSome
  | [] => by simp [invertAll]
  | x :: xs => by
      rw [List.forall_mem_cons, ← invertAll_ok_iff xs, invertAll]
      cases inverse x with
      | none => simp
      | some y =>
          cases invertAll inverse xs with
          | error e | ok inv => simp [Except.map]

omit [Field F] in
theorem invertAll_error {xs : List F}
    (h : ¬ ∀ x ∈ xs, (inverse x).isSome) : ∃ e, invertAll inverse xs = .error e := by
  induction xs with
  | nil => simp at h
  | cons x xs ih =>
      rw [invertAll]
      cases hx : inverse x with
      | none => exact ⟨_, rfl⟩
      | some y =>
          obtain ⟨e, he⟩ := ih fun hall => h (List.forall_mem_cons.mpr ⟨by simp [hx], hall⟩)
          exact ⟨e, by rw [he]; rfl⟩

/-- The inverses exist once every value drawn is nonzero. -/
theorem invertAll_ok (hinv : ∀ x, x ≠ 0 → inverse x = some x⁻¹) :
    ∀ (xs : List F), (∀ x ∈ xs, x ≠ 0) → invertAll inverse xs = .ok (xs.map (·⁻¹))
  | [], _ => rfl
  | x :: xs, h => by
      rw [invertAll, hinv x (h x (List.mem_cons_self ..)),
        invertAll_ok hinv xs fun y hy => h y (List.mem_cons_of_mem _ hy)]
      rfl

theorem genInversePairs_yields (n : Nat) (macKey : F) (r : Responses F) (t : Tape F) {inv : List F}
    (hok : invertAll inverse (t.scalars.take n) = .ok inv) (hlen : inv.length = n) :
    ∃ x1 x2 y1 y2, Yields (genInversePairs inverse n macKey r) t (5 * n) 0
        (r.1.setInversePairs x1 y1, r.2.setInversePairs x2 y2)
      ∧ Shares macKey (t.scalars.take n) x1 x2 ∧ Shares macKey inv y1 y2 := by
  have h2 : Yields (liftM (invertAll inverse (t.scalars.take n)) : Gen F _) (t.skip n 0) 0 0
      inv := by
    rw [hok]; exact yields_ok _ _
  obtain ⟨x1, x2, hx, hxs⟩ := genAuthenticatedSecretShares_yields macKey
    (t.scalars.take n) ((t.skip n 0).skip 0 0)
  obtain ⟨y1, y2, hy, hys⟩ := genAuthenticatedSecretShares_yields macKey
    inv (((t.skip n 0).skip 0 0).skip (2 * n) 0)
  rw [Stream'.length_take] at hx
  rw [hlen] at hy
  refine ⟨x1, x2, y1, y2, ?_, hxs, hys⟩
  unfold Yields genInversePairs
  rw [(yields_randoms n t).bind_eq, h2.bind_eq, hx.bind_eq]
  dsimp only
  rw [hy.bind_eq]
  simp only [skip_skip, show n + 0 + 2 * n + 2 * n = 5 * n by omega]
  rfl

theorem genInversePairs_error (n : Nat) (macKey : F) (r : Responses F) (t : Tape F) {e : Panic}
    (he : invertAll inverse (t.scalars.take n) = .error e) :
    genInversePairs inverse n macKey r t = .error e := by
  unfold genInversePairs
  rw [(yields_randoms n t).bind_eq]
  refine bind_error ?_
  rw [he]
  rfl

/-- The three vectors have one length, so neither setter's assertion fires. -/
theorem genTriples_yields (n : Nat) (macKey : F) (r : Responses F) (t : Tape F) :
    ∃ a b a1 a2 b1 b2 c1 c2, Yields (genTriples n macKey r) t (8 * n) 0
        ({ r.1 with beaverTriples := (a1, b1, c1) }, { r.2 with beaverTriples := (a2, b2, c2) })
      ∧ a.length = n ∧ b.length = n
      ∧ Shares macKey a a1 a2 ∧ Shares macKey b b1 b2
      ∧ Shares macKey (List.zipWith (· * ·) a b) c1 c2 := by
  obtain ⟨a1, a2, ha, has⟩ := genAuthenticatedSecretShares_yields macKey
    (t.scalars.take n) ((t.skip n 0).skip n 0)
  obtain ⟨b1, b2, hb, hbs⟩ := genAuthenticatedSecretShares_yields macKey
    ((t.skip n 0).scalars.take n) (((t.skip n 0).skip n 0).skip (2 * n) 0)
  obtain ⟨c1, c2, hc, hcs⟩ := genAuthenticatedSecretShares_yields macKey
    (List.zipWith (· * ·) (t.scalars.take n) ((t.skip n 0).scalars.take n))
    ((((t.skip n 0).skip n 0).skip (2 * n) 0).skip (2 * n) 0)
  have la : (t.scalars.take n).length = n := Stream'.length_take ..
  have lb : ((t.skip n 0).scalars.take n).length = n := Stream'.length_take ..
  have lc : (List.zipWith (· * ·) (t.scalars.take n) ((t.skip n 0).scalars.take n)).length
      = n := by
    rw [List.length_zipWith, la, lb, Nat.min_self]
  have hs1 : r.1.setTriples a1 b1 c1 = .ok { r.1 with beaverTriples := (a1, b1, c1) } :=
    DealerResponse.setTriples_ok (by rw [has.length_eq.1, hbs.length_eq.1, la, lb])
      (by rw [has.length_eq.1, hcs.length_eq.1, la, lc])
  have hs2 : r.2.setTriples a2 b2 c2 = .ok { r.2 with beaverTriples := (a2, b2, c2) } :=
    DealerResponse.setTriples_ok (by rw [has.length_eq.2, hbs.length_eq.2, la, lb])
      (by rw [has.length_eq.2, hcs.length_eq.2, la, lc])
  rw [la] at ha
  rw [lb] at hb
  rw [lc] at hc
  refine ⟨_, _, a1, a2, b1, b2, c1, c2, ?_, la, lb, has, hbs, hcs⟩
  unfold Yields genTriples
  rw [(yields_randoms n t).bind_eq, (yields_randoms n _).bind_eq, ha.bind_eq]
  dsimp only
  rw [hb.bind_eq]
  dsimp only
  rw [hc.bind_eq]
  dsimp only
  rw [hs1, (yields_ok _ _).bind_eq, hs2, (yields_ok _ _).bind_eq]
  simp only [skip_skip, show n + n + 2 * n + 2 * n + 2 * n + 0 + 0 = 8 * n by omega]
  rfl

/-! ## The contract -/

/-- Two vectors of `n` shares, each position carrying a valid tag under `α`. -/
def Authenticated (α : F) (n : Nat) (xs ys : List (ScalarShare F)) : Prop :=
  xs.length = n ∧ ys.length = n ∧
    ∀ (i : Nat) (x y : ScalarShare F), xs[i]? = some x → ys[i]? = some y →
      x.mac + y.mac = α * (x.share + y.share)

theorem authenticated_of_shares {α : F} {vs : List F} {xs ys : List (ScalarShare F)}
    (h : Shares α vs xs ys) {n : Nat} (hn : vs.length = n) : Authenticated α n xs ys :=
  ⟨h.length_eq.1.trans hn, h.length_eq.2.trans hn, h.mac_eq⟩

/-- The key the tags are made with: neither party holds it. -/
def jointMacKey (r : Responses F) : F := r.1.macKeyShare + r.2.macKeyShare

/-- What the pair may rely on, in terms of the two responses and the request. -/
structure WellDealt (req : DealerRequest PK) (r : Responses F) : Prop where
  randomBits : Authenticated (jointMacKey r) req.nRandomBits.toNat r.1.randomBits r.2.randomBits
  bits : ∀ v ∈ recover r.1.randomBits r.2.randomBits, v = 0 ∨ v = 1
  randomValues : Authenticated (jointMacKey r) req.nRandomValues.toNat
    r.1.randomValues r.2.randomValues
  masks1 : Authenticated (jointMacKey r) req.nInputMasks.toNat r.1.inputMasks.2.1 r.2.inputMasks.2.2
  masks2 : Authenticated (jointMacKey r) req.nInputMasks.toNat r.1.inputMasks.2.2 r.2.inputMasks.2.1
  cleartext_length : r.1.inputMasks.1.length = req.nInputMasks.toNat
    ∧ r.2.inputMasks.1.length = req.nInputMasks.toNat
  cleartext1 : recover r.1.inputMasks.2.1 r.2.inputMasks.2.2 = r.1.inputMasks.1
  cleartext2 : recover r.1.inputMasks.2.2 r.2.inputMasks.2.1 = r.2.inputMasks.1
  values : Authenticated (jointMacKey r) req.nInversePairs.toNat
    r.1.inversePairs.1 r.2.inversePairs.1
  inverses : Authenticated (jointMacKey r) req.nInversePairs.toNat
    r.1.inversePairs.2 r.2.inversePairs.2
  inverse_mul : ∀ (i : Nat) (v w : F),
    (recover r.1.inversePairs.1 r.2.inversePairs.1)[i]? = some v →
    (recover r.1.inversePairs.2 r.2.inversePairs.2)[i]? = some w → v * w = 1
  triplesA : Authenticated (jointMacKey r) req.nTriples.toNat
    r.1.beaverTriples.1 r.2.beaverTriples.1
  triplesB : Authenticated (jointMacKey r) req.nTriples.toNat
    r.1.beaverTriples.2.1 r.2.beaverTriples.2.1
  triplesC : Authenticated (jointMacKey r) req.nTriples.toNat
    r.1.beaverTriples.2.2 r.2.beaverTriples.2.2
  triple_mul : ∀ (i : Nat) (a b c : F),
    (recover r.1.beaverTriples.1 r.2.beaverTriples.1)[i]? = some a →
    (recover r.1.beaverTriples.2.1 r.2.beaverTriples.2.1)[i]? = some b →
    (recover r.1.beaverTriples.2.2 r.2.beaverTriples.2.2)[i]? = some c → a * b = c

/-- The draws `genInversePairs` turns into values: they start after everything the helpers
before it have used. -/
def inverseDraws (req : DealerRequest PK) (t : Tape F) : List F :=
  (t.scalars.drop (2 + 2 * req.nRandomBits.toNat + 3 * req.nRandomValues.toNat
    + 6 * req.nInputMasks.toNat)).take req.nInversePairs.toNat

/-- Generation up to the inverse pairs, where it always gets. -/
theorem genResponses_eq (inverse : F → Option F) (req : DealerRequest PK) (t : Tape F) :
    ∃ r t₁ w x m1 m2, genResponses inverse req t =
        (genInversePairs inverse req.nInversePairs.toNat t.scalars.head r >>=
          genTriples req.nTriples.toNat t.scalars.head) t₁
      ∧ inverseDraws req t = t₁.scalars.take req.nInversePairs.toNat
      ∧ jointMacKey r = t.scalars.head
      ∧ (Shares t.scalars.head (List.map ofBool w) r.1.randomBits r.2.randomBits
        ∧ w.length = req.nRandomBits.toNat)
      ∧ (Shares t.scalars.head x r.1.randomValues r.2.randomValues
        ∧ x.length = req.nRandomValues.toNat)
      ∧ (Shares t.scalars.head m1 r.1.inputMasks.2.1 r.2.inputMasks.2.2 ∧ r.1.inputMasks.1 = m1
        ∧ m1.length = req.nInputMasks.toNat)
      ∧ (Shares t.scalars.head m2 r.1.inputMasks.2.2 r.2.inputMasks.2.1 ∧ r.2.inputMasks.1 = m2
        ∧ m2.length = req.nInputMasks.toNat) := by
  obtain ⟨w, b1, b2, hb, lw, hbs⟩ := genRandomBits_yields req.nRandomBits.toNat t.scalars.head
    ({ macKeyShare := (t.skip 1 0).scalars.head },
      { macKeyShare := t.scalars.head - (t.skip 1 0).scalars.head }) ((t.skip 1 0).skip 1 0)
  obtain ⟨x, v1, v2, hv, lx, hvs⟩ := genRandomValues_yields req.nRandomValues.toNat t.scalars.head
    (_, _) (((t.skip 1 0).skip 1 0).skip (2 * req.nRandomBits.toNat) req.nRandomBits.toNat)
  obtain ⟨m1, m2, x1, x2, y1, y2, hm, lm1, lm2, hxs, hys⟩ :=
    genInputMasks_yields req.nInputMasks.toNat t.scalars.head (_, _)
      ((((t.skip 1 0).skip 1 0).skip (2 * req.nRandomBits.toNat)
        req.nRandomBits.toNat).skip (3 * req.nRandomValues.toNat) 0)
  refine ⟨?r, ?t, w, x, m1, m2, ?run, ?rest⟩
  case run =>
    unfold genResponses
    rw [(yields_random t).bind_eq, (yields_random _).bind_eq, hb.bind_eq, hv.bind_eq, hm.bind_eq]
  case rest =>
    exact ⟨by simp only [skip_skip]; rfl, add_sub_cancel _ _, ⟨hbs, lw⟩, ⟨hvs, lx⟩,
      ⟨hxs, rfl, lm1⟩, hys, rfl, lm2⟩

/-- On a tape whose inverse draws invert, generation returns; the responses are made of
sharings of vectors with the wanted relations. -/
theorem genResponses_yields (req : DealerRequest PK) (t : Tape F) {inv : List F}
    (hok : invertAll inverse (inverseDraws req t) = .ok inv)
    (hlen : inv.length = req.nInversePairs.toNat) :
    ∃ r t' α w x m1 m2 a b, genResponses inverse req t = .ok (r, t')
      ∧ jointMacKey r = α
      ∧ (Shares α (List.map ofBool w) r.1.randomBits r.2.randomBits
        ∧ w.length = req.nRandomBits.toNat)
      ∧ (Shares α x r.1.randomValues r.2.randomValues ∧ x.length = req.nRandomValues.toNat)
      ∧ (Shares α m1 r.1.inputMasks.2.1 r.2.inputMasks.2.2 ∧ r.1.inputMasks.1 = m1
        ∧ m1.length = req.nInputMasks.toNat)
      ∧ (Shares α m2 r.1.inputMasks.2.2 r.2.inputMasks.2.1 ∧ r.2.inputMasks.1 = m2
        ∧ m2.length = req.nInputMasks.toNat)
      ∧ Shares α (inverseDraws req t) r.1.inversePairs.1 r.2.inversePairs.1
      ∧ Shares α inv r.1.inversePairs.2 r.2.inversePairs.2
      ∧ (Shares α a r.1.beaverTriples.1 r.2.beaverTriples.1 ∧ a.length = req.nTriples.toNat)
      ∧ (Shares α b r.1.beaverTriples.2.1 r.2.beaverTriples.2.1
        ∧ b.length = req.nTriples.toNat)
      ∧ Shares α (List.zipWith (· * ·) a b) r.1.beaverTriples.2.2 r.2.beaverTriples.2.2 := by
  obtain ⟨r, t₁, w, x, m1, m2, heq, hdraws, hkey, hbits, hvalues, hmasks1, hmasks2⟩ :=
    genResponses_eq inverse req t
  rw [hdraws] at hok
  obtain ⟨p1, p2, q1, q2, hi, hps, hqs⟩ := genInversePairs_yields req.nInversePairs.toNat
    t.scalars.head r _ hok hlen
  obtain ⟨a, b, a1, a2, c1, c2, d1, d2, ht, la, lb, has, hcs, hds⟩ :=
    genTriples_yields req.nTriples.toNat t.scalars.head (_, _)
      (t₁.skip (5 * req.nInversePairs.toNat) 0)
  refine ⟨?r, ?t, t.scalars.head, w, x, m1, m2, a, b, ?run, ?rest⟩
  case run =>
    rw [heq, hi.bind_eq]
    exact ht
  case rest =>
    rw [hdraws]
    exact ⟨hkey, hbits, hvalues, hmasks1, hmasks2, hps, hqs, ⟨has, la⟩, ⟨hcs, lb⟩, hds⟩

/-- A draw without an inverse stops generation where the inverses are taken. -/
theorem genResponses_error (req : DealerRequest PK) (t : Tape F) {e : Panic}
    (he : invertAll inverse (inverseDraws req t) = .error e) :
    genResponses inverse req t = .error e := by
  obtain ⟨r, t₁, -, -, -, -, heq, hdraws, -⟩ := genResponses_eq inverse req t
  rw [hdraws] at he
  rw [heq]
  exact bind_error (genInversePairs_error _ _ _ _ he)

/-- Every value drawn for an inverse pair has an inverse. -/
def Invertible (inverse : F → Option F) (req : DealerRequest PK) (t : Tape F) : Prop :=
  ∀ x ∈ inverseDraws req t, (inverse x).isSome

instance (inverse : F → Option F) (req : DealerRequest PK) (t : Tape F) :
    Decidable (Invertible inverse req t) :=
  inferInstanceAs (Decidable (∀ x ∈ inverseDraws req t, (inverse x).isSome))

/-- A value without an inverse is the only thing that stops generation. -/
theorem genResponses_ok_iff {req : DealerRequest PK} {t : Tape F} :
    (∃ r t', genResponses inverse req t = .ok (r, t')) ↔ Invertible inverse req t := by
  have hlen : (inverseDraws req t).length = req.nInversePairs.toNat := Stream'.length_take ..
  constructor
  · rintro ⟨r, t', hrun⟩
    by_contra hno
    obtain ⟨e, he⟩ := invertAll_error hno
    rw [genResponses_error req t he] at hrun
    cases hrun
  · intro hinv
    obtain ⟨inv, hok, hl⟩ := (invertAll_ok_iff _).mpr hinv
    obtain ⟨r, t', -, -, -, -, -, -, -, hrun, -⟩ := genResponses_yields req t hok (hl.trans hlen)
    exact ⟨r, t', hrun⟩

theorem getElem?_zipWith_mul {xs ys zs : List F} (h : zs = List.zipWith (· * ·) xs ys) {i : Nat}
    {x y z : F} (hx : xs[i]? = some x) (hy : ys[i]? = some y) (hz : zs[i]? = some z) :
    x * y = z := by
  subst h
  rw [List.getElem?_zipWith, hx, hy] at hz
  exact Option.some.inj hz

/--
**Every request is dealt a well-formed pair of responses**: whatever is drawn, as long as the
values drawn for inverse pairs are nonzero, generation returns, no setter's assertion fires,
and the two responses meet the contract.
-/
theorem genResponses_wellDealt {inverse : F → Option F} (hinv : ∀ x, x ≠ 0 → inverse x = some x⁻¹)
    (req : DealerRequest PK) (t : Tape F) (hnz : ∀ x ∈ inverseDraws req t, x ≠ 0) :
    ∃ r t', genResponses inverse req t = .ok (r, t')
      ∧ WellDealt req r := by
  have hlen : (inverseDraws req t).length = req.nInversePairs.toNat := Stream'.length_take ..
  obtain ⟨r, t', α, w, x, m1, m2, a, b, hrun, hα, ⟨hw, lw⟩, ⟨hx, lx⟩, ⟨h1, e1, l1⟩,
    ⟨h2, e2, l2⟩, hv, hi, ⟨ha, la⟩, ⟨hb, lb⟩, hc⟩ :=
    genResponses_yields req t (invertAll_ok hinv _ hnz) ((List.length_map ..).trans hlen)
  subst hα
  refine ⟨r, t', hrun, ?_⟩
  have lc : (List.zipWith (· * ·) a b).length = req.nTriples.toNat := by
    rw [List.length_zipWith, la, lb, Nat.min_self]
  constructor
  case randomBits => exact authenticated_of_shares hw ((List.length_map ..).trans lw)
  case bits =>
    intro v hmem
    rw [hw.recover_eq] at hmem
    obtain ⟨bit, -, rfl⟩ := List.mem_map.mp hmem
    cases bit
    · exact .inl rfl
    · exact .inr rfl
  case randomValues => exact authenticated_of_shares hx lx
  case masks1 => exact authenticated_of_shares h1 l1
  case masks2 => exact authenticated_of_shares h2 l2
  case cleartext_length => exact ⟨e1 ▸ l1, e2 ▸ l2⟩
  case cleartext1 => exact h1.recover_eq.trans e1.symm
  case cleartext2 => exact h2.recover_eq.trans e2.symm
  case values => exact authenticated_of_shares hv hlen
  case inverses => exact authenticated_of_shares hi ((List.length_map ..).trans hlen)
  case inverse_mul =>
    intro i v u hvi hui
    rw [hv.recover_eq] at hvi
    rw [hi.recover_eq, List.getElem?_map, hvi] at hui
    injection hui with hui
    rw [← hui]
    exact mul_inv_cancel₀ (hnz v (List.mem_of_getElem? hvi))
  case triplesA => exact authenticated_of_shares ha la
  case triplesB => exact authenticated_of_shares hb lb
  case triplesC => exact authenticated_of_shares hc lc
  case triple_mul =>
    intro i u v z hu hv' hz
    rw [ha.recover_eq] at hu
    rw [hb.recover_eq] at hv'
    rw [hc.recover_eq] at hz
    exact getElem?_zipWith_mul rfl hu hv' hz

instance fact_prime_thirteen : Fact (Nat.Prime 13) := ⟨by decide⟩

/-- A pair that asks for some of everything. -/
def sampleRequest : DealerRequest Unit where
  firstPartyKey := ()
  secondPartyKey := ()
  nRandomBits := 2
  nRandomValues := 1
  nInputMasks := 1
  nInversePairs := 2
  nTriples := 3

theorem genResponses_wellDealt_sample :
    ∃ r t', genResponses (fun x : ZMod 13 => if x = 0 then none else some x⁻¹) sampleRequest
        ⟨Stream'.const 1, Stream'.const true⟩ = .ok (r, t')
      ∧ WellDealt sampleRequest r :=
  genResponses_wellDealt (fun _ hx => if_neg hx) _ _ (by
    intro x hx
    have h1 : x = 1 := by
      simpa [inverseDraws, sampleRequest, Stream'.drop_const, Stream'.take] using hx
    rw [h1]
    decide)

end RelayerExtensions.Dealer
