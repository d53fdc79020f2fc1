import RelayerExtensions.Lib.AuthShare

/-!
# The dealer's API types

The request two parties send, the response each of them gets back, and the
checks the HTTP layer makes before a request reaches the dealer
(`dealer/renegade-dealer-api/src/lib.rs` and `validate_request` in
`dealer/renegade-dealer/src/main.rs`).

The public keys, the signature scheme, base64 and the JSON encoding of a request
are library code: they enter as the type `PK` and the functions of `SigScheme`.
Counts are `u32` and their sum wraps, as in the release build the image runs.

The checks have two gaps. A header that is no signature ends in an `unwrap`, and a sum that
wraps is small again; `validate_request_iff` says that there are no others.
-/

namespace RelayerExtensions.Dealer

abbrev Bytes := List UInt8

/-- A request identifier (`uuid::Uuid`). -/
abbrev RequestId := BitVec 128

/-- The index of a party in a pair (`ark_mpc::network::PartyId`). -/
abbrev PartyId := UInt64

def party0 : PartyId := 0

def party1 : PartyId := 1

/-- A share of a scalar and of its tag (`ark_mpc::algebra::ScalarShare`). -/
abbrev ScalarShare (F : Type) := AuthShare F

/-- The places where the dealer's code stops with a panic. -/
inductive Panic where
  /-- `assert_eq!` on the lengths of a triple's vectors. -/
  | lengthMismatch
  /-- `Scalar::inverse` has no value to return. -/
  | noInverse
  /-- `assert_eq!` on the bodies of two requests with one id. -/
  | requestMismatch
  /-- `send(..).unwrap()` on a channel whose receiver is gone. -/
  | channelClosed
  /-- `lock().unwrap()` on a poisoned mutex. -/
  | lockPoisoned
  /-- `unwrap()` on a signature header that does not decode. -/
  | malformedSignature
deriving DecidableEq

/-- A request for offline phase randomness. -/
structure DealerRequest (PK : Type) where
  firstPartyKey : PK
  secondPartyKey : PK
  nRandomBits : UInt32
  nRandomValues : UInt32
  nInputMasks : UInt32
  nInversePairs : UInt32
  nTriples : UInt32
deriving DecidableEq

/-- The number of values a request asks for, as the code adds it up. -/
def DealerRequest.totalValues {PK : Type} (r : DealerRequest PK) : UInt32 :=
  r.nRandomBits + r.nRandomValues + r.nInputMasks + r.nInversePairs + r.nTriples

/-- One party's half of the correlated randomness. -/
structure DealerResponse (F : Type) where
  macKeyShare : F
  randomBits : List (ScalarShare F) := []
  randomValues : List (ScalarShare F) := []
  /-- Cleartext masks, the shares of them, and the shares of the counterparty's masks. -/
  inputMasks : List F × List (ScalarShare F) × List (ScalarShare F) := ([], [], [])
  /-- Shares of values and shares of their inverses. -/
  inversePairs : List (ScalarShare F) × List (ScalarShare F) := ([], [])
  beaverTriples : List (ScalarShare F) × List (ScalarShare F) × List (ScalarShare F) :=
    ([], [], [])
deriving DecidableEq

namespace DealerResponse

variable {F : Type}

def setRandomBits (r : DealerResponse F) (bits : List (ScalarShare F)) : DealerResponse F :=
  { r with randomBits := bits }

def setRandomValues (r : DealerResponse F) (values : List (ScalarShare F)) : DealerResponse F :=
  { r with randomValues := values }

def setInputMasks (r : DealerResponse F) (cleartext : List F)
    (shares1 shares2 : List (ScalarShare F)) : DealerResponse F :=
  { r with inputMasks := (cleartext, shares1, shares2) }

def setInversePairs (r : DealerResponse F) (x xInv : List (ScalarShare F)) : DealerResponse F :=
  { r with inversePairs := (x, xInv) }

/-- The only setter that checks anything: the three vectors have one length. -/
def setTriples (r : DealerResponse F) (a b c : List (ScalarShare F)) :
    Except Panic (DealerResponse F) :=
  if a.length ≠ b.length then .error .lengthMismatch
  else if a.length ≠ c.length then .error .lengthMismatch
  else .ok { r with beaverTriples := (a, b, c) }

theorem setTriples_ok {r : DealerResponse F} {a b c : List (ScalarShare F)}
    (hb : a.length = b.length) (hc : a.length = c.length) :
    r.setTriples a b c = .ok { r with beaverTriples := (a, b, c) } := by
  unfold setTriples
  rw [if_neg (not_not.mpr hb), if_neg (not_not.mpr hc)]

end DealerResponse

/-- An error returned to a client (`BadRequestError`). -/
structure BadRequestError where
  message : String
deriving DecidableEq

/-! ## Validation -/

/-- The library code `validateRequest` relies on. -/
structure SigScheme (PK Sig : Type) where
  /-- `BASE64_STANDARD.decode`, on the bytes of the header. -/
  base64Decode : String → Option Bytes
  /-- `Signature::from_slice` -/
  fromSlice : Bytes → Option Sig
  /-- `VerifyingKey::verify` -/
  verify : PK → Bytes → Sig → Bool
  /-- `serde_json::to_vec` -/
  toJson : DealerRequest PK → Bytes
  /-- `Uuid::to_bytes_le` -/
  uuidBytes : RequestId → Bytes

inductive Rejection where
  | badRequest (err : BadRequestError)
  | unauthorized (message : String)
deriving DecidableEq

/-- The maximum number of values that may be requested at once by a pair. -/
def maxRequestSize : UInt32 := 1500000

/-- Check an incoming request; the outer result is a panic of the check itself. -/
def validateRequest {PK Sig : Type} (sch : SigScheme PK Sig) (requestId : RequestId)
    (partyId : PartyId) (signature : String) (body : DealerRequest PK) :
    Except Panic (Except Rejection Unit) :=
  if body.totalValues > maxRequestSize then
    .ok (.error (.badRequest ⟨"Request size too large"⟩))
  else if ¬ (partyId = party0 ∨ partyId = party1) then
    .ok (.error (.badRequest ⟨"Invalid party ID"⟩))
  else
    let key := if partyId = party0 then body.firstPartyKey else body.secondPartyKey
    match sch.base64Decode signature with
    | none => .error .malformedSignature
    | some decoded =>
      match sch.fromSlice decoded with
      | none => .error .malformedSignature
      | some sig =>
        let payload := sch.uuidBytes requestId ++ sch.toJson body
        if sch.verify key payload sig then .ok (.ok ())
        else .ok (.error (.unauthorized "Invalid signature"))

/-! ## What a validated request is -/

/-- The number of values a request asks for. -/
def DealerRequest.requested {PK : Type} (r : DealerRequest PK) : Nat :=
  r.nRandomBits.toNat + r.nRandomValues.toNat + r.nInputMasks.toNat + r.nInversePairs.toNat +
    r.nTriples.toNat

theorem DealerRequest.totalValues_toNat {PK : Type} (r : DealerRequest PK) :
    r.totalValues.toNat = r.requested % 2 ^ 32 := by
  simp only [totalValues, requested, UInt32.toNat_add, Nat.mod_add_mod]

section Validate

variable {PK Sig : Type} (sch : SigScheme PK Sig) (requestId : RequestId) (partyId : PartyId)
  (signature : String) (body : DealerRequest PK)

/-- The key of the party the request claims to be from. -/
def claimedKey : PK := if partyId = party0 then body.firstPartyKey else body.secondPartyKey

/-- What is signed. -/
def SigScheme.payload : Bytes := sch.uuidBytes requestId ++ sch.toJson body

/-- The signature in a header. -/
def SigScheme.decode : Option Sig := (sch.base64Decode signature).bind sch.fromSlice

/-- The check answers, and what it lets through is small enough and signed. -/
structure Guarded : Prop where
  answers : ∃ answer, validateRequest sch requestId partyId signature body = .ok answer
  accepts : validateRequest sch requestId partyId signature body = .ok (.ok ()) →
    body.requested ≤ maxRequestSize.toNat ∧ ∃ sig, sch.decode signature = some sig ∧
      sch.verify (claimedKey partyId body) (sch.payload requestId body) sig = true

variable {sch requestId partyId signature body}

/-- A header without a signature stops the check. -/
theorem validateRequest_of_none (hsize : ¬ body.totalValues > maxRequestSize)
    (hparty : partyId = party0 ∨ partyId = party1) (hdecode : sch.decode signature = none) :
    validateRequest sch requestId partyId signature body = .error .malformedSignature := by
  unfold validateRequest
  rw [if_neg hsize, if_neg (not_not.mpr hparty)]
  dsimp only
  unfold SigScheme.decode at hdecode
  cases hbytes : sch.base64Decode signature with
  | none => rfl
  | some decoded =>
      rw [hbytes, Option.bind_some] at hdecode
      dsimp only
      rw [hdecode]

/-- With a signature, the answer is whether it is the party's. -/
theorem validateRequest_of_some {sig : Sig} (hsize : ¬ body.totalValues > maxRequestSize)
    (hparty : partyId = party0 ∨ partyId = party1) (hdecode : sch.decode signature = some sig) :
    validateRequest sch requestId partyId signature body =
      if sch.verify (claimedKey partyId body) (sch.payload requestId body) sig then .ok (.ok ())
      else .ok (.error (.unauthorized "Invalid signature")) := by
  obtain ⟨decoded, hbytes, hsig⟩ := Option.bind_eq_some_iff.mp hdecode
  unfold validateRequest
  rw [if_neg hsize, if_neg (not_not.mpr hparty), hbytes]
  dsimp only
  rw [hsig]
  rfl

theorem guarded_of_rejected {err : Rejection}
    (h : validateRequest sch requestId partyId signature body = .ok (.error err)) :
    Guarded sch requestId partyId signature body := by
  refine ⟨⟨_, h⟩, fun hok => ?_⟩
  rw [h] at hok
  cases hok

/--
**The check is sound exactly if a request is turned away for its size or its party, or its
header holds a signature and either the counts add up without a carry or that signature is
not the party's.**
-/
theorem validate_request_iff :
    Guarded sch requestId partyId signature body ↔
      maxRequestSize.toNat < body.requested % 2 ^ 32 ∨
      ¬ (partyId = party0 ∨ partyId = party1) ∨
      ∃ sig, sch.decode signature = some sig ∧ (body.requested < 2 ^ 32 ∨
        sch.verify (claimedKey partyId body) (sch.payload requestId body) sig = false) := by
  rw [← body.totalValues_toNat]
  by_cases hsize : body.totalValues > maxRequestSize
  · exact ⟨fun _ => .inl hsize, fun _ => guarded_of_rejected (if_pos hsize)⟩
  by_cases hparty : partyId = party0 ∨ partyId = party1
  swap
  · exact ⟨fun _ => .inr (.inl hparty),
      fun _ => guarded_of_rejected ((if_neg hsize).trans (if_pos hparty))⟩
  -- the sum wraps, so what has passed is only bounded modulo `2 ^ 32`
  have hwrapped : body.totalValues.toNat ≤ maxRequestSize.toNat := Nat.le_of_not_lt hsize
  have hmod := body.totalValues_toNat
  have hmax : maxRequestSize.toNat < 2 ^ 32 := maxRequestSize.toNat_lt
  cases hdecode : sch.decode signature with
  | none =>
      refine ⟨fun h => ?_, fun h => ?_⟩
      · obtain ⟨answer, hanswer⟩ := h.answers
        rw [validateRequest_of_none hsize hparty hdecode] at hanswer
        cases hanswer
      · rcases h with h | h | ⟨sig, h, -⟩
        · exact absurd h (Nat.not_lt.mpr hwrapped)
        · exact absurd hparty h
        · cases h
  | some sig =>
      have hcheck : validateRequest sch requestId partyId signature body = _ :=
        validateRequest_of_some hsize hparty hdecode
      cases hverify : sch.verify (claimedKey partyId body) (sch.payload requestId body) sig with
      | false =>
          rw [hverify] at hcheck
          exact ⟨fun _ => .inr (.inr ⟨sig, rfl, .inr hverify⟩), fun _ => guarded_of_rejected hcheck⟩
      | true =>
          rw [hverify, if_pos rfl] at hcheck
          constructor
          · intro h
            -- an accepted request is within the limit, which is below `2 ^ 32`
            have hle := (h.accepts hcheck).1
            exact .inr (.inr ⟨sig, rfl, .inl (by omega)⟩)
          · rintro (h | h | ⟨sig', hsig, h⟩)
            · exact absurd h (Nat.not_lt.mpr hwrapped)
            · exact absurd hparty h
            · cases hsig
              rw [hverify] at h
              have hsmall : body.requested < 2 ^ 32 := h.resolve_right (by decide)
              rw [Nat.mod_eq_of_lt hsmall] at hmod
              exact ⟨⟨_, hcheck⟩, fun _ => ⟨hmod ▸ hwrapped, sig, hdecode, hverify⟩⟩

end Validate

/-- A scheme in which a party signs by sending its own key. -/
def keyScheme : SigScheme UInt8 Bytes where
  base64Decode text := if text = "A" then some [65] else if text = "B" then some [66] else none
  fromSlice := some
  verify key _ sig := sig = [key]
  toJson _ := []
  uuidBytes _ := []

/-- Two counts of half the range each, which add up to nothing. -/
def carriedRequest : DealerRequest UInt8 where
  firstPartyKey := 65
  secondPartyKey := 66
  nRandomBits := 2_147_483_648
  nRandomValues := 2_147_483_648
  nInputMasks := 0
  nInversePairs := 0
  nTriples := 0

/-- A request for 2³² values is accepted, and a header that is not base64 stops the check. -/
theorem carried_accepted_and_malformed_panics :
    (validateRequest keyScheme 1 party0 "A" carriedRequest = .ok (.ok ()) ∧
      maxRequestSize.toNat < carriedRequest.requested) ∧
    validateRequest keyScheme 1 party0 "?" carriedRequest = .error .malformedSignature := by
  decide

end RelayerExtensions.Dealer
