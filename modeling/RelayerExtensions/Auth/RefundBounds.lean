import Mathlib.Data.List.Forall2
import RelayerExtensions.Auth.ExactOutput

/-!
# Refunds larger than the amounts they are taken off

A refund in kind is taken off the exact output amount of an order before the order is forwarded:
of the order of a quote or of a direct assembly, of the order inside a quote that is assembled,
and of the updated order that may come with it. Assembling a quote also takes it off the two
amounts of the quote that were raised when the quote was shown. All of these amounts come from the
client, and the refund from gas and token prices.

The subtraction is a plain one on `u128`, which wraps in a release build. What is forwarded is at
every place the amount less the refund, modulo `2 ^ 128` (`Prepared.amounts`), and so it is the
difference of the two numbers exactly where the refund does not exceed the amount
(`refund_taken_off_iff`).
-/

namespace RelayerExtensions.Auth

open Effect

/-! ## The amounts in question -/

/-- The result is the amount less the refund, which is not larger than the amount. -/
def TakenOff (refund amount result : Amount) : Prop :=
  refund ≤ amount ∧ result.toNat = amount.toNat - refund.toNat

theorem takenOff_sub_iff {refund amount : Amount} :
    TakenOff refund amount (amount - refund) ↔ refund ≤ amount :=
  ⟨fun h => h.1, fun h => ⟨h, BitVec.toNat_sub_of_le h⟩⟩

theorem takenOff_map_iff {refund : Amount} {amounts : List Amount} :
    List.Forall₂ (TakenOff refund) amounts (amounts.map (· - refund)) ↔
      ∀ a ∈ amounts, refund ≤ a := by
  simp only [List.forall₂_map_right_iff, List.forall₂_same, takenOff_sub_iff]

/-- The output amount, of an order that fixes it. -/
def ExternalOrder.exactAmounts (order : ExternalOrder) : List Amount :=
  if order.useExactOutputAmount then [order.outputAmount] else []

/-- The amounts of a quote that a refund changes. -/
def ApiExternalQuote.refundedAmounts (quote : ApiExternalQuote) : List Amount :=
  quote.matchResult.outputAmount :: quote.receive.amount :: quote.order.exactAmounts

/-- The amounts of an assembly that a refund changes. -/
def ExternalMatchAssemblyType.refundedAmounts : ExternalMatchAssemblyType → List Amount
  | .quotedOrder signed updated =>
      signed.quote.refundedAmounts ++ (updated.map ExternalOrder.exactAmounts).getD []
  | .directOrder order => order.exactAmounts

/-! ## What becomes of them -/

section Amounts

variable {g : GasSponsorshipInfo}

theorem exactAmounts_update {order order' : ExternalOrder}
    (h : updateExactOutput applyGasSponsorshipToExactOutputAmount order g = .ok order') :
    order'.exactAmounts = order.exactAmounts.map (· - Sponsor.received g) := by
  unfold updateExactOutput at h
  unfold ExternalOrder.exactAmounts
  cases hexact : order.useExactOutputAmount with
  | false =>
      simp only [requiresExactOutputAmountUpdate, hexact, Bool.false_and] at h
      cases h
      rw [hexact]
      rfl
  | true =>
      unfold Sponsor.received
      cases hreq : g.requiresMatchResultUpdate with
      | false =>
          simp only [requiresExactOutputAmountUpdate, hreq, Bool.and_false] at h
          cases h
          simp [hexact]
      | true =>
          simp only [requiresExactOutputAmountUpdate, hexact, hreq, Bool.and_self, if_true,
            applyGasSponsorshipToExactOutputAmount, adjustExactOutput] at h
          cases h
          simp

theorem refundedAmounts_remove {quote quote' : ApiExternalQuote} {cached : CachedSponsorshipInfo}
    (hreq : cached.gasSponsorshipInfo.requiresMatchResultUpdate = true)
    (h : removeGasSponsorshipFromQuote quote cached = .ok quote') :
    quote'.refundedAmounts =
      quote.refundedAmounts.map (· - Sponsor.received cached.gasSponsorshipInfo) := by
  obtain ⟨order, horder, h⟩ := bind_ok.mp h
  cases h
  unfold ApiExternalQuote.refundedAmounts
  rw [List.map_cons, List.map_cons, ← exactAmounts_update horder, Sponsor.received, if_pos hreq]

/-- Nothing is taken off where the refund does not change amounts. -/
theorem map_sub_received_of_not (hreq : g.requiresMatchResultUpdate = false)
    (amounts : List Amount) : amounts.map (· - Sponsor.received g) = amounts := by
  simp [Sponsor.received, hreq]

end Amounts

namespace Server

variable {self : Server} {g : GasSponsorshipInfo}

/-- The quote and the updated order are treated one after the other. -/
theorem unsponsorQuote_cases {cached : CachedSponsorshipInfo} {signed signed' : ApiSignedQuote}
    {updated updated' : Option ExternalOrder}
    (h : unsponsorQuote cached signed updated = .ok (signed', updated')) :
    signed'.quote.refundedAmounts = signed.quote.refundedAmounts.map
        (· - Sponsor.received cached.gasSponsorshipInfo) ∧
      (updated = none ∧ updated' = none ∨ ∃ order order', updated = some order ∧
        updated' = some order' ∧ updateExactOutput applyGasSponsorshipToExactOutputAmount order
          cached.gasSponsorshipInfo = .ok order') := by
  cases hreq : cached.gasSponsorshipInfo.requiresMatchResultUpdate with
  | true =>
      obtain ⟨hquote, hnone, hsome⟩ := unsponsorQuote_ok hreq h
      refine ⟨refundedAmounts_remove hreq hquote, ?_⟩
      cases updated with
      | none => exact .inl ⟨rfl, hnone rfl⟩
      | some order =>
          obtain ⟨order', hupdated, hupdate⟩ := hsome order rfl
          exact .inr ⟨order, order', rfl, hupdated, hupdate⟩
  | false =>
      rw [map_sub_received_of_not hreq]
      unfold unsponsorQuote at h
      rw [if_neg (by rw [hreq]; exact Bool.false_ne_true)] at h
      cases updated with
      | none =>
          cases h
          exact ⟨rfl, .inl ⟨rfl, rfl⟩⟩
      | some order =>
          obtain ⟨quote, hquote, h⟩ := bind_ok.mp h
          obtain ⟨updated'', hupdated, h⟩ := bind_ok.mp h
          obtain ⟨order', horder, rfl⟩ := map_ok.mp hupdated
          cases hquote
          cases h
          exact ⟨rfl, .inr ⟨order, order', rfl, rfl, horder⟩⟩

theorem refundedAmounts_unsponsor {cached : CachedSponsorshipInfo} {signed signed' : ApiSignedQuote}
    {updated updated' : Option ExternalOrder}
    (h : unsponsorQuote cached signed updated = .ok (signed', updated')) :
    (ExternalMatchAssemblyType.quotedOrder signed' updated').refundedAmounts =
      (ExternalMatchAssemblyType.quotedOrder signed updated).refundedAmounts.map
        (· - Sponsor.received cached.gasSponsorshipInfo) := by
  obtain ⟨hquote, ⟨rfl, rfl⟩ | ⟨order, order', rfl, rfl, hupdate⟩⟩ := unsponsorQuote_cases h
  · simp [ExternalMatchAssemblyType.refundedAmounts, hquote]
  · simp [ExternalMatchAssemblyType.refundedAmounts, hquote, exactAmounts_update hupdate]

theorem Sponsors.amounts {stored : Uuid → Option CachedSponsorshipInfo} {queryStr : String}
    {order order' : ExternalMatchAssemblyType} (h : Sponsors self stored queryStr order order' g) :
    order'.refundedAmounts = order.refundedAmounts.map (· - Sponsor.received g) := by
  cases h with
  | unsponsored hnone => exact (map_sub_received_of_not rfl _).symm
  | cached hentry hun => exact refundedAmounts_unsponsor hun
  | direct hquery hfrom hupdate => exact exactAmounts_update hupdate

/-- A request that is not rejected, and is forwarded as it has been prepared: the amounts in
question as the client sent them and as they are forwarded, and the sponsorship the request gets. -/
inductive Prepared (self : Server) : List Amount → List Amount → GasSponsorshipInfo → Prop where
  | quote {ctx ctx' : QuoteRequestCtx} {w w' : ServerState} {g : GasSponsorshipInfo} :
      exec (self.quotePreRequest ctx) w = (.ok ctx', w') → ctx'.sponsorshipInfo = some g →
      Prepared self ctx.body.externalOrder.exactAmounts ctx'.body.externalOrder.exactAmounts g
  | assembly {ctx ctx' : AssembleMatchRequestCtx} {w w' : ServerState} {g : GasSponsorshipInfo} :
      exec (self.assemblyPreRequest ctx) w = (.ok ctx', w') → ctx'.sponsorshipInfo = some g →
      Prepared self ctx.body.order.refundedAmounts ctx'.body.order.refundedAmounts g

/-- **What is forwarded**: at every place the refund is subtracted modulo `2 ^ 128`. -/
theorem Prepared.amounts {before after : List Amount} (h : Prepared self before after g) :
    after = before.map (· - Sponsor.received g) := by
  cases h with
  | quote hrun hinfo =>
      obtain ⟨global, order, g', rfl, -, hupdate⟩ := quotePreRequest_ok hrun
      cases hinfo
      exact exactAmounts_update hupdate
  | assembly hrun hinfo =>
      obtain ⟨global, order, g', rfl, hsponsors⟩ := assemblyPreRequest_ok hrun
      cases hinfo
      exact hsponsors.amounts

/-- **Refunds are taken off without a wrap-around** exactly where none of the amounts is smaller
than the refund. -/
theorem refund_taken_off_iff (self : Server) (before after : List Amount) (g : GasSponsorshipInfo)
    (h : Prepared self before after g) :
    List.Forall₂ (TakenOff (Sponsor.received g)) before after ↔
      ∀ a ∈ before, Sponsor.received g ≤ a := by
  rw [h.amounts]
  exact takenOff_map_iff

/-! ## Clients of the sample deployment

All of them are refunded 3 in kind. -/

def exactOrder (amount : Amount) : ExternalOrder := { buyOrder with outputAmount := amount }

def assemblyContext (order : ExternalMatchAssemblyType) : AssembleMatchRequestCtx :=
  ⟨"/", "", "desk", 1, "", [], ⟨false, none, order, { relayerFeeRate := some 0 }⟩, none, 5⟩

/-- The amounts that are forwarded. -/
def forwardedAmounts (ctx : AssembleMatchRequestCtx) : Option (List Amount × Amount) :=
  ctx.sponsorshipInfo.map fun g => (ctx.body.order.refundedAmounts, Sponsor.received g)

theorem prepared_of_observe {order : ExternalMatchAssemblyType} {w : ServerState}
    {after : List Amount} {refund : Amount}
    (h : observe forwardedAmounts (plainServer.assemblyPreRequest (assemblyContext order)) w =
      some (after, refund)) :
    ∃ g, Prepared plainServer order.refundedAmounts after g ∧ Sponsor.received g = refund := by
  obtain ⟨ctx', hrun, hpart⟩ := exec_of_observe h
  obtain ⟨g, hinfo, hpart⟩ := Option.map_eq_some_iff.mp hpart
  cases hpart
  exact ⟨g, .assembly hrun hinfo, rfl⟩

/-- An order for 10 is forwarded as one for 7. -/
theorem refund_taken_off_ten :
    ∃ g, Prepared plainServer [10] [7] g ∧
      List.Forall₂ (TakenOff (Sponsor.received g)) [10] [7] := by
  obtain ⟨g, hprepared, hrefund⟩ := prepared_of_observe
    (show observe forwardedAmounts (plainServer.assemblyPreRequest
      (assemblyContext (.directOrder (exactOrder 10)))) plainState = some ([7], 3) by
        decide +kernel)
  refine ⟨g, hprepared, (refund_taken_off_iff plainServer [10] [7] g hprepared).mpr ?_⟩
  intro a ha
  rw [List.mem_singleton.mp ha, hrefund]
  decide

/-- A quote that comes back with other amounts than it was shown with. -/
def smallQuote : ApiSignedQuote :=
  { sampleQuoteResponse.signedQuote with
    quote := { sampleQuote with
      order := exactOrder 0
      matchResult := { sampleQuote.matchResult with outputAmount := 2 }
      receive := ⟨1, 1⟩ } }

/-- Every quote has been cached with the refund. -/
def cachedState : ServerState :=
  { plainState with sponsorships := fun _ => some ⟨inKindInfo, 1.4, ⟨⟨11⟩, 100⟩⟩ }

/-- **Every place wraps around**: a direct order for 2, and the match result, the receive amount,
the order and the updated order of a quote that is assembled. -/
theorem refund_wraps_around :
    (∃ after g, Prepared plainServer [2] after g ∧ Sponsor.received g = 3 ∧
      after.map BitVec.toNat = [2 ^ 128 - 1]) ∧
    ∃ after g, Prepared plainServer [2, 1, 0, 2] after g ∧ Sponsor.received g = 3 ∧
      after.map BitVec.toNat = [2 ^ 128 - 1, 2 ^ 128 - 2, 2 ^ 128 - 3, 2 ^ 128 - 1] := by
  obtain ⟨g, hdirect, hg⟩ := prepared_of_observe (show observe forwardedAmounts
    (plainServer.assemblyPreRequest (assemblyContext (.directOrder (exactOrder 2)))) plainState =
      some ([-1], 3) by decide +kernel)
  obtain ⟨g', hquoted, hg'⟩ := prepared_of_observe (show observe forwardedAmounts
    (plainServer.assemblyPreRequest (assemblyContext
      (.quotedOrder smallQuote (some (exactOrder 2))))) cachedState =
        some ([-1, -2, -3, -1], 3) by decide +kernel)
  exact ⟨⟨_, g, hdirect, hg, by decide⟩, _, g', hquoted, hg', by decide⟩

end Server

end RelayerExtensions.Auth
