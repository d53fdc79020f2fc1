import RelayerExtensions.Lib.Runs
import RelayerExtensions.Lib.Watch
import RelayerExtensions.Prices.Basic

/-!
# Converted price streams

A client's stream of a price that is quoted in another stablecoin reads two watch channels:
the price and the conversion rate (`PriceStream`, `price-reporter/src/utils/mod.rs`). A poll
reads the price first, and only if there is a new one the rate; it returns their quotient if
there is a new rate too, and otherwise forgets the price it has read.

So a price gets through only together with a new rate. `kept_iff` says when nothing is
missed: at every moment that a price has come, a rate must have come since the last poll.
-/

namespace RelayerExtensions.Prices

open Watch

/-- How far the two channels have been read; there may be no second one. -/
structure PriceStream where
  stream : Cursor
  conversionStream : Option Cursor
deriving DecidableEq

def PriceStream.new : PriceStream := ⟨none, none⟩

def PriceStream.newWithConversion : PriceStream := ⟨none, some none⟩

/--
`0.0` is drained in a loop. A second read of a channel never returns a value, so two rounds
of the loop are all there can be (`Reader.pollSkipping_skip`).
-/
def PriceStream.pollNext (this : PriceStream) (watch : Reader Float)
    (main conversion : Chan Float) : Poll Float × PriceStream :=
  match watch.pollSkipping main isZero 2 this.stream with
  | (.item mainPrice, seen) =>
      match this.conversionStream with
      | none => (.item mainPrice, { this with stream := seen })
      | some conv =>
          match watch.pollSkipping conversion isZero 2 conv with
          | (.item conversionPrice, conv') =>
              (.item (mainPrice / conversionPrice), ⟨seen, some conv'⟩)
          | (.ended, conv') => (.ended, ⟨seen, some conv'⟩)
          | (.pending, conv') => (.pending, ⟨seen, some conv'⟩)
  | (.ended, seen) => (.ended, { this with stream := seen })
  | (.pending, seen) => (.pending, { this with stream := seen })

/-- `get_current_price`, once both prices have been looked at. -/
def currentPrice (price : Float) (conversionPrice : Option Float) : Except ServerError Float :=
  if isZero price then .error .priceStreamClosed
  else match conversionPrice with
    | none => .ok price
    | some conversionPrice =>
        if isZero conversionPrice then .error .priceStreamClosed
        else .ok (price / conversionPrice)

/-- A poll serves the current price, or its quotient by the current rate. -/
theorem PriceStream.pollNext_item {this this' : PriceStream} {watch : Reader Float}
    {main conversion : Chan Float} {p : Float}
    (h : this.pollNext watch main conversion = (.item p, this')) :
    isZero main.value = false ∧ match this.conversionStream with
      | none => p = main.value
      | some _ => isZero conversion.value = false ∧ p = main.value / conversion.value := by
  unfold pollNext at h
  split at h
  · next price seen hmain =>
      obtain ⟨hp, hskip, -⟩ := Reader.pollSkipping_eq_item hmain
      subst hp
      refine ⟨hskip, ?_⟩
      split at h
      · exact (Poll.item.inj (Prod.mk.inj h).1).symm
      · next conv =>
          split at h
          · next rate conv' hconv =>
              obtain ⟨hr, hskip', -⟩ := Reader.pollSkipping_eq_item hconv
              subst hr
              exact ⟨hskip', (Poll.item.inj (Prod.mk.inj h).1).symm⟩
          · cases h
          · cases h
  · cases h
  · cases h

/-- A stream keeps its second channel. -/
theorem PriceStream.pollNext_conversionStream (this : PriceStream) (watch : Reader Float)
    (main conversion : Chan Float) :
    (this.pollNext watch main conversion).2.conversionStream.isSome =
      this.conversionStream.isSome := by
  unfold pollNext
  split
  · split
    · rfl
    · next hsome =>
        rw [hsome]
        split <;> rfl
  · rfl
  · rfl

/-! ## Two channels and a reader -/

/-- The two channels, and a stream that reads both. -/
structure Conversion where
  main : Chan Float
  conversion : Chan Float
  mainSeen : Cursor
  conversionSeen : Cursor
  /-- History: the version of the price other than zero that was read last. -/
  consumed : Option Nat
  /-- History: the version of the price that was delivered last. -/
  delivered : Option Nat
  /-- History: the rate has at some time been another than zero. -/
  held : Bool

inductive ConversionEvent where
  | sendMain (price : Float)
  | sendConversion (price : Float)
  | closeMain
  | closeConversion
  | poll

namespace Conversion

def stream (w : Conversion) : PriceStream := ⟨w.mainSeen, some w.conversionSeen⟩

/-- The poll of the stream as it is now. -/
def pollNext (w : Conversion) (watch : Reader Float) : Poll Float × PriceStream :=
  w.stream.pollNext watch w.main w.conversion

/-- A price is there that has not been read. -/
def NewPrice (w : Conversion) : Prop :=
  w.main.Unseen w.mainSeen ∧ isZero w.main.value = false

instance (w : Conversion) : Decidable w.NewPrice := inferInstanceAs (Decidable (_ ∧ _))

def polled (w : Conversion) (watch : Reader Float) : Conversion :=
  { w with
    mainSeen := (w.pollNext watch).2.stream
    conversionSeen := (w.pollNext watch).2.conversionStream.getD w.conversionSeen
    consumed := if w.NewPrice then some w.main.version else w.consumed
    delivered := match (w.pollNext watch).1 with
      | .item _ => some w.main.version
      | _ => w.delivered }

/-- A channel without a sender gets nothing more. -/
def step (watch : Reader Float) (w : Conversion) : ConversionEvent → Option Conversion
  | .sendMain price => if w.main.closed then none else some { w with main := w.main.send price }
  | .sendConversion price =>
      if w.conversion.closed then none
      else some { w with conversion := w.conversion.send price, held := w.held || !isZero price }
  | .closeMain => some { w with main := w.main.close }
  | .closeConversion => some { w with conversion := w.conversion.close }
  | .poll => some (w.polled watch)

/-- Poll until the stream is pending or at its end, for at most so many prices. -/
def drain (watch : Reader Float) : Nat → Conversion → List Float
  | 0, _ => []
  | n + 1, w =>
      match (w.pollNext watch).1 with
      | .item p => p :: drain watch n (w.polled watch)
      | _ => []

/-- A client that has just subscribed to two channels. -/
def subscribed (main conversion : Chan Float) (held : Bool) : Conversion :=
  ⟨main, conversion, none, none, none, none, held || !isZero conversion.value⟩

/-- The price is there and has not been delivered. -/
def Undelivered (w : Conversion) : Prop :=
  isZero w.main.value = false ∧ w.delivered ≠ some w.main.version

/-- A rate is there that has not been read. -/
def NewRate (w : Conversion) : Prop :=
  w.conversion.Unseen w.conversionSeen ∧ isZero w.conversion.value = false

instance (w : Conversion) : Decidable w.Undelivered := inferInstanceAs (Decidable (_ ∧ _))
instance (w : Conversion) : Decidable w.NewRate := inferInstanceAs (Decidable (_ ∧ _))

/--
The stream is as good as asking for the current price: a price that was read has been
delivered, or a newer one has; and one that has not been delivered is what polling now gives,
if there ever was a rate.
-/
structure Kept (watch : Reader Float) (w : Conversion) : Prop where
  consumed : ∀ v, w.consumed = some v → ∃ d, w.delivered = some d ∧ v ≤ d
  served : w.Undelivered → w.held = true → ∀ n,
    drain watch (n + 1) w = [w.main.value / w.conversion.value] ∧
      currentPrice w.main.value (some w.conversion.value) =
        .ok (w.main.value / w.conversion.value)

/--
A new price is polled only together with a new rate, and is sent only while there is a new
rate or has never been one; and the rate does not go back to zero while a price waits.
-/
def Timely (w : Conversion) : ConversionEvent → Prop
  | .sendMain price => isZero price = false → w.held = true → w.NewRate
  | .sendConversion price => isZero price = true → w.held = true → ¬ w.Undelivered
  | .closeMain => True
  | .closeConversion => True
  | .poll => w.NewPrice → w.NewRate

instance decidableTimely (w : Conversion) : ∀ e, Decidable (w.Timely e)
  | .sendMain _ | .sendConversion _ => inferInstanceAs (Decidable (_ → _))
  | .closeMain | .closeConversion => .isTrue trivial
  | .poll => inferInstanceAs (Decidable (_ → _))

/-- What is read and delivered was there. -/
structure Tidy (w : Conversion) : Prop where
  delivered_le : ∀ v, w.delivered = some v → ∃ u, w.mainSeen = some u ∧ v ≤ u
  main_le : ∀ v, w.mainSeen = some v → v ≤ w.main.version
  conversion_le : ∀ v, w.conversionSeen = some v → v ≤ w.conversion.version
  consumed_seen : isZero w.main.value = false → ¬ w.main.Unseen w.mainSeen →
    w.consumed = some w.main.version

variable {watch : Reader Float} {w w' : Conversion}

theorem Tidy.delivered_eq (h : w.Tidy) {d : Nat} (hd : w.delivered = some d)
    (hle : w.main.version ≤ d) : w.delivered = some w.main.version := by
  obtain ⟨u, hu, hdu⟩ := h.delivered_le d hd
  have huv := h.main_le u hu
  rw [hd, Nat.le_antisymm (Nat.le_trans hdu huv) hle]

theorem Tidy.undelivered (h : w.Tidy) (hnew : w.NewPrice) : w.Undelivered := by
  refine ⟨hnew.2, fun hd => ?_⟩
  obtain ⟨u, hu, hle⟩ := h.delivered_le _ hd
  have hge := h.main_le u hu
  have heq : u = w.main.version := by omega
  exact hnew.1 (heq ▸ hu)

/-! ### One poll -/

theorem pollNext_delivers (hp : w.NewPrice) (hr : w.NewRate) :
    w.pollNext watch = (.item (w.main.value / w.conversion.value),
      ⟨some w.main.version, some (some w.conversion.version)⟩) := by
  unfold pollNext PriceStream.pollNext stream
  rw [watch.pollSkipping_item hp.1 hp.2]
  dsimp only
  rw [watch.pollSkipping_item hr.1 hr.2]

/-- Without a new price and a new rate nothing is delivered, but the price is read. -/
theorem pollNext_misses (watch : Reader Float) (h : ¬ (w.NewPrice ∧ w.NewRate)) :
    (∀ p, (w.pollNext watch).1 ≠ .item p) ∧
      (w.pollNext watch).2.stream = some w.main.version ∧
      ((w.pollNext watch).2.conversionStream = some w.conversionSeen ∨
        (w.pollNext watch).2.conversionStream = some (some w.conversion.version)) := by
  unfold pollNext PriceStream.pollNext stream
  by_cases hu : w.main.Unseen w.mainSeen
  · cases hz : isZero w.main.value with
    | true =>
        rw [watch.pollSkipping_skip hu hz]
        cases w.main.closed with
        | true | false => exact ⟨fun _ hp => (by cases hp), rfl, .inl rfl⟩
    | false =>
        rw [watch.pollSkipping_item hu hz]
        dsimp only
        by_cases hu' : w.conversion.Unseen w.conversionSeen
        · have hz' : isZero w.conversion.value = true := by
            by_contra hne
            exact h ⟨⟨hu, hz⟩, hu', Bool.eq_false_iff.mpr hne⟩
          rw [watch.pollSkipping_skip hu' hz']
          cases w.conversion.closed with
          | true | false => exact ⟨fun _ hp => (by cases hp), rfl, .inr rfl⟩
        · rw [watch.pollSkipping_seen hu']
          cases w.conversion.closed with
          | true | false => exact ⟨fun _ hp => (by cases hp), rfl, .inl rfl⟩
  · have hseen : w.mainSeen = some w.main.version := Decidable.of_not_not hu
    rw [watch.pollSkipping_seen hu, hseen]
    cases w.main.closed with
    | true | false => exact ⟨fun _ hp => (by cases hp), rfl, .inl rfl⟩

/-- Whatever a poll does, the price has then been read. -/
theorem mainSeen_polled (watch : Reader Float) (w : Conversion) :
    (w.polled watch).mainSeen = some w.main.version := by
  by_cases h : w.NewPrice ∧ w.NewRate
  · exact congrArg (fun r => r.2.stream) (pollNext_delivers h.1 h.2)
  · exact (pollNext_misses watch h).2.1

theorem delivered_polled (watch : Reader Float) (hp : w.NewPrice) (hr : w.NewRate) :
    (w.polled watch).delivered = some w.main.version := by
  unfold polled
  rw [pollNext_delivers hp hr]

theorem delivered_polled_misses (watch : Reader Float) (h : ¬ (w.NewPrice ∧ w.NewRate)) :
    (w.polled watch).delivered = w.delivered := by
  have hmiss := (pollNext_misses watch h).1
  unfold polled
  dsimp only
  split
  · next p hp => exact absurd hp (hmiss p)
  · rfl

theorem not_newPrice_polled (watch : Reader Float) (w : Conversion) :
    ¬ (w.polled watch).NewPrice := fun h => h.1 (mainSeen_polled watch w)

/-- **Polling until nothing comes gives the quotient, or nothing at all.** -/
theorem drain_eq (w : Conversion) (n : Nat) :
    drain watch (n + 1) w =
      if w.NewPrice ∧ w.NewRate then [w.main.value / w.conversion.value] else [] := by
  by_cases h : w.NewPrice ∧ w.NewRate
  · have hrest : drain watch n (w.polled watch) = [] := by
      cases n with
      | zero => rfl
      | succ n =>
          have hmiss := (pollNext_misses watch fun h => not_newPrice_polled watch w h.1).1
          rw [drain]
          split
          · next p hp => exact absurd hp (hmiss p)
          · rfl
    rw [if_pos h, drain, pollNext_delivers h.1 h.2]
    exact congrArg _ hrest
  · have hmiss := (pollNext_misses watch h).1
    rw [if_neg h, drain]
    split
    · next p hp => exact absurd hp (hmiss p)
    · rfl

/-- What has not been delivered is delivered by the next poll exactly if it is new and so is
the rate. -/
theorem kept_iff_new : w.Kept watch ↔
    (∀ v, w.consumed = some v → ∃ d, w.delivered = some d ∧ v ≤ d) ∧
      (w.Undelivered → w.held = true → w.NewPrice ∧ w.NewRate) := by
  constructor
  · intro h
    refine ⟨h.consumed, fun hu hh => ?_⟩
    by_contra hnew
    have hd := (h.served hu hh 0).1
    rw [drain_eq, if_neg hnew] at hd
    cases hd
  · intro h
    refine ⟨h.1, fun hu hh n => ?_⟩
    have hnew := h.2 hu hh
    refine ⟨by rw [drain_eq, if_pos hnew], ?_⟩
    unfold currentPrice
    dsimp only
    rw [hnew.1.2, hnew.2.2]
    rfl

/-- A price that was read has been delivered, as long as it is the last. -/
theorem Kept.not_undelivered (hk : w.Kept watch) (h : w.Tidy)
    (hseen : ¬ w.main.Unseen w.mainSeen) : ¬ w.Undelivered := by
  intro hu
  obtain ⟨d, hd, hle⟩ := hk.consumed _ (h.consumed_seen hu.1 hseen)
  exact hu.2 (h.delivered_eq hd hle)

/-! ### One step -/

theorem unseen_send (h : w.Tidy) (price : Float) : (w.main.send price).Unseen w.mainSeen :=
  fun hv => Nat.not_succ_le_self _ (h.main_le _ hv)

theorem tidy_step {e : ConversionEvent} (h : w.Tidy) (hs : w.step watch e = some w') : w'.Tidy := by
  cases e with
  | sendMain price =>
      rw [step] at hs
      split at hs
      · cases hs
      · cases hs
        exact ⟨h.delivered_le, fun v hv => Nat.le_succ_of_le (h.main_le v hv), h.conversion_le,
          fun _ hseen => absurd (unseen_send h price) hseen⟩
  | sendConversion price =>
      rw [step] at hs
      split at hs
      · cases hs
      · cases hs
        exact ⟨h.delivered_le, h.main_le, fun v hv => Nat.le_succ_of_le (h.conversion_le v hv),
          h.consumed_seen⟩
  | closeMain | closeConversion =>
      cases hs
      exact ⟨h.delivered_le, h.main_le, h.conversion_le, h.consumed_seen⟩
  | poll =>
      cases hs
      have hseen := mainSeen_polled watch w
      refine ⟨fun v hv => ⟨w.main.version, hseen, ?_⟩, fun v hv => ?_, fun v hv => ?_,
        fun hz _ => ?_⟩
      · by_cases hnew : w.NewPrice ∧ w.NewRate
        · rw [delivered_polled watch hnew.1 hnew.2] at hv
          exact Nat.le_of_eq (Option.some.inj hv).symm
        · rw [delivered_polled_misses watch hnew] at hv
          obtain ⟨u, hu, hle⟩ := h.delivered_le v hv
          exact Nat.le_trans hle (h.main_le u hu)
      · rw [hseen] at hv
        exact Nat.le_of_eq (Option.some.inj hv).symm
      · -- the rate is looked at only if there is a new price
        have hconv : (w.polled watch).conversionSeen = w.conversionSeen ∨
            (w.polled watch).conversionSeen = some w.conversion.version := by
          unfold polled
          dsimp only
          by_cases hnew : w.NewPrice ∧ w.NewRate
          · rw [pollNext_delivers hnew.1 hnew.2]
            exact .inr rfl
          · rcases (pollNext_misses watch hnew).2.2 with hc | hc
            · rw [hc]
              exact .inl rfl
            · rw [hc]
              exact .inr rfl
        rcases hconv with hc | hc
        · exact h.conversion_le v (hc ▸ hv)
        · rw [hc] at hv
          exact Nat.le_of_eq (Option.some.inj hv).symm
      · by_cases hnew : w.NewPrice
        · exact if_pos hnew
        · exact (if_neg hnew).trans (h.consumed_seen hz fun hu => hnew ⟨hu, hz⟩)

theorem kept_sendMain (h : w.Tidy) (hk : w.Kept watch) {price : Float} :
    ({ w with main := w.main.send price } : Conversion).Kept watch ↔
      (isZero price = false → w.held = true → w.NewRate) := by
  have hundelivered : w.delivered ≠ some (w.main.version + 1) := by
    intro hv
    obtain ⟨u, hu, hle⟩ := h.delivered_le _ hv
    have hge := h.main_le u hu
    omega
  rw [kept_iff_new]
  constructor
  · intro hk' hz hh
    exact (hk'.2 ⟨hz, hundelivered⟩ hh).2
  · intro hC
    exact ⟨hk.consumed, fun hu hh => ⟨⟨unseen_send h price, hu.1⟩, hC hu.1 hh⟩⟩

theorem kept_sendConversion (h : w.Tidy) (hk : w.Kept watch) {price : Float} :
    ({ w with conversion := w.conversion.send price, held := w.held || !isZero price } :
        Conversion).Kept watch ↔ (isZero price = true → w.held = true → ¬ w.Undelivered) := by
  have hunseen : (w.conversion.send price).Unseen w.conversionSeen := by
    intro hv
    exact Nat.not_succ_le_self _ (h.conversion_le _ hv)
  rw [kept_iff_new]
  constructor
  · intro hk' hz hh hu
    have hrate := (hk'.2 hu (by rw [hh]; rfl)).2.2
    rw [show isZero (w.conversion.send price).value = true from hz] at hrate
    cases hrate
  · intro hC
    refine ⟨hk.consumed, fun hu hh => ?_⟩
    -- a price that was read has been delivered, so this one has not been read
    have hnew : w.main.Unseen w.mainSeen := by
      by_contra hseen
      exact hk.not_undelivered h hseen hu
    refine ⟨⟨hnew, hu.1⟩, hunseen, ?_⟩
    cases hz : isZero price with
    | false => exact hz
    | true =>
        rw [hz, Bool.not_true, Bool.or_false] at hh
        exact absurd hu (hC hz hh)

theorem kept_polled (h : w.Tidy) (hk : w.Kept watch) :
    (w.polled watch).Kept watch ↔ (w.NewPrice → w.NewRate) := by
  constructor
  · intro hk' hp
    by_contra hr
    obtain ⟨d, hd, hle⟩ := hk'.consumed w.main.version (if_pos hp)
    rw [delivered_polled_misses watch fun hnew => hr hnew.2] at hd
    exact (h.undelivered hp).2 (h.delivered_eq hd hle)
  · intro hC
    rw [kept_iff_new]
    by_cases hp : w.NewPrice
    · have hdone := delivered_polled watch hp (hC hp)
      refine ⟨fun v hv => ⟨_, hdone, ?_⟩, fun hu _ => absurd hdone hu.2⟩
      exact Nat.le_of_eq (Option.some.inj ((if_pos hp).symm.trans hv)).symm
    · have hsame := delivered_polled_misses watch fun hnew => hp hnew.1
      refine ⟨fun v hv => ?_, fun hu _ => ?_⟩
      · rw [hsame]
        exact hk.consumed v ((if_neg hp).symm.trans hv)
      · have hu' : w.Undelivered := ⟨hu.1, hsame ▸ hu.2⟩
        exact absurd hu' (hk.not_undelivered h fun hun => hp ⟨hun, hu.1⟩)

theorem kept_step {e : ConversionEvent} (h : w.Tidy) (hk : w.Kept watch)
    (hs : w.step watch e = some w') : w'.Kept watch ↔ w.Timely e := by
  cases e with
  | sendMain price =>
      rw [step] at hs
      split at hs
      · cases hs
      · cases hs
        exact kept_sendMain h hk
  | sendConversion price =>
      rw [step] at hs
      split at hs
      · cases hs
      · cases hs
        exact kept_sendConversion h hk
  | closeMain | closeConversion =>
      cases hs
      have h := kept_iff_new.mp hk
      exact ⟨fun _ => trivial, fun _ => kept_iff_new.mpr h⟩
  | poll =>
      cases hs
      exact kept_polled h hk

/-! ### Every run -/

theorem tidy_subscribed (main conversion : Chan Float) (held : Bool) :
    (subscribed main conversion held).Tidy :=
  ⟨fun _ hv => absurd hv.symm (Option.some_ne_none _),
    fun _ hv => absurd hv.symm (Option.some_ne_none _),
    fun _ hv => absurd hv.symm (Option.some_ne_none _),
    fun _ hseen => absurd (fun hv => absurd hv.symm (Option.some_ne_none _)) hseen⟩

/-- A client that subscribes to a price whose rate has been lost misses that price. -/
theorem kept_subscribed {main conversion : Chan Float} {held : Bool} :
    (subscribed main conversion held).Kept watch ↔
      (held = true → isZero conversion.value = true → isZero main.value = true) := by
  have hunseen : ∀ c : Chan Float, c.Unseen none := fun _ hv =>
    absurd hv.symm (Option.some_ne_none _)
  rw [kept_iff_new]
  constructor
  · intro h hheld hz
    by_contra hne
    have hu : (subscribed main conversion held).Undelivered :=
      ⟨Bool.eq_false_iff.mpr hne, fun hv => absurd hv.symm (Option.some_ne_none _)⟩
    have hrate := (h.2 hu (by rw [subscribed, hheld]; rfl)).2.2
    rw [show isZero (subscribed main conversion held).conversion.value = true from hz] at hrate
    cases hrate
  · intro hC
    refine ⟨fun _ hv => absurd hv.symm (Option.some_ne_none _), fun hu hh => ?_⟩
    refine ⟨⟨hunseen main, hu.1⟩, hunseen conversion, ?_⟩
    cases hz : isZero conversion.value with
    | false => exact hz
    | true =>
        have hheld : held = true := by
          rw [subscribed, hz, Bool.not_true, Bool.or_false] at hh
          exact hh
        have hzero := hC hheld hz
        rw [show isZero main.value = false from hu.1] at hzero
        cases hzero

/--
**Nothing is missed, at any moment of a run, exactly if every step of it is timely**, and the
rate has not been lost when the client subscribes.
-/
theorem kept_iff {main conversion : Chan Float} {held : Bool} {es : List ConversionEvent}
    {w : Conversion} (hr : Runs.run (step watch) (subscribed main conversion held) es = some w) :
    Runs.Always (step watch) (Kept watch) (subscribed main conversion held) es ↔
      (held = true → isZero conversion.value = true → isZero main.value = true) ∧
        Runs.Meets (step watch) Timely (subscribed main conversion held) es := by
  have htidy : (subscribed main conversion held).Tidy := tidy_subscribed main conversion held
  have hstep : ∀ w e w', w.Tidy ∧ w.Kept watch → step watch w e = some w' →
      (w'.Tidy ∧ w'.Kept watch ↔ w.Timely e) := fun w e w' hI hs =>
    ⟨fun hI' => (kept_step hI.1 hI.2 hs).mp hI'.2,
      fun hC => ⟨tidy_step hI.1 hs, (kept_step hI.1 hI.2 hs).mpr hC⟩⟩
  rw [← Runs.Always.and_invariant (fun _ _ _ => tidy_step) es htidy]
  constructor
  · intro ha
    have hI := ha.head
    exact ⟨kept_subscribed.mp hI.2, (Runs.always_iff_meets hstep es hI hr).mp ha⟩
  · intro hC
    exact (Runs.always_iff_meets hstep es ⟨htidy, kept_subscribed.mpr hC.1⟩ hr).mpr hC.2

/-- A rate that comes first, a price, a poll; then again a rate and a price, and a poll. -/
def pairedUpdates : List ConversionEvent :=
  [.poll, .sendConversion 2.0, .sendMain 100.0, .poll,
    .sendConversion 4.0, .sendMain 102.0, .poll, .closeMain, .poll]

theorem pairedUpdates_kept :
    (Runs.run (step .latest) (subscribed (Chan.new 0.0) (Chan.new 0.0) false)
        pairedUpdates).isSome = true ∧
      Runs.Always (step .latest) (Kept .latest)
        (subscribed (Chan.new 0.0) (Chan.new 0.0) false) pairedUpdates := by
  have hsome : (Runs.run (step .latest) (subscribed (Chan.new 0.0) (Chan.new 0.0) false)
      pairedUpdates).isSome = true := by decide +kernel
  obtain ⟨w, hr⟩ := Option.isSome_iff_exists.mp hsome
  refine ⟨hsome, (kept_iff hr).mpr ⟨fun h => absurd h Bool.false_ne_true, ?_⟩⟩
  decide +kernel

/-- The price moves and the rate does not, as between two stablecoins. -/
def steadyRate : List ConversionEvent :=
  [.sendConversion 1.0, .sendMain 100.0, .poll, .sendMain 101.0]

/--
The first price is delivered; the next one is not, neither by the first poll nor by any
other, and is then lost, while the current price is there to be asked for.
-/
theorem steadyRate_price_lost :
    ∃ w, Runs.run (step .latest) (subscribed (Chan.new 0.0) (Chan.new 0.0) false) steadyRate =
        some w ∧
      w.Undelivered ∧ w.held = true ∧
        (currentPrice w.main.value (some w.conversion.value)).toOption = some 101.0 ∧
        (∀ n, drain .latest (n + 1) w = []) ∧
        (w.polled .latest).mainSeen = some w.main.version ∧ (w.polled .latest).Undelivered := by
  refine ⟨_, rfl, by decide +kernel, by decide +kernel, by decide +kernel, fun n => ?_,
    mainSeen_polled .latest _, by decide +kernel⟩
  rw [drain_eq]
  exact if_neg (by decide +kernel)

end Conversion

end RelayerExtensions.Prices
