import RelayerExtensions.Prices.StreamManager

/-!
# Where a price comes from

A price is to be the midpoint of a bid and an offer that are both positive and finite. With
a zero bid the midpoint would be half the offer, which looks like a price and is none.

Every message is checked for that, and the copy of Coinbase's order book has no bad levels.
Only the first price of a connection to Binance is not checked, so that a bad one does not
fail the connection; it is counted on that a bad one is zero or not finite, and is then
ignored. That is so if both sides are zero or one is not a number; but not if one is zero.

`prices_from_good_sides` follows a price through the streams, the calls and the clients:
if at no connection to Binance such sides are reported, every price that a client gets and
that is positive and finite is made of midpoints of positive and finite sides.
-/

namespace RelayerExtensions.Prices

open Watch

variable {ν : Type} {api : Api ν} {config : ExchangeConnectionsConfig} {pair : PairInfo}
  {message : Message} {p : Float} {conn : Connection} {r : Replies ν}

/-! ## One connection -/

/-- Two sides with a good midpoint, or with one that nobody takes for a price. -/
def HarmlessSides (b o : Float) : Prop :=
  (b.IsGood ∧ o.IsGood) ∨ (isZero b = true ∧ isZero o = true) ∨
    b.isFinite = false ∨ o.isFinite = false

instance (b o : Float) : Decidable (HarmlessSides b o) := inferInstanceAs (Decidable (_ ∨ _))

theorem HarmlessSides.midpoint {b o : Float} (h : HarmlessSides b o) :
    (b.IsGood ∧ o.IsGood) ∨ isZero ((b + o) / 2.0) = true ∨ ((b + o) / 2.0).isFinite = false := by
  rcases h with h | ⟨hb, ho⟩ | hb | ho
  · exact .inl h
  · exact .inr (.inl (Float.div_two_zero (Float.add_zeros hb ho)))
  · exact .inr (.inr (Float.isFinite_div_left (Float.isFinite_add_left hb)))
  · exact .inr (.inr (Float.isFinite_div_left (Float.isFinite_add_right ho)))

/-- The end of the parsers: read the two sides, and take their midpoint. -/
theorem midpoint_of_sides {x : Except ExchangeConnectionError (Float × Float)}
    (h : (do let (b, o) ← x; return safeMidpoint b o) = Except.ok (some p)) :
    ∃ b o, x.toOption = some (b, o) ∧ b.IsGood ∧ o.IsGood ∧ p = (b + o) / 2.0 := by
  rcases x with e | ⟨b, o⟩
  · cases h
  · exact ⟨b, o, rfl, safeMidpoint_eq_some (Except.ok.inj h)⟩

/-- Their start: a price comes of a message that is JSON. -/
theorem parsed_of_price {parsed : Except ExchangeConnectionError (Option (Json ν))}
    {f : Option (Json ν) → Except ExchangeConnectionError (Option Float)}
    (hnone : f none = .ok none) (h : (parsed >>= f) = .ok (some p)) :
    ∃ json, parsed = .ok (some json) ∧ f (some json) = .ok (some p) := by
  rcases parsed with e | (_ | json)
  · cases h
  · cases hnone.symm.trans h
  · exact ⟨json, rfl, h⟩

theorem Binance.midpoint_sides (h : Binance.midpointFromWsMessage api pair message = .ok (some p)) :
    ∃ json, parseJsonFromMessage api pair message = .ok (some json) ∧
      ∃ b o, (Binance.sides api json).toOption = some (b, o) ∧
        b.IsGood ∧ o.IsGood ∧ p = (b + o) / 2.0 := by
  unfold Binance.midpointFromWsMessage at h
  obtain ⟨json, hm, h⟩ := parsed_of_price rfl h
  refine ⟨json, hm, ?_⟩
  cases json with
  | number n => cases h
  | null | bool b | string s | array items | object entries => exact midpoint_of_sides h

theorem Kraken.midpoint_sides (h : Kraken.midpointFromWsMessage api pair message = .ok (some p)) :
    ∃ json, parseJsonFromMessage api pair message = .ok (some json) ∧
      ∃ b o, (Kraken.sides api json).toOption = some (b, o) ∧
        b.IsGood ∧ o.IsGood ∧ p = (b + o) / 2.0 := by
  unfold Kraken.midpointFromWsMessage at h
  obtain ⟨json, hm, h⟩ := parsed_of_price rfl h
  refine ⟨json, hm, ?_⟩
  change (if _ then _ else _) = _ at h
  split at h
  · cases h
  · exact midpoint_of_sides h

theorem Okx.midpoint_sides (h : Okx.midpointFromWsMessage api pair message = .ok (some p)) :
    ∃ json, parseJsonFromMessage api pair message = .ok (some json) ∧
      ∃ b o, (Okx.sides api json).toOption = some (b, o) ∧
        b.IsGood ∧ o.IsGood ∧ p = (b + o) / 2.0 := by
  unfold Okx.midpointFromWsMessage at h
  obtain ⟨json, hm, h⟩ := parsed_of_price rfl h
  refine ⟨json, hm, ?_⟩
  change (if _ then _ else _) = _ at h
  split at h
  · cases h
  · exact midpoint_of_sides h

/-- The midpoint of the book is one of good sides, whatever the messages were. -/
theorem CoinbaseOrderBookData.midpoint_sides {book : CoinbaseOrderBookData}
    (h : book.midpoint = some p) :
    ∃ b o, book.sides = some (b, o) ∧ b.IsGood ∧ o.IsGood ∧ p = (b + o) / 2.0 := by
  unfold midpoint at h
  obtain ⟨⟨b, o⟩, hsides, hp⟩ := Option.bind_eq_some_iff.mp h
  obtain ⟨hb, ho⟩ := sides_good hsides
  exact ⟨b, o, hsides, hb, ho, (Option.some.inj hp).symm⟩

theorem Coinbase.midpoint_sides {book book' : CoinbaseOrderBookData}
    (h : Coinbase.midpointFromWsMessage api pair book message = (.ok (some p), book')) :
    (∃ json, parseJsonFromMessage api pair message = .ok (some json)) ∧
      book'.midpoint = some p := by
  unfold Coinbase.midpointFromWsMessage at h
  split at h
  · cases h
  · cases h
  · next json hm =>
      refine ⟨⟨json, hm⟩, ?_⟩
      split at h
      · cases h
      · split at h
        · cases h
        · dsimp only at h
          split at h
          · cases h
          · split at h
            · cases h
            · next book₁ =>
                obtain ⟨hp, rfl⟩ := Prod.mk.inj h
                exact Except.ok.inj hp

/-- **A price in a message is the midpoint of good sides.** -/
theorem Connection.message_sides {conn conn' : Connection}
    (h : conn.midpointFromWsMessage api message = (.ok (some p), conn')) :
    ∃ b o, conn.messageSides api message = some (b, o) ∧
      b.IsGood ∧ o.IsGood ∧ p = (b + o) / 2.0 := by
  unfold Connection.midpointFromWsMessage at h
  unfold Connection.messageSides
  cases hex : conn.pair.exchange with
  | binance =>
      rw [hex] at h
      obtain ⟨json, hm, hsides⟩ := Binance.midpoint_sides (Prod.mk.inj h).1
      rw [hm]
      exact hsides
  | coinbase =>
      rw [hex] at h
      obtain ⟨hres, -⟩ := Prod.mk.inj h
      have hbook := Coinbase.midpoint_sides (Prod.ext hres rfl)
      obtain ⟨⟨json, hm⟩, hmid⟩ := hbook
      rw [hm]
      exact CoinbaseOrderBookData.midpoint_sides hmid
  | kraken =>
      rw [hex] at h
      obtain ⟨json, hm, hsides⟩ := Kraken.midpoint_sides (Prod.mk.inj h).1
      rw [hm]
      exact hsides
  | okx =>
      rw [hex] at h
      obtain ⟨json, hm, hsides⟩ := Okx.midpoint_sides (Prod.mk.inj h).1
      rw [hm]
      exact hsides
  | uniswapV3 | renegade =>
      rw [hex] at h
      cases (Prod.mk.inj h).1

/-- The value a connection starts with is harmless. -/
def Connection.Sound (conn : Connection) : Prop :=
  conn.bufferedValueConsumed = false → ∃ b o, conn.restSides = some (b, o) ∧
    conn.bufferedValue = (b + o) / 2.0 ∧ HarmlessSides b o

/-- A price a connection gives is a midpoint, and one of good sides if it looks like one. -/
theorem Connection.pollNext_sides {conn conn' : Connection} {ready : Option WsEvent}
    (hc : conn.Sound) (h : conn.pollNext api ready = (.item (.ok p), conn')) :
    ∃ b o, conn.sides api ready = some (b, o) ∧ p = (b + o) / 2.0 ∧
      ((b.IsGood ∧ o.IsGood) ∨ isZero p = true ∨ p.isFinite = false) := by
  unfold Connection.pollNext at h
  unfold Connection.sides
  split at h
  · next hconsumed =>
      rw [if_pos hconsumed]
      split at h
      · cases h
      · cases h
      · cases h
      · next message =>
          split at h
          · cases h
          · next price conn₁ hm =>
              obtain ⟨b, o, hsides, hb, ho, hp⟩ := Connection.message_sides hm
              cases (Prod.mk.inj h).1
              exact ⟨b, o, hsides, hp, .inl ⟨hb, ho⟩⟩
          · cases h
  · next hbuffered =>
      rw [if_neg hbuffered]
      obtain ⟨b, o, hsides, hvalue, hharm⟩ := hc (Bool.eq_false_iff.mpr hbuffered)
      cases (Prod.mk.inj h).1
      refine ⟨b, o, hsides, hvalue, ?_⟩
      rw [hvalue]
      exact hharm.midpoint

theorem Connection.message_consumed {conn conn' : Connection}
    {res : Except ExchangeConnectionError (Option Float)}
    (h : conn.midpointFromWsMessage api message = (res, conn')) :
    conn'.bufferedValueConsumed = conn.bufferedValueConsumed := by
  unfold Connection.midpointFromWsMessage at h
  split at h
  all_goals
    obtain ⟨-, rfl⟩ := Prod.mk.inj h
    rfl

/-- After a poll nothing is buffered. -/
theorem Connection.pollNext_consumed (conn : Connection) (ready : Option WsEvent) :
    (conn.pollNext api ready).2.bufferedValueConsumed = true := by
  unfold Connection.pollNext
  split
  · next hconsumed =>
      split
      · exact hconsumed
      · exact hconsumed
      · exact hconsumed
      · split <;> next hm => exact (Connection.message_consumed hm).trans hconsumed
  · rfl

theorem Connection.Sound.of_consumed
    (h : conn.bufferedValueConsumed = true) : conn.Sound := fun hb =>
  absurd (h.symm.trans hb) (Bool.false_ne_true ∘ Eq.symm)

/-! ## Making a connection -/

/-- The REST API reports harmless sides, if it reports any. -/
def RestHarmless (api : Api ν) (r : Replies ν) : Prop :=
  match r.rest with
  | .error _ => True
  | .ok response =>
      match Binance.restSides api response with
      | .error _ => True
      | .ok (b, o) => HarmlessSides b o

instance decidableRestHarmless (api : Api ν) (r : Replies ν) : Decidable (RestHarmless api r) :=
  match h : r.rest with
  | .error _ => .isTrue (by rw [RestHarmless, h]; trivial)
  | .ok response =>
      match h' : Binance.restSides api response with
      | .error _ => .isTrue (by rw [RestHarmless, h]; dsimp only; rw [h']; trivial)
      | .ok (b, o) =>
          decidable_of_iff (HarmlessSides b o) (by rw [RestHarmless, h]; dsimp only; rw [h'])

theorem Binance.connect_sound (hq : RestHarmless api r)
    (h : Binance.connect api pair r = .ok conn) : conn.Sound := by
  obtain ⟨tickers, -, h⟩ := Effect.bind_ok.mp h
  obtain ⟨response, hresp, h⟩ := Effect.bind_ok.mp h
  obtain ⟨⟨b, o⟩, hsides, h⟩ := Effect.bind_ok.mp h
  obtain ⟨_, -, h⟩ := Effect.bind_ok.mp h
  have hrest : r.rest = .ok response := by
    cases hr : r.rest with
    | error text => rw [hr] at hresp; cases hresp
    | ok response' => rw [hr] at hresp; cases hresp; rfl
  have hharm : HarmlessSides b o := by
    rw [RestHarmless, hrest] at hq
    dsimp only at hq
    rw [hsides] at hq
    exact hq
  cases h
  exact fun _ => ⟨b, o, rfl, rfl, hharm⟩

theorem connectSubscribing_consumed {exchange : Exchange}
    (h : connectSubscribing api exchange pair r = .ok conn) :
    conn.bufferedValueConsumed = true := by
  obtain ⟨_, -, h⟩ := Effect.bind_ok.mp h
  obtain ⟨_, -, h⟩ := Effect.bind_ok.mp h
  obtain ⟨_, -, h⟩ := Effect.bind_ok.mp h
  cases h
  rfl

theorem Coinbase.connect_consumed (h : Coinbase.connect api config pair r = .done (.ok conn)) :
    conn.bufferedValueConsumed = true := by
  unfold Coinbase.connect at h
  split at h
  · cases h
  · split at h
    · obtain ⟨_, -, h⟩ := Effect.bind_ok.mp (Attempt.done.inj h)
      obtain ⟨_, -, h⟩ := Effect.bind_ok.mp h
      obtain ⟨_, -, h⟩ := Effect.bind_ok.mp h
      obtain ⟨_, -, h⟩ := Effect.bind_ok.mp h
      cases h
      rfl
    · cases h

/-- Only a connection to Binance starts with a price. -/
theorem connectExchange_sound (hq : pair.exchange = .binance → RestHarmless api r)
    (h : connectExchange api config pair r = .done (.ok conn)) : conn.Sound := by
  unfold connectExchange at h
  cases hex : pair.exchange with
  | binance =>
      rw [hex] at h
      exact Binance.connect_sound (hq hex) (Attempt.done.inj h)
  | coinbase =>
      rw [hex] at h
      exact .of_consumed (Coinbase.connect_consumed h)
  | kraken | okx =>
      rw [hex] at h
      exact .of_consumed (connectSubscribing_consumed (Attempt.done.inj h))
  | uniswapV3 | renegade =>
      rw [hex] at h
      cases h

/-! ## One stream -/

/-- All prices a stream has or will send again are of the kind `P`. -/
structure Stream.Sound (P : Float → Prop) (s : Stream) : Prop where
  value : P s.channel.value
  unit : s.phase = .unitPrice → s.pair.isUnitPair = true
  conn : ∀ m, s.phase = .managing m → m.conn.Sound
  last : ∀ m p, s.phase = .managing m → m.lastPrice = some p → P p

/-- When a stream of Binance connects, harmless sides are reported. -/
def Stream.Quoted (api : Api ν) (s : Stream) : TaskEvent ν → Prop
  | .connect _ r => s.pair.exchange = .binance → RestHarmless api r
  | .retry _ r => s.pair.exchange = .binance → RestHarmless api r
  | _ => True

instance decidableQuoted (api : Api ν) (s : Stream) : ∀ ev, Decidable (s.Quoted api ev)
  | .connect _ _ | .retry _ _ => inferInstanceAs (Decidable (_ → _))
  | .unitPrice | .cancelled | .keepalive _ | .ackDeadline | .heartbeat _ | .poll _ _ =>
      .isTrue trivial

namespace Stream

variable {P Q : Float → Prop} {s s' : Stream}

theorem Sound.mono (h : s.Sound P) (himp : ∀ v, P v → Q v) : s.Sound Q :=
  ⟨himp _ h.value, h.unit, h.conn, fun m p hm hp => himp p (h.last m p hm hp)⟩

/-- A task that is not at work any more has nothing to send. -/
theorem Sound.of_idle (h : P s.channel.value) (hunit : s.phase ≠ .unitPrice)
    (hidle : ∀ m, s.phase ≠ .managing m) : s.Sound P :=
  ⟨h, fun hu => absurd hu hunit, fun m hm => absurd hm (hidle m),
    fun m _ hm => absurd hm (hidle m)⟩

theorem Sound.fail (h : P s.channel.value) (e : ExchangeConnectionError) : (s.fail e).Sound P :=
  .of_idle h (fun hu => by cases hu) fun _ hm => by cases hm

theorem Sound.exit (h : P s.channel.value) (res : Except ServerError Unit) : (s.exit res).Sound P :=
  .of_idle h (fun hu => by cases hu) fun _ hm => by cases hm

theorem Sound.panic (h : P s.channel.value) : s.panic.Sound P :=
  .of_idle h (fun hu => by cases hu) fun _ hm => by cases hm

theorem Sound.manage {conn : Connection} (h : P s.channel.value) (hconn : conn.Sound) (now : Nat) :
    (s.manage conn now).Sound P := by
  refine ⟨h, fun hu => (by cases hu), fun m hm => ?_, fun m p hm hp => ?_⟩
  · cases hm
    exact hconn
  · cases hm
    cases hp

theorem sound_connectWithRetries {now : Nat} {r : Replies ν} (h : P s.channel.value)
    (hq : s.pair.exchange = .binance → RestHarmless api r) :
    (s.connectWithRetries api config now r).Sound P := by
  unfold connectWithRetries
  split
  · exact .panic h
  · next conn hconn => exact .manage h (connectExchange_sound hq hconn) now
  · next e _ => exact .fail h e

theorem sound_exhaustRetries {prevErr : ServerError} {now : Nat} {r : Replies ν}
    (h : P s.channel.value) (hq : s.pair.exchange = .binance → RestHarmless api r) :
    (s.exhaustRetries api config prevErr now r).Sound P := by
  have h : P ({ s with retryTimestamps := s.retries now } : Stream).channel.value := h
  unfold exhaustRetries
  dsimp only
  split
  · exact .panic h
  · next conn hconn =>
      refine .manage h ?_ now
      unfold retryConnection at hconn
      split at hconn
      · cases hconn
      · exact connectExchange_sound hq hconn
  · exact .exit h _
  · next e _ _ => exact .fail h e

theorem sound_heartbeat {m : Managing} {now : Nat} (h : s.Sound P) (hm : s.phase = .managing m) :
    (s.heartbeat api m now).Sound P := by
  unfold heartbeat
  split
  · exact h
  · next price hlast =>
      dsimp only
      split
      · exact ⟨h.last m price hm hlast, h.unit, h.conn, h.last⟩
      · exact .fail h.value _

/-- What is forwarded is the midpoint of the sides that were read. -/
theorem sound_forward {m : Managing} {now : Nat} {ready : Option WsEvent} (h : s.Sound P)
    (hm : s.phase = .managing m) (himp : ∀ v, P v → Q v)
    (hreads : ∀ b o p, m.conn.sides api ready = some (b, o) → p = (b + o) / 2.0 →
      (b.IsGood ∧ o.IsGood) ∨ isZero p = true ∨ p.isFinite = false → Q p) :
    (s.forward api m now ready).Sound Q := by
  have hconsumed := @Connection.pollNext_consumed ν api m.conn ready
  unfold forward
  split
  · next conn hpoll =>
      rw [hpoll] at hconsumed
      refine ⟨himp _ h.value, fun hu => (by cases hu), fun m' hm' => ?_, fun m' p hm' hp => ?_⟩
      · cases hm'
        exact .of_consumed hconsumed
      · cases hm'
        exact himp p (h.last m p hm hp)
  · next price conn hpoll =>
      rw [hpoll] at hconsumed
      obtain ⟨b, o, hsides, hp, hgood⟩ := Connection.pollNext_sides (h.conn m hm) hpoll
      have hprice := hreads b o price hsides hp hgood
      refine ⟨hprice, fun hu => (by cases hu), fun m' hm' => ?_, fun m' p hm' hp => ?_⟩
      · cases hm'
        exact .of_consumed hconsumed
      · cases hm'
        cases hp
        exact hprice
  · next e _ _ => exact .fail (himp _ h.value) e
  · exact .fail (himp _ h.value) _

theorem sound_manageConnection {m : Managing} {ev : TaskEvent ν} (h : s.Sound P)
    (hm : s.phase = .managing m) (himp : ∀ v, P v → Q v)
    (hreads : ∀ b o p, Reporter.reads api s ev = some (b, o) → p = (b + o) / 2.0 →
      (b.IsGood ∧ o.IsGood) ∨ isZero p = true ∨ p.isFinite = false → Q p)
    (hs : s.manageConnection api m ev = some s') : s'.Sound Q := by
  cases ev with
  | keepalive sent =>
      rw [manageConnection] at hs
      split at hs
      · cases hs
        exact h.mono himp
      · cases hs
        exact .fail (himp _ h.value) _
  | ackDeadline =>
      rw [manageConnection] at hs
      split at hs
      · cases hs
      · cases hs
        exact .fail (himp _ h.value) _
  | heartbeat now =>
      cases hs
      exact (sound_heartbeat h hm).mono himp
  | poll now ready =>
      cases hs
      have hr : Reporter.reads api s (.poll now ready) = m.conn.sides api ready := by
        unfold Reporter.reads
        rw [hm]
      exact sound_forward h hm himp (hr ▸ hreads)
  | unitPrice | connect now r | retry now r | cancelled => cases hs

/-- **A step of a task keeps its prices of one kind**, if what it reads is. -/
theorem sound_step {ev : TaskEvent ν} (h : s.Sound P) (himp : ∀ v, P v → Q v)
    (hunit : s.pair.isUnitPair = true → Q unitPairPrice)
    (hreads : ∀ b o p, Reporter.reads api s ev = some (b, o) → p = (b + o) / 2.0 →
      (b.IsGood ∧ o.IsGood) ∨ isZero p = true ∨ p.isFinite = false → Q p)
    (hq : s.Quoted api ev) (hs : s.step api config ev = some s') : s'.Sound Q := by
  cases step_cases hs with
  | unitPrice hp =>
      exact ⟨hunit (h.unit hp), fun _ => h.unit hp, h.conn, fun m p hm hl =>
        himp p (h.last m p hm hl)⟩
  | connect hp => exact sound_connectWithRetries (himp _ h.value) hq
  | retry hp => exact sound_exhaustRetries (himp _ h.value) hq
  | cancelled hp hc => exact .exit (himp _ h.value) _
  | manage hp hm => exact sound_manageConnection h hp himp hreads hm

end Stream

/-! ## All streams and their clients -/

namespace Reporter

/-- The midpoint of good sides that the stream has read, or the price of a unit pair. -/
def FromSides (w : Reporter) (i : Nat) (v : Float) : Prop :=
  (∃ s, w.global.streams[i]? = some s ∧ s.pair.isUnitPair = true ∧ v = unitPairPrice) ∨
    ∃ b o, (i, b, o) ∈ w.reported ∧ b.IsGood ∧ o.IsGood ∧ v = (b + o) / 2.0

/-- No client takes the value for a price, or it is one. -/
def Plausible (w : Reporter) (i : Nat) (v : Float) : Prop :=
  isZero v = true ∨ v.isFinite = false ∨ w.FromSides i v

/-- What a client got is the price of a stream, or its quotient by that of another one. -/
def Justified (w : Reporter) (x : Served) : Prop :=
  match x.conversionRx with
  | none => w.FromSides x.rx x.price
  | some conversionRx =>
      ∃ price rate, w.FromSides x.rx price ∧ w.FromSides conversionRx rate ∧
        x.price = price / rate

structure ClientsSound (w : Reporter) : Prop where
  call : ∀ c ∈ w.calls, ∀ rx p, c.held = some (rx, p) → w.Plausible rx p ∧ isZero p = false
  subscription : ∀ sub ∈ w.subscriptions,
    sub.stream.conversionStream.isSome = sub.conversionRx.isSome
  served : ∀ x ∈ w.served, x.price.IsGood → w.Justified x

structure Sound (w : Reporter) : Prop where
  stream : ∀ (i : Nat) (s : Stream), w.global.streams[i]? = some s → s.Sound (w.Plausible i)
  clients : w.ClientsSound

/-- What has been reported stays so, and a stream stays that of its pair. -/
structure Extends (w w' : Reporter) : Prop where
  reported : ∀ q ∈ w.reported, q ∈ w'.reported
  pairs : ∀ (i : Nat) (s : Stream), w.global.streams[i]? = some s →
    ∃ s' : Stream, w'.global.streams[i]? = some s' ∧ s'.pair = s.pair

variable {w w' : Reporter}

theorem Extends.of_frame (h : Frame w w') : w.Extends w' :=
  ⟨fun _ hq => h.reported ▸ hq, fun _ s hs => ⟨s, h.global ▸ hs, rfl⟩⟩

theorem Extends.fromSides (h : w.Extends w') {i : Nat} {v : Float} (hv : w.FromSides i v) :
    w'.FromSides i v := by
  rcases hv with ⟨s, hs, hunit, hv⟩ | ⟨b, o, hq, hgood⟩
  · obtain ⟨s', hs', hpair⟩ := h.pairs i s hs
    exact .inl ⟨s', hs', hpair ▸ hunit, hv⟩
  · exact .inr ⟨b, o, h.reported _ hq, hgood⟩

theorem Extends.plausible_mono (h : w.Extends w') {i : Nat} {v : Float} (hv : w.Plausible i v) :
    w'.Plausible i v := by
  rcases hv with hv | hv | hv
  · exact .inl hv
  · exact .inr (.inl hv)
  · exact .inr (.inr (h.fromSides hv))

theorem Extends.justified (h : w.Extends w') {x : Served} (hx : w.Justified x) :
    w'.Justified x := by
  unfold Justified at hx ⊢
  split
  · next hnone =>
      rw [hnone] at hx
      exact h.fromSides hx
  · next conversionRx hsome =>
      rw [hsome] at hx
      obtain ⟨price, rate, hp, hr, heq⟩ := hx
      exact ⟨price, rate, h.fromSides hp, h.fromSides hr, heq⟩

theorem Plausible.fromSides {i : Nat} {v : Float} (h : w.Plausible i v) (hz : isZero v = false)
    (hfin : v.isFinite = true) : w.FromSides i v := by
  rcases h with h | h | h
  · exact absurd (h.symm.trans hz) (Bool.false_ne_true ∘ Eq.symm)
  · exact absurd (h.symm.trans hfin) Bool.false_ne_true
  · exact h

/-- A stream is replaced by one of the same pair. -/
theorem pairs_setStream {g : GlobalPriceStreams} {i : Nat} {s s' : Stream}
    (hs : g.streams[i]? = some s) (hpair : s'.pair = s.pair) {j : Nat} {t : Stream}
    (ht : g.streams[j]? = some t) :
    ∃ t' : Stream, (g.setStream i s').streams[j]? = some t' ∧ t'.pair = t.pair := by
  rw [GlobalPriceStreams.streams_setStream hs]
  by_cases hij : i = j
  · subst hij
    cases hs.symm.trans ht
    exact ⟨s', if_pos rfl, hpair⟩
  · exact ⟨t, (if_neg hij).trans ht, rfl⟩

theorem extends_step {e : Event ν} (h : w.step api config e = some w') : w.Extends w' := by
  cases step_change h with
  | same ha hf => exact .of_frame hf
  | @spawned pair ha hc hnew hg hr hd =>
      refine ⟨fun q hq => hr ▸ hq, fun i s hs => ⟨s, ?_, rfl⟩⟩
      rw [hg]
      exact GlobalPriceStreams.streams_spawn_old hs
  | @cancelled k toCancel he hl hg hr hd =>
      refine ⟨fun q hq => hr ▸ hq, fun i s hs => ?_⟩
      obtain ⟨c, hc⟩ := w.global.streams_cancelRemoved toCancel i
      rw [hg, hc, hs]
      exact ⟨_, rfl, rfl⟩
  | @stepped i ev s s' he hs hs' hg hr hd =>
      refine ⟨fun q hq => hr ▸ List.mem_append_left _ hq, fun j t ht => ?_⟩
      rw [hg]
      exact pairs_setStream hs (Stream.step_frame hs').pair ht
  | @removed i he hg hr hd =>
      refine ⟨fun q hq => hr ▸ hq, fun j t ht => ?_⟩
      obtain ⟨s, s', res, -, -, hs', hg'⟩ := GlobalPriceStreams.remove_eq_some hg
      have hremoved : ∃ t' : Stream,
          (w.global.removePriceStream s.pair).streams[j]? = some t' ∧ t'.pair = t.pair := by
        rw [GlobalPriceStreams.streams_removePriceStream, ht]
        exact ⟨_, rfl, rfl⟩
      obtain ⟨t', ht', hpair⟩ := hremoved
      rw [hg', ← hpair]
      refine pairs_setStream hs' ?_ ht'
      rfl
  | @closed i he hg hr hd =>
      refine ⟨fun q hq => hr ▸ hq, fun j t ht => ?_⟩
      obtain ⟨s, res, cancelled, hs, -, -, -, hstreams⟩ := GlobalPriceStreams.close_eq_some hg
      rw [hstreams]
      refine pairs_setStream hs ?_ ht
      rfl
  | @received i res closures ha hc hg hr hd =>
      exact ⟨fun q hq => hr ▸ hq, fun i s hs => ⟨s, hg ▸ hs, rfl⟩⟩

/-- When a task connects to Binance, harmless sides are reported. -/
def Quoted (api : Api ν) (w : Reporter) : Event ν → Prop
  | .task i ev => ∀ s ∈ w.global.streams[i]?, s.Quoted api ev
  | _ => True

instance decidableReporterQuoted (api : Api ν) (w : Reporter) : ∀ e, Decidable (w.Quoted api e)
  | .task _ _ => inferInstanceAs (Decidable (∀ s ∈ _, _))
  | .call _ _ | .advance _ _ | .poll _ | .listRemoved _ | .cancelRemoved _ | .remove _ | .close _
  | .receiveClosure => .isTrue trivial

/-- The sides are reported in the step in which their midpoint is sent. -/
theorem streams_sound_step {e : Event ν} (hw : w.Sound) (hq : w.Quoted api e)
    (h : w.step api config e = some w') (j : Nat) (t : Stream)
    (ht : w'.global.streams[j]? = some t) : t.Sound (w'.Plausible j) := by
  have hext := extends_step h
  have hmono : ∀ i v, w.Plausible i v → w'.Plausible i v := fun i v hv => hext.plausible_mono hv
  cases step_change h with
  | same ha hf => exact (hw.stream j t (hf.global ▸ ht)).mono (hmono j)
  | @spawned pair ha hc hnew hg hr hd =>
      rw [hg] at ht
      rcases GlobalPriceStreams.streams_spawn ht with ht | ⟨-, rfl⟩
      · exact (hw.stream j t ht).mono (hmono j)
      · have hzero : isZero 0.0 = true := by decide +kernel
        refine ⟨.inl hzero, fun hu => ?_, fun m hm => ?_, fun m p hm => ?_⟩
        · unfold Stream.spawned at hu ⊢
          dsimp only at hu ⊢
          split at hu
          · next hunit => exact hunit
          · cases hu
        · unfold Stream.spawned at hm
          dsimp only at hm
          split at hm <;> cases hm
        · unfold Stream.spawned at hm
          dsimp only at hm
          split at hm <;> cases hm
  | @cancelled k toCancel he hl hg hr hd =>
      obtain ⟨c, hc⟩ := w.global.streams_cancelRemoved toCancel j
      rw [hg, hc] at ht
      obtain ⟨s, hs, rfl⟩ := Option.map_eq_some_iff.mp ht
      have hsound := (hw.stream j s hs).mono (hmono j)
      exact ⟨hsound.value, hsound.unit, hsound.conn, hsound.last⟩
  | @stepped i ev s s' he hs hs' hg hr hd =>
      rw [hg, GlobalPriceStreams.streams_setStream hs] at ht
      split at ht
      · next hij =>
          subst hij
          cases ht
          subst he
          refine Stream.sound_step (hw.stream i s hs) (hmono i) (fun hunit => ?_)
            (fun b o p hreads hp hgood => ?_) (hq s hs) hs'
          · obtain ⟨s₁, hs₁, hpair⟩ := hext.pairs i s hs
            exact .inr (.inr (.inl ⟨s₁, hs₁, hpair ▸ hunit, rfl⟩))
          · rcases hgood with ⟨hb, ho⟩ | hz | hinf
            · refine .inr (.inr (.inr ⟨b, o, ?_, hb, ho, hp⟩))
              rw [hr, hreads]
              exact List.mem_append_right _ List.mem_cons_self
            · exact .inl hz
            · exact .inr (.inl hinf)
      · exact (hw.stream j t ht).mono (hmono j)
  | @removed i he hg hr hd =>
      obtain ⟨s, s', res, -, -, hs', hg'⟩ := GlobalPriceStreams.remove_eq_some hg
      have hkept : ∀ (k : Nat) (u : Stream),
          (w.global.removePriceStream s.pair).streams[k]? = some u → u.Sound (w'.Plausible k) := by
        intro k u hu
        rw [GlobalPriceStreams.streams_removePriceStream] at hu
        obtain ⟨t₀, ht₀, rfl⟩ := Option.map_eq_some_iff.mp hu
        have hsound := (hw.stream k t₀ ht₀).mono (hmono k)
        exact ⟨hsound.value, hsound.unit, hsound.conn, hsound.last⟩
      rw [hg', GlobalPriceStreams.streams_setStream hs'] at ht
      split at ht
      · next hij =>
          subst hij
          cases ht
          exact .of_idle (hkept i s' hs').value (fun hu => by cases hu) fun m hm => by cases hm
      · exact hkept j t ht
  | @closed i he hg hr hd =>
      obtain ⟨s, res, cancelled, hs, -, -, -, hstreams⟩ := GlobalPriceStreams.close_eq_some hg
      rw [hstreams, GlobalPriceStreams.streams_setStream hs] at ht
      split at ht
      · next hij =>
          subst hij
          cases ht
          exact .of_idle ((hw.stream i s hs).mono (hmono i)).value (fun hu => by cases hu)
            fun m hm => by cases hm
      · exact (hw.stream j t ht).mono (hmono j)
  | @received i res closures ha hc hg hr hd =>
      rw [hg] at ht
      exact (hw.stream j t ht).mono (hmono j)

/-! ### Clients -/

theorem ClientsSound.of_same (h : w.ClientsSound) (hext : w.Extends w') (hc : w'.calls = w.calls)
    (hsub : w'.subscriptions = w.subscriptions)
    (hserved : w'.served = w.served) : w'.ClientsSound := by
  refine ⟨fun c hmem rx p hheld => ?_, hsub ▸ h.subscription, fun x hmem hgood => ?_⟩
  · obtain ⟨hp, hz⟩ := h.call c (hc ▸ hmem) rx p hheld
    exact ⟨hext.plausible_mono hp, hz⟩
  · exact hext.justified (h.served x (hserved ▸ hmem) hgood)

/-- A call goes on; it holds what it held, or what is plausible. -/
theorem ClientsSound.setCall (h : w.ClientsSound) {i : Nat} {c : Call}
    (hc : ∀ rx p, c.held = some (rx, p) → w.Plausible rx p ∧ isZero p = false) :
    (w.setCall i c).ClientsSound := by
  refine ⟨fun c' hmem rx p hheld => ?_, h.subscription, h.served⟩
  rcases List.mem_or_eq_of_mem_set hmem with hmem | rfl
  · exact h.call c' hmem rx p hheld
  · exact hc rx p hheld

/-- A plausible price that is delivered is justified. -/
theorem justified_price {rx : Nat} {price : Float} (hp : w.Plausible rx price)
    (hz : isZero price = false) (hgood : price.IsGood) : w.Justified ⟨rx, none, price⟩ :=
  hp.fromSides hz hgood.1

/-- So is the quotient of two. -/
theorem justified_quotient {rx conversionRx : Nat} {price rate : Float} (hp : w.Plausible rx price)
    (hpz : isZero price = false) (hr : w.Plausible conversionRx rate) (hrz : isZero rate = false)
    (hgood : (price / rate).IsGood) : w.Justified ⟨rx, some conversionRx, price / rate⟩ := by
  obtain ⟨hpfin, hrfin⟩ := Float.isFinite_of_div hgood
  exact ⟨price, rate, hp.fromSides hpz hpfin, hr.fromSides hrz hrfin, rfl⟩

/-- What is delivered has to be justified if it looks like a price. -/
theorem ClientsSound.deliver (h : w.ClientsSound) {rx : Nat} {conversionRx : Option Nat}
    {res : Option (Except ServerError Float)}
    (hres : ∀ price, res = some (.ok price) → price.IsGood →
      w.Justified ⟨rx, conversionRx, price⟩) :
    (w.deliver rx conversionRx res).ClientsSound := by
  rcases res with _ | (e | price)
  · refine ⟨h.call, fun sub hmem => ?_, h.served⟩
    rcases List.mem_append.mp hmem with hmem | hmem
    · exact h.subscription sub hmem
    · cases List.mem_singleton.mp hmem
      cases conversionRx <;> rfl
  · exact h
  · refine ⟨h.call, h.subscription, fun x hmem hgood => ?_⟩
    rcases List.mem_append.mp hmem with hmem | hmem
    · exact h.served x hmem hgood
    · cases List.mem_singleton.mp hmem
      exact hres price rfl hgood

theorem held_done (c : Call) (rx : Nat) (p : Float) :
    ({ c with phase := .done } : Call).held = some (rx, p) → w.Plausible rx p ∧ isZero p = false :=
  fun h => by cases h

theorem sound_readPrice (h : w.ClientsSound) {i rx : Nat} {c : Call} {channel : Chan Float}
    (hvalue : w.Plausible rx channel.value) : (w.readPrice i c rx channel).ClientsSound := by
  unfold readPrice
  dsimp only
  split
  · exact h.setCall (held_done c)
  · next hany =>
      have hread : ∀ p, priceRead c.goal channel = some p →
          p = channel.value ∧ isZero p = false := by
        intro p hp
        rw [hp] at hany
        refine ⟨?_, Bool.eq_false_iff.mpr hany⟩
        cases hg : c.goal with
        | currentPrice =>
            rw [hg] at hp
            exact (Option.some.inj hp).symm
        | priceStream =>
            rw [hg] at hp
            cases hp
      split
      · refine ClientsSound.setCall (h.deliver fun price hprice hgood => ?_) (held_done c)
        obtain ⟨p, hp, hcur⟩ := Option.map_eq_some_iff.mp hprice
        obtain ⟨rfl, hz⟩ := hread p hp
        rw [currentPrice, hz] at hcur
        cases hcur
        exact justified_price hvalue hz hgood
      · exact h.setCall (held_done c)
      · refine h.setCall fun rx' p hheld => ?_
        obtain ⟨_, hp, heq⟩ := Option.map_eq_some_iff.mp hheld
        cases heq
        obtain ⟨rfl, hz⟩ := hread p hp
        exact ⟨hvalue, hz⟩

theorem sound_readConversion (h : w.ClientsSound) {i rx conversionRx : Nat} {c : Call}
    {price : Option Float} {channel : Chan Float}
    (hprice : ∀ p, price = some p → w.Plausible rx p ∧ isZero p = false)
    (hvalue : w.Plausible conversionRx channel.value) :
    (w.readConversion i c rx price conversionRx channel).ClientsSound := by
  refine ClientsSound.setCall (h.deliver fun res hres hgood => ?_) (held_done c)
  obtain ⟨p, hp, hcur⟩ := Option.map_eq_some_iff.mp hres
  obtain ⟨hplaus, hz⟩ := hprice p hp
  unfold currentPrice at hcur
  dsimp only at hcur
  rw [hz] at hcur
  cases hrate : isZero channel.value with
  | true =>
      rw [hrate] at hcur
      cases hcur
  | false =>
      rw [hrate] at hcur
      cases hcur
      exact justified_quotient hplaus hz hvalue hrate hgood

theorem sound_advance (hw : w.Sound) {i : Nat} {c : Call}
    {reply : Except ExchangeConnectionError Bool} (hc : w.calls[i]? = some c)
    (h : w.advance api i c reply = some w') (hext : w.Extends w') : w'.ClientsSound := by
  have hmem : c ∈ w.calls := List.mem_of_getElem? hc
  cases advance_cases h with
  | @fetch pair fetch c' hf hheld =>
      refine ClientsSound.setCall ?_ fun rx p hc' => ?_
      · exact hw.clients.of_same ⟨hext.reported, hext.pairs⟩ rfl rfl rfl
      · rcases hheld with hnone | hsame
        · rw [hnone] at hc'
          cases hc'
        · obtain ⟨hp, hz⟩ := hw.clients.call c hmem rx p (hsame ▸ hc')
          exact ⟨Extends.plausible_mono ⟨hext.reported, hext.pairs⟩ hp, hz⟩
  | @price rx s hphase hs => exact sound_readPrice hw.clients (hw.stream rx s hs).value
  | @conversion rx price conversionRx s hphase hs =>
      refine sound_readConversion hw.clients (fun p hp => ?_) (hw.stream conversionRx s hs).value
      refine hw.clients.call c hmem rx p ?_
      rw [Call.held, hphase, hp]
      rfl

theorem sound_pollSubscription {watch : Reader Float} (hw : w.Sound) {k : Nat}
    (h : w.pollSubscription watch k = some w') : w'.ClientsSound := by
  unfold pollSubscription at h
  obtain ⟨sub, hsub, h⟩ := Option.bind_eq_some_iff.mp h
  obtain ⟨s, hs, h⟩ := Option.bind_eq_some_iff.mp h
  obtain ⟨conversion, hconv, h⟩ := Option.bind_eq_some_iff.mp h
  have hmem : sub ∈ w.subscriptions := List.mem_of_getElem? hsub
  have hchannels := hw.clients.subscription sub hmem
  have hkept := sub.stream.pollNext_conversionStream watch s.channel conversion.channel
  have hsubs : ∀ sub' ∈ w.subscriptions.set k { sub with
      stream := (sub.stream.pollNext watch s.channel conversion.channel).2 },
      sub'.stream.conversionStream.isSome = sub'.conversionRx.isSome := by
    intro sub' hmem'
    rcases List.mem_or_eq_of_mem_set hmem' with hmem' | rfl
    · exact hw.clients.subscription sub' hmem'
    · exact hkept.trans hchannels
  dsimp only at h
  split at h
  · next price hpoll =>
      cases h
      refine ⟨hw.clients.call, hsubs, fun x hx hgood => ?_⟩
      rcases List.mem_append.mp hx with hx | hx
      · exact hw.clients.served x hx hgood
      · cases List.mem_singleton.mp hx
        obtain ⟨hz, hitem⟩ := PriceStream.pollNext_item (Prod.ext hpoll rfl)
        have hvalue := (hw.stream sub.rx s hs).value
        have hrate := (hw.stream _ conversion hconv).value
        cases hrx : sub.conversionRx with
        | none =>
            rw [hrx] at hchannels
            rw [Option.not_isSome_iff_eq_none.mp (Bool.eq_false_iff.mp hchannels)] at hitem
            cases hitem
            exact justified_price hvalue hz hgood
        | some conversionRx =>
            rw [hrx] at hchannels hrate
            obtain ⟨cursor, hcursor⟩ := Option.isSome_iff_exists.mp hchannels
            rw [hcursor] at hitem
            obtain ⟨hrz, rfl⟩ := hitem
            exact justified_quotient hvalue hz hrate hrz hgood
  · cases h
    exact ⟨hw.clients.call, hsubs, hw.clients.served⟩

theorem clients_sound_step {e : Event ν} (hw : w.Sound) (h : w.step api config e = some w') :
    w'.ClientsSound := by
  have hext := extends_step h
  have hsame := hw.clients.of_same hext
  unfold step at h
  split at h
  · cases h
  · cases e with
    | call goal pair =>
        dsimp only at h
        split at h
        · cases h
          exact hw.clients
        · cases h
          refine ⟨fun c hmem rx p hheld => ?_, hw.clients.subscription, hw.clients.served⟩
          rcases List.mem_append.mp hmem with hmem | hmem
          · exact hw.clients.call c hmem rx p hheld
          · cases List.mem_singleton.mp hmem
            cases hheld
    | advance i reply =>
        obtain ⟨c, hc, h⟩ := Option.bind_eq_some_iff.mp h
        exact sound_advance hw hc h hext
    | poll k => exact sound_pollSubscription hw h
    | listRemoved desired =>
        cases h
        exact hsame rfl rfl rfl
    | cancelRemoved k =>
        obtain ⟨l, hl, h⟩ := Option.bind_eq_some_iff.mp h
        cases h
        exact hsame rfl rfl rfl
    | task i ev =>
        obtain ⟨s, hs, h⟩ := Option.bind_eq_some_iff.mp h
        obtain ⟨s', hs', h⟩ := Option.bind_eq_some_iff.mp h
        cases h
        exact hsame rfl rfl rfl
    | remove i | close i =>
        obtain ⟨g, hg, h⟩ := Option.bind_eq_some_iff.mp h
        cases h
        exact hsame rfl rfl rfl
    | receiveClosure =>
        dsimp only at h
        unfold receiveClosure at h
        split at h
        · cases h
        · dsimp only at h
          split at h
          · cases h
            exact hsame rfl rfl rfl
          · cases h
            exact hsame rfl rfl rfl

/-! ### Every run -/

theorem sound_init : init.Sound :=
  ⟨fun _ _ hs => absurd hs.symm (Option.some_ne_none _),
    fun _ hc => absurd hc List.not_mem_nil, fun _ hs => absurd hs List.not_mem_nil,
    fun _ hx => absurd hx List.not_mem_nil⟩

theorem sound_step {e : Event ν} (hw : w.Sound) (hq : w.Quoted api e)
    (h : w.step api config e = some w') : w'.Sound :=
  ⟨streams_sound_step hw hq h, clients_sound_step hw h⟩

/--
A positive finite price that a connection gives is the midpoint of a positive finite bid and
such an offer, and one that a client gets is made of such midpoints.
-/
structure GoodPrices (api : Api ν) (w : Reporter) : Prop where
  emitted : ∀ (i : Nat) (s : Stream) (m : Managing) (ready : Option WsEvent) (p : Float)
    (conn : Connection), w.global.streams[i]? = some s → s.phase = .managing m →
      m.conn.pollNext api ready = (.item (.ok p), conn) → p.IsGood →
      ∃ b o, m.conn.sides api ready = some (b, o) ∧ b.IsGood ∧ o.IsGood ∧ p = (b + o) / 2.0
  served : ∀ x ∈ w.served, x.price.IsGood → w.Justified x

theorem Sound.goodPrices (h : w.Sound) : w.GoodPrices api := by
  refine ⟨fun i s m ready p conn hs hm hpoll hgood => ?_, h.clients.served⟩
  obtain ⟨b, o, hsides, hp, hcase⟩ :=
    Connection.pollNext_sides ((h.stream i s hs).conn m hm) hpoll
  rcases hcase with ⟨hb, ho⟩ | hz | hinf
  · exact ⟨b, o, hsides, hb, ho, hp⟩
  · exact absurd (hz.symm.trans hgood.not_zero) (Bool.false_ne_true ∘ Eq.symm)
  · exact absurd (hinf.symm.trans hgood.1) Bool.false_ne_true

/--
**If Binance never reports a bad side next to a number, no price is made of a bad side**, in
any state of any run, whatever else the exchanges report and however often they are
connected to.
-/
theorem prices_from_good_sides {es : List (Event ν)}
    (hq : Runs.Meets (step api config) (Quoted api) init es)
    (hr : Runs.run (step api config) init es = some w) : w.GoodPrices api :=
  (Runs.run_invariant (fun _ _ _ => sound_step) es sound_init hq hr).goodPrices

end Reporter

/-! ### Half the offer -/

/-- A client asks for a price, a stream is started and connects, and the client reads. -/
def askPrice (bid offer : String) : List (Event Unit) :=
  [.call .currentPrice ⟨.binance, "WETH", "USDT"⟩, .advance 0 (.ok true), .advance 0 (.ok true),
    .advance 0 (.ok true), .task 0 (.connect 0 (restReplies bid offer)), .task 0 (.poll 1 none),
    .advance 0 (.ok true)]

/-- The same client then subscribes to the price in USDC, of which a message comes. -/
def subscribeConverted : List (Event Unit) :=
  [.call .priceStream ⟨.renegade, "WETH", "USDC"⟩, .advance 1 (.ok true), .advance 1 (.ok true),
    .advance 1 (.ok true), .advance 1 (.ok true), .advance 1 (.ok true),
    .task 1 (.connect 2 (restReplies "0.0" "0.0")), .task 1 (.poll 3 none), .advance 1 (.ok true),
    .poll 0, .task 1 (.poll 4 (some (.message (.text "book ticker")))),
    .task 0 (.poll 4 (some (.message (.text "book ticker")))), .poll 0]

/-- A price of 101, and later one of 104 at a rate of 104. -/
theorem askPrice_good : ∃ w,
    sampleRun (askPrice "100.0" "102.0" ++ subscribeConverted) = some w ∧
      w.served.map (·.price) = [101.0, 1.0] ∧ w.GoodPrices sampleApi := by
  have hserved : (sampleRun (askPrice "100.0" "102.0" ++ subscribeConverted)).map
      (fun w => w.served.map (·.price)) = some [101.0, 1.0] := by decide +kernel
  obtain ⟨w, hr, hprices⟩ := Option.map_eq_some_iff.mp hserved
  exact ⟨w, hr, hprices, Reporter.prices_from_good_sides (by decide +kernel) hr⟩

/--
Binance reports no bid and an offer of 79675, and a client gets half of that for the price.
-/
theorem askPrice_half_offer : ∃ w,
    sampleRun (askPrice "0.0" "79675.0") = some w ∧
      w.served = [⟨0, none, 39837.5⟩] ∧ w.reported = [(0, 0.0, 79675.0)] ∧
      ¬ w.GoodPrices sampleApi := by
  have hrun : (sampleRun (askPrice "0.0" "79675.0")).map
      (fun w => (w.served, w.reported, w.global.streams.map (·.pair.isUnitPair))) =
      some ([⟨0, none, 39837.5⟩], [(0, 0.0, 79675.0)], [false]) := by
    decide +kernel
  obtain ⟨w, hr, hw⟩ := Option.map_eq_some_iff.mp hrun
  obtain ⟨hserved, hw⟩ := Prod.mk.inj hw
  obtain ⟨hreported, hunits⟩ := Prod.mk.inj hw
  refine ⟨w, hr, hserved, hreported, fun hgood => ?_⟩
  have hj := hgood.served ⟨0, none, 39837.5⟩ (hserved ▸ List.mem_cons_self) (by decide +kernel)
  rcases hj with ⟨s, hs, hunit, -⟩ | ⟨b, o, hmem, hb, -⟩
  · have hfirst : (w.global.streams.map (·.pair.isUnitPair))[0]? = some false := by rw [hunits]; rfl
    rw [List.getElem?_map, hs] at hfirst
    exact absurd (hunit.symm.trans (Option.some.inj hfirst)) (Bool.false_ne_true ∘ Eq.symm)
  · rw [hreported] at hmem
    cases List.mem_singleton.mp hmem
    exact absurd hb (by decide +kernel)

end RelayerExtensions.Prices
