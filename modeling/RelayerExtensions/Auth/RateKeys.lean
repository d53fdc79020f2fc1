import RelayerExtensions.Auth.RateUpdates
import RelayerExtensions.Lib.Concat

/-!
# The text of a rate limit key

`build_key` writes `{key_prefix}{sub_key}#{nearest_refill}`, with the start of the window
as `%Y-%m-%d_%H:%M:%S`. Nothing is escaped, and the sub-key is whatever describes the
user, so a description may hold a `#`, a time or the key prefix of another limiter.

The keys are still told apart. While the year has four digits the time is 19 characters
long, so what stands before the `#` is known, and no key prefix begins another. The time
is written to the second only; it names the window because both refill intervals are
whole seconds. So a `RateKey` stands for its text (`RateKey.text_inj`), and the calls of
all others leave the counters of a user at a limiter alone, however they interleave
(`counter_of_others`).
-/

namespace RelayerExtensions.Auth

open Calendar Concat Procs Redis RedisRateLimiter

/-! ## The time -/

/-- `%Y`: four digits, or a sign and at least four. -/
def yearText (year : Int) : List Char :=
  if 0 ≤ year ∧ year < 10000 then padded 4 year.toNat
  else (if year < 0 then '-' else '+') ::
    if year.natAbs < 10000 then padded 4 year.natAbs else Nat.toDigits 10 year.natAbs

/-- `%Y-%m-%d_%H:%M:%S` -/
def timeText (t : DateTime) : List Char :=
  yearText t.date.year ++ '-' :: (padded 2 t.date.month ++ '-' :: (padded 2 t.date.day ++
    '_' :: (padded 2 t.hour ++ ':' :: (padded 2 t.minute ++ ':' :: padded 2 t.second))))

def FourDigits (t : DateTime) : Prop := 0 ≤ t.date.year ∧ t.date.year < 10000

instance (t : DateTime) : Decidable (FourDigits t) := inferInstanceAs (Decidable (_ ∧ _))

theorem yearText_of_fourDigits {t : DateTime} (h : FourDigits t) :
    yearText t.date.year = padded 4 t.date.year.toNat := if_pos h

theorem length_timeText {t : DateTime} (h : FourDigits t) : (timeText t).length = 19 := by
  simp [timeText, yearText_of_fourDigits h]

/-- What follows a field of known width, and the separator behind it. -/
theorem field_inj {w a b : Nat} {c : Char} {u v : List Char} (ha : a < 10 ^ w) (hb : b < 10 ^ w)
    (h : padded w a ++ c :: u = padded w b ++ c :: v) : a = b ∧ u = v := by
  obtain ⟨hfield, hrest⟩ := List.append_inj h (by rw [length_padded, length_padded])
  exact ⟨padded_inj ha hb hfield, List.tail_eq_of_cons_eq hrest⟩

theorem timeText_inj {t t' : DateTime} (ht : FourDigits t) (ht' : FourDigits t')
    (h : timeText t = timeText t') : t = t' := by
  unfold timeText at h
  rw [yearText_of_fourDigits ht, yearText_of_fourDigits ht'] at h
  have hyear := ht
  have hyear' := ht'
  unfold FourDigits at hyear hyear'
  have hmonth := t.date.month_mem
  have hmonth' := t'.date.month_mem
  have hday := t.date.day_mem
  have hday' := t'.date.day_mem
  obtain ⟨hy, h⟩ := field_inj (by omega) (by omega) h
  obtain ⟨hm, h⟩ := field_inj (by omega) (by omega) h
  obtain ⟨hd, h⟩ := field_inj (by omega) (by omega) h
  obtain ⟨hh, h⟩ := field_inj (t.hour_lt.trans (by decide)) (t'.hour_lt.trans (by decide)) h
  obtain ⟨hmin, h⟩ := field_inj (t.minute_lt.trans (by decide)) (t'.minute_lt.trans (by decide)) h
  have hs := padded_inj (t.second_lt.trans (by decide)) (t'.second_lt.trans (by decide)) h
  exact DateTime.ext (Date.ext (by omega) hm hd) hh hmin hs

example : timeText (Dates.gregorian.ofSeconds 951868799) = "2000-02-29_23:59:59".toList := by
  decide +kernel

/-! ## Keys -/

/-- What stands before the `#`, and the time after it. -/
def keyText (lib : RateLib) (name : String) (second : Int) : String :=
  name ++ "#" ++ String.ofList (timeText (lib.dates.ofSeconds second))

/-- What stands before the time is known from its length. -/
theorem keyText_inj {lib : RateLib} {name name' : String} {second second' : Int}
    (hyear : FourDigits (lib.dates.ofSeconds second))
    (hyear' : FourDigits (lib.dates.ofSeconds second'))
    (h : keyText lib name second = keyText lib name' second') :
    name = name' ∧ second = second' := by
  have hlist := congrArg String.toList h
  simp only [keyText, String.toList_append, String.toList_ofList] at hlist
  obtain ⟨hname, htime⟩ := List.append_inj' hlist
    (by rw [length_timeText hyear, length_timeText hyear'])
  exact ⟨String.toList_inj.mp (List.append_inj' hname rfl).1,
    lib.dates.ofSeconds_inj (timeText_inj hyear hyear' htime)⟩

def RateKey.text (lib : RateLib) (key : RateKey) : String := keyText lib key.name key.second

/-- **A key stands for its text.** -/
theorem RateKey.text_inj {lib : RateLib} {key key' : RateKey}
    (hyear : FourDigits (lib.dates.ofSeconds key.second))
    (hyear' : FourDigits (lib.dates.ofSeconds key'.second)) (h : key.text lib = key'.text lib) :
    key = key' := by
  obtain ⟨hname, hsecond⟩ := keyText_inj hyear hyear' h
  cases key
  cases key'
  cases hname
  cases Int.ofNat.inj hsecond
  rfl

namespace RedisRateLimiter

variable (lib : RateLib) (limiter : RedisRateLimiter)

/-- `build_key`, once it has rounded the time: `nearest_refill` is in nanoseconds, and may be
before 1970. -/
def buildKeyAt (subKey : String) (nearestRefill : Int) : String :=
  keyText lib (limiter.keyPrefix ++ subKey) (nearestRefill / nanos)

/-- The instants a window of the limiter can start at. -/
def IsWindowStart (t : Int) : Prop := (limiter.refillInterval : Int) ∣ t

theorem buildKey_text (subKey : String) (now : Nat) :
    (limiter.buildKey lib subKey now).text lib =
      limiter.buildKeyAt lib subKey (limiter.roundToNearestRefill lib now) := by
  rw [RateKey.text, buildKey, buildKeyAt, Int.natCast_ediv]

end RedisRateLimiter

/-! ## The three limiters -/

/-- The limiters of the server that count in Redis under keys of `build_key`. -/
inductive Limiter where
  | quote
  | bundle
  | gasSponsorship
deriving DecidableEq

/-- `QUOTE_RATE_LIMITER_KEY_PREFIX` and the like. -/
def Limiter.keyPrefix : Limiter → String
  | .quote => "quote_rate_limit"
  | .bundle => "bundle_rate_limit"
  | .gasSponsorship => "gas_sponsorship_rate_limit"

/-- They differ in their first letter. -/
theorem Limiter.keyPrefix_free : PrefixFree fun l : Limiter => l.keyPrefix.toList := by
  intro l l' hbegins
  cases l <;> cases l' <;> first | rfl | exact absurd hbegins (by decide)

namespace AuthServerRateLimiter

def limiter (server : AuthServerRateLimiter) : Limiter → RedisRateLimiter
  | .quote => server.quoteRateLimiter
  | .bundle => server.bundleRateLimiter
  | .gasSponsorship => server.gasSponsorshipRateLimiter

variable {lib : RateLib} {server : AuthServerRateLimiter} {quoteRateLimit bundleRateLimit : Nat}
  {maxGasSponsorshipValue : ℚ}

theorem keyPrefix_limiter
    (hserver : server = new quoteRateLimit bundleRateLimit maxGasSponsorshipValue) (l : Limiter) :
    (server.limiter l).keyPrefix = l.keyPrefix := by
  subst hserver
  cases l with
  | quote | bundle | gasSponsorship => rfl

/-- Both refill intervals are whole seconds. -/
theorem nanos_dvd_of_isWindowStart
    (hserver : server = new quoteRateLimit bundleRateLimit maxGasSponsorshipValue) {l : Limiter}
    {t : Int} (h : (server.limiter l).IsWindowStart t) : (nanos : Int) ∣ t := by
  subst hserver
  refine Int.dvd_trans (Int.natCast_dvd_natCast.mpr ?_) h
  cases l with
  | quote | bundle => exact ⟨60, rfl⟩
  | gasSponsorship => exact ⟨86400, rfl⟩

/-- What stands before the `#` names the limiter and the user. -/
theorem name_inj (hserver : server = new quoteRateLimit bundleRateLimit maxGasSponsorshipValue)
    {l l' : Limiter} {user user' : String}
    (h : (server.limiter l).keyPrefix ++ user = (server.limiter l').keyPrefix ++ user') :
    l = l' ∧ user = user' := by
  rw [keyPrefix_limiter hserver, keyPrefix_limiter hserver] at h
  have hlist := congrArg String.toList h
  rw [String.toList_append, String.toList_append] at hlist
  obtain ⟨hl, huser⟩ := Limiter.keyPrefix_free.append_inj hlist
  exact ⟨hl, String.toList_inj.mp huser⟩

/--
**No two limiters, users or windows share a key**: over all descriptions of users, and all
windows that start in a year of four digits, the texts of two keys are equal only if the
limiter, the description and the start of the window are.
-/
theorem build_key_injective
    (hserver : server = new quoteRateLimit bundleRateLimit maxGasSponsorshipValue) {l l' : Limiter}
    {user user' : String} {start start' : Int} (hstart : (server.limiter l).IsWindowStart start)
    (hstart' : (server.limiter l').IsWindowStart start')
    (hyear : FourDigits (lib.dates.ofSeconds (start / nanos)))
    (hyear' : FourDigits (lib.dates.ofSeconds (start' / nanos))) :
    (server.limiter l).buildKeyAt lib user start =
        (server.limiter l').buildKeyAt lib user' start' ↔
      l = l' ∧ user = user' ∧ start = start' := by
  constructor
  · intro h
    obtain ⟨hname, hsecond⟩ := keyText_inj hyear hyear' h
    obtain ⟨hl, huser⟩ := name_inj hserver hname
    refine ⟨hl, huser, ?_⟩
    rw [← Int.ediv_mul_cancel (nanos_dvd_of_isWindowStart hserver hstart), hsecond,
      Int.ediv_mul_cancel (nanos_dvd_of_isWindowStart hserver hstart')]
  · rintro ⟨rfl, rfl, rfl⟩
    rfl

/-- One key begins the other: the first user is called what the second one's key looks like. -/
theorem desk_keys_apart :
    ((new 100 3 10).limiter .bundle).buildKeyAt .halfUp "desk#1970-01-11_00:00:00" 0 ≠
      ((new 100 3 10).limiter .bundle).buildKeyAt .halfUp "desk" (14400 * oneMinute) := by
  intro h
  have hequal := (build_key_injective rfl (Int.dvd_zero _) (Int.dvd_mul_left ..) (by decide +kernel)
    (by decide +kernel)).mp h
  exact absurd hequal.2.1 (by decide)

end AuthServerRateLimiter

/-! ## Counters -/

def RateCall.user : RateCall → String
  | .incrementConsumed user _ _ => user
  | .incrementConsumedNoCheck user _ => user
  | .decrementConsumed user _ => user

/-- The operation writes under no such key, now or later. -/
def RateOp.Apart (lib : RateLib) (limiter : RedisRateLimiter) (key : RateKey) : RateOp → Prop
  | .incrementKey user _ _ | .noCheckKey user _ | .decrementKey user _ | .decrementGet user _ _
  | .decrementKeyAgain user _ _ _ => ∀ now, key ≠ limiter.buildKey lib user now
  | .incrementTtl key' _ _ | .incrementRun key' _ _ _ | .noCheckTtl key' _ | .noCheckIncr key' _ _
  | .noCheckExpire key' _ | .decrementSet _ key' _ _ => key ≠ key'

/-- The three limiters at work on one Redis. -/
def limiterSystem (lib : RateLib) (server : AuthServerRateLimiter) :
    System RateState (Limiter × RateOp) (Limiter × RateCall) Nat where
  launch s call := (call.1, launchRate (server.limiter call.1) s call.2)
  next s op elapsed :=
    let r := nextRate lib (server.limiter op.1) s op.2 elapsed
    (r.1, r.2.map fun op' => (op.1, op'))

section Counters

variable {lib : RateLib} {limiter : RedisRateLimiter} {key : RateKey}

theorem launchRate_apart (s : RateState) {call : RateCall}
    (h : ∀ now, key ≠ limiter.buildKey lib call.user now) :
    (launchRate limiter s call).Apart lib limiter key := by
  cases call with
  | incrementConsumed | incrementConsumedNoCheck | decrementConsumed => exact h

/-- One action leaves the key alone, and so will those after it. -/
theorem nextRate_apart (s : RateState) {op : RateOp} (elapsed : Nat)
    (h : op.Apart lib limiter key) :
    (nextRate lib limiter s op elapsed).1.store key = s.store key ∧
      ∀ op', (nextRate lib limiter s op elapsed).2 = some op' →
        op'.Apart lib limiter key := by
  cases op with
  | incrementKey | noCheckKey | decrementKeyAgain =>
      refine ⟨rfl, fun op' hop => ?_⟩
      cases hop
      exact h _
  | incrementTtl | noCheckTtl | decrementKey | decrementGet =>
      refine ⟨rfl, fun op' hop => ?_⟩
      cases hop
      exact h
  | incrementRun key' ttl amount limit =>
      constructor
      · simp only [nextRate]
        split <;> exact incrLimit_of_ne lib h
      · intro op' hop
        cases hop
  | noCheckIncr key' ttl amount =>
      refine ⟨lib.redis.incrByFloat_of_ne h, fun op' hop => ?_⟩
      cases hop
      exact h
  | noCheckExpire key' ttl =>
      refine ⟨lib.redis.expireAt_of_ne h, fun op' hop => ?_⟩
      cases hop
  | decrementSet readIn key' consumed amount =>
      refine ⟨lib.redis.set_of_ne h, fun op' hop => ?_⟩
      cases hop

variable {server : AuthServerRateLimiter} {quoteRateLimit bundleRateLimit : Nat}
  {maxGasSponsorshipValue : ℚ}

/-- The tick starts no call of that user at that limiter. -/
def OfOthers (l : Limiter) (user : String) : Tick (Limiter × RateCall) Nat → Prop
  | .launch _ call => ¬ (call.1 = l ∧ call.2.user = user)
  | _ => True

theorem apart_of_others
    (hserver : server = .new quoteRateLimit bundleRateLimit maxGasSponsorshipValue) {l l' : Limiter}
    {user user' : String} (h : ¬ (l' = l ∧ user' = user)) (now now' : Nat) :
    (server.limiter l).buildKey lib user now ≠
      (server.limiter l').buildKey lib user' now' := by
  intro hkey
  obtain ⟨hl, huser⟩ := AuthServerRateLimiter.name_inj hserver (congrArg RateKey.name hkey)
  exact h ⟨hl.symm, huser.symm⟩

/-- The key has that entry, and nothing under way writes to it. -/
def Untouched (lib : RateLib) (server : AuthServerRateLimiter) (key : RateKey)
    (entry : Option Entry) : World RateState (Limiter × RateOp) → Prop :=
  Inv (fun s => s.store key = entry) fun _ op => op.2.Apart lib (server.limiter op.1) key

theorem untouched_step
    (hserver : server = .new quoteRateLimit bundleRateLimit maxGasSponsorshipValue) {l : Limiter}
    {user : String} {now : Nat} {entry : Option Entry} {e : Tick (Limiter × RateCall) Nat}
    {w w' : World RateState (Limiter × RateOp)} (he : OfOthers l user e)
    (h : Untouched lib server ((server.limiter l).buildKey lib user now) entry w)
    (hs : step (limiterSystem lib server) w e = some w') :
    Untouched lib server ((server.limiter l).buildKey lib user now) entry w' := by
  rcases step_cases hs with ⟨p, call, rfl, -, rfl⟩ | ⟨p, elapsed, op, rfl, hop, rfl⟩ |
    ⟨p, op, rfl, -, rfl⟩
  · refine inv_put h.1 ?_ fun q op' _ hq => h.2 q op' hq
    intro op' hop'
    cases hop'
    exact launchRate_apart w.shared (apart_of_others hserver he now)
  · obtain ⟨hkeep, hnext⟩ := nextRate_apart w.shared elapsed (h.2 p op hop)
    refine inv_put (hkeep.trans h.1) ?_ fun q op' _ hq => h.2 q op' hq
    intro op' hop'
    obtain ⟨op₁, hop₁, rfl⟩ := Option.map_eq_some_iff.mp hop'
    exact hnext op₁ hop₁
  · exact inv_put h.1 (by simp) fun q op' _ hq => h.2 q op' hq

/--
**Users and limiters share no counter.** As long as only others make calls, or the same user
at other limiters, every counter of the user at the limiter stays what it is, in every window
and however the calls interleave.
-/
theorem counter_of_others
    (hserver : server = .new quoteRateLimit bundleRateLimit maxGasSponsorshipValue) {l : Limiter}
    {user : String} {es : List (Tick (Limiter × RateCall) Nat)}
    {w w' : World RateState (Limiter × RateOp)} (hquiet : w.Quiet)
    (hothers : ∀ e ∈ es, OfOthers l user e)
    (hr : Runs.run (step (limiterSystem lib server)) w es = some w') (now : Nat) :
    w'.shared.store ((server.limiter l).buildKey lib user now) =
      w.shared.store ((server.limiter l).buildKey lib user now) := by
  have hstart : Untouched lib server ((server.limiter l).buildKey lib user now)
      (w.shared.store ((server.limiter l).buildKey lib user now)) w := by
    refine ⟨rfl, fun p op hop => ?_⟩
    rw [hquiet p] at hop
    cases hop
  exact (Runs.run_preserves_of (fun _ _ _ he h hs => untouched_step hserver he h hs) es hothers
    hstart hr).1

/-- Two users ask for bundles while the first one also asks for quotes. -/
def quotesAndBundles : List (Tick (Limiter × RateCall) Nat) :=
  [.launch 0 (.bundle, .incrementConsumed "bob" 1 none),
    .launch 1 (.quote, .incrementConsumed "alice" 1 none), .advance 0 5, .advance 1 5, .advance 0 5,
    .advance 1 5, .advance 0 5, .advance 1 5]

theorem counter_of_others_bundles :
    ∃ w', Runs.run (step (limiterSystem .halfUp (.new 2 2 5)))
        ⟨⟨0, fun _ => none, []⟩, fun _ => none⟩ quotesAndBundles = some w' ∧
      ∀ now, w'.shared.store
        (((AuthServerRateLimiter.new 2 2 5).limiter .bundle).buildKey .halfUp "alice" now) =
          none := by
  refine ⟨_, rfl, fun now => ?_⟩
  refine @counter_of_others .halfUp (.new 2 2 5) 2 2 5 rfl .bundle "alice" quotesAndBundles
    ⟨⟨0, fun _ => none, []⟩, fun _ => none⟩ _ (fun _ => rfl) ?_ rfl now
  simp [quotesAndBundles, OfOthers, RateCall.user]

end Counters

end RelayerExtensions.Auth
