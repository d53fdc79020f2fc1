import RelayerExtensions.Auth.Basic
import RelayerExtensions.Lib.Calendar
import RelayerExtensions.Lib.Redis

/-!
# The Redis rate limiter

`server/rate_limiter/redis_rate_limiter.rs`, and the methods of `AuthServerRateLimiter`
over it. A user's tokens are counted under a key that carries the current time, rounded
to the refill interval, so that a new interval starts a new counter.

Every call reads the clock one or more times and then talks to Redis, and time passes
in between. So each function takes the instants of its clock readings and commands one
by one, in the order the code has them; nothing says that they are close.

Redis and `chrono` are parameters here (`RateLib`). What rounding does only `RateLib.Nearest`
says.
-/

namespace RelayerExtensions.Auth

open Redis

/-- The text `{key_prefix}{sub_key}#{time}`: what stands before the `#`, and the time after
it, which is written to the second. -/
structure RateKey where
  name : String
  second : Nat
deriving DecidableEq

/-- What the limiter uses: Redis, and of `chrono` the rounding of an instant to a span, in
nanoseconds, and the dates. -/
structure RateLib where
  redis : Commands RateKey
  durationRound : Nat → Nat → Nat
  dates : Calendar.Dates

/-- `DurationRound::duration_round`, as documented: to the nearest multiple of the span, and
up from the middle. -/
def RateLib.Nearest (lib : RateLib) : Prop :=
  ∀ t span, 0 < span → span ∣ lib.durationRound t span ∧
    2 * lib.durationRound t span ≤ 2 * t + span ∧
    2 * t < 2 * lib.durationRound t span + span

/-- As documented, computed. -/
def RateLib.halfUp : RateLib where
  redis := .updates
  durationRound t span := (2 * t + span) / (2 * span) * span
  dates := .gregorian

theorem RateLib.halfUp_nearest : RateLib.halfUp.Nearest := by
  intro t span hspan
  have hle : (2 * t + span) / (2 * span) * (2 * span) ≤ 2 * t + span := Nat.div_mul_le_self ..
  have hlt : 2 * t + span < ((2 * t + span) / (2 * span) + 1) * (2 * span) :=
    Nat.lt_mul_of_div_lt (Nat.lt_succ_self _) (by omega)
  have hassoc : (2 * t + span) / (2 * span) * (2 * span) =
      2 * ((2 * t + span) / (2 * span) * span) := by
    rw [Nat.mul_left_comm]
  rw [Nat.add_mul] at hlt
  refine ⟨Nat.dvd_mul_left .., ?_, ?_⟩
  · show 2 * ((2 * t + span) / (2 * span) * span) ≤ 2 * t + span
    omega
  · show 2 * t < 2 * ((2 * t + span) / (2 * span) * span) + span
    omega

def nanos : Nat := 1000000000

structure RedisRateLimiter where
  keyPrefix : String
  maxTokens : ℚ
  /-- In nanoseconds. -/
  refillInterval : Nat

abbrev RateStore := Store RateKey

namespace RedisRateLimiter

variable (lib : RateLib) (limiter : RedisRateLimiter)

def roundToNearestRefill (now : Nat) : Nat :=
  lib.durationRound now limiter.refillInterval

def buildKey (subKey : String) (now : Nat) : RateKey :=
  { name := limiter.keyPrefix ++ subKey
    second := limiter.roundToNearestRefill lib now / nanos }

def getTtlSeconds (now : Nat) : Nat := (now + 2 * limiter.refillInterval) / nanos

/-- `INCR_LIMIT_LUA`, run at one instant. -/
def incrLimit (key : RateKey) (limit : ℚ) (ttl : Nat) (delta : ℚ) (now : Nat)
    (s : RateStore) : Lua × RateStore :=
  let bumped := lib.redis.incrByFloat s now key delta
  let newLimit := Lua.string bumped.1
  let touched :=
    if newLimit.eq (.number delta) then (lib.redis.expireAt bumped.2 now key (ttl * nanos)).2
    else bumped.2
  if limit < newLimit.tonumber then
    (.number (-1), (lib.redis.incrByFloat touched now key (-delta)).2)
  else (newLimit, touched)

def rateLimitExceeded (userKey : String) (maxTokens : Option ℚ) (keyAt getAt : Nat)
    (s : RateStore) : Bool :=
  let key := limiter.buildKey lib userKey keyAt
  let consumed := (lib.redis.get s getAt key).getD 0
  let limit := maxTokens.getD limiter.maxTokens
  decide (limit ≤ consumed)

def getConsumed (userKey : String) (keyAt getAt : Nat) (s : RateStore) : ℚ :=
  (lib.redis.get s getAt (limiter.buildKey lib userKey keyAt)).getD 0

def incrementConsumed (userKey : String) (amount : ℚ) (maxTokens : Option ℚ)
    (keyAt ttlAt runAt : Nat) (s : RateStore) : Except AuthServerError ℚ × RateStore :=
  let key := limiter.buildKey lib userKey keyAt
  let limit := maxTokens.getD limiter.maxTokens
  let ttl := limiter.getTtlSeconds ttlAt
  let invocation := incrLimit lib key limit ttl amount runAt s
  let consumed := invocation.1.tonumber
  if consumed = -1 then (.error .rateLimit, invocation.2) else (.ok consumed, invocation.2)

/-- The two commands are one pipeline but no transaction. -/
def incrementConsumedNoCheck (userKey : String) (amount : ℚ)
    (keyAt ttlAt incrAt expireAt : Nat) (s : RateStore) : ℚ × RateStore :=
  let key := limiter.buildKey lib userKey keyAt
  let ttl := limiter.getTtlSeconds ttlAt
  let bumped := lib.redis.incrByFloat s incrAt key amount
  (bumped.1, (lib.redis.expireAt bumped.2 expireAt key (ttl * nanos)).2)

/-- The key is built twice: by `get_consumed`, and again for the write. -/
def decrementConsumed (userKey : String) (amount : ℚ)
    (keyAt getAt keyAgainAt : Nat) (s : RateStore) : ℚ × RateStore :=
  let consumed := limiter.getConsumed lib userKey keyAt getAt s
  let newConsumed := max (consumed - amount) 0
  (newConsumed, lib.redis.set s (limiter.buildKey lib userKey keyAgainAt) newConsumed)

/-! ## The script -/

/-- A string is never a number, so the script's own `EXPIREAT` is never reached. -/
theorem incrLimit_eq (key : RateKey) (limit : ℚ) (ttl : Nat) (delta : ℚ) (now : Nat)
    (s : RateStore) :
    incrLimit lib key limit ttl delta now s =
      let bumped := (lib.redis.incrByFloat s now key delta).2
      if limit < s.counter now key + delta then
        (.number (-1), (lib.redis.incrByFloat bumped now key (-delta)).2)
      else (.string (s.counter now key + delta), bumped) := by
  dsimp only
  rw [← lib.redis.incrByFloat_value]
  rfl

/-- The number the script leaves: the sum, or what was there if the sum is over the limit. -/
def settled (s : RateStore) (key : RateKey) (limit delta : ℚ) (now : Nat) : ℚ :=
  if limit < s.counter now key + delta then s.counter now key else s.counter now key + delta

/-- **The script, seen from its key**: the settled number, under the expiry that was there. -/
theorem incrLimit_self (key : RateKey) (limit : ℚ) (ttl : Nat) (delta : ℚ) (now : Nat)
    (s : RateStore) :
    (incrLimit lib key limit ttl delta now s).2 key =
      some ⟨settled s key limit delta now, (s.find now key).bind Entry.expiry⟩ := by
  rw [incrLimit_eq, settled]
  dsimp only
  split
  · rw [lib.redis.incrByFloat_self, lib.redis.bumped_back]
  · exact lib.redis.incrByFloat_self s now key delta

/-- Whatever the script answers, the store is the script's. -/
theorem incrementConsumed_store (userKey : String) (amount : ℚ) (maxTokens : Option ℚ)
    (keyAt ttlAt runAt : Nat) (s : RateStore) :
    (limiter.incrementConsumed lib userKey amount maxTokens keyAt ttlAt runAt s).2 =
      (incrLimit lib (limiter.buildKey lib userKey keyAt) (maxTokens.getD limiter.maxTokens)
        (limiter.getTtlSeconds ttlAt) amount runAt s).2 := by
  rw [incrementConsumed]
  split <;> rfl

theorem incrementConsumed_result (userKey : String) (amount : ℚ) (maxTokens : Option ℚ)
    (keyAt ttlAt runAt : Nat) (s : RateStore) :
    (limiter.incrementConsumed lib userKey amount maxTokens keyAt ttlAt runAt s).1 =
      let consumed := s.counter runAt (limiter.buildKey lib userKey keyAt) + amount
      if maxTokens.getD limiter.maxTokens < consumed ∨ consumed = -1 then .error .rateLimit
      else .ok consumed := by
  rw [incrementConsumed, incrLimit_eq]
  dsimp only
  by_cases hover : maxTokens.getD limiter.maxTokens <
      s.counter runAt (limiter.buildKey lib userKey keyAt) + amount
  · simp [hover, Lua.tonumber]
  · rw [if_neg hover]
    by_cases hneg : s.counter runAt (limiter.buildKey lib userKey keyAt) + amount = -1
    · simp [hneg, Lua.tonumber]
    · simp [hover, hneg, Lua.tonumber]

theorem incrLimit_of_ne {key key' : RateKey} {limit : ℚ} {ttl : Nat} {delta : ℚ} {now : Nat}
    {s : RateStore} (h : key' ≠ key) :
    (incrLimit lib key limit ttl delta now s).2 key' = s key' := by
  rw [incrLimit_eq]
  dsimp only
  split
  · rw [lib.redis.incrByFloat_of_ne h, lib.redis.incrByFloat_of_ne h]
  · exact lib.redis.incrByFloat_of_ne h

end RedisRateLimiter

/-! ## `AuthServerRateLimiter` -/

def oneMinute : Nat := 60 * nanos

def oneDay : Nat := 24 * 60 * oneMinute

structure AuthServerRateLimiter where
  quoteRateLimiter : RedisRateLimiter
  bundleRateLimiter : RedisRateLimiter
  gasSponsorshipRateLimiter : RedisRateLimiter

namespace AuthServerRateLimiter

def newQuoteRateLimiter (maxTokens : Nat) : RedisRateLimiter :=
  { keyPrefix := "quote_rate_limit", maxTokens := maxTokens, refillInterval := oneMinute }

def newBundleRateLimiter (maxTokens : Nat) : RedisRateLimiter :=
  { keyPrefix := "bundle_rate_limit", maxTokens := maxTokens, refillInterval := oneMinute }

def newGasSponsorshipRateLimiter (maxValue : ℚ) : RedisRateLimiter :=
  { keyPrefix := "gas_sponsorship_rate_limit", maxTokens := maxValue, refillInterval := oneDay }

def new (quoteRateLimit bundleRateLimit : Nat) (maxGasSponsorshipValue : ℚ) :
    AuthServerRateLimiter :=
  { quoteRateLimiter := newQuoteRateLimiter quoteRateLimit
    bundleRateLimiter := newBundleRateLimiter bundleRateLimit
    gasSponsorshipRateLimiter := newGasSponsorshipRateLimiter maxGasSponsorshipValue }

variable (lib : RateLib) (server : AuthServerRateLimiter)

/-- Whether a token was to be had. -/
def consumeToken (limiter : RedisRateLimiter) (userId : String) (maxTokens : Option Nat)
    (keyAt ttlAt runAt : Nat) (s : RateStore) : Bool × RateStore :=
  match limiter.incrementConsumed lib userId 1 (maxTokens.map Nat.cast) keyAt ttlAt runAt s with
  | (.ok _, s') => (true, s')
  | (.error _, s') => (false, s')

def consumeQuoteToken := consumeToken lib server.quoteRateLimiter

def consumeBundleToken := consumeToken lib server.bundleRateLimiter

def checkBundleRateLimit (userId : String) (maxTokens : Option Nat) (keyAt getAt : Nat)
    (s : RateStore) : Bool :=
  server.bundleRateLimiter.rateLimitExceeded lib userId (maxTokens.map Nat.cast) keyAt getAt s

def addBundleToken (userId : String) (keyAt getAt keyAgainAt : Nat) (s : RateStore) : RateStore :=
  (server.bundleRateLimiter.decrementConsumed lib userId 1 keyAt getAt keyAgainAt s).2

/-- The peek of the server, with the limit of the user's key. -/
def peekBundleRateLimit (userId : String) (maxTokens : Option Nat) (keyAt getAt : Nat)
    (s : RateStore) : Except AuthServerError Unit :=
  if server.checkBundleRateLimit lib userId maxTokens keyAt getAt s then .error .rateLimit
  else .ok ()

def checkGasSponsorship (userId : String) (keyAt getAt : Nat) (s : RateStore) : Bool :=
  let exceeded :=
    server.gasSponsorshipRateLimiter.rateLimitExceeded lib userId none keyAt getAt s
  !exceeded

def recordGasSponsorship (userId : String) (value : ℚ) (keyAt ttlAt incrAt expireAt : Nat)
    (s : RateStore) : RateStore :=
  (server.gasSponsorshipRateLimiter.incrementConsumedNoCheck lib userId value keyAt ttlAt
    incrAt expireAt s).2

end AuthServerRateLimiter

end RelayerExtensions.Auth
