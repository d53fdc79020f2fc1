import RelayerExtensions.Auth.Keys

/-!
# Relayer fees: two tables and a cache

`get_user_fee` and the four queries that change fees
(`auth/auth-server/src/server/db/queries.rs`), with the fee methods of `ServerCache`
(`caching.rs`). A fee is an `f32` in the database and an `f64` everywhere else, so
the conversions are part of the model: `Float32` and `Float` here are IEEE formats
that compute.

Both tables have their key as primary key, so a table is a function. The cache is
filled by readers and by `set_user_fee_query`; it never expires by itself.
-/

namespace RelayerExtensions.Auth

open Effect Float.Model

/-! ## Conversions between the formats -/

def roundTo (f : Format) : UnpackedFloat → UnpackedFloat
  | .finite sign mantissa exponent _ => .round f sign mantissa exponent
  | x => x

/-- `x as f64`, which is exact. -/
def f32AsF64 (x : Float32) : Float :=
  .ofModel (Float.Model.pack (roundTo .binary64 x.toModel.unpack))

/-- `x as f32`, rounding to nearest. -/
def f64AsF32 (x : Float) : Float32 :=
  .ofModel (Float32.Model.pack (roundTo .binary32 x.toModel.unpack))

/-- The default relayer fee to charge if no per-user or per-asset fee is set: 1bp. -/
def defaultRelayerFee : Float := 0.0001

/-! ## The store -/

structure FeeStore where
  userFees : Uuid → String → Option Float32
  assetDefaultFees : String → Option Float32
  userFeeCache : Uuid → String → Option Float

namespace FeeStore

/-- `COALESCE(user override, asset default, DEFAULT_RELAYER_FEE)`, as the query returns it. -/
def selectFee (s : FeeStore) (user : Uuid) (asset : String) : Float32 :=
  ((s.userFees user asset).or (s.assetDefaultFees asset)).getD (f64AsF32 defaultRelayerFee)

/-- The fee the database says the user pays. -/
def fee (s : FeeStore) (user : Uuid) (asset : String) : Float := f32AsF64 (s.selectFee user asset)

/-- Write or delete a user's override. -/
def putUserFee (s : FeeStore) (user : Uuid) (asset : String) (fee : Option Float32) : FeeStore :=
  { s with
    userFees := Function.update s.userFees user
      (Function.update (s.userFees user) asset fee) }

/-- Write or delete an asset's default. -/
def putAssetFee (s : FeeStore) (asset : String) (fee : Option Float32) : FeeStore :=
  { s with assetDefaultFees := Function.update s.assetDefaultFees asset fee }

def getUserFee (s : FeeStore) (user : Uuid) (asset : String) : Option Float :=
  s.userFeeCache user asset

/-- Insert into or remove from the cache. -/
def putCache (s : FeeStore) (user : Uuid) (asset : String) (fee : Option Float) : FeeStore :=
  { s with
    userFeeCache := Function.update s.userFeeCache user
      (Function.update (s.userFeeCache user) asset fee) }

def cacheUserFee (s : FeeStore) (user : Uuid) (asset : String) (fee : Float) : FeeStore :=
  s.putCache user asset (some fee)

def clearUserFee (s : FeeStore) (user : Uuid) (asset : String) : FeeStore :=
  s.putCache user asset none

/-- `user_fee_cache.retain(|(_, asset_name), _| asset_name != asset)` -/
def clearAssetEntries (s : FeeStore) (asset : String) : FeeStore :=
  { s with userFeeCache := fun user a => if a = asset then none else s.userFeeCache user a }

end FeeStore

abbrev FeeM (α : Type) := Effect AuthServerError FeeStore α

def getUserFee (db : DbReply) (user : Uuid) (asset : String) : FeeM Float := do
  match ← look (·.getUserFee user asset) with
  | some fee => return fee
  | none =>
      let fee ← onDb db (look (·.fee user asset))
      modify (·.cacheUserFee user asset fee)
      return fee

def setUserFeeQuery (db : DbReply) (user : Uuid) (asset : String) (fee : Float32) : FeeM Unit := do
  onDb db (modify (·.putUserFee user asset (some fee)))
  modify (·.cacheUserFee user asset (f32AsF64 fee))

def removeUserFeeQuery (db : DbReply) (user : Uuid) (asset : String) : FeeM Unit := do
  -- the cache is cleared before the row is gone
  modify (·.clearUserFee user asset)
  let deleted ← onDb db do
    let deleted ← look fun s => s.userFees user asset
    modify (·.putUserFee user asset none)
    return deleted
  if deleted.isNone then throw (.badRequest "User fee override not found")

def setAssetDefaultFeeQuery (db : DbReply) (asset : String) (fee : Float32) : FeeM Unit := do
  onDb db (modify (·.putAssetFee asset (some fee)))
  modify (·.clearAssetEntries asset)

def removeAssetDefaultFeeQuery (db : DbReply) (asset : String) : FeeM Unit := do
  -- again before the row is gone
  modify (·.clearAssetEntries asset)
  let deleted ← onDb db do
    let deleted ← look fun s => s.assetDefaultFees asset
    modify (·.putAssetFee asset none)
    return deleted
  if deleted.isNone then throw (.badRequest "Asset default fee not found")

/-! ## What the operations change -/

namespace FeeStore

variable {s : FeeStore} {user u : Uuid} {asset a : String}

theorem getUserFee_putCache (fee : Option Float) :
    (s.putCache user asset fee).getUserFee u a
      = if u = user ∧ a = asset then fee else s.getUserFee u a := by
  unfold putCache getUserFee
  by_cases hu : u = user
  · subst hu
    by_cases ha : a = asset
    · subst ha
      simp
    · simp [ha]
  · simp [hu]

theorem fee_putUserFee_of_ne (new : Option Float32) (h : ¬ (u = user ∧ a = asset)) :
    (s.putUserFee user asset new).fee u a = s.fee u a := by
  unfold fee selectFee putUserFee
  by_cases hu : u = user
  · subst hu
    have ha : a ≠ asset := fun ha => h ⟨rfl, ha⟩
    simp [ha]
  · simp [hu]

theorem fee_putUserFee_some (new : Float32) :
    (s.putUserFee user asset (some new)).fee user asset = f32AsF64 new := by
  simp [fee, selectFee, putUserFee]

theorem fee_putAssetFee_of_ne (new : Option Float32) (h : a ≠ asset) :
    (s.putAssetFee asset new).fee u a = s.fee u a := by
  unfold fee selectFee putAssetFee
  simp [h]

end FeeStore

end RelayerExtensions.Auth
