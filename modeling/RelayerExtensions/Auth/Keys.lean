import RelayerExtensions.Auth.Basic

/-!
# API keys: the table, the cache in front of it, and authorization

`get_api_key_entry`, `expire_key_query` and the whitelist queries
(`auth/auth-server/src/server/db/queries.rs`), the key methods of `ServerCache`
(`caching.rs`), the handlers of `api_handlers/key_management.rs` that change an
existing key, and `authorize_request` (`api_auth.rs`).

The table is a list of rows. Statements act on all rows with the id, as SQL does;
the read takes the first. A statement can fail for reasons of its own: `DbReply`
says how it went. AES, HMAC and the parsing of ids are library code, collected in
`AuthLib`. The creation time of a key is left out: nothing reads it.
-/

namespace RelayerExtensions.Auth

open Effect

structure ApiKey where
  id : Uuid
  encryptedKey : String
  description : String
  isActive : Bool
  rateLimitWhitelisted : Bool
deriving DecidableEq

def setInactive (key : ApiKey) : ApiKey := { key with isActive := false }

/-- How the database answered: at all, or with an error of this text. -/
abbrev DbReply := Except String Unit

/-- The `api_keys` table and the API key cache. -/
structure KeyStore where
  apiKeys : List ApiKey
  apiKeyCache : Uuid → Option ApiKey

namespace KeyStore

/-! ## Statements -/

/-- `SELECT .. WHERE id = key LIMIT 1` -/
def selectKey (s : KeyStore) (key : Uuid) : Option ApiKey := s.apiKeys.find? (·.id = key)

/-- `UPDATE .. WHERE id = key` -/
def updateKey (s : KeyStore) (key : Uuid) (f : ApiKey → ApiKey) : KeyStore :=
  { s with apiKeys := s.apiKeys.map fun row => if row.id = key then f row else row }

/-- The number of rows an update of the key affects. -/
def countKey (s : KeyStore) (key : Uuid) : Nat := s.apiKeys.countP (·.id = key)

/-! ## Cache operations -/

def getApiKey (s : KeyStore) (id : Uuid) : Option ApiKey := s.apiKeyCache id

def cacheApiKey (s : KeyStore) (apiKey : ApiKey) : KeyStore :=
  { s with apiKeyCache := Function.update s.apiKeyCache apiKey.id (some apiKey) }

def markKeyExpired (s : KeyStore) (id : Uuid) : KeyStore :=
  { s with
    apiKeyCache := Function.update s.apiKeyCache id
      ((s.apiKeyCache id).map setInactive) }

def clearKey (s : KeyStore) (id : Uuid) : KeyStore :=
  { s with apiKeyCache := Function.update s.apiKeyCache id none }

end KeyStore

abbrev KeyM (α : Type) := Effect AuthServerError KeyStore α

/-- A statement that the database may fail. -/
def onDb {σ α : Type} (db : DbReply) (m : Effect AuthServerError σ α) :
    Effect AuthServerError σ α :=
  match db with
  | .ok () => m
  | .error msg => throw (.databaseConnection msg)

def getApiKeyEntry (db : DbReply) (apiKey : Uuid) : KeyM ApiKey := do
  match ← look (·.getApiKey apiKey) with
  | some key => return key
  | none =>
      match ← onDb db (look (·.selectKey apiKey)) with
      | none => throw (.unauthorized "API key not found")
      | some key =>
          modify (·.cacheApiKey key)
          -- an inactive key is cached all the same
          if ¬ key.isActive then throw .apiKeyInactive
          return key

def setWhitelisted (flag : Bool) (key : ApiKey) : ApiKey :=
  { key with rateLimitWhitelisted := flag }

def expireKeyQuery (db : DbReply) (keyId : Uuid) : KeyM Unit := do
  onDb db (modify (·.updateKey keyId setInactive))
  modify (·.markKeyExpired keyId)

def errNoKey : String := "API key not found"

/-- `whitelist_api_key_query` and `remove_whitelist_entry_query`: one statement, with the flag
set to true or to false. -/
def setWhitelistQuery (flag : Bool) (db : DbReply) (keyId : Uuid) : KeyM Unit := do
  let numUpdates ← onDb db do
    let numUpdates ← look (·.countKey keyId)
    modify (·.updateKey keyId (setWhitelisted flag))
    return numUpdates
  if numUpdates = 0 then throw (.badRequest errNoKey)

def whitelistApiKeyQuery : DbReply → Uuid → KeyM Unit := setWhitelistQuery true

def removeWhitelistEntryQuery : DbReply → Uuid → KeyM Unit := setWhitelistQuery false

/-- `whitelist_api_key`, after the management key has been checked. -/
def whitelistApiKey (db : DbReply) (keyId : Uuid) : KeyM Unit := do
  whitelistApiKeyQuery db keyId
  modify (·.clearKey keyId)

/-- `remove_whitelist_entry`, after the management key has been checked. -/
def removeWhitelistEntry (db : DbReply) (keyId : Uuid) : KeyM Unit := do
  removeWhitelistEntryQuery db keyId
  modify (·.clearKey keyId)

/-! ## Authorization -/

/-- The library code authorization relies on. -/
structure AuthLib where
  /-- `Uuid::parse_str` -/
  parseUuid : String → Option Uuid
  /-- `aes_decrypt` under the server's key; the error is a message. -/
  aesDecrypt : String → Except String String
  /-- `HmacKey::from_base64_string` -/
  hmacFromBase64 : String → Except String Bytes
  /-- `validate_expiring_auth` at a time: path, headers, body, key. -/
  validateExpiringAuth : Nat → String → HeaderMap → Bytes → Bytes → Except String Unit

/-- The Renegade API key header, as the header map looks it up. -/
def renegadeApiKeyHeader : String := "x-renegade-api-key"

def RawRequest.authPath (req : RawRequest) : String :=
  if req.queryStr.isEmpty then req.path else req.path ++ "?" ++ req.queryStr

/-- The key a request claims to be made with. -/
def requestKey (lib : AuthLib) (req : RawRequest) : Except AuthServerError Uuid :=
  match (req.headers.text renegadeApiKeyHeader).bind lib.parseUuid with
  | some key => .ok key
  | none => .error (.unauthorized "Invalid or missing Renegade API key")

/-- What `get_api_secret` does with the entry it found. -/
def getApiSecret (lib : AuthLib) (entry : ApiKey) : Except AuthServerError (String × String) := do
  let decrypted ← (lib.aesDecrypt entry.encryptedKey).mapError .decryption
  if ¬ entry.isActive then throw .apiKeyInactive
  return (decrypted, entry.description)

/-- `check_api_key_auth`, with the entry at hand. -/
def checkApiKeyAuth (lib : AuthLib) (now : Nat) (req : RawRequest) (entry : ApiKey) :
    Except AuthServerError String := do
  let (apiSecret, description) ← getApiSecret lib entry
  let key ← (lib.hmacFromBase64 apiSecret).mapError .serde
  (lib.validateExpiringAuth now req.authPath req.headers req.body key).mapError .unauthorized
  return description

def authorizeRequest (lib : AuthLib) (now : Nat) (db : DbReply) (req : RawRequest) :
    KeyM (String × Uuid) := do
  let apiKey ← Effect.ofExcept (requestKey lib req)
  let entry ← getApiKeyEntry db apiKey
  let keyDescription ← Effect.ofExcept (checkApiKeyAuth lib now req entry)
  return (keyDescription, apiKey)

/-- An inactive entry authorizes nobody. -/
theorem checkApiKeyAuth_inactive {lib : AuthLib} {now : Nat} {req : RawRequest} {entry : ApiKey}
    (h : entry.isActive = false) {d : String} : checkApiKeyAuth lib now req entry ≠ .ok d := by
  intro hok
  unfold checkApiKeyAuth at hok
  obtain ⟨⟨secret, description⟩, hsecret, -⟩ := Effect.bind_ok.mp hok
  unfold getApiSecret at hsecret
  obtain ⟨decrypted, -, hactive⟩ := Effect.bind_ok.mp hsecret
  rw [if_pos (Bool.eq_false_iff.mp h)] at hactive
  cases hactive

/-! ## Keys that can no longer be used -/

namespace KeyStore

variable {s : KeyStore} {key : Uuid}

/-- The table has no active row for the key. -/
def RowInactive (s : KeyStore) (key : Uuid) : Prop :=
  ∀ row, s.selectKey key = some row → row.isActive = false

/-- The cache has no active entry for the key. -/
def EntryInactive (s : KeyStore) (key : Uuid) : Prop :=
  ∀ entry, s.getApiKey key = some entry → entry.isActive = false

theorem selectKey_id {row : ApiKey} (h : s.selectKey key = some row) : row.id = key := by
  have hp := List.find?_some h
  simpa using hp

theorem find?_update (k k' : Uuid) {f : ApiKey → ApiKey} (hf : ∀ row, (f row).id = row.id) :
    ∀ rows : List ApiKey,
      (rows.map fun row => if row.id = k then f row else row).find? (·.id = k')
        = (rows.find? (·.id = k')).map fun row => if row.id = k then f row else row
  | [] => rfl
  | row :: rows => by
      have hid : (if row.id = k then f row else row).id = row.id := by
        split
        · exact hf row
        · rfl
      rw [List.map_cons, List.find?_cons, List.find?_cons, hid]
      by_cases hk : row.id = k'
      · simp [hk]
      · simp only [hk, decide_false]
        exact find?_update k k' hf rows

theorem selectKey_updateKey (k : Uuid) {f : ApiKey → ApiKey} (hf : ∀ row, (f row).id = row.id) :
    (s.updateKey k f).selectKey key
      = (s.selectKey key).map fun row => if row.id = k then f row else row :=
  find?_update k key hf s.apiKeys

theorem getApiKey_cacheApiKey (row : ApiKey) :
    (s.cacheApiKey row).getApiKey key = if key = row.id then some row else s.getApiKey key :=
  Function.update_apply ..

theorem getApiKey_markKeyExpired (k : Uuid) :
    (s.markKeyExpired k).getApiKey key
      = if key = k then (s.getApiKey k).map setInactive else s.getApiKey key :=
  Function.update_apply ..

theorem getApiKey_clearKey (k : Uuid) :
    (s.clearKey k).getApiKey key = if key = k then none else s.getApiKey key :=
  Function.update_apply ..

/-- An update that keeps ids and never activates a row keeps inactive rows inactive. -/
theorem rowInactive_update (h : s.RowInactive key) (k : Uuid) {f : ApiKey → ApiKey}
    (hid : ∀ row, (f row).id = row.id)
    (hf : ∀ row, row.isActive = false → (f row).isActive = false) :
    (s.updateKey k f).RowInactive key := by
  intro row hrow
  rw [selectKey_updateKey k hid] at hrow
  obtain ⟨old, hold, rfl⟩ := Option.map_eq_some_iff.mp hrow
  have hin := h old hold
  split
  · exact hf old hin
  · exact hin

theorem rowInactive_expire (s : KeyStore) (key : Uuid) :
    (s.updateKey key setInactive).RowInactive key := by
  intro row hrow
  have hid : ∀ row, (setInactive row).id = row.id := fun _ => rfl
  rw [selectKey_updateKey key hid] at hrow
  obtain ⟨old, hold, rfl⟩ := Option.map_eq_some_iff.mp hrow
  rw [if_pos (selectKey_id hold)]
  rfl

theorem entryInactive_cache (h : s.EntryInactive key) {row : ApiKey}
    (hrow : row.id = key → row.isActive = false) : (s.cacheApiKey row).EntryInactive key := by
  intro entry he
  rw [getApiKey_cacheApiKey] at he
  split at he
  · rename_i hk
    rw [Option.some.injEq] at he
    exact he ▸ hrow hk.symm
  · exact h entry he

theorem entryInactive_mark_self (s : KeyStore) (key : Uuid) :
    (s.markKeyExpired key).EntryInactive key := by
  intro entry he
  rw [getApiKey_markKeyExpired, if_pos rfl] at he
  obtain ⟨old, -, rfl⟩ := Option.map_eq_some_iff.mp he
  rfl

theorem entryInactive_mark (h : s.EntryInactive key) (k : Uuid) :
    (s.markKeyExpired k).EntryInactive key := by
  by_cases hk : key = k
  · subst hk
    exact entryInactive_mark_self s key
  · intro entry he
    rw [getApiKey_markKeyExpired, if_neg hk] at he
    exact h entry he

theorem entryInactive_clear (h : s.EntryInactive key) (k : Uuid) :
    (s.clearKey k).EntryInactive key := by
  intro entry he
  rw [getApiKey_clearKey] at he
  split at he
  · cases he
  · exact h entry he

end KeyStore

end RelayerExtensions.Auth
