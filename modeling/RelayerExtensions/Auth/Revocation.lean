import RelayerExtensions.Auth.Keys
import RelayerExtensions.Lib.Procs

/-!
# Revoking a key while requests are being authorized

The operations of `Auth.Keys`, cut at every statement and every cache operation.
`KeyOp` is where an operation stands; `keySystem` is its code. That the pieces put
together are the operations of `Auth.Keys` is `authorize_alone`, `expire_alone` and
`whitelist_alone`.

Two pieces of ghost state record what finality is about: the keys whose expiry has
been confirmed to its caller, and, for each request that was let through, whether it
had started after its key's confirmation.

A read-through fill is the weak spot. It holds a row it read earlier and writes it
to the cache whatever happened in between, so if the row was active and the expiry
marks the cache while the fill is under way, the cache ends up with an active key
that nothing will ever correct. `Settled` excludes exactly this overlap, and under
it revocation is final (`revoked_final`).
-/

namespace RelayerExtensions.Auth

open Procs Effect

/-- A request that was let through, and whether it started after its key was revoked. -/
structure Grant where
  key : Uuid
  late : Bool
deriving DecidableEq

/-- The store, and what has been told to callers. -/
structure KeyWorld where
  store : KeyStore
  /-- The keys for which `expire_key_query` has returned. -/
  revoked : Uuid → Bool
  granted : List Grant

/-- A call of `get_api_key_entry`, and the request that waits for it. -/
structure Reader where
  key : Uuid
  /-- None if the entry is only wanted for its whitelist flag. -/
  request : Option RawRequest
  late : Bool
deriving DecidableEq

/-- Where an operation stands: what it will do next. -/
inductive KeyOp where
  /-- The request names no key; it is turned away. -/
  | rejected
  | lookup (r : Reader)
  | query (r : Reader)
  /-- The row has been read and is about to be cached. -/
  | fill (r : Reader) (row : ApiKey)
  | expireRow (key : Uuid)
  | markExpired (key : Uuid)
  | whitelistRow (key : Uuid) (flag : Bool)
  | clear (key : Uuid)
deriving DecidableEq

inductive KeyCall where
  | authorize (req : RawRequest)
  /-- `is_rate_limit_whitelisted` -/
  | isWhitelisted (key : Uuid)
  | expire (key : Uuid)
  /-- `whitelist_api_key` and `remove_whitelist_entry` -/
  | whitelist (key : Uuid) (flag : Bool)
deriving DecidableEq

/-- What an action gets from outside. -/
structure KeyInput where
  now : Nat
  db : DbReply

section Code

variable (lib : AuthLib)

/-- The reader gets its entry; a request is let through if it checks out against it. -/
def KeyWorld.serve (s : KeyWorld) (now : Nat) (r : Reader) (entry : ApiKey) : KeyWorld :=
  match r.request with
  | none => s
  | some req =>
      match checkApiKeyAuth lib now req entry with
      | .ok _ => { s with granted := s.granted ++ [⟨r.key, r.late⟩] }
      | .error _ => s

def launchKey (s : KeyWorld) : KeyCall → KeyOp
  | .authorize req =>
      match requestKey lib req with
      | .ok key => .lookup ⟨key, some req, s.revoked key⟩
      | .error _ => .rejected
  | .isWhitelisted key => .lookup ⟨key, none, s.revoked key⟩
  | .expire key => .expireRow key
  | .whitelist key flag => .whitelistRow key flag

def nextKey (s : KeyWorld) (op : KeyOp) (input : KeyInput) : KeyWorld × Option KeyOp :=
  match op with
  | .rejected => (s, none)
  | .lookup r =>
      match s.store.getApiKey r.key with
      | some entry => (s.serve lib input.now r entry, none)
      | none => (s, some (.query r))
  | .query r =>
      match input.db with
      | .error _ => (s, none)
      | .ok () =>
          match s.store.selectKey r.key with
          | none => (s, none)
          | some row => (s, some (.fill r row))
  | .fill r row =>
      let s := { s with store := s.store.cacheApiKey row }
      if row.isActive then (s.serve lib input.now r row, none) else (s, none)
  | .expireRow key =>
      match input.db with
      | .error _ => (s, none)
      | .ok () => ({ s with store := s.store.updateKey key setInactive }, some (.markExpired key))
  | .markExpired key =>
      ({ s with
          store := s.store.markKeyExpired key
          revoked := Function.update s.revoked key true }, none)
  | .whitelistRow key flag =>
      match input.db with
      | .error _ => (s, none)
      | .ok () =>
          let store := s.store.updateKey key (setWhitelisted flag)
          if s.store.countKey key = 0 then ({ s with store := store }, none)
          else ({ s with store := store }, some (.clear key))
  | .clear key => ({ s with store := s.store.clearKey key }, none)

def keySystem : System KeyWorld KeyOp KeyCall KeyInput := ⟨launchKey lib, nextKey lib⟩

end Code

variable {lib : AuthLib} {s : KeyWorld} {input : KeyInput}

/-! ## The pieces put together -/

/-- Running by itself, a request does to the store what `authorizeRequest` does, and is let
through exactly if that returns. -/
theorem authorize_alone (req : RawRequest) :
    alone (keySystem lib) input 3 s (launchKey lib s (.authorize req)) =
      ({ s with
          store := (exec (authorizeRequest lib input.now input.db req) s.store).2
          granted := s.granted ++ match (exec (authorizeRequest lib input.now input.db req)
            s.store).1 with
            | .ok (_, key) => [⟨key, s.revoked key⟩]
            | .error _ => [] }, none) := by
  cases hk : requestKey lib req with
  | error e => simp [alone, keySystem, launchKey, nextKey, authorizeRequest, exec_bind, hk]
  | ok key =>
      cases hc : s.store.getApiKey key with
      | some entry =>
          cases hchk : checkApiKeyAuth lib input.now req entry <;>
            simp [alone, keySystem, launchKey, nextKey, KeyWorld.serve, authorizeRequest,
              getApiKeyEntry, exec_bind, exec_map, Except.map, hk, hc, hchk]
      | none =>
          cases hdb : input.db with
          | error msg =>
              simp [alone, keySystem, launchKey, nextKey, authorizeRequest, getApiKeyEntry, onDb,
                exec_bind, hk, hc, hdb]
          | ok u =>
              cases hq : s.store.selectKey key with
              | none =>
                  simp [alone, keySystem, launchKey, nextKey, authorizeRequest, getApiKeyEntry,
                    onDb, exec_bind, hk, hc, hdb, hq]
              | some row =>
                  cases ha : row.isActive <;>
                    cases hchk : checkApiKeyAuth lib input.now req row <;>
                    simp [alone, keySystem, launchKey, nextKey, KeyWorld.serve, authorizeRequest,
                      getApiKeyEntry, onDb, exec_bind, exec_map, Except.map, hk, hc, hdb, hq, ha,
                      hchk]

theorem expire_alone (key : Uuid) :
    (alone (keySystem lib) input 2 s (launchKey lib s (.expire key))).1.store =
        (exec (expireKeyQuery input.db key) s.store).2
      ∧ (alone (keySystem lib) input 2 s (launchKey lib s (.expire key))).2 = none := by
  cases hdb : input.db <;>
    simp [alone, keySystem, launchKey, nextKey, expireKeyQuery, onDb, hdb, exec_bind]

theorem whitelist_alone (key : Uuid) (flag : Bool) :
    alone (keySystem lib) input 2 s (launchKey lib s (.whitelist key flag)) =
      ({ s with store := (exec (if flag then whitelistApiKey input.db key
          else removeWhitelistEntry input.db key) s.store).2 }, none) := by
  cases hdb : input.db with
  | error msg =>
      cases flag <;>
        simp [alone, keySystem, launchKey, nextKey, whitelistApiKey, whitelistApiKeyQuery,
          removeWhitelistEntry, removeWhitelistEntryQuery, setWhitelistQuery, onDb, hdb]
  | ok u =>
      by_cases hn : s.store.countKey key = 0 <;> cases flag <;>
        simp [alone, keySystem, launchKey, nextKey, whitelistApiKey, whitelistApiKeyQuery,
          removeWhitelistEntry, removeWhitelistEntryQuery, setWhitelistQuery, onDb, exec_bind, hdb,
          hn]

/-! ## Finality -/

/-- A revoked key is inactive everywhere, and no late request was let through. -/
def Final (s : KeyWorld) : Prop :=
  (∀ key, s.revoked key = true → s.store.RowInactive key ∧ s.store.EntryInactive key) ∧
    ∀ g ∈ s.granted, g.late = false

/-- What holds of an operation under way. -/
def OpSettled (s : KeyWorld) : KeyOp → Prop
  | .lookup r | .query r => r.late = true → s.revoked r.key = true
  | .fill r row => row.id = r.key ∧ (r.late = true → s.revoked r.key = true) ∧
      (s.revoked r.key = true → row.isActive = false)
  | .markExpired key => s.store.RowInactive key
  | _ => True

/-- No fill of the key holds an active row at the moment its expiry marks the cache. -/
def Settled (w : World KeyWorld KeyOp) : Tick KeyCall KeyInput → Prop
  | .advance p _ => ∀ key, w.ops p = some (.markExpired key) →
      ∀ q r row, w.ops q = some (.fill r row) → r.key = key → row.isActive = false
  | _ => True

theorem serve_store (now : Nat) (r : Reader) (entry : ApiKey) :
    (s.serve lib now r entry).store = s.store ∧ (s.serve lib now r entry).revoked = s.revoked := by
  unfold KeyWorld.serve
  split
  · exact ⟨rfl, rfl⟩
  · split <;> exact ⟨rfl, rfl⟩

/-- Only an active entry lets a request through. -/
theorem mem_serve_granted {now : Nat} {r : Reader} {entry : ApiKey} {g : Grant}
    (hg : g ∈ (s.serve lib now r entry).granted) :
    g ∈ s.granted ∨ (g = ⟨r.key, r.late⟩ ∧ entry.isActive = true) := by
  unfold KeyWorld.serve at hg
  split at hg
  · exact .inl hg
  · split at hg
    · rename_i d hok
      rcases List.mem_append.mp hg with hg | hg
      · exact .inl hg
      · refine .inr ⟨List.mem_singleton.mp hg, ?_⟩
        cases ha : entry.isActive with
        | true => rfl
        | false => exact absurd hok (checkApiKeyAuth_inactive ha)
    · exact .inl hg

/-- Serving a reader whose key is not active if revoked keeps finality. -/
theorem final_serve {now : Nat} {r : Reader} {entry : ApiKey} (h : Final s)
    (hlate : r.late = true → s.revoked r.key = true)
    (hdead : s.revoked r.key = true → entry.isActive = false) :
    Final (s.serve lib now r entry) := by
  obtain ⟨hstore, hrev⟩ := @serve_store lib s now r entry
  refine ⟨?_, fun g hg => ?_⟩
  · rw [hstore, hrev]
    exact h.1
  · rcases mem_serve_granted hg with hg | ⟨rfl, hact⟩
    · exact h.2 g hg
    · cases hl : r.late with
      | false => rfl
      | true =>
          rw [hdead (hlate hl)] at hact
          cases hact

/-- Operations under way are indifferent to anything but revocations and active rows. -/
theorem OpSettled.mono {s' : KeyWorld} {op : KeyOp} (h : OpSettled s op)
    (hrev : s'.revoked = s.revoked)
    (hrow : ∀ key, s.store.RowInactive key → s'.store.RowInactive key) : OpSettled s' op := by
  cases op with
  | lookup r | query r | fill r row => simpa only [OpSettled, hrev] using h
  | markExpired key => exact hrow key h
  | _ => trivial

theorem opSettled_launch (s : KeyWorld) (call : KeyCall) : OpSettled s (launchKey lib s call) := by
  cases call with
  | authorize req =>
      simp only [launchKey]
      cases requestKey lib req with
      | error e => trivial
      | ok key => exact id
  | isWhitelisted key => exact id
  | expire key | whitelist key flag => trivial

/-- Caching a row keeps finality if the row is inactive for a revoked key. -/
theorem final_cache (h : Final s) {row : ApiKey}
    (hrow : s.revoked row.id = true → row.isActive = false) :
    Final { s with store := s.store.cacheApiKey row } := by
  refine ⟨fun key hkey => ?_, h.2⟩
  obtain ⟨hr, he⟩ := h.1 key hkey
  exact ⟨hr, KeyStore.entryInactive_cache he fun hid => hrow (hid ▸ hkey)⟩

/-- So does an update that never activates a row. -/
theorem final_update (h : Final s) (key : Uuid) {f : ApiKey → ApiKey}
    (hid : ∀ row, (f row).id = row.id)
    (hf : ∀ row, row.isActive = false → (f row).isActive = false) :
    Final { s with store := s.store.updateKey key f } := by
  refine ⟨fun k hk => ?_, h.2⟩
  obtain ⟨hr, he⟩ := h.1 k hk
  exact ⟨KeyStore.rowInactive_update hr key hid hf, he⟩

theorem final_clear (h : Final s) (key : Uuid) :
    Final { s with store := s.store.clearKey key } := by
  refine ⟨fun k hk => ?_, h.2⟩
  obtain ⟨hr, he⟩ := h.1 k hk
  exact ⟨hr, KeyStore.entryInactive_clear he key⟩

/-- The key joins the revoked ones once its row and its entry are inactive. -/
theorem final_mark (h : Final s) {key : Uuid} (hrow : s.store.RowInactive key) :
    Final { s with
      store := s.store.markKeyExpired key
      revoked := Function.update s.revoked key true } := by
  refine ⟨fun k hk => ?_, h.2⟩
  by_cases hkey : k = key
  · subst hkey
    exact ⟨hrow, KeyStore.entryInactive_mark_self _ k⟩
  · simp only [Function.update_of_ne hkey] at hk
    obtain ⟨hr, he⟩ := h.1 k hk
    exact ⟨hr, KeyStore.entryInactive_mark he key⟩

/-- What was true of another operation stays true when a key is marked, unless the operation
is a fill of that very key with an active row. -/
theorem opSettled_mark {key : Uuid} {op : KeyOp} (h : OpSettled s op)
    (hfill : ∀ r row, op = .fill r row → r.key = key → row.isActive = false) :
    OpSettled { s with
      store := s.store.markKeyExpired key
      revoked := Function.update s.revoked key true } op := by
  have hmono : ∀ k, s.revoked k = true → Function.update s.revoked key true k = true := by
    intro k hk
    by_cases hkey : k = key
    · rw [hkey, Function.update_self]
    · rwa [Function.update_of_ne hkey]
  cases op with
  | lookup r | query r => exact fun hl => hmono _ (h hl)
  | fill r row =>
      obtain ⟨hid, hl, hdead⟩ := h
      refine ⟨hid, fun hlate => hmono _ (hl hlate), fun hrev => ?_⟩
      by_cases hkey : r.key = key
      · exact hfill r row rfl hkey
      · simp only [Function.update_of_ne hkey] at hrev
        exact hdead hrev
  | markExpired k => exact h
  | _ => trivial

/-- **One action.** -/
theorem settled_next (w : World KeyWorld KeyOp) (p : Pid) (o : KeyOp) (input : KeyInput)
    (h : Inv Final OpSettled w) (ho : w.ops p = some o) (hC : Settled w (.advance p input)) :
    Final (nextKey lib w.shared o input).1 ∧
      (∀ o', (nextKey lib w.shared o input).2 = some o' →
        OpSettled (nextKey lib w.shared o input).1 o') ∧
      ∀ q o', q ≠ p → w.ops q = some o' → OpSettled (nextKey lib w.shared o input).1 o' := by
  obtain ⟨hI, hJ⟩ := h
  have hop := hJ p o ho
  have others : ∀ s' : KeyWorld, s'.revoked = w.shared.revoked →
      (∀ k, w.shared.store.RowInactive k → s'.store.RowInactive k) →
      ∀ q o', q ≠ p → w.ops q = some o' → OpSettled s' o' :=
    fun s' hrev hrow q o' _ hq => (hJ q o' hq).mono hrev hrow
  have same := others w.shared rfl fun _ hr => hr
  cases o with
  | rejected => exact ⟨hI, by simp [nextKey], same⟩
  | lookup r =>
      simp only [nextKey]
      cases hc : w.shared.store.getApiKey r.key with
      | none => exact ⟨hI, fun o' ho' => Option.some.inj ho' ▸ hop, same⟩
      | some entry =>
          obtain ⟨hst, hrv⟩ := @serve_store lib w.shared input.now r entry
          refine ⟨final_serve hI hop fun hr => (hI.1 r.key hr).2 entry hc, by simp, ?_⟩
          exact others _ hrv fun k hk => by rwa [hst]
  | query r =>
      simp only [nextKey]
      cases input.db with
      | error msg => exact ⟨hI, by simp, same⟩
      | ok u =>
          cases hq : w.shared.store.selectKey r.key with
          | none => exact ⟨hI, by simp, same⟩
          | some row =>
              refine ⟨hI, fun o' ho' => Option.some.inj ho' ▸ ?_, same⟩
              -- a row read now is inactive if the key is revoked already
              exact ⟨KeyStore.selectKey_id hq, hop, fun hr => (hI.1 r.key hr).1 row hq⟩
  | fill r row =>
      obtain ⟨hid, hlate, hdead⟩ := hop
      have hI' : Final { w.shared with store := w.shared.store.cacheApiKey row } :=
        final_cache hI (hid ▸ hdead)
      simp only [nextKey]
      split
      · obtain ⟨hst, hrv⟩ := @serve_store lib
          { w.shared with store := w.shared.store.cacheApiKey row } input.now r row
        refine ⟨final_serve hI' hlate hdead, by simp, ?_⟩
        exact others _ hrv fun k hk => by rw [hst]; exact hk
      · exact ⟨hI', by simp, others _ rfl fun k hk => hk⟩
  | expireRow key =>
      simp only [nextKey]
      cases input.db with
      | error msg => exact ⟨hI, by simp, same⟩
      | ok u =>
          refine ⟨final_update hI key (fun _ => rfl) fun _ _ => rfl, ?_, ?_⟩
          · intro o' ho'
            exact Option.some.inj ho' ▸ KeyStore.rowInactive_expire _ key
          · exact others _ rfl fun k hk =>
              KeyStore.rowInactive_update hk key (fun _ => rfl) fun _ _ => rfl
  | markExpired key =>
      refine ⟨final_mark hI hop, by simp [nextKey], fun q o' _ hq => ?_⟩
      refine opSettled_mark (hJ q o' hq) fun r row heq hkey => ?_
      subst heq
      exact hC key ho q r row hq hkey
  | whitelistRow key flag =>
      have hI' := final_update hI key (f := setWhitelisted flag) (fun _ => rfl) fun _ ha => ha
      have hothers := others { w.shared with
        store := w.shared.store.updateKey key (setWhitelisted flag) } rfl fun k hk =>
          KeyStore.rowInactive_update hk key (fun _ => rfl) fun _ ha => ha
      simp only [nextKey]
      cases input.db with
      | error msg => exact ⟨hI, by simp, same⟩
      | ok u =>
          dsimp only
          split
          · exact ⟨hI', by simp, hothers⟩
          · exact ⟨hI', fun o' ho' => Option.some.inj ho' ▸ trivial, hothers⟩
  | clear key =>
      exact ⟨final_clear hI key, by simp [nextKey], others _ rfl fun k hk => hk⟩

/-- A server that has just come up in front of this store. -/
def idleKeys (store : KeyStore) : World KeyWorld KeyOp :=
  ⟨⟨store, fun _ => false, []⟩, fun _ => none⟩

/--
**Revocation is final in every run without a straddling fill**: whatever interleaving of
requests, expiries and whitelist changes led here, no request that started after the expiry of
its key had been confirmed was let through.
-/
theorem revoked_final {store : KeyStore} {es : List (Tick KeyCall KeyInput)}
    {w : World KeyWorld KeyOp} (hm : Runs.Meets (step (keySystem lib)) Settled (idleKeys store) es)
    (hr : Runs.run (step (keySystem lib)) (idleKeys store) es = some w) :
    ∀ g ∈ w.shared.granted, g.late = false := by
  have hinit : Inv Final OpSettled (idleKeys store) := by
    refine ⟨⟨fun key h => ?_, fun g h => ?_⟩, fun p o h => ?_⟩ <;> cases h
  exact (inv_run (fun s call _ => opSettled_launch s call) settled_next es hinit hm hr).1.2

/-! ## A fill that straddles the expiry -/

/-- Keys are written as one digit, secrets in the clear, and every request is well signed. -/
def openLib : AuthLib where
  parseUuid text := if text = "1" then some 1 else none
  aesDecrypt text := .ok text
  hmacFromBase64 _ := .ok []
  validateExpiringAuth _ _ _ _ _ := .ok ()

def oneKey : KeyStore := ⟨[⟨1, "secret", "maker", true, false⟩], fun _ => none⟩

def keyRequest : RawRequest := ⟨"/v2/quote", "", [(renegadeApiKeyHeader, some "1")], []⟩

def answered : KeyInput := ⟨0, .ok ()⟩

/-- The first request reads its row, the key is expired, the first request caches its row, and
a second request arrives. -/
def straddlingRun : List (Tick KeyCall KeyInput) :=
  [.launch 0 (.authorize keyRequest), .advance 0 answered, .advance 0 answered,
    .launch 1 (.expire 1), .advance 1 answered, .advance 1 answered,
    .advance 0 answered,
    .launch 2 (.authorize keyRequest), .advance 2 answered]

/-- The expiry has returned and yet the second request is let through. -/
theorem revoked_key_let_through :
    ∃ w, Runs.run (step (keySystem openLib)) (idleKeys oneKey) straddlingRun = some w
      ∧ w.shared.revoked 1 = true ∧ ⟨1, true⟩ ∈ w.shared.granted :=
  ⟨_, rfl, rfl, by decide⟩

/-- A request, then the expiry, then another request, one after the other. -/
def orderlyRun : List (Tick KeyCall KeyInput) :=
  [.launch 0 (.authorize keyRequest), .advance 0 answered, .advance 0 answered,
    .advance 0 answered,
    .launch 1 (.expire 1), .advance 1 answered, .advance 1 answered,
    .launch 2 (.authorize keyRequest), .advance 2 answered]

theorem revoked_final_orderly :
    ∃ w, Runs.run (step (keySystem openLib)) (idleKeys oneKey) orderlyRun = some w
      ∧ w.shared.revoked 1 = true ∧ ∀ g ∈ w.shared.granted, g.late = false := by
  obtain ⟨w, hr, hrev⟩ : ∃ w, Runs.run (step (keySystem openLib)) (idleKeys oneKey) orderlyRun
      = some w ∧ w.shared.revoked 1 = true := ⟨_, rfl, rfl⟩
  refine ⟨w, hr, hrev, revoked_final ?_ hr⟩
  refine .cons rfl trivial (.cons rfl ?_ (.cons rfl ?_ (.cons rfl ?_ (.cons rfl trivial
    (.cons rfl ?_ (.cons rfl ?_ (.cons rfl trivial (.cons rfl ?_ trivial))))))))
  case refine_5 =>
    -- the expiry marks the cache: it is alone
    intro key hk q r row hq
    by_cases h1 : q = 1
    · subst h1
      cases hq
    · by_cases h0 : q = 0
      · subst h0
        cases hq
      · simp [World.put, idleKeys, h0, h1] at hq
  all_goals
    intro key hk
    cases hk

end RelayerExtensions.Auth
