import RelayerExtensions.Prices.StreamManager

/-!
# The life of a stream

A stream is started with its entry in the map and its task. It ends because its task fails,
or because a refresh cancels it: the entry is removed, and the task is to notice. A task
that ends removes the entry of its pair, whether it is its own or not.

There is never more than one task of a pair that runs and is not cancelled (`unique`). The
rest depends on the order of things. If a stream is started for a pair while an older task of
it has not removed itself, that task will remove the new stream. A task looks at its token
only while it manages a connection, so one that sends the price of a unit pair never
notices, and one that is about to connect can still fail, and shut the server down.

`lifecycle_of_orderly` says that these are the only ways to go wrong.
-/

namespace RelayerExtensions.Prices

open Watch

/-! ## Phases -/

/-- The task has not come to remove its stream. -/
def Phase.isUnremoved : Phase → Bool
  | .unitPrice => true
  | .connecting => true
  | .retrying _ => true
  | .managing _ => true
  | .exiting _ => true
  | _ => false

/-- The task has not ended. -/
def Phase.isLive : Phase → Bool
  | .closing _ _ => true
  | phase => phase.isUnremoved

def Phase.isPanicked : Phase → Bool
  | .panicked => true
  | _ => false

def Phase.isUnitPrice : Phase → Bool
  | .unitPrice => true
  | _ => false

/-- What `price_stream_task` has returned. -/
def Phase.result : Phase → Option (Except ServerError Unit)
  | .exiting res => some res
  | .closing res _ => some res
  | .ended res _ => some res
  | _ => none

/-- A task starts with sending a unit price or with connecting. -/
theorem Stream.spawned_phase (pair : PairInfo) :
    (Stream.spawned pair).phase = .unitPrice ∨ (Stream.spawned pair).phase = .connecting := by
  unfold Stream.spawned
  dsimp only
  split
  · exact .inl rfl
  · exact .inr rfl

theorem Stream.spawned_unremoved (pair : PairInfo) :
    (Stream.spawned pair).phase.isUnremoved = true := by
  rcases Stream.spawned_phase pair with hp | hp
  · rw [hp]
    rfl
  · rw [hp]
    rfl

namespace Stream

def failed (s : Stream) : Bool :=
  match s.phase.result with
  | some (.error _) => true
  | _ => false

/-- The token was cancelled by another than the task itself. -/
def revoked (s : Stream) : Bool :=
  match s.phase with
  | .closing _ cancelled => cancelled
  | .ended _ cancelled => cancelled
  | _ => s.cancelled

variable {ν : Type} {api : Api ν} {config : ExchangeConnectionsConfig} {s s' : Stream}

/-- A branch of the inner select goes on managing, or fails and will retry. -/
theorem manageConnection_phase {m : Managing} {ev : TaskEvent ν} (hp : s.phase = .managing m)
    (h : s.manageConnection api m ev = some s') :
    (∃ m', s'.phase = .managing m') ∨ ∃ e, s'.phase = .retrying e := by
  cases ev with
  | keepalive sent =>
      rw [manageConnection] at h
      split at h
      · cases h
        exact .inl ⟨m, hp⟩
      · cases h
        exact .inr ⟨_, rfl⟩
  | ackDeadline =>
      rw [manageConnection] at h
      split at h
      · cases h
      · cases h
        exact .inr ⟨_, rfl⟩
  | heartbeat now =>
      cases h
      unfold heartbeat
      split
      · exact .inl ⟨m, hp⟩
      · dsimp only
        split
        · exact .inl ⟨m, hp⟩
        · exact .inr ⟨_, rfl⟩
  | poll now ready =>
      cases h
      unfold forward
      split
      · exact .inl ⟨_, rfl⟩
      · exact .inl ⟨_, rfl⟩
      · exact .inr ⟨_, rfl⟩
      · exact .inr ⟨_, rfl⟩
  | unitPrice | connect now r | retry now r | cancelled => cases h

theorem connectWithRetries_phase (s : Stream) (now : Nat) (r : Replies ν) :
    (s.connectWithRetries api config now r).phase.isUnremoved = true ∨
      (s.connectWithRetries api config now r).phase.isPanicked = true := by
  unfold connectWithRetries
  split
  · exact .inr rfl
  · exact .inl rfl
  · exact .inl rfl

theorem exhaustRetries_phase (s : Stream) (prevErr : ServerError) (now : Nat) (r : Replies ν) :
    (s.exhaustRetries api config prevErr now r).phase.isUnremoved = true ∨
      (s.exhaustRetries api config prevErr now r).phase.isPanicked = true := by
  unfold exhaustRetries
  dsimp only
  split
  · exact .inr rfl
  · exact .inl rfl
  · exact .inl rfl
  · exact .inl rfl

/-- A task at work has not come to remove its stream, and will not do so in this step. -/
theorem step_unremoved {ev : TaskEvent ν} (h : s.step api config ev = some s') :
    s.phase.isUnremoved = true ∧
      (s'.phase.isUnremoved = true ∨ s'.phase.isPanicked = true) := by
  cases step_cases h with
  | unitPrice hp =>
      refine ⟨by rw [hp]; rfl, .inl ?_⟩
      show s.phase.isUnremoved = true
      rw [hp]
      rfl
  | connect hp => exact ⟨by rw [hp]; rfl, connectWithRetries_phase s _ _⟩
  | retry hp => exact ⟨by rw [hp]; rfl, exhaustRetries_phase s _ _ _⟩
  | cancelled hp hc => exact ⟨by rw [hp]; rfl, .inl rfl⟩
  | manage hp hm =>
      refine ⟨by rw [hp]; rfl, .inl ?_⟩
      rcases manageConnection_phase hp hm with ⟨m', hp'⟩ | ⟨e, hp'⟩
      · rw [hp']
        rfl
      · rw [hp']
        rfl

end Stream

/-! ## In every run -/

namespace GlobalPriceStreams

/-- What holds however things are ordered. -/
structure Tracked (g : GlobalPriceStreams) : Prop where
  owned : ∀ (i : Nat) (s : Stream), g.streams[i]? = some s → s.phase.isUnremoved = true →
    s.cancelled = false → g.priceStreams.lookup s.pair = some ⟨i, i⟩
  closing : ∀ (i : Nat) (s : Stream) (res : Except ServerError Unit) (c : Bool),
    g.streams[i]? = some s → s.phase = .closing res c → s.cancelled = true
  entry : ∀ (pair : PairInfo) (e : Entry), g.priceStreams.lookup pair = some e →
    e.cancelToken = e.receiver ∧ ∃ s : Stream, g.streams[e.receiver]? = some s ∧
      s.pair = pair ∧ (s.phase.isUnremoved = true ∨ s.phase.isPanicked = true)
  closure : ∀ (i : Nat) (res : Except ServerError Unit), (i, res) ∈ g.closures →
    ∃ (s : Stream) (c : Bool), g.streams[i]? = some s ∧ s.phase = .ended res c

variable {g g' : GlobalPriceStreams}

theorem lookup_removePriceStream (g : GlobalPriceStreams) (pair pair' : PairInfo) :
    (g.removePriceStream pair).priceStreams.lookup pair' =
      if pair' = pair then none else g.priceStreams.lookup pair' := by
  cases h : g.priceStreams.lookup pair with
  | none =>
      rw [removePriceStream_none h]
      by_cases heq : pair' = pair
      · rw [if_pos heq, heq, h]
      · rw [if_neg heq]
  | some entry =>
      rw [removePriceStream_some h]
      show (g.priceStreams.erase pair).lookup pair' = _
      by_cases heq : pair' = pair
      · rw [if_pos heq, heq, AList.lookup_erase]
      · rw [if_neg heq, AList.lookup_erase_ne heq]

theorem closures_removePriceStream (g : GlobalPriceStreams) (pair : PairInfo) :
    (g.removePriceStream pair).closures = g.closures := by
  cases h : g.priceStreams.lookup pair with
  | none => rw [removePriceStream_none h]
  | some entry => rw [removePriceStream_some h]; rfl

theorem tracked_new : new.Tracked :=
  ⟨fun _ _ hs => absurd hs.symm (Option.some_ne_none _),
    fun _ _ _ _ hs => absurd hs.symm (Option.some_ne_none _),
    fun _ _ he => absurd he.symm (Option.some_ne_none _),
    fun _ _ hc => absurd hc List.not_mem_nil⟩

theorem Tracked.spawn {pair : PairInfo} (h : g.Tracked)
    (hnew : g.priceStreams.lookup pair = none) : (g.spawn pair).Tracked := by
  have hphase := Stream.spawned_unremoved pair
  have hother : ∀ pair', pair' ≠ pair →
      (g.spawn pair).priceStreams.lookup pair' = g.priceStreams.lookup pair' := fun pair' hne =>
    AList.lookup_insert_ne hne
  have hown : (g.spawn pair).priceStreams.lookup pair =
      some ⟨g.streams.length, g.streams.length⟩ :=
    AList.lookup_insert _
  refine ⟨fun i s hs hun hc => ?_, fun i s res c hs hcl => ?_, fun pair' e he => ?_,
    fun i res hmem => ?_⟩
  · rcases streams_spawn hs with hs | ⟨rfl, rfl⟩
    · have hl := h.owned i s hs hun hc
      rw [hother s.pair, hl]
      -- a task of this very pair that runs would have its entry in the map
      intro heq
      rw [heq, hnew] at hl
      cases hl
    · exact hown
  · rcases streams_spawn hs with hs | ⟨rfl, rfl⟩
    · exact h.closing i s res c hs hcl
    · rw [hcl] at hphase
      cases hphase
  · by_cases heq : pair' = pair
    · subst heq
      rw [hown] at he
      cases he
      refine ⟨rfl, .spawned pair', ?_, rfl, .inl hphase⟩
      show (g.streams ++ [Stream.spawned pair'])[g.streams.length]? = _
      rw [List.getElem?_append_right (Nat.le_refl _), Nat.sub_self]
      rfl
    · rw [hother pair' heq] at he
      obtain ⟨htok, s, hs, hrest⟩ := h.entry pair' e he
      exact ⟨htok, s, streams_spawn_old hs, hrest⟩
  · obtain ⟨s, c, hs, hp⟩ := h.closure i res hmem
    exact ⟨s, c, streams_spawn_old hs, hp⟩

/-- What a removal leaves of a stream. -/
theorem removed_stream {pair : PairInfo} {i : Nat} {s' : Stream}
    (h : (g.removePriceStream pair).streams[i]? = some s') :
    ∃ s : Stream, g.streams[i]? = some s ∧ s'.pair = s.pair ∧ s'.phase = s.phase ∧
      s'.cancelled = (s.cancelled ||
        (g.priceStreams.lookup pair).any fun entry => entry.cancelToken = i) := by
  rw [streams_removePriceStream] at h
  obtain ⟨s, hs, rfl⟩ := Option.map_eq_some_iff.mp h
  exact ⟨s, hs, rfl, rfl, rfl⟩

theorem kept_stream (pair : PairInfo) {i : Nat} {s : Stream} (h : g.streams[i]? = some s) :
    ∃ s' : Stream, (g.removePriceStream pair).streams[i]? = some s' ∧ s'.pair = s.pair ∧
      s'.phase = s.phase := by
  rw [streams_removePriceStream, h]
  exact ⟨_, rfl, rfl, rfl⟩

/-- Whoever removes an entry: the stream it was of is then cancelled. -/
theorem Tracked.removePriceStream (h : g.Tracked) (pair : PairInfo) :
    (g.removePriceStream pair).Tracked := by
  refine ⟨fun i s' hs' hun hc => ?_, fun i s' res c hs' hcl => ?_, fun pair' e he => ?_,
    fun i res hmem => ?_⟩
  · obtain ⟨s, hs, hpair, hphase, hcanc⟩ := removed_stream hs'
    rw [hphase] at hun
    rw [hcanc, Bool.or_eq_false_iff] at hc
    have hown := h.owned i s hs hun hc.1
    rw [lookup_removePriceStream, hpair, if_neg, hown]
    -- were it the entry of this stream that is removed, the stream would be cancelled now
    intro heq
    rw [← heq, hown, Option.any_some] at hc
    exact of_decide_eq_false hc.2 rfl
  · obtain ⟨s, hs, -, hphase, hcanc⟩ := removed_stream hs'
    rw [hcanc, h.closing i s res c hs (hphase ▸ hcl)]
    rfl
  · rw [lookup_removePriceStream] at he
    split at he
    · cases he
    · obtain ⟨htok, s, hs, hpair, hrest⟩ := h.entry pair' e he
      obtain ⟨s', hs', hpair', hphase'⟩ := kept_stream pair hs
      exact ⟨htok, s', hs', hpair'.trans hpair, hphase' ▸ hrest⟩
  · rw [closures_removePriceStream] at hmem
    obtain ⟨s, c, hs, hp⟩ := h.closure i res hmem
    obtain ⟨s', hs', -, hphase'⟩ := kept_stream pair hs
    exact ⟨s', c, hs', hphase'.trans hp⟩

theorem Tracked.cancelRemoved (h : g.Tracked) (toCancel : List PairInfo) :
    (g.cancelRemoved toCancel).Tracked := by
  induction toCancel generalizing g with
  | nil => exact h
  | cons pair toCancel ih => exact ih (h.removePriceStream pair)

/-- A task moves on: it may end only if it is in the map no more. -/
theorem Tracked.setStream {i : Nat} {s s' : Stream} (h : g.Tracked) (hs : g.streams[i]? = some s)
    (hpair : s'.pair = s.pair) (hcanc : s'.cancelled = s.cancelled)
    (hun : s'.phase.isUnremoved = true → s.phase.isUnremoved = true)
    (hclosing : ∀ res c, s'.phase = .closing res c → s.cancelled = true)
    (hentry : ∀ e, g.priceStreams.lookup s.pair = some e → e.receiver = i →
      s'.phase.isUnremoved = true ∨ s'.phase.isPanicked = true)
    (hended : ∀ res c, s.phase = .ended res c → s'.phase = .ended res c) :
    (g.setStream i s').Tracked := by
  refine ⟨fun j t ht htun hc => ?_, fun j t res c ht hcl => ?_, fun pair e he => ?_,
    fun j res hmem => ?_⟩
  · rw [streams_setStream hs] at ht
    split at ht
    · next hij =>
        subst hij
        cases ht
        have hown := h.owned i s hs (hun htun) (hcanc ▸ hc)
        rw [hpair]
        exact hown
    · exact h.owned j t ht htun hc
  · rw [streams_setStream hs] at ht
    split at ht
    · cases ht
      exact hcanc.trans (hclosing res c hcl)
    · exact h.closing j t res c ht hcl
  · obtain ⟨htok, t, ht, htpair, hrest⟩ := h.entry pair e he
    by_cases hij : i = e.receiver
    · subst hij
      cases hs.symm.trans ht
      refine ⟨htok, s', ?_, hpair.trans htpair, hentry e (htpair ▸ he) rfl⟩
      rw [streams_setStream hs, if_pos rfl]
    · refine ⟨htok, t, ?_, htpair, hrest⟩
      rw [streams_setStream hs, if_neg hij]
      exact ht
  · obtain ⟨t, c, ht, hp⟩ := h.closure j res hmem
    by_cases hij : i = j
    · subst hij
      cases hs.symm.trans ht
      refine ⟨s', c, ?_, hended res c hp⟩
      rw [streams_setStream hs, if_pos rfl]
    · refine ⟨t, c, ?_, hp⟩
      rw [streams_setStream hs, if_neg hij]
      exact ht

theorem Tracked.step {ν : Type} {api : Api ν} {config : ExchangeConnectionsConfig} {i : Nat}
    {ev : TaskEvent ν} {s s' : Stream} (h : g.Tracked) (hs : g.streams[i]? = some s)
    (hs' : s.step api config ev = some s') : (g.setStream i s').Tracked := by
  have hframe := Stream.step_frame hs'
  obtain ⟨hun, hun'⟩ := Stream.step_unremoved hs'
  refine h.setStream hs hframe.pair hframe.cancelled (fun _ => hun) (fun res c hc => ?_)
    (fun _ _ _ => hun') fun res c hc => ?_
  · rw [hc] at hun'
    rcases hun' with hun' | hun' <;> cases hun'
  · rw [hc] at hun
    cases hun

/-- The task that removes a stream is cancelled, by this if not before. -/
theorem Tracked.remove {i : Nat} (h : g.Tracked) (hg : g.remove i = some g') : g'.Tracked := by
  obtain ⟨s, s₁, res, hs, hphase, hs₁, rfl⟩ := remove_eq_some hg
  obtain ⟨s₀, hs₀, hpair, hphase', hcanc⟩ := removed_stream hs₁
  cases hs.symm.trans hs₀
  have hdone : s₁.cancelled = true := by
    rw [hcanc]
    cases hc : s.cancelled with
    | true => rfl
    | false =>
        -- nobody has cancelled it, so the entry of the pair is its own
        rw [h.owned i s hs (by rw [hphase]; rfl) hc]
        exact decide_eq_true rfl
  refine (h.removePriceStream s.pair).setStream hs₁ rfl rfl (fun hun => ?_)
    (fun _ _ _ => hdone) (fun e he _ => ?_) fun res c hended => ?_
  · cases hun
  · rw [lookup_removePriceStream, if_pos hpair] at he
    cases he
  · rw [hphase', hphase] at hended
    cases hended

theorem Tracked.close {i : Nat} (h : g.Tracked) (hg : g.close i = some g') : g'.Tracked := by
  obtain ⟨s, res, c, hs, hphase, hmap, hclosures, hstreams⟩ := close_eq_some hg
  have hset : (g.setStream i { s with phase := .ended res c }).Tracked := by
    refine h.setStream hs rfl rfl (fun hun => ?_) (fun _ _ hc => ?_) (fun e he hrx => ?_)
      fun res' c' hended => ?_
    · cases hun
    · cases hc
    · -- no entry is of a stream that is closing
      obtain ⟨-, t, ht, -, hrest⟩ := h.entry s.pair e he
      rw [hrx, hs] at ht
      cases ht
      rw [hphase] at hrest
      rcases hrest with hrest | hrest <;> cases hrest
    · rw [hphase] at hended
      cases hended
  refine ⟨fun j t ht => ?_, fun j t res' c' ht => ?_, fun pair e he => ?_, fun j res' hmem => ?_⟩
  · rw [hstreams] at ht
    rw [hmap]
    exact hset.owned j t ht
  · rw [hstreams] at ht
    exact hset.closing j t res' c' ht
  · rw [hmap] at he
    rw [hstreams]
    exact hset.entry pair e he
  · rw [hclosures] at hmem
    rw [hstreams]
    rcases List.mem_append.mp hmem with hmem | hmem
    · exact hset.closure j res' hmem
    · cases List.mem_singleton.mp hmem
      refine ⟨{ s with phase := .ended res c }, c, ?_, rfl⟩
      rw [streams_setStream hs, if_pos rfl]

/-- **Of a pair, one task at most runs and is not cancelled.** -/
theorem Tracked.unique (h : g.Tracked) {i j : Nat} {s t : Stream} (hs : g.streams[i]? = some s)
    (ht : g.streams[j]? = some t) (hslive : s.phase.isLive = true) (htlive : t.phase.isLive = true)
    (hsc : s.cancelled = false) (htc : t.cancelled = false) (hpair : s.pair = t.pair) : i = j := by
  have hunremoved : ∀ (k : Nat) (u : Stream), g.streams[k]? = some u → u.phase.isLive = true →
      u.cancelled = false → u.phase.isUnremoved = true := by
    intro k u hu hlive hc
    cases hp : u.phase with
    | closing res c => rw [h.closing k u res c hu hp] at hc; cases hc
    | ended res c | panicked => rw [hp] at hlive; exact hlive
    | unitPrice | connecting | retrying e | managing m | exiting res => rfl
  -- both have the one entry of the pair
  have hi := h.owned i s hs (hunremoved i s hs hslive hsc) hsc
  have hj := h.owned j t ht (hunremoved j t ht htlive htc) htc
  rw [hpair, hj] at hi
  exact (congrArg Entry.receiver (Option.some.inj hi)).symm

end GlobalPriceStreams

/-! ## In an orderly run -/

def Attempt.isConnected : Attempt → Bool
  | .done (.ok _) => true
  | _ => false

namespace Stream

variable {ν : Type} {api : Api ν} {config : ExchangeConnectionsConfig} {s s' : Stream}
  {ev : TaskEvent ν}

/-- The event does not make the task fail, or try again. -/
def survives (api : Api ν) (config : ExchangeConnectionsConfig) (s : Stream) : TaskEvent ν → Bool
  | .connect _ r => (connectExchange api config s.pair r).isConnected
  | .retry now r =>
      (s.retries now).length < maxConnRetries && (connectExchange api config s.pair r).isConnected
  | .keepalive sent =>
      match s.phase with
      | .managing m => (sendKeepalive m.conn sent).isOk
      | _ => true
  | .ackDeadline => false
  | .heartbeat now =>
      match s.phase with
      | .managing m => m.lastPrice.isNone || now - m.lastExchangeUpdate < maxHeartbeatAge
      | _ => true
  | .poll _ ready =>
      match s.phase with
      | .managing m =>
          match (m.conn.pollNext api ready).1 with
          | .item (.error _) => false
          | .ended => false
          | _ => true
      | _ => true
  | .unitPrice => true
  | .cancelled => true

/-- The event makes a task connect. -/
def connects : TaskEvent ν → Bool
  | .connect _ _ => true
  | .retry _ _ => true
  | _ => false

/--
A connection to Coinbase is only tried with keys; and once a task has been cancelled, it
connects if it has to, and its connection does not fail before it notices.
-/
def Steady (api : Api ν) (config : ExchangeConnectionsConfig) (s : Stream) (ev : TaskEvent ν) :
    Prop :=
  (connects ev = true → s.pair.exchange = .coinbase → config.coinbaseConfigured = true) ∧
    (s.cancelled = true → s.survives api config ev = true)

instance decidableSteady (api : Api ν) (config : ExchangeConnectionsConfig) (s : Stream)
    (ev : TaskEvent ν) : Decidable (s.Steady api config ev) :=
  inferInstanceAs (Decidable ((_ → _ → _) ∧ (_ → _)))

/-- Only a connection to Coinbase can panic, and only without keys. -/
theorem connectExchange_panicked {pair : PairInfo} {r : Replies ν}
    (h : connectExchange api config pair r = .panicked) :
    pair.exchange = .coinbase ∧ config.coinbaseConfigured = false := by
  unfold connectExchange at h
  split at h
  · cases h
  · next hex =>
      refine ⟨hex, ?_⟩
      unfold Coinbase.connect at h
      split at h
      · cases h
      · split at h
        · cases h
        · next hkeys => exact Bool.eq_false_iff.mpr hkeys
  · cases h
  · cases h
  · cases h

/-- A task that is not cancelled does as it likes, but does not panic. -/
structure Calm (s : Stream) : Prop where
  noPanic : s.phase.isPanicked = false
  ok : s.revoked = true → s.failed = false
  noUnit : s.cancelled = true → s.phase.isUnitPrice = false

theorem connected_managing {now : Nat} {r : Replies ν}
    (h : (connectExchange api config s.pair r).isConnected = true) :
    ∃ m, (s.connectWithRetries api config now r).phase = .managing m := by
  unfold connectWithRetries
  split
  · next hc => rw [hc] at h; cases h
  · exact ⟨_, rfl⟩
  · next hc => rw [hc] at h; cases h

theorem reconnected_managing {prevErr : ServerError} {now : Nat} {r : Replies ν}
    (hlen : (s.retries now).length < maxConnRetries)
    (h : (connectExchange api config s.pair r).isConnected = true) :
    ∃ m, (s.exhaustRetries api config prevErr now r).phase = .managing m := by
  have hretry : s.retryConnection api config now r = connectExchange api config s.pair r :=
    if_neg (Nat.not_le_of_lt hlen)
  unfold exhaustRetries
  dsimp only
  rw [hretry]
  split
  · next hc => rw [hc] at h; cases h
  · exact ⟨_, rfl⟩
  · next hc => rw [hc] at h; cases h
  · next hc => rw [hc] at h; cases h

theorem manageConnection_survives {m : Managing} (hp : s.phase = .managing m)
    (hsurv : s.survives api config ev = true) (h : s.manageConnection api m ev = some s') :
    ∃ m', s'.phase = .managing m' := by
  cases ev with
  | keepalive sent =>
      rw [survives, hp] at hsurv
      rw [manageConnection] at h
      split at h
      · cases h
        exact ⟨m, hp⟩
      · next hsent =>
          dsimp only at hsurv
          rw [hsent] at hsurv
          cases hsurv
  | ackDeadline => cases hsurv
  | heartbeat now =>
      rw [survives, hp] at hsurv
      cases h
      unfold heartbeat
      split
      · exact ⟨m, hp⟩
      · next price hlast =>
          dsimp only at hsurv ⊢
          rw [hlast, Option.isNone_some, Bool.false_or] at hsurv
          rw [if_pos (of_decide_eq_true hsurv)]
          exact ⟨m, hp⟩
  | poll now ready =>
      rw [survives, hp] at hsurv
      cases h
      unfold forward
      dsimp only at hsurv
      split
      · exact ⟨_, rfl⟩
      · exact ⟨_, rfl⟩
      · next hpoll => rw [hpoll] at hsurv; cases hsurv
      · next hpoll => rw [hpoll] at hsurv; cases hsurv
  | unitPrice | connect now r | retry now r | cancelled => cases h

/-- A cancelled task goes on to manage a connection, or to return without an error. -/
theorem step_survives (hunit : s.phase.isUnitPrice = false)
    (hsurv : s.survives api config ev = true) (h : s.step api config ev = some s') :
    (∃ m, s'.phase = .managing m) ∨ s'.phase = .exiting (.ok ()) := by
  cases step_cases h with
  | unitPrice hp => rw [hp] at hunit; cases hunit
  | connect hp => exact .inl (connected_managing hsurv)
  | retry hp =>
      rw [survives, Bool.and_eq_true] at hsurv
      exact .inl (reconnected_managing (of_decide_eq_true hsurv.1) hsurv.2)
  | cancelled hp hc => exact .inr rfl
  | manage hp hm => exact .inl (manageConnection_survives hp hsurv hm)

theorem step_noPanic
    (hkeys : connects ev = true → s.pair.exchange = .coinbase → config.coinbaseConfigured = true)
    (h : s.step api config ev = some s') : s'.phase.isPanicked = false := by
  have hattempt : ∀ r, connects ev = true → connectExchange api config s.pair r ≠ .panicked := by
    intro r hev hp
    obtain ⟨hex, hno⟩ := connectExchange_panicked hp
    exact Bool.false_ne_true (hno.symm.trans (hkeys hev hex))
  cases step_cases h with
  | unitPrice hp =>
      show s.phase.isPanicked = false
      rw [hp]
      rfl
  | @connect now r hp =>
      unfold connectWithRetries
      split
      · next hc => exact absurd hc (hattempt r rfl)
      · rfl
      · rfl
  | @retry prevErr now r hp =>
      unfold exhaustRetries
      dsimp only
      split
      · next hc =>
          unfold retryConnection at hc
          split at hc
          · cases hc
          · exact absurd hc (hattempt r rfl)
      · rfl
      · rfl
      · rfl
  | cancelled hp hc => rfl
  | manage hp hm =>
      rcases manageConnection_phase hp hm with ⟨m', hp'⟩ | ⟨e, hp'⟩
      · rw [hp']
        rfl
      · rw [hp']
        rfl

theorem revoked_of_unremoved (h : s.phase.isUnremoved = true) : s.revoked = s.cancelled := by
  unfold revoked
  split
  · next hp => rw [hp] at h; cases h
  · next hp => rw [hp] at h; cases h
  · rfl

/-- The flag of a task that has removed itself does not change. -/
theorem revoked_of_same_phase (hphase : s'.phase = s.phase) (h : s'.revoked = true) :
    s.revoked = true ∨ s.revoked = s.cancelled ∧ s'.cancelled = true := by
  unfold revoked at h ⊢
  rw [hphase] at h
  cases hp : s.phase with
  | closing res c | ended res c => rw [hp] at h; exact .inl h
  | panicked | unitPrice | connecting | retrying e | managing m | exiting res =>
      rw [hp] at h; exact .inr ⟨rfl, h⟩

theorem Calm.step (h : s.Calm) (hst : s.Steady api config ev)
    (hs : s.step api config ev = some s') : s'.Calm := by
  have hnoPanic := step_noPanic hst.1 hs
  have hun' : s'.phase.isUnremoved = true := by
    rcases (step_unremoved hs).2 with hun | hpanic
    · exact hun
    · rw [hnoPanic] at hpanic
      cases hpanic
  have hcanc := (step_frame hs).cancelled
  have hsurv : s'.cancelled = true →
      (∃ m, s'.phase = .managing m) ∨ s'.phase = .exiting (.ok ()) := by
    intro hc
    rw [hcanc] at hc
    exact step_survives (h.noUnit hc) (hst.2 hc) hs
  refine ⟨hnoPanic, fun hrev => ?_, fun hc => ?_⟩
  · rw [revoked_of_unremoved hun'] at hrev
    unfold failed
    rcases hsurv hrev with ⟨m, hp⟩ | hp
    · rw [hp]
      rfl
    · rw [hp]
      rfl
  · rcases hsurv hc with ⟨m, hp⟩ | hp
    · rw [hp]
      rfl
    · rw [hp]
      rfl

/-- Cancelling it will do no harm. -/
def isCancellable (s : Stream) : Bool := !s.phase.isUnitPrice && !s.failed

end Stream

namespace GlobalPriceStreams

/-- Nobody will remove another's entry, and no cancelled task will fail. -/
structure Calm (g : GlobalPriceStreams) : Prop where
  alone : ∀ (i : Nat) (s : Stream), g.streams[i]? = some s → s.phase.isUnremoved = true →
    ∀ e, g.priceStreams.lookup s.pair = some e → e = ⟨i, i⟩
  stream : ∀ (i : Nat) (s : Stream), g.streams[i]? = some s → s.Calm

variable {g g' : GlobalPriceStreams}

theorem calm_new : new.Calm :=
  ⟨fun _ _ hs => absurd hs.symm (Option.some_ne_none _),
    fun _ _ hs => absurd hs.symm (Option.some_ne_none _)⟩

theorem calm_spawned (pair : PairInfo) : (Stream.spawned pair).Calm := by
  refine ⟨?_, fun hrev => ?_, fun hc => ?_⟩
  · rcases Stream.spawned_phase pair with hp | hp
    · rw [hp]
      rfl
    · rw [hp]
      rfl
  · rw [Stream.revoked_of_unremoved (Stream.spawned_unremoved pair)] at hrev
    cases hrev
  · cases hc

theorem Calm.spawn {pair : PairInfo} (h : g.Calm)
    (halone : ∀ s ∈ g.streams, s.pair = pair → s.phase.isUnremoved = false) :
    (g.spawn pair).Calm := by
  refine ⟨fun i s hs hun e he => ?_, fun i s hs => ?_⟩
  · rcases streams_spawn hs with hs | ⟨rfl, rfl⟩
    · have hne : s.pair ≠ pair := by
        intro hpair
        rw [halone s (List.mem_of_getElem? hs) hpair] at hun
        cases hun
      refine h.alone i s hs hun e ?_
      rw [← he]
      exact (AList.lookup_insert_ne hne).symm
    · have hown : (g.spawn pair).priceStreams.lookup pair =
          some ⟨g.streams.length, g.streams.length⟩ := AList.lookup_insert _
      exact (Option.some.inj (hown.symm.trans he)).symm
  · rcases streams_spawn hs with hs | ⟨-, rfl⟩
    · exact h.stream i s hs
    · exact calm_spawned pair

/-- A stream that is cancelled by others has to be one that can be. -/
theorem Calm.removed {pair : PairInfo} {i : Nat} {s' : Stream} (h : g.Calm)
    (hs' : (g.removePriceStream pair).streams[i]? = some s')
    (hcan : ∀ e s, g.priceStreams.lookup pair = some e → e.cancelToken = i →
      g.streams[i]? = some s → s.isCancellable = true) : s'.Calm := by
  obtain ⟨s, hs, -, hphase, hcanc⟩ := removed_stream hs'
  have hcalm := h.stream i s hs
  have hfailed : s'.failed = s.failed := by rw [Stream.failed, Stream.failed, hphase]
  -- it was cancelled already, or is by this removal and was fit for it
  have hnow : s'.cancelled = true → s.cancelled = true ∨
      s.phase.isUnitPrice = false ∧ s.failed = false := by
    intro hc
    rw [hcanc, Bool.or_eq_true] at hc
    rcases hc with hc | hc
    · exact .inl hc
    · obtain ⟨e, he, htok⟩ := (Option.any_eq_true _ _).mp hc
      have hs := hcan e s he (of_decide_eq_true htok) hs
      rw [Stream.isCancellable, Bool.and_eq_true, Bool.not_eq_true', Bool.not_eq_true'] at hs
      exact .inr hs
  refine ⟨hphase ▸ hcalm.noPanic, fun hrev => ?_, fun hc => ?_⟩
  · rw [hfailed]
    rcases Stream.revoked_of_same_phase hphase hrev with hrev | hc
    · exact hcalm.ok hrev
    · rcases hnow hc.2 with hc' | hs
      · exact hcalm.ok (hc.1.trans hc')
      · exact hs.2
  · rw [hphase]
    rcases hnow hc with hc | hs
    · exact hcalm.noUnit hc
    · exact hs.1

/-- The second half of a refresh. -/
theorem Calm.cancelRemoved {toCancel : List PairInfo} (h : g.Calm)
    (hcan : ∀ pair ∈ toCancel, ∀ e s, g.priceStreams.lookup pair = some e →
      g.streams[e.cancelToken]? = some s → s.isCancellable = true) :
    (g.cancelRemoved toCancel).Calm := by
  induction toCancel generalizing g with
  | nil => exact h
  | cons pair toCancel ih =>
      refine ih ⟨fun i s' hs' hun e he => ?_, fun i s' hs' => ?_⟩ fun pair' hmem e s' he hs' => ?_
      · obtain ⟨s, hs, hpair, hphase, -⟩ := removed_stream hs'
        rw [lookup_removePriceStream] at he
        split at he
        · cases he
        · exact h.alone i s hs (hphase ▸ hun) e (hpair ▸ he)
      · refine h.removed hs' fun e s he htok hs => ?_
        exact hcan pair List.mem_cons_self e s he (htok ▸ hs)
      · -- what is still to be cancelled is in the phase it was in
        rw [lookup_removePriceStream] at he
        split at he
        · cases he
        · obtain ⟨s, hs, -, hphase, -⟩ := removed_stream hs'
          have hs := hcan pair' (List.mem_cons_of_mem _ hmem) e s he hs
          rw [Stream.isCancellable, Stream.failed] at hs ⊢
          rw [hphase]
          exact hs

theorem Calm.setStream {i : Nat} {s s' : Stream} (h : g.Calm) (hs : g.streams[i]? = some s)
    (hpair : s'.pair = s.pair) (hun : s'.phase.isUnremoved = true → s.phase.isUnremoved = true)
    (hcalm : s'.Calm) :
    (g.setStream i s').Calm := by
  refine ⟨fun j t ht htun e he => ?_, fun j t ht => ?_⟩
  · rw [streams_setStream hs] at ht
    split at ht
    · next hij =>
        subst hij
        cases ht
        exact h.alone i s hs (hun htun) e (hpair ▸ he)
    · exact h.alone j t ht htun e he
  · rw [streams_setStream hs] at ht
    split at ht
    · cases ht
      exact hcalm
    · exact h.stream j t ht

/-- A task removes its own entry only, so it cancels nobody else. -/
theorem Calm.remove {i : Nat} (h : g.Calm) (hg : g.remove i = some g') : g'.Calm := by
  obtain ⟨s, s₁, res, hs, hphase, hs₁, rfl⟩ := remove_eq_some hg
  have hown : ∀ e, g.priceStreams.lookup s.pair = some e → e = ⟨i, i⟩ :=
    h.alone i s hs (by rw [hphase]; rfl)
  obtain ⟨s₀, hs₀, -, -, -⟩ := removed_stream hs₁
  cases hs.symm.trans hs₀
  have hcalm := h.stream i s hs
  have hother : ∀ (j : Nat) (t : Stream), i ≠ j →
      (g.removePriceStream s.pair).streams[j]? = some t → t.Calm := by
    intro j t hij ht
    refine h.removed ht fun e u he htok => ?_
    rw [hown e he] at htok
    exact absurd htok hij
  refine ⟨fun j t ht hun e he => ?_, fun j t ht => ?_⟩
  · rw [streams_setStream hs₁] at ht
    split at ht
    · cases ht
      cases hun
    · obtain ⟨t₀, ht₀, hpair, hphase', -⟩ := removed_stream ht
      have he : (g.removePriceStream s.pair).priceStreams.lookup t.pair = some e := he
      rw [lookup_removePriceStream] at he
      split at he
      · cases he
      · exact h.alone j t₀ ht₀ (hphase' ▸ hun) e (hpair ▸ he)
  · rw [streams_setStream hs₁] at ht
    split at ht
    · cases ht
      refine ⟨rfl, fun hrev => ?_, fun _ => rfl⟩
      have hok := hcalm.ok ((Stream.revoked_of_unremoved (by rw [hphase]; rfl)).trans hrev)
      rw [Stream.failed, hphase] at hok
      exact hok
    · next hij => exact hother j t hij ht

/-- It leaves the entries and the tokens of others alone. -/
theorem Calm.remove_own {i : Nat} (h : g.Calm) (hg : g.remove i = some g') :
    (∀ (pair : PairInfo) (e : Entry), g.priceStreams.lookup pair = some e → e ≠ ⟨i, i⟩ →
      g'.priceStreams.lookup pair = some e) ∧
    ∀ j, i ≠ j → g'.streams[j]? = g.streams[j]? := by
  obtain ⟨s, s₁, res, hs, hphase, hs₁, rfl⟩ := remove_eq_some hg
  have hown : ∀ e, g.priceStreams.lookup s.pair = some e → e = ⟨i, i⟩ :=
    h.alone i s hs (by rw [hphase]; rfl)
  refine ⟨fun pair e he hne => ?_, fun j hij => ?_⟩
  · have hpair : pair ≠ s.pair := by
      intro hpair
      exact hne (hown e (hpair ▸ he))
    exact (lookup_removePriceStream g s.pair pair).trans ((if_neg hpair).trans he)
  · rw [streams_setStream hs₁, if_neg hij, streams_removePriceStream]
    have hnone : ((g.priceStreams.lookup s.pair).any fun entry => entry.cancelToken = j) =
        false := by
      rw [Bool.eq_false_iff]
      intro hany
      obtain ⟨e, he, htok⟩ := (Option.any_eq_true _ _).mp hany
      rw [hown e he] at htok
      exact hij (of_decide_eq_true htok)
    rw [hnone]
    cases g.streams[j]? with
    | none => rfl
    | some t => rw [Option.map_some, Bool.or_false]

theorem Calm.close {i : Nat} (h : g.Calm) (hg : g.close i = some g') : g'.Calm := by
  obtain ⟨s, res, c, hs, hphase, hmap, -, hstreams⟩ := close_eq_some hg
  have hcalm := h.stream i s hs
  have hset : (g.setStream i { s with phase := .ended res c }).Calm := by
    refine h.setStream hs rfl (fun hun => by cases hun) ⟨rfl, fun hrev => ?_, fun _ => rfl⟩
    have hok := hcalm.ok (by rw [Stream.revoked, hphase]; exact hrev)
    rw [Stream.failed, hphase] at hok
    exact hok
  refine ⟨fun j t ht hun e he => ?_, fun j t ht => ?_⟩
  · rw [hstreams] at ht
    rw [hmap] at he
    exact hset.alone j t ht hun e he
  · rw [hstreams] at ht
    exact hset.stream j t ht

end GlobalPriceStreams

namespace Reporter

variable {ν : Type} {api : Api ν} {config : ExchangeConnectionsConfig} {w w' : Reporter}

/--
A stream is started only when every older task of the pair has removed itself; a refresh
cancels no stream of a unit pair and none that has failed; and tasks are steady.
-/
def Orderly (api : Api ν) (config : ExchangeConnectionsConfig) (w : Reporter) (e : Event ν) :
    Prop :=
  (∀ pair ∈ w.creates e, ∀ s ∈ w.global.streams, s.pair = pair → s.phase.isUnremoved = false) ∧
    match e with
    | .cancelRemoved k =>
        ∀ pair ∈ w.refreshes[k]?.getD [], ∀ entry ∈ w.global.priceStreams.lookup pair,
          ∀ s ∈ w.global.streams[entry.cancelToken]?, s.isCancellable = true
    | .task i ev => ∀ s ∈ w.global.streams[i]?, s.Steady api config ev
    | _ => True

instance decidableOrderly (api : Api ν) (config : ExchangeConnectionsConfig) (w : Reporter) :
    ∀ e, Decidable (w.Orderly api config e)
  | .cancelRemoved _ => inferInstanceAs (Decidable (_ ∧ ∀ pair ∈ _, ∀ entry ∈ _, ∀ s ∈ _, _))
  | .task _ _ => inferInstanceAs (Decidable (_ ∧ ∀ s ∈ _, _))
  | .call _ _ | .advance _ _ | .poll _ | .listRemoved _ | .remove _ | .close _ | .receiveClosure =>
      inferInstanceAs (Decidable (_ ∧ True))

/-- What holds in every run. -/
structure Tracked (w : Reporter) : Prop where
  global : w.global.Tracked
  shutDown : ∀ i, w.shutDownBy = some i → ∃ (s : Stream) (err : ServerError) (c : Bool),
    w.global.streams[i]? = some s ∧ s.phase = .ended (.error err) c

theorem tracked_init : init.Tracked :=
  ⟨GlobalPriceStreams.tracked_new, fun _ hd => absurd hd.symm (Option.some_ne_none _)⟩

theorem up_of_step {e : Event ν} (h : w.step api config e = some w') : w.shutDownBy = none := by
  unfold step at h
  split at h
  · cases h
  · next hup => exact Option.not_isSome_iff_eq_none.mp hup

theorem tracked_step {e : Event ν} (hw : w.Tracked) (h : w.step api config e = some w') :
    w'.Tracked := by
  have hup := up_of_step h
  have hdown : w'.shutDownBy = w.shutDownBy →
      ∀ i, w'.shutDownBy = some i → ∃ (s : Stream) (err : ServerError) (c : Bool),
        w'.global.streams[i]? = some s ∧ s.phase = .ended (.error err) c := by
    intro hsame i hi
    rw [hsame, hup] at hi
    cases hi
  cases step_change h with
  | same ha hf => exact ⟨hf.global ▸ hw.global, hdown hf.shutDownBy⟩
  | spawned ha hc hnew hg hr hd => exact ⟨hg ▸ hw.global.spawn hnew, hdown hd⟩
  | cancelled he hl hg hr hd => exact ⟨hg ▸ hw.global.cancelRemoved _, hdown hd⟩
  | stepped he hs hs' hg hr hd => exact ⟨hg ▸ hw.global.step hs hs', hdown hd⟩
  | removed he hg hr hd => exact ⟨hw.global.remove hg, hdown hd⟩
  | closed he hg hr hd => exact ⟨hw.global.close hg, hdown hd⟩
  | @received i res closures ha hc hg hr hd =>
      refine ⟨?_, fun j hj => ?_⟩
      · rw [hg]
        refine ⟨hw.global.owned, hw.global.closing, hw.global.entry, fun j res' hmem => ?_⟩
        refine hw.global.closure j res' ?_
        rw [hc]
        exact List.mem_cons_of_mem _ hmem
      · rcases hd with hd | ⟨hd, err, rfl⟩
        · exact hdown hd j hj
        · rw [hd] at hj
          cases hj
          obtain ⟨s, c, hs, hp⟩ := hw.global.closure i (.error err) (hc ▸ List.mem_cons_self)
          rw [hg]
          exact ⟨s, err, c, hs, hp⟩

theorem calm_step {e : Event ν} (hw : w.global.Calm) (ho : w.Orderly api config e)
    (h : w.step api config e = some w') : w'.global.Calm := by
  cases step_change h with
  | same ha hf => exact hf.global ▸ hw
  | @spawned pair ha hc hnew hg hr hd =>
      rw [hg]
      exact hw.spawn (ho.1 pair hc)
  | @cancelled k toCancel he hl hg hr hd =>
      subst he
      rw [hg]
      refine hw.cancelRemoved fun pair hmem entry s hentry hs => ?_
      refine ho.2 pair ?_ entry hentry s hs
      rw [hl]
      exact hmem
  | @stepped i ev s s' he hs hs' hg hr hd =>
      subst he
      rw [hg]
      exact hw.setStream hs (Stream.step_frame hs').pair
        (fun _ => (Stream.step_unremoved hs').1) ((hw.stream i s hs).step (ho.2 s hs) hs')
  | removed he hg hr hd => exact hw.remove hg
  | closed he hg hr hd => exact hw.close hg
  | received ha hc hg hr hd =>
      rw [hg]
      exact ⟨hw.alone, hw.stream⟩

theorem calm_run {es : List (Event ν)} (hw : w.global.Calm)
    (hm : Runs.Meets (step api config) (Orderly api config) w es)
    (hr : Runs.run (step api config) w es = some w') : w'.global.Calm :=
  Runs.run_invariant (fun _ _ _ hw ho h => calm_step hw ho h) es hw hm hr

/-- What is to hold of the streams. -/
structure Lifecycle (w : Reporter) : Prop where
  unique : ∀ (i j : Nat) (s t : Stream), w.global.streams[i]? = some s →
    w.global.streams[j]? = some t → s.phase.isLive = true → t.phase.isLive = true →
    s.cancelled = false → t.cancelled = false → s.pair = t.pair → i = j
  fed : ∀ (pair : PairInfo) (e : Entry), w.global.priceStreams.lookup pair = some e →
    e.cancelToken = e.receiver ∧ ∃ s : Stream, w.global.streams[e.receiver]? = some s ∧
      s.pair = pair ∧ s.phase.isUnremoved = true
  own : ∀ (i : Nat) (g' : GlobalPriceStreams), w.global.remove i = some g' →
    (∀ (pair : PairInfo) (e : Entry), w.global.priceStreams.lookup pair = some e → e ≠ ⟨i, i⟩ →
      g'.priceStreams.lookup pair = some e) ∧
    ∀ j, i ≠ j → g'.streams[j]? = w.global.streams[j]?
  ok : ∀ (i : Nat) (s : Stream), w.global.streams[i]? = some s → s.revoked = true →
    s.failed = false
  up : ∀ i, w.shutDownBy = some i → ∃ s : Stream, w.global.streams[i]? = some s ∧
    s.failed = true ∧ s.revoked = false

theorem lifecycle_of_calm (ht : w.Tracked) (hc : w.global.Calm) : w.Lifecycle := by
  refine ⟨fun i j s t hs hst => ht.global.unique hs hst, fun pair e he => ?_,
    fun i g' hg => hc.remove_own hg, fun i s hs => (hc.stream i s hs).ok, fun i hi => ?_⟩
  · obtain ⟨htok, s, hs, hpair, hun | hpanic⟩ := ht.global.entry pair e he
    · exact ⟨htok, s, hs, hpair, hun⟩
    · rw [(hc.stream _ s hs).noPanic] at hpanic
      cases hpanic
  · obtain ⟨s, err, c, hs, hp⟩ := ht.shutDown i hi
    have hfailed : s.failed = true := by
      rw [Stream.failed, hp]
      rfl
    refine ⟨s, hs, hfailed, ?_⟩
    rw [Bool.eq_false_iff]
    intro hrev
    rw [(hc.stream i s hs).ok hrev] at hfailed
    cases hfailed

/-! ### How a cancelled task ends -/

end Reporter

/-- How many steps it takes to the end, not counting those of a connection. -/
def Phase.rank : Phase → Nat
  | .connecting => 4
  | .retrying _ => 4
  | .managing _ => 3
  | .exiting _ => 2
  | .closing _ _ => 1
  | _ => 0

namespace Reporter

/-- A step of a task, other than those of a connection. -/
def isProgress (i : Nat) : Event ν → Bool
  | .task j (.connect _ _) => j = i
  | .task j (.retry _ _) => j = i
  | .task j .cancelled => j = i
  | .remove j => j = i
  | .close j => j = i
  | _ => false

variable {ν : Type} {api : Api ν} {config : ExchangeConnectionsConfig} {w w' : Reporter}

theorem isProgress_of_acts {i : Nat} {e : Event ν} (h : acts e ≠ some i) :
    isProgress i e = false := by
  have hne : ∀ j, acts e = some j → decide (j = i) = false := by
    intro j hj
    refine decide_eq_false fun hji => ?_
    exact h (hji ▸ hj)
  cases e with
  | task j ev =>
      cases ev with
      | connect now r | retry now r | cancelled => exact hne j rfl
      | unitPrice | keepalive sent | ackDeadline | heartbeat now | poll now ready => rfl
  | remove j | close j => exact hne j rfl
  | call goal pair | advance k reply | poll k | listRemoved desired | cancelRemoved k
  | receiveClosure => rfl

theorem revoked_of_cancelled {s : Stream} (c : Bool) (h : s.revoked = true) :
    ({ s with cancelled := s.cancelled || c } : Stream).revoked = true := by
  unfold Stream.revoked at h ⊢
  dsimp only
  split
  · next hp => rw [hp] at h; exact h
  · next hp => rw [hp] at h; exact h
  · next hne₁ hne₂ =>
      have hc : s.cancelled = true := by
        split at h
        · next hp => exact absurd hp (hne₁ _ _)
        · next hp => exact absurd hp (hne₂ _ _)
        · exact h
      rw [hc]
      rfl

/-- A step of a cancelled task brings it nearer to its end, unless it is of its connection. -/
theorem rank_taskStep {i : Nat} {ev : TaskEvent ν} {s s' : Stream} (hcalm : s.Calm)
    (hst : s.Steady api config ev) (hs' : s.step api config ev = some s')
    (hrev : s.revoked = true) :
    s'.revoked = true ∧
      s'.phase.rank + (if isProgress i (Event.task i ev) = true then 1 else 0) = s.phase.rank := by
  have hun := (Stream.step_unremoved hs').1
  have hc : s.cancelled = true := (Stream.revoked_of_unremoved hun).symm.trans hrev
  -- it is cancelled, so nothing that happens to it is a failure
  have hsurv := hst.2 hc
  have hcanc : s'.cancelled = true := (Stream.step_frame hs').cancelled.trans hc
  have hself : decide (i = i) = true := decide_eq_true rfl
  cases Stream.step_cases hs' with
  | unitPrice hp =>
      have hunit := hcalm.noUnit hc
      rw [hp] at hunit
      cases hunit
  | connect hp =>
      obtain ⟨m, hp'⟩ := Stream.connected_managing hsurv
      rw [Stream.revoked_of_unremoved (by rw [hp']; rfl), hp', hp]
      exact ⟨hcanc, if_pos hself ▸ rfl⟩
  | retry hp =>
      rw [Stream.survives, Bool.and_eq_true] at hsurv
      obtain ⟨m, hp'⟩ := Stream.reconnected_managing (of_decide_eq_true hsurv.1) hsurv.2
      rw [Stream.revoked_of_unremoved (by rw [hp']; rfl), hp', hp]
      exact ⟨hcanc, if_pos hself ▸ rfl⟩
  | cancelled hp hc' =>
      rw [hp]
      exact ⟨hcanc, if_pos hself ▸ rfl⟩
  | manage hp hm =>
      obtain ⟨m', hp'⟩ := Stream.manageConnection_survives hp hsurv hm
      have hno : isProgress i (Event.task i ev) = false := by
        cases ev with
        | connect now r | retry now r | cancelled => cases hm
        | unitPrice | keepalive sent | ackDeadline | heartbeat now | poll now ready => rfl
      rw [Stream.revoked_of_unremoved (by rw [hp']; rfl), hp', hp, hno]
      exact ⟨hcanc, rfl⟩

/-- **Nothing takes a cancelled task away from its end.** -/
theorem rank_step {e : Event ν} {i : Nat} {s : Stream} (hw : w.global.Calm)
    (ho : w.Orderly api config e) (h : w.step api config e = some w')
    (hs : w.global.streams[i]? = some s) (hrev : s.revoked = true) :
    ∃ s' : Stream, w'.global.streams[i]? = some s' ∧ s'.revoked = true ∧
      s'.phase.rank + (if isProgress i e = true then 1 else 0) = s.phase.rank := by
  -- a step of another leaves the phase as it is
  have hidle : acts e ≠ some i →
      s.phase.rank + (if isProgress i e = true then 1 else 0) = s.phase.rank := by
    intro ha
    rw [isProgress_of_acts ha]
    rfl
  have hnone : acts e = none → acts e ≠ some i := fun ha hi => by
    rw [ha] at hi
    cases hi
  cases step_change h with
  | same ha hf => exact ⟨s, hf.global ▸ hs, hrev, hidle (hnone ha)⟩
  | spawned ha hc hnew hg hr hd =>
      refine ⟨s, ?_, hrev, hidle (hnone ha)⟩
      rw [hg]
      exact GlobalPriceStreams.streams_spawn_old hs
  | @cancelled k toCancel he hl hg hr hd =>
      obtain ⟨c, hc⟩ := w.global.streams_cancelRemoved toCancel i
      refine ⟨{ s with cancelled := s.cancelled || c }, ?_, revoked_of_cancelled c hrev,
        hidle (hnone (he ▸ rfl))⟩
      rw [hg, hc, hs]
      rfl
  | @stepped j ev t t' he ht ht' hg hr hd =>
      subst he
      rw [hg, GlobalPriceStreams.streams_setStream ht]
      by_cases hji : j = i
      · subst hji
        cases hs.symm.trans ht
        rw [if_pos rfl]
        exact ⟨t', rfl, rank_taskStep (hw.stream j s hs) (ho.2 s hs) ht' hrev⟩
      · rw [if_neg hji]
        exact ⟨s, hs, hrev, hidle fun hi => hji (Option.some.inj hi)⟩
  | @removed j he hg hr hd =>
      subst he
      obtain ⟨t, t₁, res, ht, hphase, ht₁, hg'⟩ := GlobalPriceStreams.remove_eq_some hg
      rw [hg', GlobalPriceStreams.streams_setStream ht₁]
      by_cases hji : j = i
      · subst hji
        cases hs.symm.trans ht
        have hc : s.cancelled = true :=
          (Stream.revoked_of_unremoved (by rw [hphase]; rfl)).symm.trans hrev
        have hself : decide (j = j) = true := decide_eq_true rfl
        refine ⟨_, if_pos rfl, hc, ?_⟩
        rw [hphase]
        exact if_pos hself ▸ rfl
      · rw [if_neg hji, GlobalPriceStreams.streams_removePriceStream, hs]
        exact ⟨_, rfl, revoked_of_cancelled _ hrev, hidle fun hi => hji (Option.some.inj hi)⟩
  | @closed j he hg hr hd =>
      subst he
      obtain ⟨t, res, c, ht, hphase, -, -, hstreams⟩ := GlobalPriceStreams.close_eq_some hg
      rw [hstreams, GlobalPriceStreams.streams_setStream ht]
      by_cases hji : j = i
      · subst hji
        cases hs.symm.trans ht
        have hc : c = true := by
          rw [Stream.revoked, hphase] at hrev
          exact hrev
        have hself : decide (j = j) = true := decide_eq_true rfl
        refine ⟨_, if_pos rfl, hc, ?_⟩
        rw [hphase]
        exact if_pos hself ▸ rfl
      · rw [if_neg hji]
        exact ⟨s, hs, hrev, hidle fun hi => hji (Option.some.inj hi)⟩
  | received ha hc hg hr hd => exact ⟨s, hg ▸ hs, hrev, hidle (hnone ha)⟩

theorem rank_run {i : Nat} : ∀ {es : List (Event ν)} {w w' : Reporter} {s : Stream},
    w.global.Calm → Runs.Meets (step api config) (Orderly api config) w es →
    Runs.run (step api config) w es = some w' → w.global.streams[i]? = some s →
    s.revoked = true → ∃ s' : Stream, w'.global.streams[i]? = some s' ∧ s'.revoked = true ∧
      s'.phase.rank + es.countP (isProgress i) = s.phase.rank
  | [], w, w', s, _, _, hr, hs, hrev => by
      cases hr
      exact ⟨s, hs, hrev, rfl⟩
  | e :: es, w, w', s, hw, hm, hr, hs, hrev => by
      obtain ⟨w₁, h₁, hr⟩ := Runs.run_cons_some.mp hr
      obtain ⟨s₁, hs₁, hrev₁, hrank₁⟩ := rank_step hw hm.1 h₁ hs hrev
      obtain ⟨s', hs', hrev', hrank'⟩ :=
        rank_run (calm_step hw hm.1 h₁) (hm.2 w₁ h₁) hr hs₁ hrev₁
      refine ⟨s', hs', hrev', ?_⟩
      rw [List.countP_cons]
      omega

/-- A cancelled task with no way left to go has ended well. -/
theorem ended_of_rank_zero {s : Stream} (hcalm : s.Calm) (hrev : s.revoked = true)
    (hrank : s.phase.rank = 0) : s.phase = .ended (.ok ()) true := by
  have hok := hcalm.ok hrev
  cases hp : s.phase with
  | ended res c =>
      rw [Stream.revoked, hp] at hrev
      rw [Stream.failed, hp] at hok
      cases res with
      | ok _ => cases hrev; rfl
      | error err => cases hok
  | unitPrice =>
      have hunit := hcalm.noUnit
        ((Stream.revoked_of_unremoved (by rw [hp]; rfl)).symm.trans hrev)
      rw [hp] at hunit
      cases hunit
  | panicked =>
      have hno := hcalm.noPanic
      rw [hp] at hno
      cases hno
  | connecting | retrying e | managing m | exiting res | closing res c =>
      rw [hp] at hrank; cases hrank

end Reporter

namespace GlobalPriceStreams

variable {g : GlobalPriceStreams} {i : Nat} {s : Stream} {res : Except ServerError Unit}

theorem exists_remove (hs : g.streams[i]? = some s) (hp : s.phase = .exiting res) :
    ∃ g', g.remove i = some g' := by
  obtain ⟨s', hs', -, -⟩ := kept_stream s.pair hs
  refine ⟨(g.removePriceStream s.pair).setStream i
    { s' with phase := .closing res s.cancelled }, ?_⟩
  refine Option.bind_eq_some_iff.mpr ⟨s, hs, ?_⟩
  dsimp only
  rw [hp]
  exact Option.bind_eq_some_iff.mpr ⟨s', hs', rfl⟩

theorem exists_close {c : Bool} (hs : g.streams[i]? = some s) (hp : s.phase = .closing res c) :
    ∃ g', g.close i = some g' := by
  refine ⟨{ g.setStream i { s with phase := .ended res c } with
    closures := g.closures ++ [(i, res)] }, ?_⟩
  refine Option.bind_eq_some_iff.mpr ⟨s, hs, ?_⟩
  dsimp only
  rw [hp]

end GlobalPriceStreams

namespace Reporter

variable {ν : Type} {api : Api ν} {config : ExchangeConnectionsConfig} {w w' : Reporter}

theorem exists_task {i : Nat} {s s' : Stream} {ev : TaskEvent ν}
    (hs : w.global.streams[i]? = some s) (hs' : s.step api config ev = some s') :
    ∃ w', w.taskStep api config i ev = some w' :=
  ⟨_, Option.bind_eq_some_iff.mpr ⟨s, hs, Option.bind_eq_some_iff.mpr ⟨s', hs', rfl⟩⟩⟩

/-- Until it has ended, a cancelled task has a step to take. -/
theorem progress_enabled {i : Nat} {s : Stream} (hw : w.global.Calm) (hup : w.shutDownBy = none)
    (hs : w.global.streams[i]? = some s) (hrev : s.revoked = true) (hlive : s.phase.isLive = true) :
    ∃ e : Event ν, isProgress i e = true ∧ ∃ w', w.step api config e = some w' := by
  have hself : decide (i = i) = true := decide_eq_true rfl
  have hno : ¬ w.shutDownBy.isSome = true := by
    rw [hup]
    exact Bool.false_ne_true
  have hcancelled : s.phase.isUnremoved = true → s.cancelled = true := fun hun =>
    (Stream.revoked_of_unremoved hun).symm.trans hrev
  have htask : ∀ ev : TaskEvent ν, (∃ s', s.step api config ev = some s') →
      ∃ w', w.step api config (.task i ev) = some w' := by
    rintro ev ⟨s', hs'⟩
    obtain ⟨w', hw'⟩ := exists_task hs hs'
    exact ⟨w', (if_neg hno).trans hw'⟩
  -- whatever the exchange replies, an attempt to connect is made
  let r : Replies ν := ⟨.error "", .ok (), .ok (), .ok (), .ok (), .ok ()⟩
  cases hp : s.phase with
  | unitPrice =>
      have hunit := (hw.stream i s hs).noUnit (hcancelled (by rw [hp]; rfl))
      rw [hp] at hunit
      cases hunit
  | connecting =>
      refine ⟨.task i (.connect 0 r), hself, htask _ ⟨s.connectWithRetries api config 0 r, ?_⟩⟩
      unfold Stream.step
      rw [hp]
  | retrying e =>
      refine ⟨.task i (.retry 0 r), hself, htask _ ⟨s.exhaustRetries api config e 0 r, ?_⟩⟩
      unfold Stream.step
      rw [hp]
  | managing m =>
      refine ⟨.task i .cancelled, hself, htask _ ⟨s.exit (.ok ()), ?_⟩⟩
      unfold Stream.step
      rw [hp]
      exact if_pos (hcancelled (by rw [hp]; rfl))
  | exiting res =>
      obtain ⟨g', hg'⟩ := GlobalPriceStreams.exists_remove hs hp
      exact ⟨.remove i, hself, _, (if_neg hno).trans (Option.bind_eq_some_iff.mpr ⟨g', hg', rfl⟩)⟩
  | closing res c =>
      obtain ⟨g', hg'⟩ := GlobalPriceStreams.exists_close hs hp
      exact ⟨.close i, hself, _, (if_neg hno).trans (Option.bind_eq_some_iff.mpr ⟨g', hg', rfl⟩)⟩
  | ended res c | panicked => rw [hp] at hlive; cases hlive

theorem isLive_of_rank {phase : Phase} (h : phase.rank ≠ 0) : phase.isLive = true := by
  cases phase with
  | connecting | retrying e | managing m | exiting res | closing res c => rfl
  | unitPrice | ended res c | panicked => exact absurd rfl h

/--
However things go on: the task has ended well or has a step to take, and after so many of
these steps it has ended well.
-/
structure EndsOk (api : Api ν) (config : ExchangeConnectionsConfig) (w : Reporter) (i : Nat)
    (steps : Nat) : Prop where
  goesOn : ∀ (es : List (Event ν)) (w' : Reporter),
    Runs.Meets (step api config) (Orderly api config) w es →
    Runs.run (step api config) w es = some w' → w'.shutDownBy = none →
    (∃ s : Stream, w'.global.streams[i]? = some s ∧ s.phase = .ended (.ok ()) true) ∨
      ∃ e : Event ν, isProgress i e = true ∧ ∃ w'', w'.step api config e = some w''
  ends : ∀ (es : List (Event ν)) (w' : Reporter),
    Runs.Meets (step api config) (Orderly api config) w es →
    Runs.run (step api config) w es = some w' → steps ≤ es.countP (isProgress i) →
    ∃ s : Stream, w'.global.streams[i]? = some s ∧ s.phase = .ended (.ok ()) true

theorem endsOk_of_calm {i : Nat} {s : Stream} (hw : w.global.Calm)
    (hs : w.global.streams[i]? = some s) (hrev : s.revoked = true) :
    w.EndsOk api config i s.phase.rank := by
  refine ⟨fun es w' hm hr hup => ?_, fun es w' hm hr hle => ?_⟩
  · obtain ⟨s', hs', hrev', -⟩ := rank_run hw hm hr hs hrev
    have hw' := calm_run hw hm hr
    by_cases hrank : s'.phase.rank = 0
    · exact .inl ⟨s', hs', ended_of_rank_zero (hw'.stream i s' hs') hrev' hrank⟩
    · exact .inr (progress_enabled hw' hup hs' hrev' (isLive_of_rank hrank))
  · obtain ⟨s', hs', hrev', hrank'⟩ := rank_run hw hm hr hs hrev
    have hzero : s'.phase.rank = 0 := by omega
    exact ⟨s', hs', ended_of_rank_zero ((calm_run hw hm hr).stream i s' hs') hrev' hzero⟩

/--
**In an orderly run** there is one task at most for each pair, every entry is fed by the task
it was made for, a task that ends removes only what is its own, and one that is cancelled
ends well.
-/
theorem lifecycle_of_orderly {es : List (Event ν)}
    (hm : Runs.Meets (step api config) (Orderly api config) init es)
    (hr : Runs.run (step api config) init es = some w) :
    w.Lifecycle ∧ ∀ (i : Nat) (s : Stream), w.global.streams[i]? = some s → s.revoked = true →
      w.EndsOk api config i s.phase.rank := by
  have hcalm : w.global.Calm := calm_run GlobalPriceStreams.calm_new hm hr
  have htracked : w.Tracked :=
    Runs.run_preserves (fun _ _ _ ht h => tracked_step ht h) es tracked_init hr
  exact ⟨lifecycle_of_calm htracked hcalm, fun i s hs hrev => endsOk_of_calm hcalm hs hrev⟩

end Reporter

/-! ### A stream that is started again -/

def wethUsdt : PairInfo := ⟨.binance, "WETH", "USDT"⟩

/-- A client's call starts a stream of the pair. -/
def startStream (call : Nat) : List (Event Unit) :=
  [.call .currentPrice wethUsdt, .advance call (.ok true), .advance call (.ok true),
    .advance call (.ok true)]

def connected (stream : Nat) : Event Unit :=
  .task stream (.connect 0 (restReplies "100.0" "102.0"))

/-- A refresh that wants no streams. -/
def refreshAway : List (Event Unit) := [.listRemoved [], .cancelRemoved 0]

def endStream (stream : Nat) : List (Event Unit) :=
  [.task stream .cancelled, .remove stream, .close stream]

/-- A stream is cancelled, ends, and is started again. -/
theorem refreshed_lifecycle :
    (∃ w, sampleRun (startStream 0 ++ [connected 0] ++ refreshAway) = some w ∧
      w.Lifecycle ∧ w.EndsOk sampleApi noKeys 0 3) ∧
    ∃ w, sampleRun (startStream 0 ++ [connected 0] ++ refreshAway ++ endStream 0 ++
        startStream 1) = some w ∧
      w.global.priceStreams.lookup wethUsdt = some ⟨1, 1⟩ ∧ w.Lifecycle := by
  constructor
  · have hrun : (sampleRun (startStream 0 ++ [connected 0] ++ refreshAway)).map
        (fun w => w.global.streams.map fun s => (s.revoked, s.phase.rank)) =
          some [(true, 3)] := by decide +kernel
    obtain ⟨w, hr, hstreams⟩ := Option.map_eq_some_iff.mp hrun
    obtain ⟨hlife, hends⟩ := Reporter.lifecycle_of_orderly (by decide +kernel) hr
    obtain ⟨s, rest, hs, hsr, -⟩ := List.map_eq_cons_iff.mp hstreams
    obtain ⟨hrev, hrank⟩ := Prod.mk.inj hsr
    have hfirst : w.global.streams[0]? = some s := by rw [hs]; rfl
    exact ⟨w, hr, hlife, hrank ▸ hends 0 s hfirst hrev⟩
  · have hrun : (sampleRun (startStream 0 ++ [connected 0] ++ refreshAway ++ endStream 0 ++
        startStream 1)).map (fun w => w.global.priceStreams.lookup wethUsdt) =
          some (some ⟨1, 1⟩) := by decide +kernel
    obtain ⟨w, hr, hentry⟩ := Option.map_eq_some_iff.mp hrun
    exact ⟨w, hr, hentry, (Reporter.lifecycle_of_orderly (by decide +kernel) hr).1⟩

def noReplies : Replies Unit :=
  ⟨.error "unreachable", .error (.other "unreachable"), .ok (), .ok (), .ok (), .ok ()⟩

/-- A stream is started again before the cancelled task has noticed. -/
def startedAgain : List (Event Unit) :=
  startStream 0 ++ [connected 0] ++ refreshAway ++ startStream 1 ++
    [connected 1, .task 0 .cancelled]

/-- A stream is cancelled while it tries to connect, and gives up. -/
def givenUp : List (Event Unit) :=
  startStream 0 ++ refreshAway ++ [.task 0 (.connect 0 noReplies)] ++
    List.replicate 15 (.task 0 (.retry 0 noReplies)) ++ [.remove 0, .close 0, .receiveClosure]

/--
The end of the first task takes the entry of the new stream away and cancels the new task. And
the stream that gives up shuts the server down.
-/
theorem cancelled_task_harms :
    (∃ w g, sampleRun startedAgain = some w ∧
      w.global.priceStreams.lookup wethUsdt = some ⟨1, 1⟩ ∧ w.global.remove 0 = some g ∧
      g.priceStreams.lookup wethUsdt = none ∧ g.streams.map (·.cancelled) = [true, true] ∧
      ¬ w.Lifecycle) ∧
    ∃ w, sampleRun givenUp = some w ∧ w.shutDownBy = some 0 ∧ ¬ w.Lifecycle := by
  constructor
  · have hrun : ((sampleRun startedAgain).map fun w =>
        (w.global.priceStreams.lookup wethUsdt, (w.global.remove 0).map fun g =>
          (g.priceStreams.lookup wethUsdt, g.streams.map (·.cancelled)))) =
          some (some ⟨1, 1⟩, some (none, [true, true])) := by decide +kernel
    obtain ⟨w, hr, hw⟩ := Option.map_eq_some_iff.mp hrun
    obtain ⟨hentry, hremove⟩ := Prod.mk.inj hw
    obtain ⟨g, hg, hremoved⟩ := Option.map_eq_some_iff.mp hremove
    obtain ⟨hgone, hcancelled⟩ := Prod.mk.inj hremoved
    refine ⟨w, g, hr, hentry, hg, hgone, hcancelled, fun hlife => ?_⟩
    have hkept := (hlife.own 0 g hg).1 wethUsdt ⟨1, 1⟩ hentry (by decide)
    rw [hgone] at hkept
    cases hkept
  · have hrun : ((sampleRun givenUp).map fun w =>
        (w.shutDownBy, w.global.streams.map (·.revoked))) = some (some 0, [true]) := by
      decide +kernel
    obtain ⟨w, hr, hw⟩ := Option.map_eq_some_iff.mp hrun
    obtain ⟨hdown, hstreams⟩ := Prod.mk.inj hw
    refine ⟨w, hr, hdown, fun hlife => ?_⟩
    obtain ⟨s, hs, -, hrev⟩ := hlife.up 0 hdown
    have hfirst : (w.global.streams.map (·.revoked))[0]? = some true := by rw [hstreams]; rfl
    rw [List.getElem?_map, hs, Option.map_some, hrev] at hfirst
    cases hfirst

end RelayerExtensions.Prices
