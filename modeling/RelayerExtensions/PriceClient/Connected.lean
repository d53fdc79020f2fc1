import RelayerExtensions.PriceClient.MultiPriceStream

/-!
# When a stream says that it is connected

The flag behind `is_connected` is set when the background task has a connection and has
subscribed, and cleared at the end of a round, before the task sleeps. There are two ways for
it to be set without a connection. The connection may be gone while the task still tries to
close it. And a round that ends after `shutdown` leaves the loop before the flag is cleared:
nothing clears it after that, and the client goes on to answer from the prices of a stream that
has stopped.
-/

namespace RelayerExtensions.PriceClient

/-- What the flag is in a phase, where the phase decides it. -/
def Phase.flag : Phase → Option Bool
  | .looping => some false
  | .connecting => some false
  | .reading => some true
  | .storing _ _ => some true
  | .restarting => some true
  | .closing _ => some true
  | .sleeping _ => some false
  | .ended => none
  | .aborted => none

def Phase.isOver : Phase → Bool
  | .ended => true
  | .aborted => true
  | _ => false

namespace MultiPriceStream

variable {lib : ClientLib} {w w' : MultiPriceStream}

/-! ## The property -/

/-- The flag is set only with an open connection, and the client of the stream answers from it
only then. -/
structure Live (lib : ClientLib) (w : MultiPriceStream) : Prop where
  connected : w.isConnected = true → w.phase.isOpen = true
  reads : ∀ mint chain, (PriceReporterClient.mk (some w)).readsStream lib mint chain = true →
    w.phase.isOpen = true
  fallsBack : w.phase.isOpen = false → ∀ getPriceHttp mint chain,
    (PriceReporterClient.mk (some w)).getPrice lib getPriceHttp mint chain =
      if isUnitPrice lib (lib.toLowercase mint) chain then .ok 1.0
      else getPriceHttp (lib.toLowercase mint)

/-- It is all in the flag. -/
theorem live_iff : Live lib w ↔ (w.isConnected = true → w.phase.isOpen = true) := by
  refine ⟨Live.connected, fun h => ?_⟩
  have hreads : ∀ mint chain,
      (PriceReporterClient.mk (some w)).readsStream lib mint chain = true →
        w.phase.isOpen = true :=
    fun mint chain hr => h ((readsStream_iff rfl).mp hr).2
  refine ⟨h, hreads, fun hopen getPriceHttp mint chain => ?_⟩
  apply getPrice_of_not_readsStream rfl
  apply Bool.eq_false_iff.mpr
  intro hr
  exact Bool.eq_false_iff.mp hopen (hreads mint chain hr)

/-- Nobody can ask a stream without clones. -/
def LiveToHolders (lib : ClientLib) (w : MultiPriceStream) : Prop :=
  0 < w.clones → Live lib w

/-- While the stream is held, no connection ends by itself, and none that `shutdown` ends has
been closed. -/
def Lasting (w : MultiPriceStream) : Event → Prop
  | .task (.read r) => r.isGone = true → w.clones = 0
  | .task .closed => w.cancelled = true → w.clones = 0
  | _ => True

instance decidableLasting (w : MultiPriceStream) : ∀ e, Decidable (Lasting w e)
  | .task (.read _) | .task .closed => inferInstanceAs (Decidable (_ → _))
  | .task .loop | .task (.connected _) | .task .cancelled | .task .store | .task .restart
  | .task .slept | .shutdown | .clone | .drop | .abort | .advance _ | .fire _ => .isTrue trivial

/-! ## The flag and the phase -/

structure Flagged (w : MultiPriceStream) : Prop where
  flag : ∀ b, w.phase.flag = some b → w.isConnected = b
  /-- Only a stream without clones is aborted. -/
  aborted : w.phase = .aborted → w.clones = 0

theorem flagged_new (exitOnStale : Bool) (now : Nat) : Flagged (new exitOnStale now) where
  flag := fun _ hb => Option.some.inj hb
  aborted := fun h => absurd h (fun h => Phase.noConfusion h)

theorem Flagged.at {p : Phase} {b : Bool} (h : Flagged w) (hp : w.phase = p)
    (hb : p.flag = some b) : w.isConnected = b :=
  h.flag b ((congrArg Phase.flag hp).trans hb)

theorem Flagged.of_flag {b : Bool} (hf : w.phase.flag = some b) (hc : w.isConnected = b) :
    Flagged w where
  flag := fun _ hb => hc.trans (Option.some.inj (hf.symm.trans hb))
  aborted := fun h => by rw [h] at hf; cases hf

theorem Flagged.of_ended (h : w.phase = .ended) : Flagged w where
  flag := fun _ hb => by rw [h] at hb; cases hb
  aborted := fun ha => by rw [h] at ha; cases ha

theorem flagged_finishRound (w : MultiPriceStream) : Flagged w.finishRound := by
  unfold finishRound
  split
  · exact .of_ended rfl
  · exact @Flagged.of_flag _ false rfl rfl

theorem flagged_handleRead (h : Flagged w) (hp : w.phase = .reading) (r : Read) :
    Flagged (w.handleRead lib r) := by
  have hconn : w.isConnected = true := h.at hp rfl
  obtain ⟨phase, heq, -, hphase⟩ := handleRead_eq hp r
  rw [heq]
  refine @Flagged.of_flag _ true ?_ hconn
  rcases hphase with rfl | ⟨mint, price, rfl⟩ | ⟨gone, rfl⟩ <;> rfl

theorem flagged_round {e : TaskEvent} (h : Flagged w) (hr : Round lib w e w') : Flagged w' := by
  cases hr with
  | stop hp => exact .of_ended rfl
  | connect hp | slept hp => exact @Flagged.of_flag _ false rfl (h.at hp rfl)
  | refused hp | closed hp => exact flagged_finishRound w
  | connected hp => exact @Flagged.of_flag _ true rfl rfl
  | cancelled hp hc | store hp => exact @Flagged.of_flag _ true rfl (h.at hp rfl)
  | read hp => exact flagged_handleRead h hp _
  | restart hp =>
      exact @Flagged.of_flag _ true rfl ((restartStalenessTimer_isConnected w).trans (h.at hp rfl))

theorem flagged_step (e : Event) (h : Flagged w) (hs : w.step lib e = some w') : Flagged w' := by
  obtain ⟨-, hs⟩ := step_cases hs
  cases hs with
  | task hr => exact flagged_round h hr
  | shutdown hn | advance hle harmed | fire harmed => exact ⟨h.flag, h.aborted⟩
  | clone hn | drop hn => exact ⟨h.flag, fun ha => absurd (h.aborted ha) (Nat.ne_of_gt hn)⟩
  | abort hn =>
      refine ⟨fun b hb => ?_, fun _ => hn⟩
      cases hb

/-! ## One step -/

theorem liveToHolders_iff :
    LiveToHolders lib w ↔ (0 < w.clones → w.isConnected = true → w.phase.isOpen = true) :=
  imp_congr_right fun _ => live_iff

theorem LiveToHolders.of_open (h : w.phase.isOpen = true) : LiveToHolders lib w :=
  liveToHolders_iff.mpr fun _ _ => h

theorem LiveToHolders.of_not_connected (h : w.isConnected = false) : LiveToHolders lib w :=
  liveToHolders_iff.mpr fun _ hc => absurd hc (Bool.eq_false_iff.mp h)

/-- To leave a set flag behind without a connection misleads whoever holds the stream. -/
theorem liveToHolders_leave {phase : Phase} (hc : w.isConnected = true)
    (hopen : phase.isOpen = false) :
    LiveToHolders lib { w with phase := phase } ↔ w.clones = 0 := by
  rw [liveToHolders_iff]
  constructor
  · intro h
    apply Nat.eq_zero_of_not_pos
    intro hpos
    exact Bool.eq_false_iff.mp hopen (h hpos hc)
  · intro hzero hpos
    exact absurd hzero (Nat.ne_of_gt hpos)

/-- The end of a round clears the flag, unless the stream has been shut down. -/
theorem liveToHolders_finishRound (hc : w.isConnected = true) :
    LiveToHolders lib w.finishRound ↔ (w.cancelled = true → w.clones = 0) := by
  unfold finishRound
  split
  · next hcancelled =>
      exact (liveToHolders_leave hc rfl).trans ⟨fun h _ => h, fun h => h hcancelled⟩
  · next hcancelled =>
      exact ⟨fun _ h => absurd h hcancelled, fun _ => .of_not_connected rfl⟩

theorem liveToHolders_finishRound_of_not_connected (hc : w.isConnected = false) :
    LiveToHolders lib w.finishRound := by
  unfold finishRound
  split
  · exact .of_not_connected hc
  · exact .of_not_connected rfl

theorem liveToHolders_handleRead (hc : w.isConnected = true) (hp : w.phase = .reading) (r : Read) :
    LiveToHolders lib (w.handleRead lib r) ↔ (r.isGone = true → w.clones = 0) := by
  obtain ⟨phase, heq, hopen, -⟩ := handleRead_eq hp r
  rw [heq]
  cases hgone : r.isGone with
  | true =>
      rw [hgone] at hopen
      exact (liveToHolders_leave hc hopen).trans ⟨fun h _ => h, fun h => h rfl⟩
  | false =>
      rw [hgone] at hopen
      exact ⟨fun _ h => Bool.noConfusion h, fun _ => .of_open hopen⟩

theorem liveToHolders_round {e : TaskEvent} (h : Flagged w) (hr : Round lib w e w') :
    LiveToHolders lib w' ↔ Lasting w (.task e) := by
  cases hr with
  | stop hp | connect hp | slept hp => exact iff_of_true (.of_not_connected (h.at hp rfl)) trivial
  | refused hp =>
      exact iff_of_true (liveToHolders_finishRound_of_not_connected (h.at hp rfl)) trivial
  | connected hp | cancelled hp hc | store hp | restart hp =>
      exact iff_of_true (.of_open rfl) trivial
  | read hp => exact liveToHolders_handleRead (h.at hp rfl) hp _
  | closed hp => exact liveToHolders_finishRound (h.at hp rfl)

/-- **The one step.** Only the end of a connection can make the flag wrong. -/
theorem liveToHolders_step (e : Event) (h : Flagged w) (hlive : LiveToHolders lib w)
    (hs : w.step lib e = some w') : LiveToHolders lib w' ↔ Lasting w e := by
  obtain ⟨-, hs⟩ := step_cases hs
  have hopen := liveToHolders_iff.mp hlive
  cases hs with
  | task hr => exact liveToHolders_round h hr
  | shutdown hn | advance hle harmed | fire harmed =>
      exact iff_of_true (liveToHolders_iff.mpr hopen) trivial
  | clone hn | drop hn => exact iff_of_true (liveToHolders_iff.mpr fun _ => hopen hn) trivial
  | abort hn =>
      exact iff_of_true (liveToHolders_iff.mpr fun hpos => absurd hn (Nat.ne_of_gt hpos)) trivial

/-! ## Whole runs -/

/-- **The flag of a held stream tells the truth all along exactly the runs in which, while
somebody holds the stream, no connection ends by itself and no connection that `shutdown` ends
has been closed.** -/
theorem connected_only_while_open (lib : ClientLib) (exitOnStale : Bool) (now : Nat)
    (events : List Event) (w : MultiPriceStream)
    (hr : Runs.run (step lib) (new exitOnStale now) events = some w) :
    Runs.Always (step lib) (LiveToHolders lib) (new exitOnStale now) events ↔
      Runs.Meets (step lib) Lasting (new exitOnStale now) events := by
  have hnew := flagged_new exitOnStale now
  rw [← Runs.Always.and_invariant (fun _ e _ => flagged_step e) events hnew]
  refine Runs.always_iff_meets (fun w e w' h hs => ?_) events ⟨hnew, .of_not_connected rfl⟩ hr
  rw [and_iff_right (flagged_step e h.1 hs)]
  exact liveToHolders_step e h.1 h.2 hs

/-! ## After the end -/

theorem Round.not_over {e : TaskEvent} (hr : Round lib w e w') : w.phase.isOver = false := by
  cases hr with
  | stop hp | connect hp | refused hp | connected hp | cancelled hp | read hp | store hp
  | restart hp | closed hp | slept hp =>
      rw [hp]
      rfl

theorem over_step (e : Event) (h : w.phase.isOver = true) (hs : w.step lib e = some w') :
    w'.phase.isOver = true ∧ w'.isConnected = w.isConnected := by
  obtain ⟨-, hs⟩ := step_cases hs
  cases hs with
  | task hr => exact absurd h (Bool.eq_false_iff.mp hr.not_over)
  | abort hn => exact ⟨rfl, rfl⟩
  | shutdown hn | clone hn | drop hn | advance hle harmed | fire harmed => exact ⟨h, rfl⟩

/-- Nothing changes the flag once the task has ended. -/
theorem over_run (events : List Event) (h : w.phase.isOver = true)
    (hr : Runs.run (step lib) w events = some w') :
    w'.phase.isOver = true ∧ w'.isConnected = w.isConnected := by
  refine Runs.run_preserves (I := fun v => v.phase.isOver = true ∧ v.isConnected = w.isConnected)
    (fun v e v' hv hs => ?_) events ⟨h, rfl⟩ hr
  obtain ⟨hover, hconn⟩ := over_step e hv.1 hs
  exact ⟨hover, hconn.trans hv.2⟩

/-! ## Two runs -/

/-- A stream that connects, and is shut down. -/
def shutdownRun : List Event :=
  [.task .loop, .task (.connected (.ok ())), .shutdown, .task .cancelled, .task .closed]

/-- The connection is closed and the task has ended; the flag is set and stays so, and the
client answers from the stream, whatever it is asked for. -/
theorem shutdownRun_stays_connected :
    ∃ w, Runs.run (step quoteLib) (new true 0) shutdownRun = some w ∧
      0 < w.clones ∧ w.phase = .ended ∧ w.isConnected = true ∧
      (∀ mint chain, (PriceReporterClient.mk (some w)).readsStream quoteLib mint chain = true) ∧
      (∀ later w', Runs.run (step quoteLib) w later = some w' → w'.isConnected = true) ∧
      ¬ LiveToHolders quoteLib w := by
  refine ⟨_, rfl, by decide, rfl, rfl, fun mint chain => rfl, fun later w' hr => ?_, fun h => ?_⟩
  · exact (over_run later rfl hr).2
  · exact Bool.false_ne_true ((h (by decide)).connected rfl)

/-- A stream that reads a price, and whose connection is closed only when nobody holds it. -/
def droppedRun : List Event :=
  [.task .loop, .task (.connected (.ok ())), .task (.read (.message (.text "price"))),
    .task .store, .task .restart, .clone, .shutdown, .task .cancelled, .drop, .drop,
    .task .closed]

theorem droppedRun_live :
    (Runs.run (step quoteLib) (new true 0) droppedRun).isSome = true ∧
      Runs.Always (step quoteLib) (LiveToHolders quoteLib) (new true 0) droppedRun := by
  have hsome : (Runs.run (step quoteLib) (new true 0) droppedRun).isSome = true := by
    decide +kernel
  obtain ⟨w, hr⟩ := Option.isSome_iff_exists.mp hsome
  refine ⟨hsome, (connected_only_while_open quoteLib true 0 droppedRun w hr).mpr ?_⟩
  decide +kernel

end MultiPriceStream

end RelayerExtensions.PriceClient
