import RelayerExtensions.PriceClient.MultiPriceStream

/-!
# The staleness timer

A stream that is to exit when it is stale starts a timer with each price, and aborts the one
before it. So there is never more than one, and it is due a minute after the last price. But the
first timer is started by the first price: a stream that never gets one is never stale. And
nothing but the next price aborts a timer. Neither `shutdown` nor the drop of the last clone
does, as a handle that is dropped leaves its task running, so that the process exits a minute
after the last price of a stream that nobody uses any more.
-/

namespace RelayerExtensions.PriceClient.MultiPriceStream

variable {lib : ClientLib} {w w' : MultiPriceStream}

/-! ## The property -/

/-- The stream has not been shut down, and somebody holds it. -/
def running (w : MultiPriceStream) : Bool := !w.cancelled && decide (0 < w.clones)

/-- A minute after the later of the start and the last price. -/
def due (w : MultiPriceStream) : Nat :=
  max w.start (w.updates.head?.getD w.start) + stalenessTimeoutMs

/-- While the stream runs there is one timer, due when it should be, and time does not get past
it; after that there is none. -/
structure TimersRight (w : MultiPriceStream) : Prop where
  armed : w.running = true → w.timers.map Timer.deadline = [w.due] ∧ w.clock ≤ w.due
  disarmed : w.running = false → w.timers = []

/-! ## What is armed -/

/-- There is a timer if there was a price, and its handle is in the shared state. -/
def ArmedBy (w : MultiPriceStream) : List Nat → Prop
  | [] => w.timers = [] ∧ w.inner.stalenessTimer = none
  | last :: _ => w.start ≤ last ∧ w.clock ≤ last + stalenessTimeoutMs ∧
      ∃ id, w.inner.stalenessTimer = some id ∧ w.timers = [⟨id, last + stalenessTimeoutMs⟩]

structure Armed (w : MultiPriceStream) : Prop where
  exitOnStale : w.inner.exitOnStale = true
  started : w.start ≤ w.clock
  armedBy : w.ArmedBy w.updates

theorem armed_new (now : Nat) : Armed (new true now) := ⟨rfl, Nat.le_refl now, rfl, rfl⟩

/-- The handle of the timer that is armed, if one is, is the one that gets aborted. -/
theorem ArmedBy.aborts {updates : List Nat} (h : w.ArmedBy updates) :
    w.timers.filter (fun t => some t.id ≠ w.inner.stalenessTimer) = [] := by
  cases updates with
  | nil => rw [h.1, List.filter_nil]
  | cons last updates =>
      obtain ⟨-, -, id, hid, htimers⟩ := h
      rw [htimers, hid]
      exact List.filter_cons_of_neg (by simp)

theorem Armed.restart (h : Armed w) :
    Armed { w.restartStalenessTimer with phase := .reading, updates := w.clock :: w.updates } := by
  unfold restartStalenessTimer
  rw [if_pos h.exitOnStale]
  refine ⟨h.exitOnStale, h.started, h.started, Nat.le_add_right _ _, w.nextTimer, rfl, ?_⟩
  exact congrArg (· ++ _) h.armedBy.aborts

theorem Armed.finishRound (h : Armed w) : Armed w.finishRound := by
  unfold MultiPriceStream.finishRound
  split <;> exact ⟨h.exitOnStale, h.started, h.armedBy⟩

theorem Armed.round {e : TaskEvent} (h : Armed w) (hr : Round lib w e w') : Armed w' := by
  cases hr with
  | restart hp => exact h.restart
  | refused hp | closed hp => exact h.finishRound
  | read hp =>
      obtain ⟨phase, heq, -⟩ := handleRead_eq hp _
      rw [heq]
      exact ⟨h.exitOnStale, h.started, h.armedBy⟩
  | stop hp | connect hp | connected hp | cancelled hp | store hp | slept hp =>
      exact ⟨h.exitOnStale, h.started, h.armedBy⟩

theorem ArmedBy.advance {now : Nat} {updates : List Nat} (h : w.ArmedBy updates)
    (harmed : ∀ t ∈ w.timers, now ≤ t.deadline) : ArmedBy { w with clock := now } updates := by
  cases updates with
  | nil => exact h
  | cons last updates =>
      obtain ⟨hstart, -, id, hid, htimers⟩ := h
      rw [htimers] at harmed
      exact ⟨hstart, harmed _ (List.mem_singleton_self _), id, hid, htimers⟩

theorem armed_step (e : Event) (h : Armed w) (hs : w.step lib e = some w') : Armed w' := by
  obtain ⟨-, hs⟩ := step_cases hs
  cases hs with
  | task hr => exact h.round hr
  | advance hle harmed =>
      -- time stops at the timer
      exact ⟨h.exitOnStale, Nat.le_trans h.started hle, h.armedBy.advance harmed⟩
  | shutdown hn | clone hn | drop hn | abort hn | fire harmed =>
      exact ⟨h.exitOnStale, h.started, h.armedBy⟩

/-- In every state there is a timer exactly if there was a price. -/
theorem Armed.due_iff (h : Armed w) : TimersRight w ↔ (w.running = true ↔ w.updates ≠ []) := by
  obtain ⟨-, -, hby⟩ := h
  cases hu : w.updates with
  | nil =>
      rw [hu] at hby
      constructor
      · intro hright
        refine ⟨fun hrun => ?_, fun h => absurd rfl h⟩
        have hone := (hright.armed hrun).1
        rw [hby.1] at hone
        cases hone
      · intro hiff
        exact ⟨fun hrun => absurd rfl (hiff.mp hrun), fun _ => hby.1⟩
  | cons last updates =>
      rw [hu] at hby
      obtain ⟨hstart, hclock, id, -, htimers⟩ := hby
      have hdue : w.due = last + stalenessTimeoutMs := by
        unfold due
        rw [hu, List.head?_cons, Option.getD_some, Nat.max_eq_right hstart]
      constructor
      · intro hright
        refine ⟨fun _ => List.cons_ne_nil _ _, fun _ => ?_⟩
        apply Bool.of_not_eq_false
        intro hstopped
        have hnone := hright.disarmed hstopped
        rw [htimers] at hnone
        cases hnone
      · intro hiff
        have hrun := hiff.mpr (List.cons_ne_nil _ _)
        refine ⟨fun _ => ⟨?_, hdue ▸ hclock⟩, fun hstopped => ?_⟩
        · rw [htimers, hdue]
          rfl
        · exact absurd hrun (Bool.eq_false_iff.mp hstopped)

/-! ## Whole runs -/

/-- **The timers are right exactly while the stream runs and has had a price, and after it if it
has never had one.** -/
theorem timersRight_iff (lib : ClientLib) (now : Nat) (events : List Event) (w : MultiPriceStream)
    (hr : Runs.run (step lib) (new true now) events = some w) :
    TimersRight w ↔ (w.running = true ↔ w.updates ≠ []) := by
  have harmed : Armed w := Runs.run_preserves (fun _ e _ => armed_step e) events (armed_new now) hr
  exact harmed.due_iff

/-- A connection, and one price. -/
def firstPrice : List Event :=
  [.task .loop, .task (.connected (.ok ())), .task (.read (.message (.text "price"))),
    .task .store, .task .restart]

/-- With one price read at the fifth second, the timer is due a minute later. -/
theorem firstPrice_timersRight :
    ∃ w, Runs.run (step quoteLib) (new true 0) (.advance 5000 :: firstPrice) = some w ∧
      w.due = 65000 ∧ TimersRight w := by
  have hrun : (Runs.run (step quoteLib) (new true 0) (.advance 5000 :: firstPrice)).map
      (fun w => (w.running, w.updates, w.due)) = some (true, [5000], 65000) := by
    decide +kernel
  obtain ⟨w, hr, hend⟩ := Option.map_eq_some_iff.mp hrun
  obtain ⟨hrunning, hend⟩ := Prod.mk.inj hend
  obtain ⟨hupdates, hdue⟩ := Prod.mk.inj hend
  refine ⟨w, hr, hdue, (timersRight_iff quoteLib 0 _ w hr).mpr ?_⟩
  rw [hrunning, hupdates]
  decide

/-- A stream that gets no price is not stale after an hour; one that has been shut down and
dropped after its first price still ends the process. -/
theorem timers_wrong :
    (∃ w, Runs.run (step quoteLib) (new true 0) [.advance 3600000] = some w ∧
      w.running = true ∧ w.timers = [] ∧ w.exited = false ∧ ¬ TimersRight w) ∧
    (∃ w, Runs.run (step quoteLib) (new true 0) (firstPrice ++
        [.shutdown, .task .cancelled, .task .closed, .drop, .advance 60000]) = some w ∧
      w.running = false ∧ w.clones = 0 ∧ w.timers = [⟨0, 60000⟩] ∧ ¬ TimersRight w ∧
      ∃ w', w.step quoteLib (.fire 0) = some w' ∧ w'.exited = true) := by
  constructor
  · refine ⟨_, rfl, rfl, rfl, rfl, fun h => ?_⟩
    exact absurd (h.armed rfl).1.symm (List.cons_ne_nil _ _)
  · have hrun : (Runs.run (step quoteLib) (new true 0) (firstPrice ++
        [.shutdown, .task .cancelled, .task .closed, .drop, .advance 60000])).map
        (fun w => (w.running, w.clones, w.timers, (w.step quoteLib (.fire 0)).map exited)) =
          some (false, 0, [⟨0, 60000⟩], some true) := by decide +kernel
    obtain ⟨w, hr, hend⟩ := Option.map_eq_some_iff.mp hrun
    obtain ⟨hrunning, hend⟩ := Prod.mk.inj hend
    obtain ⟨hclones, hend⟩ := Prod.mk.inj hend
    obtain ⟨htimers, hfire⟩ := Prod.mk.inj hend
    refine ⟨w, hr, hrunning, hclones, htimers, fun h => ?_, Option.map_eq_some_iff.mp hfire⟩
    exact absurd (htimers.symm.trans (h.disarmed hrunning)) (List.cons_ne_nil _ _)

end RelayerExtensions.PriceClient.MultiPriceStream
