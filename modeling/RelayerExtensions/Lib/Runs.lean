import Mathlib.Logic.Function.Basic

/-!
# Runs of a partial step function

A system is a function `step : σ → ε → Option σ`: in state `s` the event `e`
either cannot happen, or leads to one next state. All nondeterminism is in the
events, so a run is a list of them and "for every interleaving" is "for every
list of events".

`Meets` records that every step of a run was taken in a state satisfying some
condition. It is what a conditional guarantee quantifies over, and
`run_invariant` is the one induction every such guarantee goes through.
-/

namespace Runs

variable {σ ε : Type} {step : σ → ε → Option σ} {C D : σ → ε → Prop} {I J : σ → Prop}

/-- The state after a list of events, if each of them could happen in turn. -/
def run (step : σ → ε → Option σ) (s : σ) (es : List ε) : Option σ := es.foldlM step s

@[simp] theorem run_nil (step : σ → ε → Option σ) (s : σ) : run step s [] = some s := rfl

theorem run_cons (step : σ → ε → Option σ) (s : σ) (e : ε) (es : List ε) :
    run step s (e :: es) = (step s e).bind fun s' => run step s' es := rfl

theorem run_cons_some {s s'' : σ} {e : ε} {es : List ε} :
    run step s (e :: es) = some s'' ↔
      ∃ s', step s e = some s' ∧ run step s' es = some s'' := by
  rw [run_cons, Option.bind_eq_some_iff]

/-- A run can be cut anywhere. -/
theorem run_append (step : σ → ε → Option σ) :
    ∀ (es fs : List ε) (s : σ),
      run step s (es ++ fs) = (run step s es).bind fun s' => run step s' fs
  | [], _, _ => rfl
  | e :: es, fs, s => by
      rw [List.cons_append, run_cons, run_cons]
      cases step s e with
      | none => rfl
      | some s' => exact run_append step es fs s'

/-- Where every event can happen, a run is a fold. -/
theorem run_total (f : σ → ε → σ) : ∀ (es : List ε) (s : σ),
    run (fun s e => some (f s e)) s es = some (es.foldl f s)
  | [], _ => rfl
  | e :: es, s => by
      rw [run_cons, List.foldl_cons]
      exact run_total f es (f s e)

/-- Every step of the run was taken in a state satisfying `C`. -/
def Meets (step : σ → ε → Option σ) (C : σ → ε → Prop) : σ → List ε → Prop
  | _, [] => True
  | s, e :: es => C s e ∧ ∀ s', step s e = some s' → Meets step C s' es

theorem Meets.cons {s s' : σ} {e : ε} {es : List ε} (hs : step s e = some s') (hC : C s e)
    (h : Meets step C s' es) : Meets step C s (e :: es) := by
  refine ⟨hC, fun s₁ h₁ => ?_⟩
  rw [hs, Option.some.injEq] at h₁
  exact h₁ ▸ h

theorem meets_of_forall : ∀ {es : List ε} {s : σ}, (∀ e ∈ es, ∀ s, C s e) → Meets step C s es
  | [], _, _ => trivial
  | e :: _, s, h =>
      ⟨h e List.mem_cons_self s, fun _ _ => meets_of_forall fun e he => h e (.tail _ he)⟩

/-- A condition may be replaced by one that is as good wherever the run gets. -/
theorem Meets.imp (himp : ∀ s e s', J s → C s e → step s e = some s' → J s')
    (hD : ∀ s e, J s → C s e → D s e) :
    ∀ {es : List ε} {s : σ}, J s → Meets step C s es → Meets step D s es
  | [], _, _, _ => trivial
  | e :: _, s, hJ, hm =>
      ⟨hD s e hJ hm.1, fun s' hs => Meets.imp himp hD (himp s e s' hJ hm.1 hs) (hm.2 s' hs)⟩

theorem meets_and :
    ∀ {es : List ε} {s : σ},
      Meets step (fun s e => C s e ∧ D s e) s es ↔ Meets step C s es ∧ Meets step D s es
  | [], _ => ⟨fun _ => ⟨trivial, trivial⟩, fun _ => trivial⟩
  | e :: es, s => by
      constructor
      · rintro ⟨⟨hC, hD⟩, hrest⟩
        exact ⟨⟨hC, fun s' hs => (meets_and.mp (hrest s' hs)).1⟩,
          hD, fun s' hs => (meets_and.mp (hrest s' hs)).2⟩
      · rintro ⟨⟨hC, hCs⟩, hD, hDs⟩
        exact ⟨⟨hC, hD⟩, fun s' hs => meets_and.mpr ⟨hCs s' hs, hDs s' hs⟩⟩

/-- A decidable condition can be checked along a run by executing it. -/
instance decidableMeets (step : σ → ε → Option σ) (C : σ → ε → Prop)
    [∀ s e, Decidable (C s e)] : ∀ s es, Decidable (Meets step C s es)
  | _, [] => .isTrue trivial
  | s, e :: es =>
      match h : step s e with
      | none => decidable_of_iff (C s e)
          ⟨fun hC => ⟨hC, fun _ hs => nomatch h.symm.trans hs⟩, fun hm => hm.1⟩
      | some s' =>
          have := decidableMeets step C s' es
          decidable_of_iff (C s e ∧ Meets step C s' es)
            ⟨fun hm => Meets.cons h hm.1 hm.2, fun hm => ⟨hm.1, hm.2 s' h⟩⟩

/-- **An invariant kept by every step that meets `C` holds after every run that does.** -/
theorem run_invariant (hstep : ∀ s e s', I s → C s e → step s e = some s' → I s') :
    ∀ (es : List ε) {s s' : σ}, I s → Meets step C s es → run step s es = some s' → I s'
  | [], _, _, hI, _, hr => by
      injection hr with hr
      exact hr ▸ hI
  | e :: es, s, s', hI, hm, hr => by
      obtain ⟨s₁, h₁, hr⟩ := run_cons_some.mp hr
      exact run_invariant hstep es (hstep s e s₁ hI hm.1 h₁) (hm.2 s₁ h₁) hr

/-- The unconditional case. -/
theorem run_preserves (hstep : ∀ s e s', I s → step s e = some s' → I s') (es : List ε) {s s' : σ}
    (hI : I s) (hr : run step s es = some s') : I s' :=
  run_invariant (C := fun _ _ => True) (fun s e s' hI _ hs => hstep s e s' hI hs) es hI
    (meets_of_forall fun _ _ _ => trivial) hr

/-- What every event of a run satisfies can be used at every step. -/
theorem run_preserves_of {P : ε → Prop} (hstep : ∀ s e s', P e → I s → step s e = some s' → I s')
    (es : List ε) {s s' : σ} (hP : ∀ e ∈ es, P e) (hI : I s) (hr : run step s es = some s') :
    I s' :=
  run_invariant (C := fun _ e => P e) (fun s e s' hI hPe hs => hstep s e s' hPe hI hs) es hI
    (meets_of_forall fun e he _ => hP e he) hr

/-- **The exact form**, for a property that a step keeps exactly if it meets `C`: it holds at the
end exactly if it held at the beginning and the run meets `C`. An invariant may help. -/
theorem run_iff_and_meets (hJ : ∀ s e s', J s → step s e = some s' → J s')
    (hstep : ∀ s e s', J s → step s e = some s' → (I s' ↔ I s ∧ C s e)) :
    ∀ (es : List ε) {s s' : σ}, J s → run step s es = some s' → (I s' ↔ I s ∧ Meets step C s es)
  | [], s, s', _, hr => by
      cases hr
      exact (and_iff_left trivial).symm
  | e :: es, s, s', hs, hr => by
      obtain ⟨s₁, h₁, hr⟩ := run_cons_some.mp hr
      have hrest : (∀ s₂, step s e = some s₂ → Meets step C s₂ es) ↔ Meets step C s₁ es :=
        ⟨fun h => h s₁ h₁, fun h s₂ h₂ => Option.some.inj (h₁.symm.trans h₂) ▸ h⟩
      rw [run_iff_and_meets hJ hstep es (hJ s e s₁ hs h₁) hr, hstep s e s₁ hs h₁, and_assoc]
      exact and_congr_right fun _ => and_congr_right fun _ => hrest.symm

/-- The same where a property that is lost is never regained. -/
theorem run_iff_meets (hstep : ∀ s e s', I s → step s e = some s' → (I s' ↔ C s e))
    (hlost : ∀ s e s', ¬ I s → step s e = some s' → ¬ I s') (es : List ε) {s s' : σ} (hI : I s)
    (hr : run step s es = some s') : I s' ↔ Meets step C s es := by
  have hiff : ∀ s e s', True → step s e = some s' → (I s' ↔ I s ∧ C s e) := by
    intro s e s' _ h
    by_cases hs : I s
    · rw [hstep s e s' hs h, and_iff_right hs]
    · exact iff_of_false (hlost s e s' hs h) fun hC => hs hC.1
  rw [run_iff_and_meets (J := fun _ => True) (fun _ _ _ _ _ => trivial) hiff es trivial hr,
    and_iff_right hI]

/-- The property holds of every state the run passes through. -/
def Always (step : σ → ε → Option σ) (I : σ → Prop) : σ → List ε → Prop
  | s, [] => I s
  | s, e :: es => I s ∧ ∀ s', step s e = some s' → Always step I s' es

theorem Always.head {s : σ} {es : List ε} (h : Always step I s es) : I s := by
  cases es with
  | nil => exact h
  | cons e es => exact h.1

theorem Always.imp (h : ∀ s, I s → J s) :
    ∀ {es : List ε} {s : σ}, Always step I s es → Always step J s es
  | [], s, ha => h s ha
  | _ :: _, s, ha => ⟨h s ha.1, fun s' hs => Always.imp h (ha.2 s' hs)⟩

/-- An invariant kept by every step that meets `C` holds all along the runs that do. -/
theorem Meets.always (hstep : ∀ s e s', I s → C s e → step s e = some s' → I s') :
    ∀ (es : List ε) {s : σ}, I s → Meets step C s es → Always step I s es
  | [], _, hI, _ => hI
  | e :: es, s, hI, hm =>
      ⟨hI, fun s' hs => Meets.always hstep es (hstep s e s' hI hm.1 hs) (hm.2 s' hs)⟩

theorem Always.and_invariant (hJ : ∀ s e s', J s → step s e = some s' → J s') :
    ∀ (es : List ε) {s : σ}, J s →
      (Always step (fun s => J s ∧ I s) s es ↔ Always step I s es)
  | [], _, h => ⟨fun ha => ha.2, fun ha => ⟨h, ha⟩⟩
  | e :: es, s, h => by
      constructor
      · intro ha
        refine ⟨ha.1.2, fun s' hs => ?_⟩
        exact (Always.and_invariant hJ es (hJ s e s' h hs)).mp (ha.2 s' hs)
      · intro ha
        refine ⟨⟨h, ha.1⟩, fun s' hs => ?_⟩
        exact (Always.and_invariant hJ es (hJ s e s' h hs)).mpr (ha.2 s' hs)

/-- **The exact form for a property that can be regained.** If a property survives a step
exactly when the step meets `C`, then it holds all along exactly the runs that meet `C`. -/
theorem always_iff_meets (hstep : ∀ s e s', I s → step s e = some s' → (I s' ↔ C s e)) :
    ∀ (es : List ε) {s s' : σ}, I s → run step s es = some s' →
      (Always step I s es ↔ Meets step C s es)
  | [], _, _, hI, _ => ⟨fun _ => trivial, fun _ => hI⟩
  | e :: es, s, s', hI, hr => by
      obtain ⟨s₁, h₁, hr⟩ := run_cons_some.mp hr
      have only : ∀ {s₂}, step s e = some s₂ → s₂ = s₁ := fun h₂ =>
        Option.some.inj (h₂.symm.trans h₁)
      constructor
      · intro ha
        have ha₁ := ha.2 s₁ h₁
        have hI₁ := ha₁.head
        refine ⟨(hstep s e s₁ hI h₁).mp hI₁, fun s₂ h₂ => ?_⟩
        rw [only h₂]
        exact (always_iff_meets hstep es hI₁ hr).mp ha₁
      · intro hm
        have hI₁ := (hstep s e s₁ hI h₁).mpr hm.1
        refine ⟨hI, fun s₂ h₂ => ?_⟩
        rw [only h₂]
        exact (always_iff_meets hstep es hI₁ hr).mpr (hm.2 s₁ h₁)

/-- Two conditions that come to the same wherever the run gets. -/
theorem meets_congr {E : σ → ε → Prop} (hJ : ∀ s e s', J s → E s e → step s e = some s' → J s')
    (hiff : ∀ s e s', J s → E s e → step s e = some s' → (C s e ↔ D s e)) :
    ∀ (es : List ε) {s s' : σ}, J s → Meets step E s es → run step s es = some s' →
      (Meets step C s es ↔ Meets step D s es)
  | [], _, _, _, _, _ => Iff.rfl
  | e :: es, s, s', hs, hE, hr => by
      obtain ⟨s₁, h₁, hr⟩ := run_cons_some.mp hr
      have ih := meets_congr hJ hiff es (hJ s e s₁ hs hE.1 h₁) (hE.2 s₁ h₁) hr
      have only : ∀ P : σ → Prop, (∀ s₂, step s e = some s₂ → P s₂) ↔ P s₁ := fun P =>
        ⟨fun h => h s₁ h₁, fun h s₂ h₂ => Option.some.inj (h₁.symm.trans h₂) ▸ h⟩
      have hrest := (only (Meets step C · es)).trans (ih.trans (only (Meets step D · es)).symm)
      exact and_congr (hiff s e s₁ hs hE.1 h₁) hrest

/-! ## Runs that come to an end -/

/-- An invariant that counts the steps. -/
theorem run_counted {I : Nat → σ → Prop}
    (hstep : ∀ n s e s', I n s → step s e = some s' → I (n + 1) s') :
    ∀ (es : List ε) {n : Nat} {s s' : σ}, I n s → run step s es = some s' → I (n + es.length) s'
  | [], _, _, _, hI, hr => by
      injection hr with hr
      exact hr ▸ hI
  | e :: es, n, s, s', hI, hr => by
      obtain ⟨s₁, h₁, hr⟩ := run_cons_some.mp hr
      have h := run_counted hstep es (hstep n s e s₁ hI h₁) hr
      rwa [Nat.add_assoc, Nat.add_comm 1] at h

/-- **A system that goes on unless it is done, and has only so many steps, gets done**,
whatever the events are. -/
theorem run_stops {I : Nat → σ → Prop} {done : σ → Prop} {bound : Nat}
    (hstep : ∀ n s e s', I n s → step s e = some s' → I (n + 1) s')
    (hbound : ∀ n s, I n s → n ≤ bound) (hgo : ∀ s e, ¬ done s → ∃ s', step s e = some s') {s₀ : σ}
    (h₀ : I 0 s₀) (f : Nat → ε) :
    ∃ n ≤ bound, ∃ s, run step s₀ ((List.range n).map f) = some s ∧ done s := by
  have upto : ∀ m, (∃ n s, run step s₀ ((List.range n).map f) = some s ∧ I n s ∧ done s) ∨
      ∃ s, run step s₀ ((List.range m).map f) = some s ∧ I m s := by
    intro m
    induction m with
    | zero => exact .inr ⟨s₀, rfl, h₀⟩
    | succ m ih =>
        rcases ih with hdone | ⟨s, hr, hI⟩
        · exact .inl hdone
        by_cases hs : done s
        · exact .inl ⟨m, s, hr, hI, hs⟩
        obtain ⟨s', hs'⟩ := hgo s (f m) hs
        refine .inr ⟨s', ?_, hstep m s (f m) s' hI hs'⟩
        rw [List.range_succ, List.map_append, run_append, hr]
        exact run_cons_some.mpr ⟨s', hs', rfl⟩
  rcases upto (bound + 1) with ⟨n, s, hr, hI, hdone⟩ | ⟨s, -, hI⟩
  · exact ⟨n, hbound n s hI, s, hr, hdone⟩
  · exact absurd (hbound _ s hI) (Nat.not_succ_le_self bound)

end Runs
