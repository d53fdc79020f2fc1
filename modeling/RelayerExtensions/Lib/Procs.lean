import RelayerExtensions.Lib.Runs

/-!
# Operations that interleave

Several operations work on one shared state at the same time. An operation is at
some point `o : ω` of its code; advancing it performs its next atomic action on the
shared state and moves it on, or ends it. Which operation advances when is up to the
scheduler, and so is dropping one for good, as a server does with the request of a
client that hung up. The inputs of an action (what a remote system answers) are part
of the scheduler's choice too.

Properties are stated in two parts: `I` of the shared state, and `J` of the shared
state and one operation under way. `inv_step` reduces keeping both to one obligation
per atomic action.
-/

namespace Procs

/-- The name of an operation under way. -/
abbrev Pid := Nat

/-- A shared state and the operations under way on it. -/
structure World (σ ω : Type) where
  shared : σ
  ops : Pid → Option ω

/-- The code of the operations: where a call starts, and what its actions do. -/
structure System (σ ω κ ι : Type) where
  launch : σ → κ → ω
  next : σ → ω → ι → σ × Option ω

/-- What the scheduler can do. -/
inductive Tick (κ ι : Type) where
  | launch (p : Pid) (call : κ)
  | advance (p : Pid) (input : ι)
  | drop (p : Pid)

variable {σ ω κ ι : Type} {S : System σ ω κ ι} {w : World σ ω}

def World.put (w : World σ ω) (p : Pid) (s : σ) (o : Option ω) : World σ ω :=
  ⟨s, Function.update w.ops p o⟩

def step (S : System σ ω κ ι) (w : World σ ω) : Tick κ ι → Option (World σ ω)
  | .launch p call =>
      match w.ops p with
      | none => some (w.put p w.shared (some (S.launch w.shared call)))
      | some _ => none
  | .advance p input =>
      match w.ops p with
      | none => none
      | some o => some (w.put p (S.next w.shared o input).1 (S.next w.shared o input).2)
  | .drop p =>
      match w.ops p with
      | none => none
      | some _ => some (w.put p w.shared none)

/-- Whether what one operation is about to do satisfies something. -/
instance decidableOp (w : World σ ω) (p : Pid) (P : ω → Prop) [DecidablePred P] :
    Decidable (∀ o, w.ops p = some o → P o) :=
  match w.ops p with
  | none => .isTrue fun _ ho => nomatch ho
  | some o => decidable_of_iff (P o) ⟨fun hP _ ho => Option.some.inj ho ▸ hP, fun hP => hP o rfl⟩

/-- Nothing is under way. -/
def World.Quiet (w : World σ ω) : Prop := ∀ p, w.ops p = none

/-- An operation running by itself, its actions getting one input, for at most so many of
them. -/
def alone (S : System σ ω κ ι) (input : ι) : Nat → σ → ω → σ × Option ω
  | 0, s, o => (s, some o)
  | n + 1, s, o =>
      match S.next s o input with
      | (s', none) => (s', none)
      | (s', some o') => alone S input n s' o'

theorem alone_some {s s' : σ} {o o' : ω} {input : ι} (h : S.next s o input = (s', some o'))
    (n : Nat) : alone S input (n + 1) s o = alone S input n s' o' := by
  rw [alone, h]

theorem alone_none {s s' : σ} {o : ω} {input : ι} (h : S.next s o input = (s', none)) (n : Nat) :
    alone S input (n + 1) s o = (s', none) := by
  rw [alone, h]

/-- The same, each action getting an input of its own. -/
def feed (S : System σ ω κ ι) : List ι → σ → ω → σ × Option ω
  | [], s, o => (s, some o)
  | i :: is, s, o =>
      match S.next s o i with
      | (s', none) => (s', none)
      | (s', some o') => feed S is s' o'

theorem put_self {p : Pid} {s : σ} {o : Option ω} : (w.put p s o).ops p = o :=
  Function.update_self ..

theorem put_of_ne {p q : Pid} {s : σ} {o : Option ω} (h : q ≠ p) :
    (w.put p s o).ops q = w.ops q := Function.update_of_ne h ..

/-- Who is under way after a step of `p`. -/
theorem put_cases {p q : Pid} {s : σ} {o : Option ω} {o' : ω}
    (h : (w.put p s o).ops q = some o') : (q = p ∧ o = some o') ∨ (q ≠ p ∧ w.ops q = some o') := by
  by_cases hq : q = p
  · subst hq
    exact .inl ⟨rfl, put_self.symm.trans h⟩
  · exact .inr ⟨hq, (put_of_ne hq).symm.trans h⟩

def Inv (I : σ → Prop) (J : σ → ω → Prop) (w : World σ ω) : Prop :=
  I w.shared ∧ ∀ p o, w.ops p = some o → J w.shared o

theorem inv_put {I : σ → Prop} {J : σ → ω → Prop} {p : Pid} {s : σ} {o : Option ω} (hI : I s)
    (ho : ∀ o', o = some o' → J s o')
    (hothers : ∀ q o', q ≠ p → w.ops q = some o' → J s o') : Inv I J (w.put p s o) := by
  refine ⟨hI, fun q o' hq => ?_⟩
  by_cases hqp : q = p
  · subst hqp
    rw [put_self] at hq
    exact ho o' hq
  · rw [put_of_ne hqp] at hq
    exact hothers q o' hqp hq

/-- What a step can be. -/
theorem step_cases {w w' : World σ ω} {e : Tick κ ι} (hs : step S w e = some w') :
    (∃ p call, e = .launch p call ∧ w.ops p = none ∧
      w' = w.put p w.shared (some (S.launch w.shared call))) ∨
    (∃ p input o, e = .advance p input ∧ w.ops p = some o ∧
      w' = w.put p (S.next w.shared o input).1 (S.next w.shared o input).2) ∨
    (∃ p o, e = .drop p ∧ w.ops p = some o ∧ w' = w.put p w.shared none) := by
  cases e with
  | launch p call =>
      cases hp : w.ops p with
      | some o => simp [step, hp] at hs
      | none =>
          simp only [step, hp, Option.some.injEq] at hs
          exact .inl ⟨p, call, rfl, hp, hs.symm⟩
  | advance p input =>
      cases hp : w.ops p with
      | none => simp [step, hp] at hs
      | some o =>
          simp only [step, hp, Option.some.injEq] at hs
          exact .inr (.inl ⟨p, input, o, rfl, hp, hs.symm⟩)
  | drop p =>
      cases hp : w.ops p with
      | none => simp [step, hp] at hs
      | some o =>
          simp only [step, hp, Option.some.injEq] at hs
          exact .inr (.inr ⟨p, o, rfl, hp, hs.symm⟩)

section Obligations

variable {I : σ → Prop} {J : σ → ω → Prop} {C : World σ ω → Tick κ ι → Prop}
  (hlaunch : ∀ s call, I s → J s (S.launch s call))
  (hnext : ∀ w p o input, Inv I J w → w.ops p = some o → C w (.advance p input) →
    I (S.next w.shared o input).1 ∧
      (∀ o', (S.next w.shared o input).2 = some o' → J (S.next w.shared o input).1 o') ∧
      ∀ q o', q ≠ p → w.ops q = some o' → J (S.next w.shared o input).1 o')

include hlaunch hnext

/-- **One obligation per atomic action.** An action taken under `C` must establish `I`, leave
its own operation in order, and not disturb the others. -/
theorem inv_step (w : World σ ω) (e : Tick κ ι) (w' : World σ ω) (h : Inv I J w) (hC : C w e)
    (hs : step S w e = some w') : Inv I J w' := by
  rcases step_cases hs with ⟨p, call, rfl, -, rfl⟩ | ⟨p, input, o, rfl, ho, rfl⟩ |
    ⟨p, o, rfl, -, rfl⟩
  · refine inv_put h.1 ?_ fun q o' _ hq => h.2 q o' hq
    intro o' ho'
    injection ho' with ho'
    exact ho' ▸ hlaunch w.shared call h.1
  · obtain ⟨hI, hown, hothers⟩ := hnext w p o input h ho hC
    exact inv_put hI hown hothers
  · exact inv_put h.1 (by simp) fun q o' _ hq => h.2 q o' hq

/-- **The invariant over whole runs**, all of whose steps meet `C`. -/
theorem inv_run (es : List (Tick κ ι)) {w w' : World σ ω} (h : Inv I J w)
    (hm : Runs.Meets (step S) C w es) (hr : Runs.run (step S) w es = some w') : Inv I J w' :=
  Runs.run_invariant (inv_step hlaunch hnext) es h hm hr

end Obligations

/-! ## A few operations

What a condition says of all operations under way can be evaluated in a run that names only
the first few. -/

def Tick.pid : Tick κ ι → Pid
  | .launch p _ | .advance p _ | .drop p => p

/-- Only the first `n` operations are under way. -/
def World.Below (n : Nat) (w : World σ ω) : Prop := ∀ p, n ≤ p → w.ops p = none

theorem World.Below.all {n : Nat} (h : w.Below n) {P : Pid → ω → Prop}
    (hP : ∀ p < n, ∀ o, w.ops p = some o → P p o) (p : Pid) (o : ω) (ho : w.ops p = some o) :
    P p o := by
  by_cases hp : p < n
  · exact hP p hp o ho
  · cases (h p (Nat.not_lt.mp hp)).symm.trans ho

theorem World.Below.step {n : Nat} {w w' : World σ ω} {e : Tick κ ι} (h : w.Below n)
    (he : e.pid < n) (hs : step S w e = some w') : w'.Below n := by
  intro q hq
  have hne : q ≠ e.pid := Nat.ne_of_gt (Nat.lt_of_lt_of_le he hq)
  rcases step_cases hs with ⟨p, call, rfl, -, rfl⟩ | ⟨p, input, o, rfl, -, rfl⟩ |
    ⟨p, o, rfl, -, rfl⟩
  · exact (put_of_ne hne).trans (h q hq)
  · exact (put_of_ne hne).trans (h q hq)
  · exact (put_of_ne hne).trans (h q hq)

theorem meets_of_below {C D : World σ ω → Tick κ ι → Prop} (n : Nat)
    (hCD : ∀ w e, w.Below n → e.pid < n → C w e → D w e) {es : List (Tick κ ι)} (h : w.Below n)
    (hm : Runs.Meets (step S) (fun w e => e.pid < n ∧ C w e) w es) :
    Runs.Meets (step S) D w es :=
  Runs.Meets.imp (J := World.Below n) (fun _ _ _ h hC hs => h.step hC.1 hs)
    (fun w e h hC => hCD w e h hC.1 hC.2) h hm

end Procs
