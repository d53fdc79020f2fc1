import Mathlib.Logic.Function.Basic

/-!
# Stateful computations that can fail

A request handler reads and writes a shared state and may stop early with an
error. What it wrote before it stopped stays written: an error is returned to
the caller, the state is not rolled back. `Effect` is that kind of computation,
and `exec` runs one, giving how it ended together with the state it left behind.

Three ways of reasoning about one are used:

* `exec_bind_ok` takes a sequence that returned apart, step by step, and `exec_bind_cases`
  one that may have stopped anywhere;
* `Keeps` says that a part of the state is left alone, however the run ends;
* `Appends` says the same of a log: it only grows, and by entries of one kind.
-/

/-- A computation over a state `σ` that ends in an `α` or stops with an `ε`. -/
abbrev Effect (ε σ α : Type) := ExceptT ε (StateM σ) α

namespace Effect

variable {ε ε' σ τ α β γ : Type} {m : Effect ε σ α} {f : α → Effect ε σ β} {s s' : σ}
  {k : α → Effect ε σ β} {x : Except ε α}

/-- Run a computation: how it ended, and the state it left. -/
def exec (m : Effect ε σ α) (s : σ) : Except ε α × σ := StateT.run (ExceptT.run m) s

def look (f : σ → α) : Effect ε σ α := do return f (← get)

/-- A fallible pure value, as a computation: the error is passed on. -/
def ofExcept : Except ε α → Effect ε σ α
  | .ok a => pure a
  | .error e => throw e

@[simp] theorem exec_pure (a : α) (s : σ) : exec (pure a : Effect ε σ α) s = (.ok a, s) := rfl

@[simp] theorem exec_throw (e : ε) (s : σ) :
    exec (throw e : Effect ε σ α) s = (.error e, s) := rfl

@[simp] theorem exec_look (f : σ → α) (s : σ) :
    exec (look f : Effect ε σ α) s = (.ok (f s), s) := rfl

@[simp] theorem exec_modify (f : σ → σ) (s : σ) :
    exec (modify f : Effect ε σ PUnit) s = (.ok ⟨⟩, f s) := rfl

@[simp] theorem exec_ofExcept (x : Except ε α) (s : σ) :
    exec (ofExcept x : Effect ε σ α) s = (x, s) := by
  cases x <;> rfl

/-- A fallible value leaves the state alone. -/
theorem exec_ofExcept_inv {x r : Except ε α}
    (h : exec (ofExcept x : Effect ε σ α) s = (r, s')) : s' = s ∧ x = r := by
  rw [exec_ofExcept, Prod.mk.injEq] at h
  exact ⟨h.2.symm, h.1⟩

/-- A sequence runs its second half only if the first one returned. -/
theorem exec_bind (m : Effect ε σ α) (f : α → Effect ε σ β) (s : σ) :
    exec (m >>= f) s = match exec m s with
      | (.ok a, s') => exec (f a) s'
      | (.error e, s') => (.error e, s') := by
  change exec (ExceptT.bind m f) s = _
  simp only [exec, ExceptT.bind, ExceptT.run, ExceptT.mk, StateT.run]
  change ((ExceptT.bindCont f) (m s).1 (m s).2) = _
  rcases m s with ⟨r, s'⟩
  cases r <;> rfl

theorem exec_map (f : α → β) (m : Effect ε σ α) (s : σ) :
    exec (f <$> m) s = ((exec m s).1.map f, (exec m s).2) := by
  rw [← bind_pure_comp, exec_bind]
  rcases exec m s with ⟨r, s'⟩
  cases r <;> rfl

@[simp] theorem exec_look_bind (f : σ → α) (k : α → Effect ε σ β) (s : σ) :
    exec (look f >>= k) s = exec (k (f s)) s := by
  rw [exec_bind, exec_look]

theorem exec_ofExcept_bind (x : Except ε α) (k : α → Effect ε σ β) (s : σ) :
    exec (ofExcept x >>= k) s = match x with
      | .ok a => exec (k a) s
      | .error e => (.error e, s) := by
  rw [exec_bind, exec_ofExcept]
  cases x <;> rfl

/-- **A sequence that returned, taken apart.** -/
theorem exec_bind_ok {s s'' : σ} {b : β} :
    exec (m >>= f) s = (.ok b, s'') ↔
      ∃ a s', exec m s = (.ok a, s') ∧ exec (f a) s' = (.ok b, s'') := by
  rw [exec_bind]
  constructor
  · intro h
    split at h
    · rename_i a s' hm
      exact ⟨a, s', hm, h⟩
    · injection h with h _
      cases h
  · rintro ⟨a, s', hm, hf⟩
    rw [hm]
    exact hf

/-- The same for a sequence that ended in any way: it stopped in its first half, or ran both. -/
theorem exec_bind_cases {s s'' : σ} {res : Except ε β} (h : exec (m >>= f) s = (res, s'')) :
    (∃ e, exec m s = (.error e, s'') ∧ res = .error e) ∨
      ∃ a s', exec m s = (.ok a, s') ∧ exec (f a) s' = (res, s'') := by
  rw [exec_bind] at h
  split at h
  · rename_i a s' hm
    exact .inr ⟨a, s', hm, h⟩
  · rename_i e s' hm
    injection h with hres hs
    subst hs
    exact .inl ⟨e, hm, hres.symm⟩

/-- What comes after a part that returned. -/
theorem exec_bind_of_ok {a : α}
    (hm : exec m s = (.ok a, s')) : exec (m >>= f) s = exec (f a) s' := by
  rw [exec_bind, hm]

theorem exec_bind_error {e : ε}
    (hm : exec m s = (.error e, s')) : exec (m >>= f) s = (.error e, s') := by
  rw [exec_bind, hm]

theorem exec_pure_ok {a b : α} : exec (pure a : Effect ε σ α) s = (.ok b, s') ↔ a = b ∧ s = s' := by
  rw [exec_pure, Prod.mk.injEq, Except.ok.injEq]

theorem exec_throw_ne_ok {e : ε} {a : α} : exec (throw e : Effect ε σ α) s ≠ (.ok a, s') := by
  rw [exec_throw]
  intro h
  cases h

/-- An error ends a sequence. -/
theorem exec_throw_bind_ne_ok {e : ε} {b : β} :
    exec ((throw e : Effect ε σ α) >>= k) s ≠ (.ok b, s') := by
  intro h
  obtain ⟨a, s₁, h, -⟩ := exec_bind_ok.mp h
  exact exec_throw_ne_ok h

/-- A part of the result, for the runs that return one that has it. On a closed computation
this can be evaluated, also where results cannot be compared. -/
def observe (part : α → Option β) (m : Effect ε σ α) (s : σ) : Option β :=
  match (exec m s).1 with
  | .ok a => part a
  | .error _ => none

theorem exec_of_observe {part : α → Option β} {s : σ} {b : β}
    (h : observe part m s = some b) : ∃ a, exec m s = (.ok a, (exec m s).2) ∧ part a = some b := by
  unfold observe at h
  rcases hrun : exec m s with ⟨r, s'⟩
  rw [hrun] at h
  cases r with
  | error e => cases h
  | ok a => exact ⟨a, rfl, h⟩

/-! ## Pure values that may be errors -/

theorem bind_ok {f : α → Except ε β} {b : β} :
    (x >>= f) = .ok b ↔ ∃ a, x = .ok a ∧ f a = .ok b := by
  constructor
  · intro h
    cases x with
    | error e => cases h
    | ok a => exact ⟨a, rfl, h⟩
  · rintro ⟨a, rfl, hf⟩
    exact hf

theorem bind_error {f : α → Except ε β} {e : ε} (h : (x >>= f) = .error e) :
    x = .error e ∨ ∃ a, x = .ok a ∧ f a = .error e := by
  cases x with
  | error e' =>
      cases h
      exact .inl rfl
  | ok a => exact .inr ⟨a, rfl, h⟩

theorem map_ok {f : α → β} {b : β} : f <$> x = .ok b ↔ ∃ a, x = .ok a ∧ f a = b := by
  cases x with
  | error e =>
      constructor
      · intro h
        cases h
      · rintro ⟨a, ha, -⟩
        cases ha
  | ok a =>
      constructor
      · intro h
        cases h
        exact ⟨a, rfl, rfl⟩
      · rintro ⟨a', ha, rfl⟩
        cases ha
        rfl

/-- Renaming errors makes nothing succeed. -/
theorem mapError_ok {f : ε → ε'} {a : α} : x.mapError f = .ok a ↔ x = .ok a := by
  cases x with
  | error e =>
      constructor
      · intro h
        cases h
      · intro h
        cases h
  | ok b =>
      change Except.ok b = Except.ok a ↔ _
      rw [Except.ok.injEq, Except.ok.injEq]

/-! ## Computations on a part of the state -/

/-- Run a computation on a part of a larger state, with its errors as errors of the larger one. -/
def zoom (get : τ → σ) (set : τ → σ → τ) (wrap : ε → ε') (m : Effect ε σ α) : Effect ε' τ α :=
  ExceptT.mk fun t => ((exec m (get t)).1.mapError wrap, set t (exec m (get t)).2)

@[simp] theorem exec_zoom (get : τ → σ) (set : τ → σ → τ) (wrap : ε → ε') (m : Effect ε σ α)
    (t : τ) :
    exec (zoom get set wrap m) t
      = ((exec m (get t)).1.mapError wrap, set t (exec m (get t)).2) := rfl

/-! ## Carrying on after an error -/

/-- Carry on after an error, with nothing to show for it. -/
def orNone (m : Effect ε σ (Option α)) : Effect ε' σ (Option α) :=
  ExceptT.mk fun s => (.ok (exec m s).1.toOption.join, (exec m s).2)

@[simp] theorem exec_orNone (m : Effect ε σ (Option α)) (s : σ) :
    exec (orNone m : Effect ε' σ (Option α)) s = (.ok (exec m s).1.toOption.join, (exec m s).2) :=
  rfl

theorem toOption_join {x : Except ε (Option α)} {a : α} :
    x.toOption.join = some a ↔ x = .ok (some a) := by
  rcases x with e | _ | b
  · exact ⟨nofun, nofun⟩
  · exact ⟨nofun, nofun⟩
  · simp [Except.toOption]

/-! ## Parts of the state that are left alone -/

/-- The part `f` of the state is the same after the run, however it ended. -/
def Keeps (f : σ → γ) (m : Effect ε σ α) : Prop := ∀ s, f (exec m s).2 = f s

theorem keeps_pure (f : σ → γ) (a : α) : Keeps f (pure a : Effect ε σ α) := fun _ => rfl

theorem keeps_throw (f : σ → γ) (e : ε) : Keeps f (throw e : Effect ε σ α) := fun _ => rfl

theorem keeps_look (f : σ → γ) (g : σ → α) : Keeps f (look g : Effect ε σ α) := fun _ => rfl

theorem keeps_ofExcept (f : σ → γ) (x : Except ε α) : Keeps f (ofExcept x : Effect ε σ α) := by
  intro s; rw [exec_ofExcept]

theorem keeps_zoom {f : τ → γ} {get : τ → σ} {set : τ → σ → τ} (h : ∀ t s, f (set t s) = f t)
    (wrap : ε → ε') (m : Effect ε σ α) : Keeps f (zoom get set wrap m) := fun t => h t _

theorem Keeps.bind {f : σ → γ} (hm : Keeps f m) (hk : ∀ a, Keeps f (k a)) : Keeps f (m >>= k) := by
  intro s
  have h := hm s
  rw [exec_bind]
  split
  · rename_i a s' he
    rw [he] at h
    rw [hk a s', h]
  · rename_i e s' he
    rw [he] at h
    exact h

theorem Keeps.comp {f : σ → γ} (h : Keeps f m) (g : γ → β) :
    Keeps (fun s => g (f s)) m := fun s => congrArg g (h s)

/-- What is kept is kept on the runs that return, in particular. -/
theorem Keeps.of_exec {f : σ → γ} (hm : Keeps f m) {r : Except ε α}
    (he : exec m s = (r, s')) : f s' = f s := by
  have h := hm s
  rwa [he] at h

/-! ## Logs that only grow -/

/-- The run from `s` extends `log`, however it ends, and only by entries that satisfy `P`. -/
def Appends (log : σ → List γ) (P : γ → Prop) (m : Effect ε σ α) (s : σ) : Prop :=
  ∃ new, log (exec m s).2 = log s ++ new ∧ ∀ x ∈ new, P x

theorem Appends.of_keeps {log : σ → List γ} {P : γ → Prop} (h : Keeps log m)
    (s : σ) : Appends log P m s :=
  ⟨[], by rw [h s, List.append_nil], by simp⟩

/-- The second half need only be considered where the first half returns to it. -/
theorem Appends.bind {log : σ → List γ} {P : γ → Prop} {s : σ} (hm : Appends log P m s)
    (hk : ∀ a s', exec m s = (.ok a, s') → Appends log P (k a) s') : Appends log P (m >>= k) s := by
  obtain ⟨new, hnew, hP⟩ := hm
  unfold Appends
  rw [exec_bind]
  split
  · rename_i a s' he
    rw [he] at hnew
    obtain ⟨more, hmore, hP'⟩ := hk a s' he
    refine ⟨new ++ more, by rw [hmore, hnew, List.append_assoc], ?_⟩
    intro x hx
    rcases List.mem_append.mp hx with h | h
    · exact hP x h
    · exact hP' x h
  · rename_i e s' he
    rw [he] at hnew
    exact ⟨new, hnew, hP⟩

end Effect
