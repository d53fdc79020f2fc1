import Mathlib.Data.List.Nodup
import Mathlib.Data.List.Basic

/-!
# Tables whose rows are changed by key

A table is a list of rows, each with a key. `update` is the statement
`UPDATE .. SET f WHERE key = k`: it changes every row with the key and leaves the
others where they are. `sweep` is a loop over rows read earlier that issues one
such statement for each of them, as a clean-up pass does.

Where keys are unique a sweep over rows of the table itself comes to one `map`:
every row is changed by what was decided about that very row (`sweep_rows`).

`collect` groups a list by key, as one does with a map from keys to lists: each group is what the
list holds under its key, in the list's order (`mem_collect`).
-/

namespace Rows

variable {ρ κ : Type} [DecidableEq κ] {key : ρ → κ}

def update (key : ρ → κ) (k : κ) (f : ρ → ρ) (rows : List ρ) : List ρ :=
  rows.map fun r => if key r = k then f r else r

theorem mem_update {k : κ} {f : ρ → ρ} {rows : List ρ} {r' : ρ} :
    r' ∈ update key k f rows ↔ ∃ r ∈ rows, (if key r = k then f r else r) = r' :=
  List.mem_map

/-- What becomes of a row. -/
theorem mem_update_of_mem {k : κ} {f : ρ → ρ} {rows : List ρ} {r : ρ} (hr : r ∈ rows) :
    (if key r = k then f r else r) ∈ update key k f rows :=
  mem_update.mpr ⟨r, hr, rfl⟩

theorem map_key_update {k : κ} {f : ρ → ρ} (hf : ∀ r, key (f r) = key r) (rows : List ρ) :
    (update key k f rows).map key = rows.map key := by
  rw [update, List.map_map]
  refine List.map_congr_left fun r _ => ?_
  rw [Function.comp_apply]
  split
  · exact hf r
  · rfl

omit [DecidableEq κ] in
/-- A row with a key of its own can be added. -/
theorem nodup_key_append {r : ρ} {rows : List ρ} (hnd : (rows.map key).Nodup)
    (hnew : key r ∉ rows.map key) : ((rows ++ [r]).map key).Nodup := by
  rw [List.map_append, List.nodup_append']
  refine ⟨hnd, List.nodup_singleton _, fun k hk hr => ?_⟩
  rw [List.mem_singleton.mp hr] at hk
  exact hnew hk

/-! ## Sweeps -/

/-- One statement after the other: for each row `w` of the list, `act w` is applied to the rows
with its key. -/
def sweep (key : ρ → κ) (act : ρ → ρ → ρ) (ws rows : List ρ) : List ρ :=
  ws.foldl (fun rows w => update key (key w) (act w) rows) rows

@[simp] theorem sweep_cons (act : ρ → ρ → ρ) (w : ρ) (ws rows : List ρ) :
    sweep key act (w :: ws) rows = sweep key act ws (update key (key w) (act w) rows) := rfl

/-- A sweep leaves the keys alone. -/
theorem map_key_sweep {act : ρ → ρ → ρ} (hact : ∀ w r, key (act w r) = key r) (ws rows : List ρ) :
    (sweep key act ws rows).map key = rows.map key := by
  induction ws generalizing rows with
  | nil => rfl
  | cons w ws ih => rw [sweep_cons, ih, map_key_update (hact w)]

/-- **A sweep over rows of the table.** -/
theorem sweep_rows {act : ρ → ρ → ρ} (hact : ∀ w r, key (act w r) = key r) {ws rows : List ρ}
    (hnd : (rows.map key).Nodup) (hws : (ws.map key).Nodup) (hsub : ∀ w ∈ ws, w ∈ rows) :
    sweep key act ws rows = rows.map fun r => if key r ∈ ws.map key then act r r else r := by
  -- the rows still to be treated are untouched so far; `done` says what became of the others
  suffices h : ∀ (ws : List ρ) (f : ρ → ρ), (ws.map key).Nodup → (∀ w ∈ ws, w ∈ rows) →
      (∀ r, key (f r) = key r) → (∀ w ∈ ws, f w = w) →
      sweep key act ws (rows.map f)
        = rows.map fun r => if key r ∈ ws.map key then act r r else f r by
    have := h ws id hws hsub (fun _ => rfl) fun _ _ => rfl
    simpa using this
  intro ws
  induction ws with
  | nil =>
      intro f _ _ _ _
      simp [sweep]
  | cons w ws ih =>
      intro f hws hsub hkey hf
      obtain ⟨hw, hws⟩ := List.nodup_cons.mp hws
      have hwr : w ∈ rows := hsub w List.mem_cons_self
      have hstep : update key (key w) (act w) (rows.map f)
          = rows.map fun r => if key r = key w then act r r else f r := by
        rw [update, List.map_map]
        refine List.map_congr_left fun r hr => ?_
        rw [Function.comp_apply, hkey]
        by_cases hk : key r = key w
        · obtain rfl := List.inj_on_of_nodup_map hnd hr hwr hk
          rw [if_pos rfl, if_pos rfl, hf r List.mem_cons_self]
        · rw [if_neg hk, if_neg hk]
      rw [sweep_cons, hstep, ih _ hws (fun v hv => hsub v (List.mem_cons_of_mem w hv))]
      · refine List.map_congr_left fun r _ => ?_
        simp only [List.map_cons, List.mem_cons]
        by_cases hk : key r = key w
        · rw [if_neg (hk ▸ hw), if_pos hk, if_pos (.inl hk)]
        · by_cases hm : key r ∈ ws.map key
          · rw [if_pos hm, if_pos (.inr hm)]
          · rw [if_neg hm, if_neg hk, if_neg (not_or.mpr ⟨hk, hm⟩)]
      · intro r
        split
        · exact hact r r
        · exact hkey r
      · intro v hv
        have hne : key v ≠ key w := fun h => hw (h ▸ List.mem_map_of_mem hv)
        rw [if_neg hne, hf v (List.mem_cons_of_mem w hv)]

/-! ## Groups -/

section Groups

variable {α : Type}

/-- Appends to the list kept under a key. -/
def push (groups : List (κ × List α)) (k : κ) (x : α) : List (κ × List α) :=
  if k ∈ groups.map Prod.fst then update Prod.fst k (fun g => (g.1, g.2 ++ [x])) groups
  else groups ++ [(k, [x])]

/-- Groups by key; what has no key is left out. -/
def collect (key : α → Option κ) (xs : List α) : List (κ × List α) :=
  xs.foldl (fun groups x =>
    match key x with
    | none => groups
    | some k => push groups k x) []

/-- What the groups of a list look like: every key that occurs has one, and each holds what the
list holds under its key. -/
structure Grouped (key : α → Option κ) (xs : List α) (groups : List (κ × List α)) : Prop where
  keys : ∀ x ∈ xs, ∀ k, key x = some k → k ∈ groups.map Prod.fst
  content : ∀ g ∈ groups, g.2 = xs.filter fun x => key x = some g.1

theorem Grouped.skip {key : α → Option κ} {xs : List α} {groups : List (κ × List α)}
    (h : Grouped key xs groups) {x : α} (hx : key x = none) : Grouped key (xs ++ [x]) groups where
  keys y hy k hk := by
    rcases List.mem_append.mp hy with hy | hy
    · exact h.keys y hy k hk
    · rw [List.mem_singleton.mp hy, hx] at hk
      cases hk
  content g hg := by
    rw [h.content g hg, List.filter_append]
    simp [hx]

theorem Grouped.push {key : α → Option κ} {xs : List α} {groups : List (κ × List α)}
    (h : Grouped key xs groups) {x : α} {k : κ} (hx : key x = some k) :
    Grouped key (xs ++ [x]) (push groups k x) := by
  have hold : ∀ g ∈ groups, g.1 ≠ k → g.2 = (xs ++ [x]).filter fun y => key y = some g.1 := by
    intro g hg hne
    rw [h.content g hg, List.filter_append]
    simp [hx, Ne.symm hne]
  unfold Rows.push
  split
  · rename_i hk
    have hkeys : (update Prod.fst k (fun g => (g.1, g.2 ++ [x])) groups).map Prod.fst =
        groups.map Prod.fst := map_key_update (by simp) groups
    constructor
    · intro y hy k' hk'
      rw [hkeys]
      rcases List.mem_append.mp hy with hy | hy
      · exact h.keys y hy k' hk'
      · rw [List.mem_singleton.mp hy, hx, Option.some.injEq] at hk'
        exact hk' ▸ hk
    · intro g' hg'
      obtain ⟨g, hg, rfl⟩ := mem_update.mp hg'
      split
      · rename_i hgk
        simp [h.content g hg, hgk, hx]
      · rename_i hgk
        exact hold g hg hgk
  · rename_i hk
    have hnone : xs.filter (fun y => key y = some k) = [] :=
      List.filter_eq_nil_iff.mpr fun y hy hyk => hk (h.keys y hy k (by simpa using hyk))
    constructor
    · intro y hy k' hk'
      rw [List.map_append, List.mem_append]
      rcases List.mem_append.mp hy with hy | hy
      · exact .inl (h.keys y hy k' hk')
      · rw [List.mem_singleton.mp hy, hx, Option.some.injEq] at hk'
        exact .inr (by simp [hk'])
    · intro g hg
      rcases List.mem_append.mp hg with hg | hg
      · refine hold g hg fun hgk => hk (hgk ▸ List.mem_map_of_mem hg)
      · rw [List.mem_singleton.mp hg]
        simp [List.filter_append, hnone, hx]

theorem grouped_collect (key : α → Option κ) (xs : List α) : Grouped key xs (collect key xs) := by
  suffices h : ∀ (ys done : List α) (groups : List (κ × List α)), Grouped key done groups →
      Grouped key (done ++ ys) (ys.foldl (fun groups x =>
        match key x with
        | none => groups
        | some k => Rows.push groups k x) groups) from
    h xs [] [] ⟨by simp, by simp⟩
  intro ys
  induction ys with
  | nil =>
      intro done groups h
      rwa [List.append_nil]
  | cons y ys ih =>
      intro done groups h
      rw [List.append_cons, List.foldl_cons]
      refine ih (done ++ [y]) _ ?_
      cases hy : key y with
      | none => exact h.skip hy
      | some k => exact h.push hy

/-- **A group is what the list holds under its key.** -/
theorem mem_collect {key : α → Option κ} {xs : List α} {g : κ × List α}
    (hg : g ∈ collect key xs) : g.2 = xs.filter fun x => key x = some g.1 :=
  (grouped_collect key xs).content g hg

end Groups

end Rows
