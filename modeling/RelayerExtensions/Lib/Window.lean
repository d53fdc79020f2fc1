import Mathlib.Data.List.Basic
import Mathlib.Data.List.Pairwise

/-!
# A sliding window

The instants less than some width before the present one, out of a list in ascending order.
Looking at them again later is the same as looking at all instants then (`recent_recent`), so
nothing is lost by forgetting the others. The window holds as many instants as some last ones
are exactly if these are within the width (`le_length_recent_iff`). It never holds many if
they come slowly (`length_recent_lt`).
-/

namespace Window

/-- The instants less than the width before `t`. -/
def recent (width t : Nat) (ts : List Nat) : List Nat := ts.filter fun s => t - s < width

/-- The time between the first instant and the last. -/
def span (ts : List Nat) : Nat := ts.getLast?.getD 0 - ts.head?.getD 0

variable {width t : Nat}

theorem recent_append (ts us : List Nat) :
    recent width t (ts ++ us) = recent width t ts ++ recent width t us :=
  List.filter_append ts us

theorem recent_self (h : 0 < width) : recent width t [t] = [t] := by
  simp [recent, h]

theorem recent_recent {t' : Nat} (h : t ≤ t') (ts : List Nat) :
    recent width t' (recent width t ts) = recent width t' ts := by
  unfold recent
  rw [List.filter_filter]
  refine List.filter_congr fun s _ => ?_
  by_cases hs : t' - s < width
  · have hs' : t - s < width := by omega
    simp [hs, hs']
  · simp [hs]

/-- Later instants are in the window if an earlier one is. -/
theorem recent_of_le {s : Nat} {ts : List Nat} (hs : t - s < width) (h : ∀ u ∈ ts, s ≤ u) :
    recent width t ts = ts := by
  refine List.filter_eq_self.mpr fun u hu => decide_eq_true ?_
  have hle := h u hu
  omega

/-- Earlier instants are out of the window if a later one is. -/
theorem recent_of_ge {s : Nat} {ts : List Nat} (hs : width ≤ t - s) (h : ∀ u ∈ ts, u ≤ s) :
    recent width t ts = [] := by
  refine List.filter_eq_nil_iff.mpr fun u hu => ?_
  have hle := h u hu
  rw [decide_eq_true_eq]
  omega

/-- The window holds all of them. -/
theorem length_recent_eq_iff (ts : List Nat) :
    (recent width t ts).length = ts.length ↔ ∀ s ∈ ts, t - s < width := by
  unfold recent
  rw [List.length_filter_eq_length_iff]
  simp only [decide_eq_true_eq]

/-- **The window holds as many instants as the last ones are if these take less than it.** -/
theorem le_length_recent_iff {ts us : List Nat} (hlast : us.getLast? = some t)
    (hsorted : (ts ++ us).Pairwise (· ≤ ·)) :
    us.length ≤ (recent width t (ts ++ us)).length ↔ span us < width := by
  obtain ⟨-, hus, hbefore⟩ := List.pairwise_append.mp hsorted
  cases us with
  | nil => cases hlast
  | cons first rest =>
      have hspan : span (first :: rest) = t - first := by
        rw [span, hlast, List.head?_cons, Option.getD_some, Option.getD_some]
      have hrest := (List.pairwise_cons.mp hus).1
      rw [hspan, recent_append, List.length_append]
      constructor
      · intro hle
        by_contra hout
        -- neither the first nor any before it is in the window
        have hout : width ≤ t - first := Nat.le_of_not_lt hout
        have hts : recent width t ts = [] :=
          recent_of_ge hout fun u hu => hbefore u hu first List.mem_cons_self
        have hfirst : recent width t [first] = [] :=
          recent_of_ge hout fun u hu => Nat.le_of_eq (List.mem_singleton.mp hu)
        have hlen : (recent width t rest).length ≤ rest.length := List.length_filter_le _ rest
        rw [hts, ← List.singleton_append, recent_append, hfirst] at hle
        simp only [List.length_nil, List.nil_append, List.length_append,
          List.length_singleton] at hle
        omega
      · intro hin
        have hall : recent width t (first :: rest) = first :: rest := by
          refine recent_of_le hin fun u hu => ?_
          rcases List.mem_cons.mp hu with rfl | hu
          · exact Nat.le_refl u
          · exact hrest u hu
        rw [hall]
        exact Nat.le_add_left _ _

/-- Instants with gaps between them take time. -/
theorem gaps_le_span {gap : Nat} : ∀ {ts : List Nat},
    ts.Pairwise (fun s u => s + gap ≤ u) → (ts.length - 1) * gap ≤ span ts
  | [], _ => by
      rw [List.length_nil, Nat.zero_sub, Nat.zero_mul]
      exact Nat.zero_le _
  | [s], _ => by
      rw [List.length_singleton, Nat.sub_self, Nat.zero_mul]
      exact Nat.zero_le _
  | s :: u :: ts, h => by
      obtain ⟨hs, htail⟩ := List.pairwise_cons.mp h
      have hfirst := hs u List.mem_cons_self
      have ih := gaps_le_span htail
      obtain ⟨t, ht⟩ : ∃ t, (u :: ts).getLast? = some t :=
        ⟨_, List.getLast?_eq_some_getLast (List.cons_ne_nil u ts)⟩
      have hle : u ≤ t := by
        rcases List.mem_cons.mp (List.mem_of_getLast? ht) with rfl | hmem
        · exact Nat.le_refl t
        · have := (List.pairwise_cons.mp htail).1 t hmem
          omega
      simp only [span, List.getLast?_cons_cons, ht, List.head?_cons, Option.getD_some,
        List.length_cons, Nat.add_sub_cancel] at ih ⊢
      rw [Nat.succ_mul]
      omega

/-- **Where `n` instants take the whole window, it never holds as many.** -/
theorem length_recent_lt {gap n : Nat} {ts : List Nat} (hlast : ts.getLast? = some t)
    (h : ts.Pairwise fun s u => s + gap ≤ u) (hn : 0 < n) (hslow : width ≤ (n - 1) * gap) :
    (recent width t ts).length < n := by
  by_contra hge
  have hge : n ≤ (recent width t ts).length := Nat.le_of_not_lt hge
  have hlen : n ≤ ts.length := Nat.le_trans hge (List.length_filter_le _ ts)
  -- the last `n` instants would have to be within the width, but the gaps add up to more
  have hsplit := List.take_append_drop (ts.length - n) ts
  have hdrop : (ts.drop (ts.length - n)).length = n := by
    rw [List.length_drop]
    omega
  have hlast' : (ts.drop (ts.length - n)).getLast? = some t := by
    rw [← hsplit, List.getLast?_append_of_ne_nil] at hlast
    · exact hlast
    · refine List.ne_nil_of_length_pos ?_
      rwa [hdrop]
  have hgaps : (ts.drop (ts.length - n)).Pairwise fun s u => s + gap ≤ u :=
    h.sublist (List.drop_sublist _ ts)
  have hsorted : (ts.take (ts.length - n) ++ ts.drop (ts.length - n)).Pairwise (· ≤ ·) := by
    rw [hsplit]
    exact h.imp fun hle => Nat.le_trans (Nat.le_add_right _ _) hle
  have hspan : span (ts.drop (ts.length - n)) < width := by
    refine (le_length_recent_iff hlast' hsorted).mp ?_
    rwa [hsplit, hdrop]
  have hgap := gaps_le_span hgaps
  rw [hdrop] at hgap
  omega

end Window
