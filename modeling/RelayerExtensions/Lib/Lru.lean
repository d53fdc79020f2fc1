import Mathlib.Data.List.Dedup
import Mathlib.Data.List.Induction
import Mathlib.Data.List.Nodup

/-!
# A cache of keys that forgets the least recently used one

What such a cache of capacity `cap` holds is a matter of the puts alone: the last `cap` different
keys that were put. So a key is there exactly if it was put, and fewer than `cap` different other
keys were put after it (`Within`). That is all that is assumed of a cache (`Lib`); asking whether
a key is there changes nothing.

A list of keys, the most recent one first, is such a cache (`Lib.keyList`). Putting a key makes it
the most recent; a list that would grow beyond the capacity loses its last key.
-/

namespace Lru

variable {α : Type} [DecidableEq α] {cap : Nat}

structure KeyList (α : Type) (cap : Nat) where
  keys : List α
  nodup : keys.Nodup
  length_le : keys.length ≤ cap

def KeyList.empty : KeyList α cap := ⟨[], List.nodup_nil, Nat.zero_le cap⟩

/-- The key is the most recent one now. -/
def promote (keys : List α) (k : α) : List α := k :: keys.erase k

theorem nodup_promote {keys : List α} (h : keys.Nodup) (k : α) : (promote keys k).Nodup :=
  List.nodup_cons.mpr ⟨h.not_mem_erase, h.erase k⟩

theorem mem_promote {keys : List α} {k x : α} : x ∈ promote keys k ↔ x = k ∨ x ∈ keys := by
  rw [promote, List.mem_cons]
  by_cases hx : x = k
  · exact iff_of_true (.inl hx) (.inl hx)
  · rw [List.mem_erase_of_ne hx]

def KeyList.put (c : KeyList α cap) (k : α) : KeyList α cap where
  keys := (promote c.keys k).take cap
  nodup := (nodup_promote c.nodup k).take
  length_le := List.length_take_le cap _

def KeyList.putAll (c : KeyList α cap) (ks : List α) : KeyList α cap := ks.foldl KeyList.put c

theorem KeyList.putAll_append (c : KeyList α cap) (ks ls : List α) :
    c.putAll (ks ++ ls) = (c.putAll ks).putAll ls := List.foldl_append

/-! ## The different keys of a list, the most recent one first -/

/-- The different keys of a list of puts, the oldest put first in the list. -/
def recent (ks : List α) : List α := ks.foldl promote []

theorem recent_concat (ks : List α) (k : α) : recent (ks ++ [k]) = promote (recent ks) k := by
  rw [recent, List.foldl_append]
  rfl

theorem nodup_recent (ks : List α) : (recent ks).Nodup := by
  induction ks using List.reverseRecOn with
  | nil => exact List.nodup_nil
  | append_singleton ks k ih =>
      rw [recent_concat]
      exact nodup_promote ih k

theorem mem_recent {ks : List α} {x : α} : x ∈ recent ks ↔ x ∈ ks := by
  induction ks using List.reverseRecOn with
  | nil => exact Iff.rfl
  | append_singleton ks k ih =>
      rw [recent_concat, mem_promote, ih, List.mem_append, List.mem_singleton, or_comm]

theorem length_recent (ks : List α) : (recent ks).length = ks.dedup.length := by
  have hperm : (recent ks).Perm ks.dedup := by
    rw [List.perm_ext_iff_of_nodup (nodup_recent ks) (List.nodup_dedup ks)]
    intro x
    rw [mem_recent, List.mem_dedup]
  exact hperm.length_eq

/-- The keys put after the last put of `k` are the ones before it in the cache. -/
theorem recent_of_last_put (before : List α) {after : List α} {k : α} (hk : k ∉ after) :
    ∃ older, recent (before ++ k :: after) = recent after ++ k :: older := by
  induction after using List.reverseRecOn with
  | nil =>
      refine ⟨(recent before).erase k, ?_⟩
      rw [recent_concat]
      rfl
  | append_singleton after x ih =>
      rw [List.mem_append, not_or, List.mem_singleton] at hk
      obtain ⟨older, hrecent⟩ := ih hk.1
      have hlast : recent (before ++ k :: (after ++ [x])) =
          promote (recent after ++ k :: older) x := by
        rw [← List.cons_append, ← List.append_assoc, recent_concat, hrecent]
      rw [hlast, recent_concat]
      by_cases hx : x ∈ recent after
      · refine ⟨older, ?_⟩
        rw [promote, List.erase_append_left _ hx]
        rfl
      · refine ⟨older.erase x, ?_⟩
        have hkx : ¬ (k == x) = true := by rw [beq_iff_eq]; exact hk.2
        rw [promote, List.erase_append_right _ hx, List.erase_cons_tail hkx, promote,
          List.erase_of_not_mem hx]
        rfl

/-! ## What the cache holds -/

/-- Forgetting what does not fit before a key is promoted, or after it. -/
theorem take_promote_take (keys : List α) (k : α) :
    (promote (keys.take cap) k).take cap = (promote keys k).take cap := by
  cases cap with
  | zero => rfl
  | succ n =>
      rw [promote, promote, List.take_succ_cons, List.take_succ_cons]
      congr 1
      -- within the first `n + 1` keys at most one place is given up
      induction keys generalizing n with
      | nil => rfl
      | cons x keys ih =>
          rw [List.take_succ_cons]
          by_cases hx : x = k
          · subst hx
            rw [List.erase_cons_head, List.erase_cons_head, List.take_take, Nat.min_self]
          · have hxk : ¬ (x == k) = true := by rwa [beq_iff_eq]
            rw [List.erase_cons_tail hxk, List.erase_cons_tail hxk]
            cases n with
            | zero => rfl
            | succ n => rw [List.take_succ_cons, List.take_succ_cons, ih n]

/-- **The last `cap` different keys that were put.** -/
theorem keys_putAll (ks : List α) :
    ((KeyList.empty : KeyList α cap).putAll ks).keys = (recent ks).take cap := by
  induction ks using List.reverseRecOn with
  | nil => exact List.take_nil.symm
  | append_singleton ks k ih =>
      rw [KeyList.putAll_append, recent_concat]
      change (promote ((KeyList.empty : KeyList α cap).putAll ks).keys k).take cap = _
      rw [ih, take_promote_take]

/-- The key was put, and fewer than `cap` different other keys since. -/
def Within (cap : Nat) (ks : List α) (k : α) : Prop :=
  ∃ before after, ks = before ++ k :: after ∧ k ∉ after ∧ after.dedup.length < cap

omit [DecidableEq α] in
/-- Cutting a list at the last occurrence of an element. -/
theorem exists_last {ks : List α} {k : α} (h : k ∈ ks) :
    ∃ before after, ks = before ++ k :: after ∧ k ∉ after := by
  obtain ⟨after, before, hks, hk⟩ := List.eq_append_cons_of_mem (List.mem_reverse.mpr h)
  refine ⟨before.reverse, after.reverse, ?_, fun hmem => hk (List.mem_reverse.mp hmem)⟩
  rw [← List.reverse_reverse ks, hks]
  simp

theorem mem_take_recent {before after : List α} {k : α} (hk : k ∉ after) :
    k ∈ (recent (before ++ k :: after)).take cap ↔ after.dedup.length < cap := by
  obtain ⟨older, hrecent⟩ := recent_of_last_put before hk
  have hnew : k ∉ recent after := fun h => hk (mem_recent.mp h)
  rw [hrecent, List.take_append, List.mem_append, length_recent]
  constructor
  · rintro (h | h)
    · exact absurd (List.mem_of_mem_take h) hnew
    · by_contra hle
      rw [Nat.sub_eq_zero_of_le (Nat.le_of_not_lt hle), List.take_zero] at h
      cases h
  · intro hlt
    right
    obtain ⟨n, hn⟩ : ∃ n, cap - after.dedup.length = n + 1 :=
      ⟨cap - after.dedup.length - 1, by omega⟩
    rw [hn, List.take_succ_cons]
    exact List.mem_cons_self

/-- **A key is there exactly if it was put and has not been pushed out since.** -/
theorem mem_putAll_iff {ks : List α} {k : α} :
    k ∈ ((KeyList.empty : KeyList α cap).putAll ks).keys ↔ Within cap ks k := by
  rw [keys_putAll]
  constructor
  · intro h
    obtain ⟨before, after, rfl, hk⟩ := exists_last (mem_recent.mp (List.mem_of_mem_take h))
    exact ⟨before, after, rfl, hk, (mem_take_recent hk).mp h⟩
  · rintro ⟨before, after, rfl, hk, hlt⟩
    exact (mem_take_recent hk).mpr hlt

theorem within_iff_of_last {before after : List α} {k : α} (hk : k ∉ after) :
    Within cap (before ++ k :: after) k ↔ after.dedup.length < cap := by
  rw [← mem_putAll_iff, keys_putAll, mem_take_recent hk]

instance decidableWithin (ks : List α) (k : α) : Decidable (Within cap ks k) :=
  decidable_of_iff _ mem_putAll_iff

/-- A cache, with what it has to do. -/
structure Lib (α : Type) [DecidableEq α] (cap : Nat) where
  Cache : Type
  empty : Cache
  put : Cache → α → Cache
  contains : Cache → α → Bool
  contains_iff : ∀ ks k, contains (ks.foldl put empty) k = true ↔ Within cap ks k

def Lib.keyList : Lib α cap where
  Cache := KeyList α cap
  empty := KeyList.empty
  put := KeyList.put
  contains c k := decide (k ∈ c.keys)
  contains_iff _ _ := decide_eq_true_iff.trans mem_putAll_iff

/-- As long as the keys fit, none is ever pushed out. -/
theorem within_of_mem {ks : List α} {k : α} (h : k ∈ ks) (hfits : ks.dedup.length ≤ cap) :
    Within cap ks k := by
  rw [← mem_putAll_iff, keys_putAll]
  rw [← length_recent] at hfits
  rw [List.take_of_length_le hfits]
  exact mem_recent.mpr h

end Lru
