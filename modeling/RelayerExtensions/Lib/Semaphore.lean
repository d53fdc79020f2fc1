import Mathlib.Data.List.Basic

/-!
# Semaphores

A semaphore hands out permits. Who asks for one takes it if one is available, and queues
otherwise. A permit that is added goes to whoever queues first and is kept for them until they
resume, so that it is not available in between; only if nobody queues is it available.

What a semaphore has to hand out are the permits that are available and those that are kept, its
`stock`. Permits are not given back here, so every one that was taken has left the stock. What is
assumed of a semaphore is what each operation does to these two numbers (`Lib`); one with a queue
keeps to it (`Lib.fair`).
-/

namespace Semaphore

variable {ι : Type}

/-- A semaphore, with what it has to do. -/
structure Lib (ι : Type) where
  Sem : Type
  available : Sem → Nat
  stock : Sem → Nat
  new : Nat → Sem
  /-- Takes a permit, or queues. -/
  acquire : Sem → ι → Sem × Bool
  addPermit : Sem → Sem
  /-- Takes the permit that was kept, if one was. -/
  resume : Sem → ι → Option Sem
  available_new : ∀ permits, available (new permits) = permits
  stock_new : ∀ permits, stock (new permits) = permits
  acquire_taken : ∀ {s s' i}, acquire s i = (s', true) →
    available s = available s' + 1 ∧ stock s = stock s' + 1
  acquire_queued : ∀ {s s' i}, acquire s i = (s', false) →
    available s' = available s ∧ stock s' = stock s
  available_addPermit_le : ∀ s, available (addPermit s) ≤ available s + 1
  stock_addPermit : ∀ s, stock (addPermit s) = stock s + 1
  resume_some : ∀ {s s' i}, resume s i = some s' →
    available s' = available s ∧ stock s = stock s' + 1

/-- `kept` are those who were given a permit and have not resumed since. -/
structure Queue (ι : Type) where
  available : Nat
  queue : List ι
  kept : List ι

namespace Queue

variable {s s' : Queue ι} {i : ι}

def acquire (s : Queue ι) (i : ι) : Queue ι × Bool :=
  match s.available with
  | 0 => ({ s with queue := s.queue ++ [i] }, false)
  | n + 1 => ({ s with available := n }, true)

def addPermit (s : Queue ι) : Queue ι :=
  match s.queue with
  | [] => { s with available := s.available + 1 }
  | i :: queue => { s with queue := queue, kept := i :: s.kept }

def resume [DecidableEq ι] (s : Queue ι) (i : ι) : Option (Queue ι) :=
  if i ∈ s.kept then some { s with kept := s.kept.erase i } else none

def stock (s : Queue ι) : Nat := s.available + s.kept.length

theorem acquire_taken (h : s.acquire i = (s', true)) :
    s.available = s'.available + 1 ∧ s.stock = s'.stock + 1 := by
  unfold acquire at h
  split at h
  · cases h
  · rename_i n hn
    cases h
    refine ⟨hn, ?_⟩
    unfold stock
    dsimp only
    omega

theorem acquire_queued (h : s.acquire i = (s', false)) :
    s'.available = s.available ∧ s'.stock = s.stock := by
  unfold acquire at h
  split at h
  · cases h
    exact ⟨rfl, rfl⟩
  · cases h

theorem available_addPermit_le (s : Queue ι) : s.addPermit.available ≤ s.available + 1 := by
  unfold addPermit
  split
  · exact Nat.le_refl _
  · exact Nat.le_succ _

theorem stock_addPermit (s : Queue ι) : s.addPermit.stock = s.stock + 1 := by
  unfold addPermit
  split
  · exact Nat.add_right_comm ..
  · rfl

theorem resume_some [DecidableEq ι] (h : s.resume i = some s') :
    s'.available = s.available ∧ s.stock = s'.stock + 1 := by
  unfold resume at h
  split at h
  · rename_i hmem
    cases h
    refine ⟨rfl, ?_⟩
    have hpos := List.length_pos_of_mem hmem
    have hlen := List.length_erase_of_mem hmem
    unfold stock
    dsimp only
    omega
  · cases h

end Queue

def Lib.fair [DecidableEq ι] : Lib ι where
  Sem := Queue ι
  available := Queue.available
  stock := Queue.stock
  new permits := ⟨permits, [], []⟩
  acquire := Queue.acquire
  addPermit := Queue.addPermit
  resume := Queue.resume
  available_new _ := rfl
  stock_new _ := rfl
  acquire_taken := Queue.acquire_taken
  acquire_queued := Queue.acquire_queued
  available_addPermit_le := Queue.available_addPermit_le
  stock_addPermit := Queue.stock_addPermit
  resume_some := Queue.resume_some

end Semaphore
