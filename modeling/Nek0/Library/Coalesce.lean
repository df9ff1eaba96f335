import Mathlib.Data.List.Perm.Basic

/-!
# Coalescing a queue of commands

Commands act on a state. A queue that overwrites an older command by a newer one
runs the newer command earlier than it was issued and the older one not at all.
The result of running the queue is kept when the newer command makes the older
one redundant and commutes with everything that stands between the two. A newer
command that only repeats the older one asks for less of what stands between:
that it does not undo what the two have settled.
-/

namespace Nek0.Library

variable {C S : Type*} (act : C → S → S)

/-- Runs a list of commands, oldest first. -/
def runAll (cs : List C) (s : S) : S := cs.foldl (fun s c => act c s) s

@[simp] theorem runAll_nil (s : S) : runAll act [] s = s := rfl

@[simp] theorem runAll_cons (c : C) (cs : List C) (s : S) :
    runAll act (c :: cs) s = runAll act cs (act c s) := rfl

@[simp] theorem runAll_append (cs ds : List C) (s : S) :
    runAll act (cs ++ ds) s = runAll act ds (runAll act cs s) := by
  simp [runAll]

/-- The two commands may be exchanged. -/
def Commutes (c d : C) : Prop := ∀ s, act c (act d s) = act d (act c s)

/-- After `c`, it makes no difference whether `d` was run before it. -/
def Absorbs (c d : C) : Prop := ∀ s, act c (act d s) = act c s

/-- What `c` has settled stays settled when `d` is run. -/
def Keeps (c d : C) : Prop := ∀ s, act c s = s → act c (act d s) = act d s

theorem Commutes.keeps {c d : C} (commutes : Commutes act c d) : Keeps act c d :=
  fun s settled => by rw [commutes s, settled]

theorem runAll_commutes {c : C} {cs : List C} (free : ∀ d ∈ cs, Commutes act c d) (s : S) :
    act c (runAll act cs s) = runAll act cs (act c s) := by
  induction cs generalizing s with
  | nil => rfl
  | cons d ds ih =>
    simp only [List.forall_mem_cons] at free
    rw [runAll_cons, runAll_cons, ih free.2, free.1 s]

/-- Overwriting `old` by `new` in place has the result of issuing `new` last. -/
theorem runAll_overwrite {old new : C} {older between : List C}
    (redundant : Absorbs act new old) (free : ∀ d ∈ between, Commutes act new d) (s : S) :
    runAll act (older ++ new :: between) s = runAll act (older ++ old :: between ++ [new]) s := by
  simp only [runAll_append, runAll_cons, runAll_nil]
  rw [runAll_commutes act free, redundant]

theorem runAll_keeps {c : C} {cs : List C} (kept : ∀ d ∈ cs, Keeps act c d) {s : S}
    (settled : act c s = s) : act c (runAll act cs s) = runAll act cs s := by
  induction cs generalizing s with
  | nil => exact settled
  | cons d ds ih =>
    simp only [List.forall_mem_cons] at kept
    exact ih kept.2 (kept.1 s settled)

/-- Overwriting `old` by a repetition `new` in place has the result of issuing
the repetition last. -/
theorem runAll_repeat {old new : C} {older between : List C}
    (same : ∀ s, act new s = act old s) (redundant : Absorbs act new old)
    (kept : ∀ d ∈ between, Keeps act new d) (s : S) :
    runAll act (older ++ new :: between) s = runAll act (older ++ old :: between ++ [new]) s := by
  have settled : act new (act old (runAll act older s)) = act old (runAll act older s) := by
    rw [redundant, same]
  simp only [runAll_append, runAll_cons, runAll_nil]
  rw [same, runAll_keeps act kept settled]

/-- Splits a list at the first element that a test accepts. -/
theorem split_of_findIdx? {p : C → Bool} {cs : List C} {i : Nat}
    (found : cs.findIdx? p = some i) :
    ∃ older old between, cs = older ++ old :: between ∧ older.length = i ∧ p old = true := by
  rw [List.findIdx?_eq_some_iff_getElem] at found
  obtain ⟨inside, accepted, _⟩ := found
  refine ⟨cs.take i, cs[i], cs.drop (i + 1), ?_, by simp; omega, accepted⟩
  rw [← List.drop_eq_getElem_cons inside, List.take_append_drop]

/-- An element that is replaced in its place is put elsewhere, and the new one is added. -/
theorem replaced_perm (before after older between : List C) (old new : C) :
    (before ++ [old] ++ after ++ (older ++ new :: between)).Perm
      (before ++ after ++ (older ++ old :: between) ++ [new]) := by
  classical
  rw [List.perm_iff_count]
  intro c
  simp only [List.count_append, List.count_cons, List.count_nil]
  omega

/-- The front of one list goes to the end of another. -/
theorem front_moved_perm (before middle after rest : List C) (front : C) :
    (before ++ [front] ++ middle ++ after ++ rest).Perm
      (before ++ middle ++ after ++ front :: rest) := by
  classical
  rw [List.perm_iff_count]
  intro c
  simp only [List.count_append, List.count_cons, List.count_nil]
  omega

/-- An element and the list without it. -/
theorem erased_perm {cs : List C} {i : Nat} {c : C} (found : cs[i]? = some c) :
    cs.Perm (c :: cs.eraseIdx i) := by
  obtain ⟨inside, rfl⟩ := List.getElem?_eq_some_iff.mp found
  exact (List.getElem_cons_eraseIdx_perm inside).symm

end Nek0.Library
