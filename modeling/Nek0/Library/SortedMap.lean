import Mathlib.Data.List.Basic
import Mathlib.Order.Lattice

/-!
# Maps kept in the order of their keys

The entries of a map as a list with strictly ascending keys. The order is part of the map, so the
first entries are those with the smallest keys.
-/

namespace Nek0.Library

variable {κ α : Type*} [LinearOrder κ]

structure SortedMap (κ α : Type*) [LinearOrder κ] where
  entries : List (κ × α)
  ascending : entries.Pairwise fun a b => a.1 < b.1

namespace SortedMap

def empty : SortedMap κ α := ⟨[], .nil⟩

/-- The list with an entry at its place. An entry with the same key is replaced. -/
def insertEntry (k : κ) (a : α) : List (κ × α) → List (κ × α)
  | [] => [(k, a)]
  | (k', b) :: l =>
    if k < k' then (k, a) :: (k', b) :: l
    else if k = k' then (k, a) :: l
    else (k', b) :: insertEntry k a l

theorem mem_insertEntry {l : List (κ × α)} (ascending : l.Pairwise fun a b => a.1 < b.1)
    {k : κ} {a : α} {e : κ × α} :
    e ∈ insertEntry k a l ↔ e = (k, a) ∨ (e ∈ l ∧ e.1 ≠ k) := by
  induction l with
  | nil => simp [insertEntry]
  | cons head l ih =>
    obtain ⟨k', b⟩ := head
    obtain ⟨later, rest⟩ := List.pairwise_cons.mp ascending
    have behind : ∀ e ∈ l, k' < e.1 := fun e there => later e there
    simp only [insertEntry]
    split
    next before =>
      have above : ∀ e ∈ (k', b) :: l, e.1 ≠ k := by
        intro e there
        cases List.mem_cons.mp there with
        | inl first => exact first ▸ ne_of_gt before
        | inr other => exact ne_of_gt (lt_trans before (behind e other))
      rw [List.mem_cons]
      exact or_congr_right (and_iff_left_of_imp (above e)).symm
    next notBefore =>
      split
      next same =>
        subst same
        have above : ∀ e ∈ l, e.1 ≠ k := fun e there => ne_of_gt (behind e there)
        rw [List.mem_cons, List.mem_cons]
        apply or_congr_right
        constructor
        · intro there
          exact ⟨.inr there, above e there⟩
        · intro both
          cases both.1 with
          | inl first => exact absurd (congrArg Prod.fst first) both.2
          | inr there => exact there
      next other =>
        have own : ((k', b) : κ × α).1 ≠ k := fun same => other same.symm
        rw [List.mem_cons, ih rest, List.mem_cons]
        constructor
        · intro either
          rcases either with first | new | old
          · exact .inr ⟨.inl first, first ▸ own⟩
          · exact .inl new
          · exact .inr ⟨.inr old.1, old.2⟩
        · intro either
          rcases either with new | ⟨first | old, differs⟩
          · exact .inr (.inl new)
          · exact .inl first
          · exact .inr (.inr ⟨old, differs⟩)

theorem ascending_insertEntry {l : List (κ × α)} (ascending : l.Pairwise fun a b => a.1 < b.1)
    (k : κ) (a : α) : (insertEntry k a l).Pairwise fun a b => a.1 < b.1 := by
  induction l with
  | nil => exact List.pairwise_singleton _ _
  | cons head l ih =>
    obtain ⟨k', b⟩ := head
    obtain ⟨later, rest⟩ := List.pairwise_cons.mp ascending
    simp only [insertEntry]
    split
    next before =>
      apply List.pairwise_cons.mpr
      refine ⟨?_, ascending⟩
      intro e there
      cases List.mem_cons.mp there with
      | inl first => exact first ▸ before
      | inr other => exact lt_trans before (later e other)
    next notBefore =>
      split
      next same =>
        subst same
        exact List.pairwise_cons.mpr ⟨later, rest⟩
      next other =>
        apply List.pairwise_cons.mpr
        refine ⟨?_, ih rest⟩
        intro e there
        cases (mem_insertEntry rest).mp there with
        | inl new => exact new ▸ lt_of_le_of_ne (not_lt.mp notBefore) (Ne.symm other)
        | inr old => exact later e old.1

def insert (m : SortedMap κ α) (k : κ) (a : α) : SortedMap κ α :=
  ⟨insertEntry k a m.entries, ascending_insertEntry m.ascending k a⟩

def erase (m : SortedMap κ α) (k : κ) : SortedMap κ α :=
  ⟨m.entries.filter (·.1 ≠ k), m.ascending.filter _⟩

def lookup (m : SortedMap κ α) (k : κ) : Option α := (m.entries.find? (·.1 = k)).map Prod.snd

variable {m : SortedMap κ α} {k k' : κ} {a b : α} {e : κ × α}

theorem mem_insert : e ∈ (m.insert k a).entries ↔ e = (k, a) ∨ (e ∈ m.entries ∧ e.1 ≠ k) :=
  mem_insertEntry m.ascending

theorem mem_erase : e ∈ (m.erase k).entries ↔ e ∈ m.entries ∧ e.1 ≠ k := by
  simp [erase]

/-- A key has one entry. -/
theorem eq_of_mem (first : (k, a) ∈ m.entries) (second : (k, b) ∈ m.entries) : a = b := by
  have one : ∀ l : List (κ × α), l.Pairwise (fun a b => a.1 < b.1) →
      (k, a) ∈ l → (k, b) ∈ l → a = b := by
    intro l ascending first second
    induction l with
    | nil => cases first
    | cons head l ih =>
      obtain ⟨later, rest⟩ := List.pairwise_cons.mp ascending
      rcases List.mem_cons.mp first with here | there
      · rcases List.mem_cons.mp second with here' | there'
        · exact congrArg Prod.snd (here.trans here'.symm)
        · have less := later _ there'
          rw [← here] at less
          exact absurd less (lt_irrefl k)
      · rcases List.mem_cons.mp second with here' | there'
        · have less := later _ there
          rw [← here'] at less
          exact absurd less (lt_irrefl k)
        · exact ih rest there there'
  exact one m.entries m.ascending first second

theorem lookup_eq_some_iff : m.lookup k = some a ↔ (k, a) ∈ m.entries := by
  rw [lookup, Option.map_eq_some_iff]
  constructor
  · intro found
    obtain ⟨e, first, rfl⟩ := found
    have own : e.1 = k := by simpa using List.find?_some first
    have there := List.mem_of_find?_eq_some first
    rw [← own]
    exact there
  · intro there
    cases found : m.entries.find? (·.1 = k) with
    | none =>
      have missed := List.find?_eq_none.mp found _ there
      simp at missed
    | some e =>
      have own : e.1 = k := by simpa using List.find?_some found
      have also : (k, e.2) ∈ m.entries := by
        rw [← own]
        exact List.mem_of_find?_eq_some found
      exact ⟨e, rfl, eq_of_mem also there⟩

end SortedMap

end Nek0.Library
