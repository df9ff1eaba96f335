import Mathlib.Data.List.Nodup
import Mathlib.Data.List.Perm.Basic

/-!
# Tables of entries with keys

An entry that is put into a table takes the place of those with its key. The laws are about the
entries and not about their order, so that they hold of every table that is kept in an order.
-/

namespace Nek0.Library.KeyedTable

variable {α κ : Type*} [DecidableEq κ] (key : α → κ)

def delete (l : List α) (k : κ) : List α := l.filter (key · ≠ k)

def put (l : List α) (a : α) : List α := delete key l (key a) ++ [a]

/-- The step puts an entry and arranges the table in some order. -/
def Puts (step : List α → α → List α) : Prop := ∀ l a, (step l a).Perm (put key l a)

variable {key} {step : List α → α → List α} {l l' xs : List α} {a : α} {k : κ}

theorem mem_delete : a ∈ delete key l k ↔ a ∈ l ∧ key a ≠ k := by
  simp [delete, List.mem_filter]

theorem delete_self (l : List α) (k : κ) : delete key (delete key l k) k = delete key l k := by
  simp only [delete, List.filter_filter, Bool.and_self]

theorem put_perm (same : l.Perm l') (a : α) : (put key l a).Perm (put key l' a) :=
  (same.filter _).append_right _

/-- What is deleted before an entry with its key is put was of no account. -/
theorem put_delete_self (l : List α) (a : α) : put key (delete key l (key a)) a = put key l a := by
  rw [put, put, delete_self]

theorem put_delete (l : List α) (other : key a ≠ k) :
    put key (delete key l k) a = delete key (put key l a) k := by
  simp [put, delete, List.filter_append, other, List.filter_filter, Bool.and_comm]

namespace Puts

variable (puts : Puts key step)

include puts

theorem foldl_perm (same : l.Perm l') (xs : List α) :
    (xs.foldl step l).Perm (xs.foldl step l') := by
  induction xs generalizing l l' with
  | nil => exact same
  | cons a xs ih => exact ih (((puts l a).trans (put_perm same a)).trans (puts l' a).symm)

theorem exists_key_foldl (xs : List α) :
    (∃ a ∈ xs.foldl step l, key a = k) ↔ (∃ a ∈ l, key a = k) ∨ ∃ a ∈ xs, key a = k := by
  induction xs generalizing l with
  | nil => simp
  | cons a xs ih =>
    have one : (∃ b ∈ step l a, key b = k) ↔ (∃ b ∈ l, key b = k) ∨ key a = k := by
      simp only [(puts l a).mem_iff, put, List.mem_append, mem_delete, List.mem_singleton]
      constructor
      · rintro ⟨b, ⟨there, -⟩ | rfl, own⟩
        · exact .inl ⟨b, there, own⟩
        · exact .inr own
      · rintro (⟨b, there, own⟩ | own)
        · by_cases same : key b = key a
          · exact ⟨a, .inr rfl, same.symm.trans own⟩
          · exact ⟨b, .inl ⟨there, same⟩, own⟩
        · exact ⟨a, .inr rfl, own⟩
    rw [List.foldl_cons, ih, one, or_assoc]
    simp

/-- Entries with distinct keys are all there in the end, and what has no key of theirs stays. -/
theorem foldl_distinct (distinct : (xs.map key).Nodup) :
    (xs.foldl step l).Perm (l.filter (fun b => key b ∉ xs.map key) ++ xs) := by
  induction xs generalizing l with
  | nil => simp
  | cons a xs ih =>
    rw [List.map_cons, List.nodup_cons] at distinct
    have own : [a].filter (fun b => key b ∉ xs.map key) = [a] :=
      List.filter_eq_self.mpr (by simpa using distinct.1)
    have kept : (put key l a).filter (fun b => key b ∉ xs.map key) =
        l.filter (fun b => key b ∉ (a :: xs).map key) ++ [a] := by
      rw [put, delete, List.filter_append, own, List.filter_filter]
      simp [Bool.and_comm]
    have moved := ((puts l a).filter fun b => key b ∉ xs.map key).append_right xs
    rw [kept, List.append_assoc, List.singleton_append] at moved
    exact (ih distinct.2).trans moved

/-- The table is what was put, all of it and no more, exactly if every earlier entry has the key
of a new one. -/
theorem foldl_perm_self_iff (distinct : (xs.map key).Nodup) :
    (xs.foldl step l).Perm xs ↔ ∀ a ∈ l, key a ∈ xs.map key := by
  have whole := puts.foldl_distinct (l := l) distinct
  constructor
  · intro same
    have length := (whole.symm.trans same).length_eq
    rw [List.length_append, Nat.add_eq_right, List.length_eq_zero_iff, List.filter_eq_nil_iff]
      at length
    simpa using length
  · intro replaced
    have nothing : l.filter (fun b => key b ∉ xs.map key) = [] := by
      rw [List.filter_eq_nil_iff]
      simpa using replaced
    rwa [nothing, List.nil_append] at whole

theorem foldl_delete_of_mem (listed : ∃ a ∈ xs, key a = k) :
    (xs.foldl step (delete key l k)).Perm (xs.foldl step l) := by
  induction xs generalizing l with
  | nil => simp at listed
  | cons a xs ih =>
    by_cases own : key a = k
    · subst own
      refine puts.foldl_perm ?_ xs
      have same : put key (delete key l (key a)) a = put key l a := put_delete_self l a
      exact ((puts _ a).trans (.of_eq same)).trans (puts l a).symm
    · have later : ∃ b ∈ xs, key b = k := by simpa [own] using listed
      have moved : (step (delete key l k) a).Perm (delete key (step l a) k) := by
        refine (puts _ a).trans ?_
        rw [put_delete l own]
        exact ((puts l a).filter _).symm
      exact (puts.foldl_perm moved xs).trans (ih later)

theorem foldl_delete_of_not_mem (others : ∀ a ∈ xs, key a ≠ k) :
    (xs.foldl step (delete key l k)).Perm (delete key (xs.foldl step l) k) := by
  induction xs generalizing l with
  | nil => exact .refl _
  | cons a xs ih =>
    rw [List.forall_mem_cons] at others
    have moved : (step (delete key l k) a).Perm (delete key (step l a) k) := by
      refine (puts _ a).trans ?_
      rw [put_delete l others.1]
      exact ((puts l a).filter _).symm
    exact (puts.foldl_perm moved xs).trans (ih others.2)

/-- A deletion makes no difference in the end exactly if an entry with the key is put afterwards,
or none was there. -/
theorem foldl_delete_iff {out : List α} (before : (xs.foldl step l).Perm out) :
    (xs.foldl step (delete key l k)).Perm out ↔ (∃ a ∈ xs, key a = k) ∨ ∀ a ∈ l, key a ≠ k := by
  by_cases listed : ∃ a ∈ xs, key a = k
  · exact iff_of_true ((puts.foldl_delete_of_mem listed).trans before) (.inl listed)
  · have others : ∀ a ∈ xs, key a ≠ k := fun a there own => listed ⟨a, there, own⟩
    have moved := puts.foldl_delete_of_not_mem (l := l) others
    have absent : (xs.foldl step (delete key l k)).Perm out ↔
        ∀ a ∈ xs.foldl step l, key a ≠ k := by
      constructor
      · intro after
        have length := ((moved.symm.trans after).trans before.symm).length_eq
        simpa [delete] using List.length_filter_eq_length_iff.mp length
      · intro none_there
        have all : delete key (xs.foldl step l) k = xs.foldl step l :=
          List.filter_eq_self.mpr (by simpa using none_there)
        exact (moved.trans (.of_eq all)).trans before
    have either := puts.exists_key_foldl (l := l) (k := k) xs
    rw [absent]
    simp only [or_iff_right listed]
    rw [← not_iff_not]
    push Not
    rw [either]
    exact or_iff_left listed

end Puts

end Nek0.Library.KeyedTable
