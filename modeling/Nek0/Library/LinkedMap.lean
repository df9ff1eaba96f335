import Mathlib.Data.List.Induction
import Mathlib.Data.List.Nodup
import Mathlib.Logic.Function.Basic

/-!
# Insertion-ordered maps

A finite map whose keys are iterated in the order in which they were first
inserted, as the default map of many languages does. Writing to a key that is
present keeps its place. The value found under a key and the list of keys carry
the proof that they agree.
-/

namespace Nek0.Library

variable {K V : Type*}

structure LinkedMap (K V : Type*) where
  keys : List K
  find : K → Option V
  nodup : keys.Nodup
  mem_keys : ∀ key, key ∈ keys ↔ (find key).isSome = true

namespace LinkedMap

def empty : LinkedMap K V where
  keys := []
  find := fun _ => none
  nodup := .nil
  mem_keys := by simp

@[simp] theorem find_empty (key : K) : (empty : LinkedMap K V).find key = none := rfl

/-- The values in the order of their keys. -/
def values (m : LinkedMap K V) : List V := m.keys.filterMap m.find

theorem mem_values {m : LinkedMap K V} {value : V} :
    value ∈ m.values ↔ ∃ key, m.find key = some value := by
  simp only [values, List.mem_filterMap]
  refine ⟨fun ⟨key, _, found⟩ => ⟨key, found⟩, fun ⟨key, found⟩ => ⟨key, ?_, found⟩⟩
  exact (m.mem_keys key).mpr (by simp [found])

/-- The entries that pass a test, in their order. -/
def filter (m : LinkedMap K V) (keep : K → V → Bool) : LinkedMap K V where
  keys := m.keys.filter fun key => (m.find key).any (keep key)
  find key := (m.find key).filter (keep key)
  nodup := m.nodup.filter _
  mem_keys key := by
    rw [List.mem_filter, m.mem_keys key]
    cases found : m.find key with
    | none => simp
    | some value => by_cases kept : keep key value <;> simp [kept]

theorem find_filter_eq_some {m : LinkedMap K V} {keep : K → V → Bool} {key : K} {value : V} :
    (m.filter keep).find key = some value ↔ m.find key = some value ∧ keep key value = true :=
  Option.filter_eq_some_iff ..

variable [DecidableEq K]

def insert (m : LinkedMap K V) (key : K) (value : V) : LinkedMap K V where
  keys := if key ∈ m.keys then m.keys else m.keys ++ [key]
  find := Function.update m.find key (some value)
  nodup := by
    split
    · exact m.nodup
    · next absent => exact m.nodup.append (List.nodup_singleton key) (by simpa using absent)
  mem_keys queried := by
    by_cases same : queried = key
    · subst same
      split <;> simp_all
    · rw [Function.update_of_ne same, ← m.mem_keys queried]
      split <;> simp [same]

def erase (m : LinkedMap K V) (key : K) : LinkedMap K V where
  keys := m.keys.filter (· ≠ key)
  find := Function.update m.find key none
  nodup := m.nodup.filter _
  mem_keys queried := by
    by_cases same : queried = key
    · simp [same]
    · rw [Function.update_of_ne same, ← m.mem_keys queried]
      simp [same]

/-- Changes the value under a key that is present. -/
def modify (m : LinkedMap K V) (key : K) (change : V → V) : LinkedMap K V :=
  match m.find key with
  | some value => m.insert key (change value)
  | none => m

theorem find_insert (m : LinkedMap K V) (key queried : K) (value : V) :
    (m.insert key value).find queried = if queried = key then some value else m.find queried :=
  Function.update_apply ..

@[simp] theorem find_insert_self (m : LinkedMap K V) (key : K) (value : V) :
    (m.insert key value).find key = some value :=
  Function.update_self ..

@[simp] theorem find_insert_of_ne (m : LinkedMap K V) {key queried : K} (value : V)
    (different : queried ≠ key) : (m.insert key value).find queried = m.find queried :=
  Function.update_of_ne different ..

@[simp] theorem find_erase_self (m : LinkedMap K V) (key : K) : (m.erase key).find key = none :=
  Function.update_self ..

@[simp] theorem find_erase_of_ne (m : LinkedMap K V) {key queried : K}
    (different : queried ≠ key) : (m.erase key).find queried = m.find queried :=
  Function.update_of_ne different ..

theorem find_modify (m : LinkedMap K V) (key queried : K) (change : V → V) :
    (m.modify key change).find queried =
      if queried = key then (m.find queried).map change else m.find queried := by
  unfold modify
  split
  next value found =>
    rw [find_insert]
    split
    · next same => simp [same, found]
    · rfl
  next absent =>
    split
    · next same => simp [same, absent]
    · rfl

theorem keys_modify (m : LinkedMap K V) (key : K) (change : V → V) :
    (m.modify key change).keys = m.keys := by
  unfold modify
  split
  next value found =>
    have present : key ∈ m.keys := (m.mem_keys key).mpr (by simp [found])
    simp [insert, present]
  next => rfl

/-- A new key goes to the end. -/
theorem values_insert (m : LinkedMap K V) {key : K} (value : V) (absent : m.find key = none) :
    (m.insert key value).values = m.values ++ [value] := by
  have fresh : key ∉ m.keys := fun listed => by simpa [absent] using (m.mem_keys key).mp listed
  simp only [values, insert, fresh, if_false, List.filterMap_append]
  congr 1
  · refine List.filterMap_congr fun queried listed => ?_
    have different : queried ≠ key := fun same => fresh (same ▸ listed)
    exact Function.update_of_ne different ..
  · simp

/-- Erasing a key takes out its value. -/
theorem values_erase (m : LinkedMap K V) {key : K} {value : V} (found : m.find key = some value) :
    m.values.Perm (value :: (m.erase key).values) := by
  have listed : key ∈ m.keys := (m.mem_keys key).mpr (by simp [found])
  have split := (List.perm_cons_erase listed).filterMap m.find
  rw [List.filterMap_cons_some found, m.nodup.erase_eq_filter] at split
  refine split.trans (.cons value (.of_eq ?_))
  have keys : (m.erase key).keys = m.keys.filter (· != key) :=
    List.filter_congr fun queried _ => by
      by_cases same : queried = key <;> simp [same]
  rw [values, keys]
  refine List.filterMap_congr fun queried kept => ?_
  have different : queried ≠ key := by simpa using (List.mem_filter.mp kept).2
  exact (Function.update_of_ne different ..).symm

end LinkedMap

section EraseDups

variable {α β : Type*} [DecidableEq α] [DecidableEq β]

/-- The first of each is what stays. -/
theorem eraseDups_append_singleton (l : List α) (a : α) :
    (l ++ [a]).eraseDups = if a ∈ l then l.eraseDups else l.eraseDups ++ [a] := by
  rw [List.eraseDups_append]
  by_cases known : a ∈ l
  · have nothing : [a].removeAll l = [] := List.filter_cons_of_neg (by simpa using known)
    rw [nothing, if_pos known, List.eraseDups_nil, List.append_nil]
  · have alone : [a].removeAll l = [a] := List.filter_cons_of_pos (by simpa using known)
    rw [alone, if_neg known, List.eraseDups_cons]
    rfl

theorem eraseDups_map {f : α → β} (inj : Function.Injective f) (l : List α) :
    (l.map f).eraseDups = l.eraseDups.map f := by
  induction l using List.reverseRecOn with
  | nil => rfl
  | append_singleton l a ih =>
    have listed : f a ∈ l.map f ↔ a ∈ l := List.mem_map_of_injective inj
    rw [List.map_append, List.map_singleton, eraseDups_append_singleton,
      eraseDups_append_singleton, ih]
    simp only [listed]
    split
    · rfl
    · rw [List.map_append, List.map_singleton]

theorem filter_eraseDups (p : α → Bool) (l : List α) :
    l.eraseDups.filter p = (l.filter p).eraseDups := by
  induction l using List.reverseRecOn with
  | nil => rfl
  | append_singleton l a ih =>
    rw [eraseDups_append_singleton, List.filter_append]
    by_cases kept : p a = true
    · have alone : [a].filter p = [a] := by
        rw [List.filter_singleton, kept]
        rfl
      rw [alone, eraseDups_append_singleton]
      simp only [List.mem_filter, kept, and_true]
      split
      · exact ih
      · rw [List.filter_append, ih, alone]
    · have nothing : [a].filter p = [] := by
        rw [List.filter_singleton, eq_false_of_ne_true kept]
        rfl
      rw [nothing, List.append_nil]
      split
      · exact ih
      · rw [List.filter_append, ih, nothing, List.append_nil]

end EraseDups

end Nek0.Library
