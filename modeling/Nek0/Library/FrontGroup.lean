import Mathlib.Data.List.Perm.Basic

/-!
# Lists with a front group

The elements with a property come first, and both groups keep their order. A list is in that form
exactly if the property never returns after it has been lost.
-/

namespace Nek0.Library.FrontGroup

variable {α : Type*} (p : α → Bool)

def front (l : List α) : List α := l.filter p ++ l.filter (!p ·)

/-- Nothing with the property comes after something without it. -/
def Grouped (l : List α) : Prop := l.Pairwise fun a b => p b = true → p a = true

instance (l : List α) : Decidable (Grouped p l) := inferInstanceAs (Decidable (List.Pairwise _ l))

variable {p} {l x y : List α} {a b : α}

theorem grouped_front (l : List α) : Grouped p (front p l) := by
  refine List.pairwise_append.mpr ⟨?_, ?_, ?_⟩
  · exact List.pairwise_iff_forall_sublist.mpr fun {a b} sublist _ =>
      List.of_mem_filter (sublist.subset List.mem_cons_self)
  · refine List.pairwise_iff_forall_sublist.mpr fun {a b} sublist has => ?_
    have lacks := List.of_mem_filter (sublist.subset (List.mem_cons_of_mem _ List.mem_cons_self))
    simp [has] at lacks
  · exact fun a first b _ _ => List.of_mem_filter first

theorem front_eq_self (grouped : Grouped p l) : front p l = l := by
  induction l with
  | nil => rfl
  | cons a l ih =>
    obtain ⟨after, rest⟩ := List.pairwise_cons.mp grouped
    by_cases has : p a = true
    · have same : l.filter p ++ l.filter (!p ·) = l := ih rest
      simp [front, has, same]
    · have lack : ∀ b ∈ l, p b = false := fun b there =>
        Bool.eq_false_iff.mpr fun has' => has (after b there has')
      have none_there : l.filter p = [] := List.filter_eq_nil_iff.mpr (by simpa using lack)
      have all_there : l.filter (!p ·) = l := List.filter_eq_self.mpr (by simpa using lack)
      simp [front, has, none_there, all_there]

/-- The lists in the form are those that the arrangement leaves alone. -/
theorem exists_front_iff : (∃ k, l = front p k) ↔ Grouped p l := by
  constructor
  · rintro ⟨k, rfl⟩
    exact grouped_front k
  · exact fun grouped => ⟨l, (front_eq_self grouped).symm⟩

/-- Neighbours of different groups come back to their places. -/
theorem front_swap (differs : p a ≠ p b) :
    front p (x ++ a :: b :: y) = front p (x ++ b :: a :: y) := by
  cases hasA : p a <;> cases hasB : p b <;> simp_all [front]

/-- Neighbours of one group may change places. -/
theorem grouped_swap (same : p a = p b) (grouped : Grouped p (x ++ a :: b :: y)) :
    Grouped p (x ++ b :: a :: y) := by
  simp only [Grouped, List.pairwise_append, List.pairwise_cons, List.mem_cons, forall_eq_or_imp]
    at grouped ⊢
  obtain ⟨inX, ⟨⟨-, fromA⟩, fromB, inY⟩, across⟩ := grouped
  refine ⟨inX, ⟨⟨fun has => same ▸ has, fromB⟩, fromA, inY⟩, fun c listed => ?_⟩
  obtain ⟨toA, toB, toY⟩ := across c listed
  exact ⟨toB, toA, toY⟩

theorem grouped_append_singleton_iff (grouped : Grouped p l) :
    Grouped p (l ++ [a]) ↔ (p a = true → ∀ b ∈ l, p b = true) := by
  rw [Grouped, List.pairwise_append]
  constructor
  · rintro ⟨-, -, across⟩ has b listed
    exact across b listed a List.mem_cons_self has
  · refine fun all => ⟨grouped, List.pairwise_singleton _ _, fun b listed c new has => ?_⟩
    obtain rfl := List.mem_singleton.mp new
    exact all has b listed

/-- The group reaches as far as it has elements. -/
theorem Grouped.getElem_iff (grouped : Grouped p l) {i : Nat} (bound : i < l.length) :
    p l[i] = true ↔ i < l.countP p := by
  induction l generalizing i with
  | nil => cases bound
  | cons a l ih =>
    obtain ⟨after, rest⟩ := List.pairwise_cons.mp grouped
    by_cases has : p a = true
    · rw [List.countP_cons_of_pos has]
      cases i with
      | zero => simp [has]
      | succ i => simpa using ih rest (by simpa using bound)
    · have lack : l.countP p = 0 := List.countP_eq_zero.mpr fun b there has' =>
        has (after b there has')
      rw [List.countP_cons_of_neg has, lack]
      cases i with
      | zero => simp [has]
      | succ i =>
        have shorter : i < l.length := by simpa using bound
        have there : l[i] ∈ l := List.getElem_mem shorter
        simpa using fun has' => has (after _ there has')

/-- An element may be replaced by one that belongs to the group there: at the latest just behind
the group if the new one has the property, else at the earliest at the end of the group. -/
theorem grouped_set_iff (grouped : Grouped p l) {i : Nat} (bound : i < l.length) :
    Grouped p (l.set i a) ↔ if p a = true then i ≤ l.countP p else l.countP p ≤ i + 1 := by
  have short := List.countP_le_length (p := p) (l := l)
  have length : (l.set i a).length = l.length := List.length_set
  have spec (j : Nat) (there : j < (l.set i a).length) :
      p (l.set i a)[j] = true ↔ if j = i then p a = true else j < l.countP p := by
    rw [List.length_set] at there
    rw [List.getElem_set, ← grouped.getElem_iff there]
    by_cases same : i = j
    · simp [same]
    · simp [same, Ne.symm same]
  rw [Grouped, List.pairwise_iff_getElem]
  constructor
  · intro after
    split
    next has =>
      by_contra late
      -- The first element without the property is before the new one.
      have first : l.countP p < (l.set i a).length := by omega
      have new : i < (l.set i a).length := by omega
      have kept : p (l.set i a)[l.countP p] = true :=
        after _ i first new (by omega) ((spec i new).mpr (by rwa [if_pos rfl]))
      rw [spec, if_neg (by omega)] at kept
      omega
    next lacks =>
      by_contra early
      -- The last element with the property is behind the new one.
      have new : i < (l.set i a).length := by omega
      have last : l.countP p - 1 < (l.set i a).length := by omega
      have kept : p (l.set i a)[i] = true :=
        after i _ new last (by omega) ((spec _ last).mpr (by rw [if_neg (by omega)]; omega))
      rw [spec, if_pos rfl] at kept
      exact lacks kept
  · intro fits j k thereJ thereK before has
    rw [spec] at has ⊢
    by_cases property : p a = true
    · rw [if_pos property] at fits
      split
      · exact property
      · split at has <;> omega
    · rw [if_neg property] at fits
      split at has
      · exact absurd has property
      · rw [if_neg (by omega)]
        omega

end Nek0.Library.FrontGroup
