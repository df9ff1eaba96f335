import Mathlib.Algebra.GroupWithZero.Nat
import Mathlib.Data.List.Basic

/-!
# Byte offsets in text

Text is a list of characters, sliced at byte offsets of its UTF-8 encoding. A slice exists only at
an offset where a character begins or the text ends.
-/

namespace Nek0.Library

def byteLen (text : List Char) : Nat := (text.map Char.utf8Size).sum

/-- The text from an offset on. -/
def sliceFrom : List Char → Nat → Option (List Char)
  | text, 0 => some text
  | [], _ + 1 => none
  | c :: text, n + 1 => if c.utf8Size ≤ n + 1 then sliceFrom text (n + 1 - c.utf8Size) else none

/-- The text up to an offset. -/
def sliceTo : List Char → Nat → Option (List Char)
  | _, 0 => some []
  | [], _ + 1 => none
  | c :: text, n + 1 =>
    if c.utf8Size ≤ n + 1 then (sliceTo text (n + 1 - c.utf8Size)).map (c :: ·) else none

/-- The offset of the first character that passes a test. -/
def findByte (p : Char → Bool) : List Char → Option Nat
  | [] => none
  | c :: text => if p c then some 0 else (findByte p text).map (· + c.utf8Size)

variable {p : Char → Bool} {a b text rest : List Char} {c : Char} {n : Nat}

@[simp] theorem byteLen_nil : byteLen [] = 0 := rfl

@[simp] theorem byteLen_cons : byteLen (c :: text) = c.utf8Size + byteLen text := rfl

@[simp] theorem byteLen_append : byteLen (a ++ b) = byteLen a + byteLen b := by
  simp [byteLen]

theorem byteLen_eq_zero : byteLen text = 0 ↔ text = [] := by
  cases text with
  | nil => simp
  | cons c text =>
    have positive := c.utf8Size_pos
    simp only [byteLen_cons, reduceCtorEq, iff_false]
    omega

/-- Text of one-byte characters is as long as it has characters. -/
theorem byteLen_of_ascii (ascii : ∀ c ∈ text, c.utf8Size = 1) : byteLen text = text.length := by
  induction text with
  | nil => rfl
  | cons c text ih =>
    rw [List.forall_mem_cons] at ascii
    rw [byteLen_cons, ascii.1, ih ascii.2, List.length_cons, Nat.add_comm]

@[simp] theorem sliceFrom_zero : sliceFrom text 0 = some text := by
  cases text <;> rfl

@[simp] theorem sliceTo_zero : sliceTo text 0 = some [] := by
  cases text <;> rfl

theorem sliceFrom_cons (large : c.utf8Size ≤ n) :
    sliceFrom (c :: text) n = sliceFrom text (n - c.utf8Size) := by
  cases n with
  | zero => exact absurd c.utf8Size_pos (Nat.not_lt.mpr large)
  | succ n => rw [sliceFrom, if_pos large]

theorem sliceTo_cons (large : c.utf8Size ≤ n) :
    sliceTo (c :: text) n = (sliceTo text (n - c.utf8Size)).map (c :: ·) := by
  cases n with
  | zero => exact absurd c.utf8Size_pos (Nat.not_lt.mpr large)
  | succ n => rw [sliceTo, if_pos large]

/-- Past a first part, a slice is a slice of the rest. -/
theorem sliceFrom_append (large : byteLen a ≤ n) :
    sliceFrom (a ++ b) n = sliceFrom b (n - byteLen a) := by
  induction a generalizing n with
  | nil => simp
  | cons c a ih =>
    rw [byteLen_cons] at large
    rw [List.cons_append, sliceFrom_cons (by omega), ih (by omega), byteLen_cons, Nat.sub_sub]

theorem sliceFrom_left : sliceFrom (a ++ b) (byteLen a) = some b := by
  rw [sliceFrom_append (Nat.le_refl _), Nat.sub_self, sliceFrom_zero]

theorem sliceTo_left : sliceTo (a ++ b) (byteLen a) = some a := by
  induction a with
  | nil => simp
  | cons c a ih =>
    rw [byteLen_cons, List.cons_append, sliceTo_cons (by omega), Nat.add_sub_cancel_left, ih]
    rfl

/-- Within a first part, a slice is a slice of that part with the rest behind it. -/
theorem sliceFrom_within (small : n ≤ byteLen a) :
    sliceFrom (a ++ b) n = (sliceFrom a n).map (· ++ b) := by
  induction a generalizing n with
  | nil =>
    obtain rfl := Nat.le_zero.mp small
    simp
  | cons c a ih =>
    cases n with
    | zero => simp
    | succ n =>
      by_cases large : c.utf8Size ≤ n + 1
      · rw [byteLen_cons] at small
        rw [List.cons_append, sliceFrom_cons large, sliceFrom_cons large, ih (by omega)]
      · simp [sliceFrom, large]

theorem sliceFrom_ascii (ascii : ∀ c ∈ text, c.utf8Size = 1) (small : n ≤ text.length) :
    sliceFrom text n = some (text.drop n) := by
  have bytes : byteLen (text.take n) = n := by
    rw [byteLen_of_ascii fun c listed => ascii c (List.mem_of_mem_take listed), List.length_take]
    omega
  have left : sliceFrom (text.take n ++ text.drop n) (byteLen (text.take n)) = some (text.drop n) :=
    sliceFrom_left
  rwa [bytes, List.take_append_drop] at left

theorem byteLen_sliceFrom (sliced : sliceFrom text n = some rest) :
    byteLen rest + n = byteLen text := by
  induction text generalizing n with
  | nil =>
    cases n with
    | zero =>
      obtain rfl := Option.some.inj sliced
      rfl
    | succ n => cases sliced
  | cons c text ih =>
    cases n with
    | zero =>
      obtain rfl := Option.some.inj sliced
      rfl
    | succ n =>
      rw [sliceFrom, Option.ite_none_right_eq_some] at sliced
      have shorter := ih sliced.2
      rw [byteLen_cons]
      omega

theorem findByte_append (none : ∀ c ∈ a, p c = false) (found : p c = true) :
    findByte p (a ++ c :: b) = some (byteLen a) := by
  induction a with
  | nil => simp [findByte, found]
  | cons d a ih =>
    rw [List.forall_mem_cons] at none
    simp [findByte, none.1, ih none.2, Nat.add_comm]

/-- An offset that was found lies right before a character that passes. -/
theorem split_of_findByte (found : findByte p text = some n) :
    ∃ a c b, text = a ++ c :: b ∧ byteLen a = n ∧ p c = true := by
  induction text generalizing n with
  | nil => cases found
  | cons c text ih =>
    rw [findByte] at found
    split at found
    next passes =>
      obtain rfl := Option.some.inj found
      exact ⟨[], c, text, rfl, rfl, passes⟩
    · obtain ⟨m, later, rfl⟩ := Option.map_eq_some_iff.mp found
      obtain ⟨a, d, b, rfl, bytes, passes⟩ := ih later
      exact ⟨c :: a, d, b, rfl, by rw [byteLen_cons, bytes, Nat.add_comm], passes⟩

/-- Parts that are equally long in bytes are the same in the same text. -/
theorem append_inj_of_byteLen {x y : List Char} (same : a ++ x = b ++ y)
    (bytes : byteLen a = byteLen b) : a = b ∧ x = y := by
  induction a generalizing b with
  | nil =>
    obtain rfl := byteLen_eq_zero.mp bytes.symm
    exact ⟨rfl, same⟩
  | cons c a ih =>
    cases b with
    | nil =>
      rw [byteLen_eq_zero.mp bytes] at same ⊢
      exact ⟨rfl, same⟩
    | cons d b =>
      obtain ⟨rfl, tails⟩ := List.cons.inj same
      simp only [byteLen_cons] at bytes
      obtain ⟨rfl, rest⟩ := ih tails (by omega)
      exact ⟨rfl, rest⟩

end Nek0.Library
