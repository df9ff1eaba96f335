import Mathlib.Data.List.Basic
import Mathlib.Tactic.Ring

/-!
# Decimal numbers

Numbers that are padded to a width, reading so many digits off the front of a text, and the texts of
numbers without a width, which tell them apart.
-/

namespace Nek0.Library

def digitValue (c : Char) : Nat := c.toNat - 48

def padded : Nat → Nat → List Char
  | 0, _ => []
  | width + 1, n => Nat.digitChar (n / 10 ^ width % 10) :: padded width n

/-- The number that digits write, after those that are read already. -/
def valueFrom (read : Nat) (digits : List Char) : Nat :=
  digits.foldl (fun value c => value * 10 + digitValue c) read

def readDigits (width : Nat) (text : List Char) : Option (Nat × List Char) :=
  let digits := text.take width
  if digits.length = width ∧ digits.all Char.isDigit then
    some (valueFrom 0 digits, text.drop width)
  else none

theorem digitChar_isDigit {d : Nat} (small : d < 10) : (Nat.digitChar d).isDigit = true := by
  revert d
  decide

theorem digitValue_digitChar {d : Nat} (small : d < 10) : digitValue (Nat.digitChar d) = d := by
  revert d
  decide

@[simp] theorem padded_length (width n : Nat) : (padded width n).length = width := by
  induction width with
  | zero => rfl
  | succ width ih => simp [padded, ih]

theorem isDigit_of_mem_padded {width n : Nat} {c : Char} (listed : c ∈ padded width n) :
    c.isDigit = true := by
  induction width with
  | zero => cases listed
  | succ width ih =>
    rcases List.mem_cons.mp listed with rfl | listed
    · exact digitChar_isDigit (Nat.mod_lt _ (by decide))
    · exact ih listed

theorem valueFrom_padded (width n read : Nat) :
    valueFrom read (padded width n) = read * 10 ^ width + n % 10 ^ width := by
  induction width generalizing read with
  | zero => simp [padded, valueFrom, Nat.mod_one]
  | succ width ih =>
    have next := ih (read * 10 + n / 10 ^ width % 10)
    rw [valueFrom] at next ⊢
    rw [padded, List.foldl_cons, digitValue_digitChar (Nat.mod_lt _ (by decide)), next,
      Nat.pow_succ, Nat.mod_mul]
    ring

theorem valueFrom_append (read : Nat) (first second : List Char) :
    valueFrom read (first ++ second) = valueFrom (valueFrom read first) second :=
  List.foldl_append

theorem readDigits_padded {width n : Nat} (fits : n < 10 ^ width) (rest : List Char) :
    readDigits width (padded width n ++ rest) = some (n, rest) := by
  have front : (padded width n ++ rest).take width = padded width n :=
    List.take_left' (padded_length width n)
  have back : (padded width n ++ rest).drop width = rest :=
    List.drop_left' (padded_length width n)
  have digits : (padded width n).all Char.isDigit = true :=
    List.all_eq_true.mpr fun _ listed => isDigit_of_mem_padded listed
  rw [readDigits, front, back, if_pos ⟨padded_length width n, digits⟩, valueFrom_padded,
    Nat.mod_eq_of_lt fits, Nat.zero_mul, Nat.zero_add]

/-- Digits that end too early are not read. -/
theorem readDigits_short {width : Nat} {digits rest : List Char} {c : Char}
    (short : digits.length < width) (stop : c.isDigit = false) :
    readDigits width (digits ++ c :: rest) = none := by
  have listed : c ∈ (digits ++ c :: rest).take width := by
    rw [List.take_append, List.mem_append]
    obtain ⟨more, same⟩ := Nat.exists_eq_add_of_lt short
    right
    rw [show width - digits.length = more + 1 by omega]
    exact List.mem_cons_self
  refine if_neg fun ⟨_, all⟩ => ?_
  simp [List.all_eq_true.mp all c listed] at stop

section Decimals

theorem toList_toString_nat (n : Nat) : (toString n).toList = Nat.toDigits 10 n := by
  simp [toString, Nat.repr_eq_ofList_toDigits]

theorem toDigits_injective {m n : Nat} (same : Nat.toDigits 10 m = Nat.toDigits 10 n) : m = n := by
  rw [← Nat.ofDigitChars_ten_toDigits (n := m), same, Nat.ofDigitChars_ten_toDigits]

theorem isDigit_of_mem {n : Nat} {c : Char} (listed : c ∈ Nat.toDigits 10 n) :
    c.isDigit = true := Nat.isDigit_of_mem_toDigits (by decide) (by decide) listed

theorem toString_int (i : Int) : (toString i).toList = Nat.toDigits 10 i.natAbs ∧ 0 ≤ i ∨
    (toString i).toList = '-' :: Nat.toDigits 10 i.natAbs ∧ i < 0 := by
  cases i with
  | ofNat n => exact .inl ⟨toList_toString_nat n, Int.natCast_nonneg n⟩
  | negSucc n =>
    refine .inr ⟨?_, Int.negSucc_lt_zero n⟩
    change ("-" ++ toString (n + 1)).toList = _
    rw [String.toList_append, toList_toString_nat]
    rfl

theorem not_mem_toString_int (i : Int) : '_' ∉ (toString i).toList := by
  rcases toString_int i with ⟨digits, -⟩ | ⟨digits, -⟩
  · rw [digits]
    exact fun listed => absurd (isDigit_of_mem listed) (by decide)
  · rw [digits, List.mem_cons, not_or]
    exact ⟨by decide, fun listed => absurd (isDigit_of_mem listed) (by decide)⟩

theorem toString_int_injective {i j : Int} (same : (toString i).toList = (toString j).toList) :
    i = j := by
  have minus : ∀ n rest, '-' :: rest ≠ Nat.toDigits 10 n := by
    intro n rest equal
    exact absurd (isDigit_of_mem (n := n) (equal ▸ List.mem_cons_self)) (by decide)
  rcases toString_int i with ⟨digits, sign⟩ | ⟨digits, sign⟩ <;>
    rcases toString_int j with ⟨digits', sign'⟩ | ⟨digits', sign'⟩ <;>
    rw [digits, digits'] at same
  · have := toDigits_injective same
    omega
  · exact absurd same.symm (minus _ _)
  · exact absurd same (minus _ _)
  · have := toDigits_injective (List.cons.inj same).2
    omega

end Decimals

end Nek0.Library
