import Mathlib.Data.List.Basic

/-!
# UTF-16

The strings of Kotlin and Dart are their UTF-16 units, among which lone surrogates may be.
-/

namespace Nek0.Source.Utf16

abbrev Text := List UInt16

/-- The units of characters that are one unit each. -/
def units (chars : List Char) : Text := chars.map fun c => .ofNat c.toNat

/-- The characters of units. A surrogate becomes the character zero. -/
def chars (text : Text) : List Char := text.map fun unit => .ofNat unit.toNat

theorem chars_units {l : List Char} (ascii : ∀ c ∈ l, c.toNat < 128) : chars (units l) = l := by
  induction l with
  | nil => rfl
  | cons c l ih =>
    obtain ⟨first, rest⟩ := List.forall_mem_cons.mp ascii
    have small : c.toNat % 2 ^ 16 = c.toNat := by omega
    have tail : chars (units l) = l := ih rest
    simp only [chars, units, List.map_cons, UInt16.toNat_ofNat', small, Char.ofNat_toNat]
    exact congrArg (c :: ·) tail

end Nek0.Source.Utf16
