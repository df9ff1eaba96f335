import Nek0.Source.Utf16

/-!
# Kotlin strings

Blank strings of UTF-16 units. A string without lone surrogates is one of characters, and has bytes
in UTF-8.
-/

namespace Nek0.Source.KotlinText

open Nek0.Source.Utf16

/-- `Char.isWhitespace` -/
def isWhitespace (code : Nat) : Bool :=
  9 ≤ code && code ≤ 13 || 28 ≤ code && code ≤ 32 || code == 160 || code == 5760 ||
    8192 ≤ code && code ≤ 8202 || code == 8232 || code == 8233 || code == 8239 || code == 8287 ||
      code == 12288

def isBlank (text : Text) : Bool := text.all fun unit => isWhitespace unit.toNat

/-- The bytes in UTF-8. -/
def toByteArray (text : String) : List UInt8 := text.toUTF8.data.toList

/-- The string of bytes in UTF-8, with what the platform makes of malformed ones. -/
def decodeUtf8 (replaced : List UInt8 → String) (bytes : List UInt8) : String :=
  (String.fromUTF8? ⟨bytes.toArray⟩).getD (replaced bytes)

/-- A string is read back from its bytes. -/
theorem decodeUtf8_toByteArray (replaced : List UInt8 → String) (text : String) :
    decodeUtf8 replaced (toByteArray text) = text := by
  have whole : (⟨text.toByteArray.data.toList.toArray⟩ : ByteArray) = text.toByteArray := by
    rw [Array.toArray_toList]
  have valid := text.isValidUTF8
  rw [decodeUtf8, toByteArray, String.toUTF8_eq_toByteArray, whole, String.fromUTF8?,
    dif_pos valid]
  rfl

end Nek0.Source.KotlinText
