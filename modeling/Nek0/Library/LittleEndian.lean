import Mathlib.Algebra.Group.Nat.Defs
import Mathlib.Data.Nat.Basic

/-!
# Little-endian words

A list of 32-bit words as bytes, the least significant byte of each word first.
-/

namespace Nek0.Library.LittleEndian

/-- The lowest `width` bytes of a number. -/
def bytes : Nat → Nat → List UInt8
  | 0, _ => []
  | width + 1, n => .ofNat n :: bytes width (n / 256)

def value : List UInt8 → Nat
  | [] => 0
  | b :: rest => b.toNat + 256 * value rest

def encode (words : List UInt32) : List UInt8 := words.flatMap fun word => bytes 4 word.toNat

/-- What does not fill a word is left out. -/
def decode : List UInt8 → List UInt32
  | a :: b :: c :: d :: rest => .ofNat (value [a, b, c, d]) :: decode rest
  | _ => []

theorem value_bytes (width n : Nat) : value (bytes width n) = n % 256 ^ width := by
  induction width generalizing n with
  | zero => simp [bytes, value, Nat.mod_one]
  | succ width ih =>
    have split : n % (256 * 256 ^ width) = n % 256 + 256 * (n / 256 % 256 ^ width) := Nat.mod_mul
    have power : 256 ^ (width + 1) = 256 * 256 ^ width := Nat.pow_succ'
    rw [bytes, value, ih, UInt8.toNat_ofNat', power, split]

theorem length_encode (words : List UInt32) : (encode words).length = 4 * words.length := by
  induction words with
  | nil => rfl
  | cons word words ih =>
    rw [encode, List.flatMap_cons, List.length_append, List.length_cons]
    have rest : (words.flatMap fun word => bytes 4 word.toNat).length = 4 * words.length := ih
    rw [rest]
    simp only [bytes, List.length_cons, List.length_nil]
    omega

theorem decode_bytes_append (word : UInt32) (rest : List UInt8) :
    decode (bytes 4 word.toNat ++ rest) = word :: decode rest := by
  have own : UInt32.ofNat (value (bytes 4 word.toNat)) = word := by
    have small : word.toNat < 256 ^ 4 := word.toNat_lt
    rw [value_bytes, Nat.mod_eq_of_lt small]
    exact UInt32.ofNat_toNat
  simp only [bytes] at own
  simp only [bytes, List.cons_append, List.nil_append, decode, own]

/-- Words are read back, and what follows them is read on its own. -/
theorem decode_encode_append (words : List UInt32) (rest : List UInt8) :
    decode (encode words ++ rest) = words ++ decode rest := by
  induction words with
  | nil => rfl
  | cons word words ih =>
    have shape : encode (word :: words) ++ rest =
        bytes 4 word.toNat ++ (encode words ++ rest) := by
      rw [encode, List.flatMap_cons, List.append_assoc]
      rfl
    rw [shape, decode_bytes_append, ih, List.cons_append]

theorem length_decode (l : List UInt8) : (decode l).length = l.length / 4 := by
  induction l using decode.induct with
  | case1 a b c d rest ih =>
    rw [decode, List.length_cons, ih]
    simp only [List.length_cons]
    omega
  | case2 l short =>
    have few : l.length < 4 := by
      match l with
      | [] | [_] | [_, _] | [_, _, _] => simp
      | a :: b :: c :: d :: rest => exact absurd rfl (short a b c d rest)
    rw [Nat.div_eq_of_lt few, decode]
    · rfl
    · exact short

end Nek0.Library.LittleEndian
