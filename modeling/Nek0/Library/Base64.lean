import Mathlib.Data.List.DropRight
import Mathlib.Data.List.FinRange

/-!
# Base64

The standard alphabet with `=` as padding. Three bytes are four digits of six bits; one or two
bytes at the end are two or three digits, whose unused low bits are zero.
-/

namespace Nek0.Library.Base64

def char (digit : Fin 64) : Char :=
  if digit.val < 26 then Char.ofNat (65 + digit.val)
  else if digit.val < 52 then Char.ofNat (97 + (digit.val - 26))
  else if digit.val < 62 then Char.ofNat (48 + (digit.val - 52))
  else if digit.val = 62 then '+' else '/'

def digit? (c : Char) : Option (Fin 64) := (List.finRange 64).find? fun digit => char digit = c

def digits? (text : List Char) : Option (List (Fin 64)) := text.mapM digit?

/-- The low six bits. -/
def digit (n : Nat) : Fin 64 := Fin.ofNat 64 n

def encodeDigits : List UInt8 → List (Fin 64)
  | [] => []
  | [a] => [digit (a.toNat / 4), digit (a.toNat * 16)]
  | [a, b] => [digit (a.toNat / 4), digit (a.toNat * 16 + b.toNat / 16), digit (b.toNat * 4)]
  | a :: b :: c :: bytes =>
    digit (a.toNat / 4) :: digit (a.toNat * 16 + b.toNat / 16) ::
      digit (b.toNat * 4 + c.toNat / 64) :: digit c.toNat :: encodeDigits bytes

def decodeDigits : List (Fin 64) → List UInt8
  | [] | [_] => []
  | [p, q] => [.ofNat (p * 4 + q / 16)]
  | [p, q, r] => [.ofNat (p * 4 + q / 16), .ofNat (q * 16 + r / 4)]
  | p :: q :: r :: s :: digits =>
    .ofNat (p * 4 + q / 16) :: .ofNat (q * 16 + r / 4) :: .ofNat (r * 64 + s) ::
      decodeDigits digits

/-- The last group holds whole bytes, and its unused bits are zero. -/
def isCanonical : List (Fin 64) → Bool
  | [] => true
  | [_] => false
  | [_, q] => q.val % 16 = 0
  | [_, _, r] => r.val % 4 = 0
  | _ :: _ :: _ :: _ :: digits => isCanonical digits

def unpadded (bytes : List UInt8) : List Char := (encodeDigits bytes).map char

/-- As many `=` as fill the last group. -/
def padding (digits : Nat) : Nat := (4 - digits % 4) % 4

def encode (bytes : List UInt8) : List Char :=
  unpadded bytes ++ List.replicate (padding (encodeDigits bytes).length) '='

/-- The text is the base64 form of the bytes, with or without padding. -/
def IsForm (text : List Char) (bytes : List UInt8) : Prop :=
  text = encode bytes ∨ text = unpadded bytes

/-- The text without its padding. -/
def body (text : List Char) : List Char := text.rdropWhile (· == '=')

/-- Only characters of the alphabet in front of the padding, which is whole or absent. -/
def isWellFormed (text : List Char) : Bool :=
  match digits? (body text) with
  | none => false
  | some digits =>
    isCanonical digits &&
      (text.length == digits.length || text.length == digits.length + padding digits.length)

/-- The bytes of a text with whole or absent padding. The unused low bits may be anything. -/
def decode (text : List Char) : Option (List UInt8) :=
  match digits? (body text) with
  | none => none
  | some digits =>
    if digits.length % 4 ≠ 1 ∧
        (text.length = digits.length ∨ text.length = digits.length + padding digits.length) then
      some (decodeDigits digits)
    else none

section Alphabet

@[simp] theorem digit?_char (d : Fin 64) : digit? (char d) = some d := by
  revert d
  decide +kernel

theorem char_ne_padding (d : Fin 64) : char d ≠ '=' := by
  revert d
  decide +kernel

theorem char_of_digit? {c : Char} {d : Fin 64} (found : digit? c = some d) : char d = c := by
  simpa using List.find?_some found

@[simp] theorem digits?_map_char (digits : List (Fin 64)) :
    digits? (digits.map char) = some digits := by
  induction digits with
  | nil => rfl
  | cons d digits ih =>
    rw [digits?] at ih
    simp [digits?, ih]

theorem map_char_of_digits? {text : List Char} {digits : List (Fin 64)}
    (read : digits? text = some digits) : digits.map char = text := by
  induction text generalizing digits with
  | nil =>
    obtain rfl : [] = digits := by simpa [digits?] using read
    rfl
  | cons c text ih =>
    obtain ⟨d, first, rest, others, rfl⟩ :
        ∃ d, digit? c = some d ∧ ∃ rest, digits? text = some rest ∧ d :: rest = digits := by
      simpa [digits?, Option.bind_eq_some_iff] using read
    rw [List.map_cons, char_of_digit? first, ih others]

theorem body_append_padding (digits : List (Fin 64)) (n : Nat) :
    body (digits.map char ++ List.replicate n '=') = digits.map char := by
  induction n with
  | zero =>
    rw [List.replicate_zero, List.append_nil, body, List.rdropWhile_eq_self_iff]
    intro some
    obtain ⟨d, -, last⟩ := List.mem_map.mp (List.getLast_mem some)
    simpa [← last] using char_ne_padding d
  | succ n ih =>
    rw [List.replicate_succ', ← List.append_assoc, body, List.rdropWhile_concat_pos _ _ _ (by simp)]
    exact ih

/-- A text is its body and nothing but padding. -/
theorem body_append_replicate (text : List Char) :
    body text ++ List.replicate (text.length - (body text).length) '=' = text := by
  induction text using List.reverseRecOn with
  | nil => rfl
  | append_singleton text c ih =>
    by_cases pad : c = '='
    · have same : body (text ++ [c]) = body text := List.rdropWhile_concat_pos _ _ _ (by simp [pad])
      have shorter : (body text).length ≤ text.length := (List.rdropWhile_prefix _ _).length_le
      rw [same, List.length_append, List.length_singleton, Nat.sub_add_comm shorter,
        List.replicate_succ', ← List.append_assoc, ih, pad]
    · have same : body (text ++ [c]) = text ++ [c] :=
        List.rdropWhile_concat_neg _ _ _ (by simpa using pad)
      rw [same, Nat.sub_self, List.replicate_zero, List.append_nil]

end Alphabet

section Digits

theorem byte_eq {n : Nat} {a : UInt8} (same : n % 256 = a.toNat) : UInt8.ofNat n = a := by
  apply UInt8.toNat_inj.mp
  rw [UInt8.toNat_ofNat']
  exact same

theorem digit_eq {n : Nat} {d : Fin 64} (same : n % 64 = d.val) : digit n = d := by
  apply Fin.ext
  exact same

theorem decodeDigits_encodeDigits (bytes : List UInt8) :
    decodeDigits (encodeDigits bytes) = bytes := by
  induction bytes using encodeDigits.induct with
  | case1 => rfl
  | case2 a =>
    have small := a.toNat_lt
    rw [encodeDigits, decodeDigits, byte_eq (a := a) (by simp only [digit, Fin.ofNat]; omega)]
  | case3 a b =>
    have small := a.toNat_lt
    have little := b.toNat_lt
    rw [encodeDigits, decodeDigits, byte_eq (a := a) (by simp only [digit, Fin.ofNat]; omega),
      byte_eq (a := b) (by simp only [digit, Fin.ofNat]; omega)]
  | case4 a b c bytes ih =>
    have small := a.toNat_lt
    have little := b.toNat_lt
    have low := c.toNat_lt
    rw [encodeDigits, decodeDigits, ih, byte_eq (a := a) (by simp only [digit, Fin.ofNat]; omega),
      byte_eq (a := b) (by simp only [digit, Fin.ofNat]; omega),
      byte_eq (a := c) (by simp only [digit, Fin.ofNat]; omega)]

theorem isCanonical_encodeDigits (bytes : List UInt8) :
    isCanonical (encodeDigits bytes) = true := by
  induction bytes using encodeDigits.induct with
  | case1 => rfl
  | case2 a =>
    simp only [encodeDigits, isCanonical, digit, Fin.ofNat, decide_eq_true_eq]
    omega
  | case3 a b =>
    simp only [encodeDigits, isCanonical, digit, Fin.ofNat, decide_eq_true_eq]
    omega
  | case4 a b c bytes ih => exact ih

theorem encodeDigits_decodeDigits {digits : List (Fin 64)} (canonical : isCanonical digits = true) :
    encodeDigits (decodeDigits digits) = digits := by
  induction digits using decodeDigits.induct with
  | case1 => rfl
  | case2 p => cases canonical
  | case3 p q =>
    simp only [isCanonical, decide_eq_true_eq] at canonical
    rw [decodeDigits, encodeDigits, digit_eq (d := p) (by rw [UInt8.toNat_ofNat']; omega),
      digit_eq (d := q) (by rw [UInt8.toNat_ofNat']; omega)]
  | case4 p q r =>
    simp only [isCanonical, decide_eq_true_eq] at canonical
    rw [decodeDigits, encodeDigits, digit_eq (d := p) (by simp only [UInt8.toNat_ofNat']; omega),
      digit_eq (d := q) (by simp only [UInt8.toNat_ofNat']; omega),
      digit_eq (d := r) (by simp only [UInt8.toNat_ofNat']; omega)]
  | case5 p q r s digits ih =>
    rw [decodeDigits, encodeDigits, ih canonical,
      digit_eq (d := p) (by simp only [UInt8.toNat_ofNat']; omega),
      digit_eq (d := q) (by simp only [UInt8.toNat_ofNat']; omega),
      digit_eq (d := r) (by simp only [UInt8.toNat_ofNat']; omega),
      digit_eq (d := s) (by simp only [UInt8.toNat_ofNat']; omega)]

theorem length_encodeDigits_mod (bytes : List UInt8) : (encodeDigits bytes).length % 4 ≠ 1 := by
  induction bytes using encodeDigits.induct with
  | case1 | case2 | case3 => simp [encodeDigits]
  | case4 a b c bytes ih =>
    simp only [encodeDigits, List.length_cons]
    omega

/-- Two digits or more make a byte. -/
theorem decodeDigits_eq_nil_iff (digits : List (Fin 64)) :
    decodeDigits digits = [] ↔ digits.length ≤ 1 := by
  induction digits using decodeDigits.induct <;> simp [decodeDigits]

end Digits

section Forms

variable {text : List Char} {bytes : List UInt8}

/-- The digits of a form are those of its bytes. -/
theorem IsForm.digits (form : IsForm text bytes) :
    digits? (body text) = some (encodeDigits bytes) := by
  rcases form with rfl | rfl
  · rw [encode, unpadded, body_append_padding, digits?_map_char]
  · have alone := body_append_padding (encodeDigits bytes) 0
    rw [List.replicate_zero, List.append_nil] at alone
    rw [unpadded, alone, digits?_map_char]

theorem IsForm.wellFormed (form : IsForm text bytes) : isWellFormed text = true := by
  rw [isWellFormed, form.digits]
  simp only [isCanonical_encodeDigits, Bool.true_and, Bool.or_eq_true, beq_iff_eq]
  rcases form with rfl | rfl
  · right
    simp [encode, unpadded]
  · left
    simp [unpadded]

/-- A text is the base64 form of some bytes exactly if it is well formed. -/
theorem isForm_iff : (∃ bytes, IsForm text bytes) ↔ isWellFormed text = true := by
  refine ⟨fun ⟨_, form⟩ => form.wellFormed, fun wellFormed => ?_⟩
  unfold isWellFormed at wellFormed
  split at wellFormed
  next => cases wellFormed
  next digits read =>
    rw [Bool.and_eq_true, Bool.or_eq_true, beq_iff_eq, beq_iff_eq] at wellFormed
    obtain ⟨canonical, length⟩ := wellFormed
    have inner := map_char_of_digits? read
    have whole := body_append_replicate text
    have same := encodeDigits_decodeDigits canonical
    refine ⟨decodeDigits digits, ?_⟩
    rw [← inner, List.length_map] at whole
    rcases length with bare | full
    · right
      rw [unpadded, same, ← whole, bare]
      simp
    · left
      rw [encode, unpadded, same, ← whole, full]
      simp

theorem decode_encode (bytes : List UInt8) : decode (encode bytes) = some bytes := by
  have form : IsForm (encode bytes) bytes := .inl rfl
  have whole : (encode bytes).length =
      (encodeDigits bytes).length + padding (encodeDigits bytes).length := by
    simp [encode, unpadded]
  simp only [decode, form.digits]
  rw [if_pos ⟨length_encodeDigits_mod bytes, .inr whole⟩, decodeDigits_encodeDigits]

/-- The characters of a form. -/
theorem mem_encode {c : Char} (listed : c ∈ encode bytes) : c = '=' ∨ ∃ d, char d = c := by
  rcases List.mem_append.mp listed with digit | pad
  · obtain ⟨d, -, same⟩ := List.mem_map.mp digit
    exact .inr ⟨d, same⟩
  · exact .inl (List.eq_of_mem_replicate pad)

end Forms

end Nek0.Library.Base64
