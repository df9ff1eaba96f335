import Nek0.Library.Base64
import Nek0.Source.Command
import Nek0.Source.Redact

/-!
# Bans by unique id

`ts_ban_uid` of `native/src/api.rs`, the branch of `event_loop` that runs its command, and
`base64_decode_uid` between the two.
-/

namespace Nek0.Source

open Library
open Nek0.Source.Redact (isWhitespace)

namespace BanUid

/-- `value`. The bytes of a character outside ASCII are foreign as well. -/
def value (c : Char) : Option UInt8 :=
  if 'A' ≤ c ∧ c ≤ 'Z' then some (c.toUInt8 - 'A'.toUInt8)
  else if 'a' ≤ c ∧ c ≤ 'z' then some (c.toUInt8 - 'a'.toUInt8 + 26)
  else if '0' ≤ c ∧ c ≤ '9' then some (c.toUInt8 - '0'.toUInt8 + 52)
  else if c = '+' then some 62
  else if c = '/' then some 63
  else none

/-- The variables of the loop. -/
structure Accumulator where
  buf : UInt32
  bits : Nat
  out : List UInt8
  deriving DecidableEq, Repr

def Accumulator.push (acc : Accumulator) (v : UInt8) : Accumulator :=
  let buf := (acc.buf <<< 6) ||| v.toUInt32
  let bits := acc.bits + 6
  if 8 ≤ bits then
    ⟨buf, bits - 8, acc.out ++ [(buf >>> UInt32.ofNat (bits - 8)).toUInt8]⟩
  else ⟨buf, bits, acc.out⟩

def base64DecodeUid (input : String) : Option (List UInt8) :=
  let input := input.toList.rdropWhile (· == '=')
  if input = [] then none
  else
    match input.foldlM (fun acc c => (value c).map acc.push) (⟨0, 0, []⟩ : Accumulator) with
    | none => none
    | some acc => if acc.out = [] then none else some acc.out

/-- `str::trim` -/
def trim (text : String) : String :=
  .ofList ((text.toList.dropWhile isWhitespace).rdropWhile isWhitespace)

def REASON_MAX : Nat := 200

def optionalReason (raw : Option String) : Option String :=
  raw.bind fun value =>
    let trimmed := trim value
    if trimmed = "" then none else some (.ofList (trimmed.toList.take REASON_MAX))

/-- `ts_ban_uid`, with the command that it queues. A null pointer is `none`; `queued` says whether
the channel takes the command. -/
def banUid (connected queued : Bool) (uid : Option String) (seconds : UInt64)
    (reason : Option String) : Option Command :=
  uid.bind fun uid =>
    let uid := trim uid
    if uid = "" ∨ !connected ∨ !queued then none
    else some (.banUid uid seconds (optionalReason reason))

structure OutBanAddPart where
  ip : Option String
  name : Option String
  uid : Option (List UInt8)
  /-- Seconds, without which the ban is permanent. -/
  time : Option Int
  banReason : Option String
  deriving DecidableEq, Repr

/-- `banadd` for `Command::BanUid` -/
def banAdd : Command → Option OutBanAddPart
  | .banUid uid seconds reason =>
    some ⟨none, none, base64DecodeUid uid,
      if 0 < seconds then some seconds.toInt64.toInt else none, reason⟩
  | _ => none

section Decoder

open Base64

theorem value_of_ascii (n : Fin 128) :
    value (Char.ofNat n) = (digit? (Char.ofNat n)).map fun d => .ofNat d.val := by
  revert n
  decide +kernel

theorem char_ascii (d : Fin 64) : (char d).toNat < 128 := by
  revert d
  decide +kernel

/-- A character has a value exactly if it is in the alphabet. -/
theorem value_eq (c : Char) : value c = (digit? c).map fun d => .ofNat d.val := by
  by_cases small : c.toNat < 128
  · have ascii := value_of_ascii ⟨c.toNat, small⟩
    rwa [Char.ofNat_toNat] at ascii
  · have outside (bound : Char) (low : bound.toNat < 128) : ¬c ≤ bound := fun le =>
      small (lt_of_le_of_lt (Char.le_def.mp le) low)
    have other (d : Char) (low : d.toNat < 128) : c ≠ d := fun same => small (same ▸ low)
    have foreign : digit? c = none := by
      cases found : digit? c with
      | none => rfl
      | some d => exact absurd (char_of_digit? found).symm (other _ (char_ascii d))
    rw [foreign, value, if_neg fun range => outside 'Z' (by decide) range.2,
      if_neg fun range => outside 'z' (by decide) range.2,
      if_neg fun range => outside '9' (by decide) range.2, if_neg (other '+' (by decide)),
      if_neg (other '/' (by decide))]
    rfl

theorem push_bits (acc : Accumulator) (v : UInt8) :
    (acc.push v).bits = if 8 ≤ acc.bits + 6 then acc.bits - 2 else acc.bits + 6 := by
  unfold Accumulator.push
  dsimp only
  split <;> rfl

/-- The digit goes in at the low end, and the high end is lost. -/
theorem push_buf (acc : Accumulator) (d : Fin 64) :
    (acc.push (.ofNat d.val)).buf.toNat = (acc.buf.toNat * 64 + d.val) % 2 ^ 32 := by
  have small := d.isLt
  have same : (acc.push (.ofNat d.val)).buf = (acc.buf <<< 6) ||| (UInt8.ofNat d.val).toUInt32 := by
    unfold Accumulator.push
    dsimp only
    split <;> rfl
  have shifted : (acc.buf <<< 6).toNat = (acc.buf.toNat % 2 ^ 26) <<< 6 := by
    simp [Nat.shiftLeft_eq]
    omega
  have low : (UInt8.ofNat d.val).toUInt32.toNat = d.val := by
    simp
    omega
  rw [same, UInt32.toNat_or, shifted, low, ← Nat.shiftLeft_add_eq_or_of_lt (by omega),
    Nat.shiftLeft_eq]
  omega

theorem push_out (acc : Accumulator) (v : UInt8) (few : acc.bits < 8) :
    (acc.push v).out = if 8 ≤ acc.bits + 6 then
      acc.out ++ [.ofNat ((acc.push v).buf.toNat / 2 ^ (acc.bits - 2))] else acc.out := by
  unfold Accumulator.push
  dsimp only
  split
  next =>
    have shift : (UInt32.ofNat (acc.bits + 6 - 8)).toNat % 32 = acc.bits - 2 := by
      rw [UInt32.toNat_ofNat']
      omega
    refine congrArg (fun byte => acc.out ++ [byte]) (UInt8.toNat_inj.mp ?_)
    rw [UInt32.toNat_toUInt8, UInt32.toNat_shiftRight, shift, UInt8.toNat_ofNat',
      Nat.shiftRight_eq_div_pow]
  next => rfl

/-- Between two groups no bits are left over, and what is in the buffer does not matter. -/
theorem push_group (acc : Accumulator) (aligned : acc.bits = 0) (p q r s : Fin 64) :
    let first := acc.push (.ofNat p.val)
    let second := first.push (.ofNat q.val)
    let third := second.push (.ofNat r.val)
    let fourth := third.push (.ofNat s.val)
    first.out = acc.out ∧ second.out = first.out ++ [.ofNat (p * 4 + q / 16)] ∧
      third.out = second.out ++ [.ofNat (q * 16 + r / 4)] ∧
      fourth.out = third.out ++ [.ofNat (r * 64 + s)] ∧ fourth.bits = 0 := by
  intro first second third fourth
  have six : first.bits = 6 := by rw [push_bits, aligned, if_neg (by decide)]
  have four : second.bits = 4 := by rw [push_bits, six, if_pos (by decide)]
  have two : third.bits = 2 := by rw [push_bits, four, if_pos (by decide)]
  have none : fourth.bits = 0 := by rw [push_bits, two, if_pos (by decide)]
  have buf₁ : first.buf.toNat = (acc.buf.toNat * 64 + p.val) % 2 ^ 32 := push_buf acc p
  have buf₂ : second.buf.toNat = (first.buf.toNat * 64 + q.val) % 2 ^ 32 := push_buf first q
  have buf₃ : third.buf.toNat = (second.buf.toNat * 64 + r.val) % 2 ^ 32 := push_buf second r
  have buf₄ : fourth.buf.toNat = (third.buf.toNat * 64 + s.val) % 2 ^ 32 := push_buf third s
  refine ⟨?_, ?_, ?_, ?_, none⟩
  · rw [push_out _ _ (by omega), aligned, if_neg (by decide)]
  · rw [push_out _ _ (by omega), six, if_pos (by decide)]
    refine congrArg (fun byte => first.out ++ [byte]) (byte_eq ?_)
    rw [UInt8.toNat_ofNat']
    change second.buf.toNat / 2 ^ 4 % 256 = _
    omega
  · rw [push_out _ _ (by omega), four, if_pos (by decide)]
    refine congrArg (fun byte => second.out ++ [byte]) (byte_eq ?_)
    rw [UInt8.toNat_ofNat']
    change third.buf.toNat / 2 ^ 2 % 256 = _
    omega
  · rw [push_out _ _ (by omega), two, if_pos (by decide)]
    refine congrArg (fun byte => third.out ++ [byte]) (byte_eq ?_)
    rw [UInt8.toNat_ofNat']
    change fourth.buf.toNat / 2 ^ 0 % 256 = _
    omega

/-- The loop over characters of the alphabet. -/
def Accumulator.pushAll (acc : Accumulator) (digits : List (Fin 64)) : Accumulator :=
  digits.foldl (fun acc d => acc.push (.ofNat d.val)) acc

theorem pushAll_out (acc : Accumulator) (digits : List (Fin 64)) (aligned : acc.bits = 0) :
    (acc.pushAll digits).out = acc.out ++ decodeDigits digits := by
  induction digits using decodeDigits.induct generalizing acc with
  | case1 => exact (List.append_nil acc.out).symm
  | case2 p =>
    obtain ⟨first, -⟩ := push_group acc aligned p 0 0 0
    exact first.trans (List.append_nil acc.out).symm
  | case3 p q =>
    obtain ⟨first, second, -⟩ := push_group acc aligned p q 0 0
    rw [first] at second
    exact second
  | case4 p q r =>
    obtain ⟨first, second, third, -⟩ := push_group acc aligned p q r 0
    rw [second, first, List.append_assoc] at third
    exact third
  | case5 p q r s digits ih =>
    obtain ⟨first, second, third, fourth, none⟩ := push_group acc aligned p q r s
    have rest := ih _ none
    rw [fourth, third, second, first, List.append_assoc, List.append_assoc, List.append_assoc]
      at rest
    exact rest

/-- The loop stops at a character outside the alphabet. -/
theorem foldlM_push (text : List Char) (acc : Accumulator) :
    text.foldlM (fun acc c => (value c).map acc.push) acc = (digits? text).map acc.pushAll := by
  induction text generalizing acc with
  | nil => rfl
  | cons c text ih =>
    rw [List.foldlM_cons, value_eq]
    cases first : digit? c with
    | none => simp [digits?, first]
    | some d =>
      simp only [Option.map_some, Option.bind_eq_bind, Option.bind_some, ih]
      simp only [digits?, List.mapM_cons, first, Option.bind_eq_bind, Option.bind_some]
      cases text.mapM digit? <;> rfl

/-- The decoder reads what is in front of the padding, whatever that is. -/
theorem base64DecodeUid_eq (input : String) : base64DecodeUid input =
    match digits? (body input.toList) with
    | none => none
    | some digits => if digits.length ≤ 1 then none else some (decodeDigits digits) := by
  have inner : input.toList.rdropWhile (· == '=') = body input.toList := rfl
  unfold base64DecodeUid
  dsimp only
  rw [inner, foldlM_push]
  split
  next empty =>
    rw [empty]
    rfl
  next =>
    cases digits? (body input.toList) with
    | none => rfl
    | some digits =>
      have bytes := pushAll_out ⟨0, 0, []⟩ digits rfl
      simp only [List.nil_append] at bytes
      simp only [Option.map_some, bytes, decodeDigits_eq_nil_iff]

end Decoder

end BanUid

end Nek0.Source
