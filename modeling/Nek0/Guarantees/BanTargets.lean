import Nek0.Source.BanUid

/-!
# Whom a ban by unique id hits

The decoder takes any padding and any unused bits, and a ban is queued before it is known whether
its unique id can be decoded.
-/

namespace Nek0.Guarantees

open Nek0.Library.Base64 Nek0.Source Nek0.Source.BanUid

/-- The decoder inverts base64 on this text, or refuses it if it is no base64. -/
structure DecodesRight (text : String) : Prop where
  decoded : ∀ bytes, bytes ≠ [] → IsForm text.toList bytes → base64DecodeUid text = some bytes
  refused : (∀ bytes, ¬IsForm text.toList bytes) → base64DecodeUid text = none

/-- Base64, or less than two characters in front of the padding, or a foreign one among them. -/
def isClear (text : String) : Bool :=
  isWellFormed text.toList || (digits? (body text.toList)).all (·.length ≤ 1)

structure BanCall where
  connected : Bool
  queued : Bool
  uid : Option String
  seconds : UInt64
  reason : Option String

/-- What the call puts into the queue is sent as a ban of the unique id that it names. -/
def HitsTarget (call : BanCall) : Prop :=
  ∀ uid seconds reason,
    banUid call.connected call.queued call.uid call.seconds call.reason =
      some (.banUid uid seconds reason) →
    ∃ bytes, bytes ≠ [] ∧ IsForm uid.toList bytes ∧
      (banAdd (.banUid uid seconds reason)).bind (·.uid) = some bytes

/-- If the session takes the call, the trimmed unique id is base64. -/
def namesTarget (call : BanCall) : Bool :=
  !(call.connected && call.queued) || call.uid.all fun uid => isWellFormed (trim uid).toList

section Decoder

variable {text : String} {bytes : List UInt8}

theorem decoded_of_form (form : IsForm text.toList bytes) (some : bytes ≠ []) :
    base64DecodeUid text = Option.some bytes := by
  have long : ¬(encodeDigits bytes).length ≤ 1 := by
    rw [← decodeDigits_eq_nil_iff, decodeDigits_encodeDigits]
    exact some
  rw [base64DecodeUid_eq, form.digits]
  simp only [if_neg long, decodeDigits_encodeDigits]

theorem refused_iff : base64DecodeUid text = none ↔
    (digits? (body text.toList)).all (·.length ≤ 1) = true := by
  rw [base64DecodeUid_eq]
  cases digits? (body text.toList) with
  | none => simp
  | some digits => simp

theorem decodes_right_iff (text : String) : DecodesRight text ↔ isClear text = true := by
  rw [isClear, Bool.or_eq_true, ← refused_iff, ← isForm_iff]
  constructor
  · intro right
    by_cases form : ∃ bytes, IsForm text.toList bytes
    · exact .inl form
    · exact .inr (right.refused (not_exists.mp form))
  · intro clear
    refine ⟨fun bytes some form => decoded_of_form form some, fun formless => ?_⟩
    exact clear.resolve_left fun ⟨bytes, form⟩ => formless bytes form

end Decoder

theorem trim_eq_empty_of_form {text : String} (form : IsForm text.toList []) : text = "" := by
  rcases form with same | same <;> exact String.toList_injective same

theorem banUid_eq_some (call : BanCall) (command : Command) :
    banUid call.connected call.queued call.uid call.seconds call.reason = some command ↔
      call.connected = true ∧ call.queued = true ∧ ∃ uid, call.uid = some uid ∧ trim uid ≠ "" ∧
        .banUid (trim uid) call.seconds (optionalReason call.reason) = command := by
  simp only [banUid, Option.bind_eq_some_iff, Option.ite_none_left_eq_some, Option.some.injEq,
    not_or, Bool.not_eq_true', Bool.not_eq_false]
  constructor
  · rintro ⟨uid, named, ⟨visible, connected, queued⟩, same⟩
    exact ⟨connected, queued, uid, named, visible, same⟩
  · rintro ⟨connected, queued, uid, named, visible, same⟩
    exact ⟨uid, named, ⟨visible, connected, queued⟩, same⟩

theorem hits_target_iff (call : BanCall) : HitsTarget call ↔ namesTarget call = true := by
  rw [namesTarget, Bool.or_eq_true, Bool.not_eq_true', Bool.and_eq_false_iff, Option.all_eq_true]
  constructor
  · intro hits
    by_cases taken : call.connected = true ∧ call.queued = true
    · right
      intro uid named
      by_cases empty : trim uid = ""
      · rw [empty]
        rfl
      · obtain ⟨bytes, -, form, -⟩ := hits _ _ _ ((banUid_eq_some call _).mpr
          ⟨taken.1, taken.2, uid, named, empty, rfl⟩)
        exact form.wellFormed
    · simp only [not_and, Bool.not_eq_true] at taken
      left
      by_cases connected : call.connected = true
      · exact .inr (taken connected)
      · exact .inl (Bool.eq_false_iff.mpr connected)
  · intro clear uid seconds reason queued_ban
    obtain ⟨connected, queued, named, given, visible, same⟩ := (banUid_eq_some call _).mp queued_ban
    obtain ⟨rfl, -, -⟩ := Command.banUid.inj same
    have wellFormed := clear.resolve_left (by simp [connected, queued]) named given
    obtain ⟨bytes, form⟩ := isForm_iff.mpr wellFormed
    have some : bytes ≠ [] := by
      rintro rfl
      exact visible (trim_eq_empty_of_form form)
    refine ⟨bytes, some, form, ?_⟩
    rw [banAdd, Option.bind_some, ← decoded_of_form form some]

/-- The decoder is right on exactly the texts that are base64 or that it cannot read, and a ban
hits its target exactly if its unique id is base64 or the session does not take it. -/
theorem bans_hit_iff (text : String) (call : BanCall) :
    (DecodesRight text ↔ isClear text = true) ∧ (HitsTarget call ↔ namesTarget call = true) :=
  ⟨decodes_right_iff text, hits_target_iff call⟩

/-- Unused bits are dropped, and a nickname is queued as a ban without a target. -/
theorem ban_without_target :
    base64DecodeUid "QR==" = some [65] ∧ ¬DecodesRight "QR==" ∧
      (banAdd (.banUid "no uid" 0 none)).map (·.uid) = some none ∧
      ¬HitsTarget ⟨true, true, some "no uid", 0, none⟩ := by
  refine ⟨by decide +kernel, ?_, by decide +kernel, ?_⟩
  · rw [decodes_right_iff]
    decide +kernel
  · rw [hits_target_iff]
    decide +kernel

end Nek0.Guarantees
