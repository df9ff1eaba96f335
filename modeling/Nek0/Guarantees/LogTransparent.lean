import Nek0.Source.Redact

/-!
# Harmless log messages are logged as they are

`lead` holds the opening punctuation of a token only, while `core` is trimmed of all punctuation.
What lies between the two in a token such as `,abc` is counted in the offset of `trail`, so that as
many bytes of the core are pushed again, or the slice falls into a character.
-/

namespace Nek0.Guarantees

open Library Source Source.Redact

/-- No slice panics, and a message without a sensitive token is not changed. -/
structure LoggedAsIs (message : List Char) : Prop where
  safe : (redact message).isSome = true
  unchanged : (∀ token ∈ splitInclusive message, ¬ Sensitive (core (trimmed token))) →
    redact message = some message

/-- Where nothing is sensitive, the straight messages are those that stay as they are. -/
theorem redact_eq_self {message : List Char}
    (clean : ∀ token ∈ splitInclusive message, CutsCleanly (trimmed token))
    (harmless : ∀ token ∈ splitInclusive message, ¬ Sensitive (core (trimmed token))) :
    redact message = some message ↔
      ∀ token ∈ splitInclusive message, Straight (trimmed token) := by
  have whole := redactTokens_eq_self fun token listed out redacted =>
    (redactToken_harmless (harmless token listed) redacted).1
  rw [splitInclusive_flatten] at whole
  rw [redact, whole]
  refine forall₂_congr fun token listed => ?_
  have pushed := redactToken_isSome.mpr (clean token listed)
  obtain ⟨out, redacted⟩ := Option.isSome_iff_exists.mp pushed
  have kept := (redactToken_harmless (harmless token listed) redacted).2
  rw [redacted, ← kept, Option.some.injEq]

/-- `redact` slices at character boundaries, and leaves a message without sensitive tokens alone, if
and only if all tokens are cut cleanly and, where none is sensitive, are straight. -/
theorem logged_as_is_iff (message : List Char) :
    LoggedAsIs message ↔
      (∀ token ∈ splitInclusive message, CutsCleanly (trimmed token)) ∧
      ((∀ token ∈ splitInclusive message, ¬ Sensitive (core (trimmed token))) →
        ∀ token ∈ splitInclusive message, Straight (trimmed token)) := by
  constructor
  · rintro ⟨safe, unchanged⟩
    have clean := redactTokens_isSome.mp safe
    exact ⟨clean, fun harmless => (redact_eq_self clean harmless).mp (unchanged harmless)⟩
  · rintro ⟨clean, straight⟩
    exact ⟨redactTokens_isSome.mpr clean,
      fun harmless => (redact_eq_self clean harmless).mpr (straight harmless)⟩

/-- A comma in front of a word repeats the end of the word, or panics inside a character. -/
theorem comma_is_not_logged_as_is :
    ¬ LoggedAsIs ",abc".toList ∧ ¬ LoggedAsIs [',', '\u00e9'] := by
  constructor
  · intro ⟨_, unchanged⟩
    have repeated : redact ",abc".toList = some "abcc".toList := by decide +kernel
    have tokens : splitInclusive ",abc".toList = [",abc".toList] := by decide +kernel
    have kept : replacement (core (trimmed ",abc".toList)) = some none := by decide +kernel
    have same := unchanged fun token listed => by
      rw [tokens, List.mem_singleton] at listed
      rw [listed]
      exact not_sensitive kept
    rw [repeated] at same
    exact absurd same (by decide)
  · intro ⟨safe, _⟩
    exact absurd safe (by decide +kernel)

example : redact "event_loop: send_audio error: queue full (gen=3)".toList =
    some "event_loop: send_audio error: queue full (gen=3)".toList := by decide +kernel

end Nek0.Guarantees
