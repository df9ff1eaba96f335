import Nek0.Source.Redact

/-!
# Secret values stay out of the log

The value of a secret key is replaced, but as many bytes from its end as the token has skipped
punctuation in front are pushed again behind the placeholder.
-/

namespace Nek0.Guarantees

open Library Source Source.Redact

/-- A message with a token for the value of a secret key. -/
structure SecretSpot where
  before : List Char
  front : List Char
  key : List Char
  separator : Char
  back : List Char
  after : List Char
  before_ends : ∀ c ∈ before.getLast?, isWhitespace c = true
  front_trimmed : ∀ c ∈ front, isTrimmed c = true
  key_secret : key.map Char.toLower ∈ SECRET_KEYS
  separates : isSeparator separator = true
  back_trimmed : ∀ c ∈ back, isTrimmed c = true
  after_begins : ∀ c ∈ after.head?, isWhitespace c = true

structure IsValue (value : List Char) : Prop where
  filled : value ≠ []
  plain : ∀ c ∈ value, isWhitespace c = false ∧ isTrimmed c = false

theorem isValue_of_all {value : List Char} (filled : value ≠ [])
    (plain : value.all (fun c => !isWhitespace c && !isTrimmed c) = true) : IsValue value :=
  ⟨filled, by simpa using plain⟩

namespace SecretSpot

def inner (spot : SecretSpot) (value : List Char) : List Char :=
  spot.key ++ spot.separator :: value

def token (spot : SecretSpot) (value : List Char) : List Char :=
  spot.front ++ (spot.inner value ++ spot.back)

def message (spot : SecretSpot) (value : List Char) : List Char :=
  spot.before ++ (spot.token value ++ spot.after)

/-- The log is the same for all values, in text and length. -/
def Hidden (spot : SecretSpot) : Prop :=
  ∀ v w, IsValue v → IsValue w → redact (spot.message v) = redact (spot.message w)

variable (spot : SecretSpot) {value : List Char}

theorem key_chars : ∀ c ∈ spot.key, isKeyChar c = true := (word_of_secret spot.key_secret).2

theorem inner_keyed (value : List Char) : Keyed (spot.inner value) spot.key value :=
  ⟨(word_of_secret spot.key_secret).1, spot.key_chars, spot.separator, spot.separates, rfl⟩

theorem inner_ends (valid : IsValue value) :
    (∀ c ∈ (spot.inner value).head?, isTrimmed c = false) ∧
      ∀ c ∈ (spot.inner value).getLast?, isTrimmed c = false := by
  constructor
  · intro c starts
    obtain ⟨d, key, key_eq⟩ := List.exists_cons_of_ne_nil (word_of_secret spot.key_secret).1
    have first : d = c := by simpa [inner, key_eq] using starts
    have listed : c ∈ spot.key := by simp [key_eq, first]
    exact (isKeyChar_plain (spot.key_chars c listed)).2.1
  · intro c ends
    obtain ⟨d, rest, rfl⟩ := List.exists_cons_of_ne_nil valid.filled
    have last : c ∈ (d :: rest).getLast? := by
      rwa [inner, List.getLast?_append_of_ne_nil _ (List.cons_ne_nil _ _),
        List.getLast?_cons_cons] at ends
    exact (valid.plain c (List.mem_of_getLast? last)).2

theorem token_chars (valid : IsValue value) : ∀ c ∈ spot.token value, isWhitespace c = false := by
  intro c listed
  simp only [token, inner, List.mem_append, List.mem_cons] at listed
  obtain front | ((key | rfl | chars) | back) := listed
  · exact (isTrimmed_plain (spot.front_trimmed c front)).1
  · exact (isKeyChar_plain (spot.key_chars c key)).1
  · exact (isSeparator_plain spot.separates).1
  · exact (valid.plain c chars).1
  · exact (isTrimmed_plain (spot.back_trimmed c back)).1

theorem token_parts (valid : IsValue value) :
    core (spot.token value) = spot.inner value ∧
      (spot.token value).takeWhile isOpening = spot.front.takeWhile isOpening ∧
      (spot.token value).dropWhile isOpening =
        spot.front.dropWhile isOpening ++ (spot.inner value ++ spot.back) :=
  have filled : spot.inner value ≠ [] := by simp [inner]
  parts_around spot.front_trimmed spot.back_trimmed filled (spot.inner_ends valid).1
    (spot.inner_ends valid).2

/-- What the log holds in place of the value. -/
def shown (spot : SecretSpot) : List Char :=
  spot.front.takeWhile isOpening ++ (spot.key ++ '=' :: PLACEHOLDER)

/-- Only the trail depends on the value. -/
theorem redact_message (valid : IsValue value) :
    redact (spot.message value) = (do
      let out ← redactTokens (splitInclusive spot.before)
      let trail ← trail (spot.token value)
      let rest ← redactTokens (splitInclusive (spot.after.drop 1))
      some (out ++ (spot.shown ++ trail ++ spot.after.take 1 ++ rest))) := by
  have filled : spot.token value ≠ [] := by simp [token, inner]
  have space : ∀ c ∈ spot.after.take 1, isWhitespace c = true := by
    intro c listed
    apply spot.after_begins
    cases after : spot.after with
    | nil => simp [after] at listed
    | cons d after =>
      obtain rfl : c = d := by simpa [after] using listed
      rfl
  obtain ⟨trims, behind⟩ := trimmed_word (spot.token_chars valid) space
  obtain ⟨core_eq, lead_eq, -⟩ := spot.token_parts valid
  have secret : SECRET_KEYS.contains (spot.key.map Char.toLower) = true :=
    List.contains_iff_mem.mpr spot.key_secret
  have replaced := (spot.inner_keyed value).replacement_eq
  rw [secret, Bool.true_or, if_pos rfl] at replaced
  rw [redact, message, splitInclusive_append spot.before_ends,
    splitInclusive_word filled (spot.token_chars valid) spot.after_begins, redactTokens_append,
    redactTokens, redactToken_eq, trims, behind, core_eq, lead_eq, replaced]
  cases redactTokens (splitInclusive spot.before) <;> cases trail (spot.token value) <;>
    cases redactTokens (splitInclusive (spot.after.drop 1)) <;> simp [shown]

/-- Behind opening punctuation, the trail is what is behind the value. -/
theorem trail_of_opening (opens : ∀ c ∈ spot.front, isOpening c = true) (valid : IsValue value) :
    trail (spot.token value) = some spot.back := by
  obtain ⟨core_eq, -, tail⟩ := spot.token_parts valid
  have none : spot.front.dropWhile isOpening = [] := List.dropWhile_eq_nil_iff.mpr opens
  rw [trail, core_eq, tail, none, List.nil_append, sliceFrom_left]

/-- Behind other punctuation, the trail holds the end of the value. -/
theorem trail_shows {c : Char} (crooked : spot.front.dropWhile isOpening ≠ [])
    (valid : IsValue [c]) (one : c.utf8Size = 1) :
    ∃ shown, trail (spot.token [c]) = some (shown ++ c :: spot.back) ∧
      shown = (spot.front.dropWhile isOpening ++ (spot.key ++ [spot.separator])).drop
        (spot.key.length + 2) := by
  let skip := spot.front.dropWhile isOpening
  have key_ascii : ∀ d ∈ spot.key, d.utf8Size = 1 :=
    fun d listed => (isKeyChar_plain (spot.key_chars d listed)).2.2.2
  have front_ascii : ∀ d ∈ skip, d.utf8Size = 1 := fun d listed =>
    (isTrimmed_plain (spot.front_trimmed d ((List.dropWhile_sublist _).mem listed))).2
  have back_ascii : ∀ d ∈ spot.back, d.utf8Size = 1 :=
    fun d listed => (isTrimmed_plain (spot.back_trimmed d listed)).2
  have inner_ascii : ∀ d ∈ spot.inner [c], d.utf8Size = 1 := by
    intro d listed
    simp only [inner, List.mem_append, List.mem_cons, List.not_mem_nil, or_false] at listed
    obtain key | rfl | rfl := listed
    · exact key_ascii d key
    · exact (isSeparator_plain spot.separates).2
    · exact one
  have ascii : ∀ d ∈ skip ++ (spot.inner [c] ++ spot.back), d.utf8Size = 1 := by
    simp only [List.forall_mem_append]
    exact ⟨front_ascii, inner_ascii, back_ascii⟩
  have bytes : byteLen (spot.inner [c]) = spot.key.length + 2 := by
    rw [byteLen_of_ascii inner_ascii, inner, List.length_append]
    rfl
  have some_skipped : 0 < skip.length := List.length_pos_iff.mpr crooked
  obtain ⟨core_eq, -, tail⟩ := spot.token_parts valid
  refine ⟨_, ?_, rfl⟩
  rw [trail, core_eq, tail, bytes, sliceFrom_ascii ascii]
  · have regroup : skip ++ (spot.inner [c] ++ spot.back) =
        (skip ++ (spot.key ++ [spot.separator])) ++ c :: spot.back := by simp [inner]
    rw [regroup, List.drop_append_of_le_length]
    simp only [List.length_append, List.length_cons, List.length_nil]
    omega
  · simp only [inner, List.length_append, List.length_cons, List.length_nil]
    omega

theorem redactTokens_after (spot : SecretSpot) :
    (redactTokens (splitInclusive (spot.after.drop 1))).isSome = true ↔
      ∀ token ∈ splitInclusive spot.after, CutsCleanly (trimmed token) := by
  rw [redactTokens_isSome]
  cases after : spot.after with
  | nil => rfl
  | cons c rest =>
    have space : isWhitespace c = true := spot.after_begins c (by rw [after]; rfl)
    have empty : trimmed [c] = [] := by simp [trimmed, space]
    have clean : CutsCleanly (trimmed [c]) := by
      rw [empty]
      decide
    simp [splitInclusive, space, clean]

end SecretSpot

/-- A secret is hidden if and only if no punctuation in front of its key is skipped, or the
message is never logged because another token panics. -/
theorem secret_hidden_iff (spot : SecretSpot) :
    spot.Hidden ↔ (∀ c ∈ spot.front, isOpening c = true) ∨
      ∃ token ∈ splitInclusive spot.before ++ splitInclusive spot.after,
        ¬ CutsCleanly (trimmed token) := by
  constructor
  · intro hidden
    by_contra neither
    obtain ⟨crooked, clean⟩ := not_or.mp neither
    have clean : ∀ token ∈ splitInclusive spot.before ++ splitInclusive spot.after,
        CutsCleanly (trimmed token) := by simpa using clean
    obtain ⟨before_clean, after_clean⟩ := List.forall_mem_append.mp clean
    obtain ⟨out, before_eq⟩ := Option.isSome_iff_exists.mp (redactTokens_isSome.mpr before_clean)
    obtain ⟨rest, after_eq⟩ := Option.isSome_iff_exists.mp (spot.redactTokens_after.mpr after_clean)
    have skips : spot.front.dropWhile isOpening ≠ [] :=
      fun none => crooked (List.dropWhile_eq_nil_iff.mp none)
    have first : IsValue ['a'] := isValue_of_all (by simp) (by decide)
    have second : IsValue ['b'] := isValue_of_all (by simp) (by decide)
    have same := hidden ['a'] ['b'] first second
    obtain ⟨shown, trail_eq, shown_eq⟩ := spot.trail_shows skips first rfl
    obtain ⟨again, other_eq, again_eq⟩ := spot.trail_shows skips second rfl
    obtain rfl : shown = again := shown_eq.trans again_eq.symm
    rw [spot.redact_message first, spot.redact_message second, before_eq, after_eq, trail_eq,
      other_eq] at same
    simp at same
  · rintro (opens | ⟨token, listed, panics⟩) v w first second
    · rw [spot.redact_message first, spot.redact_message second, spot.trail_of_opening opens first,
        spot.trail_of_opening opens second]
    · have lost : redactTokens (splitInclusive spot.before) = none ∨
          redactTokens (splitInclusive (spot.after.drop 1)) = none := by
        by_contra both
        simp only [not_or, ← ne_eq, ← Option.isSome_iff_ne_none] at both
        have clean := List.forall_mem_append.mpr
          ⟨redactTokens_isSome.mp both.1, spot.redactTokens_after.mp both.2⟩
        exact panics (clean token listed)
      rw [spot.redact_message first, spot.redact_message second]
      obtain before_none | after_none := lost
      · rw [before_none]
        rfl
      · rw [after_none]
        cases redactTokens (splitInclusive spot.before) <;> cases trail (spot.token v) <;>
          cases trail (spot.token w) <;> rfl

/-- A comma in front of `password=hunter2` puts the last character into the log. -/
theorem comma_shows_secret : ¬ ∀ spot : SecretSpot, spot.Hidden := by
  intro hidden
  let spot : SecretSpot :=
    { before := []
      front := [',']
      key := "password".toList
      separator := '='
      back := []
      after := []
      before_ends := by simp
      front_trimmed := List.forall_mem_singleton.mpr (by decide)
      key_secret := by decide
      separates := by decide
      back_trimmed := by simp
      after_begins := by simp }
  have first : IsValue "hunter2".toList := isValue_of_all (by decide) (by decide)
  have second : IsValue "letmein".toList := isValue_of_all (by decide) (by decide)
  have differ : redact (spot.message "hunter2".toList) ≠
      redact (spot.message "letmein".toList) := by decide +kernel
  exact differ (hidden spot _ _ first second)

end Nek0.Guarantees
