import Mathlib.Data.List.DropRight
import Nek0.Library.ByteSlice

/-!
# Redaction of log messages

`redact` of `native/src/lib.rs` on characters, sliced at byte offsets. It has no value where a
slice of the source panics. Log levels and the panic hook that logs are not here.
-/

namespace Nek0.Source.Redact

open Library

/-- `char::is_whitespace` -/
def isWhitespace (c : Char) : Bool :=
  let n := c.toNat
  (9 ≤ n && n ≤ 13) || n == 0x20 || n == 0x85 || n == 0xA0 || n == 0x1680 ||
    (0x2000 ≤ n && n ≤ 0x200A) || n == 0x2028 || n == 0x2029 || n == 0x202F || n == 0x205F ||
    n == 0x3000

/-- What `core` leaves out at both ends. -/
def TRIMMED : List Char := ['\x22', '\x27', ',', ';', '(', ')', '[', ']', '\x7b', '\x7d']

/-- What counts as `lead`. -/
def OPENING : List Char := ['\x22', '\x27', '(', '[', '\x7b']

def isTrimmed (c : Char) : Bool := TRIMMED.contains c

def isOpening (c : Char) : Bool := OPENING.contains c

def isKeyChar (c : Char) : Bool := c.isAlphanum || c == '_'

def isSeparator (c : Char) : Bool := c == '=' || c == ':'

def PLACEHOLDER : List Char := "<redacted>".toList

/-- Keys whose value is always secret. -/
def SECRET_KEYS : List (List Char) :=
  ["password".toList, "passwd".toList, "pwd".toList, "token".toList, "secret".toList,
    "identity".toList, "client_identity".toList, "uid".toList, "nickname".toList]

def looksSensitive (value : List Char) : Bool :=
  let host := value.contains '.' && 3 < byteLen value &&
    value.all (fun c => c.isAlphanum || ['.', ':', '-', '_'].contains c) &&
    value.any fun c => c.isAlpha || c == ':'
  let blob := 24 ≤ byteLen value &&
    value.all fun c => c.isAlphanum || c == '+' || c == '/' || c == '='
  host || blob

/-- `message.split_inclusive(char::is_whitespace)` -/
def splitInclusive : List Char → List (List Char)
  | [] => []
  | c :: text =>
    if isWhitespace c then [c] :: splitInclusive text
    else
      match splitInclusive text with
      | [] => [[c]]
      | token :: tokens => (c :: token) :: tokens

/-- `trim_end` -/
def trimmed (token : List Char) : List Char := token.rdropWhile isWhitespace

/-- `trim_matches` -/
def core (trimmed : List Char) : List Char := (trimmed.dropWhile isTrimmed).rdropWhile isTrimmed

/-- The offset of the separator of `key=value` or `key:value`. -/
def separator (core : List Char) : Option (Option Nat) :=
  match findByte isSeparator core with
  | none => some none
  | some index => do
    let key ← sliceTo core index
    some (if !key.isEmpty && key.all isKeyChar then some index else none)

def replacement (core : List Char) : Option (Option (List Char)) := do
  match ← separator core with
  | some index =>
    let key ← sliceTo core index
    let value ← sliceFrom core (index + 1)
    some (if SECRET_KEYS.contains (key.map Char.toLower) || looksSensitive value then
      some (key ++ '=' :: PLACEHOLDER) else none)
  | none => some (if looksSensitive core then some PLACEHOLDER else none)

/-- One round of the loop: what is pushed for a token. -/
def redactToken (token : List Char) : Option (List Char) := do
  let trimmed := trimmed token
  let whitespace ← sliceFrom token (byteLen trimmed)
  let core := core trimmed
  let leadLen := byteLen trimmed - byteLen (trimmed.dropWhile isOpening)
  let lead ← sliceTo trimmed leadLen
  let tail ← sliceFrom trimmed leadLen
  let trail ← sliceFrom tail (byteLen core)
  let replacement ← replacement core
  some (lead ++ replacement.getD core ++ trail ++ whitespace)

def redactTokens : List (List Char) → Option (List Char)
  | [] => some []
  | token :: tokens => do
    let out ← redactToken token
    let rest ← redactTokens tokens
    some (out ++ rest)

def redact (message : List Char) : Option (List Char) := redactTokens (splitInclusive message)

section Characters

variable {c : Char}

/-- Facts about characters of one byte are checked one by one. -/
theorem forall_ascii {p : Char → Prop} (checked : ∀ n < 128, p (Char.ofNat n))
    (small : c.toNat < 128) : p c := by
  have holds := checked c.toNat small
  rwa [Char.ofNat_toNat] at holds

theorem toNat_of_isKeyChar (key : isKeyChar c = true) : c.toNat < 128 := by
  delta isKeyChar Char.isAlphanum Char.isAlpha Char.isUpper Char.isLower Char.isDigit at key
  simp only [Bool.or_eq_true, Bool.and_eq_true, decide_eq_true_eq, beq_iff_eq, ge_iff_le,
    UInt32.le_iff_toNat_le] at key
  obtain (((upper | lower) | digit) | rfl) := key
  · exact Nat.lt_of_le_of_lt upper.2 (by decide)
  · exact Nat.lt_of_le_of_lt lower.2 (by decide)
  · exact Nat.lt_of_le_of_lt digit.2 (by decide)
  · decide

theorem isKeyChar_plain (key : isKeyChar c = true) :
    isWhitespace c = false ∧ isTrimmed c = false ∧ isSeparator c = false ∧ c.utf8Size = 1 := by
  let plain (c : Char) : Prop := isKeyChar c = true →
    isWhitespace c = false ∧ isTrimmed c = false ∧ isSeparator c = false ∧ c.utf8Size = 1
  have checked : ∀ n < 128, plain (Char.ofNat n) := by decide
  have holds : plain c := forall_ascii checked (toNat_of_isKeyChar key)
  exact holds key

theorem isTrimmed_plain (dropped : isTrimmed c = true) :
    isWhitespace c = false ∧ c.utf8Size = 1 := by
  have checked : TRIMMED.all (fun c => !isWhitespace c && c.utf8Size == 1) = true := by decide
  have plain := List.all_eq_true.mp checked c (List.contains_iff_mem.mp dropped)
  simpa using plain

theorem isTrimmed_of_isOpening (opens : isOpening c = true) : isTrimmed c = true := by
  have checked : OPENING.all isTrimmed = true := by decide
  exact List.all_eq_true.mp checked c (List.contains_iff_mem.mp opens)

theorem isSeparator_plain (separates : isSeparator c = true) :
    isWhitespace c = false ∧ c.utf8Size = 1 := by
  simp only [isSeparator, Bool.or_eq_true, beq_iff_eq] at separates
  obtain rfl | rfl := separates <;> decide

/-- Only letters have another case. -/
theorem isKeyChar_of_toLower (key : isKeyChar c.toLower = true) : isKeyChar c = true := by
  unfold Char.toLower at key
  split at key
  next upper =>
    have letter : c.isUpper = true := by
      delta Char.isUpper
      simpa using upper
    delta isKeyChar Char.isAlphanum Char.isAlpha
    simp [letter]
  · exact key

theorem word_of_secret {key : List Char} (secret : key.map Char.toLower ∈ SECRET_KEYS) :
    key ≠ [] ∧ ∀ c ∈ key, isKeyChar c = true := by
  have checked : SECRET_KEYS.all (fun key => !key.isEmpty && key.all isKeyChar) = true := by decide
  have word := List.all_eq_true.mp checked _ secret
  simp only [Bool.and_eq_true, Bool.not_eq_true', List.isEmpty_eq_false_iff,
    List.all_eq_true] at word
  obtain ⟨filled, word⟩ := word
  refine ⟨fun empty => filled (by rw [empty]; rfl), fun c listed => ?_⟩
  exact isKeyChar_of_toLower (word _ (List.mem_map_of_mem listed))

end Characters

section Parts

variable {text key value rest : List Char}

/-- Punctuation in front that is neither in `lead` nor in `core`. -/
def skipped (trimmed : List Char) : List Char := (trimmed.dropWhile isOpening).takeWhile isTrimmed

/-- Punctuation behind `core`. -/
def trailing (trimmed : List Char) : List Char := (trimmed.dropWhile isTrimmed).rtakeWhile isTrimmed

def trail (trimmed : List Char) : Option (List Char) :=
  sliceFrom (trimmed.dropWhile isOpening) (byteLen (core trimmed))

theorem dropWhile_opening (text : List Char) :
    (text.dropWhile isOpening).dropWhile isTrimmed = text.dropWhile isTrimmed := by
  induction text with
  | nil => rfl
  | cons c text ih =>
    by_cases opens : isOpening c = true
    · rw [List.dropWhile_cons_of_pos opens, ih,
        List.dropWhile_cons_of_pos (isTrimmed_of_isOpening opens)]
    · rw [List.dropWhile_cons_of_neg opens]

theorem tail_eq (text : List Char) :
    text.dropWhile isOpening = skipped text ++ (core text ++ trailing text) := by
  rw [core, trailing, List.rdropWhile_append_rtakeWhile, ← dropWhile_opening, skipped,
    List.takeWhile_append_dropWhile]

theorem byteLen_trimmed_chars (punctuation : ∀ c ∈ text, isTrimmed c = true) :
    byteLen text = text.length :=
  byteLen_of_ascii fun c listed => (isTrimmed_plain (punctuation c listed)).2

theorem mem_skipped {c : Char} (listed : c ∈ skipped text) : isTrimmed c = true :=
  List.mem_takeWhile_imp listed

theorem byteLen_skipped : byteLen (skipped text) = (skipped text).length :=
  byteLen_trimmed_chars fun _ => mem_skipped

/-- The first character of a core is no punctuation. -/
theorem core_cons {c : Char} (starts : core text = c :: rest) : isTrimmed c = false := by
  obtain ⟨trailing, whole⟩ := List.rdropWhile_prefix isTrimmed (l := text.dropWhile isTrimmed)
  have first := List.head?_dropWhile_not isTrimmed text
  rw [core] at starts
  rw [← whole, starts] at first
  simpa using first

/-- What a token becomes, from its parts. -/
theorem redactToken_eq (token : List Char) :
    redactToken token = (do
      let trail ← trail (trimmed token)
      let replacement ← replacement (core (trimmed token))
      some ((trimmed token).takeWhile isOpening ++ replacement.getD (core (trimmed token)) ++
        trail ++ token.rtakeWhile isWhitespace)) := by
  have whitespace : sliceFrom token (byteLen (trimmed token)) =
      some (token.rtakeWhile isWhitespace) := by
    have left : sliceFrom (trimmed token ++ token.rtakeWhile isWhitespace)
        (byteLen (trimmed token)) = some (token.rtakeWhile isWhitespace) := sliceFrom_left
    rwa [trimmed, List.rdropWhile_append_rtakeWhile] at left
  let opening := (trimmed token).takeWhile isOpening
  let tail := (trimmed token).dropWhile isOpening
  have whole : opening ++ tail = trimmed token := List.takeWhile_append_dropWhile
  have leadLen : byteLen (trimmed token) - byteLen tail = byteLen opening := by
    rw [← whole, byteLen_append, Nat.add_sub_cancel]
  have lead : sliceTo (trimmed token) (byteLen opening) = some opening := by
    rw [← whole]
    exact sliceTo_left
  have rest : sliceFrom (trimmed token) (byteLen opening) = some tail := by
    rw [← whole]
    exact sliceFrom_left
  simp only [redactToken, whitespace, leadLen, lead, rest, trail, Option.bind_eq_bind,
    Option.bind_some, opening, tail]

/-- The slice behind `core` begins between two characters. -/
def CutsCleanly (trimmed : List Char) : Prop :=
  (sliceFrom (core trimmed) (byteLen (core trimmed) - (skipped trimmed).length)).isSome = true

instance : Decidable (CutsCleanly text) := inferInstanceAs (Decidable (_ = true))

/-- `lead` holds all punctuation in front of `core`. -/
def Straight (trimmed : List Char) : Prop := core trimmed = [] ∨ skipped trimmed = []

instance : Decidable (Straight text) := inferInstanceAs (Decidable (_ ∨ _))

/-- Behind `core` the code pushes as many of its last bytes as it skipped in front. -/
theorem trail_of_long (long : (skipped text).length ≤ byteLen (core text)) :
    trail text = (sliceFrom (core text) (byteLen (core text) - (skipped text).length)).map
      (· ++ trailing text) := by
  rw [← byteLen_skipped] at long ⊢
  rw [trail, tail_eq, sliceFrom_append long, sliceFrom_within (Nat.sub_le _ _)]

theorem trail_of_short (short : byteLen (core text) ≤ (skipped text).length) :
    trail text = some ((skipped text).drop (byteLen (core text)) ++
      (core text ++ trailing text)) := by
  have ascii : ∀ c ∈ skipped text, c.utf8Size = 1 :=
    fun c listed => (isTrimmed_plain (mem_skipped listed)).2
  rw [trail, tail_eq, sliceFrom_within (by rwa [byteLen_skipped]), sliceFrom_ascii ascii short]
  rfl

theorem trail_isSome : (trail text).isSome = true ↔ CutsCleanly text := by
  obtain short | long := Nat.le_total (byteLen (core text)) (skipped text).length
  · rw [trail_of_short short, CutsCleanly, Nat.sub_eq_zero_of_le short]
    simp
  · rw [trail_of_long long, CutsCleanly, Option.isSome_map]

theorem core_append_trail {rest : List Char} (sliced : trail text = some rest) :
    core text ++ rest = text.dropWhile isOpening ↔ Straight text := by
  have parts := tail_eq text
  constructor
  · intro same
    cases core_eq : core text with
    | nil => exact .inl core_eq
    | cons c inner =>
      cases skipped_eq : skipped text with
      | nil => exact .inr skipped_eq
      | cons d others =>
        have trimmed : isTrimmed d = true := mem_skipped (by rw [skipped_eq]; simp)
        rw [parts, core_eq, skipped_eq] at same
        have head : c = d := (List.cons.inj same).1
        rw [← head, core_cons core_eq] at trimmed
        cases trimmed
  · rintro (empty | none)
    · rw [trail, empty, byteLen_nil, sliceFrom_zero] at sliced
      rw [empty, List.nil_append, Option.some.inj sliced]
    · rw [none, List.nil_append] at parts
      rw [trail, parts, sliceFrom_left] at sliced
      rw [parts, Option.some.inj sliced]

theorem byteLen_trail {rest : List Char} (sliced : trail text = some rest) :
    byteLen (core text ++ rest) = byteLen (text.dropWhile isOpening) := by
  rw [byteLen_append, Nat.add_comm, byteLen_sliceFrom sliced]

end Parts

section Secrets

variable {core key value : List Char}

/-- `key=value` or `key:value`. -/
structure Keyed (core key value : List Char) : Prop where
  filled : key ≠ []
  word : ∀ c ∈ key, isKeyChar c = true
  split : ∃ separator, isSeparator separator = true ∧ core = key ++ separator :: value

/-- A secret key, or something that looks sensitive. -/
def Sensitive (core : List Char) : Prop :=
  (∃ key value, Keyed core key value ∧
    (key.map Char.toLower ∈ SECRET_KEYS ∨ looksSensitive value = true)) ∨
  (∀ key value, ¬ Keyed core key value) ∧ looksSensitive core = true

theorem isKey_iff : (!key.isEmpty && key.all isKeyChar) = true ↔
    key ≠ [] ∧ ∀ c ∈ key, isKeyChar c = true := by
  simp

theorem Keyed.separator_eq (keyed : Keyed core key value) :
    separator core = some (some (byteLen key)) := by
  obtain ⟨filled, word, s, separates, rfl⟩ := keyed
  have none : ∀ c ∈ key, isSeparator c = false :=
    fun c listed => (isKeyChar_plain (word c listed)).2.2.1
  have found : findByte isSeparator (key ++ s :: value) = some (byteLen key) :=
    findByte_append none separates
  rw [separator, found]
  simp only [sliceTo_left, Option.bind_eq_bind, Option.bind_some]
  rw [if_pos (isKey_iff.mpr ⟨filled, word⟩)]

/-- Without a key in front of it, no separator counts. -/
theorem separator_eq_none (plain : ∀ key value, ¬ Keyed core key value) :
    separator core = some none := by
  unfold separator
  split
  · rfl
  next index found =>
    obtain ⟨key, s, value, rfl, rfl, separates⟩ := split_of_findByte found
    simp only [sliceTo_left, Option.bind_eq_bind, Option.bind_some]
    rw [if_neg]
    intro isKey
    obtain ⟨filled, word⟩ := isKey_iff.mp isKey
    exact plain key value ⟨filled, word, s, separates, rfl⟩

theorem Keyed.replacement_eq (keyed : Keyed core key value) :
    replacement core = some
      (if SECRET_KEYS.contains (key.map Char.toLower) || looksSensitive value then
        some (key ++ '=' :: PLACEHOLDER) else none) := by
  have found := keyed.separator_eq
  obtain ⟨-, -, s, separates, rfl⟩ := keyed
  have value_eq : sliceFrom (key ++ s :: value) (byteLen key + 1) = some value := by
    have one := (isSeparator_plain separates).2
    rw [sliceFrom_append (Nat.le_add_right _ _), Nat.add_sub_cancel_left,
      sliceFrom_cons (by omega), one, sliceFrom_zero]
  simp [replacement, found, sliceTo_left, value_eq]

theorem replacement_of_plain (plain : ∀ key value, ¬ Keyed core key value) :
    replacement core = some (if looksSensitive core then some PLACEHOLDER else none) := by
  simp [replacement, separator_eq_none plain]

theorem Keyed.unique {other rest : List Char} (keyed : Keyed core key value)
    (again : Keyed core other rest) : key = other ∧ value = rest := by
  have same := keyed.separator_eq.symm.trans again.separator_eq
  simp only [Option.some.injEq] at same
  obtain ⟨-, -, s, -, rfl⟩ := keyed
  obtain ⟨-, -, t, -, parts⟩ := again
  obtain ⟨keys, rests⟩ := append_inj_of_byteLen parts same
  exact ⟨keys, (List.cons.inj rests).2⟩

/-- Finding the replacement slices cleanly, and there is one for what is sensitive. -/
theorem replacement_isSome (core : List Char) :
    ∃ found, replacement core = some found ∧ (found.isSome = true ↔ Sensitive core) := by
  by_cases keyed : ∃ key value, Keyed core key value
  · obtain ⟨key, value, keyed⟩ := keyed
    refine ⟨_, keyed.replacement_eq, ?_⟩
    constructor
    · intro replaced
      have secret : (SECRET_KEYS.contains (key.map Char.toLower) ||
          looksSensitive value) = true := by
        by_contra harmless
        rw [if_neg harmless] at replaced
        cases replaced
      exact .inl ⟨key, value, keyed, by simpa using secret⟩
    · rintro (⟨other, rest, again, secret⟩ | ⟨plain, -⟩)
      · obtain ⟨rfl, rfl⟩ := keyed.unique again
        rw [if_pos (by simpa using secret)]
        rfl
      · exact absurd keyed (plain key value)
  · have plain : ∀ key value, ¬ Keyed core key value :=
      fun key value found => keyed ⟨key, value, found⟩
    refine ⟨_, replacement_of_plain plain, ?_⟩
    have neither : Sensitive core ↔ looksSensitive core = true :=
      ⟨fun sensitive => sensitive.elim
        (fun ⟨key, value, found, _⟩ => absurd found (plain key value)) (·.2),
        fun looks => .inr ⟨plain, looks⟩⟩
    rw [neither]
    cases looksSensitive core <;> simp

theorem not_sensitive (kept : replacement core = some none) : ¬ Sensitive core := by
  obtain ⟨found, replaced, sensitive⟩ := replacement_isSome core
  rw [kept, Option.some.injEq] at replaced
  rw [← sensitive, ← replaced]
  simp

end Secrets

section Tokens

variable {text token : List Char} {tokens : List (List Char)}

theorem splitInclusive_flatten (text : List Char) : (splitInclusive text).flatten = text := by
  induction text with
  | nil => rfl
  | cons c text ih =>
    rw [splitInclusive]
    split
    · rw [List.flatten_cons, ih]
      rfl
    · split
      next none =>
        rw [none] at ih
        rw [← ih]
        rfl
      next token tokens some =>
        rw [some] at ih
        rw [List.flatten_cons, List.cons_append, ← List.flatten_cons, ih]

theorem redactToken_isSome :
    (redactToken token).isSome = true ↔ CutsCleanly (trimmed token) := by
  obtain ⟨found, replaced, -⟩ := replacement_isSome (core (trimmed token))
  rw [redactToken_eq, replaced, ← trail_isSome]
  cases trail (trimmed token) <;> simp

/-- A token that is not sensitive keeps its length, and its text where it is straight. -/
theorem redactToken_harmless {out : List Char} (harmless : ¬ Sensitive (core (trimmed token)))
    (redacted : redactToken token = some out) :
    byteLen out = byteLen token ∧ (out = token ↔ Straight (trimmed token)) := by
  obtain ⟨found, replaced, sensitive⟩ := replacement_isSome (core (trimmed token))
  have kept : found = none := by
    rw [← Option.not_isSome_iff_eq_none, sensitive]
    exact harmless
  cases sliced : trail (trimmed token) with
  | none =>
    rw [redactToken_eq, sliced] at redacted
    cases redacted
  | some rest =>
    let opening := (trimmed token).takeWhile isOpening
    let tail := (trimmed token).dropWhile isOpening
    let whitespace := token.rtakeWhile isWhitespace
    have out_eq : out = opening ++ ((core (trimmed token) ++ rest) ++ whitespace) := by
      rw [redactToken_eq, sliced, replaced, kept] at redacted
      simpa [opening, whitespace] using redacted.symm
    have token_eq : token = opening ++ (tail ++ whitespace) := by
      rw [← List.append_assoc, List.takeWhile_append_dropWhile, trimmed,
        List.rdropWhile_append_rtakeWhile]
    have bytes : byteLen (core (trimmed token) ++ rest) = byteLen tail := byteLen_trail sliced
    constructor
    · have counted := congrArg byteLen token_eq
      rw [out_eq]
      simp only [byteLen_append] at bytes counted ⊢
      omega
    · rw [← core_append_trail sliced]
      conv_lhs => rw [out_eq]; rhs; rw [token_eq]
      rw [List.append_cancel_left_eq, List.append_cancel_right_eq]

theorem redactTokens_isSome :
    (redactTokens tokens).isSome = true ↔ ∀ token ∈ tokens, CutsCleanly (trimmed token) := by
  induction tokens with
  | nil => simp [redactTokens]
  | cons token tokens ih =>
    rw [List.forall_mem_cons, ← ih, ← redactToken_isSome, redactTokens]
    cases redactToken token <;> cases redactTokens tokens <;> simp

/-- Where no length changes, the text is unchanged if and only if each token is. -/
theorem redactTokens_eq_self (keeps : ∀ token ∈ tokens, ∀ out, redactToken token = some out →
      byteLen out = byteLen token) :
    redactTokens tokens = some tokens.flatten ↔
      ∀ token ∈ tokens, redactToken token = some token := by
  induction tokens with
  | nil => simp [redactTokens]
  | cons token tokens ih =>
    obtain ⟨here, later⟩ := List.forall_mem_cons.mp keeps
    rw [List.forall_mem_cons, ← ih later, redactTokens, List.flatten_cons]
    cases first : redactToken token with
    | none => simp
    | some out =>
      cases others : redactTokens tokens with
      | none => simp
      | some rest =>
        simp only [Option.bind_eq_bind, Option.bind_some, Option.some.injEq]
        constructor
        · intro same
          exact append_inj_of_byteLen same (here out first)
        · rintro ⟨rfl, rfl⟩
          rfl

end Tokens

section Around

variable {before text word after front inner back : List Char} {p : Char → Bool}

theorem redactTokens_append (tokens others : List (List Char)) :
    redactTokens (tokens ++ others) = (do
      let out ← redactTokens tokens
      let rest ← redactTokens others
      some (out ++ rest)) := by
  induction tokens with
  | nil => simp [redactTokens]
  | cons token tokens ih =>
    rw [List.cons_append, redactTokens, ih, redactTokens]
    cases redactToken token <;> cases redactTokens tokens <;> cases redactTokens others <;> simp

theorem splitInclusive_append (ended : ∀ c ∈ before.getLast?, isWhitespace c = true) :
    splitInclusive (before ++ text) = splitInclusive before ++ splitInclusive text := by
  induction before with
  | nil => rfl
  | cons c before ih =>
    cases before with
    | nil =>
      have space : isWhitespace c = true := ended c (by simp)
      simp [splitInclusive, space]
    | cons d before =>
      have later := ih fun e last => ended e (by rwa [List.getLast?_cons_cons])
      rw [List.cons_append, splitInclusive, splitInclusive, later]
      split
      · rfl
      · cases splits : splitInclusive (d :: before) with
        | nil =>
          have whole := splitInclusive_flatten (d :: before)
          rw [splits] at whole
          cases whole
        | cons token tokens => rfl

/-- A word is a token together with the whitespace character behind it. -/
theorem splitInclusive_word (filled : word ≠ []) (word_chars : ∀ c ∈ word, isWhitespace c = false)
    (begins : ∀ c ∈ after.head?, isWhitespace c = true) :
    splitInclusive (word ++ after) = (word ++ after.take 1) :: splitInclusive (after.drop 1) := by
  induction word with
  | nil => exact absurd rfl filled
  | cons c word ih =>
    obtain ⟨here, later⟩ := List.forall_mem_cons.mp word_chars
    rw [List.cons_append, splitInclusive, here]
    simp only [Bool.false_eq_true, if_false]
    cases word with
    | nil =>
      cases after with
      | nil => rfl
      | cons d after =>
        have space : isWhitespace d = true := begins d rfl
        simp [splitInclusive, space]
    | cons d word =>
      rw [ih (List.cons_ne_nil d word) later]
      rfl

theorem rdropWhile_behind (behind : ∀ c ∈ back, p c = true)
    (last : ∀ c ∈ inner.getLast?, p c = false) : (inner ++ back).rdropWhile p = inner := by
  have stays : inner.rdropWhile p = inner := by
    refine List.rdropWhile_eq_self_iff.mpr fun filled => ?_
    rw [last _ (List.getLast?_eq_some_getLast filled)]
    exact Bool.false_ne_true
  rw [List.rdropWhile, List.reverse_append, List.dropWhile_append_of_pos (by simpa using behind)]
  exact stays

theorem takeWhile_front (first : ∀ c ∈ inner.head?, p c = false) :
    (front ++ inner).takeWhile p = front.takeWhile p ∧
      (front ++ inner).dropWhile p = front.dropWhile p ++ inner := by
  induction front with
  | nil =>
    cases inner with
    | nil => exact ⟨rfl, rfl⟩
    | cons c inner =>
      have stops : ¬ p c = true := by simp [first c rfl]
      rw [List.nil_append, List.takeWhile_cons_of_neg stops, List.dropWhile_cons_of_neg stops]
      exact ⟨rfl, rfl⟩
  | cons c front ih =>
    rw [List.cons_append, List.takeWhile_cons, List.dropWhile_cons, List.takeWhile_cons,
      List.dropWhile_cons]
    split
    · exact ⟨congrArg (c :: ·) ih.1, ih.2⟩
    · exact ⟨rfl, rfl⟩

theorem trimmed_word (word_chars : ∀ c ∈ word, isWhitespace c = false)
    (behind : ∀ c ∈ after, isWhitespace c = true) :
    trimmed (word ++ after) = word ∧ (word ++ after).rtakeWhile isWhitespace = after := by
  have kept : trimmed (word ++ after) = word :=
    rdropWhile_behind behind fun c last => word_chars c (List.mem_of_getLast? last)
  have whole : trimmed (word ++ after) ++ (word ++ after).rtakeWhile isWhitespace =
      word ++ after := List.rdropWhile_append_rtakeWhile
  rw [kept] at whole
  exact ⟨kept, List.append_cancel_left whole⟩

/-- The parts of a token with punctuation on both sides. -/
theorem parts_around (front_trimmed : ∀ c ∈ front, isTrimmed c = true)
    (back_trimmed : ∀ c ∈ back, isTrimmed c = true) (filled : inner ≠ [])
    (first : ∀ c ∈ inner.head?, isTrimmed c = false)
    (last : ∀ c ∈ inner.getLast?, isTrimmed c = false) :
    core (front ++ (inner ++ back)) = inner ∧
      (front ++ (inner ++ back)).takeWhile isOpening = front.takeWhile isOpening ∧
      (front ++ (inner ++ back)).dropWhile isOpening =
        front.dropWhile isOpening ++ (inner ++ back) := by
  have head : (inner ++ back).head? = inner.head? := by
    cases inner with
    | nil => exact absurd rfl filled
    | cons c inner => rfl
  have stops : ∀ c ∈ (inner ++ back).head?, isOpening c = false := by
    intro c starts
    rw [head] at starts
    by_contra opens
    rw [Bool.not_eq_false] at opens
    have trims := isTrimmed_of_isOpening opens
    rw [first c starts] at trims
    cases trims
  refine ⟨?_, takeWhile_front stops⟩
  have dropped : (front ++ (inner ++ back)).dropWhile isTrimmed =
      front.dropWhile isTrimmed ++ (inner ++ back) := (takeWhile_front (head ▸ first)).2
  have none : front.dropWhile isTrimmed = [] := List.dropWhile_eq_nil_iff.mpr front_trimmed
  rw [core, dropped, none, List.nil_append, rdropWhile_behind back_trimmed last]

end Around

end Nek0.Source.Redact
