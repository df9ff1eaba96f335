import Nek0.Source.KeyedPass

/-!
# Hidden values

Two messages that differ in the value of a sensitive key only are to be logged alike. The first pass
takes a value up to the first space, comma, semicolon, ending brace or quote, and an earlier value
may take the key before it.
-/

namespace Nek0.Guarantees

open Nek0.Library Nek0.Source.Utf16 Nek0.Source.AppLog
open Nek0.Library.Regex (mem_ends_iff usesOnly_atLeast usesOnly_between usesOnly_times)

/-- The shapes in which a key and its value are documented. -/
inductive ValueShape where
  /-- `K=V` -/
  | equals
  /-- `K: V` -/
  | colon
  /-- `"K": "V"` -/
  | quoted
  deriving DecidableEq, Repr

namespace ValueShape

def opening : ValueShape → Text
  | .quoted => units ['"']
  | _ => []

def middle : ValueShape → Text
  | .equals => units ['=']
  | .colon => units [':', ' ']
  | .quoted => units ['"', ':', ' ', '"']

def ending : ValueShape → Text
  | .quoted => units ['"']
  | _ => []

end ValueShape

def IsKeyedValue : ValueShape → Text → Prop
  | .quoted, value => value ≠ [] ∧ ∀ c ∈ value, c ≠ 34
  | _, value => IsWord value

instance : ∀ (shape : ValueShape) (value : Text), Decidable (IsKeyedValue shape value)
  | .quoted, value =>
    decidable_of_iff (value ≠ [] ∧ value.all (· != 34) = true) (by simp [IsKeyedValue])
  | .equals, value | .colon, value => inferInstanceAs (Decidable (IsWord value))

/-- What may stand behind the value. -/
def EndsBefore : ValueShape → Text → Prop
  | .quoted, _ => True
  | _, after => ∀ c ∈ after.head?, isSpace c = true

def messageWith (shape : ValueShape) (before key after value : Text) : Text :=
  before ++ shape.opening ++ key ++ shape.middle ++ value ++ shape.ending ++ after

/-- No value in front of the key takes it, or it takes the value with it. -/
def KeyReached (shape : ValueShape) (before : Text) : Prop :=
  shape = .equals ∨ ¬OpenValue (before ++ shape.opening)

section Shapes

variable {shape : ValueShape} {before key after value other : Text} {c : UInt16}

theorem middle_mem_sep (shape : ValueShape) : shape.middle ∈ sep.language := by
  have plain : sep.plain = true := by decide
  cases shape with
  | equals => exact ((mem_ends_iff sep plain none (units ['=']) 1).mp (by decide)).2
  | colon => exact ((mem_ends_iff sep plain none (units [':', ' ']) 2).mp (by decide)).2
  | quoted => exact ((mem_ends_iff sep plain none (units ['"', ':', ' ', '"']) 4).mp (by decide)).2

theorem ends_after (follows : EndsBefore shape after) :
    ∀ c ∈ (shape.ending ++ after).head?, endsValue c = true := by
  intro c first
  cases shape with
  | quoted =>
    obtain rfl := Option.some.inj first
    decide
  | equals | colon =>
    have space := follows c first
    simp [endsValue, space]

/-- Behind a text that leaves no value open, the value is hidden up to its end. -/
theorem hideKeyed_kept (sensitive : IsKey key) (follows : EndsBefore shape after)
    (closed : ¬OpenValue (before ++ shape.opening)) :
    ∃ b, ∀ value, IsWord value → hideKeyed (messageWith shape before key after value) = b := by
  obtain ⟨b, kept⟩ := kept_of_closed sensitive _ _ (Nat.le_refl _) closed
  use b ++ (key ++ shape.middle ++ placeholder ++ hideKeyed (shape.ending ++ after))
  intro value word
  have head := isHead_append sensitive (middle_mem_sep shape)
  have matched := hideKeyed_match head word (ends_after follows)
  have first := sep_head (middle_mem_sep shape) (value ++ (shape.ending ++ after))
  simp only [messageWith, List.append_assoc] at kept matched ⊢
  rw [kept _ first, matched]

/-- A value behind an equality sign is hidden together with a key that an open value takes. -/
theorem hideKeyed_equals (sensitive : IsKey key) (follows : EndsBefore .equals after)
    (opened : OpenValue before) : ∃ b, ∀ value, IsWord value →
      hideKeyed (messageWith .equals before key after value) = b := by
  obtain ⟨b, taken⟩ := opened.taken sensitive
  use b ++ placeholder ++ hideKeyed after
  intro value word
  have run : ∀ c ∈ units ['='] ++ value, (!endsValue c) = true := by
    intro c listed
    rcases List.mem_append.mp listed with sign | own
    · obtain rfl := List.mem_singleton.mp sign
      decide
    · rw [word.2 c own]
      rfl
  have rest : (units ['='] ++ value ++ after).dropWhile (!endsValue ·) = after := by
    rw [List.dropWhile_append_of_pos run]
    cases after with
    | nil => rfl
    | cons c after =>
      have ends := ends_after follows c rfl
      apply List.dropWhile_cons_of_neg
      rw [ends]
      decide
  have same := taken (units ['='] ++ value ++ after)
  rw [rest] at same
  simpa only [messageWith, ValueShape.opening, ValueShape.middle, ValueShape.ending,
    List.append_assoc, List.append_nil, List.nil_append] using same

/-- The value of another shape is seen where an open value takes the key. -/
theorem hideKeyed_taken (sensitive : IsKey key) (other : shape ≠ .equals)
    (opened : OpenValue (before ++ shape.opening)) :
    ∃ b, ∀ c, isKeyUnit c = false → hideKeyed (messageWith shape before key after [c]) =
      b ++ c :: hideKeyed (shape.ending ++ after) := by
  obtain ⟨b, taken⟩ := opened.taken sensitive
  have seen : ∃ y, ∀ u, (shape.middle ++ u).dropWhile (!endsValue ·) = y ++ u ∧
      y.all (!isKeyUnit ·) = true := by
    cases shape with
    | equals => exact absurd rfl other
    | colon => exact ⟨units [' '], fun u => ⟨rfl, by decide⟩⟩
    | quoted => exact ⟨units ['"', ':', ' ', '"'], fun u => ⟨rfl, by decide⟩⟩
  obtain ⟨y, rest⟩ := seen
  use b ++ placeholder ++ y
  intro c unkeyed
  have same := taken (shape.middle ++ ([c] ++ (shape.ending ++ after)))
  have others : ∀ d ∈ y ++ [c], isKeyUnit d = false := by
    intro d listed
    rcases List.mem_append.mp listed with first | last
    · simpa using List.all_eq_true.mp (rest []).2 d first
    · obtain rfl := List.mem_singleton.mp last
      exact unkeyed
  rw [(rest _).1, ← List.append_assoc y, hideKeyed_others others] at same
  simpa only [messageWith, List.append_assoc, List.cons_append, List.nil_append] using same

/-- Where the key is reached, all values without a unit that ends them are logged alike. -/
theorem redact_words (sensitive : IsKey key) (follows : EndsBefore shape after)
    (reached : KeyReached shape before) (word : IsWord value) (word' : IsWord other) :
    redact (messageWith shape before key after value) =
      redact (messageWith shape before key after other) := by
  have hidden : ∃ b, ∀ value, IsWord value →
      hideKeyed (messageWith shape before key after value) = b := by
    by_cases opened : OpenValue (before ++ shape.opening)
    · rcases reached with rfl | closed
      · have same : before ++ ValueShape.opening .equals = before := List.append_nil before
        rw [same] at opened
        exact hideKeyed_equals sensitive follows opened
      · exact absurd opened closed
    · exact hideKeyed_kept sensitive follows opened
  obtain ⟨b, hidden⟩ := hidden
  unfold redact
  rw [hidden value word, hidden other word']

end Shapes

section Counts

variable {x : UInt16}

/-- Neither of the later passes takes such a unit, and the placeholder has none. -/
def NeverMatched (x : UInt16) : Prop :=
  x.toNat < 43 ∨ x.toNat = 44 ∨ x.toNat = 59 ∨ x.toNat = 63 ∨ 122 < x.toNat

theorem neverMatched_of_ends (ends : endsValue x = true) : NeverMatched x := by
  have range := endsValue_range ends
  unfold NeverMatched
  omega

theorem ne_of_isDigit (unmatched : NeverMatched x) {c : UInt16} (own : isDigit c = true) :
    c ≠ x := by
  rintro rfl
  simp only [isDigit, Bool.and_eq_true, decide_eq_true_eq] at own
  unfold NeverMatched at unmatched
  omega

theorem ne_of_isLetter (unmatched : NeverMatched x) {c : UInt16} (own : isLetter c = true) :
    c ≠ x := by
  rintro rfl
  simp only [isLetter, Bool.or_eq_true, Bool.and_eq_true, decide_eq_true_eq] at own
  unfold NeverMatched at unmatched
  omega

theorem ne_of_isAlphanumeric (unmatched : NeverMatched x) {c : UInt16}
    (own : isAlphanumeric c = true) : c ≠ x := by
  rcases Bool.or_eq_true_iff.mp own with letter | digit
  · exact ne_of_isLetter unmatched letter
  · exact ne_of_isDigit unmatched digit

theorem ne_of_beq (unmatched : NeverMatched x) {c d : UInt16} (sign : 43 ≤ d.toNat ∧ d.toNat ≤ 61)
    (other : d.toNat ≠ 44 ∧ d.toNat ≠ 59) (own : (c == d) = true) : c ≠ x := by
  obtain rfl := beq_iff_eq.mp own
  rintro rfl
  unfold NeverMatched at unmatched
  omega

theorem blob_usesOnly (unmatched : NeverMatched x) : blob.UsesOnly (· ≠ x) := by
  refine ⟨trivial, usesOnly_atLeast ?_ 24, usesOnly_between ?_ 0 2, trivial, trivial⟩
  · intro c own
    rcases Bool.or_eq_true_iff.mp own with first | slash
    · rcases Bool.or_eq_true_iff.mp first with alphanumeric | plus
      · exact ne_of_isAlphanumeric unmatched alphanumeric
      · exact ne_of_beq unmatched (by decide) (by decide) plus
    · exact ne_of_beq unmatched (by decide) (by decide) slash
  · intro c own
    exact ne_of_beq unmatched (by decide) (by decide) own

theorem port_usesOnly (unmatched : NeverMatched x) : port.UsesOnly (· ≠ x) := by
  refine ⟨⟨?_, usesOnly_between ?_ 1 5⟩, trivial⟩
  · intro c own
    exact ne_of_beq unmatched (by decide) (by decide) own
  · intro c own
    exact ne_of_isDigit unmatched own

theorem label_usesOnly (unmatched : NeverMatched x) : label.UsesOnly (· ≠ x) := by
  have alphanumeric : ∀ c, isAlphanumeric c = true → c ≠ x :=
    fun c own => ne_of_isAlphanumeric unmatched own
  refine ⟨alphanumeric, ⟨⟨?_, alphanumeric⟩, trivial⟩, ?_, trivial⟩
  · intro c own
    rcases Bool.or_eq_true_iff.mp own with inner | hyphen
    · exact alphanumeric c inner
    · exact ne_of_beq unmatched (by decide) (by decide) hyphen
  · intro c own
    exact ne_of_beq unmatched (by decide) (by decide) own

theorem address_usesOnly (unmatched : NeverMatched x) : address.UsesOnly (· ≠ x) := by
  have digit : (Regex.one isDigit).UsesOnly (· ≠ x) := fun c own => ne_of_isDigit unmatched own
  have letter : (Regex.one isLetter).UsesOnly (· ≠ x) := fun c own => ne_of_isLetter unmatched own
  have label := label_usesOnly unmatched
  have port := port_usesOnly unmatched
  constructor
  · exact ⟨trivial, ⟨label, label⟩, usesOnly_atLeast letter 2, port, trivial, trivial⟩
  · have point : (unit '.').UsesOnly (· ≠ x) :=
      fun c own => ne_of_beq unmatched (by decide) (by decide) own
    have part : (Regex.seq (unit '.') (Regex.between 1 3 (.one isDigit))).UsesOnly (· ≠ x) :=
      ⟨point, usesOnly_between digit 1 3⟩
    exact ⟨trivial, usesOnly_between digit 1 3, usesOnly_times part 3, port, trivial, trivial⟩

theorem placeholder_count (unmatched : NeverMatched x) : placeholder.count x = 0 := by
  apply List.count_eq_zero.mpr
  intro listed
  have range : placeholder.all (fun c => 60 ≤ c.toNat && c.toNat != 63 && c.toNat ≤ 122) = true :=
    by decide
  have own := List.all_eq_true.mp range x listed
  simp only [Bool.and_eq_true, decide_eq_true_eq, bne_iff_ne] at own
  unfold NeverMatched at unmatched
  omega

/-- The later passes neither take such a unit nor add one. -/
theorem count_redact (unmatched : NeverMatched x) (message : Text) :
    (redact message).count x = (hideKeyed message).count x := by
  have fresh := placeholder_count unmatched
  unfold redact
  rw [count_replacedBy address (address_usesOnly unmatched) fresh,
    count_replacedBy blob (blob_usesOnly unmatched) fresh]

/-- A unit that ends values is in no value. -/
theorem count_hideKeyed (ends : endsValue x = true) (message : Text) :
    (hideKeyed message).count x = message.count x := by
  apply count_replaceAll
  intro previous text replacement n found
  obtain ⟨w, v, u, rfl, -, word, -, rfl, rfl⟩ := keyed_some found
  have none : v.count x = 0 := by
    apply List.count_eq_zero.mpr
    intro listed
    exact Bool.false_ne_true ((word.2 x listed).symm.trans ends)
  constructor
  · exact (List.prefix_append (w ++ v) u).length_le
  · rw [List.take_left, List.count_append, List.count_append, none,
      placeholder_count (neverMatched_of_ends ends)]

end Counts

section Hiding

variable {shape : ValueShape} {before key after value : Text} {x : UInt16}

theorem isWord_single (value : endsValue x = false) : IsWord [x] := by
  constructor
  · simp
  · intro c listed
    obtain rfl := List.mem_singleton.mp listed
    exact value

theorem isKeyedValue_of_word (word : IsWord value) (shape : ValueShape) :
    IsKeyedValue shape value := by
  cases shape with
  | equals | colon => exact word
  | quoted =>
    constructor
    · exact word.1
    · rintro c listed rfl
      exact absurd (word.2 _ listed) (by decide)

/-- One-word values are logged alike only where the key is reached. -/
theorem reached_of_same (sensitive : IsKey key)
    (same : redact (messageWith shape before key after [33]) =
      redact (messageWith shape before key after [63])) : KeyReached shape before := by
  by_contra missed
  obtain ⟨other, opened⟩ := not_or.mp missed
  obtain ⟨b, seen⟩ := @hideKeyed_taken shape before key after sensitive other
    (Classical.not_not.mp opened)
  have counts := congrArg (List.count 63) same
  have unmatched : NeverMatched 63 := by
    unfold NeverMatched
    decide
  rw [count_redact unmatched, count_redact unmatched, seen 33 (by decide), seen 63 (by decide),
    List.count_append, List.count_append, List.count_cons, List.count_cons] at counts
  revert counts
  simp

/-- A value with a unit that ends it is not logged as one without. -/
theorem word_of_same (valid : IsKeyedValue shape value)
    (same : redact (messageWith shape before key after value) =
      redact (messageWith shape before key after [63])) : IsWord value := by
  have filled : value ≠ [] := by
    cases shape with
    | equals | colon | quoted => exact valid.1
  refine ⟨filled, fun x listed => ?_⟩
  by_contra ends
  have ends := Bool.not_eq_false _ ▸ ends
  have counts := congrArg (List.count x) same
  have unmatched := neverMatched_of_ends ends
  have counted := List.count_pos_iff.mpr listed
  have other : [63].count x = 0 := by
    apply List.count_eq_zero.mpr
    intro own
    obtain rfl := List.mem_singleton.mp own
    exact absurd ends (by decide)
  rw [count_redact unmatched, count_redact unmatched, count_hideKeyed ends, count_hideKeyed ends]
    at counts
  simp only [messageWith, List.count_append, other] at counts
  omega

end Hiding

/-- Behind an equality sign the value never shows. Behind a colon it shows only where an open value
takes the key. A quoted value is hidden where the key is reached and nothing in the value ends
it, and two of them are hidden alike. -/
theorem keyed_values_hidden_iff {shape : ValueShape} {before key after : Text}
    (sensitive : IsKey key) (follows : EndsBefore shape after) :
    ((∀ value other, IsKeyedValue shape value → IsKeyedValue shape other →
        redact (messageWith shape before key after value) =
          redact (messageWith shape before key after other)) ↔
      shape = .equals ∨ shape = .colon ∧ ¬OpenValue before) ∧
    ∀ value, IsKeyedValue shape value →
      ((∀ other, IsWord other → redact (messageWith shape before key after value) =
          redact (messageWith shape before key after other)) ↔
        KeyReached shape before ∧ IsWord value) := by
  have mark : IsWord [63] := isWord_single (by decide)
  have bang : IsWord [33] := isWord_single (by decide)
  have same_front : shape ≠ .quoted → before ++ shape.opening = before := by
    intro bare
    cases shape with
    | equals | colon => exact List.append_nil before
    | quoted => exact absurd rfl bare
  constructor
  · constructor
    · intro same
      have reached := reached_of_same sensitive (same _ _ (isKeyedValue_of_word bang shape)
        (isKeyedValue_of_word mark shape))
      cases shape with
      | equals => exact .inl rfl
      | colon =>
        rcases reached with equals | closed
        · cases equals
        · rw [same_front (by decide)] at closed
          exact .inr ⟨rfl, closed⟩
      | quoted =>
        -- a comma is a quoted value, and the first pass stops in front of it
        have comma : IsKeyedValue .quoted [44] := by decide
        have word := word_of_same comma (same _ _ comma (isKeyedValue_of_word mark _))
        exact absurd (word.2 44 List.mem_cons_self) (by decide)
    · intro bare value other valid valid'
      have reached : KeyReached shape before := by
        rcases bare with equals | ⟨colon, closed⟩
        · exact .inl equals
        · rw [← same_front (by rw [colon]; decide)] at closed
          exact .inr closed
      have words : ∀ {value}, IsKeyedValue shape value → IsWord value := by
        intro value valid
        rcases bare with rfl | ⟨rfl, -⟩
        · exact valid
        · exact valid
      exact redact_words sensitive follows reached (words valid) (words valid')
  · intro value valid
    constructor
    · intro same
      constructor
      · exact reached_of_same sensitive ((same _ bang).symm.trans (same _ mark))
      · exact word_of_same valid (same _ mark)
    · rintro ⟨reached, word⟩ other word'
      exact redact_words sensitive follows reached word word'

theorem token_words_hidden :
    redact (units "ToKen: hunter2 sent".toList) = redact (units "ToKen: Bob sent".toList) := by
  have closed : ¬OpenValue [] := fun opened => opened.other fun _ listed => nomatch listed
  have sensitive : IsKey (units "ToKen".toList) := by decide
  have follows : EndsBefore .colon (units " sent".toList) := by
    intro c first
    obtain rfl := Option.some.inj first
    decide
  exact (keyed_values_hidden_iff sensitive follows).1.mpr (.inr ⟨rfl, closed⟩)
    (units "hunter2".toList) (units "Bob".toList) (by decide) (by decide)

/-- The second word of a quoted value is logged. -/
theorem second_word_shown :
    IsKey (units "password".toList) ∧
      IsKeyedValue .quoted (units "my secret".toList) ∧
      IsKeyedValue .quoted (units "my house".toList) ∧
      redact (messageWith .quoted [] (units "password".toList) [] (units "my secret".toList)) ≠
        redact (messageWith .quoted [] (units "password".toList) [] (units "my house".toList)) := by
  refine ⟨by decide, by decide, by decide, ?_⟩
  decide +kernel

/-- The value of the first key takes the second key, and the password is logged. -/
example : redact (units "uid=password: hunter2".toList) =
    units "uid=<redacted> hunter2".toList := by decide +kernel


end Nek0.Guarantees
