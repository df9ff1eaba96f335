import Nek0.Source.AppLog

/-!
# The first pass

What the first pass of `redact` matches, and what it does in front of a key.
-/

namespace Nek0.Source.AppLog

open Nek0.Library Nek0.Source.Utf16
open Nek0.Library.Regex (mem_choice_iff mem_ends_iff mem_star_one_iff ends_previous
  head_ends_plus_one)

section Units

/-- The units of keys. -/
def isKeyUnit (unit : UInt16) : Bool := isLetter unit || unit == 95

/-- What may stand around the sign. -/
def isGap (unit : UInt16) : Bool := isSpace unit || unit == 34

variable {c : UInt16} {w u v : Text}

theorem endsValue_of_isGap (gap : isGap c = true) : endsValue c = true := by
  rcases Bool.or_eq_true_iff.mp gap with space | quote
  · simp [endsValue, space]
  · simp [endsValue, quote]

theorem isKeyUnit_iff : isKeyUnit c = true ↔
    65 ≤ c.toNat ∧ c.toNat ≤ 90 ∨ 97 ≤ c.toNat ∧ c.toNat ≤ 122 ∨ c.toNat = 95 := by
  simp only [isKeyUnit, isLetter, Bool.or_eq_true, Bool.and_eq_true, decide_eq_true_eq,
    beq_iff_eq, ← UInt16.toNat_inj, UInt16.reduceToNat, or_assoc]

theorem isSign_iff : isSign c = true ↔ c.toNat = 58 ∨ c.toNat = 61 := by
  simp only [isSign, Bool.or_eq_true, beq_iff_eq, ← UInt16.toNat_inj, UInt16.reduceToNat]

theorem endsValue_range (ends : endsValue c = true) :
    c.toNat ≤ 13 ∨ c.toNat = 32 ∨ c.toNat = 34 ∨ c.toNat = 44 ∨ c.toNat = 59 ∨ c.toNat = 125 ∨
      160 ≤ c.toNat := by
  simp only [endsValue, isSpace, Bool.or_eq_true, Bool.and_eq_true, decide_eq_true_eq, beq_iff_eq,
    ← UInt16.toNat_inj, UInt16.reduceToNat] at ends
  omega

theorem endsValue_of_isKeyUnit (own : isKeyUnit c = true) : endsValue c = false := by
  rw [isKeyUnit_iff] at own
  by_contra ends
  have range := endsValue_range (Bool.not_eq_false _ ▸ ends)
  omega

theorem endsValue_of_isSign (sign : isSign c = true) : endsValue c = false := by
  rw [isSign_iff] at sign
  by_contra ends
  have range := endsValue_range (Bool.not_eq_false _ ▸ ends)
  omega

theorem isKeyUnit_of_isSign (sign : isSign c = true) : isKeyUnit c = false := by
  rw [isSign_iff] at sign
  by_contra own
  have range := isKeyUnit_iff.mp (Bool.not_eq_false _ ▸ own)
  omega

theorem isGap_of_value (value : endsValue c = false) : isGap c = false := by
  by_contra gap
  have ends := endsValue_of_isGap (Bool.not_eq_false _ ▸ gap)
  exact Bool.false_ne_true (value.symm.trans ends)

theorem isKeyUnit_of_isGap (gap : isGap c = true) : isKeyUnit c = false := by
  by_contra own
  have value := endsValue_of_isKeyUnit (Bool.not_eq_false _ ▸ own)
  exact Bool.false_ne_true (value.symm.trans (endsValue_of_isGap gap))

/-- A letter or an underscore in a lower-case key comes from one in the key. -/
theorem isKeyUnit_of_lower (own : isKeyUnit (lower c) = true) : isKeyUnit c = true := by
  unfold lower at own
  split at own
  next upper =>
    rw [Bool.and_eq_true, decide_eq_true_eq, decide_eq_true_eq] at upper
    exact isKeyUnit_iff.mpr (.inl upper)
  next => exact own

end Units

section Heads

variable {w u v a b k x : Text} {c s : UInt16}

/-- A key and its separator. -/
def IsHead (w : Text) : Prop := w ∈ (Regex.seq key sep).language

def IsKey (k : Text) : Prop := k.map lower ∈ keys

instance (k : Text) : Decidable (IsKey k) := inferInstanceAs (Decidable (k.map lower ∈ keys))

theorem mem_word_iff (text : Text) : ∀ w, w ∈ (word text).language ↔ w.map lower = text := by
  induction text with
  | nil =>
    intro w
    exact (Language.mem_one w).trans List.map_eq_nil_iff.symm
  | cons u text ih =>
    intro w
    constructor
    · intro matched
      obtain ⟨a, first, b, rest, rfl⟩ := Language.mem_mul.mp matched
      obtain ⟨c, same, rfl⟩ := first
      have tail : b.map lower = text := (ih b).mp rest
      rw [List.singleton_append, List.map_cons, tail, beq_iff_eq.mp same]
    · intro same
      obtain ⟨c, b, rfl, head, tail⟩ := List.map_eq_cons_iff.mp same
      apply Language.mem_mul.mpr
      exact ⟨[c], ⟨c, beq_iff_eq.mpr head, rfl⟩, b, (ih b).mpr tail, rfl⟩

theorem mem_key_iff (k : Text) : k ∈ key.language ↔ IsKey k := by
  rw [key, mem_choice_iff]
  constructor
  · rintro ⟨r, listed, matched⟩
    obtain ⟨text, own, rfl⟩ := List.mem_map.mp listed
    have same := (mem_word_iff text k).mp matched
    rw [IsKey, same]
    exact own
  · intro isKey
    exact ⟨_, List.mem_map_of_mem isKey, (mem_word_iff _ k).mpr rfl⟩

theorem IsKey.units (isKey : IsKey k) : k ≠ [] ∧ ∀ c ∈ k, isKeyUnit c = true := by
  have checked : keys.all (fun text => !text.isEmpty && text.all isKeyUnit) = true := by decide
  obtain ⟨filled, each⟩ := Bool.and_eq_true_iff.mp (List.all_eq_true.mp checked _ isKey)
  constructor
  · rintro rfl
    cases filled
  · intro c listed
    exact isKeyUnit_of_lower (List.all_eq_true.mp each _ (List.mem_map_of_mem listed))

theorem gaps_of_space (spaces : w ∈ (Regex.star (.one isSpace)).language) :
    ∀ c ∈ w, isGap c = true := by
  intro c listed
  have space := (mem_star_one_iff isSpace w).mp spaces c listed
  exact Bool.or_eq_true_iff.mpr (.inl space)

theorem gaps_of_quote (quote : w ∈ (Regex.opt (unit '"')).language) : ∀ c ∈ w, isGap c = true := by
  rcases quote with ⟨d, same, rfl⟩ | rfl
  · intro c listed
    obtain rfl := List.mem_singleton.mp listed
    exact Bool.or_eq_true_iff.mpr (.inr same)
  · intro c listed
    cases listed

theorem sep_parts (matched : w ∈ sep.language) : ∃ x s y, w = x ++ s :: y ∧
    (∀ c ∈ x, isGap c = true) ∧ isSign s = true ∧ ∀ c ∈ y, isGap c = true := by
  obtain ⟨q, quote, _, afterQuote, rfl⟩ := Language.mem_mul.mp matched
  obtain ⟨p, spaces, _, afterSpaces, rfl⟩ := Language.mem_mul.mp afterQuote
  obtain ⟨_, ⟨s, sign, rfl⟩, _, afterSign, rfl⟩ := Language.mem_mul.mp afterSpaces
  obtain ⟨p', spaces', _, atQuote, rfl⟩ := Language.mem_mul.mp afterSign
  obtain ⟨q', quote', e, atEnd, rfl⟩ := Language.mem_mul.mp atQuote
  obtain rfl := (Language.mem_one e).mp atEnd
  refine ⟨q ++ p, s, p' ++ q', by simp, ?_, sign, ?_⟩
  · intro c listed
    rcases List.mem_append.mp listed with first | second
    · exact gaps_of_quote quote c first
    · exact gaps_of_space spaces c second
  · intro c listed
    rcases List.mem_append.mp listed with first | second
    · exact gaps_of_space spaces' c first
    · exact gaps_of_quote quote' c second

theorem IsHead.parts (head : IsHead w) : ∃ k g, w = k ++ g ∧ IsKey k ∧ g ∈ sep.language := by
  obtain ⟨k, own, g, separates, rfl⟩ := Language.mem_mul.mp head
  exact ⟨k, g, rfl, (mem_key_iff k).mp own, separates⟩

theorem isHead_append (isKey : IsKey k) (separates : x ∈ sep.language) : IsHead (k ++ x) :=
  Language.append_mem_mul ((mem_key_iff k).mpr isKey) separates

/-- A text splits in one way into a part that a predicate accepts and one that does not begin so. -/
theorem append_unique {p : UInt16 → Bool} (same : u ++ v = a ++ b) (left : ∀ c ∈ u, p c = true)
    (right : ∀ c ∈ v.head?, p c = false) (left' : ∀ c ∈ a, p c = true)
    (right' : ∀ c ∈ b.head?, p c = false) : u = a ∧ v = b := by
  have front : ∀ {y z : Text}, (∀ c ∈ y, p c = true) → (∀ c ∈ z.head?, p c = false) →
      (y ++ z).takeWhile p = y := by
    intro y z all stops
    rw [List.takeWhile_append_of_pos all]
    cases z with
    | nil => exact List.append_nil y
    | cons c z =>
      have refused := stops c rfl
      rw [List.takeWhile_cons_of_neg (Bool.eq_false_iff.mp refused), List.append_nil]
  have first : u = a := by
    rw [← front left right, same, front left' right']
  subst first
  exact ⟨rfl, List.append_cancel_left same⟩

/-- No unit of a separator is one of a key. -/
theorem sep_units (separates : x ∈ sep.language) : x ≠ [] ∧ ∀ c ∈ x, isKeyUnit c = false := by
  obtain ⟨y, s, z, rfl, gaps, sign, gaps'⟩ := sep_parts separates
  constructor
  · simp
  · intro c listed
    rcases List.mem_append.mp listed with first | second
    · exact isKeyUnit_of_isGap (gaps c first)
    · rcases List.mem_cons.mp second with rfl | last
      · exact isKeyUnit_of_isSign sign
      · exact isKeyUnit_of_isGap (gaps' c last)

theorem sep_head (separates : x ∈ sep.language) (u : Text) :
    ∀ c ∈ (x ++ u).head?, isKeyUnit c = false := by
  obtain ⟨filled, units⟩ := sep_units separates
  intro c first
  rw [List.head?_append_of_ne_nil x filled] at first
  exact units c (List.mem_of_head? first)

/-- There is one way to match a head that a value follows. -/
theorem heads_unique (same : w ++ u = a ++ v) (head : IsHead w) (head' : IsHead a)
    (value : ∀ c ∈ u.head?, endsValue c = false) (value' : ∀ c ∈ v.head?, endsValue c = false) :
    w = a ∧ u = v := by
  obtain ⟨k, g, rfl, isKey, separates⟩ := head.parts
  obtain ⟨k', g', rfl, isKey', separates'⟩ := head'.parts
  rw [List.append_assoc, List.append_assoc] at same
  obtain ⟨rfl, afterKey⟩ := append_unique same isKey.units.2 (sep_head separates u)
    isKey'.units.2 (sep_head separates' v)
  obtain ⟨x, s, y, rfl, gaps, sign, behind⟩ := sep_parts separates
  obtain ⟨x', s', y', rfl, gaps', sign', behind'⟩ := sep_parts separates'
  have signs : ∀ {s : UInt16} {z : Text}, isSign s = true →
      ∀ c ∈ (s :: z).head?, isGap c = false := by
    intro s z sign c first
    obtain rfl := Option.some.inj first
    exact isGap_of_value (endsValue_of_isSign sign)
  rw [List.append_assoc, List.append_assoc, List.cons_append, List.cons_append] at afterKey
  obtain ⟨rfl, atSign⟩ := append_unique afterKey gaps (signs sign) gaps' (signs sign')
  obtain ⟨rfl, afterSign⟩ := List.cons.inj atSign
  obtain ⟨rfl, rfl⟩ := append_unique afterSign behind
    (fun c first => isGap_of_value (value c first)) behind'
    (fun c first => isGap_of_value (value' c first))
  exact ⟨rfl, rfl⟩

end Heads

section Matches

variable {w u v : Text} {c : UInt16} {previous : Option UInt16} {text replacement : Text} {n : Nat}

/-- A value that is taken whole. -/
def IsWord (v : Text) : Prop := v ≠ [] ∧ ∀ c ∈ v, endsValue c = false

instance (v : Text) : Decidable (IsWord v) :=
  decidable_of_iff (v ≠ [] ∧ v.all (!endsValue ·) = true) (by simp [IsWord])

/-- A value goes on up to the first unit that ends it. -/
theorem value_run (text : Text) : (∀ c ∈ text.takeWhile (!endsValue ·), endsValue c = false) ∧
    ∀ c ∈ (text.dropWhile (!endsValue ·)).head?, endsValue c = true := by
  constructor
  · intro c listed
    have run := List.all_eq_true.mp (List.all_takeWhile (p := (!endsValue ·))) c listed
    simpa using run
  · intro c first
    have stops := List.head?_dropWhile_not (!endsValue ·) text
    rw [Option.mem_def.mp first] at stops
    simpa using stops

theorem exists_end (some : ¬∀ c ∈ text, endsValue c = false) : ∃ v d rest, text = v ++ d :: rest ∧
    (∀ c ∈ v, endsValue c = false) ∧ endsValue d = true := by
  obtain ⟨run, stops⟩ := value_run text
  have whole := List.takeWhile_append_dropWhile (p := (!endsValue ·)) (l := text)
  cases behind : text.dropWhile (!endsValue ·) with
  | nil =>
    rw [behind, List.append_nil] at whole
    exact absurd (whole ▸ run) some
  | cons d rest =>
    rw [behind] at whole stops
    exact ⟨_, d, rest, whole.symm, run, stops d rfl⟩

theorem plain_head : (Regex.seq key sep).plain = true := by decide

/-- A match is a head and all of the value behind it. -/
theorem keyed_some (found : keyed previous text = some (replacement, n)) :
    ∃ w v u, text = w ++ v ++ u ∧ IsHead w ∧ IsWord v ∧ (∀ c ∈ u.head?, endsValue c = true) ∧
      replacement = w ++ placeholder ∧ n = (w ++ v).length := by
  obtain ⟨h, listed, result⟩ := List.exists_of_findSome?_eq_some found
  obtain ⟨within, head⟩ := (mem_ends_iff _ plain_head _ _ _).mp listed
  obtain ⟨taken, first, same⟩ := Option.map_eq_some_iff.mp result
  rw [value, head_ends_plus_one, Option.ite_none_left_eq_some] at first
  obtain ⟨filled, run⟩ := first
  obtain rfl := Option.some.inj run
  obtain ⟨rfl, rfl⟩ := Prod.mk.inj same
  refine ⟨text.take h, (text.drop h).takeWhile (!endsValue ·),
    (text.drop h).dropWhile (!endsValue ·), ?_, head, ⟨?_, ?_⟩, ?_, rfl, ?_⟩
  · rw [List.append_assoc, List.takeWhile_append_dropWhile, List.take_append_drop]
  · exact fun none => filled (congrArg List.length none)
  · exact (value_run (text.drop h)).1
  · exact (value_run (text.drop h)).2
  · rw [List.length_append, List.length_take, Nat.min_eq_left within]

theorem keyed_match (head : IsHead w) (value : IsWord v)
    (ends : ∀ c ∈ u.head?, endsValue c = true) :
    keyed previous (w ++ v ++ u) = some (w ++ placeholder, (w ++ v).length) := by
  have single : ∀ {v u : Text}, IsWord v → ∀ c ∈ (v ++ u).head?, endsValue c = false := by
    intro v u word c first
    rw [List.head?_append_of_ne_nil v word.1] at first
    exact word.2 c (List.mem_of_head? first)
  cases found : keyed previous (w ++ v ++ u) with
  | some result =>
    obtain ⟨w', v', u', same, head', value', ends', replaced, length⟩ :=
      keyed_some (n := result.2) found
    rw [List.append_assoc, List.append_assoc] at same
    obtain ⟨rfl, rest⟩ := heads_unique same head head' (single value) (single value')
    have stops : ∀ {u : Text}, (∀ c ∈ u.head?, endsValue c = true) →
        ∀ c ∈ u.head?, (!endsValue c) = false := by
      intro u ends c first
      rw [ends c first, Bool.not_true]
    obtain ⟨rfl, -⟩ := append_unique (p := (!endsValue ·)) rest
      (fun c listed => (congrArg not (value.2 c listed)).trans rfl) (stops ends)
      (fun c listed => (congrArg not (value'.2 c listed)).trans rfl) (stops ends')
    exact congrArg some (Prod.ext replaced length)
  | none =>
    exfalso
    have listed : w.length ∈ (Regex.seq key sep).ends previous (w ++ v ++ u) := by
      apply (mem_ends_iff _ plain_head _ _ _).mpr
      rw [List.append_assoc, List.take_left, List.length_append]
      exact ⟨Nat.le_add_right _ _, head⟩
    have missed := List.findSome?_eq_none_iff.mp found w.length listed
    rw [List.append_assoc, List.drop_left, Option.map_eq_none_iff, AppLog.value,
      head_ends_plus_one, List.takeWhile_append_of_pos fun c own => by rw [value.2 c own]; rfl]
      at missed
    have filled := List.length_pos_iff.mpr value.1
    rw [if_neg (by rw [List.length_append]; omega)] at missed
    cases missed

theorem keyed_frontFree : FrontFree keyed := by
  intro previous text
  unfold keyed
  rw [ends_previous _ plain_head]
  congr 1
  funext h
  rw [ends_previous value rfl, ends_previous value rfl (Regex.before none text h)]

theorem hideKeyed_match (head : IsHead w) (value : IsWord v)
    (ends : ∀ c ∈ u.head?, endsValue c = true) :
    hideKeyed (w ++ v ++ u) = w ++ placeholder ++ hideKeyed u := by
  apply replaceAll_match keyed_frontFree
  · intro none
    exact value.1 (List.append_eq_nil_iff.mp none).2
  · exact keyed_match head value ends

theorem hideKeyed_skip (missed : keyed none (c :: text) = none) :
    hideKeyed (c :: text) = c :: hideKeyed text :=
  replaceAll_skip keyed_frontFree missed

/-- Where no head stands in front of a value, nothing is matched. -/
theorem keyed_none (missed : ∀ w d u, IsHead w → text = w ++ d :: u → endsValue d = true) :
    keyed previous text = none := by
  cases found : keyed previous text with
  | none => rfl
  | some result =>
    obtain ⟨w, v, u, rfl, head, ⟨filled, run⟩, -⟩ := keyed_some (n := result.2) found
    cases v with
    | nil => exact absurd rfl filled
    | cons d v =>
      have ends := missed w d (v ++ u) head (by simp)
      exact absurd ((run d List.mem_cons_self).symm.trans ends) Bool.false_ne_true

/-- Units that are no units of keys stay. -/
theorem hideKeyed_others (others : ∀ c ∈ w, isKeyUnit c = false) (u : Text) :
    hideKeyed (w ++ u) = w ++ hideKeyed u := by
  induction w with
  | nil => rfl
  | cons c w ih =>
    obtain ⟨other, rest⟩ := List.forall_mem_cons.mp others
    rw [List.cons_append, hideKeyed_skip, ih rest, List.cons_append]
    apply keyed_none
    intro x d y head same
    obtain ⟨k, g, rfl, isKey, -⟩ := head.parts
    obtain ⟨filled, units⟩ := isKey.units
    cases k with
    | nil => exact absurd rfl filled
    | cons e k =>
      obtain ⟨rfl, -⟩ := List.cons.inj same
      exact absurd (other.symm.trans (units c List.mem_cons_self)) Bool.false_ne_true

end Matches

/-- The keyed values of a text, read from left to right, leave one open at its end. -/
inductive OpenValue : Text → Prop where
  | here {w v : Text} (head : IsHead w) (run : ∀ c ∈ v, endsValue c = false) : OpenValue (w ++ v)
  | behind {w v rest : Text} {d : UInt16} (head : IsHead w) (word : IsWord v)
      (ends : endsValue d = true) (opened : OpenValue (d :: rest)) :
      OpenValue (w ++ v ++ d :: rest)
  | skip {c : UInt16} {rest : Text}
      (missed : ∀ w v, c :: rest = w ++ v → IsHead w → ∃ d ∈ v.head?, endsValue d = true)
      (opened : OpenValue rest) : OpenValue (c :: rest)

section Before

variable {a b k u v w tail : Text} {c d : UInt16}

/-- A head with its value, which ends in front of `d`. -/
theorem hideKeyed_word (head : IsHead w) (word : IsWord v) (ends : endsValue d = true) :
    hideKeyed (w ++ v ++ d :: u ++ tail) = w ++ placeholder ++ hideKeyed (d :: u ++ tail) := by
  have stops : ∀ c ∈ (d :: u ++ tail).head?, endsValue c = true := by
    intro c front
    obtain rfl := Option.some.inj front
    exact ends
  have same := hideKeyed_match head word stops
  rw [List.append_assoc (w ++ v)]
  exact same

/-- Units of keys in front of a key make no difference: with it they are a longer key, or none. -/
theorem hideKeyed_units_before (isKey : IsKey k) (ends : ∀ c ∈ tail.head?, isKeyUnit c = false)
    (units : ∀ c ∈ a, isKeyUnit c = true) :
    hideKeyed (a ++ (k ++ tail)) = a ++ hideKeyed (k ++ tail) := by
  induction a with
  | nil => rfl
  | cons c a ih =>
    cases found : keyed none (c :: (a ++ (k ++ tail))) with
    | none =>
      have rest := ih fun d listed => units d (List.mem_cons_of_mem _ listed)
      rw [List.cons_append, hideKeyed_skip found, rest, List.cons_append]
    | some result =>
      obtain ⟨w, v, u, same, head, value, ends', -⟩ := keyed_some (n := result.2) found
      obtain ⟨k', g, rfl, isKey', separates⟩ := head.parts
      have all : ∀ d ∈ c :: a ++ k, isKeyUnit d = true := by
        intro d listed
        rcases List.mem_append.mp listed with first | second
        · exact units d first
        · exact isKey.units.2 d second
      have split : (c :: a ++ k) ++ tail = k' ++ (g ++ (v ++ u)) := by
        simpa using same
      obtain ⟨rfl, rfl⟩ := append_unique split all ends isKey'.units.2 (sep_head separates _)
      have longer := hideKeyed_match (isHead_append isKey' separates) value ends'
      have shorter := hideKeyed_match (isHead_append isKey separates) value ends'
      simp only [List.append_assoc] at longer shorter ⊢
      rw [longer, shorter]

theorem OpenValue.other (opened : OpenValue a) : ¬∀ c ∈ a, isKeyUnit c = true := by
  have headed : ∀ {w u : Text}, IsHead w → ¬∀ c ∈ w ++ u, isKeyUnit c = true := by
    intro w u head units
    obtain ⟨k, g, rfl, -, separates⟩ := head.parts
    obtain ⟨filled, others⟩ := sep_units separates
    obtain ⟨e, listed⟩ := List.exists_mem_of_ne_nil g filled
    have own := units e (by simp [listed])
    exact Bool.false_ne_true ((others e listed).symm.trans own)
  induction opened with
  | here head _ => exact headed head
  | behind head _ _ _ =>
    rw [List.append_assoc]
    exact headed head
  | skip _ _ ih => exact fun units => ih fun c listed => units c (List.mem_cons_of_mem _ listed)

/-- Where no head of a text in front of a key has a value behind it, none begins there. -/
theorem keyed_none_before (isKey : IsKey k) (other : ¬∀ c ∈ a, isKeyUnit c = true)
    (missed : ∀ w b, a = w ++ b → IsHead w → ∃ d ∈ b.head?, endsValue d = true) (tail : Text) :
    keyed none (a ++ (k ++ tail)) = none := by
  apply keyed_none
  intro w d u head same
  rcases List.append_eq_append_iff.mp same with ⟨e, rfl, inside⟩ | ⟨e, rfl, inside⟩
  · exfalso
    cases e with
    | nil =>
      -- the value begins with the key
      rw [List.append_nil] at head
      obtain ⟨c, first, -⟩ := missed a [] (List.append_nil a).symm head
      cases first
    | cons c e =>
      -- the head reaches into the key, and a separator holds no units of keys
      obtain ⟨g, x, split, own, separates⟩ := head.parts
      rcases List.append_eq_append_iff.mp split with ⟨m, rfl, -⟩ | ⟨m, rfl, rfl⟩
      · exact other fun c listed => own.units.2 c (List.mem_append_left m listed)
      · obtain ⟨filled, units⟩ := isKey.units
        have first : c ∈ k := by
          cases k with
          | nil => exact absurd rfl filled
          | cons z k =>
            obtain ⟨rfl, -⟩ := List.cons.inj inside
            exact List.mem_cons_self
        have separate := (sep_units separates).2 c (by simp)
        exact Bool.false_ne_true (separate.symm.trans (units c first))
  · obtain ⟨c, first, ends⟩ := missed w e rfl head
    have same := congrArg List.head? inside
    rw [List.head?_cons, List.head?_append, Option.mem_def.mp first] at same
    obtain rfl := Option.some.inj same
    exact ends

/-- An open value takes the key that follows it, and goes on to its own end. -/
theorem OpenValue.taken (isKey : IsKey k) (opened : OpenValue a) : ∃ b, ∀ tail : Text,
    hideKeyed (a ++ (k ++ tail)) =
      b ++ placeholder ++ hideKeyed (tail.dropWhile (!endsValue ·)) := by
  induction opened with
  | @here w v head run =>
    use w
    intro tail
    obtain ⟨rest, ends⟩ := value_run tail
    have word : IsWord (v ++ (k ++ tail.takeWhile (!endsValue ·))) := by
      constructor
      · simp [isKey.units.1]
      · intro c listed
        rcases List.mem_append.mp listed with first | listed
        · exact run c first
        · rcases List.mem_append.mp listed with own | last
          · exact endsValue_of_isKeyUnit (isKey.units.2 c own)
          · exact rest c last
    have same := hideKeyed_match head word ends
    simp only [List.append_assoc, List.takeWhile_append_dropWhile] at same ⊢
    exact same
  | @behind w v rest d head word ends _ ih =>
    obtain ⟨b, taken⟩ := ih
    use w ++ placeholder ++ b
    intro tail
    rw [hideKeyed_word head word ends, taken tail]
    simp only [List.append_assoc]
  | @skip c rest missed opened ih =>
    obtain ⟨b, taken⟩ := ih
    use c :: b
    intro tail
    have other := (OpenValue.skip missed opened).other
    have front := keyed_none_before isKey other missed tail
    rw [List.cons_append] at front ⊢
    rw [hideKeyed_skip front, taken tail]
    rfl

/-- Behind a text that leaves no value open the first pass reads a key afresh. -/
theorem kept_of_closed (isKey : IsKey k) : ∀ (n : Nat) (a : Text), a.length ≤ n → ¬OpenValue a →
    ∃ b, ∀ tail : Text, (∀ c ∈ tail.head?, isKeyUnit c = false) →
      hideKeyed (a ++ (k ++ tail)) = b ++ hideKeyed (k ++ tail) := by
  intro n
  induction n with
  | zero =>
    intro a short _
    obtain rfl := List.length_eq_zero_iff.mp (Nat.le_zero.mp short)
    exact ⟨[], fun tail _ => rfl⟩
  | succ n ih =>
    intro a short closed
    by_cases units : ∀ c ∈ a, isKeyUnit c = true
    · exact ⟨a, fun tail ends => hideKeyed_units_before isKey ends units⟩
    by_cases headed : ∃ w b, a = w ++ b ∧ IsHead w ∧ ∀ c ∈ b.head?, endsValue c = false
    · -- the text begins with a keyed value, which ends within it
      obtain ⟨w, b, rfl, head, value⟩ := headed
      have some : ¬∀ c ∈ b, endsValue c = false := fun run => closed (.here head run)
      obtain ⟨v, d, rest, rfl, run, ends⟩ := exists_end some
      have word : IsWord v := by
        constructor
        · rintro rfl
          exact Bool.false_ne_true ((value d rfl).symm.trans ends)
        · exact run
      have shorter : (d :: rest).length ≤ n := by
        have filled := List.length_pos_iff.mpr word.1
        rw [List.length_append, List.length_append] at short
        omega
      rw [← List.append_assoc] at closed ⊢
      obtain ⟨b, kept⟩ := ih (d :: rest) shorter fun opened =>
        closed (.behind head word ends opened)
      use w ++ placeholder ++ b
      intro tail behind
      rw [hideKeyed_word head word ends, kept tail behind]
      simp only [List.append_assoc]
    · cases a with
      | nil => exact absurd (fun c listed => nomatch listed) units
      | cons c a =>
        have missed : ∀ w v, c :: a = w ++ v → IsHead w → ∃ d ∈ v.head?, endsValue d = true := by
          intro w v same head
          by_contra none
          apply headed
          refine ⟨w, v, same, head, fun d first => ?_⟩
          by_contra ends
          exact none ⟨d, first, Bool.not_eq_false _ ▸ ends⟩
        obtain ⟨b, kept⟩ := ih a (Nat.le_of_succ_le_succ short) fun opened =>
          closed (.skip missed opened)
        use c :: b
        intro tail behind
        have front := keyed_none_before isKey units missed tail
        rw [List.cons_append] at front ⊢
        rw [hideKeyed_skip front, kept tail behind]
        rfl

end Before

end Nek0.Source.AppLog
