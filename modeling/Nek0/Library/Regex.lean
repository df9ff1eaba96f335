import Mathlib.Computability.Language

/-!
# Backtracking regular expressions

A regular expression over any alphabet, matched as a backtracking engine does: `ends` lists the
lengths of the matches at a place in the order in which they are tried. `language` is what an
expression without boundaries matches. `replaceAll` rewrites the matches from left to right.
-/

namespace Nek0.Library

open Computability

inductive Regex (α : Type*) where
  | empty
  /-- One element of a class. -/
  | one (accepts : α → Bool)
  | seq (first second : Regex α)
  /-- The first alternative is tried first. -/
  | alt (first second : Regex α)
  /-- As often as it can, and then less often. An empty round ends it. -/
  | star (body : Regex α)
  /-- Between an element of a word and something else. -/
  | boundary (isWord : α → Bool)

namespace Regex

variable {α : Type*}

def opt (r : Regex α) : Regex α := .alt r .empty

def plus (r : Regex α) : Regex α := .seq r (.star r)

def times : Nat → Regex α → Regex α
  | 0, _ => .empty
  | n + 1, r => .seq r (times n r)

def upTo : Nat → Regex α → Regex α
  | 0, _ => .empty
  | n + 1, r => opt (.seq r (upTo n r))

/-- `r{least,}` -/
def atLeast (least : Nat) (r : Regex α) : Regex α := .seq (times least r) (.star r)

/-- `r{least,most}` -/
def between (least most : Nat) (r : Regex α) : Regex α :=
  .seq (times least r) (upTo (most - least) r)

def sequence : List (Regex α) → Regex α
  | [] => .empty
  | r :: rs => .seq r (sequence rs)

def choice : List (Regex α) → Regex α
  | [] => .one fun _ => false
  | r :: rs => .alt r (choice rs)

/-- The element in front of a place in the text. -/
def before (previous : Option α) (text : List α) : Nat → Option α
  | 0 => previous
  | n + 1 => text[n]?

def rounds (ends : Option α → List α → List Nat) : Nat → Option α → List α → List Nat
  | 0, _, _ => [0]
  | fuel + 1, previous, text =>
    ((ends previous text).filter (0 < ·)).flatMap (fun n =>
      (rounds ends fuel (before previous text n) (text.drop n)).map (n + ·)) ++ [0]

/-- The lengths of the matches at the front of a text, in the order in which they are tried. -/
def ends : Regex α → Option α → List α → List Nat
  | .empty, _, _ => [0]
  | .one _, _, [] => []
  | .one accepts, _, c :: _ => if accepts c then [1] else []
  | .seq first second, previous, text =>
    (ends first previous text).flatMap fun n =>
      (ends second (before previous text n) (text.drop n)).map (n + ·)
  | .alt first second, previous, text => ends first previous text ++ ends second previous text
  | .star body, previous, text => rounds (ends body) text.length previous text
  | .boundary isWord, previous, text =>
    if previous.any isWord ≠ text.head?.any isWord then [0] else []

/-- What the classes of the expression accept. -/
def UsesOnly (P : α → Prop) : Regex α → Prop
  | .empty | .boundary _ => True
  | .one accepts => ∀ c, accepts c = true → P c
  | .seq first second | .alt first second => UsesOnly P first ∧ UsesOnly P second
  | .star body => UsesOnly P body

/-- There are no boundaries in the expression. -/
def plain : Regex α → Bool
  | .empty | .one _ => true
  | .seq first second | .alt first second => plain first && plain second
  | .star body => plain body
  | .boundary _ => false

/-- What a plain expression matches. -/
def language : Regex α → Language α
  | .empty | .boundary _ => 1
  | .one accepts => {w | ∃ c, accepts c = true ∧ w = [c]}
  | .seq first second => language first * language second
  | .alt first second => language first + language second
  | .star body => (language body)∗

/-- The longest match of the first way, as a replacement by a fixed text. -/
def replacedBy (r : Regex α) (replacement : List α) (previous : Option α) (text : List α) :
    Option (List α × Nat) :=
  (r.ends previous text).head?.map fun n => (replacement, n)

end Regex

/-- Rewrites a text after so many elements that a match has taken already. `find` answers with the
replacement of the match at the front and its length. -/
def replaceFrom {α : Type*} (find : Option α → List α → Option (List α × Nat)) :
    Option α → Nat → List α → List α
  | previous, 0, [] => ((find previous []).map Prod.fst).getD []
  | _, _ + 1, [] => []
  | _, taken + 1, c :: text => replaceFrom find (some c) taken text
  | previous, 0, c :: text =>
    match find previous (c :: text) with
    | none => c :: replaceFrom find (some c) 0 text
    | some (replacement, 0) => replacement ++ c :: replaceFrom find (some c) 0 text
    | some (replacement, n + 1) => replacement ++ replaceFrom find (some c) n text

/-- Replaces the matches from left to right, none of which overlap. -/
def replaceAll {α : Type*} (find : Option α → List α → Option (List α × Nat)) (text : List α) :
    List α :=
  replaceFrom find none 0 text

namespace Regex

variable {α : Type*} {r : Regex α} {accepts : α → Bool} {previous : Option α} {text w u : List α}
  {n : Nat}

section Taken

variable {each : Option α → List α → List Nat} {P : α → Prop}

theorem take_add_of_parts {i j : Nat} (first : i ≤ text.length ∧ ∀ c ∈ text.take i, P c)
    (second : j ≤ (text.drop i).length ∧ ∀ c ∈ (text.drop i).take j, P c) :
    i + j ≤ text.length ∧ ∀ c ∈ text.take (i + j), P c := by
  have length := second.1
  rw [List.length_drop] at length
  refine ⟨by omega, fun c taken => ?_⟩
  rw [List.take_add] at taken
  rcases List.mem_append.mp taken with before | behind
  · exact first.2 c before
  · exact second.2 c behind

theorem rounds_take (single : ∀ previous text, ∀ n ∈ each previous text,
      n ≤ text.length ∧ ∀ c ∈ text.take n, P c) (fuel : Nat) :
    ∀ previous text, ∀ n ∈ rounds each fuel previous text,
      n ≤ text.length ∧ ∀ c ∈ text.take n, P c := by
  induction fuel with
  | zero =>
    intro previous text n listed
    obtain rfl := List.mem_singleton.mp listed
    simp
  | succ fuel ih =>
    intro previous text n listed
    rcases List.mem_append.mp listed with more | last
    · obtain ⟨i, first, rest⟩ := List.mem_flatMap.mp more
      obtain ⟨j, further, rfl⟩ := List.mem_map.mp rest
      have one := single previous text i (List.mem_filter.mp first).1
      exact take_add_of_parts one (ih _ _ j further)
    · obtain rfl := List.mem_singleton.mp last
      simp

/-- A match lies in the text, and consists of elements that the classes accept. -/
theorem ends_take (r : Regex α) (only : r.UsesOnly P) :
    ∀ previous text, ∀ n ∈ r.ends previous text, n ≤ text.length ∧ ∀ c ∈ text.take n, P c := by
  induction r with
  | empty =>
    intro previous text n listed
    obtain rfl := List.mem_singleton.mp listed
    simp
  | one accepts =>
    intro previous text n listed
    cases text with
    | nil => cases listed
    | cons c text =>
      simp only [ends, List.mem_ite_nil_right, List.mem_singleton] at listed
      obtain ⟨accepted, rfl⟩ := listed
      simpa using only c accepted
  | seq first second ih ih' =>
    intro previous text n listed
    obtain ⟨i, before, rest⟩ := List.mem_flatMap.mp listed
    obtain ⟨j, behind, rfl⟩ := List.mem_map.mp rest
    apply take_add_of_parts
    · exact ih only.1 _ _ i before
    · exact ih' only.2 _ _ j behind
  | alt first second ih ih' =>
    intro previous text n listed
    rcases List.mem_append.mp listed with left | right
    · exact ih only.1 _ _ n left
    · exact ih' only.2 _ _ n right
  | star body ih =>
    intro previous text n listed
    exact rounds_take (ih only) text.length previous text n listed
  | boundary isWord =>
    intro previous text n listed
    simp only [ends, List.mem_ite_nil_right, List.mem_singleton] at listed
    obtain ⟨-, rfl⟩ := listed
    simp

theorem usesOnly_times (only : r.UsesOnly P) (n : Nat) : (times n r).UsesOnly P := by
  induction n with
  | zero => trivial
  | succ n ih => exact ⟨only, ih⟩

theorem usesOnly_upTo (only : r.UsesOnly P) (n : Nat) : (upTo n r).UsesOnly P := by
  induction n with
  | zero => trivial
  | succ n ih => exact ⟨⟨only, ih⟩, trivial⟩

theorem usesOnly_between (only : r.UsesOnly P) (least most : Nat) :
    (between least most r).UsesOnly P :=
  ⟨usesOnly_times only least, usesOnly_upTo only (most - least)⟩

theorem usesOnly_atLeast (only : r.UsesOnly P) (least : Nat) : (atLeast least r).UsesOnly P :=
  ⟨usesOnly_times only least, only⟩

end Taken

section Plain

variable {each : Option α → List α → List Nat} {l : Language α}

theorem append_mem_kstar (first : w ∈ l) (rest : u ∈ l∗) : w ++ u ∈ l∗ := by
  rw [← Language.one_add_self_mul_kstar_eq_kstar]
  exact .inr (Language.append_mem_mul first rest)

theorem exists_first_of_mem_kstar (matched : w ∈ l∗) (some : w ≠ []) :
    ∃ x y, x ∈ l ∧ x ≠ [] ∧ y ∈ l∗ ∧ w = x ++ y := by
  obtain ⟨parts, rfl, each⟩ := Language.mem_kstar_iff_exists_nonempty.mp matched
  cases parts with
  | nil => exact absurd rfl some
  | cons x parts =>
    obtain ⟨first, rest⟩ := List.forall_mem_cons.mp each
    refine ⟨x, parts.flatten, first.1, first.2, ?_, rfl⟩
    exact Language.join_mem_kstar fun y listed => (rest y listed).1

/-- A place in a text where a match of the first part ends. -/
theorem exists_parts {x y : List α} (within : n ≤ text.length) (same : text.take n = x ++ y) :
    n = x.length + y.length ∧ text.take x.length = x ∧ (text.drop x.length).take y.length = y := by
  have length := congrArg List.length same
  rw [List.length_take, List.length_append, Nat.min_eq_left within] at length
  obtain ⟨rest, rfl⟩ : ∃ rest, text = x ++ (y ++ rest) := by
    refine ⟨text.drop n, ?_⟩
    rw [← List.append_assoc, ← same, List.take_append_drop]
  refine ⟨length, ?_, ?_⟩
  · exact List.take_left
  · rw [List.drop_left, List.take_left]

/-- Rounds of a matcher match the star of its language. -/
theorem mem_rounds_iff (single : ∀ previous text n, n ∈ each previous text ↔
      n ≤ text.length ∧ text.take n ∈ l) (fuel : Nat) :
    ∀ previous text n, text.length ≤ fuel →
      (n ∈ rounds each fuel previous text ↔ n ≤ text.length ∧ text.take n ∈ l∗) := by
  induction fuel with
  | zero =>
    intro previous text n short
    obtain rfl := List.length_eq_zero_iff.mp (Nat.le_zero.mp short)
    simp [rounds, Language.nil_mem_kstar]
  | succ fuel ih =>
    intro previous text n short
    rw [rounds, List.mem_append, List.mem_flatMap, List.mem_singleton]
    constructor
    · rintro (⟨i, first, rest⟩ | rfl)
      · obtain ⟨filtered, positive⟩ := List.mem_filter.mp first
        obtain ⟨j, further, rfl⟩ := List.mem_map.mp rest
        have positive := of_decide_eq_true positive
        obtain ⟨within, head⟩ := (single _ _ _).mp filtered
        have shorter : (text.drop i).length ≤ fuel := by
          rw [List.length_drop]
          omega
        obtain ⟨within', tail⟩ := (ih _ _ _ shorter).mp further
        rw [List.length_drop] at within'
        refine ⟨by omega, ?_⟩
        rw [List.take_add]
        exact append_mem_kstar head tail
      · simp [Language.nil_mem_kstar]
    · rintro ⟨within, matched⟩
      by_cases none : text.take n = []
      · right
        rcases List.take_eq_nil_iff.mp none with zero | rfl
        · exact zero
        · exact Nat.le_zero.mp within
      · left
        obtain ⟨x, y, first, some, rest, same⟩ := exists_first_of_mem_kstar matched none
        obtain ⟨rfl, head, tail⟩ := exists_parts within same
        have positive := List.length_pos_iff.mpr some
        have shorter : (text.drop x.length).length ≤ fuel := by
          rw [List.length_drop]
          omega
        refine ⟨x.length, List.mem_filter.mpr ⟨?_, decide_eq_true positive⟩,
          List.mem_map.mpr ⟨y.length, ?_, rfl⟩⟩
        · apply (single _ _ _).mpr
          exact ⟨by omega, head.symm ▸ first⟩
        · apply (ih _ _ _ shorter).mpr
          rw [List.length_drop, tail]
          exact ⟨by omega, rest⟩

/-- A plain expression matches its language, whatever stands before and behind. -/
theorem mem_ends_iff (r : Regex α) (plain : r.plain = true) : ∀ previous text n,
    n ∈ r.ends previous text ↔ n ≤ text.length ∧ text.take n ∈ r.language := by
  induction r with
  | empty =>
    intro previous text n
    rw [ends, List.mem_singleton, language, Language.mem_one, List.take_eq_nil_iff]
    constructor
    · rintro rfl
      exact ⟨Nat.zero_le _, .inl rfl⟩
    · rintro ⟨within, zero | rfl⟩
      · exact zero
      · exact Nat.le_zero.mp within
  | one accepts =>
    intro previous text n
    cases text with
    | nil =>
      apply iff_of_false List.not_mem_nil
      rintro ⟨-, c, -, same⟩
      cases n <;> cases same
    | cons c text =>
      simp only [ends, List.mem_ite_nil_right, List.mem_singleton]
      constructor
      · rintro ⟨accepted, rfl⟩
        exact ⟨Nat.le_add_left 1 _, c, accepted, rfl⟩
      · rintro ⟨within, d, accepted, same⟩
        obtain ⟨rfl, _, _⟩ := exists_parts within (same.trans (List.append_nil [d]).symm)
        obtain ⟨rfl, -⟩ := List.cons.inj same
        exact ⟨accepted, rfl⟩
  | seq first second ih ih' =>
    intro previous text n
    obtain ⟨left, right⟩ := Bool.and_eq_true_iff.mp plain
    simp only [ends, List.mem_flatMap, List.mem_map, language]
    constructor
    · rintro ⟨i, before, j, behind, rfl⟩
      obtain ⟨within, head⟩ := (ih left _ _ _).mp before
      obtain ⟨within', tail⟩ := (ih' right _ _ _).mp behind
      rw [List.length_drop] at within'
      refine ⟨by omega, ?_⟩
      rw [List.take_add]
      exact Language.append_mem_mul head tail
    · rintro ⟨within, matched⟩
      obtain ⟨x, head, y, tail, same⟩ := Language.mem_mul.mp matched
      obtain ⟨rfl, taken, rest⟩ := exists_parts within same.symm
      refine ⟨x.length, (ih left _ _ _).mpr ⟨by omega, taken.symm ▸ head⟩, y.length, ?_, rfl⟩
      apply (ih' right _ _ _).mpr
      rw [List.length_drop, rest]
      exact ⟨by omega, tail⟩
  | alt first second ih ih' =>
    intro previous text n
    obtain ⟨left, right⟩ := Bool.and_eq_true_iff.mp plain
    rw [ends, List.mem_append, ih left, ih' right, ← and_or_left, language, Language.mem_add]
  | star body ih =>
    intro previous text n
    exact mem_rounds_iff (ih plain) text.length previous text n (Nat.le_refl _)
  | boundary isWord => cases plain

theorem rounds_previous (same : ∀ previous text, each previous text = each none text)
    (fuel : Nat) : ∀ previous text,
      rounds each fuel previous text = rounds each fuel none text := by
  induction fuel with
  | zero => intro previous text; rfl
  | succ fuel ih =>
    intro previous text
    rw [rounds, rounds, same]
    congr 1
    apply List.flatMap_congr
    intro n _
    rw [ih (before previous text n), ih (before none text n)]

/-- Without boundaries it does not matter what stands in front of the text. -/
theorem ends_previous (r : Regex α) (plain : r.plain = true) : ∀ previous text,
    r.ends previous text = r.ends none text := by
  induction r with
  | empty => intro previous text; rfl
  | one accepts =>
    intro previous text
    cases text <;> rfl
  | seq first second ih ih' =>
    intro previous text
    obtain ⟨left, right⟩ := Bool.and_eq_true_iff.mp plain
    rw [ends, ends, ih left]
    apply List.flatMap_congr
    intro n _
    rw [ih' right (before previous text n), ih' right (before none text n)]
  | alt first second ih ih' =>
    intro previous text
    obtain ⟨left, right⟩ := Bool.and_eq_true_iff.mp plain
    rw [ends, ends, ih left, ih' right]
  | star body ih =>
    intro previous text
    exact rounds_previous (ih plain) text.length previous text
  | boundary isWord => cases plain

end Plain

section Classes

theorem rounds_one (accepts : α → Bool) (text : List α) : ∀ previous fuel, text.length ≤ fuel →
    rounds (one accepts).ends fuel previous text =
      (List.range ((text.takeWhile accepts).length + 1)).reverse := by
  induction text with
  | nil =>
    intro previous fuel _
    cases fuel <;> rfl
  | cons c text ih =>
    intro previous fuel enough
    cases fuel with
    | zero => cases enough
    | succ fuel =>
      have further := ih (some c) fuel (Nat.le_of_succ_le_succ enough)
      by_cases accepted : accepts c = true
      · have taken : (c :: text).takeWhile accepts = c :: text.takeWhile accepts :=
          List.takeWhile_cons_of_pos accepted
        rw [taken, List.length_cons, List.range_succ_eq_map, List.reverse_cons, rounds, ends,
          if_pos accepted]
        have front : before previous (c :: text) 1 = some c := rfl
        simp only [List.filter_cons, List.filter_nil, Nat.zero_lt_one, decide_true, if_true,
          List.flatMap_cons, List.flatMap_nil, List.append_nil, front, List.drop_succ_cons,
          List.drop_zero, further, ← List.map_reverse]
        congr 2
        funext n
        exact Nat.add_comm 1 n
      · rw [List.takeWhile_cons_of_neg accepted, rounds, ends, if_neg accepted]
        rfl

/-- A starred class takes as many elements as it accepts, and then fewer. -/
theorem ends_star_one (accepts : α → Bool) (previous : Option α) (text : List α) :
    (star (.one accepts)).ends previous text =
      (List.range ((text.takeWhile accepts).length + 1)).reverse :=
  rounds_one accepts text previous text.length (Nat.le_refl _)

theorem mem_choice_iff (rs : List (Regex α)) (w : List α) :
    w ∈ (choice rs).language ↔ ∃ r ∈ rs, w ∈ r.language := by
  induction rs with
  | nil =>
    apply iff_of_false
    · rintro ⟨c, accepted, -⟩
      cases accepted
    · rintro ⟨r, listed, -⟩
      cases listed
  | cons r rs ih =>
    rw [choice, language, Language.mem_add, ih]
    simp only [List.mem_cons, exists_eq_or_imp]

theorem mem_star_one_iff (accepts : α → Bool) (w : List α) :
    w ∈ (star (.one accepts)).language ↔ ∀ c ∈ w, accepts c = true := by
  rw [language, Language.mem_kstar]
  constructor
  · rintro ⟨parts, rfl, each⟩ c listed
    obtain ⟨part, own, inside⟩ := List.mem_flatten.mp listed
    obtain ⟨d, accepted, rfl⟩ := each part own
    obtain rfl := List.mem_singleton.mp inside
    exact accepted
  · intro each
    refine ⟨w.map fun c => [c], ?_, ?_⟩
    · induction w with
      | nil => rfl
      | cons c w ih =>
        rw [List.map_cons, List.flatten_cons,
          ← ih fun d listed => each d (List.mem_cons_of_mem _ listed)]
        rfl
    · intro part listed
      obtain ⟨c, own, rfl⟩ := List.mem_map.mp listed
      exact ⟨c, each c own, rfl⟩

/-- A class that has to be met once takes as many elements as it accepts. -/
theorem head_ends_plus_one (accepts : α → Bool) (previous : Option α) (text : List α) :
    ((plus (.one accepts)).ends previous text).head? =
      if (text.takeWhile accepts).length = 0 then none
      else some (text.takeWhile accepts).length := by
  cases text with
  | nil => rfl
  | cons c text =>
    rw [plus, ends, ends]
    by_cases accepted : accepts c = true
    · rw [List.takeWhile_cons_of_pos accepted, if_pos accepted, List.length_cons,
        if_neg (Nat.succ_ne_zero _), List.flatMap_cons, List.flatMap_nil, List.append_nil,
        ends_star_one, List.range_succ, List.reverse_append, List.reverse_singleton,
        List.singleton_append, List.map_cons, List.head?_cons, Nat.add_comm]
      rfl
    · rw [List.takeWhile_cons_of_neg accepted, if_neg accepted]
      rfl

end Classes

end Regex

section Replace

variable {α : Type*} {find : Option α → List α → Option (List α × Nat)} {previous : Option α}
  {text w u replacement : List α} {c : α} {n : Nat}

/-- What stands in front of a place does not matter to the matches there. -/
def FrontFree (find : Option α → List α → Option (List α × Nat)) : Prop :=
  ∀ previous text, find previous text = find none text

theorem replaceFrom_free (free : FrontFree find) (text : List α) : ∀ previous n,
    replaceFrom find previous n text = replaceFrom find none n text := by
  intro previous n
  cases text with
  | nil =>
    cases n with
    | zero => rw [replaceFrom, replaceFrom, free]
    | succ n => rfl
  | cons c text =>
    cases n with
    | zero => rw [replaceFrom, replaceFrom, free]
    | succ n => rfl

theorem replaceFrom_append (free : FrontFree find) (w u : List α) : ∀ previous,
    replaceFrom find previous w.length (w ++ u) = replaceAll find u := by
  induction w with
  | nil => exact fun previous => replaceFrom_free free u previous 0
  | cons c w ih => exact fun previous => ih (some c)

/-- An element where nothing matches stays. -/
theorem replaceAll_skip (free : FrontFree find) (missed : find none (c :: text) = none) :
    replaceAll find (c :: text) = c :: replaceAll find text := by
  rw [replaceAll, replaceFrom, missed]
  exact congrArg (c :: ·) (replaceFrom_free free text (some c) 0)

/-- A match at the front is replaced. -/
theorem replaceAll_match (free : FrontFree find) (filled : w ≠ [])
    (found : find none (w ++ u) = some (replacement, w.length)) :
    replaceAll find (w ++ u) = replacement ++ replaceAll find u := by
  cases w with
  | nil => exact absurd rfl filled
  | cons c w =>
    rw [List.cons_append] at found ⊢
    rw [replaceAll, replaceFrom, found]
    exact congrArg (replacement ++ ·) (replaceFrom_append free w u (some c))

variable [BEq α]

/-- Replacements that hold an element as often as their matches leave its number in the text. -/
theorem count_replaceFrom (x : α) (kept : ∀ previous text replacement n,
      find previous text = some (replacement, n) →
        n ≤ text.length ∧ replacement.count x = (text.take n).count x) (text : List α) :
    ∀ previous n, (replaceFrom find previous n text).count x = (text.drop n).count x := by
  induction text with
  | nil =>
    intro previous n
    cases n with
    | succ n => rfl
    | zero =>
      rw [replaceFrom]
      cases found : find previous [] with
      | none => rfl
      | some result =>
        have same := (kept previous [] result.1 result.2 found).2
        rw [List.take_nil] at same
        exact same
  | cons c text ih =>
    intro previous n
    cases n with
    | succ n => exact ih (some c) n
    | zero =>
      rw [replaceFrom]
      split
      next missed =>
        rw [List.count_cons, ih, List.drop_zero, List.drop_zero, List.count_cons]
      next replacement found =>
        have same := (kept _ _ _ _ found).2
        rw [List.take_zero, List.count_nil] at same
        rw [List.count_append, List.count_cons, ih, same, List.drop_zero, List.drop_zero,
          List.count_cons, Nat.zero_add]
      next replacement n found =>
        have same := (kept _ _ _ _ found).2
        rw [List.count_append, ih, same, ← List.count_append, List.take_succ_cons,
          List.cons_append, List.take_append_drop, List.drop_zero]

theorem count_replaceAll (x : α) (kept : ∀ previous text replacement n,
      find previous text = some (replacement, n) →
        n ≤ text.length ∧ replacement.count x = (text.take n).count x) (text : List α) :
    (replaceAll find text).count x = text.count x :=
  count_replaceFrom x kept text none 0

/-- An element that no class accepts stays in the text as often as it is there. -/
theorem count_replacedBy [LawfulBEq α] (r : Regex α) {x : α} (only : r.UsesOnly (· ≠ x))
    (fresh : replacement.count x = 0) (text : List α) :
    (replaceAll (r.replacedBy replacement) text).count x = text.count x := by
  apply count_replaceAll
  intro previous text found n result
  obtain ⟨length, first, same⟩ := Option.map_eq_some_iff.mp result
  obtain ⟨rfl, rfl⟩ := Prod.mk.inj same
  obtain ⟨within, used⟩ := r.ends_take only previous text length (List.mem_of_head? first)
  refine ⟨within, ?_⟩
  rw [fresh, eq_comm, List.count_eq_zero]
  intro taken
  exact used x taken rfl

end Replace

end Nek0.Library
