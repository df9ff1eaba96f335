import Nek0.Library.Calendar
import Nek0.Library.Digits

/-!
# Dates as ISO 8601 texts

`DateTime.toIso8601String` and `DateTime.tryParse` of Dart. A date that is not in UTC is written as
the clock on the wall shows it, without the offset, and read with the rules of the local time zone,
which the environment gives.
-/

namespace Nek0.Source

open Nek0.Library

def microsecondsPerDay : Int := 86400000000

/-- 100 million days -/
def maxMicrosecondsSinceEpoch : Int := 8640000000000000000

structure DateTime where
  microsecondsSinceEpoch : Int
  isUtc : Bool
  inRange : microsecondsSinceEpoch.natAbs ≤ maxMicrosecondsSinceEpoch
  deriving DecidableEq, Repr

/-- A local time zone: what the wall clock shows at an instant, and the instant of a reading. -/
structure TimeZone where
  toLocal : Int → Int
  ofLocal : Int → Int
  near : ∀ t, t - microsecondsPerDay ≤ toLocal t ∧ toLocal t ≤ t + microsecondsPerDay

namespace DateTime

/-- The time of a day, in microseconds. -/
def ofTime (hour minute second micros : Int) : Int :=
  ((hour * 60 + minute) * 60 + second) * 1000000 + micros

section Print

def fourDigits (n : Int) : List Char := (if n < 0 then ['-'] else []) ++ padded 4 n.natAbs

/-- For a year of five or six digits. -/
def sixDigits (n : Int) : List Char := (if n < 0 then '-' else '+') :: padded 6 n.natAbs

def yearText (year : Int) : List Char :=
  if -9999 ≤ year ∧ year ≤ 9999 then fourDigits year else sixDigits year

def dateText (date : CivilDate) : List Char :=
  yearText date.year ++ '-' :: padded 2 date.month.toNat ++ '-' :: padded 2 date.day.toNat

def fractionText (micros : Nat) : List Char :=
  padded 3 (micros / 1000) ++ if micros % 1000 = 0 then [] else padded 3 (micros % 1000)

/-- `ofDay` is the time of the day in microseconds. -/
def timeText (ofDay : Nat) : List Char :=
  padded 2 (ofDay / 3600000000) ++ ':' :: padded 2 (ofDay / 60000000 % 60) ++
    ':' :: padded 2 (ofDay / 1000000 % 60) ++ '.' :: fractionText (ofDay % 1000000)

/-- What the clock shows. -/
def wall (zone : TimeZone) (t : DateTime) : Int :=
  if t.isUtc then t.microsecondsSinceEpoch else zone.toLocal t.microsecondsSinceEpoch

def toIso8601String (zone : TimeZone) (t : DateTime) : String :=
  let wall := t.wall zone
  let date := CivilDate.ofDays (wall / microsecondsPerDay)
  let time := (wall % microsecondsPerDay).toNat
  String.ofList (dateText date ++ 'T' :: timeText time ++ if t.isUtc then ['Z'] else [])

example : dateText (CivilDate.ofDays 20688) = "2026-08-23".toList := by decide

end Print

section Parse

/-- An optional character of the pattern. -/
def skip (c : Char) : List Char → List Char
  | head :: rest => if head = c then rest else head :: rest
  | [] => []

/-- Up to six digits behind the point count. -/
def fractionMicros (digits : List Char) : Nat :=
  valueFrom 0 ((digits ++ List.replicate 6 '0').take 6)

/-- Optional digits behind a point or a comma. -/
def parseFraction : List Char → Nat × List Char
  | c :: rest =>
    let digits := rest.takeWhile Char.isDigit
    if (c = '.' ∨ c = ',') ∧ digits ≠ [] then (fractionMicros digits, rest.dropWhile Char.isDigit)
    else (0, c :: rest)
  | [] => (0, [])

/-- The time behind the date, of which all but the hour is optional. -/
def parseTime (text : List Char) : Option (Int × List Char) :=
  (readDigits 2 text).map fun (hour, text) =>
    match readDigits 2 (skip ':' text) with
    | none => (ofTime hour 0 0 0, text)
    | some (minute, text) =>
      match readDigits 2 (skip ':' text) with
      | none => (ofTime hour minute 0 0, text)
      | some (second, text) =>
        let (micros, text) := parseFraction text
        (ofTime hour minute second micros, text)

/-- The rest of the text: nothing for a local time, else the offset from UTC. -/
def parseOffset (text : List Char) : Option (Option Int) :=
  match text with
  | [] => some none
  | _ =>
    match skip ' ' text with
    | ['z'] | ['Z'] => some (some 0)
    | sign :: text =>
      if sign = '-' ∨ sign = '+' then
        (readDigits 2 text).bind fun (hour, text) =>
          let offset (minute : Nat) : Int :=
            (if sign = '-' then -1 else 1) * ofTime hour minute 0 0
          if text = [] then some (some (offset 0))
          else
            match readDigits 2 (skip ':' text) with
            | some (minute, []) => some (some (offset minute))
            | _ => none
      else none
    | [] => none

/-- The value of the fields. A month out of range counts on from the next year. -/
def toMicros (year month day time : Int) : Int :=
  CivilDate.toDays ⟨year + (month - 1) / 12, (month - 1) % 12 + 1, day⟩ * microsecondsPerDay + time

/-- The value of a reading, if a `DateTime` can have it. -/
def ofReading (zone : TimeZone) (reading : Int) : Option Int → Option DateTime
  | none =>
    let t := zone.ofLocal reading
    if inRange : t.natAbs ≤ maxMicrosecondsSinceEpoch then some ⟨t, false, inRange⟩ else none
  | some offset =>
    let t := reading - offset
    if inRange : t.natAbs ≤ maxMicrosecondsSinceEpoch then some ⟨t, true, inRange⟩ else none

/-- An optional sign: whether it is a minus, and the text behind it. -/
def parseSign : List Char → Bool × List Char
  | '-' :: rest => (true, rest)
  | '+' :: rest => (false, rest)
  | text => (false, text)

/-- The reading of a text whose year has so many digits, and its offset. -/
def parseWidth (width : Nat) (text : List Char) : Option (Int × Option Int) :=
  (readDigits width (parseSign text).2).bind fun (year, rest) =>
  (readDigits 2 (skip '-' rest)).bind fun (month, rest) =>
  (readDigits 2 (skip '-' rest)).bind fun (day, rest) =>
  let year : Int := if (parseSign text).1 then -year else year
  match rest with
  | [] => some (toMicros year month day 0, none)
  | c :: text =>
    if c = ' ' ∨ c = 'T' then
      (parseTime text).bind fun (time, text) =>
      (parseOffset text).map fun offset => (toMicros year month day time, offset)
    else none

/-- The digits of the year are read greedily. -/
def tryParse (zone : TimeZone) (formattedString : String) : Option DateTime :=
  ([6, 5, 4].findSome? fun width => parseWidth width formattedString.toList).bind
    fun (reading, offset) => ofReading zone reading offset

end Parse

section RoundTrip

variable {zone : TimeZone}

/-- What comes behind the digits of a text that `toIso8601String` writes. -/
def NoDigitFirst (rest : List Char) : Prop := ∀ c ∈ rest.head?, c.isDigit = false

theorem takeWhile_digits {digits rest : List Char} (all : ∀ c ∈ digits, c.isDigit = true)
    (stop : NoDigitFirst rest) : (digits ++ rest).takeWhile Char.isDigit = digits := by
  rw [List.takeWhile_append_of_pos all]
  cases rest with
  | nil => simp
  | cons c rest => simp [stop c rfl]

theorem dropWhile_digits {digits rest : List Char} (all : ∀ c ∈ digits, c.isDigit = true)
    (stop : NoDigitFirst rest) : (digits ++ rest).dropWhile Char.isDigit = rest := by
  rw [List.dropWhile_append_of_pos all]
  cases rest with
  | nil => rfl
  | cons c rest => simp [stop c rfl]

theorem isDigit_of_mem_fractionText {micros : Nat} {c : Char}
    (listed : c ∈ fractionText micros) : c.isDigit = true := by
  rcases List.mem_append.mp listed with listed | listed
  · exact isDigit_of_mem_padded listed
  · split at listed
    · cases listed
    · exact isDigit_of_mem_padded listed

theorem fractionMicros_fractionText {micros : Nat} (fits : micros < 1000000) :
    fractionMicros (fractionText micros) = micros := by
  unfold fractionMicros fractionText
  split
  next even =>
    have front : (padded 3 (micros / 1000) ++ [] ++ List.replicate 6 '0').take 6 =
        padded 3 (micros / 1000) ++ padded 3 0 := rfl
    rw [front, valueFrom_append, valueFrom_padded, valueFrom_padded]
    omega
  next odd =>
    have front : (padded 3 (micros / 1000) ++ padded 3 (micros % 1000) ++
        List.replicate 6 '0').take 6 = padded 3 (micros / 1000) ++ padded 3 (micros % 1000) := rfl
    rw [front, valueFrom_append, valueFrom_padded, valueFrom_padded]
    omega

theorem parseFraction_fractionText {micros : Nat} {rest : List Char} (fits : micros < 1000000)
    (stop : NoDigitFirst rest) :
    parseFraction ('.' :: (fractionText micros ++ rest)) = (micros, rest) := by
  have all : ∀ c ∈ fractionText micros, c.isDigit = true :=
    fun _ listed => isDigit_of_mem_fractionText listed
  have some_digit : fractionText micros ≠ [] := by simp [fractionText, padded]
  rw [parseFraction, takeWhile_digits all stop, dropWhile_digits all stop,
    if_pos ⟨.inl rfl, some_digit⟩, fractionMicros_fractionText fits]

theorem parseTime_timeText {ofDay : Nat} {rest : List Char} (fits : ofDay < 86400000000)
    (stop : NoDigitFirst rest) : parseTime (timeText ofDay ++ rest) = some ((ofDay : Int), rest) := by
  have hour : ofDay / 3600000000 < 10 ^ 2 := by omega
  have minute : ofDay / 60000000 % 60 < 10 ^ 2 := by omega
  have second : ofDay / 1000000 % 60 < 10 ^ 2 := by omega
  have micros : ofDay % 1000000 < 1000000 := by omega
  simp only [timeText, parseTime, List.append_assoc, List.cons_append, readDigits_padded hour,
    readDigits_padded minute, readDigits_padded second, Option.map_some, skip, if_true,
    parseFraction_fractionText micros stop, ofTime]
  congr 2
  omega

theorem parseSign_padded (width n : Nat) (rest : List Char) :
    parseSign (padded (width + 1) n ++ rest) = (false, padded (width + 1) n ++ rest) := by
  have digit := digitChar_isDigit (Nat.mod_lt (n / 10 ^ width) (by decide : 10 > 0))
  rw [padded, List.cons_append]
  generalize Nat.digitChar (n / 10 ^ width % 10) = c at digit
  unfold parseSign
  split
  next same => simp_all
  next same => simp_all
  · rfl

/-- A year of a sign, which is left out for one of four digits that is not negative, and digits. -/
theorem parseSign_yearText (year : Int) (rest : List Char) :
    ∃ width, (width = 4 ∧ year.natAbs < 10 ^ 4 ∨ width = 6) ∧
      parseSign (yearText year ++ rest) = (decide (year < 0), padded width year.natAbs ++ rest) := by
  unfold yearText
  split
  next small =>
    refine ⟨4, .inl ⟨rfl, by omega⟩, ?_⟩
    by_cases negative : year < 0
    · simp [fourDigits, negative, parseSign]
    · simp [fourDigits, negative, parseSign_padded]
  next large =>
    refine ⟨6, .inr rfl, ?_⟩
    by_cases negative : year < 0
    · simp [sixDigits, negative, parseSign]
    · simp [sixDigits, negative, parseSign]

/-- A date and a time that are written as `toIso8601String` writes them are read as such. -/
theorem parseWidth_text {date : CivilDate} {ofDay width : Nat} {offset : List Char}
    {read : Option Int} {text : List Char} (sign : parseSign text =
      (decide (date.year < 0), padded width date.year.natAbs ++ '-' :: (padded 2 date.month.toNat ++
        '-' :: (padded 2 date.day.toNat ++ 'T' :: (timeText ofDay ++ offset)))))
    (year : date.year.natAbs < 10 ^ width) (month : 1 ≤ date.month ∧ date.month ≤ 12)
    (day : 1 ≤ date.day ∧ date.day ≤ 31) (fits : ofDay < 86400000000)
    (stop : NoDigitFirst offset) (parsed : parseOffset offset = some read) :
    parseWidth width text = some (date.toDays * microsecondsPerDay + ofDay, read) := by
  have inYear : (date.month - 1) / 12 = 0 ∧ (date.month - 1) % 12 + 1 = date.month := by omega
  have month' : date.month.toNat < 10 ^ 2 := by omega
  have day' : date.day.toNat < 10 ^ 2 := by omega
  have value : toMicros (if decide (date.year < 0) then -(date.year.natAbs : Int)
      else date.year.natAbs) date.month.toNat date.day.toNat ofDay =
      date.toDays * microsecondsPerDay + ofDay := by
    have year_eq : (if decide (date.year < 0) then -(date.year.natAbs : Int)
        else date.year.natAbs) = date.year := by
      by_cases negative : date.year < 0
      · rw [if_pos (decide_eq_true negative)]
        omega
      · rw [if_neg (by simpa using negative)]
        omega
    rw [year_eq, toMicros, Int.toNat_of_nonneg (by omega), Int.toNat_of_nonneg (by omega),
      inYear.1, inYear.2, Int.add_zero]
  simp only [parseWidth, sign, readDigits_padded year, Option.bind_some, skip, if_true,
    readDigits_padded month', readDigits_padded day', parseTime_timeText fits stop, parsed]
  simp only [Char.reduceEq, or_true, if_true, Option.map_some, value]

theorem wall_bounds (t : DateTime) : (t.wall zone).natAbs ≤ 8640086400000000000 := by
  have inRange := t.inRange
  have near := zone.near t.microsecondsSinceEpoch
  simp only [maxMicrosecondsSinceEpoch, microsecondsPerDay] at inRange near
  unfold wall
  split <;> omega

/-- What is written is read as the clock showed it, and a local time as the zone reads that. -/
theorem tryParse_toIso8601String (t : DateTime) : tryParse zone (t.toIso8601String zone) =
    ofReading zone (t.wall zone) (if t.isUtc then some 0 else none) := by
  have bounds : (t.wall zone).natAbs ≤ 8640086400000000000 := t.wall_bounds
  unfold toIso8601String tryParse
  generalize t.wall zone = wall at bounds
  generalize t.isUtc = isUtc
  have date_bounds := CivilDate.ofDays_bounds (wall / microsecondsPerDay)
  have days := CivilDate.toDays_ofDays (wall / microsecondsPerDay)
  simp only [microsecondsPerDay] at date_bounds days ⊢
  have year : (CivilDate.ofDays (wall / 86400000000)).year.natAbs < 10 ^ 6 := by omega
  have fits : (wall % 86400000000).toNat < 86400000000 := by omega
  generalize CivilDate.ofDays (wall / 86400000000) = date at *
  obtain ⟨offset, stop, parsed, text⟩ : ∃ offset, NoDigitFirst offset ∧
      parseOffset offset = some (if isUtc then some 0 else none) ∧
      (if isUtc then ['Z'] else []) = offset := by
    cases isUtc
    · exact ⟨[], by simp [NoDigitFirst], rfl, rfl⟩
    · exact ⟨['Z'], by simp [NoDigitFirst], rfl, rfl⟩
  have same : date.toDays * 86400000000 + ((wall % 86400000000).toNat : Int) = wall := by omega
  rw [text, String.toList_ofList]
  simp only [dateText, List.append_assoc, List.cons_append]
  obtain ⟨width, small, sign⟩ := parseSign_yearText date.year
    ('-' :: (padded 2 date.month.toNat ++ '-' :: (padded 2 date.day.toNat ++
      'T' :: (timeText (wall % 86400000000).toNat ++ offset))))
  generalize yearText date.year ++ _ = written at sign ⊢
  have read : parseWidth width written = some (wall, if isUtc then some 0 else none) := by
    rw [← same]
    refine parseWidth_text sign ?_ ⟨date_bounds.1, date_bounds.2.1⟩
      ⟨date_bounds.2.2.1, date_bounds.2.2.2.1⟩ fits stop parsed
    rcases small with ⟨rfl, small⟩ | rfl
    · exact small
    · exact year
  rcases small with ⟨rfl, -⟩ | rfl
  · have short : ∀ width, 4 < width → parseWidth width written = none := by
      intro width more
      rw [parseWidth, sign, readDigits_short (by simpa using more) (by decide), Option.bind_none]
    simp [List.findSome?, short, read]
  · simp [List.findSome?, read]

theorem tryParse_eq_some_iff (t : DateTime) : tryParse zone (t.toIso8601String zone) = some t ↔
    t.isUtc = true ∨ zone.ofLocal (zone.toLocal t.microsecondsSinceEpoch) =
      t.microsecondsSinceEpoch := by
  rw [tryParse_toIso8601String]
  obtain ⟨t, isUtc, inRange⟩ := t
  cases isUtc with
  | true =>
    simp only [ofReading, wall, if_true, Int.sub_zero, dif_pos inRange, true_or]
  | false =>
    simp only [ofReading, wall, Bool.false_eq_true, if_false, false_or]
    constructor
    · intro parsed
      split at parsed
      · simp only [Option.some.injEq, DateTime.mk.injEq] at parsed
        exact parsed.1
      · cases parsed
    · intro same
      simp only [same]
      rw [dif_pos inRange]

end RoundTrip

end DateTime

end Nek0.Source
