import Nek0.Library.Base64
import Nek0.Library.Digits
import Nek0.Source.IconCache

/-!
# Names of files

Unique ids are base64 texts. A name puts `_` for each of `+`, `/` and `=`, cuts a history's name,
and joins an avatar's parts with `_`. So two names are the same exactly if the texts differ in
nothing but which of these characters stands where.
-/

namespace Nek0.Guarantees

open Nek0.Library Nek0.Source Nek0.Source.IconCache

/-- A unique id, as the server gives it: bytes in base64. -/
structure UniqueId where
  text : String
  base64 : ∃ bytes, text.toList = Base64.encode bytes

/-- Files of different servers, icons and clients have different names. -/
structure NamedApart (s t : UniqueId) (i j : Int) (c d : UniqueId) : Prop where
  history : s ≠ t → ChatHistoryService.fileNameFor s.text ≠ ChatHistoryService.fileNameFor t.text
  icon : (s, i) ≠ (t, j) → fileName s.text i ≠ fileName t.text j
  avatar : (s, c) ≠ (t, d) → avatarName s.text c.text ≠ avatarName t.text d.text

def replaced : List Char := ['+', '/', '=']

/-- The texts differ only in which of the replaced characters they have. -/
def LookAlike (a b : List Char) : Prop :=
  List.Forall₂ (fun c d => c = d ∨ c ∈ replaced ∧ d ∈ replaced) a b

/-- The first 96 characters tell the servers apart, the server or the number the icons, and the
texts of server and client, with a replaced character between them, the avatars. -/
structure TextsApart (s t : UniqueId) (i j : Int) (c d : UniqueId) : Prop where
  history : s ≠ t → ¬ LookAlike (s.text.toList.take 96) (t.text.toList.take 96)
  icon : (s, i) ≠ (t, j) → ¬ (LookAlike s.text.toList t.text.toList ∧ i = j)
  avatar : (s, c) ≠ (t, d) →
    ¬ LookAlike (s.text.toList ++ '/' :: c.text.toList) (t.text.toList ++ '/' :: d.text.toList)

section Characters

/-- What a name has for a character of a base64 text. -/
def standIn (c : Char) : Char := if c ∈ replaced then '_' else c

def IsBase64Char (c : Char) : Prop := c = '=' ∨ ∃ digit, c = Base64.char digit

theorem safeName_digit (digit : Fin 64) :
    ChatHistoryService.safeName (Base64.char digit) = [standIn (Base64.char digit)] ∧
      Base64.char digit ≠ '_' := by
  revert digit
  decide +kernel

theorem safeName_base64 {c : Char} (base64 : IsBase64Char c) :
    ChatHistoryService.safeName c = [standIn c] ∧ c ≠ '_' := by
  rcases base64 with rfl | ⟨digit, rfl⟩
  · decide
  · exact safeName_digit digit

theorem standIn_eq_iff {c d : Char} (base64 : IsBase64Char c) (base64' : IsBase64Char d) :
    standIn c = standIn d ↔ c = d ∨ c ∈ replaced ∧ d ∈ replaced := by
  have other := (safeName_base64 base64).2
  have other' := (safeName_base64 base64').2
  unfold standIn
  by_cases first : c ∈ replaced <;> by_cases second : d ∈ replaced
  · simp [first, second]
  · simp only [first, second, if_true, if_false, and_false, or_false]
    refine ⟨fun same => absurd same.symm other', fun same => absurd (same ▸ first) second⟩
  · simp only [first, second, if_true, if_false, false_and, or_false]
    refine ⟨fun same => absurd same other, fun same => absurd (same ▸ second) first⟩
  · simp [first, second]

theorem map_standIn_eq_iff {a b : List Char} (base64 : ∀ c ∈ a, IsBase64Char c)
    (base64' : ∀ c ∈ b, IsBase64Char c) : a.map standIn = b.map standIn ↔ LookAlike a b := by
  unfold LookAlike
  induction a generalizing b with
  | nil => cases b <;> simp
  | cons c a ih =>
    cases b with
    | nil => simp
    | cons d b =>
      have rest := ih (fun e listed => base64 e (List.mem_cons_of_mem _ listed))
        fun e listed => base64' e (List.mem_cons_of_mem _ listed)
      rw [List.map_cons, List.map_cons, List.cons.injEq, List.forall₂_cons, rest,
        standIn_eq_iff (base64 c List.mem_cons_self) (base64' d List.mem_cons_self)]

end Characters

namespace UniqueId

variable (uid : UniqueId)

theorem isBase64Char {c : Char} (listed : c ∈ uid.text.toList) : IsBase64Char c := by
  obtain ⟨bytes, same⟩ := uid.base64
  rw [same, Base64.encode, List.mem_append] at listed
  rcases listed with digit | padding
  · obtain ⟨value, -, rfl⟩ := List.mem_map.mp digit
    exact .inr ⟨value, rfl⟩
  · exact .inl (List.eq_of_mem_replicate padding)

theorem length_mod : uid.text.toList.length % 4 = 0 := by
  obtain ⟨bytes, same⟩ := uid.base64
  rw [same, Base64.encode, List.length_append, List.length_replicate, Base64.unpadded,
    List.length_map, Base64.padding]
  omega

theorem safeName_eq : uid.text.toList.flatMap ChatHistoryService.safeName =
    uid.text.toList.map standIn := by
  rw [← List.flatMap_singleton' (uid.text.toList.map standIn), List.flatMap_map]
  exact List.flatMap_congr fun c listed => (safeName_base64 (uid.isBase64Char listed)).1

theorem toList_safe : (safe uid.text).toList = uid.text.toList.map standIn := by
  rw [safe, String.toList_ofList, safeName_eq]

end UniqueId

theorem append_separator_inj {α : Type*} {sep : α} {a b x y : List α} (last : sep ∉ x)
    (last' : sep ∉ y) (same : a ++ sep :: x = b ++ sep :: y) : a = b ∧ x = y := by
  rcases List.append_eq_append_iff.mp same with ⟨rest, rfl, tail⟩ | ⟨rest, rfl, tail⟩ <;>
    cases rest with
    | nil => simpa [eq_comm] using tail
    | cons c rest =>
      obtain ⟨rfl, rfl⟩ := List.cons.inj tail
      simp at last last'

section Names

variable (s t c d : UniqueId)

theorem safe_eq_iff : safe s.text = safe t.text ↔ LookAlike s.text.toList t.text.toList := by
  rw [← String.toList_inj, s.toList_safe, t.toList_safe,
    map_standIn_eq_iff (fun _ => s.isBase64Char) fun _ => t.isBase64Char]

/-- What `fileNameFor` keeps of an id. -/
def kept (uid : UniqueId) : List Char :=
  (if uid.text.toList.map standIn = [] then "unknown".toList
    else uid.text.toList.map standIn).take 96

theorem fileNameFor_eq_iff : ChatHistoryService.fileNameFor s.text =
    ChatHistoryService.fileNameFor t.text ↔ kept s = kept t := by
  rw [← String.toList_inj]
  simp only [ChatHistoryService.fileNameFor, UniqueId.safeName_eq, String.toList_append,
    String.toList_ofList, List.append_cancel_left_eq, List.append_cancel_right_eq, kept]

/-- A text that is not empty has not the seven characters of "unknown". -/
theorem ne_unknown {text : List Char} (some_there : text ≠ []) (fours : text.length % 4 = 0) :
    "unknown".toList.take 96 ≠ text.take 96 ∧ [] ≠ text.take 96 := by
  have positive := List.length_pos_iff.mpr some_there
  refine ⟨fun same => ?_, fun same => ?_⟩ <;>
    have equal := congrArg List.length same <;>
    simp only [List.length_take, List.length_nil, String.length_toList] at equal
  · rw [show "unknown".length = 7 from rfl] at equal
    omega
  · omega

theorem kept_eq_iff : kept s = kept t ↔
    LookAlike (s.text.toList.take 96) (t.text.toList.take 96) := by
  have chars : ∀ uid : UniqueId, ∀ c ∈ uid.text.toList.take 96, IsBase64Char c :=
    fun uid _ listed => uid.isBase64Char (List.mem_of_mem_take listed)
  rw [← map_standIn_eq_iff (chars s) (chars t), List.map_take, List.map_take]
  have lengths := s.length_mod
  have lengths' := t.length_mod
  rw [← List.length_map standIn] at lengths lengths'
  unfold kept
  generalize s.text.toList.map standIn = a at *
  generalize t.text.toList.map standIn = b at *
  by_cases empty : a = [] <;> by_cases empty' : b = []
  · simp [empty, empty']
  · have apart := ne_unknown empty' lengths'
    rw [if_pos empty, if_neg empty', empty, List.take_nil]
    exact iff_of_false apart.1 apart.2
  · have apart := ne_unknown empty lengths
    rw [if_neg empty, if_pos empty', empty', List.take_nil]
    exact iff_of_false apart.1.symm apart.2.symm
  · simp [empty, empty']

theorem fileName_eq_iff (i j : Int) : fileName s.text i = fileName t.text j ↔
    LookAlike s.text.toList t.text.toList ∧ i = j := by
  rw [← safe_eq_iff]
  constructor
  · intro same
    have joined := congrArg String.toList same
    simp only [fileName, String.toList_append, List.append_assoc] at joined
    obtain ⟨server, icon⟩ := append_separator_inj (not_mem_toString_int i)
      (not_mem_toString_int j) joined
    exact ⟨String.toList_inj.mp server, toString_int_injective icon⟩
  · rintro ⟨same, rfl⟩
    rw [fileName, fileName, same]

theorem avatarName_eq_iff : avatarName s.text c.text = avatarName t.text d.text ↔
    LookAlike (s.text.toList ++ '/' :: c.text.toList) (t.text.toList ++ '/' :: d.text.toList) := by
  have chars : ∀ s c : UniqueId, ∀ e ∈ s.text.toList ++ '/' :: c.text.toList, IsBase64Char e := by
    intro s c e listed
    rcases List.mem_append.mp listed with server | client
    · exact s.isBase64Char server
    · rcases List.mem_cons.mp client with rfl | client
      · exact .inr ⟨63, rfl⟩
      · exact c.isBase64Char client
  rw [← map_standIn_eq_iff (chars s c) (chars t d), ← String.toList_inj]
  simp only [avatarName, String.toList_append, UniqueId.toList_safe, List.map_append, List.map_cons,
    List.append_assoc, List.append_cancel_left_eq]
  rfl

end Names

/-- Files have different names if and only if the texts differ in what the names keep of them. -/
theorem files_named_apart_iff (s t : UniqueId) (i j : Int) (c d : UniqueId) :
    NamedApart s t i j c d ↔ TextsApart s t i j c d := by
  constructor
  · rintro ⟨history, icon, avatar⟩
    refine ⟨fun other alike => history other ?_, fun other alike => icon other ?_,
      fun other alike => avatar other ?_⟩
    · exact (fileNameFor_eq_iff s t).mpr ((kept_eq_iff s t).mpr alike)
    · exact (fileName_eq_iff s t i j).mpr alike
    · exact (avatarName_eq_iff s t c d).mpr alike
  · rintro ⟨history, icon, avatar⟩
    refine ⟨fun other same => history other ?_, fun other same => icon other ?_,
      fun other same => avatar other ?_⟩
    · exact (kept_eq_iff s t).mp ((fileNameFor_eq_iff s t).mp same)
    · exact (fileName_eq_iff s t i j).mp same
    · exact (avatarName_eq_iff s t c d).mp same

/-- Two servers whose ids differ in one character. -/
def plusServer : UniqueId := ⟨"+AAA", [0xf8, 0, 0], by decide +kernel⟩

def slashServer : UniqueId := ⟨"/AAA", [0xfc, 0, 0], by decide +kernel⟩

theorem servers_share_files : plusServer ≠ slashServer ∧
    ChatHistoryService.fileNameFor plusServer.text = "chat__AAA.json" ∧
    ChatHistoryService.fileNameFor slashServer.text = "chat__AAA.json" ∧
    fileName plusServer.text 1 = fileName slashServer.text 1 ∧
    avatarName plusServer.text "BBBB" = avatarName slashServer.text "BBBB" := by
  refine ⟨fun same => absurd (congrArg UniqueId.text same) (by decide), ?_, ?_, ?_, ?_⟩ <;>
    decide +kernel

end Nek0.Guarantees
