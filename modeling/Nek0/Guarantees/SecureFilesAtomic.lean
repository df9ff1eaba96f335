import Nek0.Library.Run
import Nek0.Source.SecureFiles

/-!
# Secure files

What `readFile` returns was the last value written under the name. A call that fails or is cut off
is to leave every value that could be read before; the read that deletes what it cannot open and
the temporary name that is itself a name break this.
-/

namespace Nek0.Guarantees

open Nek0.Library Nek0.Source.KotlinText Nek0.Source.SecureFiles
open Nek0.Source.SecureFiles.SecureStorage

section Contents

variable {Key : Type} (platform : Platform Key) (s : SecureStorage Key)

/-- A ciphertext has a tag behind the text. -/
def Tagged : Prop :=
  ∀ sealing, (platform.gcm.ciphertext sealing).length = sealing.text.length + GCM_TAG_BYTES

/-- The value that the file of a name holds, if it is whole and can be opened. -/
def legible [DecidableEq Key] (name : String) : Option String :=
  match s.key, s.files name with
  | some key, some raw =>
    if raw.length ≤ GCM_IV_BYTES then none else s.decrypted platform key name raw
  | _, _ => none

/-- The value that was sealed. -/
def valueOf (sealing : Sealed Key) : String := decodeUtf8 platform.replaced sealing.text

/-- All is sealed with the key and an IV of its own, every file begins as something that was
sealed, and where it is all of what was sealed for its name, that is the stored value. -/
structure SealedFiles : Prop where
  keyed : ∀ sealing ∈ s.log, s.key = some sealing.key
  drawn : ∀ sealing ∈ s.log, sealing.nonce.length = GCM_IV_BYTES
  distinct : ∀ sealing ∈ s.log, ∀ other ∈ s.log, sealing.nonce = other.nonce → sealing = other
  pieces : ∀ name raw, s.files name = some raw →
    ∃ sealing ∈ s.log, raw <+: record platform sealing
  named : ∀ sealing ∈ s.log, s.files sealing.data = some (record platform sealing) →
    s.stored sealing.data = some (valueOf platform sealing)

/-- What becomes of the file of a name. -/
inductive Fate (t : SecureStorage Key) (name : String) : Prop where
  | untouched (files : t.files name = s.files name) (stored : t.stored name = s.stored name)
  | gone (files : t.files name = none)
  /-- It holds the beginning of something that was sealed for another name. -/
  | foreign (sealing : Sealed Key) (logged : sealing ∈ s.log) (other : sealing.data ≠ name)
      (raw : List UInt8) (piece : raw <+: record platform sealing)
      (files : t.files name = some raw)
  | written (sealing : Sealed Key) (logged : sealing ∈ s.log) (own : sealing.data = name)
      (files : t.files name = some (record platform sealing))
      (stored : t.stored name = some (valueOf platform sealing))

end Contents

section Properties

variable {Key : Type} [DecidableEq Key] (platform : Platform Key) (s : SecureStorage Key)

/-- What a read returns is the stored value. -/
def AnswersStored : Call Key → Prop
  | .readFile name generated fails deletes died => ∀ value,
    (s.readFile platform name generated fails deletes died).2 = some value →
      s.stored name = some value
  | _ => True

/-- A call that fails or is cut off leaves every value that could be read, unless it has deleted
the name or written it to the end. -/
def KeepsValid (call : Call Key) : Prop :=
  call.disturbed = true → ∀ name value, legible platform s name = some value →
    (s.after platform call).stored name = some value →
      legible platform (s.after platform call) name = some value

/-- What keeps the values: no failing read deletes one, and where a write fails or is cut off after
it has opened its temporary file, that name holds none. -/
def keepsFiles : Call Key → Bool
  | .writeFile name _ _ _ (.cut _) | .writeFile name _ _ _ (.renamed false) =>
    !isSafeName platform name || (legible platform s (temporary name)).isNone
  | .readFile name _ fails deletes _ =>
    !isSafeName platform name || !fails || !deletes || (legible platform s name).isNone
  | _ => true

end Properties

section Invariant

variable {Key : Type} {platform : Platform Key} {s t : SecureStorage Key}

theorem nonce_eq_of_piece {sealing other : Sealed Key} (drawn : sealing.nonce.length = GCM_IV_BYTES)
    (drawn' : other.nonce.length = GCM_IV_BYTES)
    (piece : record platform sealing <+: record platform other) :
    sealing.nonce = other.nonce := by
  have first : sealing.nonce <+: record platform other :=
    (List.prefix_append _ _).trans piece
  have second : other.nonce <+: record platform other := List.prefix_append _ _
  apply (List.prefix_of_prefix_length_le first second (by omega)).eq_of_length
  omega

/-- A file that holds all of what was sealed once holds nothing else. -/
theorem SealedFiles.eq_of_piece (files : SealedFiles platform s) {sealing other : Sealed Key}
    (logged : sealing ∈ s.log) (logged' : other ∈ s.log)
    (piece : record platform sealing <+: record platform other) : sealing = other := by
  apply files.distinct sealing logged other logged'
  exact nonce_eq_of_piece (files.drawn sealing logged) (files.drawn other logged') piece

theorem sealedFiles_start (platform : Platform Key) : SealedFiles platform start where
  keyed := fun _ listed => nomatch listed
  drawn := fun _ listed => nomatch listed
  distinct := fun _ listed => nomatch listed
  pieces := fun _ _ found => nomatch found
  named := fun _ listed => nomatch listed

theorem sealedFiles_getOrCreateSecretKey (files : SealedFiles platform s) (generated : Key) :
    SealedFiles platform (s.getOrCreateSecretKey generated) := by
  refine ⟨fun sealing logged => ?_, files.drawn, files.distinct, files.pieces, files.named⟩
  have same := files.keyed sealing logged
  rw [getOrCreateSecretKey, same]
  rfl

/-- Nothing on the disk begins with an IV that has just been drawn. -/
theorem SealedFiles.absent (files : SealedFiles platform s) {sealing : Sealed Key}
    (drawn : sealing.nonce.length = GCM_IV_BYTES)
    (fresh : ∀ other ∈ s.log, other.nonce ≠ sealing.nonce) (name : String) :
    s.files name ≠ some (record platform sealing) := by
  intro found
  obtain ⟨other, logged, piece⟩ := files.pieces name _ found
  exact fresh other logged (nonce_eq_of_piece drawn (files.drawn other logged) piece).symm

theorem sealedFiles_encrypted (files : SealedFiles platform s) {sealing : Sealed Key}
    (keyed : s.key = some sealing.key) (drawn : sealing.nonce.length = GCM_IV_BYTES)
    (fresh : ∀ other ∈ s.log, other.nonce ≠ sealing.nonce) :
    SealedFiles platform (s.encrypted sealing) where
  keyed := List.forall_mem_cons.mpr ⟨keyed, files.keyed⟩
  drawn := List.forall_mem_cons.mpr ⟨drawn, files.drawn⟩
  distinct := by
    intro first logged second logged' same
    rcases List.mem_cons.mp logged with rfl | before <;>
      rcases List.mem_cons.mp logged' with rfl | before'
    · rfl
    · exact absurd same.symm (fresh second before')
    · exact absurd same (fresh first before)
    · exact files.distinct first before second before' same
  pieces := by
    intro name raw found
    obtain ⟨other, logged, piece⟩ := files.pieces name raw found
    exact ⟨other, List.mem_cons_of_mem _ logged, piece⟩
  named := by
    intro own logged found
    rcases List.mem_cons.mp logged with rfl | before
    · exact absurd found (files.absent drawn fresh _)
    · exact files.named own before found

/-- Files change in four ways, and each leaves the invariant. -/
theorem SealedFiles.touch (files : SealedFiles platform s) (key : t.key = s.key)
    (log : t.log = s.log) (fates : ∀ name, Fate platform s t name) : SealedFiles platform t := by
  refine ⟨?_, ?_, ?_, fun name raw found => ?_, fun sealing logged found => ?_⟩
  · rw [key, log]
    exact files.keyed
  · rw [log]
    exact files.drawn
  · rw [log]
    exact files.distinct
  · rw [log]
    cases fates name with
    | untouched same _ =>
      rw [same] at found
      exact files.pieces name raw found
    | gone none =>
      rw [none] at found
      cases found
    | foreign sealing logged _ other piece same =>
      obtain rfl := Option.some.inj (same.symm.trans found)
      exact ⟨sealing, logged, piece⟩
    | written sealing logged _ same _ =>
      obtain rfl := Option.some.inj (same.symm.trans found)
      exact ⟨sealing, logged, List.prefix_rfl⟩
  · rw [log] at logged
    cases fates sealing.data with
    | untouched same stored =>
      rw [same] at found
      rw [stored]
      exact files.named sealing logged found
    | gone none =>
      rw [none] at found
      cases found
    | foreign other logged' different raw piece same =>
      obtain rfl := Option.some.inj (same.symm.trans found)
      obtain rfl := files.eq_of_piece logged logged' piece
      exact absurd rfl different
    | written other logged' own same stored =>
      have whole := Option.some.inj (found.symm.trans same)
      obtain rfl := files.eq_of_piece logged logged' (whole ▸ List.prefix_rfl)
      exact stored

variable [DecidableEq Key] {name value : String}

/-- A name can be read exactly if its file is all of what was sealed for it. -/
theorem legible_eq_some_iff (tagged : Tagged platform) (files : SealedFiles platform s) :
    legible platform s name = some value ↔ ∃ sealing ∈ s.log, sealing.data = name ∧
      s.files name = some (record platform sealing) ∧ valueOf platform sealing = value := by
  constructor
  · intro found
    unfold legible at found
    split at found
    next key raw keyed file =>
      split at found
      · cases found
      · obtain ⟨text, opened, same⟩ := Option.map_eq_some_iff.mp found
        obtain ⟨logged, cipher⟩ := Aead.decrypt_eq_some_iff.mp opened
        have whole : record platform ⟨key, raw.take GCM_IV_BYTES, name, text⟩ = raw := by
          rw [record, Aead.ciphertext, cipher, List.take_append_drop]
        exact ⟨_, logged, rfl, by rw [whole, file], same⟩
    · cases found
  · rintro ⟨sealing, logged, rfl, file, rfl⟩
    have nonce := files.drawn sealing logged
    have tag := tagged sealing
    have taken : (record platform sealing).take GCM_IV_BYTES = sealing.nonce :=
      List.take_left' nonce
    have rest : (record platform sealing).drop GCM_IV_BYTES =
        platform.gcm.ciphertext sealing := List.drop_left' nonce
    have long : ¬(record platform sealing).length ≤ GCM_IV_BYTES := by
      rw [record, List.length_append, nonce, tag, GCM_TAG_BYTES]
      omega
    simp only [legible, files.keyed sealing logged, file, if_neg long]
    rw [decrypted, taken, rest, Aead.decrypt_ciphertext logged]
    rfl

/-- What can be read is the stored value. -/
theorem stored_of_legible (tagged : Tagged platform) (files : SealedFiles platform s)
    (found : legible platform s name = some value) : s.stored name = some value := by
  obtain ⟨sealing, logged, rfl, file, rfl⟩ := (legible_eq_some_iff tagged files).mp found
  exact files.named sealing logged file

theorem legible_congr (tagged : Tagged platform) (files : SealedFiles platform s)
    (files' : SealedFiles platform t) (log : t.log = s.log)
    (same : t.files name = s.files name) : legible platform t name = legible platform s name := by
  apply Option.ext
  intro value
  rw [legible_eq_some_iff tagged files, legible_eq_some_iff tagged files', log, same]

theorem legible_gone (gone : s.files name = none) : legible platform s name = none := by
  rw [legible, gone]
  cases s.key <;> rfl

/-- The beginning of what was sealed for another name cannot be read. -/
theorem legible_foreign (tagged : Tagged platform) (files : SealedFiles platform s)
    {sealing : Sealed Key} (logged : sealing ∈ s.log) (other : sealing.data ≠ name)
    {raw : List UInt8} (piece : raw <+: record platform sealing)
    (file : s.files name = some raw) : legible platform s name = none := by
  apply Option.eq_none_iff_forall_not_mem.mpr
  intro value found
  obtain ⟨own, logged', rfl, whole, -⟩ := (legible_eq_some_iff tagged files).mp found
  obtain rfl := Option.some.inj (whole.symm.trans file)
  obtain rfl := files.eq_of_piece logged' logged piece
  exact other rfl

theorem legible_getOrCreateSecretKey (tagged : Tagged platform) (files : SealedFiles platform s)
    (generated : Key) :
    legible platform (s.getOrCreateSecretKey generated) name = legible platform s name := by
  apply legible_congr tagged files (sealedFiles_getOrCreateSecretKey files generated) <;> rfl

/-- A text that has just been sealed is in no file. -/
theorem legible_encrypted (tagged : Tagged platform) (files : SealedFiles platform s)
    {sealing : Sealed Key} (keyed : s.key = some sealing.key)
    (drawn : sealing.nonce.length = GCM_IV_BYTES)
    (fresh : ∀ other ∈ s.log, other.nonce ≠ sealing.nonce) :
    legible platform (s.encrypted sealing) name = legible platform s name := by
  apply Option.ext
  intro value
  rw [legible_eq_some_iff tagged files,
    legible_eq_some_iff tagged (sealedFiles_encrypted files keyed drawn fresh)]
  constructor
  · rintro ⟨own, logged, named, file, same⟩
    rcases List.mem_cons.mp logged with rfl | before
    · exact absurd file (files.absent drawn fresh _)
    · exact ⟨own, before, named, file, same⟩
  · rintro ⟨own, logged, named, file, same⟩
    exact ⟨own, List.mem_cons_of_mem _ logged, named, file, same⟩

end Invariant

section Fates

variable {Key : Type} {platform : Platform Key} {s : SecureStorage Key}

theorem temporary_ne (name : String) : temporary name ≠ name := by
  intro same
  have length := congrArg String.length same
  rw [temporary, String.length_append] at length
  have four : ".tmp".length = 4 := rfl
  omega

theorem fate_cut {sealing : Sealed Key} (logged : sealing ∈ s.log) (written : Nat)
    (name : String) :
    Fate platform s (s.writeBytes (temporary sealing.data)
      ((record platform sealing).take written)) name := by
  by_cases own : name = temporary sealing.data
  · subst own
    apply Fate.foreign sealing logged (temporary_ne _).symm _ (List.take_prefix _ _)
    exact Function.update_self ..
  · apply Fate.untouched
    · exact Function.update_of_ne own ..
    · rfl

/-- The state after a completed rename. -/
def renamedFile (platform : Platform Key) (s : SecureStorage Key) (sealing : Sealed Key) :
    SecureStorage Key :=
  { (s.writeBytes (temporary sealing.data) (record platform sealing)).renameTo
      (temporary sealing.data) sealing.data with
    stored := Function.update s.stored sealing.data (some (valueOf platform sealing)) }

theorem renamedFile_temporary (platform : Platform Key) (s : SecureStorage Key)
    (sealing : Sealed Key) :
    (renamedFile platform s sealing).files (temporary sealing.data) = none :=
  Function.update_self ..

theorem renamedFile_own (platform : Platform Key) (s : SecureStorage Key) (sealing : Sealed Key) :
    (renamedFile platform s sealing).files sealing.data = some (record platform sealing) := by
  have other := (temporary_ne sealing.data).symm
  simp only [renamedFile, renameTo, writeBytes]
  rw [Function.update_of_ne other, Function.update_self, Function.update_self]

theorem renamedFile_other (platform : Platform Key) (s : SecureStorage Key)
    (sealing : Sealed Key) {name : String} (temp : name ≠ temporary sealing.data)
    (own : name ≠ sealing.data) :
    (renamedFile platform s sealing).files name = s.files name := by
  simp only [renamedFile, renameTo, writeBytes]
  rw [Function.update_of_ne temp, Function.update_of_ne own, Function.update_of_ne temp]

theorem fate_renamedFile {sealing : Sealed Key} (logged : sealing ∈ s.log) (name : String) :
    Fate platform s (renamedFile platform s sealing) name := by
  by_cases temp : name = temporary sealing.data
  · subst temp
    exact .gone (renamedFile_temporary platform s sealing)
  · by_cases own : name = sealing.data
    · subst own
      apply Fate.written sealing logged rfl (renamedFile_own platform s sealing)
      exact Function.update_self ..
    · apply Fate.untouched
      · exact renamedFile_other platform s sealing temp own
      · exact Function.update_of_ne own ..

theorem sealedFiles_delete (files : SealedFiles platform s) (name : String) :
    SealedFiles platform (s.delete name) := by
  apply SealedFiles.touch files
  · rfl
  · rfl
  · intro other
    by_cases own : other = name
    · subst own
      exact .gone (Function.update_self ..)
    · exact .untouched (Function.update_of_ne own ..) rfl

theorem sealedFiles_deleteIf (files : SealedFiles platform s) (deletes : Bool) (name : String) :
    SealedFiles platform (s.deleteIf deletes name) := by
  cases deletes
  · exact files
  · exact sealedFiles_delete files name

end Fates

section Calls

variable {Key : Type} [DecidableEq Key] {platform : Platform Key} {s t : SecureStorage Key}
  {name value : String} {generated : Key} {iv : Vector UInt8 GCM_IV_BYTES} {ending : WriteEnd}

/-- A write leaves the files alone, or it comes to the temporary file, or to the end. -/
theorem writeFile_cases (tagged : Tagged platform) (files : SealedFiles platform s)
    (fresh : s.fresh (.writeFile name value generated iv ending) = true) :
    ∃ u, SealedFiles platform u ∧ u.files = s.files ∧ u.stored = s.stored ∧
      (∀ other, legible platform u other = legible platform s other) ∧
      (s.writeFile platform name value generated iv ending = u ∧
          (isSafeName platform name = false ∨
            ∀ written returned, ending ≠ .cut written ∧ ending ≠ .renamed returned) ∨
        isSafeName platform name = true ∧ ∃ sealing ∈ u.log, sealing.data = name ∧
          valueOf platform sealing = value ∧
          ((∃ written, ending = .cut written ∧
              s.writeFile platform name value generated iv ending =
                u.writeBytes (temporary name) ((record platform sealing).take written)) ∨
            ∃ returned, ending = .renamed returned ∧
              s.writeFile platform name value generated iv ending =
                renamedFile platform u sealing)) := by
  by_cases early : (!isSafeName platform name || ending = .noKey) = true
  · refine ⟨s, files, rfl, rfl, fun _ => rfl, .inl ⟨if_pos early, ?_⟩⟩
    rcases Bool.or_eq_true_iff.mp early with unsafeName | same
    · exact .inl (Bool.not_eq_true' _ ▸ unsafeName)
    · obtain rfl := of_decide_eq_true same
      exact .inr fun _ _ => ⟨nofun, nofun⟩
  obtain ⟨safe, other⟩ := Bool.or_eq_false_iff.mp (Bool.eq_false_iff.mpr early)
  have opened := sealedFiles_getOrCreateSecretKey files generated
  by_cases failed : ending = .noCipher
  · refine ⟨s.getOrCreateSecretKey generated, opened, rfl, rfl,
      fun _ => legible_getOrCreateSecretKey tagged files generated, .inl ⟨?_, .inr ?_⟩⟩
    · exact (if_neg early).trans (if_pos failed)
    · subst failed
      exact fun _ _ => ⟨nofun, nofun⟩
  let sealing : Sealed Key := ⟨s.key.getD generated, iv.toList, name, toByteArray value⟩
  have drawn : sealing.nonce.length = GCM_IV_BYTES := Vector.length_toList
  have unused : ∀ other ∈ (s.getOrCreateSecretKey generated).log,
      other.nonce ≠ sealing.nonce := by
    intro other logged
    exact of_decide_eq_true (List.all_eq_true.mp fresh other logged)
  refine ⟨(s.getOrCreateSecretKey generated).encrypted sealing,
    sealedFiles_encrypted opened rfl drawn unused, rfl, rfl, fun _ => ?_, ?_⟩
  · rw [legible_encrypted tagged opened rfl drawn unused,
      legible_getOrCreateSecretKey tagged files]
  have logged : sealing ∈ ((s.getOrCreateSecretKey generated).encrypted sealing).log :=
    List.mem_cons_self
  have own : valueOf platform sealing = value := decodeUtf8_toByteArray ..
  cases ending with
  | noKey => exact absurd rfl (of_decide_eq_false other)
  | noCipher => exact absurd rfl failed
  | notOpened => exact .inl ⟨(if_neg early).trans (if_neg failed), .inr fun _ _ => ⟨nofun, nofun⟩⟩
  | cut written =>
    refine .inr ⟨Bool.not_eq_false' _ ▸ safe, sealing, logged, rfl, own, .inl ⟨written, rfl, ?_⟩⟩
    exact (if_neg early).trans (if_neg failed)
  | renamed returned =>
    refine .inr ⟨Bool.not_eq_false' _ ▸ safe, sealing, logged, rfl, own, .inr ⟨returned, rfl, ?_⟩⟩
    rw [renamedFile, own]
    exact (if_neg early).trans (if_neg failed)

theorem legible_deleteIf (tagged : Tagged platform) (files : SealedFiles platform s)
    (deletes : Bool) (name other : String) :
    legible platform (s.deleteIf deletes name) other =
      if deletes = true ∧ other = name then none else legible platform s other := by
  cases deletes with
  | false => exact (if_neg fun both => Bool.false_ne_true both.1).symm
  | true =>
    by_cases own : other = name
    · subst own
      rw [if_pos ⟨rfl, rfl⟩]
      exact legible_gone (Function.update_self ..)
    · rw [if_neg fun both => own both.2]
      apply legible_congr tagged files (sealedFiles_delete files name) rfl
      exact Function.update_of_ne own ..

theorem decrypted_eq_legible (files : SealedFiles platform s) (generated : Key)
    {raw : List UInt8} (file : s.files name = some raw) (long : ¬raw.length ≤ GCM_IV_BYTES) :
    s.decrypted platform (s.key.getD generated) name raw = legible platform s name := by
  cases keyed : s.key with
  | some key => simp only [legible, keyed, file, if_neg long, Option.getD_some]
  | none =>
    have unused : s.log = [] := by
      apply List.eq_nil_iff_forall_not_mem.mpr
      intro sealing logged
      exact nomatch keyed.symm.trans (files.keyed sealing logged)
    simp only [legible, keyed]
    rw [decrypted, unused]
    rfl

/-- A read stops early, fails and deletes, finds nothing that it can open and deletes, or returns
what can be read. -/
theorem readFile_cases (files : SealedFiles platform s) (name : String) (generated : Key)
    (fails deletes died : Bool) :
    let u := s.readFile platform name generated fails deletes died
    (u = (s, none) ∧
        (isSafeName platform name = false ∨ s.files name = none ∨ fails = false)) ∨
      (isSafeName platform name = true ∧ fails = true ∧ u = (s.deleteIf deletes name, none)) ∨
      (fails = false ∧ legible platform s name = none ∧
        u = ((s.getOrCreateSecretKey generated).deleteIf deletes name, none)) ∨
      fails = false ∧ ∃ value, legible platform s name = some value ∧
        u = (s.getOrCreateSecretKey generated, if died then none else some value) := by
  by_cases safe : isSafeName platform name = true
  · cases file : s.files name with
    | none =>
      left
      simp [readFile, safe, file]
    | some raw =>
      cases fails with
      | true =>
        right; left
        simp [readFile, safe, file]
      | false =>
        by_cases short : raw.length ≤ GCM_IV_BYTES
        · left
          simp [readFile, safe, file, short]
        · have opened := decrypted_eq_legible files generated file short
          have same : (s.getOrCreateSecretKey generated).decrypted platform
              (s.key.getD generated) name raw = legible platform s name := opened
          right; right
          cases found : legible platform s name with
          | none =>
            left
            simp [readFile, safe, file, short, same, found]
          | some value =>
            right
            simp [readFile, safe, file, short, same, found]
  · left
    simp [readFile, safe]

/-- A read deletes a value only if a step fails. -/
theorem readFile_spec (tagged : Tagged platform) (files : SealedFiles platform s)
    (name : String) (generated : Key) (fails deletes died : Bool) :
    let u := s.readFile platform name generated fails deletes died
    SealedFiles platform u.1 ∧ u.1.stored = s.stored ∧
      ∀ other, legible platform u.1 other =
        if isSafeName platform name = true ∧ fails = true ∧ deletes = true ∧ other = name then none
        else legible platform s other := by
  have opened := sealedFiles_getOrCreateSecretKey files generated
  obtain ⟨same, early⟩ | ⟨safe, rfl, same⟩ | ⟨rfl, nothing, same⟩ | ⟨rfl, value, found, same⟩ :=
    readFile_cases files name generated fails deletes died <;> rw [same]
  · refine ⟨files, rfl, fun other => ?_⟩
    split
    next deleted =>
      obtain ⟨safe, rfl, -, rfl⟩ := deleted
      obtain unsafeName | gone | sound := early
      · exact absurd (safe.symm.trans unsafeName) (by decide)
      · exact legible_gone gone
      · cases sound
    next => rfl
  · refine ⟨sealedFiles_deleteIf files deletes name, ?_, fun other => ?_⟩
    · cases deletes <;> rfl
    · rw [legible_deleteIf tagged files]
      simp only [safe, true_and]
  · refine ⟨sealedFiles_deleteIf opened deletes name, ?_, fun other => ?_⟩
    · cases deletes <;> rfl
    · rw [legible_deleteIf tagged opened, legible_getOrCreateSecretKey tagged files]
      simp only [Bool.false_eq_true, false_and, and_false, if_false]
      split
      next deleted => rw [deleted.2, nothing]
      next => rfl
  · refine ⟨opened, rfl, fun other => ?_⟩
    rw [legible_getOrCreateSecretKey tagged files,
      if_neg fun both => Bool.false_ne_true both.2.1]

end Calls

section Steps

variable {Key : Type} [DecidableEq Key] {platform : Platform Key} {s t : SecureStorage Key}
  {call : Call Key}

theorem sealedFiles_after (tagged : Tagged platform) (files : SealedFiles platform s)
    (fresh : s.fresh call = true) : SealedFiles platform (s.after platform call) := by
  cases call with
  | getOrCreateSecretKey generated => exact sealedFiles_getOrCreateSecretKey files generated
  | writeFile name value generated iv ending =>
    obtain ⟨u, sound, -, -, -, ⟨same, -⟩ | ⟨-, sealing, logged, rfl, -, last⟩⟩ :=
      writeFile_cases tagged files fresh
    · rw [after, same]
      exact sound
    · obtain ⟨written, -, same⟩ | ⟨returned, -, same⟩ := last
      · rw [after, same]
        apply SealedFiles.touch sound
        · rfl
        · rfl
        · exact fate_cut logged written
      · rw [after, same]
        apply SealedFiles.touch sound
        · rfl
        · rfl
        · exact fate_renamedFile logged
  | readFile name generated fails deletes died =>
    exact (readFile_spec tagged files name generated fails deletes died).1
  | deleteFile name deletes =>
    rw [after, deleteFile]
    split
    · apply SealedFiles.touch files
      · rfl
      · rfl
      · intro other
        by_cases own : other = name
        · subst own
          exact .gone (Function.update_self ..)
        · exact .untouched (Function.update_of_ne own ..) (Function.update_of_ne own ..)
    · exact files
  | deleteAllFiles kept =>
    apply SealedFiles.touch files
    · rfl
    · rfl
    · intro other
      by_cases stays : other ∈ kept
      · exact .untouched (if_pos stays) (if_pos stays)
      · exact .gone (if_neg stays)

theorem legible_cut (tagged : Tagged platform) (files : SealedFiles platform s)
    {sealing : Sealed Key} (logged : sealing ∈ s.log) (written : Nat) (name : String) :
    legible platform (s.writeBytes (temporary sealing.data)
        ((record platform sealing).take written)) name =
      if name = temporary sealing.data then none else legible platform s name := by
  have sound := files.touch (t := s.writeBytes (temporary sealing.data)
    ((record platform sealing).take written)) rfl rfl (fate_cut logged written)
  split
  next own =>
    subst own
    apply legible_foreign tagged sound logged (temporary_ne _).symm (List.take_prefix _ _)
    exact Function.update_self ..
  next other =>
    apply legible_congr tagged files sound rfl
    exact Function.update_of_ne other ..

theorem legible_renamedFile (tagged : Tagged platform) (files : SealedFiles platform s)
    {sealing : Sealed Key} (logged : sealing ∈ s.log) (name : String) :
    legible platform (renamedFile platform s sealing) name =
      if name = temporary sealing.data then none
      else if name = sealing.data then some (valueOf platform sealing)
      else legible platform s name := by
  have sound := files.touch (t := renamedFile platform s sealing) rfl rfl
    (fate_renamedFile logged)
  split
  next temp =>
    subst temp
    exact legible_gone (renamedFile_temporary platform s sealing)
  next different =>
    split
    next own =>
      subst own
      apply (legible_eq_some_iff tagged sound).mpr
      exact ⟨sealing, logged, rfl, renamedFile_own platform s sealing, rfl⟩
    next other =>
      apply legible_congr tagged files sound rfl
      exact renamedFile_other platform s sealing different other

theorem answersStored (tagged : Tagged platform) (files : SealedFiles platform s)
    (call : Call Key) : AnswersStored platform s call := by
  cases call with
  | readFile name generated fails deletes died =>
    intro value returned
    apply stored_of_legible tagged files
    obtain ⟨same, -⟩ | ⟨-, -, same⟩ | ⟨-, -, same⟩ | ⟨-, held, found, same⟩ :=
      readFile_cases files name generated fails deletes died <;> rw [same] at returned
    · cases returned
    · cases returned
    · cases returned
    · cases died with
      | true => cases returned
      | false => exact found.trans returned
  | _ => trivial

/-- A call that fails and takes the file of one name keeps the values exactly if there is none
under this name. -/
theorem keepsValid_lost_iff (tagged : Tagged platform) (files : SealedFiles platform s)
    (disturbed : call.disturbed = true) (lost : String)
    (gone : legible platform (s.after platform call) lost = none)
    (stored : (s.after platform call).stored lost = s.stored lost)
    (others : ∀ name value, name ≠ lost → legible platform s name = some value →
      (s.after platform call).stored name = some value →
        legible platform (s.after platform call) name = some value) :
    KeepsValid platform s call ↔ legible platform s lost = none := by
  constructor
  · intro keeps
    apply Option.eq_none_iff_forall_not_mem.mpr
    intro value found
    have kept := stored.trans (stored_of_legible tagged files found)
    have still := keeps disturbed lost value found kept
    exact nomatch gone.symm.trans still
  · intro none _ name value found kept
    by_cases own : name = lost
    · subst own
      exact nomatch none.symm.trans found
    · exact others name value own found kept

theorem keepsValid_of_same (same : ∀ name, legible platform (s.after platform call) name =
    legible platform s name) : KeepsValid platform s call :=
  fun _ name _ found _ => (same name).trans found

theorem writeFile_keeps_iff (tagged : Tagged platform) (files : SealedFiles platform s)
    {name value : String} {generated : Key} {iv : Vector UInt8 GCM_IV_BYTES} {ending : WriteEnd}
    (fresh : s.fresh (.writeFile name value generated iv ending) = true) :
    KeepsValid platform s (.writeFile name value generated iv ending) ↔
      keepsFiles platform s (.writeFile name value generated iv ending) = true := by
  have sound := sealedFiles_after tagged files fresh
  obtain ⟨u, sealed, -, stored, same, ⟨result, early⟩ | ⟨safe, sealing, logged, rfl, rfl, last⟩⟩ :=
    writeFile_cases tagged files fresh
  · have result : s.after platform (.writeFile name value generated iv ending) = u := result
    apply iff_of_true
    · apply keepsValid_of_same
      rw [result]
      exact same
    · obtain unsafeName | short := early
      · cases ending with
        | cut written => simp [keepsFiles, unsafeName]
        | renamed returned => cases returned <;> simp [keepsFiles, unsafeName]
        | _ => rfl
      · cases ending with
        | cut written => exact absurd rfl (short written true).1
        | renamed returned => exact absurd rfl (short 0 returned).2
        | _ => rfl
  · obtain ⟨written, rfl, result⟩ | ⟨returned, rfl, result⟩ := last
    · have result : s.after platform (.writeFile sealing.data (valueOf platform sealing) generated
          iv (.cut written)) = u.writeBytes (temporary sealing.data)
            ((record platform sealing).take written) := result
      rw [keepsFiles, safe, Bool.not_true, Bool.false_or, Option.isNone_iff_eq_none]
      apply keepsValid_lost_iff tagged files rfl (temporary sealing.data) <;> rw [result]
      · rw [legible_cut tagged sealed logged, if_pos rfl]
      · exact congrFun stored _
      · intro name value other found _
        rw [legible_cut tagged sealed logged, if_neg other, same, found]
    · cases returned with
      | true => exact iff_of_true (fun failed => absurd failed Bool.false_ne_true) rfl
      | false =>
        have result : s.after platform (.writeFile sealing.data (valueOf platform sealing) generated
            iv (.renamed false)) = renamedFile platform u sealing := result
        rw [keepsFiles, safe, Bool.not_true, Bool.false_or, Option.isNone_iff_eq_none]
        apply keepsValid_lost_iff tagged files rfl (temporary sealing.data) <;> rw [result]
        · rw [legible_renamedFile tagged sealed logged, if_pos rfl]
        · exact (Function.update_of_ne (temporary_ne _) ..).trans (congrFun stored _)
        · intro name value other found kept
          rw [legible_renamedFile tagged sealed logged, if_neg other]
          by_cases own : name = sealing.data
          · subst own
            have written : (renamedFile platform u sealing).stored sealing.data =
                some (valueOf platform sealing) := Function.update_self ..
            rw [if_pos rfl, ← written, kept]
          · rw [if_neg own, same, found]

theorem readFile_keeps_iff (tagged : Tagged platform) (files : SealedFiles platform s)
    (name : String) (generated : Key) (fails deletes died : Bool) :
    KeepsValid platform s (.readFile name generated fails deletes died) ↔
      keepsFiles platform s (.readFile name generated fails deletes died) = true := by
  obtain ⟨-, stored, values⟩ := readFile_spec tagged files name generated fails deletes died
  by_cases lost : isSafeName platform name = true ∧ fails = true ∧ deletes = true
  · obtain ⟨safe, rfl, rfl⟩ := lost
    rw [keepsFiles, safe, Bool.not_true, Bool.false_or, Bool.false_or, Bool.false_or,
      Option.isNone_iff_eq_none]
    apply keepsValid_lost_iff tagged files rfl name
    · exact (values name).trans (if_pos ⟨safe, rfl, rfl, rfl⟩)
    · exact congrFun stored name
    · intro other value different found _
      exact ((values other).trans (if_neg fun both => different both.2.2.2)).trans found
  · apply iff_of_true
    · apply keepsValid_of_same
      intro other
      exact (values other).trans (if_neg fun both => lost ⟨both.1, both.2.1, both.2.2.1⟩)
    · by_contra kept
      simp only [keepsFiles, Bool.or_eq_true, Bool.not_eq_true', not_or, Bool.not_eq_false] at kept
      exact lost ⟨kept.1.1.1, kept.1.1.2, kept.1.2⟩

theorem keepsValid_iff (tagged : Tagged platform) (files : SealedFiles platform s)
    (fresh : s.fresh call = true) :
    KeepsValid platform s call ↔ keepsFiles platform s call = true := by
  have sound := sealedFiles_after tagged files fresh
  cases call with
  | getOrCreateSecretKey generated =>
    exact iff_of_true (fun failed => absurd failed Bool.false_ne_true) rfl
  | writeFile name value generated iv ending => exact writeFile_keeps_iff tagged files fresh
  | readFile name generated fails deletes died =>
    exact readFile_keeps_iff tagged files name generated fails deletes died
  | deleteFile name deletes =>
    cases deletes with
    | true => exact iff_of_true (fun failed => absurd failed Bool.false_ne_true) rfl
    | false =>
      refine iff_of_true (keepsValid_of_same fun other => ?_) rfl
      rw [after, deleteFile, Bool.and_false]
      rfl
  | deleteAllFiles kept =>
    refine iff_of_true (fun _ name value found stored => ?_) rfl
    by_cases stays : name ∈ kept
    · exact (legible_congr tagged files sound rfl (if_pos stays)).trans found
    · exact nomatch (if_neg stays).symm.trans stored

end Steps

/-- Every read returns the stored value or nothing, and no call that fails or is cut off destroys a
value exactly if no failing read deletes one and no write is cut off over one. -/
theorem secure_files_iff {Key : Type} [DecidableEq Key] (platform : Platform Key)
    (tagged : Tagged platform) (calls : List (Call Key)) (s : SecureStorage Key)
    (run : Run (step platform) anyStep start calls s) :
    (∀ before t call, before ++ [call] <+: calls → Run (step platform) anyStep start before t →
      AnswersStored platform t call) ∧
    ((∀ before t call, before ++ [call] <+: calls → Run (step platform) anyStep start before t →
        KeepsValid platform t call) ↔
      Run (step platform) (fun t call => keepsFiles platform t call = true) start calls s) := by
  have kept : ∀ t call u, SealedFiles platform t → step platform t call = some u →
      SealedFiles platform u := by
    intro t call u files taken
    simp only [step, Option.ite_none_right_eq_some, Option.some.injEq] at taken
    obtain ⟨fresh, rfl⟩ := taken
    exact sealedFiles_after tagged files fresh
  constructor
  · intro before t call _ reached
    have files := reached.invariant (SealedFiles platform) (sealedFiles_start platform)
      fun t call u files _ taken => kept t call u files taken
    exact answersStored tagged files call
  · apply run.each_iff (SealedFiles platform) (sealedFiles_start platform) kept
    intro t call u files taken
    simp only [step, Option.ite_none_right_eq_some] at taken
    exact keepsValid_iff tagged files taken.1

/-- A tag is sixteen zero bytes. -/
def plainFiles : Nek0.Source.SecureFiles.Platform Nat where
  gcm :=
    { encrypt := fun _ _ _ text => text ++ .replicate GCM_TAG_BYTES 0
      injective := fun _ _ _ _ _ same => List.append_cancel_right same }
  isLetterOrDigit := fun _ => false
  replaced := fun _ => "\uFFFD"

theorem tagged_plainFiles : Tagged plainFiles := by
  intro sealing
  rw [Aead.ciphertext, plainFiles, List.length_append, List.length_replicate]

def writes (name value : String) (iv : UInt8) (ending : WriteEnd) : Call Nat :=
  .writeFile name value 7 (.replicate GCM_IV_BYTES iv) ending

/-- A second write is cut off, and the file is read. -/
def cutWrite : List (Call Nat) :=
  [writes "history" "one" 1 (.renamed true), writes "history" "two" 2 (.cut 20),
    .readFile "history" 7 false true false]

theorem cut_write_keeps : ∃ s, Run (step plainFiles) anyStep start cutWrite s ∧
    legible plainFiles s "history" = some "one" ∧
    ∀ before t call, before ++ [call] <+: cutWrite →
      Run (step plainFiles) anyStep start before t → KeepsValid plainFiles t call := by
  obtain ⟨s, run, found⟩ := reaches_of_guarded (keepsFiles plainFiles) (show
    (exec (guarded (keepsFiles plainFiles) (step plainFiles)) start cutWrite).any (fun s =>
      legible plainFiles s "history" == some "one") = true by decide +kernel)
  have plain : Run (step plainFiles) anyStep start cutWrite s := run.weaken fun _ _ _ => trivial
  have each := (secure_files_iff plainFiles tagged_plainFiles cutWrite s plain).2.mpr run
  exact ⟨s, plain, beq_iff_eq.mp found, each⟩

/-- A call after a completed write takes the value, and nothing has deleted or replaced it. -/
def destroys (name : String) (call : Call Nat) (s : SecureStorage Nat) : Bool :=
  call.disturbed && legible plainFiles s name == some "one" &&
    (s.after plainFiles call).stored name == some "one" &&
      legible plainFiles (s.after plainFiles call) name == none

theorem not_keepsValid_of_destroys {name : String} {call : Call Nat} {s : SecureStorage Nat}
    (lost : destroys name call s = true) : ¬KeepsValid plainFiles s call := by
  simp only [destroys, Bool.and_eq_true, beq_iff_eq] at lost
  obtain ⟨⟨⟨disturbed, found⟩, stored⟩, gone⟩ := lost
  intro keeps
  exact nomatch gone.symm.trans (keeps disturbed name "one" found stored)

/-- A step of a read fails once, and the read deletes the value; and a write that is cut off takes
the value whose name is its temporary name. -/
theorem failed_calls_destroy :
    (∃ s, Run (step plainFiles) anyStep start [writes "history" "one" 1 (.renamed true)] s ∧
      ¬KeepsValid plainFiles s (.readFile "history" 7 true true false)) ∧
    ∃ s, Run (step plainFiles) anyStep start [writes "a.tmp" "one" 1 (.renamed true)] s ∧
      ¬KeepsValid plainFiles s (writes "a" "two" 2 (.cut 0)) := by
  constructor
  · obtain ⟨s, run, lost⟩ := reaches_of_exec anyStep (fun _ _ _ => trivial) (show
      (exec (step plainFiles) start [writes "history" "one" 1 (.renamed true)]).any
        (destroys "history" (.readFile "history" 7 true true false)) = true by decide +kernel)
    exact ⟨s, run, not_keepsValid_of_destroys lost⟩
  · obtain ⟨s, run, lost⟩ := reaches_of_exec anyStep (fun _ _ _ => trivial) (show
      (exec (step plainFiles) start [writes "a.tmp" "one" 1 (.renamed true)]).any
        (destroys "a.tmp" (writes "a" "two" 2 (.cut 0))) = true by decide +kernel)
    exact ⟨s, run, not_keepsValid_of_destroys lost⟩

end Nek0.Guarantees
