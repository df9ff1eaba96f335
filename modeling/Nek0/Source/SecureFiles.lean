import Mathlib.Data.List.Infix
import Mathlib.Logic.Function.Basic
import Nek0.Library.Aead
import Nek0.Source.KotlinText

/-!
# Secure files

`writeFile`, `readFile`, `deleteFile` and `deleteAllFiles` of `SecureStorage.kt`. Every call says
where it fails or is cut off. The file system, AES-GCM and the letters that are not ASCII are those
of the platform; a rename is atomic, and the Keystore never draws an IV twice. Names and values
come over the method channel, which carries UTF-8. What the deletions report is left out.
-/

namespace Nek0.Source.SecureFiles

open Nek0.Library Nek0.Source.KotlinText

def GCM_IV_BYTES : Nat := 12

def GCM_TAG_BYTES : Nat := 16

abbrev Sealed (Key : Type) := Sealing Key (List UInt8) String (List UInt8)

/-- The parts of the platform that the code calls. -/
structure Platform (Key : Type) where
  /-- AES-GCM, with the file name as associated data. -/
  gcm : Aead Key (List UInt8) String (List UInt8) (List UInt8)
  /-- `Char.isLetterOrDigit` outside ASCII. -/
  isLetterOrDigit : Char → Bool
  /-- What malformed UTF-8 is decoded to. -/
  replaced : List UInt8 → String

/-- The directory of secure files, the Keystore, and what has been sealed with its key. -/
structure SecureStorage (Key : Type) where
  files : String → Option (List UInt8)
  key : Option Key
  log : List (Sealed Key)
  /-- The value of the last write of the name whose rename has completed, since the name was last
  deleted. -/
  stored : String → Option String

/-- How far a write comes. -/
inductive WriteEnd where
  /-- There is no key. -/
  | noKey
  /-- The cipher fails. -/
  | noCipher
  /-- The temporary file is not opened. -/
  | notOpened
  /-- The temporary file holds so many bytes, perhaps all, and is not renamed. -/
  | cut (written : Nat)
  /-- The file is renamed, and the call returns or not. -/
  | renamed (returned : Bool)
  deriving DecidableEq, Repr

inductive Call (Key : Type) where
  /-- `put` and `get`, which touch nothing here but the key. -/
  | getOrCreateSecretKey (generated : Key)
  | writeFile (name value : String) (generated : Key) (iv : Vector UInt8 GCM_IV_BYTES)
      (ending : WriteEnd)
  /-- A step inside of the `try` fails, the file can be deleted, and the process dies or a step
  outside of the `try` fails. -/
  | readFile (name : String) (generated : Key) (fails deletes died : Bool)
  | deleteFile (name : String) (deletes : Bool)
  /-- The files of some names are not deleted. -/
  | deleteAllFiles (kept : List String)
  deriving DecidableEq, Repr

/-- A step of the call fails, or the process dies in it. -/
def Call.disturbed {Key : Type} : Call Key → Bool
  | .getOrCreateSecretKey _ => false
  | .writeFile _ _ _ _ ending => ending ≠ .renamed true
  | .readFile _ _ fails _ died => fails || died
  | .deleteFile _ deletes => !deletes
  | .deleteAllFiles kept => kept ≠ []

namespace SecureStorage

variable {Key : Type} (platform : Platform Key) (s : SecureStorage Key)

def start : SecureStorage Key where
  files := fun _ => none
  key := none
  log := []
  stored := fun _ => none

/-- The characters are units of their own, as a surrogate is no letter. -/
def isSafeName (name : String) : Bool :=
  !name.toList.all (fun c => isWhitespace c.toNat) && name.length ≤ 128 &&
    name.toList.all (fun c => (if c.toNat < 128 then c.isAlphanum
      else c.toNat < 65536 && platform.isLetterOrDigit c) || c == '_' || c == '-' || c == '.') &&
      !decide (['.', '.'] <:+: name.toList)

/-- The key of the alias, which is generated where there is none. -/
def getOrCreateSecretKey (generated : Key) : SecureStorage Key :=
  { s with key := some (s.key.getD generated) }

def temporary (name : String) : String := name ++ ".tmp"

/-- The IV and the ciphertext. -/
def record (sealing : Sealed Key) : List UInt8 :=
  sealing.nonce ++ platform.gcm.ciphertext sealing

def writeBytes (name : String) (bytes : List UInt8) : SecureStorage Key :=
  { s with files := Function.update s.files name (some bytes) }

def delete (name : String) : SecureStorage Key :=
  { s with files := Function.update s.files name none }

def renameTo (source target : String) : SecureStorage Key :=
  { s with
    files := Function.update (Function.update s.files target (s.files source)) source none }

def encrypted (sealing : Sealed Key) : SecureStorage Key := { s with log := sealing :: s.log }

def writeFile (name value : String) (generated : Key) (iv : Vector UInt8 GCM_IV_BYTES)
    (ending : WriteEnd) : SecureStorage Key :=
  if !isSafeName platform name || ending = .noKey then s
  else
    let sealing : Sealed Key := ⟨s.key.getD generated, iv.toList, name, toByteArray value⟩
    let s := s.getOrCreateSecretKey generated
    if ending = .noCipher then s
    else
      let s := s.encrypted sealing
      let bytes := record platform sealing
      match ending with
      | .noKey | .noCipher | .notOpened => s
      | .cut written => s.writeBytes (temporary name) (bytes.take written)
      | .renamed _ =>
        let s := (s.writeBytes (temporary name) bytes).renameTo (temporary name) name
        { s with stored := Function.update s.stored name (some value) }

/-- The bytes under a name, opened with a key. -/
def decrypted [DecidableEq Key] (key : Key) (name : String) (raw : List UInt8) : Option String :=
  (platform.gcm.decrypt s.log key (raw.take GCM_IV_BYTES) name (raw.drop GCM_IV_BYTES)).map
    (decodeUtf8 platform.replaced)

def deleteIf (deletes : Bool) (name : String) : SecureStorage Key :=
  if deletes then s.delete name else s

/-- The state after the call, and what it returns. -/
def readFile [DecidableEq Key] (name : String) (generated : Key) (fails deletes died : Bool) :
    SecureStorage Key × Option String :=
  if !isSafeName platform name then (s, none)
  else
    match s.files name with
    | none => (s, none)
    | some raw =>
      if fails then (s.deleteIf deletes name, none)
      else if raw.length ≤ GCM_IV_BYTES then (s, none)
      else
        let key := s.key.getD generated
        let s := s.getOrCreateSecretKey generated
        match s.decrypted platform key name raw with
        | none => (s.deleteIf deletes name, none)
        | some value => (s, if died then none else some value)

def deleteFile (name : String) (deletes : Bool) : SecureStorage Key :=
  if isSafeName platform name && deletes then
    { s.delete name with stored := Function.update s.stored name none }
  else s

def deleteAllFiles (kept : List String) : SecureStorage Key :=
  { s with
    files := fun name => if name ∈ kept then s.files name else none
    stored := fun name => if name ∈ kept then s.stored name else none }

/-- The IV of the call has not been drawn before. -/
def fresh : Call Key → Bool
  | .writeFile _ _ _ iv _ => s.log.all fun sealing => sealing.nonce ≠ iv.toList
  | _ => true

def after [DecidableEq Key] : Call Key → SecureStorage Key
  | .getOrCreateSecretKey generated => s.getOrCreateSecretKey generated
  | .writeFile name value generated iv ending =>
    s.writeFile platform name value generated iv ending
  | .readFile name generated fails deletes died =>
    (s.readFile platform name generated fails deletes died).1
  | .deleteFile name deletes => s.deleteFile platform name deletes
  | .deleteAllFiles kept => s.deleteAllFiles kept

def step [DecidableEq Key] (s : SecureStorage Key) (call : Call Key) :
    Option (SecureStorage Key) :=
  if s.fresh call then some (s.after platform call) else none

end SecureStorage

end Nek0.Source.SecureFiles
