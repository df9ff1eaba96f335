import Mathlib.Data.Vector.Basic
import Nek0.Library.Aead
import Nek0.Library.Base64
import Nek0.Source.KotlinText

/-!
# Identity backups

`IdentityBackup.kt`. PBKDF2, AES-GCM and the digits that are not ASCII are parameters. The salt
and the nonce, which the platform draws at random, are arguments of `encrypt`.
-/

namespace Nek0.Source.IdentityBackup

open Nek0.Library Nek0.Source.Utf16 Nek0.Source.KotlinText

def PREFIX : Text := units "nekobackup1".toList

def GCM_IV_BYTES : Nat := 12

def GCM_TAG_BYTES : Nat := 16

def ITERATIONS : Int := 200000

def SALT_BYTES : Nat := 16

def MAX_PASSWORD : Nat := 1024

def separator : UInt16 := 58

inductive BackupFailure where
  | illegalArgument (message : String)
  /-- Not the base64 form of any bytes. -/
  | badBase64
  /-- The tag does not authenticate the ciphertext. -/
  | badTag
  deriving DecidableEq, Repr

/-- The parts of the platform that the code calls. -/
structure Platform (Key : Type) where
  /-- AES-GCM without associated data. -/
  gcm : Aead Key (List UInt8) Unit (List UInt8) (List UInt8)
  /-- PBKDF2 of a password, a salt and a number of iterations. -/
  pbkdf2 : Text → List UInt8 → Nat → Key
  /-- The decimal value of a unit outside ASCII, for `Character.digit`. -/
  digit : UInt16 → Option (Fin 10)
  /-- What malformed UTF-8 is decoded to. -/
  replaced : List UInt8 → String

abbrev Sealed (Key : Type) := Sealing Key (List UInt8) Unit (List UInt8)

/-- What a blob says. -/
structure Envelope where
  iterations : Int
  salt : List UInt8
  payload : List UInt8
  deriving DecidableEq, Repr

/-- A call of `encrypt`, with what the platform draws for it. -/
structure Call where
  plaintext : String
  password : Text
  salt : Vector UInt8 SALT_BYTES
  nonce : Vector UInt8 GCM_IV_BYTES
  deriving DecidableEq, Repr

namespace Platform

variable {Key : Type} (platform : Platform Key)

def digitOf (unit : UInt16) : Option (Fin 10) :=
  if unit < 128 then
    if 48 ≤ unit ∧ unit ≤ 57 then some (Fin.ofNat 10 (unit.toNat - 48)) else none
  else platform.digit unit

/-- The digits that follow the sign, at most a limit. -/
def magnitude (limit : Nat) (text : Text) : Option Nat :=
  match text.mapM platform.digitOf with
  | none => none
  | some digits =>
    let value := digits.foldl (fun value digit => value * 10 + digit.val) 0
    if digits ≠ [] ∧ value ≤ limit then some value else none

/-- An `Int` of 32 bits. -/
def toIntOrNull : Text → Option Int
  | [] => none
  | unit :: rest =>
    if unit = 45 then (platform.magnitude (2 ^ 31) rest).map fun n => -(n : Int)
    else if unit = 43 then (platform.magnitude (2 ^ 31 - 1) rest).map fun n => (n : Int)
    else (platform.magnitude (2 ^ 31 - 1) (unit :: rest)).map fun n => (n : Int)

/-- A key specification needs a salt and an iteration. -/
def deriveKey (password : Text) (salt : List UInt8) (iterations : Int) : Except BackupFailure Key :=
  if salt = [] then .error (.illegalArgument "the salt parameter must not be empty")
  else if iterations ≤ 0 then .error (.illegalArgument "invalid iterationCount value")
  else .ok (platform.pbkdf2 password salt iterations.toNat)

/-- What the call seals, and the blob that it returns. -/
def encrypt (call : Call) : Except BackupFailure (Sealed Key × Text) :=
  if isBlank call.password then .error (.illegalArgument "Password must not be empty")
  else if MAX_PASSWORD < call.password.length then
    .error (.illegalArgument "Password is too long")
  else do
    let key ← platform.deriveKey call.password call.salt.toList ITERATIONS
    let sealing : Sealed Key := ⟨key, call.nonce.toList, (), toByteArray call.plaintext⟩
    let payload := call.nonce.toList ++ platform.gcm.ciphertext sealing
    return (sealing, [separator].intercalate [PREFIX, units (toString ITERATIONS).toList,
      units (Base64.encode call.salt.toList), units (Base64.encode payload)])

/-- The part of `decrypt` that reads the blob. -/
def parse (blob : Text) : Except BackupFailure Envelope :=
  match blob.splitOn separator with
  | [head, iterations, salt, payload] =>
    if head ≠ PREFIX then .error (.illegalArgument "Unrecognized backup format")
    else
      match platform.toIntOrNull iterations with
      | none => .error (.illegalArgument "Invalid backup iterations")
      | some iterations =>
        match Base64.decode (chars salt), Base64.decode (chars payload) with
        | some salt, some payload => .ok ⟨iterations, salt, payload⟩
        | _, _ => .error .badBase64
  | _ => .error (.illegalArgument "Unrecognized backup format")

/-- `decrypt`, where `log` holds what has been sealed so far. -/
def decrypt [DecidableEq Key] (log : List (Sealed Key)) (blob password : Text) :
    Except BackupFailure String :=
  if isBlank password then .error (.illegalArgument "Password must not be empty")
  else do
    let ⟨iterations, salt, payload⟩ ← platform.parse blob
    if payload.length ≤ GCM_IV_BYTES then
      throw (.illegalArgument "Backup payload is too short")
    let key ← platform.deriveKey password salt iterations
    match platform.gcm.decrypt log key (payload.take GCM_IV_BYTES) ()
        (payload.drop GCM_IV_BYTES) with
    | none => throw .badTag
    | some plaintext => return decodeUtf8 platform.replaced plaintext

/-- The log after a call. A call that fails seals nothing. -/
def step (log : List (Sealed Key)) (call : Call) : Option (List (Sealed Key)) :=
  match platform.encrypt call with
  | .error _ => some log
  | .ok (sealing, _) => some (sealing :: log)

end Platform

end Nek0.Source.IdentityBackup
