import Nek0.Library.Regex
import Nek0.Source.Utf16

/-!
# The app log

`AppLog.redact` of `app_log.dart` with its three regular expressions, over UTF-16 units as Dart
matches them. Ignoring case pairs the letters of ASCII only, as no other unit is equal to one of
them.
-/

namespace Nek0.Source.AppLog

open Nek0.Library Nek0.Source.Utf16
open Nek0.Library.Regex

def placeholder : Text := units "<redacted>".toList

def isDigit (unit : UInt16) : Bool := 48 ≤ unit.toNat && unit.toNat ≤ 57

/-- `[a-zA-Z]` -/
def isLetter (unit : UInt16) : Bool :=
  65 ≤ unit.toNat && unit.toNat ≤ 90 || 97 ≤ unit.toNat && unit.toNat ≤ 122

/-- `[a-zA-Z0-9]` -/
def isAlphanumeric (unit : UInt16) : Bool := isLetter unit || isDigit unit

/-- `\w` -/
def isWord (unit : UInt16) : Bool := isAlphanumeric unit || unit == 95

/-- `\s` -/
def isSpace (unit : UInt16) : Bool :=
  let n := unit.toNat
  9 ≤ n && n ≤ 13 || n == 32 || n == 160 || n == 5760 || 8192 ≤ n && n ≤ 8202 || n == 8232 ||
    n == 8233 || n == 8239 || n == 8287 || n == 12288 || n == 65279

/-- What the unit is compared by where case is ignored. -/
def lower (unit : UInt16) : UInt16 :=
  if 65 ≤ unit.toNat && unit.toNat ≤ 90 then unit + 32 else unit

def unit (c : Char) : Regex UInt16 := .one (· == .ofNat c.toNat)

/-- A word in any letter case. -/
def word (text : Text) : Regex UInt16 := sequence (text.map fun unit => .one (lower · == unit))

/-- The sensitive keys, in the order of the expression. -/
def keys : List Text :=
  ["password", "passwd", "pwd", "token", "secret", "identity", "client_identity", "uid",
    "nickname", "nick"].map fun key => units key.toList

/-- `(?<key>password|passwd|...)` -/
def key : Regex UInt16 := choice (keys.map word)

/-- `[:=]` -/
def isSign (unit : UInt16) : Bool := unit == 58 || unit == 61

/-- `(?<sep>"?\s*[:=]\s*"?)` -/
def sep : Regex UInt16 :=
  sequence [opt (unit '"'), .star (.one isSpace), .one isSign, .star (.one isSpace), opt (unit '"')]

/-- What ends a value: `[\s,;}"]` -/
def endsValue (unit : UInt16) : Bool :=
  isSpace unit || unit == 44 || unit == 59 || unit == 125 || unit == 34

/-- `(?<value>[^\s,;}"]+)` -/
def value : Regex UInt16 := plus (.one (!endsValue ·))

/-- `_keyed`, with what `redact` puts in the place of a match. -/
def keyed (previous : Option UInt16) (message : Text) : Option (Text × Nat) :=
  ((Regex.seq key sep).ends previous message).findSome? fun n =>
    (value.ends (before previous message n) (message.drop n)).head?.map fun taken =>
      (message.take n ++ placeholder, n + taken)

/-- `_blob`: `\b[A-Za-z0-9+/]{24,}={0,2}\b` -/
def blob : Regex UInt16 :=
  sequence [.boundary isWord, atLeast 24 (.one fun c => isAlphanumeric c || c == 43 || c == 47),
    between 0 2 (unit '='), .boundary isWord]

/-- `(?::\d{1,5})?` -/
def port : Regex UInt16 := opt (.seq (unit ':') (between 1 5 (.one isDigit)))

/-- `[a-zA-Z0-9](?:[a-zA-Z0-9-]*[a-zA-Z0-9])?\.` -/
def label : Regex UInt16 :=
  sequence [.one isAlphanumeric,
    opt (.seq (.star (.one fun c => isAlphanumeric c || c == 45)) (.one isAlphanumeric)), unit '.']

def hostName : Regex UInt16 :=
  sequence [.boundary isWord, plus label, atLeast 2 (.one isLetter), port, .boundary isWord]

def ipv4 : Regex UInt16 :=
  sequence [.boundary isWord, between 1 3 (.one isDigit),
    times 3 (.seq (unit '.') (between 1 3 (.one isDigit))), port, .boundary isWord]

/-- `_address` -/
def address : Regex UInt16 := .alt hostName ipv4

/-- The first pass. -/
def hideKeyed (message : Text) : Text := replaceAll keyed message

def redact (message : Text) : Text :=
  replaceAll (address.replacedBy placeholder)
    (replaceAll (blob.replacedBy placeholder) (hideKeyed message))

end Nek0.Source.AppLog
