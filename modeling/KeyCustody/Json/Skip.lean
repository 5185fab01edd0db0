import KeyCustody.Json.Token

/-!
Skipping a value that nobody asked for. Only its syntax is checked: numbers may be of any size,
strings need not be UTF-8 and escapes may be lone surrogates. Open lists and objects are held in a
list, so values may nest without bound.
-/
namespace KeyCustody.Json

inductive SkippedSpelling where
  | plain
  | escape
  | hex (count : Nat) (valid : Bool)

def skipStringFrom : SkippedSpelling → Bytes → Except Fault Bytes
  | _, [] => .error .endInString
  | .plain, octet :: rest =>
    if octet = '"'.toUInt8 then .ok rest
    else if octet = '\\'.toUInt8 then skipStringFrom .escape rest
    else if octet < 0x20 then .error .controlCharacter
    else skipStringFrom .plain rest
  | .escape, octet :: rest =>
    if octet = 'u'.toUInt8 then skipStringFrom (.hex 0 true) rest
    else if (unescaped? octet).isSome then skipStringFrom .plain rest
    else .error .invalidEscape
  | .hex count valid, octet :: rest =>
    let valid := valid && (hexValue? octet).isSome
    if count < 3 then skipStringFrom (.hex (count + 1) valid) rest
    else if valid then skipStringFrom .plain rest
    else .error .invalidEscape

def skipString (input : Bytes) : Except Fault Bytes :=
  skipStringFrom .plain input

def skipDigits : Bytes → Except Fault Bytes
  | [] => .error .invalidNumber
  | first :: rest =>
    if isDigit first then .ok (rest.dropWhile isDigit) else .error .invalidNumber

def skipExponent (input : Bytes) : Except Fault Bytes :=
  match input with
  | [] => .error .invalidNumber
  | sign :: rest =>
    if sign = '+'.toUInt8 ∨ sign = '-'.toUInt8 then skipDigits rest else skipDigits input

def skipOptionalExponent (input : Bytes) : Except Fault Bytes :=
  match input with
  | [] => .ok []
  | mark :: rest => if isExponentMark mark then skipExponent rest else .ok input

def skipAfterWhole (input : Bytes) : Except Fault Bytes :=
  match input with
  | [] => .ok []
  | mark :: rest =>
    if mark = '.'.toUInt8 then do
      let rest ← skipDigits rest
      skipOptionalExponent rest
    else skipOptionalExponent input

def skipNumber : Bytes → Except Fault Bytes
  | [] => .error .invalidNumber
  | first :: rest =>
    if first = '0'.toUInt8 then
      if rest.head?.any isDigit then .error .invalidNumber else skipAfterWhole rest
    else if isDigit first then skipAfterWhole (rest.dropWhile isDigit)
    else .error .invalidNumber

def skipScalar (first : UInt8) (rest : Bytes) : Except Fault Bytes :=
  if first = 'n'.toUInt8 then takeLiteral ['u', 'l', 'l'] rest
  else if first = 't'.toUInt8 then takeLiteral ['r', 'u', 'e'] rest
  else if first = 'f'.toUInt8 then takeLiteral ['a', 'l', 's', 'e'] rest
  else if first = '-'.toUInt8 then skipNumber rest
  else if isDigit first then skipNumber (first :: rest)
  else if first = '"'.toUInt8 then skipString rest
  else .error .expectedValue

inductive Frame where
  | list
  | object
  deriving DecidableEq

def Frame.close : Frame → UInt8
  | .list => ']'.toUInt8
  | .object => '}'.toUInt8

def Frame.unfinished : Frame → Fault
  | .list => .endInList
  | .object => .endInObject

def Frame.expectedSeparator : Frame → Fault
  | .list => .expectedListSeparator
  | .object => .expectedObjectSeparator

def skipName (input : Bytes) : Except Fault Bytes :=
  match dropSpace input with
  | [] => .error .endInObject
  | mark :: rest =>
    if mark = '"'.toUInt8 then do
      let rest ← skipString rest
      match dropSpace rest with
      | [] => .error .endInObject
      | colon :: rest => if colon = ':'.toUInt8 then .ok rest else .error .expectedColon
    else .error .nameNotText

def Frame.skipToValue : Frame → Bytes → Except Fault Bytes
  | .list, input => .ok input
  | .object, input => skipName input

inductive Place where
  | value
  | opened
  | after

/-- Each step takes at least one octet, or goes from a place inside to a value. -/
def skipFrom : Nat → Place → List Frame → Bytes → Except Fault Bytes
  | 0, _, _, _ => .error .endInValue
  | fuel + 1, .value, frames, input =>
    match dropSpace input with
    | [] => .error .endInValue
    | first :: rest =>
      if first = '['.toUInt8 then skipFrom fuel .opened (.list :: frames) rest
      else if first = '{'.toUInt8 then skipFrom fuel .opened (.object :: frames) rest
      else do
        let rest ← skipScalar first rest
        skipFrom fuel .after frames rest
  | _ + 1, _, [], input => .ok input
  | fuel + 1, .opened, frame :: frames, input =>
    match dropSpace input with
    | [] => .error frame.unfinished
    | first :: rest =>
      if first = frame.close then skipFrom fuel .after frames rest
      else do
        let rest ← frame.skipToValue (first :: rest)
        skipFrom fuel .value (frame :: frames) rest
  | fuel + 1, .after, frame :: frames, input =>
    match dropSpace input with
    | [] => .error frame.unfinished
    | first :: rest =>
      if first = frame.close then skipFrom fuel .after frames rest
      else if first = ','.toUInt8 then do
        let rest ← frame.skipToValue rest
        skipFrom fuel .value (frame :: frames) rest
      else .error frame.expectedSeparator

def skipValue (input : Bytes) : Except Fault Bytes :=
  skipFrom (2 * input.length + 2) .value [] input

end KeyCustody.Json
