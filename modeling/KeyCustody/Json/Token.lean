import KeyCustody.Json.Fault
import KeyCustody.Text.Utf8

/-!
The tokens of JSON text: white space, literals, strings and numbers. Each function takes one from
the front of the text and gives what follows it. A string goes octet by octet through the states
of `Spelling`, so its reading is a plain recursion over the text.
-/
namespace KeyCustody.Json

def isSpace (octet : UInt8) : Bool :=
  octet == 0x20 || octet == 0x09 || octet == 0x0a || octet == 0x0d

def dropSpace (input : Bytes) : Bytes :=
  input.dropWhile isSpace

def takeLiteral : List Char → Bytes → Except Fault Bytes
  | [], input => .ok input
  | _ :: _, [] => .error .endInValue
  | c :: letters, octet :: rest =>
    if octet = c.toUInt8 then takeLiteral letters rest else .error .expectedLiteral

section Strings

inductive Spelling where
  | plain
  | escape
  /-- `count` hexadecimal digits make `value`; the first half of a surrogate pair is `high`. -/
  | hex (high : Option Nat) (value count : Nat) (valid : Bool)
  | pairBackslash (high : Nat)
  | pairMark (high : Nat)

def hexValue? (octet : UInt8) : Option Nat :=
  let n := octet.toNat
  if 0x30 ≤ n ∧ n ≤ 0x39 then some (n - 0x30)
  else if 0x41 ≤ n ∧ n ≤ 0x46 then some (n - 0x41 + 10)
  else if 0x61 ≤ n ∧ n ≤ 0x66 then some (n - 0x61 + 10)
  else none

def unescaped? (octet : UInt8) : Option UInt8 :=
  if octet = '"'.toUInt8 ∨ octet = '\\'.toUInt8 ∨ octet = '/'.toUInt8 then some octet
  else if octet = 'b'.toUInt8 then some 0x08
  else if octet = 'f'.toUInt8 then some 0x0c
  else if octet = 'n'.toUInt8 then some 0x0a
  else if octet = 'r'.toUInt8 then some 0x0d
  else if octet = 't'.toUInt8 then some 0x09
  else none

def isHighSurrogate (n : Nat) : Bool := 0xd800 ≤ n && n ≤ 0xdbff
def isLowSurrogate (n : Nat) : Bool := 0xdc00 ≤ n && n ≤ 0xdfff

def pairValue (high low : Nat) : Nat :=
  0x10000 + (high - 0xd800) * 0x400 + (low - 0xdc00)

/-- Octets read so far have their last one first; so has a character put on them. -/
def pushChar (n : Nat) (octets : Bytes) : Bytes :=
  (String.utf8EncodeChar (Char.ofNat n)).reverse ++ octets

def afterHex (high : Option Nat) (n : Nat) (octets : Bytes) : Except Fault (Spelling × Bytes) :=
  match high with
  | none =>
    if isLowSurrogate n then .error .unpairedSurrogate
    else if isHighSurrogate n then .ok (.pairBackslash n, octets)
    else .ok (.plain, pushChar n octets)
  | some high =>
    if isLowSurrogate n then .ok (.plain, pushChar (pairValue high n) octets)
    else .error .unpairedSurrogate

/-- The rest of a string whose opening quote has been read. That a digit is none is said only
when all four are there. -/
def takeStringFrom : Spelling → Bytes → Bytes → Except Fault (String × Bytes)
  | _, _, [] => .error .endInString
  | .plain, octets, octet :: rest =>
    if octet = '"'.toUInt8 then
      match Text.decode? octets.reverse with
      | some s => .ok (s, rest)
      | none => .error .invalidUtf8
    else if octet = '\\'.toUInt8 then takeStringFrom .escape octets rest
    else if octet < 0x20 then .error .controlCharacter
    else takeStringFrom .plain (octet :: octets) rest
  | .escape, octets, octet :: rest =>
    if octet = 'u'.toUInt8 then takeStringFrom (.hex none 0 0 true) octets rest
    else
      match unescaped? octet with
      | some plain => takeStringFrom .plain (plain :: octets) rest
      | none => .error .invalidEscape
  | .hex high value count valid, octets, octet :: rest =>
    let value := value * 16 + (hexValue? octet).getD 0
    let valid := valid && (hexValue? octet).isSome
    if count < 3 then takeStringFrom (.hex high value (count + 1) valid) octets rest
    else if !valid then .error .invalidEscape
    else
      match afterHex high value octets with
      | .error fault => .error fault
      | .ok (spelling, octets) => takeStringFrom spelling octets rest
  | .pairBackslash high, octets, octet :: rest =>
    if octet = '\\'.toUInt8 then takeStringFrom (.pairMark high) octets rest
    else .error .unfinishedPair
  | .pairMark high, octets, octet :: rest =>
    if octet = 'u'.toUInt8 then takeStringFrom (.hex (some high) 0 0 true) octets rest
    else .error .unfinishedPair

def takeString (input : Bytes) : Except Fault (String × Bytes) :=
  takeStringFrom .plain [] input

end Strings

section Numbers

def isDigit (octet : UInt8) : Bool :=
  0x30 ≤ octet && octet ≤ 0x39

def digitValue (octet : UInt8) : Nat :=
  octet.toNat - 0x30

def wordBound : Nat := 0x10000000000000000

def leastMagnitude : Nat := 0x8000000000000000

def greatestExponent : Nat := 0x7fffffff

/-- Puts digits behind `m` as long as the number stays below `wordBound`; the others are left. -/
def absorb (m : Nat) : Bytes → Nat × Bytes
  | [] => (m, [])
  | digit :: rest =>
    let next := 10 * m + digitValue digit
    if wordBound ≤ next then (m, digit :: rest) else absorb next rest

def signed (negative : Bool) (x : Float) : Number :=
  .fraction (if negative then -x else x)

def whole (negative : Bool) (m : Nat) : Number :=
  if !negative then .integer m
  else if m = 0 ∨ leastMagnitude < m then signed true (Float.ofNat m)
  else .integer (-m)

def scaled (negative : Bool) (m : Nat) (e : Int) (rest : Bytes) : Except Fault (Number × Bytes) :=
  match scaled? m e with
  | some x => .ok (signed negative x, rest)
  | none => .error .numberOutOfRange

def isExponentMark (octet : UInt8) : Bool :=
  octet == 'e'.toUInt8 || octet == 'E'.toUInt8

def takeExponent (negative : Bool) (m : Nat) (e : Int) (input : Bytes) :
    Except Fault (Number × Bytes) :=
  let down := input.head? == some '-'.toUInt8
  let input := if down || input.head? == some '+'.toUInt8 then input.tail else input
  match input with
  | [] => .error .endInValue
  | first :: _ =>
    if !isDigit first then .error .invalidNumber
    else
      let n := (input.takeWhile isDigit).foldl (fun n digit => 10 * n + digitValue digit) 0
      let rest := input.dropWhile isDigit
      if greatestExponent < n then
        if m ≠ 0 ∧ !down then .error .numberOutOfRange else .ok (signed negative 0, rest)
      else scaled negative m (if down then e - n else e + n) rest

/-- The fraction after its point. Digits that do not fit any more are dropped. -/
def takeFraction (negative : Bool) (m : Nat) (e : Int) (input : Bytes) :
    Except Fault (Number × Bytes) :=
  let digits := input.takeWhile isDigit
  let rest := input.dropWhile isDigit
  if digits = [] then
    if rest = [] then .error .endInValue else .error .invalidNumber
  else
    let (m, dropped) := absorb m digits
    let e := e - (digits.length - dropped.length : Nat)
    match rest with
    | [] => scaled negative m e []
    | mark :: after =>
      if isExponentMark mark then takeExponent negative m e after
      else scaled negative m e (mark :: after)

def afterWhole (negative : Bool) (m dropped : Nat) (input : Bytes) :
    Except Fault (Number × Bytes) :=
  match input with
  | mark :: rest =>
    if mark = '.'.toUInt8 then takeFraction negative m dropped rest
    else if isExponentMark mark then takeExponent negative m dropped rest
    else if dropped = 0 then .ok (whole negative m, mark :: rest)
    else scaled negative m dropped (mark :: rest)
  | [] => if dropped = 0 then .ok (whole negative m, []) else scaled negative m dropped []

def takeNumber (negative : Bool) : Bytes → Except Fault (Number × Bytes)
  | [] => .error .endInValue
  | first :: rest =>
    if first = '0'.toUInt8 then
      if rest.head?.any isDigit then .error .invalidNumber else afterWhole negative 0 0 rest
    else if isDigit first then
      let (m, dropped) := absorb 0 (first :: rest.takeWhile isDigit)
      afterWhole negative m dropped.length (rest.dropWhile isDigit)
    else .error .invalidNumber

end Numbers

def takeScalar (first : UInt8) (rest : Bytes) : Except Fault (Found × Bytes) :=
  if first = 'n'.toUInt8 then do
    let rest ← takeLiteral ['u', 'l', 'l'] rest
    .ok (.null, rest)
  else if first = 't'.toUInt8 then do
    let rest ← takeLiteral ['r', 'u', 'e'] rest
    .ok (.bool true, rest)
  else if first = 'f'.toUInt8 then do
    let rest ← takeLiteral ['a', 'l', 's', 'e'] rest
    .ok (.bool false, rest)
  else if first = '-'.toUInt8 then do
    let (n, rest) ← takeNumber true rest
    .ok (.number n, rest)
  else if isDigit first then do
    let (n, rest) ← takeNumber false (first :: rest)
    .ok (.number n, rest)
  else if first = '"'.toUInt8 then do
    let (s, rest) ← takeString rest
    .ok (.text s, rest)
  else .error .expectedValue

end KeyCustody.Json
