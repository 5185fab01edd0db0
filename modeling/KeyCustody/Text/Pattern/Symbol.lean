import KeyCustody.Text.Blank

/-!
Single places of a regular expression: a character as itself or behind a backslash, or one of the
escapes that stand for several characters or for a position.

Expressions are matched against UTF-8, and no tables of Unicode's classes are at hand. So under the
flag `u`, which is set at first, classes such as `\d` and matching without regard to case are
refused; without it they are those of ASCII, and what an octet outside of ASCII could match is
refused.
-/
namespace KeyCustody.Text.Pattern

structure Flags where
  caseless : Bool := false
  unicode : Bool := true
  /-- Blanks are skipped, and so is what stands behind a number sign on its line. -/
  spaced : Bool := false
  deriving DecidableEq, Repr

/-- Skips blanks and comments. The first argument says whether a comment has begun. -/
def skipSpaced : Bool → List Char → List Char
  | _, [] => []
  | true, c :: rest => skipSpaced (c ≠ '\n') rest
  | false, c :: rest =>
    if isBlank c then skipSpaced false rest
    else if c = '#' then skipSpaced true rest
    else c :: rest

def Flags.skip (f : Flags) (s : List Char) : List Char :=
  if f.spaced then skipSpaced false s else s

inductive Symbol where
  /-- A character; `octet` if it is written as two hexadecimal digits. -/
  | character (c : Char) (octet : Bool)
  | several
  | position
  deriving DecidableEq, Repr

def Flags.admits (f : Flags) (inSet octet : Bool) (c : Char) : Bool :=
  if f.unicode then !f.caseless else c.toNat < 0x80 || !(inSet || octet)

def Symbol.isAdmitted (f : Flags) : Symbol → Bool
  | .character c octet => f.admits false octet c
  | _ => true

def hexValue? (c : Char) : Option Nat :=
  if c.isDigit then some (c.toNat - '0'.toNat)
  else if 'a' ≤ c ∧ c ≤ 'f' then some (c.toNat - 'a'.toNat + 10)
  else if 'A' ≤ c ∧ c ≤ 'F' then some (c.toNat - 'A'.toNat + 10)
  else none

def takeCode (f : Flags) : (missing value : Nat) → List Char → Option (Nat × List Char)
  | 0, value, s => some (value, s)
  | _ + 1, _, [] => none
  | missing + 1, value, c :: rest => do
    takeCode f missing (16 * value + (← hexValue? c)) (f.skip rest)

def takeCoded (f : Flags) (digits : Nat) (s : List Char) : Option (Symbol × List Char) := do
  let (value, rest) ← takeCode f digits 0 (f.skip s)
  if value.isValidChar then some (.character (Char.ofNat value) (digits = 2), rest) else none

def control? : Char → Option Char
  | 'a' => some '\x07'
  | 't' => some '\t'
  | 'n' => some '\n'
  | 'v' => some '\x0b'
  | 'f' => some '\x0c'
  | 'r' => some '\r'
  | _ => none

def takeEscape (f : Flags) : List Char → Option (Symbol × List Char)
  | [] => none
  | c :: rest =>
    match c with
    | 'x' => takeCoded f 2 rest
    | 'u' => takeCoded f 4 rest
    | 'U' => takeCoded f 8 rest
    | 'd' | 's' | 'w' => if f.unicode then none else some (.several, rest)
    | 'A' | 'z' => some (.position, rest)
    | 'b' | 'B' | '<' | '>' => if f.unicode then none else some (.position, rest)
    | _ =>
      if c.toNat < 0x80 && !c.isAlphanum then some (.character c false, rest)
      else (control? c).map fun c => (.character c false, rest)

end KeyCustody.Text.Pattern
