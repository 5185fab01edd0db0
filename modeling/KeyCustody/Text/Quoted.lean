import KeyCustody.Text.Extending
import KeyCustody.Text.Ignorable

/-!
Quoted text: a text between double quotes, on one line and with nothing a display would hide.
`escapes` is the class of characters that are written as their code point; quoting is injective
whatever that class is, because every escape starts with a backslash and no other piece does.
-/
namespace KeyCustody.Text

def hexDigit (n : Nat) : Char :=
  if n < 10 then Char.ofNat (0x30 + n) else Char.ofNat (0x57 + n)

def hexNumber (n : Nat) : List Char :=
  Nat.toDigits 16 n

def quotedChar (escapes : Char → Bool) (c : Char) : List Char :=
  if c = '\\' then ['\\', '\\']
  else if c = '"' then ['\\', '"']
  else if c = '\n' then ['\\', 'n']
  else if c = '\r' then ['\\', 'r']
  else if c = '\t' then ['\\', 't']
  else if c = '\x00' then ['\\', '0']
  else if escapes c then ['\\', 'u', '{'] ++ hexNumber c.toNat ++ ['}']
  else [c]

def quoted (escapes : Char → Bool) (s : List Char) : List Char :=
  '"' :: s.flatMap (quotedChar escapes) ++ ['"']

/-- The halfwidth sound marks of kana. They extend what they follow, yet have a width of their
own. -/
def isSoundMark (c : Char) : Bool :=
  c.toNat == 0xff9e || c.toNat == 0xff9f

def isObscure (c : Char) : Bool :=
  isUnprintable c || isIgnorable c || (isExtending c && !isSoundMark c)

def quote (s : String) : String :=
  String.ofList (quoted isObscure s.toList)

end KeyCustody.Text
