import KeyCustody.Json.Value

/-!
JSON text of a value: `compact` on one line without spaces, `pretty` with one item or member a
line and two spaces for each level. Members are written in the order in which the value has them.
-/
namespace KeyCustody.Json

def hexLetter (n : Nat) : Char :=
  if n < 10 then Char.ofNat (0x30 + n) else Char.ofNat (0x57 + n)

/-- One character inside the quotes of a JSON string. Only the quote, the backslash and the controls
below U+0020 are escaped. -/
def escapedChar (c : Char) : List Char :=
  if c = '"' then ['\\', '"']
  else if c = '\\' then ['\\', '\\']
  else if c = '\x08' then ['\\', 'b']
  else if c = '\x0c' then ['\\', 'f']
  else if c = '\n' then ['\\', 'n']
  else if c = '\r' then ['\\', 'r']
  else if c = '\t' then ['\\', 't']
  else if c.toNat < 0x20 then
    ['\\', 'u', '0', '0', hexLetter (c.toNat / 16), hexLetter (c.toNat % 16)]
  else [c]

def stringText (s : String) : List Char :=
  '"' :: s.toList.flatMap escapedChar ++ ['"']

def literalText (b : Bool) : List Char :=
  if b then ['t', 'r', 'u', 'e'] else ['f', 'a', 'l', 's', 'e']

mutual

def Value.compactChars : Value → List Char
  | .null => ['n', 'u', 'l', 'l']
  | .bool b => literalText b
  | .number n => n.text
  | .text s => stringText s
  | .array vs => '[' :: compactItems true vs ++ [']']
  | .object ms => '{' :: compactMembers true ms ++ ['}']

def compactItems : Bool → List Value → List Char
  | _, [] => []
  | first, v :: vs =>
    (if first then [] else [',']) ++ v.compactChars ++ compactItems false vs

def compactMembers : Bool → List (String × Value) → List Char
  | _, [] => []
  | first, (name, v) :: ms =>
    (if first then [] else [',']) ++ stringText name ++ ':' :: v.compactChars ++
      compactMembers false ms

end

def newLine (level : Nat) : List Char :=
  '\n' :: List.replicate (2 * level) ' '

mutual

/-- `level` is the indentation of the line on which the value begins. -/
def Value.prettyChars (level : Nat) : Value → List Char
  | .null => ['n', 'u', 'l', 'l']
  | .bool b => literalText b
  | .number n => n.text
  | .text s => stringText s
  | .array [] => ['[', ']']
  | .array (v :: vs) => '[' :: prettyItems (level + 1) true (v :: vs) ++ newLine level ++ [']']
  | .object [] => ['{', '}']
  | .object (m :: ms) =>
    '{' :: prettyMembers (level + 1) true (m :: ms) ++ newLine level ++ ['}']

def prettyItems (level : Nat) : Bool → List Value → List Char
  | _, [] => []
  | first, v :: vs =>
    (if first then [] else [',']) ++ newLine level ++ v.prettyChars level ++
      prettyItems level false vs

def prettyMembers (level : Nat) : Bool → List (String × Value) → List Char
  | _, [] => []
  | first, (name, v) :: ms =>
    (if first then [] else [',']) ++ newLine level ++ stringText name ++ ':' :: ' ' ::
      v.prettyChars level ++ prettyMembers level false ms

end

def Value.compact (v : Value) : String :=
  String.ofList v.compactChars

def Value.pretty (v : Value) : String :=
  String.ofList (v.prettyChars 0)

end KeyCustody.Json
