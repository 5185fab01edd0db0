import KeyCustody.Text.Pattern.Symbol

/-!
Sets of characters in a regular expression, from one bracket to the other: characters, ranges,
classes by name and sets within sets, combined by two ampersands, dashes or tildes. What reading a
set gives is its depth: one more than that of the deepest set, row of items or combination in it.
-/
namespace KeyCustody.Text.Pattern

structure OpenSet where
  items : Nat := 0
  deepest : Nat := 0
  left : Option Nat := none
  deriving DecidableEq, Repr

namespace OpenSet

def add (s : OpenSet) (depth : Nat) : OpenSet :=
  { s with items := s.items + 1, deepest := max s.deepest depth }

def side (s : OpenSet) : Nat :=
  if s.items ≤ 1 then s.deepest else s.deepest + 1

def content (s : OpenSet) : Nat :=
  match s.left with
  | none => s.side
  | some left => max left s.side + 1

def depth (s : OpenSet) : Nat :=
  s.content + 1

def combine (s : OpenSet) : OpenSet :=
  { left := some s.content }

end OpenSet

def leadingDashes (f : Flags) : Nat → (comment : Bool) → List Char → Nat × List Char
  | n, _, [] => (n, [])
  | n, true, c :: rest => leadingDashes f n (c ≠ '\n') rest
  | n, false, c :: rest =>
    if c = '-' then leadingDashes f (n + 1) false rest
    else if f.spaced && isBlank c then leadingDashes f n false rest
    else if f.spaced && c = '#' then leadingDashes f n true rest
    else (n, c :: rest)

/-- Begins a set after its bracket. A closing bracket that would leave it empty stands for itself,
and all characters but those of a set can only be had with the flag `u`. -/
def beginSet (f : Flags) (s : List Char) : Option (OpenSet × List Char) :=
  let s := f.skip s
  let negated := s.head? = some '^'
  let (dashes, rest) := leadingDashes f 0 false (if negated then s.tail else s)
  let closing := dashes = 0 ∧ rest.head? = some ']'
  let items := if closing then 1 else dashes
  if (negated ∧ !f.unicode) ∨ (items ≠ 0 ∧ !f.admits true false '-') then none
  else some ({ items }, if closing then rest.tail else rest)

def classNames : List String :=
  ["alnum", "alpha", "ascii", "blank", "cntrl", "digit", "graph", "lower", "print", "punct",
    "space", "upper", "word", "xdigit"]

def namedClass? : List Char → Option (Bool × List Char)
  | ':' :: rest =>
    let negated := rest.head? = some '^'
    let rest := if negated then rest.tail else rest
    match rest.dropWhile (· ≠ ':') with
    | ':' :: ']' :: after =>
      if classNames.contains (String.ofList (rest.takeWhile (· ≠ ':'))) then some (negated, after)
      else none
    | _ => none
  | _ => none

/-- All of ASCII but a class would hold octets that are no characters; with the flag `u` the case
of what a class holds has to matter. -/
def Flags.admitsNamed (f : Flags) (negated : Bool) : Bool :=
  if f.unicode then !f.caseless else !negated

def takeMember (f : Flags) : List Char → Option (Symbol × List Char)
  | [] => none
  | '\\' :: rest => takeEscape f rest
  | c :: rest => some (.character c false, rest)

def Symbol.isMember (f : Flags) : Symbol → Bool
  | .character c octet => f.admits true octet c
  | .several => true
  | .position => false

def glance : (comment : Bool) → List Char → Option Char
  | _, [] => none
  | comment, c :: rest =>
    if isBlank c then glance comment rest
    else if c = '#' && !comment then glance true rest
    else some c

def Flags.afterDash (f : Flags) (s : List Char) : Option Char :=
  if f.spaced then (glance false s).or s.head? else s.head?

def takeItem (f : Flags) (s : List Char) : Option (List Char) := do
  let (first, rest) ← takeMember f s
  let rest := f.skip rest
  match rest with
  | [] => none
  | c :: after =>
    if c ≠ '-' ∨ f.afterDash after = some ']' ∨ f.afterDash after = some '-' then
      if first.isMember f then some rest else none
    else
      let (last, rest) ← takeMember f (f.skip after)
      match first, last with
      | .character a _, .character b _ =>
        if first.isMember f ∧ last.isMember f ∧ a ≤ b then some rest else none
      | _, _ => none

/-- Reads on in a set, inside of `outer`, up to the end of the outermost. Every step takes a
character, so there need not be more steps than characters. -/
def takeSet (f : Flags) :
    (steps : Nat) → (outer : List OpenSet) → OpenSet → List Char → Option (Nat × List Char)
  | 0, _, _, _ => none
  | steps + 1, outer, set, s =>
    match f.skip s with
    | [] => none
    | c :: rest =>
      if c = '[' then
        match namedClass? rest with
        | some (negated, rest) =>
          if f.admitsNamed negated then takeSet f steps outer (set.add 0) rest else none
        | none => do
          let (inner, rest) ← beginSet f rest
          takeSet f steps (set :: outer) inner rest
      else if c = ']' then
        match outer with
        | [] => some (set.depth, rest)
        | around :: outer => takeSet f steps outer (around.add set.depth) rest
      else if c ∈ ['&', '-', '~'] ∧ rest.head? = some c then
        takeSet f steps outer set.combine rest.tail
      else do
        let rest ← takeItem f (c :: rest)
        takeSet f steps outer (set.add 0) rest

end KeyCustody.Text.Pattern
