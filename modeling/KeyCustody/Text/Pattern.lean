import KeyCustody.Text.Alphanumeric
import KeyCustody.Text.Pattern.Set

/-!
Which texts are regular expressions. Groups and sets are closed, what is repeated is there, groups
do not share a name, and nothing is nested more than 250 deep. Counted repetitions are refused, as
they cannot be written where these expressions stand.
-/
namespace KeyCustody.Text.Pattern

structure Row where
  size : Nat := 0
  deepest : Nat := 0
  last : Option Nat := none
  deriving DecidableEq, Repr

namespace Row

def add (row : Row) (last : Option Nat) : Row where
  size := row.size + 1
  deepest := max row.deepest (row.last.getD 0)
  last := last

def repeated? (row : Row) : Option Row :=
  row.last.map fun depth => { row with last := some (depth + 1) }

def depth (row : Row) : Nat :=
  let deepest := max row.deepest (row.last.getD 0)
  if row.size ≤ 1 then deepest else deepest + 1

end Row

structure Group where
  row : Row := {}
  others : Option Nat := none
  flags : Flags := {}
  deriving DecidableEq, Repr

def Group.content (g : Group) : Nat :=
  match g.others with
  | none => g.row.depth
  | some depth => max depth g.row.depth + 1

def Group.bar (g : Group) : Group :=
  { g with row := {}, others := some (max (g.others.getD 0) g.row.depth) }

def Group.add (g : Group) (last : Option Nat) : Group :=
  { g with row := g.row.add last }

structure Reading where
  inner : Group := {}
  outer : List Group := []
  names : List (List Char) := []
  deriving DecidableEq, Repr

def Reading.enter (r : Reading) (flags : Flags) : Reading :=
  { r with inner := { flags }, outer := r.inner :: r.outer }

def Reading.leave? (r : Reading) : Option Reading :=
  match r.outer with
  | [] => none
  | around :: outer => some { r with inner := around.add (some (r.inner.content + 1)), outer }

section GroupMarks

def isNameCharacter (first : Bool) (c : Char) : Bool :=
  if first then c == '_' || isLetter c
  else c == '_' || c == '.' || c == '[' || c == ']' || isAlphanumeric c

def isName : List Char → Bool
  | [] => false
  | c :: rest => isNameCharacter true c && rest.all (isNameCharacter false)

def Reading.enterNamed (r : Reading) (s : List Char) : Option (Reading × List Char) :=
  let name := s.takeWhile (· ≠ '>')
  match s.dropWhile (· ≠ '>') with
  | [] => none
  | _ :: rest =>
    if isName name ∧ name ∉ r.names then
      some ({ r.enter r.inner.flags with names := name :: r.names }, rest)
    else none

def flag (items : List Char) (letter : Char) (usual : Bool) : Bool :=
  if letter ∈ items.takeWhile (· ≠ '-') then true
  else if letter ∈ items then false
  else usual

def Flags.change (f : Flags) (items : List Char) : Flags where
  caseless := flag items 'i' f.caseless
  unicode := flag items 'u' f.unicode
  spaced := flag items 'x' f.spaced

def areFlags (items : List Char) : Bool :=
  items.all ['i', 'm', 's', 'U', 'u', 'R', 'x', '-'].contains && items.Nodup &&
    items.getLast? != some '-'

/-- Flags are for the group that a colon begins, or else for what is left of the present one. -/
def Reading.takeFlags (r : Reading) (s : List Char) : Option (Reading × List Char) :=
  let items := s.takeWhile fun c => c ≠ ':' && c ≠ ')'
  let flags := r.inner.flags.change items
  if !areFlags items then none
  else
    match s.dropWhile fun c => c ≠ ':' && c ≠ ')' with
    | ':' :: rest => some (r.enter flags, rest)
    | ')' :: rest =>
      if items = [] then none
      else some ({ r with inner := { r.inner.add none with flags } }, rest)
    | _ => none

def Reading.takeOpening (r : Reading) (s : List Char) : Option (Reading × List Char) :=
  match r.inner.flags.skip s with
  | '?' :: 'P' :: '<' :: rest => r.enterNamed rest
  | '?' :: '<' :: rest => r.enterNamed rest
  | '?' :: rest => r.takeFlags rest
  | rest => some (r.enter r.inner.flags, rest)

end GroupMarks

def Reading.addSymbol (r : Reading) (symbol : Symbol) : Option Reading :=
  if symbol.isAdmitted r.inner.flags then some { r with inner := r.inner.add (some 0) } else none

/-- Reads what begins with `c`. A set takes no more than `steps` steps. A second question mark makes
a repetition a short one. -/
def Reading.step (r : Reading) (steps : Nat) (c : Char) (rest : List Char) :
    Option (Reading × List Char) :=
  let f := r.inner.flags
  match c with
  | '(' => r.takeOpening rest
  | ')' => do some (← r.leave?, rest)
  | '|' => some ({ r with inner := r.inner.bar }, rest)
  | '[' => do
    let (set, rest) ← beginSet f rest
    let (depth, rest) ← takeSet f steps [] set rest
    some ({ r with inner := r.inner.add (some depth) }, rest)
  | '?' | '*' | '+' => do
    let row ← r.inner.row.repeated?
    let r := { r with inner := { r.inner with row } }
    some (r, if rest.head? = some '?' then rest.tail else rest)
  | '\x7b' => none
  | '\\' => do
    let (symbol, rest) ← takeEscape f rest
    some (← r.addSymbol symbol, rest)
  | '.' => if f.unicode then do some (← r.addSymbol .several, rest) else none
  | '^' | '$' => do some (← r.addSymbol .position, rest)
  | _ => do some (← r.addSymbol (.character c false), rest)

/-- Every step takes a character, so there need not be more steps than characters. -/
def Reading.run : (steps : Nat) → Reading → List Char → Option Reading
  | 0, _, _ => none
  | steps + 1, r, s =>
    match r.inner.flags.skip s with
    | [] => some r
    | c :: rest => do
      let (r, rest) ← r.step steps c rest
      r.run steps rest

def greatestDepth : Nat := 250

end Pattern

def isPattern (s : List Char) : Bool :=
  match Pattern.Reading.run (s.length + 1) {} s with
  | some r => r.outer.isEmpty && r.inner.content ≤ Pattern.greatestDepth
  | none => false

example : isPattern "b.*(a|[^]x]+)?".toList = true := by decide
example : isPattern "[a-f--[^c]]*".toList = true := by decide
example : isPattern "[f-a]".toList = false := by decide
example : isPattern "(".toList = false := by decide
example : isPattern "*".toList = false := by decide

end KeyCustody.Text
