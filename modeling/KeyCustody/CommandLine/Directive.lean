import KeyCustody.Text.Alphanumeric
import KeyCustody.Text.Blank
import KeyCustody.Text.Pattern
import KeyCustody.Text.Utf8

/-!
Directives of a journal filter, written `origin[scope{field}]=level`. Every part may be missing,
and a level may stand alone; without a level everything is shown. A field may be followed by an
equals sign and a value.
-/
namespace KeyCustody.CommandLine

/-- The lines of origins whose name begins with `origin` that carry `field`, if there is one, are
shown up to a threshold. -/
structure Directive where
  origin : String
  field : Option String := none
  threshold : Nat
  deriving DecidableEq, Repr

section Levels

def fullThreshold : Nat := 5

def natural? (s : List Char) : Option Nat :=
  let digits := if s.head? = some '+' then s.tail else s
  if digits = [] ∨ !digits.all Char.isDigit then none
  else some (digits.foldl (fun n c => 10 * n + (c.toNat - '0'.toNat)) 0)

def threshold? (s : String) : Option Nat :=
  match natural? s.toList with
  | some n => if n ≤ fullThreshold then some n else none
  | none =>
    ["off", "error", "warn", "info", "debug", "trace"].findIdx? (· = s.map Char.toLower)

end Levels

section Reading

structure FieldTest where
  name : String
  value : Option String

def isSignedNumber (s : List Char) : Bool :=
  let body := if s.head? = some '+' ∨ s.head? = some '-' then s.tail else s
  let whole := body.takeWhile Char.isDigit
  let rest := body.dropWhile Char.isDigit
  let fraction := if rest.head? = some '.' then rest.tail.takeWhile Char.isDigit else []
  let rest := if rest.head? = some '.' then rest.tail.dropWhile Char.isDigit else rest
  let named := ["inf", "infinity", "nan"].contains (String.ofList (body.map Char.toLower))
  let exponent :=
    match rest with
    | [] => true
    | mark :: digits =>
      let digits :=
        if digits.head? = some '+' ∨ digits.head? = some '-' then digits.tail else digits
      (mark == 'e' || mark == 'E') && digits != [] && digits.all Char.isDigit
  named || ((whole != [] || fraction != []) && exponent)

/-- A value is a number or a pattern. A second equals sign ends it. -/
def fieldTest? (s : String) : Option FieldTest :=
  let name := String.ofList (s.toList.takeWhile (· ≠ '='))
  match s.toList.dropWhile (· ≠ '=') with
  | [] => if s.isEmpty then none else some ⟨name, none⟩
  | _ :: rest =>
    let value := rest.takeWhile (· ≠ '=')
    if isSignedNumber value || Text.isPattern value then some ⟨name, some (String.ofList value)⟩
    else none

inductive Part where
  | start
  | name (first : Nat)
  | scope (first : Nat)
  | field (first : Nat)
  | tested
  | closed
  | level (first : Nat)

structure Draft where
  part : Part := .start
  origin : String := ""
  scope : Option String := none
  test : Option FieldTest := none

def beginsName (c : Char) : Bool :=
  c == '-' || c == ':' || c == '_' || Text.isAlphanumeric c

/-- The text between two places. Places are counted after leading blanks, but a text is cut out of
the whole directive, so leading blanks shift what is read. -/
def cut? (whole : Bytes) (first last : Nat) : Option String :=
  Text.decode? ((whole.take last).drop first)

def Draft.step (whole : Bytes) (d : Draft) (place : Nat) (c : Char) : Option Draft :=
  match d.part with
  | .start =>
    if c = '[' then some { d with part := .scope (place + 1) }
    else if beginsName c then some { d with part := .name place }
    else none
  | .name first =>
    if c = '=' then do
      let origin ← cut? whole first place
      some { d with origin, part := .level (place + 1) }
    else if c = '[' then do
      let origin ← cut? whole first place
      some { d with origin, part := .scope (place + 1) }
    else some d
  | .scope first =>
    if c = ']' then do
      let scope ← cut? whole first place
      some { d with scope, part := .closed }
    else if c = '\x7b' then do
      let scope ← cut? whole first place
      some { d with scope := if scope.isEmpty then none else some scope,
                    part := .field (place + 1) }
    else some d
  | .field first =>
    if c = '\x7d' then do
      let test ← fieldTest? (← cut? whole first place)
      some { d with test, part := .tested }
    else some d
  | .tested => if c = ']' then some { d with part := .closed } else none
  | .closed => if c = '=' then some { d with part := .level (place + 1) } else none
  | .level _ => some d

def Draft.run (whole : Bytes) : Draft → Nat → List Char → Option Draft
  | d, _, [] => some d
  | d, place, c :: rest => do
    let d ← d.step whole place c
    d.run whole (place + c.utf8Size) rest

structure Wanted where
  origin : String
  scope : Option String
  test : Option FieldTest
  threshold : Nat

def Draft.finish (whole : Bytes) (d : Draft) : Option Wanted :=
  match d.part with
  | .name first => do
    let s ← cut? whole first whole.length
    match threshold? s with
    | some n => some ⟨"", d.scope, d.test, n⟩
    | none => some ⟨s, d.scope, d.test, fullThreshold⟩
  | .level first => do
    let s ← cut? whole first whole.length
    let n ← if s.isEmpty then some fullThreshold else threshold? s
    some ⟨d.origin, d.scope, d.test, n⟩
  | .closed => some ⟨d.origin, d.scope, d.test, fullThreshold⟩
  | _ => none

def wanted? (s : String) : Option Wanted :=
  let whole := Text.encode s
  (Draft.run whole {} 0 (Text.trim s.toList)).bind (Draft.finish whole)

/-- Lines stand in no scope, and they are chosen before the values of their fields are known. So a
directive for a scope or for a value decides nothing. -/
def Wanted.directive? (w : Wanted) : Option Directive :=
  match w.scope, w.test with
  | none, none => some ⟨w.origin, none, w.threshold⟩
  | none, some ⟨name, none⟩ => some ⟨w.origin, some name, w.threshold⟩
  | _, _ => none

end Reading

end KeyCustody.CommandLine
