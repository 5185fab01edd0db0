import KeyCustody.Json.Skip

/-!
Readers: functions that take a value of some type from the front of a text. Their first argument
is the number of lists and objects that may still be opened inside one another.
-/
namespace KeyCustody.Json

abbrev Reader (α : Type) := Nat → Bytes → Except Fault (α × Bytes)

def greatestDepth : Nat := 127

section Containers

inductive Next where
  | item (input : Bytes)
  | done (rest : Bytes)

def nextItem (first : Bool) (input : Bytes) : Except Fault Next :=
  match dropSpace input with
  | [] => .error .endInList
  | mark :: rest =>
    if mark = ']'.toUInt8 then .ok (.done rest)
    else if first then .ok (.item (mark :: rest))
    else if mark = ','.toUInt8 then
      match dropSpace rest with
      | [] => .error .endInValue
      | mark :: rest =>
        if mark = ']'.toUInt8 then .error .trailingComma else .ok (.item (mark :: rest))
    else .error .expectedListSeparator

def nextMember (first : Bool) (input : Bytes) : Except Fault Next :=
  match dropSpace input with
  | [] => .error .endInObject
  | mark :: rest =>
    if mark = '}'.toUInt8 then .ok (.done rest)
    else if first then
      if mark = '"'.toUInt8 then .ok (.item rest) else .error .nameNotText
    else if mark = ','.toUInt8 then
      match dropSpace rest with
      | [] => .error .endInValue
      | mark :: rest =>
        if mark = '"'.toUInt8 then .ok (.item rest)
        else if mark = '}'.toUInt8 then .error .trailingComma
        else .error .nameNotText
    else .error .expectedObjectSeparator

def takeColon (input : Bytes) : Except Fault Bytes :=
  match dropSpace input with
  | [] => .error .endInObject
  | mark :: rest => if mark = ':'.toUInt8 then .ok rest else .error .expectedColon

/-- The items of a list whose bracket has been opened; those read so far have the last one first.
Every item takes an octet, so the length of the input is fuel enough. -/
def itemsFrom {α : Type} (item : Bytes → Except Fault (α × Bytes)) :
    Nat → Bool → List α → Bytes → Except Fault (List α × Bytes)
  | 0, _, _, _ => .error .endInList
  | fuel + 1, first, found, input => do
    match ← nextItem first input with
    | .done rest => .ok (found.reverse, rest)
    | .item input =>
      let (value, rest) ← item input
      itemsFrom item fuel false (value :: found) rest

def items {α : Type} (item : Bytes → Except Fault (α × Bytes)) (input : Bytes) :
    Except Fault (List α × Bytes) :=
  itemsFrom item (input.length + 1) true [] input

def membersFrom {α : Type} (member : String → α → Bytes → Except Fault (α × Bytes)) :
    Nat → Bool → α → Bytes → Except Fault (α × Bytes)
  | 0, _, _, _ => .error .endInObject
  | fuel + 1, first, held, input => do
    match ← nextMember first input with
    | .done rest => .ok (held, rest)
    | .item input =>
      let (name, rest) ← takeString input
      let (held, rest) ← member name held rest
      membersFrom member fuel false held rest

def members {α : Type} (member : String → α → Bytes → Except Fault (α × Bytes)) (start : α)
    (input : Bytes) : Except Fault (α × Bytes) :=
  membersFrom member (input.length + 1) true start input

end Containers

section AnyShape

def Found.value : Found → Value
  | .null => .null
  | .bool b => .bool b
  | .number n => .number n
  | .text s => .text s
  | .sequence => .array []
  | .map => .object []

/-- One member of an object that is kept whole. A later one replaces an earlier one of its name. -/
def keepMember (value : Bytes → Except Fault (Value × Bytes)) (name : String) (held : Members)
    (input : Bytes) : Except Fault (Members × Bytes) := do
  let rest ← takeColon input
  let (v, rest) ← value rest
  .ok (held.insert name v, rest)

def valueWith (inner : Option (Bytes → Except Fault (Value × Bytes))) (input : Bytes) :
    Except Fault (Value × Bytes) :=
  match dropSpace input with
  | [] => .error .endInValue
  | first :: rest =>
    if first = '['.toUInt8 then
      match inner with
      | none => .error .tooDeep
      | some value => do
        let (held, rest) ← items value rest
        .ok (.array held, rest)
    else if first = '{'.toUInt8 then
      match inner with
      | none => .error .tooDeep
      | some value => do
        let (held, rest) ← members (keepMember value) [] rest
        .ok (.object held, rest)
    else do
      let (found, rest) ← takeScalar first rest
      .ok (found.value, rest)

def value : Reader Value
  | 0 => valueWith none
  | levels + 1 => valueWith (some (value levels))

end AnyShape

section Typed

/-- The fault of a value, which begins with `first`, where another type was asked for. A value that
is itself faulty is reported as such. -/
def mismatch (expected : String) (first : UInt8) (rest : Bytes) : Fault :=
  if first = '['.toUInt8 then .wrongType .sequence expected
  else if first = '{'.toUInt8 then .wrongType .map expected
  else
    match takeScalar first rest with
    | .error fault => fault
    | .ok (found, _) => .wrongType found expected

def text : Reader String := fun _ input =>
  match dropSpace input with
  | [] => .error .endInValue
  | first :: rest =>
    if first = '"'.toUInt8 then takeString rest else .error (mismatch "a string" first rest)

def optional {α : Type} (read : Reader α) : Reader (Option α) := fun levels input =>
  let input := dropSpace input
  if input.head? = some 'n'.toUInt8 then do
    let rest ← takeLiteral ['n', 'u', 'l', 'l'] input
    .ok (none, rest)
  else do
    let (found, rest) ← read levels input
    .ok (some found, rest)

def list {α : Type} (read : Reader α) : Reader (List α) := fun levels input =>
  match dropSpace input with
  | [] => .error .endInValue
  | first :: rest =>
    if first = '['.toUInt8 then
      match levels with
      | 0 => .error .tooDeep
      | levels + 1 => items (read levels) rest
    else .error (mismatch "a sequence" first rest)

end Typed

def decode {α : Type} (read : Reader α) (input : Bytes) : Except Fault α := do
  let (found, rest) ← read greatestDepth input
  if dropSpace rest = [] then .ok found else .error .trailingCharacters

end KeyCustody.Json
