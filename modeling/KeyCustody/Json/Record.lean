import KeyCustody.Json.Reader

/-!
Objects with known members. A record is given by its fields, each with a reader for its value; an
object is read member by member, whatever their order. Members without a field are skipped, or
kept whole where the record has a place for them. A record that keeps none may also be written as
a list of its fields' values.
-/
namespace KeyCustody.Json

structure Field (α : Type) where
  name : String
  required : Bool
  /-- Reads the member's value into a record. -/
  read : Reader (α → α)

structure Record (α : Type) where
  title : String
  fields : List (Field α)
  /-- A record with none of its members read. -/
  blank : α
  /-- Where members without a field go. -/
  keep : Option (String → Value → α → α) := none

section Fields

def Field.map {α β : Type} (name : String) (required : Bool) (read : Reader β) (set : β → α → α) :
    Field α :=
  ⟨name, required, fun levels input => do
    let (found, rest) ← read levels input
    .ok (set found, rest)⟩

def required {α β : Type} (name : String) (read : Reader β) (set : β → α → α) : Field α :=
  .map name true read set

/-- A member that may be missing; the blank record then keeps what it has. -/
def defaulted {α β : Type} (name : String) (read : Reader β) (set : β → α → α) : Field α :=
  .map name false read set

end Fields

namespace Record

variable {α : Type}

def field? (r : Record α) (name : String) : Option (Field α) :=
  r.fields.find? (·.name = name)

structure Partial (α : Type) where
  record : α
  seen : List String

/-- One member, from its colon on. A field that is there already is a fault before its value. -/
def readMember (r : Record α) (levels : Nat) (name : String) (part : Partial α) (input : Bytes) :
    Except Fault (Partial α × Bytes) :=
  match r.field? name with
  | some field =>
    if name ∈ part.seen then .error (.duplicateField name)
    else do
      let rest ← takeColon input
      let (set, rest) ← field.read levels rest
      .ok (⟨set part.record, name :: part.seen⟩, rest)
  | none => do
    let rest ← takeColon input
    match r.keep with
    | none => do
      let rest ← skipValue rest
      .ok (part, rest)
    | some keep => do
      let (v, rest) ← value levels rest
      .ok (⟨keep name v part.record, part.seen⟩, rest)

def missing? (r : Record α) (seen : List String) : Option String :=
  (r.fields.find? fun field => field.required && !seen.contains field.name).map (·.name)

def readMembers (r : Record α) (levels : Nat) (input : Bytes) : Except Fault (α × Bytes) := do
  let (part, rest) ← members (r.readMember levels) ⟨r.blank, []⟩ input
  match r.missing? part.seen with
  | some name => .error (.missingField name)
  | none => .ok (part.record, rest)

def closeList (input : Bytes) : Except Fault Bytes :=
  match dropSpace input with
  | [] => .error .endInList
  | mark :: rest =>
    if mark = ']'.toUInt8 then .ok rest
    else if mark = ','.toUInt8 ∧ (dropSpace rest).head? = some ']'.toUInt8 then
      .error .trailingComma
    else .error .trailingCharacters

def readItems (r : Record α) (levels : Nat) :
    List (Field α) → Nat → Bool → α → Bytes → Except Fault (α × Bytes)
  | [], _, _, record, input => do
    let rest ← closeList input
    .ok (record, rest)
  | field :: fields, index, first, record, input => do
    match ← nextItem first input with
    | .done _ =>
      -- The bracket is still to be closed when the last field has been looked for.
      if field.required then .error (.wrongLength index r.title r.fields.length)
      else r.readItems levels fields (index + 1) first record input
    | .item input =>
      let (set, rest) ← field.read levels input
      r.readItems levels fields (index + 1) false (set record) rest

def reader (r : Record α) : Reader α := fun levels input =>
  match dropSpace input with
  | [] => .error .endInValue
  | first :: rest =>
    if first = '{'.toUInt8 then
      match levels with
      | 0 => .error .tooDeep
      | levels + 1 => r.readMembers levels rest
    else if first = '['.toUInt8 ∧ r.keep.isNone then
      match levels with
      | 0 => .error .tooDeep
      | levels + 1 => r.readItems levels r.fields 0 true r.blank rest
    else .error (mismatch r.title first rest)

end Record

end KeyCustody.Json
