import KeyCustody.Text.Utf8

/-!
Distinguished encoding: elements made of a tag, a length and contents, each written in the one
shortest way. An element is read whole before its tag is compared with the expected one.
-/
namespace KeyCustody.Der

inductive TagClass where
  | universal
  | application
  | contextSpecific
  | privateUse
  deriving DecidableEq, Repr

structure Tag where
  number : Nat
  constructed : Bool
  tagClass : TagClass
  deriving DecidableEq, Repr

inductive Fault where
  | badValue
  | badTag
  | badLength
  | extraData
  | identifierTooLong
  | shortBy (needed : Nat)
  | unexpected (tag : Tag)

def TagClass.name : TagClass → String
  | .universal => "Universal"
  | .application => "Application"
  | .contextSpecific => "ContextSpecific"
  | .privateUse => "Private"

def Tag.describe (t : Tag) : String :=
  "Tag \x7b value: " ++ toString t.number ++ ", constructed: " ++
    (if t.constructed then "true" else "false") ++ ", class: " ++ t.tagClass.name ++ " \x7d"

def Fault.describe : Fault → String
  | .badValue => "InvalidValue"
  | .badTag => "InvalidTag"
  | .badLength => "InvalidLength"
  | .extraData => "ExtraData"
  | .identifierTooLong => "OidTooLong"
  | .shortBy needed => "ShortData \x7b needed: " ++ toString needed ++ " \x7d"
  | .unexpected tag => "UnexpectedTag \x7b actual: " ++ tag.describe ++ " \x7d"

def Fault.message (f : Fault) : String :=
  "ParseError \x7b kind: " ++ f.describe ++ " \x7d"

def Tag.sequence : Tag := ⟨16, true, .universal⟩
def Tag.objectIdentifier : Tag := ⟨6, false, .universal⟩
def Tag.bitString : Tag := ⟨3, false, .universal⟩

inductive Base128 where
  | number (value : Nat) (rest : Bytes)
  | invalid
  | unfinished

def wordBound : Nat := 0x100000000

/-- A number in groups of seven bits, at most five octets and of 32 bits, without a leading zero
group. `index` groups make up `value` so far. -/
def base128 (index value : Nat) : Bytes → Base128
  | [] => .unfinished
  | octet :: rest =>
    let value' := value * 0x80 + octet.toNat % 0x80
    if index = 0 ∧ octet = 0x80 then .invalid
    else if wordBound ≤ value' then .invalid
    else if octet.toNat < 0x80 then .number value' rest
    else if 4 ≤ index then .invalid
    else base128 (index + 1) value' rest

def tagClass (octet : UInt8) : TagClass :=
  match octet.toNat / 0x40 with
  | 0 => .universal
  | 1 => .application
  | 2 => .contextSpecific
  | _ => .privateUse

def takeTag : Bytes → Except Fault (Tag × Bytes)
  | [] => .error (.shortBy 1)
  | octet :: rest =>
    let constructed := octet.toNat / 0x20 % 2 == 1
    let number := octet.toNat % 0x20
    if number < 31 then .ok (⟨number, constructed, tagClass octet⟩, rest)
    else
      match base128 0 0 rest with
      | .unfinished => .error (.shortBy 1)
      | .invalid => .error .badTag
      | .number long rest =>
        -- Below 31 the short form would have done.
        if long < 31 then .error .badTag
        else .ok (⟨long, constructed, tagClass octet⟩, rest)

def number (octets : Bytes) : Nat :=
  octets.foldl (fun n octet => n * 0x100 + octet.toNat) 0

def takeOctets (count : Nat) (input : Bytes) : Except Fault (Bytes × Bytes) :=
  if input.length < count then .error (.shortBy (count - input.length))
  else .ok (input.take count, input.drop count)

theorem takeOctets_eq_ok_iff (count : Nat) (input taken rest : Bytes) :
    takeOctets count input = .ok (taken, rest) ↔ input = taken ++ rest ∧ taken.length = count := by
  simp only [takeOctets]
  split
  · next short =>
    simp only [reduceCtorEq, false_iff, not_and]
    rintro rfl length
    rw [List.length_append] at short
    omega
  · next enough =>
    simp only [Except.ok.injEq, Prod.mk.injEq]
    constructor
    · rintro ⟨rfl, rfl⟩
      exact ⟨(List.take_append_drop count input).symm, List.length_take_of_le (by omega)⟩
    · rintro ⟨rfl, rfl⟩
      exact ⟨List.take_left, List.drop_left⟩

def leastLong : Nat → Nat
  | 0 | 1 => 0x80
  | 2 => 0x100
  | 3 => 0x10000
  | _ => 0x1000000

def takeLength : Bytes → Except Fault (Nat × Bytes)
  | [] => .error (.shortBy 1)
  | octet :: rest =>
    let n := octet.toNat
    if n < 0x80 then .ok (n, rest)
    else if n = 0x80 ∨ 0x84 < n then .error .badLength
    else do
      let (long, rest) ← takeOctets (n - 0x80) rest
      if number long < leastLong (n - 0x80) then .error .badLength
      else .ok (number long, rest)

def takeElement (expected : Tag) (input : Bytes) : Except Fault (Bytes × Bytes) := do
  let (tag, rest) ← takeTag input
  let (length, rest) ← takeLength rest
  let (contents, rest) ← takeOctets length rest
  if tag = expected then .ok (contents, rest) else .error (.unexpected tag)

/-- Whether octets are a row of complete groups of seven bits. `fuel` bounds the number of arcs. -/
def areArcs : Nat → Bytes → Bool
  | _, [] => true
  | 0, _ :: _ => false
  | fuel + 1, octets =>
    match base128 0 0 octets with
    | .number _ rest => areArcs fuel rest
    | _ => false

/-- Object identifiers are compared by their contents, since each has one written form. -/
def checkIdentifier (contents : Bytes) : Except Fault Bytes :=
  if contents = [] then .error .badValue
  else if 63 < contents.length then .error .identifierTooLong
  else if areArcs contents.length contents then .ok contents
  else .error .badValue

structure BitString where
  unused : Nat
  octets : Bytes

def bitString : Bytes → Except Fault BitString
  | [] => .error .badValue
  | first :: octets =>
    let unused := first.toNat
    if 7 < unused then .error .badValue
    else
      match octets.getLast? with
      | none => if unused = 0 then .ok ⟨0, []⟩ else .error .badValue
      | some last =>
        if last.toNat % Nat.pow 2 unused = 0 then .ok ⟨unused, octets⟩ else .error .badValue

def takeIdentifier (input : Bytes) : Except Fault (Bytes × Bytes) := do
  let (contents, rest) ← takeElement .objectIdentifier input
  let identifier ← checkIdentifier contents
  .ok (identifier, rest)

def takeBitString (input : Bytes) : Except Fault (BitString × Bytes) := do
  let (contents, rest) ← takeElement .bitString input
  let bits ← bitString contents
  .ok (bits, rest)

def atEnd : Bytes → Except Fault Unit
  | [] => .ok ()
  | _ :: _ => .error .extraData

structure SubjectPublicKey where
  algorithm : Bytes
  parameters : Bytes
  key : BitString

/-- A sequence of a sequence of two identifiers and a bit string, with nothing after any of them. -/
def subjectPublicKey (input : Bytes) : Except Fault SubjectPublicKey := do
  let (body, afterBody) ← takeElement .sequence input
  let (kind, afterKind) ← takeElement .sequence body
  let (algorithm, rest) ← takeIdentifier kind
  let (parameters, rest) ← takeIdentifier rest
  atEnd rest
  let (key, rest) ← takeBitString afterKind
  atEnd rest
  atEnd afterBody
  .ok ⟨algorithm, parameters, key⟩

end KeyCustody.Der
