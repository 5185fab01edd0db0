import KeyCustody.Proofs.Json.ReadBack

/-!
The grammar of JSON text, octet by octet. White space may stand between any two tokens, and most
characters of a string may be spelled in several ways. Nothing here depends on how text is read.
-/
namespace KeyCustody.Json

section Spaces

def IsSpaces (gap : Bytes) : Prop :=
  ∀ octet ∈ gap, octet = 0x20 ∨ octet = 0x09 ∨ octet = 0x0a ∨ octet = 0x0d

theorem isSpaces_nil : IsSpaces [] :=
  List.forall_mem_nil _

theorem dropSpace_spaces {gap : Bytes} (spaces : IsSpaces gap) (rest : Bytes) :
    dropSpace (gap ++ rest) = dropSpace rest := by
  apply List.dropWhile_append_of_pos
  intro octet member
  rcases spaces octet member with rfl | rfl | rfl | rfl <;> decide

theorem stops_spaces {gap rest : Bytes} (spaces : IsSpaces gap) (stops : Stops rest) :
    Stops (gap ++ rest) := by
  cases gap with
  | nil => exact stops
  | cons octet gap =>
    rcases spaces octet List.mem_cons_self with rfl | rfl | rfl | rfl
    all_goals exact stops_cons (by decide) (by decide) (by decide) _

end Spaces

section Strings

def IsHexDigit (octet : UInt8) (n : Nat) : Prop :=
  ∃ c, ("0123456789abcdef".toList[n]? = some c ∨ "0123456789ABCDEF".toList[n]? = some c) ∧
    octet = c.toUInt8

inductive SpellsUnit : Bytes → Nat → Prop where
  | four {a b c d : UInt8} {w x y z : Nat} (first : IsHexDigit a w) (second : IsHexDigit b x)
      (third : IsHexDigit c y) (fourth : IsHexDigit d z) :
      SpellsUnit [a, b, c, d] (((w * 16 + x) * 16 + y) * 16 + z)

def shortEscapes : List (Char × Char) :=
  [('"', '"'), ('\\', '\\'), ('/', '/'), ('b', '\x08'), ('f', '\x0c'), ('n', '\n'), ('r', '\r'),
    ('t', '\t')]

def IsPlainChar (c : Char) : Prop :=
  c ≠ '"' ∧ c ≠ '\\' ∧ ¬ c.toNat < 0x20

instance (c : Char) : Decidable (IsPlainChar c) :=
  inferInstanceAs (Decidable (_ ∧ _ ∧ _))

inductive SpellsChar : Bytes → Char → Prop where
  | plain {c : Char} (isPlain : IsPlainChar c) : SpellsChar (String.utf8EncodeChar c) c
  | short {letter c : Char} (listed : (letter, c) ∈ shortEscapes) :
      SpellsChar ['\\'.toUInt8, letter.toUInt8] c
  | unit {digits : Bytes} {c : Char} (spelled : SpellsUnit digits c.toNat) :
      SpellsChar ('\\'.toUInt8 :: 'u'.toUInt8 :: digits) c
  | pair {digits more : Bytes} {high low : Nat} {c : Char} (first : SpellsUnit digits high)
      (second : SpellsUnit more low) (isHigh : 0xd800 ≤ high ∧ high ≤ 0xdbff)
      (isLow : 0xdc00 ≤ low ∧ low ≤ 0xdfff)
      (together : c.toNat = 0x10000 + (high - 0xd800) * 0x400 + (low - 0xdc00)) :
      SpellsChar ('\\'.toUInt8 :: 'u'.toUInt8 :: digits ++ '\\'.toUInt8 :: 'u'.toUInt8 :: more) c

inductive SpellsChars : Bytes → List Char → Prop where
  | nil : SpellsChars [] []
  | cons {front body : Bytes} {c : Char} {cs : List Char} (here : SpellsChar front c)
      (others : SpellsChars body cs) : SpellsChars (front ++ body) (c :: cs)

theorem SpellsChars.append {body more : Bytes} {cs ds : List Char} (left : SpellsChars body cs)
    (right : SpellsChars more ds) : SpellsChars (body ++ more) (cs ++ ds) := by
  induction left with
  | nil => exact right
  | cons here _ ih =>
    rw [List.append_assoc]
    exact .cons here ih

theorem spellsChars_plain {cs : List Char} (plain : ∀ c ∈ cs, IsPlainChar c) :
    SpellsChars (Text.octets cs) cs := by
  induction cs with
  | nil => exact .nil
  | cons c cs ih =>
    rw [Text.octets_cons]
    exact .cons (.plain (plain c List.mem_cons_self))
      (ih fun other member => plain other (List.mem_cons_of_mem c member))

def SpellsString (body : Bytes) (s : String) : Prop :=
  SpellsChars body s.toList

theorem spellsString_plain {s : String} (plain : ∀ c ∈ s.toList, IsPlainChar c) :
    SpellsString (Text.encode s) s := by
  rw [SpellsString, ← Text.octets_toList]
  exact spellsChars_plain plain

/-- What may stand between quotes, whether or not it makes up characters. -/
inductive IsStringBody : Bytes → Prop where
  | nil : IsStringBody []
  | plain {octet : UInt8} {body : Bytes} (here : IsPlain octet) (others : IsStringBody body) :
      IsStringBody (octet :: body)
  | short {letter c : Char} {body : Bytes} (listed : (letter, c) ∈ shortEscapes)
      (others : IsStringBody body) : IsStringBody ('\\'.toUInt8 :: letter.toUInt8 :: body)
  | unit {digits body : Bytes} {n : Nat} (spelled : SpellsUnit digits n)
      (others : IsStringBody body) :
      IsStringBody ('\\'.toUInt8 :: 'u'.toUInt8 :: digits ++ body)

theorem IsStringBody.plain_append {octets body : Bytes} (plain : ∀ octet ∈ octets, IsPlain octet)
    (others : IsStringBody body) : IsStringBody (octets ++ body) := by
  induction octets with
  | nil => exact others
  | cons octet octets ih =>
    exact .plain (plain octet List.mem_cons_self)
      (ih fun other member => plain other (List.mem_cons_of_mem octet member))

/-- Text that spells characters may stand between quotes. -/
theorem SpellsChars.isStringBody {body : Bytes} {cs : List Char} (spelled : SpellsChars body cs) :
    IsStringBody body := by
  induction spelled with
  | nil => exact .nil
  | cons here _ ih =>
    cases here with
    | plain isPlain =>
      have octets := isPlain_of_unescaped isPlain.1 isPlain.2.1 isPlain.2.2
      exact ih.plain_append octets
    | short listed => exact .short listed ih
    | unit spelled => exact .unit spelled ih
    | pair first second _ _ _ =>
      rw [List.append_assoc]
      exact .unit first (.unit second ih)

end Strings

section Numbers

def IsDigits (digits : Bytes) : Prop :=
  digits ≠ [] ∧ ∀ digit ∈ digits, isDigit digit = true

def IsWholePart (digits : Bytes) : Prop :=
  digits = ['0'.toUInt8] ∨ IsDigits digits ∧ digits.head? ≠ some '0'.toUInt8

inductive IsFraction : Bytes → Prop where
  | none : IsFraction []
  | point {digits : Bytes} (isDigits : IsDigits digits) : IsFraction ('.'.toUInt8 :: digits)

inductive IsExponent : Bytes → Prop where
  | none : IsExponent []
  | mark {mark : UInt8} {sign digits : Bytes} (isMark : mark = 'e'.toUInt8 ∨ mark = 'E'.toUInt8)
      (isSign : sign = [] ∨ sign = ['+'.toUInt8] ∨ sign = ['-'.toUInt8])
      (isDigits : IsDigits digits) : IsExponent (mark :: (sign ++ digits))

inductive IsUnsigned : Bytes → Prop where
  | parts {whole fraction exponent : Bytes} (isWhole : IsWholePart whole)
      (isFraction : IsFraction fraction) (isExponent : IsExponent exponent) :
      IsUnsigned (whole ++ (fraction ++ exponent))

inductive IsNumber : Bytes → Prop where
  | plain {token : Bytes} (unsigned : IsUnsigned token) : IsNumber token
  | minus {token : Bytes} (unsigned : IsUnsigned token) : IsNumber ('-'.toUInt8 :: token)

end Numbers

section Shapes
variable {ε : Type}

inductive IsFront : Bool → Bytes → Prop where
  | first {gap : Bytes} (spaces : IsSpaces gap) : IsFront true gap
  | later {before gap : Bytes} (spacesBefore : IsSpaces before) (spaces : IsSpaces gap) :
      IsFront false (before ++ ','.toUInt8 :: gap)

inductive Separated (written : ε → Bytes → Prop) : Bool → List ε → Bytes → Prop where
  | closing {first : Bool} {gap : Bytes} (spaces : IsSpaces gap) : Separated written first [] gap
  | entry {first : Bool} {e : ε} {es : List ε} {front text more : Bytes}
      (isFront : IsFront first front) (here : written e text)
      (others : Separated written false es more) :
      Separated written first (e :: es) (front ++ (text ++ more))

inductive IsList (written : ε → Bytes → Prop) (es : List ε) : Bytes → Prop where
  | brackets {inner : Bytes} (separated : Separated written true es inner) :
      IsList written es ('['.toUInt8 :: (inner ++ [']'.toUInt8]))

inductive IsObject (written : ε → Bytes → Prop) (es : List ε) : Bytes → Prop where
  | braces {inner : Bytes} (separated : Separated written true es inner) :
      IsObject written es ('{'.toUInt8 :: (inner ++ ['}'.toUInt8]))

inductive IsMember (body value : Bytes) : Bytes → Prop where
  | colon {gap behind : Bytes} (spaces : IsSpaces gap) (spacesBehind : IsSpaces behind) :
      IsMember body value
        ('"'.toUInt8 :: (body ++ '"'.toUInt8 :: (gap ++ ':'.toUInt8 :: (behind ++ value))))

def IsNamed (name : String) (value text : Bytes) : Prop :=
  ∃ body, SpellsString body name ∧ IsMember body value text

end Shapes

def literals : List Bytes :=
  ["null", "true", "false"].map Text.encode

inductive IsJson : Bytes → Prop where
  | literal {token : Bytes} (listed : token ∈ literals) : IsJson token
  | number {token : Bytes} (isNumber : IsNumber token) : IsJson token
  | string {body : Bytes} (isBody : IsStringBody body) :
      IsJson ('"'.toUInt8 :: (body ++ ['"'.toUInt8]))
  | list {items : List Bytes} {text : Bytes} (each : ∀ item ∈ items, IsJson item)
      (isList : IsList (fun item text => text = item) items text) : IsJson text
  | object {members : List (Bytes × Bytes)} {text : Bytes}
      (names : ∀ m ∈ members, IsStringBody m.1) (each : ∀ m ∈ members, IsJson m.2)
      (isObject : IsObject (fun m text => IsMember m.1 m.2 text) members text) : IsJson text

/-- JSON texts of one value: they differ in white space, in the spelling of strings and of names,
and in the order of an object's members when their names are distinct. -/
inductive SameValue : Bytes → Bytes → Prop where
  | literal {token : Bytes} (listed : token ∈ literals) : SameValue token token
  | number {token : Bytes} (isNumber : IsNumber token) : SameValue token token
  | string {body other : Bytes} {s : String} (spelled : SpellsString body s)
      (respelled : SpellsString other s) :
      SameValue ('"'.toUInt8 :: (body ++ ['"'.toUInt8])) ('"'.toUInt8 :: (other ++ ['"'.toUInt8]))
  | list {items : List (Bytes × Bytes)} {left right : Bytes}
      (each : ∀ item ∈ items, SameValue item.1 item.2)
      (isLeft : IsList (fun item text => text = item.1) items left)
      (isRight : IsList (fun item text => text = item.2) items right) : SameValue left right
  | object {members order : List (String × Bytes × Bytes)} {left right : Bytes}
      (each : ∀ m ∈ members, SameValue m.2.1 m.2.2)
      (isLeft : IsObject (fun m text => IsNamed m.1 m.2.1 text) members left)
      (isRight : IsObject (fun m text => IsNamed m.1 m.2.2 text) order right)
      (moved : order = members ∨ (members.map (·.1)).Nodup ∧ members.Perm order) :
      SameValue left right

end KeyCustody.Json
