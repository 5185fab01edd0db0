import KeyCustody.Text.Utf8

/-!
Base64 with the standard alphabet. Reading takes canonical text only: padding must be there, and
the bits that no octet uses must be zero, so each octet string has one written form. `encode`
writes that form.
-/
namespace KeyCustody.Base64

inductive Fault where
  | badSymbol (octet : UInt8) (offset : Nat)
  | badLength (symbols : Nat)
  | badLastSymbol (octet : UInt8) (offset : Nat)
  | badPadding

def Fault.message : Fault → String
  | .badSymbol octet offset =>
    "Invalid symbol " ++ toString octet.toNat ++ ", offset " ++ toString offset ++ "."
  | .badLength symbols => "Invalid input length: " ++ toString symbols
  | .badLastSymbol octet offset =>
    "Invalid last symbol " ++ toString octet.toNat ++ ", offset " ++ toString offset ++ "."
  | .badPadding => "Invalid padding"

def padding : UInt8 := 0x3d

def sextet? (symbol : UInt8) : Option Nat :=
  let n := symbol.toNat
  if 0x41 ≤ n ∧ n ≤ 0x5a then some (n - 0x41)
  else if 0x61 ≤ n ∧ n ≤ 0x7a then some (n - 0x61 + 26)
  else if 0x30 ≤ n ∧ n ≤ 0x39 then some (n - 0x30 + 52)
  else if n = 0x2b then some 62
  else if n = 0x2f then some 63
  else none

def symbol (sextet : Nat) : UInt8 :=
  if sextet < 26 then UInt8.ofNat (sextet + 0x41)
  else if sextet < 52 then UInt8.ofNat (sextet - 26 + 0x61)
  else if sextet < 62 then UInt8.ofNat (sextet - 52 + 0x30)
  else if sextet = 62 then 0x2b
  else 0x2f

theorem sextet?_symbol (v : Nat) (small : v < 64) : sextet? (symbol v) = some v := by
  revert v
  decide

def encode : Bytes → Bytes
  | a :: b :: c :: rest =>
    let n := a.toNat * 0x10000 + b.toNat * 0x100 + c.toNat
    symbol (n / 0x40000) :: symbol (n / 0x1000 % 0x40) :: symbol (n / 0x40 % 0x40) ::
      symbol (n % 0x40) :: encode rest
  | [a, b] =>
    let n := a.toNat * 0x400 + b.toNat * 0x4
    [symbol (n / 0x1000), symbol (n / 0x40 % 0x40), symbol (n % 0x40), padding]
  | [a] =>
    let n := a.toNat * 0x10
    [symbol (n / 0x40), symbol (n % 0x40), padding, padding]
  | [] => []

def octets : List Nat → Bytes
  | a :: b :: c :: d :: rest =>
    let n := a * 0x40000 + b * 0x1000 + c * 0x40 + d
    UInt8.ofNat (n / 0x10000) :: UInt8.ofNat (n / 0x100 % 0x100) :: UInt8.ofNat (n % 0x100) ::
      octets rest
  | [a, b, c] =>
    let n := a * 0x400 + b * 0x10 + c / 0x4
    [UInt8.ofNat (n / 0x100), UInt8.ofNat (n % 0x100)]
  | [a, b] => [UInt8.ofNat (a * 0x4 + b / 0x10)]
  | _ => []

def sextets (offset : Nat) : Bytes → Except Fault (List Nat)
  | [] => .ok []
  | s :: rest =>
    match sextet? s with
    | none => .error (.badSymbol s offset)
    | some v => do
      let vs ← sextets (offset + 1) rest
      .ok (v :: vs)

/-- The last group: symbols first, padding from the third place on. `index` is the place in the
group and `start` the offset of its first place. -/
def lastGroup (start : Nat) : Nat → Bytes → Except Fault (List Nat × Nat)
  | _, [] => .ok ([], 0)
  | index, s :: rest =>
    if s = padding then
      if index < 2 then .error (.badSymbol s (start + index))
      else if rest.all (· == padding) then .ok ([], rest.length + 1)
      else .error (.badSymbol s (start + index))
    else
      match sextet? s with
      | none => .error (.badSymbol s (start + index))
      | some v => do
        let (vs, pads) ← lastGroup start (index + 1) rest
        .ok (v :: vs, pads)

def hasSpareBits : List Nat → Bool
  | [_, b] => b % 0x10 != 0
  | [_, _, c] => c % 0x4 != 0
  | _ => false

/-- A last octet outside the alphabet, where it stands alone after whole groups. -/
def stray? (text : Bytes) : Option UInt8 :=
  if text.length % 4 = 1 then
    text.getLast?.filter fun s => s != padding && (sextet? s).isNone
  else none

def decode (text : Bytes) : Except Fault Bytes :=
  match stray? text with
  | some s => .error (.badSymbol s (text.length - 1))
  | none => do
    let start := 4 * ((text.length - 1) / 4)
    let whole ← sextets 0 (text.take start)
    let (last, pads) ← lastGroup start 0 (text.drop start)
    if last.length < 2 ∧ text ≠ [] then .error (.badLength (start + last.length))
    else if (last.length + pads) % 4 ≠ 0 then .error .badPadding
    else if hasSpareBits last then
      let offset := start + last.length - 1
      .error (.badLastSymbol (text.getD offset 0) offset)
    else .ok (octets (whole ++ last))

end KeyCustody.Base64
