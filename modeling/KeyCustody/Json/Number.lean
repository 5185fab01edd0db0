import KeyCustody.Decimal.Shortest

/-!
Numbers of JSON text. Whole numbers that fit 64 bits, signed or unsigned, are kept exactly; all
others, and minus zero, are binary fractions of 64 bits.
-/
namespace KeyCustody.Json

inductive Number where
  | integer (n : Int)
  | fraction (x : Float)

structure FractionStyle where
  leastPositional : Int
  greatestPositional : Int
  exponentMark : Char
  signsPositiveExponent : Bool

/-- Positional from 0.00001 to below 10^16, and an exponent carries its sign. -/
def fractionStyle : FractionStyle := ⟨-5, 15, 'e', true⟩

def zeros (n : Nat) : List Char :=
  List.replicate n '0'

def positional (digits : List Char) (exponent : Int) : List Char :=
  if exponent < 0 then
    '0' :: '.' :: zeros (-exponent - 1).toNat ++ digits
  else
    let whole := exponent.toNat + 1
    if digits.length ≤ whole then digits ++ zeros (whole - digits.length) ++ ['.', '0']
    else digits.take whole ++ '.' :: digits.drop whole

def scientific (style : FractionStyle) (digits : List Char) (exponent : Int) : List Char :=
  let point := if digits.length ≤ 1 then [] else '.' :: digits.drop 1
  let sign := if exponent < 0 then ['-'] else if style.signsPositiveExponent then ['+'] else []
  digits.take 1 ++ point ++ style.exponentMark :: sign ++ Nat.toDigits 10 exponent.natAbs

def Decimal.write (style : FractionStyle) (d : KeyCustody.Decimal.Scaled) : List Char :=
  let digits := Nat.toDigits 10 d.digits
  let exponent := d.exponent + (digits.length - 1 : Nat)
  if style.leastPositional ≤ exponent ∧ exponent ≤ style.greatestPositional then
    positional digits exponent
  else scientific style digits exponent

def isNegative (x : Float) : Bool :=
  0x8000000000000000 ≤ x.toBits.toNat

def fractionText (x : Float) : List Char :=
  let sign := if isNegative x then ['-'] else []
  if x == 0 then sign ++ ['0', '.', '0']
  else sign ++ Decimal.write fractionStyle (KeyCustody.Decimal.magnitude x).shortest

def integerText (n : Int) : List Char :=
  if n < 0 then '-' :: Nat.toDigits 10 n.natAbs else Nat.toDigits 10 n.natAbs

def Number.text : Number → List Char
  | .integer n => integerText n
  | .fraction x => fractionText x

def powerOfTen (k : Nat) : Float :=
  Float.ofScientific 1 false k

/-- Divides by 10^308 as long as `down` exceeds 308, or until nothing is left. -/
def divideDown : Nat → Float → Nat → Float
  | 0, x, _ => x
  | fuel + 1, x, down =>
    if down ≤ 308 then x / powerOfTen down
    else if x == 0 then x
    else divideDown fuel (x / powerOfTen 308) (down - 308)

/-- `m * 10 ^ e`, rounded once for `m` and once for each multiplication or division by a power of
ten; nothing when that exceeds every finite number. -/
def scaled? (m : Nat) (e : Int) : Option Float :=
  let x := Float.ofNat m
  if e < 0 then
    -- Every 64-bit `m` has vanished after three divisions.
    some (divideDown 4 x e.natAbs)
  else if 308 < e then
    if m = 0 then some 0 else none
  else
    let y := x * powerOfTen e.natAbs
    if y.isInf then none else some y

end KeyCustody.Json
