/-!
The fewest decimal digits that read back as a binary fraction. The fraction is `m * 2 ^ q`; all
reals nearer to it than to its neighbours read back as it, and so do the two halfway points when
`m` is even. The digits are a point of the coarsest decimal grid that has one there, and of two
such points the nearer.
-/
namespace KeyCustody.Decimal

/-- Stands for `digits * 10 ^ exponent`. -/
structure Scaled where
  digits : Nat
  exponent : Int
  deriving DecidableEq, Repr

/-- A binary fraction `m * 2 ^ q`. When `narrow`, the neighbour below is only half as far away as
the one above. -/
structure Binary where
  m : Nat
  q : Int
  narrow : Bool
  deriving DecidableEq, Repr

/-- `4 * m * 2 ^ (q - 2)` over `10 ^ k` is `4 * m * unit / grid`. -/
def Binary.unit (b : Binary) (k : Int) : Nat :=
  Nat.pow 2 (b.q - 2).toNat * Nat.pow 10 (-k).toNat

def Binary.grid (b : Binary) (k : Int) : Nat :=
  Nat.pow 2 (2 - b.q).toNat * Nat.pow 10 k.toNat

def Binary.covers (b : Binary) (k : Int) (digits : Nat) : Bool :=
  let low := (4 * b.m - if b.narrow then 1 else 2) * b.unit k
  let high := (4 * b.m + 2) * b.unit k
  let point := digits * b.grid k
  if b.m % 2 = 0 then low ≤ point && point ≤ high else low < point && point < high

def Binary.onGrid? (b : Binary) (k : Int) : Option Nat :=
  let value := 4 * b.m * b.unit k
  let below := value / b.grid k
  let above := below + 1
  match b.covers k below, b.covers k above with
  | false, false => none
  | true, false => some below
  | false, true => some above
  | true, true =>
    let toBelow := value - below * b.grid k
    let toAbove := above * b.grid k - value
    if toBelow < toAbove then some below
    else if toAbove < toBelow then some above
    else if below % 2 = 0 then some below
    else some above

def Binary.search (b : Binary) : Nat → Int → Scaled
  | 0, k => ⟨0, k⟩
  | fuel + 1, k =>
    match b.onGrid? k with
    | some digits => ⟨digits, k⟩
    | none => b.search fuel (k - 1)

-- 30103 / 100000 is log 2 to the base 10, rounded up: the first grid is coarser than the fraction
-- is large, and the last of the thirty is finer than seventeen digits.
def Binary.shortest (b : Binary) : Scaled :=
  b.search 30 ((b.m.log2 + b.q) * 30103 / 100000 + 3)

def hiddenBit : Nat := 0x10000000000000

/-- The magnitude of a finite number that is not zero. -/
def magnitude (x : Float) : Binary :=
  let bits := x.toBits.toNat
  let exponent : Nat := bits / hiddenBit % 0x800
  let fraction := bits % hiddenBit
  if exponent = 0 then ⟨fraction, -1074, false⟩
  else ⟨fraction + hiddenBit, (exponent : Int) - 1075, fraction == 0 && decide (1 < exponent)⟩

example : (⟨hiddenBit, -52, true⟩ : Binary).shortest = ⟨1, 0⟩ := by decide +kernel
example : (⟨1, -1074, false⟩ : Binary).shortest = ⟨5, -324⟩ := by decide +kernel
example : (⟨7205759403792794, -56, false⟩ : Binary).shortest = ⟨1, -1⟩ := by decide +kernel

end KeyCustody.Decimal
