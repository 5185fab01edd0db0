import KeyCustody.Text.Utf8
import KeyCustody.Time.Date

/-!
Timestamps such as `2024-05-17T13:39:45.138666418+02:00` and the instants they stand for. A second
60 is second 59 with a further 10^9 nanoseconds, so it lies after every fraction of second 59 and
before the next minute.
-/
namespace KeyCustody.Time

/-- Seconds since 1970-01-01 in UTC, and nanoseconds into that second. -/
structure Instant where
  second : Int
  nano : Nat
  deriving DecidableEq, Repr

def Instant.le (a b : Instant) : Bool :=
  a.second < b.second || (a.second == b.second && a.nano ≤ b.nano)

inductive Fault where
  | premature
  | invalid
  | outOfRange
  | trailing
  deriving DecidableEq, Repr

def Fault.message : Fault → String
  | .premature => "premature end of input"
  | .invalid => "input contains invalid characters"
  | .outOfRange => "input is out of range"
  | .trailing => "trailing input"

def digit? (octet : UInt8) : Option Nat :=
  if 0x30 ≤ octet.toNat ∧ octet.toNat ≤ 0x39 then some (octet.toNat - 0x30) else none

def isDigit (octet : UInt8) : Bool :=
  (digit? octet).isSome

def digits (octets : List UInt8) : Except Fault Nat :=
  octets.foldlM (fun n octet =>
    match digit? octet with
    | some d => .ok (10 * n + d)
    | none => .error .invalid) 0

def expect (octet : UInt8) (found : UInt8) : Except Fault Unit :=
  if found = octet then .ok () else .error .invalid

/-- Nanoseconds from the digits after the point. Nine count: missing ones are zeros, and more are
dropped. -/
def nanoseconds (fraction : List UInt8) : Nat :=
  ((fraction ++ List.replicate 9 0x30).take 9).foldl
    (fun n octet => 10 * n + (digit? octet).getD 0) 0

/-- A fraction is optional, but its point needs a digit after it. -/
def takeFraction : Bytes → Except Fault (Nat × Bytes)
  | 0x2e :: [] => .error .premature
  | 0x2e :: octet :: rest =>
    if isDigit octet then
      .ok (nanoseconds (octet :: rest.takeWhile isDigit), rest.dropWhile isDigit)
    else .error .invalid
  | input => .ok (0, input)

def takeHoursAndMinutes : Bytes → Except Fault (Nat × Bytes)
  | h₁ :: h₂ :: rest => do
    let hours ← digits [h₁, h₂]
    match rest with
    | [] => .error .premature
    | colon :: rest =>
      expect 0x3a colon
      match rest with
      | m₁ :: m₂ :: rest =>
        let minutes ← digits [m₁, m₂]
        if 60 ≤ minutes then .error .outOfRange else .ok (3600 * hours + 60 * minutes, rest)
      | _ => .error .premature
  | _ => .error .premature

/-- Seconds east of UTC. A minus sign may also be U+2212. -/
def takeOffset : Bytes → Except Fault (Int × Bytes)
  | [] => .error .premature
  | 0x5a :: rest => .ok (0, rest)
  | 0x7a :: rest => .ok (0, rest)
  | 0x2b :: rest => do
    let (seconds, rest) ← takeHoursAndMinutes rest
    .ok (seconds, rest)
  | 0x2d :: rest => do
    let (seconds, rest) ← takeHoursAndMinutes rest
    .ok (-seconds, rest)
  | 0xe2 :: 0x88 :: 0x92 :: rest => do
    let (seconds, rest) ← takeHoursAndMinutes rest
    .ok (-seconds, rest)
  | _ => .error .invalid

/-- A time of day; `second` is at most 60. -/
structure Clock where
  hour : Nat
  minute : Nat
  second : Nat
  deriving DecidableEq, Repr

def Clock.isValid (c : Clock) : Bool :=
  c.hour < 24 && c.minute < 60 && c.second ≤ 60

/-- The instant at which clocks `offset` seconds east of UTC show this date and time. -/
def instant (date : Date) (clock : Clock) (nano : Nat) (offset : Int) : Instant :=
  ⟨86400 * date.dayNumber +
      (3600 * clock.hour + 60 * clock.minute + min clock.second 59 : Nat) - offset,
    nano + if clock.second = 60 then 1000000000 else 0⟩

-- The date is judged before the time is looked at, and the time before the offset.
def parse : Bytes → Except Fault Instant
  | y₁ :: y₂ :: y₃ :: y₄ :: s₁ :: m₁ :: m₂ :: s₂ :: d₁ :: d₂ :: t :: h₁ :: h₂ :: c₁ :: n₁ :: n₂ ::
      c₂ :: e₁ :: e₂ :: rest => do
    let year ← digits [y₁, y₂, y₃, y₄]
    expect 0x2d s₁
    let month ← digits [m₁, m₂]
    expect 0x2d s₂
    let day ← digits [d₁, d₂]
    let date : Date := ⟨year, month, day⟩
    if !date.isValid then .error .outOfRange
    if t ≠ 0x54 ∧ t ≠ 0x74 ∧ t ≠ 0x20 then .error .invalid
    let hour ← digits [h₁, h₂]
    expect 0x3a c₁
    let minute ← digits [n₁, n₂]
    expect 0x3a c₂
    let second ← digits [e₁, e₂]
    let clock : Clock := ⟨hour, minute, second⟩
    let (nano, rest) ← takeFraction rest
    if !clock.isValid then .error .outOfRange
    let (offset, rest) ← takeOffset rest
    if rest ≠ [] then .error .trailing
    if 86400 ≤ offset.natAbs then .error .outOfRange
    .ok (instant date clock nano offset)
  | _ => .error .premature

end KeyCustody.Time
