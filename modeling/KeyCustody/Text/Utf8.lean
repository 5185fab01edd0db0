/-!
Text as octets. `encode` and `decode?` are strict and undo each other. `decodeLossy` reads any
octets: each longest stretch that begins a character and is then broken off becomes one
replacement character.
-/
namespace KeyCustody

abbrev Bytes := List UInt8

namespace Text

def encode (s : String) : Bytes :=
  s.toByteArray.data.toList

def decode? (octets : Bytes) : Option String :=
  String.fromUTF8? ⟨octets.toArray⟩

/-- A character that has begun: its bits so far, the octets it still lacks, and the range that
holds the next one. -/
structure Begun where
  bits : Nat
  missing : Nat
  low : Nat := 0x80
  high : Nat := 0xbf

inductive Front where
  | whole (c : Char)
  | begun (b : Begun)
  | broken

-- Only the octet after the first has a narrowed range: it rules out overlong forms, surrogates
-- and everything above U+10FFFF.
def front (octet : UInt8) : Front :=
  let n := octet.toNat
  if n < 0x80 then .whole (Char.ofNat n)
  else if n < 0xc2 then .broken
  else if n < 0xe0 then .begun ⟨n % 0x20, 1, 0x80, 0xbf⟩
  else if n = 0xe0 then .begun ⟨0, 2, 0xa0, 0xbf⟩
  else if n = 0xed then .begun ⟨0xd, 2, 0x80, 0x9f⟩
  else if n < 0xf0 then .begun ⟨n % 0x10, 2, 0x80, 0xbf⟩
  else if n = 0xf0 then .begun ⟨0, 3, 0x90, 0xbf⟩
  else if n < 0xf4 then .begun ⟨n % 0x08, 3, 0x80, 0xbf⟩
  else if n = 0xf4 then .begun ⟨4, 3, 0x80, 0x8f⟩
  else .broken

def replacement : Char := Char.ofNat 0xfffd

/-- What a lossy reading holds between two octets; `done` has its last character first. -/
structure Lossy where
  done : List Char := []
  open? : Option Begun := none

def Lossy.start (done : List Char) (octet : UInt8) : Lossy :=
  match front octet with
  | .whole c => ⟨c :: done, none⟩
  | .begun b => ⟨done, some b⟩
  | .broken => ⟨replacement :: done, none⟩

def Lossy.step (state : Lossy) (octet : UInt8) : Lossy :=
  match state.open? with
  | none => .start state.done octet
  | some b =>
    if b.low ≤ octet.toNat ∧ octet.toNat ≤ b.high then
      let bits := b.bits * 0x40 + octet.toNat % 0x40
      if b.missing ≤ 1 then ⟨Char.ofNat bits :: state.done, none⟩
      else ⟨state.done, some ⟨bits, b.missing - 1, 0x80, 0xbf⟩⟩
    else
      .start (replacement :: state.done) octet

def Lossy.finish (state : Lossy) : List Char :=
  match state.open? with
  | none => state.done.reverse
  | some _ => (replacement :: state.done).reverse

def decodeLossy (octets : Bytes) : List Char :=
  (octets.foldl Lossy.step {}).finish

theorem decode?_encode (s : String) : decode? (encode s) = some s := by
  simp [decode?, encode, String.fromUTF8?, s.isValidUTF8]
  rfl

theorem encode_inj {s t : String} : encode s = encode t ↔ s = t := by
  constructor
  · intro same
    have decoded := congrArg decode? same
    rw [decode?_encode, decode?_encode] at decoded
    exact Option.some.inj decoded
  · rintro rfl
    rfl

end Text

end KeyCustody
