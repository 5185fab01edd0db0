namespace KeyCustody

structure Plan where
  start : UInt32 := 0
  count : UInt32 := 100
  /-- Milliseconds between two creations. -/
  delay : UInt64 := 1000
  deriving DecidableEq, Repr

namespace Plan

/-- The greatest index of 32 bits. It ends every plan that would reach it, and is never used. -/
def greatestStop : Nat := 0xffffffff

def stop (p : Plan) : Nat :=
  min (p.start.toNat + p.count.toNat) greatestStop

def size (p : Plan) : Nat :=
  p.stop - p.start.toNat

def indices (p : Plan) : List Nat :=
  List.range' p.start.toNat p.size

def first? (p : Plan) : Option Nat :=
  if p.size = 0 then none else some p.start.toNat

def last? (p : Plan) : Option Nat :=
  if p.size = 0 then none else some (p.stop - 1)

theorem start_le_stop (p : Plan) : p.start.toNat ≤ p.stop := by
  have bound := p.start.toNat_lt
  simp only [stop, greatestStop]
  omega

theorem start_add_size (p : Plan) : p.start.toNat + p.size = p.stop := by
  have := p.start_le_stop
  simp only [size]
  omega

theorem mem_indices (p : Plan) (index : Nat) :
    index ∈ p.indices ↔ p.start.toNat ≤ index ∧ index < p.stop := by
  rw [← p.start_add_size]
  simp [indices, List.mem_range'_1]

end Plan

def indexText (index : Nat) : String :=
  if index < 10 then "0" ++ index.repr else index.repr

def keyName (stem : String) (index : Nat) : String :=
  stem ++ indexText index

end KeyCustody
