import KeyCustody.Proofs.Traversal
import KeyCustody.Time.Timestamp

namespace KeyCustody.Time

section Order
variable {a b c : Instant}

theorem le_iff :
    a.le b = true ↔ a.second < b.second ∨ (a.second = b.second ∧ a.nano ≤ b.nano) := by
  simp only [Instant.le, Bool.or_eq_true, Bool.and_eq_true, decide_eq_true_eq, beq_iff_eq]

theorem le_refl (a : Instant) : a.le a = true :=
  le_iff.mpr (.inr ⟨rfl, Nat.le_refl _⟩)

theorem le_trans (first : a.le b = true) (second : b.le c = true) : a.le c = true := by
  rw [le_iff] at *
  omega

theorem le_antisymm_iff : a.le b = true ∧ b.le a = true ↔ a = b := by
  constructor
  · rintro ⟨before, after⟩
    rw [le_iff] at before after
    cases a with
    | mk second nano =>
      cases b with
      | mk otherSecond otherNano =>
        rw [Instant.mk.injEq]
        simp only at before after
        omega
  · rintro rfl
    exact ⟨le_refl a, le_refl a⟩

theorem le_total (a b : Instant) : (a.le b || b.le a) = true := by
  rw [Bool.or_eq_true, le_iff, le_iff]
  omega

end Order

section LeapSeconds

def Instant.delayed (i : Instant) : Instant :=
  ⟨i.second, i.nano + 1000000000⟩

theorem isValid_leap (hour minute : Nat) :
    Clock.isValid ⟨hour, minute, 60⟩ = Clock.isValid ⟨hour, minute, 59⟩ := by
  simp [Clock.isValid]

theorem instant_leap (date : Date) (hour minute nano : Nat) (offset : Int) :
    instant date ⟨hour, minute, 60⟩ nano offset =
      (instant date ⟨hour, minute, 59⟩ nano offset).delayed := by
  simp [instant, Instant.delayed]

-- The seconds are the octets after the first seventeen. What is read before and after them is the
-- same on both sides, so the two readings fail at the same step or not at all.
theorem parse_leap (front rest : Bytes) (place : front.length = 17) :
    parse (front ++ 0x36 :: 0x30 :: rest) =
      (parse (front ++ 0x35 :: 0x39 :: rest)).map Instant.delayed := by
  match front, place with
  | [y₁, y₂, y₃, y₄, s₁, m₁, m₂, s₂, d₁, d₂, t, h₁, h₂, c₁, n₁, n₂, c₂], _ =>
    have sixty : digits [0x36, 0x30] = .ok 60 := rfl
    have before : digits [0x35, 0x39] = .ok 59 := rfl
    have failed (fault : Fault) : (Except.error fault).map Instant.delayed = .error fault := rfl
    have read (i : Instant) : (Except.ok i : Except Fault Instant).map Instant.delayed =
        .ok i.delayed := rfl
    simp only [List.cons_append, List.nil_append, parse, sixty, before, ok_bind, error_bind,
      isValid_leap, instant_leap, map_bind, apply_ite (Except.map Instant.delayed), failed, read]

end LeapSeconds

end KeyCustody.Time
