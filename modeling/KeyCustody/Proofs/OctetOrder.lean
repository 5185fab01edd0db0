import KeyCustody.Proofs.Json.Scalars

namespace KeyCustody.Text

section Characters

inductive Encodes (v : Nat) : Bytes → Prop where
  | one (short : v < 0x80) : Encodes v [UInt8.ofNat v]
  | two (long : 0x80 ≤ v) (short : v < 0x800) :
    Encodes v [UInt8.ofNat (v / 64 + 0xc0), UInt8.ofNat (v % 64 + 0x80)]
  | three (long : 0x800 ≤ v) (short : v < 0x10000) :
    Encodes v [UInt8.ofNat (v / 64 / 64 + 0xe0), UInt8.ofNat (v / 64 % 64 + 0x80),
      UInt8.ofNat (v % 64 + 0x80)]
  | four (long : 0x10000 ≤ v) (short : v < 0x110000) :
    Encodes v [UInt8.ofNat (v / 64 / 64 / 64 + 0xf0), UInt8.ofNat (v / 64 / 64 % 64 + 0x80),
      UInt8.ofNat (v / 64 % 64 + 0x80), UInt8.ofNat (v % 64 + 0x80)]

theorem encodes_char (c : Char) : Encodes c.toNat (String.utf8EncodeChar c) := by
  have bound : c.val.toNat < 0x110000 := by
    rcases c.valid with low | ⟨-, high⟩
    · exact Nat.lt_trans low (by decide)
    · exact high
  change Encodes c.val.toNat _
  rw [String.utf8EncodeChar.eq_def]
  simp only
  generalize c.val.toNat = v at *
  split
  · exact .one (by omega)
  · split
    · have lead : v / 64 % 32 = v / 64 := by omega
      rw [lead]
      exact .two (by omega) (by omega)
    · split
      · have lead : v / 4096 % 16 = v / 64 / 64 := by omega
        rw [lead]
        exact .three (by omega) (by omega)
      · have lead : v / 262144 % 8 = v / 64 / 64 / 64 := by omega
        have second : v / 4096 = v / 64 / 64 := by omega
        rw [lead, second]
        exact .four (by omega) bound

-- Neither is the front of the other, so what follows the characters does not count.
theorem Encodes.append_lt {v w : Nat} {front other : Bytes} (encodes : Encodes v front)
    (others : Encodes w other) (less : v < w) (back otherBack : Bytes) :
    front ++ back < other ++ otherBack := by
  cases encodes <;> cases others <;>
    simp only [List.cons_append, List.nil_append, List.cons_lt_cons_iff, UInt8.lt_iff_toNat_lt,
      ← UInt8.toNat_inj, UInt8.toNat_ofNat'] <;>
    omega

end Characters

section Texts

theorem octets_lt {cs ds : List Char} (less : cs < ds) : octets cs < octets ds := by
  induction ds generalizing cs with
  | nil => exact absurd less (List.not_lt_nil cs)
  | cons d ds ih =>
    cases cs with
    | nil =>
      obtain ⟨octet, rest, form⟩ := List.exists_cons_of_ne_nil (String.utf8EncodeChar_ne_nil (c := d))
      rw [octets_cons, form]
      exact List.nil_lt_cons octet _
    | cons c cs =>
      rw [octets_cons, octets_cons]
      rcases List.cons_lt_cons_iff.mp less with first | ⟨rfl, rest⟩
      · exact (encodes_char c).append_lt (encodes_char d) first _ _
      · exact List.append_left_lt (ih rest)

theorem encode_lt_iff (s t : String) : encode s < encode t ↔ s < t := by
  have grows {s t : String} (less : s < t) : encode s < encode t := by
    rw [← octets_toList, ← octets_toList]
    exact octets_lt less
  constructor
  · intro less
    rcases Std.lt_trichotomy s t with before | rfl | after
    · exact before
    · exact absurd less (List.lt_irrefl _)
    · exact absurd less (List.lt_asymm (grows after))
  · exact grows

end Texts

end KeyCustody.Text
