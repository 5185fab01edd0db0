import Mathlib.Data.List.Basic
import KeyCustody.PublicKey

/-!
When the one-line form of a public key text is final. Blanks, delimiters and line breaks are taken
away once each, and a later step can bring to an end of the text what an earlier one would have
taken.
-/
namespace KeyCustody.PublicKey

open Text

section Steps

theorem trimStart_sublist (s : List Char) : (trimStart s).Sublist s :=
  (List.dropWhile_suffix isBlank).sublist

theorem trim_sublist (s : List Char) : (trim s).Sublist s := by
  have back : (trimEnd (trimStart s)).Sublist (trimStart s) := by
    rw [trimEnd, ← List.reverse_sublist, List.reverse_reverse]
    exact (List.dropWhile_suffix isBlank).sublist
  exact back.trans (trimStart_sublist s)

theorem dropMark_sublist (mark s : List Char) : (dropMark mark s).Sublist s := by
  unfold dropMark
  split
  · exact List.drop_sublist _ s
  · exact List.Sublist.refl s

theorem dropEndMark_sublist (mark s : List Char) : (dropEndMark mark s).Sublist s := by
  unfold dropEndMark
  split
  · exact List.take_sublist _ s
  · exact List.Sublist.refl s

theorem dropMark_eq_self_iff {mark : List Char} (some : mark ≠ []) (s : List Char) :
    dropMark mark s = s ↔ ¬ mark <+: s := by
  unfold dropMark
  by_cases marked : mark.isPrefixOf s = true
  · rw [if_pos marked]
    have front := List.isPrefixOf_iff_prefix.mp marked
    have positive := List.length_pos_iff.mpr some
    have fits := front.length_le
    constructor
    · intro same
      have lengths := congrArg List.length same
      rw [List.length_drop] at lengths
      omega
    · intro absent
      exact absurd front absent
  · rw [if_neg marked]
    simpa using fun front => marked (List.isPrefixOf_iff_prefix.mpr front)

theorem dropEndMark_eq_self_iff {mark : List Char} (some : mark ≠ []) (s : List Char) :
    dropEndMark mark s = s ↔ ¬ mark <:+ s := by
  unfold dropEndMark
  by_cases marked : mark.isSuffixOf s = true
  · rw [if_pos marked]
    have back := List.isSuffixOf_iff_suffix.mp marked
    have positive := List.length_pos_iff.mpr some
    have fits := back.length_le
    constructor
    · intro same
      have lengths := congrArg List.length same
      rw [List.length_take] at lengths
      omega
    · intro absent
      exact absurd back absent
  · rw [if_neg marked]
    simpa using fun back => marked (List.isSuffixOf_iff_suffix.mpr back)

end Steps

section FixedPoints

structure IsNormal (s : List Char) : Prop where
  unbroken : ∀ c ∈ s, isLineBreak c = false
  trimmed : trim s = s
  noBegin : ¬ pemBegin <+: s
  noEnd : ¬ pemEnd <:+ s

theorem unbroken_normalize (s : List Char) : ∀ c ∈ normalize s, isLineBreak c = false := by
  intro c member
  simpa using (List.mem_filter.mp member).2

/-- The fixed points of normalization. -/
theorem normalize_eq_self_iff (s : List Char) : normalize s = s ↔ IsNormal s := by
  constructor
  · intro same
    -- Every step gives a sublist of what it gets, so none of them may take anything away.
    have kept : s.Sublist (dropEndMark pemEnd (dropMark pemBegin (trim s))) := by
      have filtered : (normalize s).Sublist (dropEndMark pemEnd (dropMark pemBegin (trim s))) :=
        List.filter_sublist
      rwa [same] at filtered
    have keptEnd := kept.trans (dropEndMark_sublist pemEnd _)
    have trimmed := (trim_sublist s).antisymm (keptEnd.trans (dropMark_sublist pemBegin _))
    rw [trimmed] at kept keptEnd
    have begun := (dropMark_sublist pemBegin s).antisymm keptEnd
    rw [begun] at kept
    have ended := (dropEndMark_sublist pemEnd s).antisymm kept
    refine ⟨?_, trimmed, ?_, ?_⟩
    · rw [← same]
      exact unbroken_normalize s
    · exact (dropMark_eq_self_iff (by decide) s).mp begun
    · exact (dropEndMark_eq_self_iff (by decide) s).mp ended
  · intro normal
    unfold normalize
    rw [normal.trimmed, (dropMark_eq_self_iff (by decide) s).mpr normal.noBegin,
      (dropEndMark_eq_self_iff (by decide) s).mpr normal.noEnd, List.filter_eq_self]
    intro c member
    simpa using normal.unbroken c member

theorem isBlank_of_break {c : Char} (breaks : isLineBreak c = true) : isBlank c = true := by
  simp only [isLineBreak, Bool.or_eq_true, beq_iff_eq] at breaks
  rcases breaks with rfl | rfl <;> decide

theorem unbroken_of_unblank {c : Char} (unblank : isBlank c = false) : isLineBreak c = false := by
  cases breaks : isLineBreak c with
  | false => rfl
  | true =>
    rw [isBlank_of_break breaks] at unblank
    cases unblank

theorem trim_eq_self {s : List Char} (solid : ∀ c ∈ s, isBlank c = false) : trim s = s := by
  have start : ∀ {t : List Char}, (∀ c ∈ t, isBlank c = false) → t.dropWhile isBlank = t := by
    intro t solid
    cases t with
    | nil => rfl
    | cons c rest => rw [List.dropWhile_cons_of_neg (by simp [solid c])]
  have reversed : ∀ c ∈ s.reverse, isBlank c = false :=
    fun c member => solid c (List.mem_reverse.mp member)
  rw [trim, trimStart, start solid, trimEnd, start reversed, List.reverse_reverse]

/-- Base64 is such a text: it has neither blanks nor hyphens. -/
theorem isNormal_of_solid {s : List Char} (solid : ∀ c ∈ s, isBlank c = false ∧ c ≠ '-') :
    IsNormal s := by
  refine ⟨?_, trim_eq_self fun c member => (solid c member).1, ?_, ?_⟩
  · exact fun c member => unbroken_of_unblank (solid c member).1
  · intro front
    exact (solid '-' (front.subset (by decide))).2 rfl
  · intro back
    exact (solid '-' (back.subset (by decide))).2 rfl

end FixedPoints

/-- A second pass changes nothing exactly when the first has left neither a blank nor a delimiter at
an end of the text. So it is with every key whose body is base64. -/
theorem normalizeString_twice_iff (text : String) :
    (normalizeString (normalizeString text) = normalizeString text ↔
      trimString (normalizeString text) = normalizeString text ∧
        ¬ pemBegin <+: (normalizeString text).toList ∧
        ¬ pemEnd <:+ (normalizeString text).toList) ∧
    ((∀ c ∈ (normalizeString text).toList, isBlank c = false ∧ c ≠ '-') →
      normalizeString (normalizeString text) = normalizeString text) := by
  have fixed : normalizeString (normalizeString text) = normalizeString text ↔
      IsNormal (normalize text.toList) := by
    rw [← normalize_eq_self_iff]
    unfold normalizeString
    rw [String.toList_ofList, String.ofList_inj]
  have chars : (normalizeString text).toList = normalize text.toList := String.toList_ofList
  constructor
  · rw [fixed, chars]
    have trims : trimString (normalizeString text) = normalizeString text ↔
        trim (normalize text.toList) = normalize text.toList := by
      rw [trimString, chars, normalizeString, String.ofList_inj]
    rw [trims]
    constructor
    · intro normal
      exact ⟨normal.trimmed, normal.noBegin, normal.noEnd⟩
    · rintro ⟨trimmed, noBegin, noEnd⟩
      exact ⟨unbroken_normalize _, trimmed, noBegin, noEnd⟩
  · rw [fixed, chars]
    exact isNormal_of_solid

def blankBehindBegin : String :=
  "-----BEGIN PUBLIC KEY----- \nMFYw\n-----END PUBLIC KEY-----\n"

/-- The first pass leaves the blank in front, and the second takes it away. -/
theorem normalizeString_leaves_blank :
    normalizeString blankBehindBegin = " MFYw" ∧
      normalizeString (normalizeString blankBehindBegin) = "MFYw" ∧
      normalizeString (normalizeString blankBehindBegin) ≠ normalizeString blankBehindBegin := by
  decide +kernel

end KeyCustody.PublicKey
