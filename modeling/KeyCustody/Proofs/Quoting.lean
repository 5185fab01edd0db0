import KeyCustody.Text.Quoted

namespace KeyCustody.Text

section Codes
variable {α : Type} {write : α → List Char}

def EndsItself (write : α → List Char) : Prop :=
  ∀ a b x y, write a ++ x = write b ++ y → a = b ∧ x = y

def closed (write : α → List Char) (mark : Char) (items : List α) : List Char :=
  items.flatMap write ++ [mark]

theorem closed_cons_append (write : α → List Char) (mark : Char) (a : α) (items : List α)
    (x : List Char) :
    closed write mark (a :: items) ++ x = write a ++ (closed write mark items ++ x) := by
  simp [closed]

/-- A list ends by itself if its items do and none of them begins like the mark that closes it. -/
theorem EndsItself.closed {mark : Char} (ends : EndsItself write)
    (unmarked : ∀ a x y, write a ++ x ≠ mark :: y) : EndsItself (closed write mark) := by
  intro items
  induction items with
  | nil =>
    intro others x y same
    cases others with
    | nil => exact ⟨rfl, (List.cons.inj same).2⟩
    | cons b others =>
      rw [closed_cons_append] at same
      exact absurd same.symm (unmarked b _ _)
  | cons a items ih =>
    intro others x y same
    rw [closed_cons_append] at same
    cases others with
    | nil => exact absurd same (unmarked a _ _)
    | cons b others =>
      rw [closed_cons_append] at same
      obtain ⟨rfl, later⟩ := ends a b _ _ same
      obtain ⟨rfl, behind⟩ := ih others x y later
      exact ⟨rfl, behind⟩

/-- Texts that go on to the first stop are equal if what begins with them is. -/
theorem append_inj_of_stop (stop : Char → Bool) {s t x y : List Char}
    (through : ∀ c ∈ s, stop c = false) (throughOther : ∀ c ∈ t, stop c = false)
    (ends : ∀ c ∈ x.head?, stop c = true) (endsOther : ∀ c ∈ y.head?, stop c = true)
    (same : s ++ x = t ++ y) : s = t ∧ x = y := by
  induction s generalizing t with
  | nil =>
    cases t with
    | nil => exact ⟨rfl, same⟩
    | cons d t =>
      have first : x.head? = some d := by rw [← List.nil_append x, same]; rfl
      cases (ends d first).symm.trans (throughOther d List.mem_cons_self)
  | cons c s ih =>
    cases t with
    | nil =>
      have first : y.head? = some c := by rw [← List.nil_append y, ← same]; rfl
      cases (endsOther c first).symm.trans (through c List.mem_cons_self)
    | cons d t =>
      obtain ⟨rfl, tail⟩ := List.cons.inj same
      obtain ⟨rfl, rest⟩ := ih (fun other member => through other (List.mem_cons_of_mem c member))
        (fun other member => throughOther other (List.mem_cons_of_mem c member)) tail
      exact ⟨rfl, rest⟩

end Codes

section CodePoints

theorem digitChar_inj {m n : Nat} (left : m < 16) (right : n < 16)
    (same : Nat.digitChar m = Nat.digitChar n) : m = n := by
  have table : ∀ m < 16, ∀ n < 16, Nat.digitChar m = Nat.digitChar n → m = n := by decide
  exact table m left n right same

theorem hexNumber_short {n : Nat} (small : n < 16) : hexNumber n = [Nat.digitChar n] :=
  Nat.toDigits_of_lt_base small

theorem hexNumber_long {n : Nat} (large : 16 ≤ n) :
    hexNumber n = hexNumber (n / 16) ++ [Nat.digitChar (n % 16)] :=
  Nat.toDigits_of_base_le (by decide) large

theorem hexNumber_ne_nil (n : Nat) : hexNumber n ≠ [] :=
  Nat.toDigits_ne_nil

theorem hexNumber_inj {m n : Nat} (same : hexNumber m = hexNumber n) : m = n := by
  induction m using Nat.strongRecOn generalizing n with
  | ind m ih =>
    by_cases small : m < 16
    · by_cases smallOther : n < 16
      · rw [hexNumber_short small, hexNumber_short smallOther] at same
        exact digitChar_inj small smallOther (List.singleton_inj.mp same)
      · rw [hexNumber_short small, hexNumber_long (Nat.le_of_not_lt smallOther),
          ← List.nil_append [Nat.digitChar m]] at same
        exact absurd (List.append_inj_left' same rfl).symm (hexNumber_ne_nil _)
    · by_cases smallOther : n < 16
      · rw [hexNumber_short smallOther, hexNumber_long (Nat.le_of_not_lt small),
          ← List.nil_append [Nat.digitChar n]] at same
        exact absurd (List.append_inj_left' same rfl) (hexNumber_ne_nil _)
      · rw [hexNumber_long (Nat.le_of_not_lt small),
          hexNumber_long (Nat.le_of_not_lt smallOther)] at same
        have front := ih (m / 16) (by omega) (List.append_inj_left' same rfl)
        have last := digitChar_inj (Nat.mod_lt m (by decide)) (Nat.mod_lt n (by decide))
          (List.singleton_inj.mp (List.append_inj_right' same rfl))
        omega

theorem digit_of_mem_hexNumber {n : Nat} {c : Char} (member : c ∈ hexNumber n) :
    ∃ d, c = Nat.digitChar d := by
  induction n using Nat.strongRecOn with
  | ind n ih =>
    by_cases small : n < 16
    · rw [hexNumber_short small, List.mem_singleton] at member
      exact ⟨n, member⟩
    · rw [hexNumber_long (Nat.le_of_not_lt small), List.mem_append, List.mem_singleton] at member
      rcases member with front | last
      · exact ih (n / 16) (by omega) front
      · exact ⟨n % 16, last⟩

theorem endsItself_codePoint : EndsItself fun c : Char => hexNumber c.toNat ++ ['}'] := by
  intro c d x y same
  have digits : ∀ n, ∀ digit ∈ hexNumber n, (digit == '}') = false := by
    intro n digit member
    obtain ⟨value, rfl⟩ := digit_of_mem_hexNumber member
    exact beq_false_of_ne (Nat.digitChar_ne '}' (by decide))
  rw [List.append_assoc, List.append_assoc] at same
  obtain ⟨number, rest⟩ := append_inj_of_stop (· == '}') (digits c.toNat) (digits d.toNat)
    (by simp) (by simp) same
  exact ⟨Char.toNat_inj.mp (hexNumber_inj number), (List.cons.inj rest).2⟩

end CodePoints

section Quoting

def marked : List (Char × Char) :=
  [('\\', '\\'), ('"', '"'), ('\n', 'n'), ('\r', 'r'), ('\t', 't'), ('\x00', '0')]

inductive Stands (c : Char) : List Char → Prop where
  | marked {mark : Char} (listed : (c, mark) ∈ marked) : Stands c ['\\', mark]
  | codePoint : Stands c ('\\' :: 'u' :: '{' :: (hexNumber c.toNat ++ ['}']))
  | plain (notBackslash : c ≠ '\\') (notQuote : c ≠ '"') : Stands c [c]

theorem stands_quotedChar (escapes : Char → Bool) (c : Char) : Stands c (quotedChar escapes c) := by
  fun_cases quotedChar escapes c with
  | case1 same => subst same; exact .marked (by decide)
  | case2 _ same => subst same; exact .marked (by decide)
  | case3 _ _ same => subst same; exact .marked (by decide)
  | case4 _ _ _ same => subst same; exact .marked (by decide)
  | case5 _ _ _ _ same => subst same; exact .marked (by decide)
  | case6 _ _ _ _ _ same => subst same; exact .marked (by decide)
  | case7 => exact .codePoint
  | case8 notBackslash notQuote => exact .plain notBackslash notQuote

theorem mark_inj {c d mark : Char} (left : (c, mark) ∈ marked) (right : (d, mark) ∈ marked) :
    c = d := by
  have table : ∀ p ∈ marked, ∀ q ∈ marked, p.2 = q.2 → p.1 = q.1 := by decide
  exact table _ left _ right rfl

theorem mark_ne_u {c : Char} : (c, 'u') ∉ marked := by
  have table : ∀ p ∈ marked, p.2 ≠ 'u' := by decide
  exact fun listed => table _ listed rfl

theorem Stands.append_inj {c d : Char} {piece other x y : List Char} (left : Stands c piece)
    (right : Stands d other) (same : piece ++ x = other ++ y) : c = d ∧ x = y := by
  -- A backslash tells the first two ways from the third, and the letter behind it one from the other.
  cases left with
  | marked listed =>
    cases right with
    | marked listedOther =>
      simp only [List.cons_append, List.nil_append, List.cons.injEq, true_and] at same
      obtain ⟨rfl, rest⟩ := same
      exact ⟨mark_inj listed listedOther, rest⟩
    | codePoint =>
      simp only [List.cons_append, List.nil_append, List.cons.injEq, true_and] at same
      obtain ⟨rfl, -⟩ := same
      exact absurd listed mark_ne_u
    | plain notBackslash _ => exact absurd (List.cons.inj same).1.symm notBackslash
  | codePoint =>
    cases right with
    | marked listedOther =>
      simp only [List.cons_append, List.nil_append, List.cons.injEq, true_and] at same
      obtain ⟨rfl, -⟩ := same
      exact absurd listedOther mark_ne_u
    | codePoint =>
      simp only [List.cons_append, List.cons.injEq, true_and] at same
      exact endsItself_codePoint c d x y same
    | plain notBackslash _ => exact absurd (List.cons.inj same).1.symm notBackslash
  | plain notBackslash _ =>
    cases right with
    | marked _ => exact absurd (List.cons.inj same).1 notBackslash
    | codePoint => exact absurd (List.cons.inj same).1 notBackslash
    | plain _ _ => exact List.cons.inj same

theorem Stands.append_ne_quote {c : Char} {piece : List Char} (stands : Stands c piece)
    (x y : List Char) : piece ++ x ≠ '"' :: y := by
  intro same
  cases stands with
  | marked _ => exact absurd (List.cons.inj same).1 (by decide)
  | codePoint => exact absurd (List.cons.inj same).1 (by decide)
  | plain _ notQuote => exact notQuote (List.cons.inj same).1

/-- Quoted text shows what was quoted and where it ends. -/
theorem endsItself_quoted (escapes : Char → Bool) : EndsItself (quoted escapes) := by
  have each : EndsItself (quotedChar escapes) := fun c d _ _ same =>
    (stands_quotedChar escapes c).append_inj (stands_quotedChar escapes d) same
  have body := each.closed fun c => (stands_quotedChar escapes c).append_ne_quote
  intro s t x y same
  exact body s t x y (List.cons.inj same).2

end Quoting

end KeyCustody.Text
