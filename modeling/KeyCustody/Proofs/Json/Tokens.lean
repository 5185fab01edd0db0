import KeyCustody.Proofs.Json.Grammar

/-!
Strings and numbers as the grammar has them. A string is read as the text that it spells; what a
number is read as depends on its own octets only, as long as the text behind does not go on with it.
Both are skipped exactly.
-/
namespace KeyCustody.Json

open Text

section Strings

theorem hexValue?_digit {octet : UInt8} {n : Nat} (digit : IsHexDigit octet n) :
    hexValue? octet = some n := by
  obtain ⟨c, listed, rfl⟩ := digit
  have small : n < 16 := by
    rcases listed with found | found
    all_goals exact (List.getElem?_eq_some_iff.mp found).1
  have lower : ∀ n < 16, ("0123456789abcdef".toList[n]?).map (fun c => hexValue? c.toUInt8) =
      some (some n) := by decide
  have upper : ∀ n < 16, ("0123456789ABCDEF".toList[n]?).map (fun c => hexValue? c.toUInt8) =
      some (some n) := by decide
  rcases listed with found | found
  · have value := lower n small
    rw [found] at value
    exact Option.some.inj value
  · have value := upper n small
    rw [found] at value
    exact Option.some.inj value

/-- Four digits lead to what their number means. -/
theorem takeStringFrom_unit (high : Option Nat) {digits : Bytes} {n : Nat}
    (spelled : SpellsUnit digits n) (done rest : Bytes) :
    takeStringFrom (.hex high 0 0 true) done (digits ++ rest) =
      match afterHex high n done with
      | .error fault => .error fault
      | .ok (spelling, octets) => takeStringFrom spelling octets rest := by
  cases spelled with
  | four first second third fourth =>
    simp only [List.cons_append, List.nil_append, takeStringFrom, hexValue?_digit first,
      hexValue?_digit second, hexValue?_digit third, hexValue?_digit fourth, Option.getD_some,
      Option.isSome_some, Bool.and_self, Nat.zero_mul, Nat.zero_add]
    rfl

theorem unescaped?_listed {letter c : Char} (listed : (letter, c) ∈ shortEscapes) :
    letter.toUInt8 ≠ 'u'.toUInt8 ∧ unescaped? letter.toUInt8 = some c.toUInt8 ∧ c.toNat < 0x80 := by
  have each : ∀ pair ∈ shortEscapes, pair.1.toUInt8 ≠ 'u'.toUInt8 ∧
      unescaped? pair.1.toUInt8 = some pair.2.toUInt8 ∧ pair.2.toNat < 0x80 := by decide
  exact each (letter, c) listed

theorem takeStringFrom_char {front : Bytes} {c : Char} (spelled : SpellsChar front c)
    (done rest : Bytes) :
    takeStringFrom .plain done (front ++ rest) =
      takeStringFrom .plain ((String.utf8EncodeChar c).reverse ++ done) rest := by
  obtain ⟨notHigh, notLow⟩ := isSurrogate_toNat c
  cases spelled with
  | plain isPlain =>
    obtain ⟨notQuote, notBackslash, notControl⟩ := isPlain
    exact takeStringFrom_plain (isPlain_of_unescaped notQuote notBackslash notControl) done rest
  | short listed =>
    obtain ⟨notUnit, plain, ascii⟩ := unescaped?_listed listed
    rw [List.cons_append, List.singleton_append, takeStringFrom, if_neg (by decide), if_pos rfl,
      takeStringFrom, if_neg notUnit, plain, utf8EncodeChar_ascii ascii]
    rfl
  | unit spelled =>
    have after : afterHex none c.toNat done =
        .ok (.plain, (String.utf8EncodeChar c).reverse ++ done) := by
      simp [afterHex, notHigh, notLow, pushChar, Char.ofNat_toNat]
    rw [List.cons_append, List.cons_append, takeStringFrom, if_neg (by decide), if_pos rfl,
      takeStringFrom, if_pos rfl, takeStringFrom_unit none spelled, after]
  | @pair digits more high low _ first second isHigh isLow together =>
    have begun : afterHex none high done = .ok (.pairBackslash high, done) := by
      have isHighHalf : isHighSurrogate high = true := by simpa [isHighSurrogate] using isHigh
      have notLowHalf : isLowSurrogate high = false := by
        simp only [isLowSurrogate, Bool.and_eq_false_iff, decide_eq_false_iff_not]
        omega
      simp [afterHex, isHighHalf, notLowHalf]
    have after : afterHex (some high) low done =
        .ok (.plain, (String.utf8EncodeChar c).reverse ++ done) := by
      have isLowHalf : isLowSurrogate low = true := by simpa [isLowSurrogate] using isLow
      have value : pairValue high low = c.toNat := together.symm
      simp [afterHex, isLowHalf, pushChar, value, Char.ofNat_toNat]
    rw [List.append_assoc, List.cons_append, List.cons_append, takeStringFrom, if_neg (by decide),
      if_pos rfl, takeStringFrom, if_pos rfl, takeStringFrom_unit none first, begun]
    simp only
    rw [List.cons_append, List.cons_append, takeStringFrom, if_pos rfl, takeStringFrom, if_pos rfl,
      takeStringFrom_unit (some high) second, after]

theorem takeStringFrom_chars {body : Bytes} {cs : List Char} (spelled : SpellsChars body cs)
    (done rest : Bytes) :
    takeStringFrom .plain done (body ++ rest) =
      takeStringFrom .plain ((octets cs).reverse ++ done) rest := by
  induction spelled generalizing done with
  | nil => rfl
  | cons here _ ih =>
    rw [List.append_assoc, takeStringFrom_char here, ih, octets_cons, List.reverse_append,
      List.append_assoc]

theorem takeString_spelled {body : Bytes} {s : String} (spelled : SpellsString body s)
    (rest : Bytes) : takeString (body ++ '"'.toUInt8 :: rest) = .ok (s, rest) := by
  rw [takeString, takeStringFrom_chars spelled, takeStringFrom, if_pos rfl, List.append_nil,
    List.reverse_reverse, octets_toList, decode?_encode]

theorem skipStringFrom_unit {digits : Bytes} {n : Nat} (spelled : SpellsUnit digits n)
    (rest : Bytes) :
    skipStringFrom (.hex 0 true) (digits ++ rest) = skipStringFrom .plain rest := by
  cases spelled with
  | four first second third fourth =>
    simp only [List.cons_append, List.nil_append, skipStringFrom, hexValue?_digit first,
      hexValue?_digit second, hexValue?_digit third, hexValue?_digit fourth, Option.isSome_some,
      Bool.and_self]
    rfl

theorem skipString_body {body : Bytes} (isBody : IsStringBody body) (rest : Bytes) :
    skipString (body ++ '"'.toUInt8 :: rest) = .ok rest := by
  rw [skipString]
  induction isBody with
  | nil => rfl
  | plain here _ ih =>
    obtain ⟨notQuote, notBackslash, notControl⟩ := here
    rw [List.cons_append, skipStringFrom, if_neg notQuote, if_neg notBackslash, if_neg notControl]
    exact ih
  | short listed _ ih =>
    obtain ⟨notUnit, plain, -⟩ := unescaped?_listed listed
    rw [List.cons_append, List.cons_append, skipStringFrom, if_neg (by decide), if_pos rfl,
      skipStringFrom, if_neg notUnit, plain]
    exact ih
  | unit spelled _ ih =>
    rw [List.append_assoc, List.cons_append, List.cons_append, skipStringFrom, if_neg (by decide),
      if_pos rfl, skipStringFrom, if_pos rfl, skipStringFrom_unit spelled]
    exact ih

end Strings

section Numbers

theorem noDigit_cons {mark : UInt8} (no : isDigit mark = false) (rest : Bytes) :
    NoDigit (mark :: rest) := by
  intro first member
  obtain rfl : mark = first := Option.some.inj member
  exact no

theorem IsDigits.first {digits : Bytes} (isDigits : IsDigits digits) :
    ∃ digit more, digits = digit :: more ∧ isDigit digit = true := by
  obtain ⟨solid, all⟩ := isDigits
  cases digits with
  | nil => exact absurd rfl solid
  | cons digit more => exact ⟨digit, more, rfl, all digit List.mem_cons_self⟩

theorem isExponentMark_iff (mark : UInt8) :
    isExponentMark mark = true ↔ mark = 'e'.toUInt8 ∨ mark = 'E'.toUInt8 := by
  simp [isExponentMark]

theorem noDigit_exponent {exponent rest : Bytes} (isExponent : IsExponent exponent)
    (stops : Stops rest) : NoDigit (exponent ++ rest) := by
  cases isExponent with
  | none => exact noDigit_of_stops stops
  | mark isMark _ _ =>
    rcases isMark with rfl | rfl
    all_goals exact noDigit_cons (by decide) _

theorem noDigit_fraction {fraction rest : Bytes} (isFraction : IsFraction fraction)
    (behind : NoDigit rest) : NoDigit (fraction ++ rest) := by
  cases isFraction with
  | none => exact behind
  | point _ => exact noDigit_cons (by decide) _

def Ends (take : Bytes → Except Fault (Number × Bytes)) (token : Bytes) : Prop :=
  ∃ found : Except Fault Number, ∀ rest, Stops rest → take (token ++ rest) = found.map (·, rest)

theorem ends_scaled (negative : Bool) (m : Nat) (e : Int) :
    ∃ found : Except Fault Number, ∀ rest, scaled negative m e rest = found.map (·, rest) := by
  unfold scaled
  cases scaled? m e with
  | none => exact ⟨.error .numberOutOfRange, fun _ => rfl⟩
  | some x => exact ⟨.ok (signed negative x), fun _ => rfl⟩

theorem ends_exponent (negative : Bool) (m : Nat) (e : Int) {sign digits : Bytes}
    (isSign : sign = [] ∨ sign = ['+'.toUInt8] ∨ sign = ['-'.toUInt8])
    (isDigits : IsDigits digits) : Ends (takeExponent negative m e) (sign ++ digits) := by
  obtain ⟨digit, more, rfl, isFirst⟩ := isDigits.first
  have notMinus : digit ≠ '-'.toUInt8 := ne_of_isDigit isFirst (by decide)
  have notPlus : digit ≠ '+'.toUInt8 := ne_of_isDigit isFirst (by decide)
  have split : ∀ rest, Stops rest →
      (digit :: (more ++ rest)).takeWhile isDigit = digit :: more ∧
        (digit :: (more ++ rest)).dropWhile isDigit = rest := fun rest stops =>
    takeWhile_isDigit isDigits.2 (noDigit_of_stops stops)
  -- The sign only says which way the exponent goes.
  obtain ⟨down, opened⟩ : ∃ down : Bool, ∀ rest, Stops rest →
      takeExponent negative m e ((sign ++ digit :: more) ++ rest) =
        let n := (digit :: more).foldl (fun n digit => 10 * n + digitValue digit) 0
        if greatestExponent < n then
          if m ≠ 0 ∧ !down then .error .numberOutOfRange else .ok (signed negative 0, rest)
        else scaled negative m (if down then e - n else e + n) rest := by
    rcases isSign with rfl | rfl | rfl
    · refine ⟨false, fun rest stops => ?_⟩
      obtain ⟨taken, dropped⟩ := split rest stops
      simp [takeExponent, notMinus, notPlus, isFirst, taken, dropped]
    · refine ⟨false, fun rest stops => ?_⟩
      obtain ⟨taken, dropped⟩ := split rest stops
      have plus : '+'.toUInt8 ≠ '-'.toUInt8 := by decide
      simp [takeExponent, isFirst, taken, dropped, plus]
    · refine ⟨true, fun rest stops => ?_⟩
      obtain ⟨taken, dropped⟩ := split rest stops
      simp [takeExponent, isFirst, taken, dropped]
  unfold Ends
  simp only at opened
  split at opened
  · split at opened
    · exact ⟨.error .numberOutOfRange, opened⟩
    · exact ⟨.ok (signed negative 0), opened⟩
  · obtain ⟨found, same⟩ := ends_scaled negative m
      (if down then e - ((digit :: more).foldl (fun n digit => 10 * n + digitValue digit) 0 : Nat)
        else e + ((digit :: more).foldl (fun n digit => 10 * n + digitValue digit) 0 : Nat))
    exact ⟨found, fun rest stops => (opened rest stops).trans (same rest)⟩

theorem ends_fraction (negative : Bool) (m : Nat) (e : Int) {digits exponent : Bytes}
    (isDigits : IsDigits digits) (isExponent : IsExponent exponent) :
    Ends (takeFraction negative m e) (digits ++ exponent) := by
  obtain ⟨solid, all⟩ := isDigits
  have split : ∀ rest, Stops rest →
      (digits ++ (exponent ++ rest)).takeWhile isDigit = digits ∧
        (digits ++ (exponent ++ rest)).dropWhile isDigit = exponent ++ rest := fun rest stops =>
    takeWhile_isDigit all (noDigit_exponent isExponent stops)
  cases isExponent with
  | none =>
    obtain ⟨found, same⟩ := ends_scaled negative (absorb m digits).1
      (e - (digits.length - (absorb m digits).2.length : Nat))
    refine ⟨found, fun rest stops => ?_⟩
    obtain ⟨taken, dropped⟩ := split rest stops
    rw [List.nil_append] at taken dropped
    rw [List.append_nil, takeFraction]
    simp only [taken, dropped, if_neg solid]
    cases rest with
    | nil => exact same []
    | cons mark rest =>
      simp only [(stops mark rfl).2.2]
      exact same (mark :: rest)
  | @mark mark sign more isMark isSign moreDigits =>
    obtain ⟨found, same⟩ := ends_exponent negative (absorb m digits).1
      (e - (digits.length - (absorb m digits).2.length : Nat)) isSign moreDigits
    refine ⟨found, fun rest stops => ?_⟩
    obtain ⟨taken, dropped⟩ := split rest stops
    rw [List.cons_append] at taken dropped
    rw [List.append_assoc, List.cons_append, takeFraction]
    simp only [taken, dropped, if_neg solid]
    rw [if_pos ((isExponentMark_iff mark).mpr isMark)]
    exact same rest stops

theorem ends_afterWhole (negative : Bool) (m dropped : Nat) {fraction exponent : Bytes}
    (isFraction : IsFraction fraction) (isExponent : IsExponent exponent) :
    Ends (afterWhole negative m dropped) (fraction ++ exponent) := by
  cases isFraction with
  | point isDigits =>
    obtain ⟨found, same⟩ := ends_fraction negative m dropped isDigits isExponent
    refine ⟨found, fun rest stops => ?_⟩
    rw [List.cons_append, List.cons_append, afterWhole, if_pos rfl]
    exact same rest stops
  | none =>
    cases isExponent with
    | @mark mark sign more isMark isSign moreDigits =>
      obtain ⟨found, same⟩ := ends_exponent negative m dropped isSign moreDigits
      refine ⟨found, fun rest stops => ?_⟩
      have noPoint : mark ≠ '.'.toUInt8 := by
        rcases isMark with rfl | rfl <;> decide
      rw [List.nil_append, List.cons_append, afterWhole, if_neg noPoint,
        if_pos ((isExponentMark_iff mark).mpr isMark)]
      exact same rest stops
    | none =>
      obtain ⟨found, same⟩ := ends_scaled negative m dropped
      by_cases all : dropped = 0
      · subst all
        exact ⟨.ok (whole negative m), fun rest stops => afterWhole_stops negative m stops⟩
      · refine ⟨found, fun rest stops => ?_⟩
        cases rest with
        | nil => simp [afterWhole, all, same []]
        | cons mark rest =>
          obtain ⟨-, noPoint, noExponent⟩ := stops mark rfl
          simp [afterWhole, noPoint, noExponent, all, same (mark :: rest)]

theorem ends_unsigned (negative : Bool) {token : Bytes} (unsigned : IsUnsigned token) :
    Ends (takeNumber negative) token := by
  cases unsigned with
  | @parts whole fraction exponent isWhole isFraction isExponent =>
    have behind : ∀ rest, Stops rest → NoDigit (fraction ++ (exponent ++ rest)) :=
      fun rest stops => noDigit_fraction isFraction (noDigit_exponent isExponent stops)
    rcases isWhole with rfl | ⟨isDigits, notZero⟩
    · obtain ⟨found, same⟩ := ends_afterWhole negative 0 0 isFraction isExponent
      refine ⟨found, fun rest stops => ?_⟩
      have taken := same rest stops
      rw [List.append_assoc] at taken
      rw [List.append_assoc, List.append_assoc, List.singleton_append, takeNumber, if_pos rfl,
        (behind rest stops).head]
      exact taken
    · obtain ⟨digit, more, rfl, isFirst⟩ := isDigits.first
      have isOther : digit ≠ '0'.toUInt8 := fun same => notZero (congrArg some same)
      obtain ⟨found, same⟩ := ends_afterWhole negative (absorb 0 (digit :: more)).1
        (absorb 0 (digit :: more)).2.length isFraction isExponent
      refine ⟨found, fun rest stops => ?_⟩
      obtain ⟨taken, dropped⟩ := takeWhile_isDigit
        (fun other member => isDigits.2 other (List.mem_cons_of_mem digit member))
        (behind rest stops)
      have read := same rest stops
      rw [List.append_assoc] at read
      rw [List.append_assoc, List.append_assoc, List.cons_append, takeNumber, if_neg isOther,
        if_pos isFirst]
      simp only [taken, dropped]
      exact read

theorem skipDigits_isDigits {digits rest : Bytes} (isDigits : IsDigits digits)
    (ends : NoDigit rest) : skipDigits (digits ++ rest) = .ok rest := by
  obtain ⟨digit, more, rfl, isFirst⟩ := isDigits.first
  have dropped := (takeWhile_isDigit
    (fun other member => isDigits.2 other (List.mem_cons_of_mem digit member)) ends).2
  rw [List.cons_append, skipDigits, if_pos isFirst, dropped]

theorem skipExponent_digits {sign digits rest : Bytes}
    (isSign : sign = [] ∨ sign = ['+'.toUInt8] ∨ sign = ['-'.toUInt8])
    (isDigits : IsDigits digits) (stops : Stops rest) :
    skipExponent (sign ++ digits ++ rest) = .ok rest := by
  have skipped := skipDigits_isDigits isDigits (noDigit_of_stops stops)
  rcases isSign with rfl | rfl | rfl
  · obtain ⟨digit, more, rfl, isFirst⟩ := isDigits.first
    have noSign : ¬ (digit = '+'.toUInt8 ∨ digit = '-'.toUInt8) := by
      rintro (rfl | rfl) <;> exact absurd isFirst (by decide)
    rw [List.nil_append, List.cons_append, skipExponent, if_neg noSign]
    exact skipped
  · exact skipped
  · exact skipped

theorem skipOptionalExponent_isExponent {exponent rest : Bytes} (isExponent : IsExponent exponent)
    (stops : Stops rest) : skipOptionalExponent (exponent ++ rest) = .ok rest := by
  cases isExponent with
  | none =>
    cases rest with
    | nil => rfl
    | cons mark rest =>
      rw [List.nil_append, skipOptionalExponent, (stops mark rfl).2.2]
      rfl
  | @mark mark sign digits isMark isSign isDigits =>
    rw [List.cons_append, skipOptionalExponent, if_pos ((isExponentMark_iff mark).mpr isMark)]
    exact skipExponent_digits isSign isDigits stops

theorem skipAfterWhole_parts {fraction exponent rest : Bytes} (isFraction : IsFraction fraction)
    (isExponent : IsExponent exponent) (stops : Stops rest) :
    skipAfterWhole (fraction ++ (exponent ++ rest)) = .ok rest := by
  have skipped := skipOptionalExponent_isExponent isExponent stops
  cases isFraction with
  | point isDigits =>
    rw [List.cons_append, skipAfterWhole, if_pos rfl,
      skipDigits_isDigits isDigits (noDigit_exponent isExponent stops)]
    exact skipped
  | none =>
    rw [List.nil_append]
    cases begins : exponent ++ rest with
    | nil =>
      rw [begins] at skipped
      exact skipped
    | cons mark more =>
      have noPoint : mark ≠ '.'.toUInt8 := by
        cases isExponent with
        | none =>
          rw [List.nil_append] at begins
          subst begins
          exact (stops mark rfl).2.1
        | mark isMark _ _ =>
          rw [List.cons_append] at begins
          obtain ⟨rfl, -⟩ := List.cons.inj begins
          rcases isMark with rfl | rfl <;> decide
      rw [begins] at skipped
      rw [skipAfterWhole, if_neg noPoint]
      exact skipped

theorem skipNumber_unsigned {token rest : Bytes} (unsigned : IsUnsigned token)
    (stops : Stops rest) : skipNumber (token ++ rest) = .ok rest := by
  cases unsigned with
  | @parts whole fraction exponent isWhole isFraction isExponent =>
    have skipped := skipAfterWhole_parts isFraction isExponent stops
    have behind : NoDigit (fraction ++ (exponent ++ rest)) :=
      noDigit_fraction isFraction (noDigit_exponent isExponent stops)
    rw [List.append_assoc, List.append_assoc]
    rcases isWhole with rfl | ⟨isDigits, notZero⟩
    · rw [List.singleton_append, skipNumber, if_pos rfl, behind.head]
      exact skipped
    · obtain ⟨digit, more, rfl, isFirst⟩ := isDigits.first
      have isOther : digit ≠ '0'.toUInt8 := fun same => notZero (congrArg some same)
      have dropped := (takeWhile_isDigit
        (fun other member => isDigits.2 other (List.mem_cons_of_mem digit member)) behind).2
      rw [List.cons_append, skipNumber, if_neg isOther, if_pos isFirst, dropped]
      exact skipped

end Numbers

end KeyCustody.Json
