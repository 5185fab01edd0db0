import KeyCustody.Json.Layout
import KeyCustody.Json.Reader
import KeyCustody.Proofs.Traversal

namespace KeyCustody

section Octets

def Text.octets (cs : List Char) : Bytes :=
  cs.flatMap String.utf8EncodeChar

namespace Text

@[simp] theorem octets_nil : octets [] = [] := rfl

@[simp] theorem octets_append (cs ds : List Char) : octets (cs ++ ds) = octets cs ++ octets ds :=
  List.flatMap_append

theorem octets_cons (c : Char) (cs : List Char) :
    octets (c :: cs) = String.utf8EncodeChar c ++ octets cs :=
  List.flatMap_cons

theorem encode_ofList (cs : List Char) : encode (String.ofList cs) = octets cs := by
  rw [encode, String.toByteArray_ofList]
  simp [List.utf8Encode, octets]

theorem octets_toList (s : String) : octets s.toList = encode s := by
  rw [← encode_ofList, String.ofList_toList]

theorem utf8EncodeChar_ascii {c : Char} (ascii : c.toNat < 0x80) :
    String.utf8EncodeChar c = [c.toUInt8] := by
  apply String.utf8EncodeChar_eq_singleton
  rw [Char.utf8Size_eq_one_iff, UInt32.le_iff_toNat_le]
  exact Nat.le_of_lt_succ ascii

theorem octets_ascii {c : Char} (ascii : c.toNat < 0x80) (cs : List Char) :
    octets (c :: cs) = c.toUInt8 :: octets cs := by
  rw [octets_cons, utf8EncodeChar_ascii ascii, List.singleton_append]

theorem octets_singleton {c : Char} (ascii : c.toNat < 0x80) : octets [c] = [c.toUInt8] := by
  rw [octets_ascii ascii, octets_nil]

theorem toNat_toUInt8 {c : Char} (ascii : c.toNat < 0x80) : c.toUInt8.toNat = c.toNat := by
  change c.toNat % 256 = c.toNat
  omega

/-- Every octet of a character beyond ASCII is beyond ASCII. -/
theorem le_of_mem_utf8EncodeChar {c : Char} (far : 0x80 ≤ c.toNat) :
    ∀ octet ∈ String.utf8EncodeChar c, 0x80 ≤ octet.toNat := by
  intro octet member
  change 0x80 ≤ c.val.toNat at far
  rw [String.utf8EncodeChar.eq_def] at member
  simp only at member
  split at member
  · omega
  · split at member
    · simp only [List.mem_cons, List.not_mem_nil, or_false] at member
      rcases member with rfl | rfl <;> rw [UInt8.toNat_ofNat'] <;> omega
    · split at member
      · simp only [List.mem_cons, List.not_mem_nil, or_false] at member
        rcases member with rfl | rfl | rfl <;> rw [UInt8.toNat_ofNat'] <;> omega
      · simp only [List.mem_cons, List.not_mem_nil, or_false] at member
        rcases member with rfl | rfl | rfl | rfl <;> rw [UInt8.toNat_ofNat'] <;> omega

end Text

end Octets

namespace Json

open Text

section Strings

def IsPlain (octet : UInt8) : Prop :=
  octet ≠ '"'.toUInt8 ∧ octet ≠ '\\'.toUInt8 ∧ ¬ octet < 0x20

theorem takeStringFrom_plain {plain : Bytes} (all : ∀ octet ∈ plain, IsPlain octet)
    (done rest : Bytes) :
    takeStringFrom .plain done (plain ++ rest) =
      takeStringFrom .plain (plain.reverse ++ done) rest := by
  induction plain generalizing done with
  | nil => rfl
  | cons octet plain ih =>
    obtain ⟨notQuote, notBackslash, notControl⟩ := all octet List.mem_cons_self
    rw [List.cons_append, takeStringFrom, if_neg notQuote, if_neg notBackslash, if_neg notControl,
      ih (fun other member => all other (List.mem_cons_of_mem octet member)), List.reverse_cons,
      List.append_assoc, List.singleton_append]

theorem isPlain_of_unescaped {c : Char} (notQuote : c ≠ '"') (notBackslash : c ≠ '\\')
    (notControl : ¬ c.toNat < 0x20) : ∀ octet ∈ String.utf8EncodeChar c, IsPlain octet := by
  intro octet member
  by_cases ascii : c.toNat < 0x80
  · rw [utf8EncodeChar_ascii ascii, List.mem_singleton] at member
    subst member
    have same := toNat_toUInt8 ascii
    refine ⟨?_, ?_, ?_⟩
    · intro quote
      rw [quote] at same
      exact notQuote (Char.toNat_inj.mp same.symm)
    · intro backslash
      rw [backslash] at same
      exact notBackslash (Char.toNat_inj.mp same.symm)
    · rw [UInt8.lt_iff_toNat_lt, same]
      exact notControl
  · have far := le_of_mem_utf8EncodeChar (Nat.le_of_not_lt ascii) octet member
    refine ⟨?_, ?_, ?_⟩
    · rintro rfl
      exact absurd far (by decide)
    · rintro rfl
      exact absurd far (by decide)
    · rw [UInt8.lt_iff_toNat_lt]
      intro low
      have near : octet.toNat < 0x20 := low
      omega

theorem hexValue?_hexLetter : ∀ n < 16, hexValue? (hexLetter n).toUInt8 = some n := by
  decide

theorem hexLetter_ascii : ∀ n < 16, (hexLetter n).toNat < 0x80 := by
  decide

/-- A character is no surrogate. -/
theorem isSurrogate_toNat (c : Char) :
    isHighSurrogate c.toNat = false ∧ isLowSurrogate c.toNat = false := by
  have valid : c.toNat < 0xd800 ∨ 0xdfff < c.toNat ∧ c.toNat < 0x110000 := c.valid
  simp only [isHighSurrogate, isLowSurrogate, Bool.and_eq_false_iff, decide_eq_false_iff_not]
  omega

/-- Four digits for a control character. -/
theorem takeStringFrom_hex {c : Char} (control : c.toNat < 0x20) (done rest : Bytes) :
    takeStringFrom .plain done
        (octets ['\\', 'u', '0', '0', hexLetter (c.toNat / 16), hexLetter (c.toNat % 16)] ++ rest) =
      takeStringFrom .plain ((String.utf8EncodeChar c).reverse ++ done) rest := by
  have high : c.toNat / 16 < 16 := by omega
  have low : c.toNat % 16 < 16 := by omega
  have digits : ((0 * 16 + 0) * 16 + 0) * 16 + c.toNat / 16 = c.toNat / 16 := by omega
  have number : c.toNat / 16 * 16 + c.toNat % 16 = c.toNat := by omega
  have after : afterHex none c.toNat done =
      .ok (.plain, (String.utf8EncodeChar c).reverse ++ done) := by
    obtain ⟨notHigh, notLow⟩ := isSurrogate_toNat c
    simp [afterHex, notLow, notHigh, pushChar, Char.ofNat_toNat]
  have zero : hexValue? '0'.toUInt8 = some 0 := by decide
  rw [octets_ascii (by decide), octets_ascii (by decide), octets_ascii (by decide),
    octets_ascii (by decide), octets_ascii (hexLetter_ascii _ high),
    octets_ascii (hexLetter_ascii _ low), octets_nil]
  simp only [List.cons_append, List.nil_append]
  rw [takeStringFrom, if_neg (by decide), if_pos rfl, takeStringFrom, if_pos rfl]
  simp only [takeStringFrom, zero, hexValue?_hexLetter _ high, hexValue?_hexLetter _ low,
    Option.getD_some, Option.isSome_some, Bool.and_self, Nat.zero_add, Nat.zero_mul, number, after]
  rfl

theorem takeStringFrom_escapedChar (c : Char) (done rest : Bytes) :
    takeStringFrom .plain done (octets (escapedChar c) ++ rest) =
      takeStringFrom .plain ((String.utf8EncodeChar c).reverse ++ done) rest := by
  unfold escapedChar
  split
  · next quote => subst quote; rfl
  split
  · next backslash => subst backslash; rfl
  split
  · next backspace => subst backspace; rfl
  split
  · next feed => subst feed; rfl
  split
  · next newline => subst newline; rfl
  split
  · next return_ => subst return_; rfl
  split
  · next tab => subst tab; rfl
  split
  · next control => exact takeStringFrom_hex control done rest
  · next notQuote notBackslash _ _ _ _ _ notControl =>
    rw [octets_cons, octets_nil, List.append_nil]
    exact takeStringFrom_plain (isPlain_of_unescaped notQuote notBackslash notControl) done rest

theorem takeStringFrom_escaped (cs : List Char) (done rest : Bytes) :
    takeStringFrom .plain done (octets (cs.flatMap escapedChar) ++ rest) =
      takeStringFrom .plain ((octets cs).reverse ++ done) rest := by
  induction cs generalizing done with
  | nil => rfl
  | cons c cs ih =>
    rw [List.flatMap_cons, octets_append, List.append_assoc, takeStringFrom_escapedChar, ih,
      octets_cons, List.reverse_append, List.append_assoc]

/-- A string is read from behind its opening quote to its closing one. -/
theorem takeString_written (s : String) (rest : Bytes) :
    takeString (octets (s.toList.flatMap escapedChar ++ ['"']) ++ rest) = .ok (s, rest) := by
  rw [takeString, octets_append, octets_singleton (by decide), List.append_assoc, takeStringFrom_escaped,
    List.singleton_append, takeStringFrom, if_pos rfl, List.append_nil, List.reverse_reverse,
    octets_toList, decode?_encode]

theorem octets_stringText (s : String) :
    octets (stringText s) =
      '"'.toUInt8 :: octets (s.toList.flatMap escapedChar ++ ['"']) := by
  rw [stringText, List.cons_append, octets_ascii (by decide)]

end Strings

section Numbers

/-- What may stand behind a number without going on with it. -/
def Stops (rest : Bytes) : Prop :=
  ∀ mark ∈ rest.head?, isDigit mark = false ∧ mark ≠ '.'.toUInt8 ∧ isExponentMark mark = false

theorem stops_nil : Stops [] := by
  intro mark member
  cases member

theorem isDigit_of_char {c : Char} (digit : c.isDigit = true) :
    c.toNat < 0x80 ∧ isDigit c.toUInt8 = true ∧ digitValue c.toUInt8 = c.toNat - '0'.toNat := by
  rw [Char.isDigit_iff_toNat] at digit
  obtain ⟨low, high⟩ := digit
  have ascii : c.toNat < 0x80 := by
    have : '9'.toNat = 0x39 := rfl
    omega
  refine ⟨ascii, ?_, ?_⟩
  · simp only [isDigit, Bool.and_eq_true, decide_eq_true_eq, UInt8.le_iff_toNat_le,
      toNat_toUInt8 ascii]
    exact ⟨low, high⟩
  · rw [digitValue, toNat_toUInt8 ascii]
    rfl

theorem le_ofDigitChars (ds : List Char) (m : Nat) : m ≤ Nat.ofDigitChars 10 ds m := by
  induction ds generalizing m with
  | nil => exact Nat.le_refl m
  | cons d ds ih =>
    have step := ih (10 * m + (d.toNat - '0'.toNat))
    rw [Nat.ofDigitChars_cons]
    omega

theorem absorb_digits (ds : List Char) (digits : ∀ d ∈ ds, d.isDigit = true) (m : Nat)
    (fits : Nat.ofDigitChars 10 ds m < wordBound) :
    absorb m (octets ds) = (Nat.ofDigitChars 10 ds m, []) := by
  induction ds generalizing m with
  | nil => rfl
  | cons d ds ih =>
    obtain ⟨ascii, -, value⟩ := isDigit_of_char (digits d List.mem_cons_self)
    rw [Nat.ofDigitChars_cons] at fits ⊢
    have below := le_ofDigitChars ds (10 * m + (d.toNat - '0'.toNat))
    rw [octets_ascii ascii, absorb, value, if_neg (by omega)]
    exact ih (fun other member => digits other (List.mem_cons_of_mem d member)) _ fits

theorem isDigit_of_mem_octets {ds : List Char} (digits : ∀ d ∈ ds, d.isDigit = true) :
    ∀ octet ∈ octets ds, isDigit octet = true := by
  intro octet member
  obtain ⟨d, inside, part⟩ := List.mem_flatMap.mp member
  obtain ⟨ascii, digit, -⟩ := isDigit_of_char (digits d inside)
  rw [utf8EncodeChar_ascii ascii, List.mem_singleton] at part
  rw [part]
  exact digit

/-- Only zero is written with a zero in front. -/
theorem toDigits_eq_zero_cons {n : Nat} {ds : List Char} (same : Nat.toDigits 10 n = '0' :: ds) :
    ds = [] := by
  induction n using Nat.strongRecOn generalizing ds with
  | ind n ih =>
    by_cases small : n < 10
    · rw [Nat.toDigits_of_lt_base small] at same
      exact (List.cons.inj same).2.symm
    · have fewer : n / 10 < n := by omega
      rw [Nat.toDigits_of_base_le (by decide) (by omega)] at same
      cases front : Nat.toDigits 10 (n / 10) with
      | nil => exact absurd front Nat.toDigits_ne_nil
      | cons d more =>
        rw [front, List.cons_append] at same
        obtain ⟨rfl, -⟩ := List.cons.inj same
        have alone := ih (n / 10) fewer front
        have value := Nat.ofDigitChars_toDigits (b := 10) (n := n / 10) (by decide) (by decide)
        rw [front, alone] at value
        have zero : Nat.ofDigitChars 10 ['0'] 0 = 0 := by decide
        omega

def NoDigit (rest : Bytes) : Prop :=
  ∀ mark ∈ rest.head?, isDigit mark = false

theorem noDigit_of_stops {rest : Bytes} (stops : Stops rest) : NoDigit rest :=
  fun mark member => (stops mark member).1

theorem NoDigit.head {rest : Bytes} (no : NoDigit rest) : rest.head?.any isDigit = false := by
  cases rest with
  | nil => rfl
  | cons mark rest => exact no mark rfl

theorem takeWhile_isDigit {digits rest : Bytes} (all : ∀ digit ∈ digits, isDigit digit = true)
    (ends : NoDigit rest) :
    (digits ++ rest).takeWhile isDigit = digits ∧ (digits ++ rest).dropWhile isDigit = rest := by
  rw [List.takeWhile_append_of_pos all, List.dropWhile_append_of_pos all]
  cases rest with
  | nil => simp
  | cons mark rest => simp [ends mark rfl]

theorem takeWhile_digits {ds : List Char} (digits : ∀ d ∈ ds, d.isDigit = true) {rest : Bytes}
    (stops : Stops rest) :
    (octets ds ++ rest).takeWhile isDigit = octets ds ∧
      (octets ds ++ rest).dropWhile isDigit = rest :=
  takeWhile_isDigit (isDigit_of_mem_octets digits) (noDigit_of_stops stops)

theorem afterWhole_stops (negative : Bool) (m : Nat) {rest : Bytes} (stops : Stops rest) :
    afterWhole negative m 0 rest = .ok (whole negative m, rest) := by
  cases rest with
  | nil => rfl
  | cons mark rest =>
    obtain ⟨-, noPoint, noExponent⟩ := stops mark rfl
    rw [afterWhole, if_neg noPoint, noExponent]
    rfl

theorem takeNumber_written (negative : Bool) {n : Nat} (fits : n < wordBound) {rest : Bytes}
    (stops : Stops rest) :
    takeNumber negative (octets (Nat.toDigits 10 n) ++ rest) = .ok (whole negative n, rest) := by
  have digits : ∀ d ∈ Nat.toDigits 10 n, d.isDigit = true := fun d member =>
    Nat.isDigit_of_mem_toDigits (by decide) (by decide) member
  have value := Nat.ofDigitChars_toDigits (b := 10) (n := n) (by decide) (by decide)
  cases written : Nat.toDigits 10 n with
  | nil => exact absurd written Nat.toDigits_ne_nil
  | cons d ds =>
    rw [written] at digits value
    obtain ⟨ascii, digit, -⟩ := isDigit_of_char (digits d List.mem_cons_self)
    have others : ∀ other ∈ ds, other.isDigit = true := fun other member =>
      digits other (List.mem_cons_of_mem d member)
    rw [octets_ascii ascii, List.cons_append, takeNumber]
    by_cases zero : d.toUInt8 = '0'.toUInt8
    · have same : d = '0' := by
        have numbers := congrArg UInt8.toNat zero
        rw [toNat_toUInt8 ascii] at numbers
        exact Char.toNat_inj.mp numbers
      subst same
      have alone := toDigits_eq_zero_cons written
      subst alone
      have isZero : n = 0 := by
        rw [← value]
        decide
      subst isZero
      rw [if_pos rfl, octets_nil, List.nil_append, (noDigit_of_stops stops).head]
      exact afterWhole_stops negative 0 stops
    · obtain ⟨taken, dropped⟩ := takeWhile_digits others stops
      have absorbed := absorb_digits (d :: ds) digits 0 (by rw [value]; exact fits)
      rw [octets_ascii ascii, value] at absorbed
      rw [if_neg zero, if_pos digit, taken, dropped, absorbed]
      exact afterWhole_stops negative n stops

def Fits (n : Int) : Prop :=
  -(leastMagnitude : Int) ≤ n ∧ n < wordBound

theorem absorb_lt {m : Nat} (below : m < wordBound) (input : Bytes) :
    (absorb m input).1 < wordBound := by
  induction input generalizing m with
  | nil => exact below
  | cons digit rest ih =>
    rw [absorb]
    by_cases great : wordBound ≤ 10 * m + digitValue digit
    · rw [if_pos great]
      exact below
    · rw [if_neg great]
      exact ih (Nat.lt_of_not_le great)

theorem scaled_fraction {negative : Bool} {m : Nat} {e : Int} {input rest : Bytes} {k : Number}
    (read : scaled negative m e input = .ok (k, rest)) : ∃ x, k = .fraction x := by
  unfold scaled at read
  split at read
  · cases read
    exact ⟨_, rfl⟩
  · cases read

theorem takeExponent_fraction {negative : Bool} {m : Nat} {e : Int} {input rest : Bytes}
    {k : Number} (read : takeExponent negative m e input = .ok (k, rest)) :
    ∃ x, k = .fraction x := by
  unfold takeExponent at read
  simp only at read
  generalize (if (input.head? == some '-'.toUInt8 || input.head? == some '+'.toUInt8) = true then
    input.tail else input) = unsigned at read
  cases unsigned with
  | nil => cases read
  | cons first after =>
    simp only at read
    split at read
    · cases read
    split at read
    · split at read
      · cases read
      · cases read
        exact ⟨_, rfl⟩
    · exact scaled_fraction read

theorem takeFraction_fraction {negative : Bool} {m : Nat} {e : Int} {input rest : Bytes}
    {k : Number} (read : takeFraction negative m e input = .ok (k, rest)) :
    ∃ x, k = .fraction x := by
  unfold takeFraction at read
  simp only at read
  split at read
  · split at read <;> cases read
  split at read
  · exact scaled_fraction read
  split at read
  · exact takeExponent_fraction read
  · exact scaled_fraction read

/-- With a point, an exponent or dropped digits a number is a fraction. -/
theorem afterWhole_integer {negative : Bool} {m dropped : Nat} {input rest : Bytes} {n : Int}
    (read : afterWhole negative m dropped input = .ok (.integer n, rest)) :
    whole negative m = .integer n := by
  have noFraction : ¬ ∃ x, Number.integer n = .fraction x := by
    rintro ⟨x, same⟩
    cases same
  unfold afterWhole at read
  split at read
  · split at read
    · exact absurd (takeFraction_fraction read) noFraction
    split at read
    · exact absurd (takeExponent_fraction read) noFraction
    split at read
    · exact (Prod.mk.inj (Except.ok.inj read)).1
    · exact absurd (scaled_fraction read) noFraction
  · split at read
    · exact (Prod.mk.inj (Except.ok.inj read)).1
    · exact absurd (scaled_fraction read) noFraction

theorem fits_of_whole {negative : Bool} {m : Nat} {n : Int} (below : m < wordBound)
    (read : whole negative m = .integer n) : Fits n := by
  have order : leastMagnitude < wordBound := by decide
  unfold whole at read
  split at read
  · cases read
    constructor <;> omega
  split at read
  · cases read
  · next signed =>
    cases read
    rw [not_or] at signed
    constructor <;> omega

theorem fits_of_takeNumber {negative : Bool} {input rest : Bytes} {n : Int}
    (read : takeNumber negative input = .ok (.integer n, rest)) : Fits n := by
  have positive : 0 < wordBound := by decide
  cases input with
  | nil => cases read
  | cons first input =>
    rw [takeNumber] at read
    split at read
    · split at read
      · cases read
      · exact fits_of_whole positive (afterWhole_integer read)
    split at read
    · have below := absorb_lt positive (first :: input.takeWhile isDigit)
      exact fits_of_whole below (afterWhole_integer read)
    · cases read

end Numbers

section Marks

structure IsScalarMark (mark : UInt8) : Prop where
  notSpace : isSpace mark = false
  notClosing : mark ≠ ']'.toUInt8
  notList : mark ≠ '['.toUInt8
  notObject : mark ≠ '{'.toUInt8

theorem IsScalarMark.of_digit {mark : UInt8} (digit : isDigit mark = true) : IsScalarMark mark := by
  refine ⟨?_, ?_, ?_, ?_⟩
  · by_cases space : isSpace mark = true
    · simp only [isSpace, Bool.or_eq_true, beq_iff_eq] at space
      rcases space with ((rfl | rfl) | rfl) | rfl <;> exact absurd digit (by decide)
    · simpa using space
  all_goals
    rintro rfl
    exact absurd digit (by decide)

theorem ne_of_isDigit {digit mark : UInt8} (isFirst : isDigit digit = true)
    (no : isDigit mark = false) : digit ≠ mark := by
  rintro rfl
  rw [isFirst] at no
  cases no

theorem takeScalar_digit {mark : UInt8} (digit : isDigit mark = true) {input rest : Bytes}
    {k : Number} (read : takeNumber false (mark :: input) = .ok (k, rest)) :
    takeScalar mark input = .ok (.number k, rest) := by
  have other : ∀ letter : UInt8, isDigit letter = false → mark ≠ letter := fun _ =>
    ne_of_isDigit digit
  rw [takeScalar, if_neg (other _ (by decide)), if_neg (other _ (by decide)),
    if_neg (other _ (by decide)), if_neg (other _ (by decide)), if_pos digit, read]
  rfl

theorem takeScalar_minus {input rest : Bytes} {k : Number}
    (read : takeNumber true input = .ok (k, rest)) :
    takeScalar '-'.toUInt8 input = .ok (.number k, rest) := by
  rw [takeScalar, if_neg (by decide), if_neg (by decide), if_neg (by decide), if_pos rfl, read]
  rfl

theorem takeScalar_quote {input rest : Bytes} {s : String}
    (read : takeString input = .ok (s, rest)) :
    takeScalar '"'.toUInt8 input = .ok (.text s, rest) := by
  rw [takeScalar, if_neg (by decide), if_neg (by decide), if_neg (by decide), if_neg (by decide),
    if_neg (by decide), if_pos rfl, read]
  rfl

def SpellsScalar (cs : List Char) (found : Found) : Prop :=
  ∃ mark more, octets cs = mark :: more ∧ IsScalarMark mark ∧
    ∀ rest, Stops rest → takeScalar mark (more ++ rest) = .ok (found, rest)

theorem spells_of_mark {c : Char} {cs : List Char} {found : Found} (ascii : c.toNat < 0x80)
    (front : IsScalarMark c.toUInt8)
    (taken : ∀ rest, takeScalar c.toUInt8 (octets cs ++ rest) = .ok (found, rest)) :
    SpellsScalar (c :: cs) found :=
  ⟨_, _, octets_ascii ascii cs, front, fun rest _ => taken rest⟩

theorem spells_null : SpellsScalar ['n', 'u', 'l', 'l'] .null := by
  apply spells_of_mark (by decide)
  · constructor <;> decide
  · intro rest
    rfl

theorem spells_bool (b : Bool) : SpellsScalar (literalText b) (.bool b) := by
  cases b with
  | true =>
    apply spells_of_mark (by decide)
    · constructor <;> decide
    · intro rest
      rfl
  | false =>
    apply spells_of_mark (by decide)
    · constructor <;> decide
    · intro rest
      rfl

theorem spells_text (s : String) : SpellsScalar (stringText s) (.text s) := by
  apply spells_of_mark (by decide)
  · constructor <;> decide
  · intro rest
    exact takeScalar_quote (takeString_written s rest)

theorem spells_integer {n : Int} (fits : Fits n) :
    SpellsScalar (integerText n) (.number (.integer n)) := by
  obtain ⟨low, high⟩ := fits
  unfold integerText
  by_cases negative : n < 0
  · have order : leastMagnitude < wordBound := by decide
    have magnitude : whole true n.natAbs = .integer n := by
      have same : -(n.natAbs : Int) = n := by omega
      rw [whole, if_neg (by decide), if_neg (by omega), same]
    rw [if_pos negative]
    refine ⟨_, _, octets_ascii (by decide) _, ?_, ?_⟩
    · constructor <;> decide
    · intro rest stops
      rw [← magnitude]
      exact takeScalar_minus (takeNumber_written true (by omega) stops)
  · have magnitude : whole false n.natAbs = .integer n := by
      have same : (n.natAbs : Int) = n := by omega
      rw [whole, if_pos (by decide), same]
    rw [if_neg negative]
    have digits : ∀ d ∈ Nat.toDigits 10 n.natAbs, d.isDigit = true := fun d member =>
      Nat.isDigit_of_mem_toDigits (by decide) (by decide) member
    cases written : Nat.toDigits 10 n.natAbs with
    | nil => exact absurd written Nat.toDigits_ne_nil
    | cons d ds =>
      rw [written] at digits
      obtain ⟨ascii, digit, -⟩ := isDigit_of_char (digits d List.mem_cons_self)
      refine ⟨_, _, octets_ascii ascii ds, .of_digit digit, ?_⟩
      intro rest stops
      have number := takeNumber_written false (n := n.natAbs) (by omega) stops
      rw [written, octets_ascii ascii, List.cons_append, magnitude] at number
      exact takeScalar_digit digit number

inductive IsScalar : Found → Prop where
  | null : IsScalar .null
  | bool (b : Bool) : IsScalar (.bool b)
  | text (s : String) : IsScalar (.text s)
  | integer {n : Int} (fits : Fits n) : IsScalar (.number (.integer n))
  | fraction (x : Float) : IsScalar (.number (.fraction x))

theorem IsScalar.number {negative : Bool} {input rest : Bytes} {k : Number}
    (read : takeNumber negative input = .ok (k, rest)) : IsScalar (.number k) := by
  cases k with
  | integer n => exact .integer (fits_of_takeNumber read)
  | fraction x => exact .fraction x

theorem isScalar_of_takeScalar {mark : UInt8} {input rest : Bytes} {found : Found}
    (read : takeScalar mark input = .ok (found, rest)) : IsScalar found := by
  unfold takeScalar at read
  split at read
  · obtain ⟨_, -, same⟩ := (bind_ok_iff _ _ _).mp read
    cases same
    exact .null
  split at read
  · obtain ⟨_, -, same⟩ := (bind_ok_iff _ _ _).mp read
    cases same
    exact .bool true
  split at read
  · obtain ⟨_, -, same⟩ := (bind_ok_iff _ _ _).mp read
    cases same
    exact .bool false
  split at read
  · obtain ⟨_, number, same⟩ := (bind_ok_iff _ _ _).mp read
    cases same
    exact .number number
  split at read
  · obtain ⟨_, number, same⟩ := (bind_ok_iff _ _ _).mp read
    cases same
    exact .number number
  split at read
  · obtain ⟨_, -, same⟩ := (bind_ok_iff _ _ _).mp read
    cases same
    exact .text _
  · cases read

end Marks

end Json

end KeyCustody
