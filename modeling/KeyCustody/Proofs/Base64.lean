import KeyCustody.Base64
import KeyCustody.Proofs.Traversal

/-!
Base64 is canonical: a text is read as some octets exactly when it is the written form of them.
Both sides are compared with the six-bit groups between text and octets.
-/
namespace KeyCustody.Base64

section Symbols

theorem sextet_iff (s : UInt8) (v : Nat) : sextet? s = some v ↔ v < 64 ∧ s = symbol v := by
  constructor
  · intro found
    have octet := s.toNat_lt
    have back : ∀ n, n = s.toNat → UInt8.ofNat n = s := by
      rintro n rfl
      exact UInt8.ofNat_toNat
    simp only [sextet?] at found
    unfold symbol
    split at found
    · cases found
      exact ⟨by omega, by rw [if_pos (by omega), back _ (by omega)]⟩
    · split at found
      · cases found
        refine ⟨by omega, ?_⟩
        rw [if_neg (by omega), if_pos (by omega), back _ (by omega)]
      · split at found
        · cases found
          refine ⟨by omega, ?_⟩
          rw [if_neg (by omega), if_neg (by omega), if_pos (by omega), back _ (by omega)]
        · split at found
          · next plus =>
            cases found
            exact ⟨by decide, UInt8.toNat_inj.mp plus⟩
          · split at found
            · next slash =>
              cases found
              exact ⟨by decide, UInt8.toNat_inj.mp slash⟩
            · cases found
  · rintro ⟨small, rfl⟩
    exact sextet?_symbol v small

theorem symbol_ne_padding (v : Nat) (small : v < 64) : symbol v ≠ padding := by
  revert v
  decide

theorem sextets_cons_iff (offset : Nat) (s : UInt8) (rest : Bytes) (values : List Nat) :
    sextets offset (s :: rest) = .ok values ↔
      ∃ v vs, sextet? s = some v ∧ sextets (offset + 1) rest = .ok vs ∧ values = v :: vs := by
  rw [sextets]
  cases sextet? s with
  | none => simp
  | some v =>
    simp only [bind_ok_iff, Option.some.injEq, Except.ok.injEq, exists_and_left, exists_eq_left']
    exact exists_congr fun vs => and_congr_right fun _ => eq_comm

theorem sextets_iff (offset : Nat) (text : Bytes) (values : List Nat) :
    sextets offset text = .ok values ↔ text = values.map symbol ∧ ∀ v ∈ values, v < 64 := by
  induction text generalizing offset values with
  | nil => cases values <;> simp [sextets]
  | cons s rest ih =>
    simp only [sextets_cons_iff, ih, sextet_iff]
    constructor
    · rintro ⟨v, vs, ⟨small, rfl⟩, ⟨rfl, all⟩, rfl⟩
      exact ⟨rfl, by simpa using ⟨small, all⟩⟩
    · rintro ⟨written, all⟩
      obtain ⟨v, vs, rfl, rfl, rfl⟩ := List.map_eq_cons_iff.mp written.symm
      have bounds := List.forall_mem_cons.mp all
      exact ⟨v, vs, ⟨bounds.1, rfl⟩, ⟨rfl, bounds.2⟩, rfl⟩

theorem lastGroup_padding_iff (start index : Nat) (rest : Bytes) (values : List Nat) (pads : Nat) :
    lastGroup start index (padding :: rest) = .ok (values, pads) ↔
      2 ≤ index ∧ values = [] ∧ pads = rest.length + 1 ∧
        rest = List.replicate rest.length padding := by
  rw [lastGroup, if_pos rfl]
  by_cases early : index < 2
  · rw [if_pos early]
    constructor
    · intro done
      cases done
    · rintro ⟨late, -⟩
      omega
  · rw [if_neg early]
    by_cases all : rest.all (· == padding) = true
    · rw [if_pos all]
      have run : rest = List.replicate rest.length padding :=
        List.eq_replicate_of_mem (by simpa using all)
      constructor
      · intro done
        cases done
        exact ⟨by omega, rfl, rfl, run⟩
      · rintro ⟨-, rfl, rfl, -⟩
        rfl
    · rw [if_neg all]
      constructor
      · intro done
        cases done
      · rintro ⟨-, -, -, run⟩
        rw [run] at all
        simp at all

theorem lastGroup_cons_iff (start index : Nat) (s : UInt8) (rest : Bytes) (values : List Nat)
    (pads : Nat) (other : s ≠ padding) :
    lastGroup start index (s :: rest) = .ok (values, pads) ↔
      ∃ v vs, sextet? s = some v ∧ lastGroup start (index + 1) rest = .ok (vs, pads) ∧
        values = v :: vs := by
  rw [lastGroup, if_neg other]
  cases sextet? s with
  | none => simp
  | some v =>
    simp only [bind_ok_iff, Option.some.injEq, exists_and_left, exists_eq_left']
    constructor
    · rintro ⟨⟨vs, count⟩, later, done⟩
      cases done
      exact ⟨vs, later, rfl⟩
    · rintro ⟨vs, later, rfl⟩
      exact ⟨(vs, pads), later, rfl⟩

/-- The last group is symbols and then padding, which no group has before its third place. -/
theorem lastGroup_iff (start index : Nat) (text : Bytes) (values : List Nat) (pads : Nat) :
    lastGroup start index text = .ok (values, pads) ↔
      text = values.map symbol ++ List.replicate pads padding ∧ (∀ v ∈ values, v < 64) ∧
        (pads = 0 ∨ 2 ≤ index + values.length) := by
  induction text generalizing index values pads with
  | nil =>
    cases values with
    | nil => cases pads <;> simp [lastGroup, List.replicate_succ]
    | cons v values => simp [lastGroup]
  | cons s rest ih =>
    by_cases pad : s = padding
    · subst s
      rw [lastGroup_padding_iff]
      constructor
      · rintro ⟨late, rfl, rfl, run⟩
        exact ⟨by rw [List.replicate_succ, ← run]; rfl, by simp, Or.inr late⟩
      · rintro ⟨written, small, place⟩
        cases values with
        | cons v values =>
          have head := (List.cons.inj written).1
          exact absurd head.symm (symbol_ne_padding v (small v (by simp)))
        | nil =>
          cases pads with
          | zero => cases written
          | succ pads =>
            rw [List.map_nil, List.nil_append, List.replicate_succ] at written
            obtain ⟨-, rfl⟩ := List.cons.inj written
            have late : 2 ≤ index := by
              rcases place with none | late
              · omega
              · simpa using late
            exact ⟨late, rfl, by simp, by simp⟩
    · simp only [lastGroup_cons_iff start index s rest values pads pad, ih, sextet_iff]
      constructor
      · rintro ⟨v, vs, ⟨small, rfl⟩, ⟨rfl, all, place⟩, rfl⟩
        refine ⟨rfl, by simpa using ⟨small, all⟩, ?_⟩
        rw [List.length_cons]
        omega
      · rintro ⟨written, all, place⟩
        cases values with
        | nil =>
          cases pads with
          | zero => cases written
          | succ pads =>
            rw [List.map_nil, List.nil_append, List.replicate_succ] at written
            exact absurd (List.cons.inj written).1 pad
        | cons v vs =>
          obtain ⟨rfl, rfl⟩ := List.cons.inj written
          have bounds := List.forall_mem_cons.mp all
          refine ⟨v, vs, ⟨bounds.1, rfl⟩, ⟨rfl, bounds.2, ?_⟩, rfl⟩
          rw [List.length_cons] at place
          omega

end Symbols

section Groups

/-- The text of six-bit groups, four at a time. The last group may be short; the bits of it that
reach no octet are zero. -/
inductive Written : List Nat → Bytes → Prop where
  | none : Written [] []
  | four {a b c d : Nat} {values : List Nat} {text : Bytes}
      (small : a < 64 ∧ b < 64 ∧ c < 64 ∧ d < 64) (rest : Written values text) :
      Written (a :: b :: c :: d :: values) (symbol a :: symbol b :: symbol c :: symbol d :: text)
  | three {a b c : Nat} (small : a < 64 ∧ b < 64 ∧ c < 64) (clean : c % 4 = 0) :
      Written [a, b, c] [symbol a, symbol b, symbol c, padding]
  | two {a b : Nat} (small : a < 64 ∧ b < 64) (clean : b % 16 = 0) :
      Written [a, b] [symbol a, symbol b, padding, padding]

theorem toNat_ofNat_small (n : Nat) (small : n < 256) : (UInt8.ofNat n).toNat = n :=
  UInt8.toNat_ofNat_of_lt' small

theorem encode_three (n : Nat) (small : n < 0x1000000) (rest : Bytes) :
    encode (UInt8.ofNat (n / 0x10000) :: UInt8.ofNat (n / 0x100 % 0x100) :: UInt8.ofNat (n % 0x100) ::
        rest) =
      symbol (n / 0x40000) :: symbol (n / 0x1000 % 0x40) :: symbol (n / 0x40 % 0x40) ::
        symbol (n % 0x40) :: encode rest := by
  have whole : n / 0x10000 * 0x10000 + n / 0x100 % 0x100 * 0x100 + n % 0x100 = n := by omega
  rw [encode, toNat_ofNat_small _ (by omega), toNat_ofNat_small _ (by omega),
    toNat_ofNat_small _ (by omega), whole]

theorem encode_two (n : Nat) (small : n < 0x10000) :
    encode [UInt8.ofNat (n / 0x100), UInt8.ofNat (n % 0x100)] =
      [symbol (n * 4 / 0x1000), symbol (n * 4 / 0x40 % 0x40), symbol (n * 4 % 0x40), padding] := by
  have whole : n / 0x100 * 0x400 + n % 0x100 * 0x4 = n * 4 := by omega
  rw [encode, toNat_ofNat_small _ (by omega), toNat_ofNat_small _ (by omega), whole]

theorem encode_octets {values : List Nat} {text : Bytes} (written : Written values text) :
    encode (octets values) = text := by
  induction written with
  | none => rfl
  | @four a b c d values text small _ ih =>
    obtain ⟨ha, hb, hc, hd⟩ := small
    have first : (a * 0x40000 + b * 0x1000 + c * 0x40 + d) / 0x40000 = a := by omega
    have second : (a * 0x40000 + b * 0x1000 + c * 0x40 + d) / 0x1000 % 0x40 = b := by omega
    have third : (a * 0x40000 + b * 0x1000 + c * 0x40 + d) / 0x40 % 0x40 = c := by omega
    have fourth : (a * 0x40000 + b * 0x1000 + c * 0x40 + d) % 0x40 = d := by omega
    rw [octets, encode_three _ (by omega), ih, first, second, third, fourth]
  | @three a b c small clean =>
    obtain ⟨ha, hb, hc⟩ := small
    have first : (a * 0x400 + b * 0x10 + c / 0x4) * 4 / 0x1000 = a := by omega
    have second : (a * 0x400 + b * 0x10 + c / 0x4) * 4 / 0x40 % 0x40 = b := by omega
    have third : (a * 0x400 + b * 0x10 + c / 0x4) * 4 % 0x40 = c := by omega
    rw [octets, encode_two _ (by omega), first, second, third]
  | @two a b small clean =>
    obtain ⟨ha, hb⟩ := small
    have first : (a * 0x4 + b / 0x10) * 0x10 / 0x40 = a := by omega
    have second : (a * 0x4 + b / 0x10) * 0x10 % 0x40 = b := by omega
    rw [octets, encode, toNat_ofNat_small _ (by omega), first, second]

theorem ofNat_of_toNat (octet : UInt8) (n : Nat) (same : n = octet.toNat) : UInt8.ofNat n = octet := by
  rw [same, UInt8.ofNat_toNat]

theorem exists_written (bytes : Bytes) :
    ∃ values, Written values (encode bytes) ∧ octets values = bytes := by
  fun_induction encode bytes with
  | case1 a b c rest n ih =>
    obtain ⟨values, written, back⟩ := ih
    have ha := a.toNat_lt
    have hb := b.toNat_lt
    have hc := c.toNat_lt
    have sum : n / 0x40000 * 0x40000 + n / 0x1000 % 0x40 * 0x1000 + n / 0x40 % 0x40 * 0x40 +
        n % 0x40 = n := by omega
    refine ⟨_, .four ⟨by omega, by omega, by omega, by omega⟩ written, ?_⟩
    rw [octets, sum, back, ofNat_of_toNat a _ (by omega), ofNat_of_toNat b _ (by omega),
      ofNat_of_toNat c _ (by omega)]
  | case2 a b n =>
    have ha := a.toNat_lt
    have hb := b.toNat_lt
    refine ⟨_, .three ⟨by omega, by omega, by omega⟩ (by omega), ?_⟩
    rw [octets, ofNat_of_toNat a _ (by omega), ofNat_of_toNat b _ (by omega)]
  | case3 a n =>
    have ha := a.toNat_lt
    refine ⟨_, .two ⟨by omega, by omega⟩ (by omega), ?_⟩
    rw [octets, ofNat_of_toNat a _ (by omega)]
  | case4 => exact ⟨[], .none, rfl⟩

end Groups

section Decoding

structure Cut (text : Bytes) (whole last : List Nat) (pads : Nat) : Prop where
  text_eq : text = whole.map symbol ++ (last.map symbol ++ List.replicate pads padding)
  groups : whole.length % 4 = 0
  lastLength : 2 ≤ last.length ∧ last.length + pads = 4
  wholeSmall : ∀ v ∈ whole, v < 64
  lastSmall : ∀ v ∈ last, v < 64
  clean : hasSpareBits last = false

theorem written_last {last : List Nat} {pads : Nat} (small : ∀ v ∈ last, v < 64)
    (length : 2 ≤ last.length ∧ last.length + pads = 4) (clean : hasSpareBits last = false) :
    Written last (last.map symbol ++ List.replicate pads padding) := by
  match last, small, length, clean with
  | [], _, length, _ => simp at length
  | [_], _, length, _ => simp at length
  | [a, b], small, length, clean =>
    have two : pads = 2 := Nat.add_left_cancel length.2
    subst two
    exact .two (by simpa using small) (by simpa [hasSpareBits] using clean)
  | [a, b, c], small, length, clean =>
    have one : pads = 1 := Nat.add_left_cancel length.2
    subst one
    exact .three (by simpa using small) (by simpa [hasSpareBits] using clean)
  | [a, b, c, d], small, length, _ =>
    have zero : pads = 0 := by simpa using length
    subst zero
    exact .four (by simpa using small) .none
  | _ :: _ :: _ :: _ :: _ :: _, _, length, _ =>
    simp only [List.length_cons] at length
    omega

theorem written_of_cut {text : Bytes} {whole last : List Nat} {pads : Nat}
    (cut : Cut text whole last pads) : Written (whole ++ last) text := by
  obtain ⟨rfl, groups, lastLength, wholeSmall, lastSmall, clean⟩ := cut
  have ending := written_last lastSmall lastLength clean
  -- The whole groups are peeled off four at a time.
  obtain ⟨count, fours⟩ := Nat.dvd_of_mod_eq_zero groups
  clear groups
  induction count generalizing whole with
  | zero =>
    have none : whole = [] := List.length_eq_zero_iff.mp fours
    subst none
    exact ending
  | succ count ih =>
    match whole, fours, wholeSmall with
    | a :: b :: c :: d :: rest, fours, wholeSmall =>
      simp only [List.length_cons] at fours
      have small : a < 64 ∧ b < 64 ∧ c < 64 ∧ d < 64 :=
        ⟨wholeSmall a (by simp), wholeSmall b (by simp), wholeSmall c (by simp),
          wholeSmall d (by simp)⟩
      have later := @ih rest (fun v member => wholeSmall v (by simp [member])) (by omega)
      exact .four small later
    | [], fours, _ | [_], fours, _ | [_, _], fours, _ | [_, _, _], fours, _ =>
      simp only [List.length_cons, List.length_nil] at fours
      omega

theorem cut_of_written {values : List Nat} {text : Bytes} (written : Written values text) :
    (values = [] ∧ text = []) ∨
      ∃ whole last pads, values = whole ++ last ∧ Cut text whole last pads := by
  induction written with
  | none => exact Or.inl ⟨rfl, rfl⟩
  | @four a b c d values text small _ ih =>
    have bounds : ∀ v ∈ [a, b, c, d], v < 64 := by simpa using small
    rcases ih with ⟨rfl, rfl⟩ | ⟨whole, last, pads, rfl, cut⟩
    · exact Or.inr ⟨[], [a, b, c, d], 0, rfl, rfl, rfl, by simp, by simp, bounds, rfl⟩
    · refine Or.inr ⟨a :: b :: c :: d :: whole, last, pads, rfl, ?_, ?_, cut.lastLength, ?_,
        cut.lastSmall, cut.clean⟩
      · rw [cut.text_eq]
        rfl
      · have groups := cut.groups
        simp only [List.length_cons]
        omega
      · intro v member
        rcases List.mem_append.mp (show v ∈ [a, b, c, d] ++ whole from member) with first | later
        · exact bounds v first
        · exact cut.wholeSmall v later
  | @three a b c small clean =>
    exact Or.inr ⟨[], [a, b, c], 1, rfl, rfl, rfl, by simp, by simp, by simpa using small,
      by simpa [hasSpareBits] using clean⟩
  | @two a b small clean =>
    exact Or.inr ⟨[], [a, b], 2, rfl, rfl, rfl, by simp, by simp, by simpa using small,
      by simpa [hasSpareBits] using clean⟩

theorem decode_of_cut {text : Bytes} {whole last : List Nat} {pads : Nat}
    (cut : Cut text whole last pads) : decode text = .ok (octets (whole ++ last)) := by
  obtain ⟨rfl, groups, lastLength, wholeSmall, lastSmall, clean⟩ := cut
  have length : (whole.map symbol ++ (last.map symbol ++ List.replicate pads padding)).length =
      whole.length + 4 := by
    simp only [List.length_append, List.length_map, List.length_replicate]
    omega
  have start : 4 * ((whole.length + 4 - 1) / 4) = (whole.map symbol).length := by
    rw [List.length_map]
    omega
  have wholeRead := (sextets_iff 0 (whole.map symbol) whole).mpr ⟨rfl, wholeSmall⟩
  have lastRead := (lastGroup_iff (whole.map symbol).length 0
    (last.map symbol ++ List.replicate pads padding) last pads).mpr
      ⟨rfl, lastSmall, Or.inr (by omega)⟩
  have noStray : stray? (whole.map symbol ++ (last.map symbol ++ List.replicate pads padding)) =
      none := by
    unfold stray?
    rw [length, if_neg (by omega)]
  unfold decode
  simp only [noStray, length, start, List.take_left, List.drop_left, wholeRead, lastRead, ok_bind,
    clean]
  rw [if_neg (by omega), if_neg (by omega)]
  rfl

theorem cut_of_decode {text bytes : Bytes} (read : decode text = .ok bytes) (some : text ≠ []) :
    ∃ whole last pads, Cut text whole last pads ∧ bytes = octets (whole ++ last) := by
  unfold decode at read
  split at read
  · cases read
  · simp only [bind_ok_iff] at read
    obtain ⟨whole, wholeRead, ⟨last, pads⟩, lastRead, done⟩ := read
    dsimp only at done
    obtain ⟨front, wholeSmall⟩ := (sextets_iff _ _ _).mp wholeRead
    obtain ⟨back, lastSmall, -⟩ := (lastGroup_iff _ _ _ _ _).mp lastRead
    have frontLength := congrArg List.length front
    have backLength := congrArg List.length back
    simp only [List.length_take, List.length_drop, List.length_map, List.length_append,
      List.length_replicate] at frontLength backLength
    have positive : 0 < text.length := List.length_pos_iff.mpr some
    split at done
    · cases done
    · next enough =>
      split at done
      · cases done
      · next padded =>
        split at done
        · cases done
        · next clean =>
          cases done
          have two : 2 ≤ last.length := by
            by_contra few
            exact enough ⟨by omega, some⟩
          refine ⟨whole, last, pads, ⟨?_, by omega, ⟨two, by omega⟩, wholeSmall, lastSmall,
            by simpa using clean⟩, rfl⟩
          rw [← front, ← back, List.take_append_drop]

theorem decode_iff_written (text bytes : Bytes) :
    decode text = .ok bytes ↔ ∃ values, Written values text ∧ octets values = bytes := by
  by_cases none : text = []
  · subst none
    have empty : decode [] = .ok [] := rfl
    rw [empty]
    constructor
    · intro same
      cases same
      exact ⟨[], .none, rfl⟩
    · rintro ⟨values, written, rfl⟩
      cases written
      rfl
  · constructor
    · intro read
      obtain ⟨whole, last, pads, cut, rfl⟩ := cut_of_decode read none
      exact ⟨whole ++ last, written_of_cut cut, rfl⟩
    · rintro ⟨values, written, rfl⟩
      rcases cut_of_written written with ⟨-, empty⟩ | ⟨whole, last, pads, rfl, cut⟩
      · exact absurd empty none
      · exact decode_of_cut cut

/-- Every octet string has one text, and that is the only text read as it. -/
theorem decode_iff_encode (text bytes : Bytes) : decode text = .ok bytes ↔ text = encode bytes := by
  rw [decode_iff_written]
  constructor
  · rintro ⟨values, written, rfl⟩
    exact (encode_octets written).symm
  · rintro rfl
    exact exists_written bytes

end Decoding

end KeyCustody.Base64
