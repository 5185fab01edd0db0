import KeyCustody.Proofs.Json.Tokens

/-!
Skipping takes exactly one value. The induction is on the grammar; it carries how many steps a text
needs, which are never more than twice its octets.
-/
namespace KeyCustody.Json

section Beginnings

def Begins (text : Bytes) : Prop :=
  ∃ mark more, text = mark :: more ∧ isSpace mark = false ∧ mark ≠ ']'.toUInt8

theorem begins_unsigned {token : Bytes} (unsigned : IsUnsigned token) :
    ∃ mark more, token = mark :: more ∧ isDigit mark = true := by
  cases unsigned with
  | parts isWhole _ _ =>
    rcases isWhole with rfl | ⟨isDigits, -⟩
    · exact ⟨_, _, rfl, by decide⟩
    · obtain ⟨digit, more, rfl, isFirst⟩ := isDigits.first
      exact ⟨digit, _, rfl, isFirst⟩

/-- The first octet of a number is that of no other value. -/
theorem begins_number {token : Bytes} (isNumber : IsNumber token) :
    ∃ mark more, token = mark :: more ∧ (mark = '-'.toUInt8 ∨ isDigit mark = true) := by
  cases isNumber with
  | plain unsigned =>
    obtain ⟨mark, more, rfl, isFirst⟩ := begins_unsigned unsigned
    exact ⟨mark, more, rfl, .inr isFirst⟩
  | minus _ => exact ⟨_, _, rfl, .inl rfl⟩

theorem isScalarMark_number {mark : UInt8} (begins : mark = '-'.toUInt8 ∨ isDigit mark = true) :
    IsScalarMark mark := by
  rcases begins with rfl | digit
  · constructor <;> decide
  · exact .of_digit digit

end Beginnings

section Steps
variable {ε : Type}

/-- So many steps skip the text, whatever is open around it and whatever stands behind it. -/
def Skips (steps : Nat) (text : Bytes) : Prop :=
  ∀ extra frames gap rest, IsSpaces gap → Stops rest →
    skipFrom (extra + steps) .value frames (gap ++ (text ++ rest)) =
      skipFrom extra .after frames rest

theorem skips_scalar {mark : UInt8} {more : Bytes} (front : IsScalarMark mark)
    (skipped : ∀ rest, Stops rest → skipScalar mark (more ++ rest) = .ok rest) :
    Skips 1 (mark :: more) := by
  intro extra frames gap rest spaces stops
  rw [skipFrom, dropSpace_spaces spaces, List.cons_append, dropSpace_mark front.notSpace]
  simp only
  rw [if_neg front.notList, if_neg front.notObject, skipped rest stops]
  rfl

theorem skips_literal {token : Bytes} (listed : token ∈ literals) : Skips 1 token := by
  simp only [literals, List.map_cons, List.map_nil, List.mem_cons, List.not_mem_nil,
    or_false] at listed
  rcases listed with rfl | rfl | rfl
  all_goals exact skips_scalar (by constructor <;> decide) fun _ _ => rfl

theorem skips_number {token : Bytes} (isNumber : IsNumber token) : Skips 1 token := by
  cases isNumber with
  | minus unsigned =>
    refine skips_scalar (isScalarMark_number (.inl rfl)) fun rest stops => ?_
    exact skipNumber_unsigned unsigned stops
  | plain unsigned =>
    obtain ⟨mark, more, rfl, digit⟩ := begins_unsigned unsigned
    refine skips_scalar (isScalarMark_number (.inr digit)) fun rest stops => ?_
    have other : ∀ letter : UInt8, isDigit letter = false → mark ≠ letter := fun _ =>
      ne_of_isDigit digit
    rw [skipScalar, if_neg (other _ (by decide)), if_neg (other _ (by decide)),
      if_neg (other _ (by decide)), if_neg (other _ (by decide)), if_pos digit]
    exact skipNumber_unsigned unsigned stops

theorem skips_string {body : Bytes} (isBody : IsStringBody body) :
    Skips 1 ('"'.toUInt8 :: (body ++ ['"'.toUInt8])) := by
  refine skips_scalar (by constructor <;> decide) fun rest _ => ?_
  rw [List.append_assoc, List.singleton_append]
  exact skipString_body isBody rest

structure SkipsEntry (frame : Frame) (text : Bytes) : Prop where
  begins : ∃ mark more, text = mark :: more ∧ isSpace mark = false ∧ mark ≠ frame.close
  steps : ∃ steps ≤ 2 * text.length, ∀ extra frames gap rest, IsSpaces gap → Stops rest →
    (frame.skipToValue (gap ++ (text ++ rest)) >>=
        skipFrom (extra + steps) .value (frame :: frames)) =
      skipFrom extra .after (frame :: frames) rest

theorem skipsEntry_item {text : Bytes} (begins : Begins text) {steps : Nat}
    (few : steps ≤ 2 * text.length) (skips : Skips steps text) : SkipsEntry .list text :=
  ⟨begins, steps, few, fun extra frames => skips extra (.list :: frames)⟩

theorem skipsEntry_member {body value text : Bytes} (isBody : IsStringBody body) {steps : Nat}
    (few : steps ≤ 2 * value.length) (skips : Skips steps value)
    (isMember : IsMember body value text) : SkipsEntry .object text := by
  cases isMember with
  | @colon gap behind spaces spacesBehind =>
    refine ⟨⟨_, _, rfl, by decide, by decide⟩, steps, ?_, ?_⟩
    · simp only [List.length_cons, List.length_append]
      omega
    · intro extra frames front rest spacesFront stops
      have name : Frame.object.skipToValue (front ++ ('"'.toUInt8 :: (body ++
          '"'.toUInt8 :: (gap ++ ':'.toUInt8 :: (behind ++ value))) ++ rest)) =
          .ok (behind ++ (value ++ rest)) := by
        rw [Frame.skipToValue, skipName, dropSpace_spaces spacesFront, List.cons_append,
          dropSpace_mark (by decide)]
        simp only [List.append_assoc, List.cons_append]
        rw [if_pos trivial, skipString_body isBody, ok_bind, dropSpace_spaces spaces,
          dropSpace_mark (by decide)]
        exact if_pos rfl
      rw [name, ok_bind]
      exact skips extra (.object :: frames) behind rest spacesBehind stops

theorem stops_close (frame : Frame) (rest : Bytes) : Stops (frame.close :: rest) := by
  cases frame with
  | list => exact stops_bracket rest
  | object => exact stops_brace rest

theorem stops_front {front : Bytes} (isFront : IsFront false front) (rest : Bytes) :
    Stops (front ++ rest) := by
  cases isFront with
  | later spacesBefore _ =>
    rw [List.append_assoc]
    exact stops_spaces spacesBefore (stops_cons (by decide) (by decide) (by decide) _)

/-- A number at the end of an entry ends there. -/
theorem stops_separated {written : ε → Bytes → Prop} {es : List ε} {inner : Bytes}
    (separated : Separated written false es inner) {rest : Bytes} (stops : Stops rest) :
    Stops (inner ++ rest) := by
  cases separated with
  | closing spaces => exact stops_spaces spaces stops
  | entry isFront _ _ =>
    rw [List.append_assoc]
    exact stops_front isFront _

theorem notSpace_close (frame : Frame) : isSpace frame.close = false := by
  cases frame <;> decide

theorem notComma_close (frame : Frame) : ','.toUInt8 ≠ frame.close := by
  cases frame <;> decide

def placeInside : Bool → Place
  | true => .opened
  | false => .after

theorem skipFrom_close (fuel : Nat) (first : Bool) (frame : Frame) (frames : List Frame)
    {gap : Bytes} (spaces : IsSpaces gap) (rest : Bytes) :
    skipFrom (fuel + 1) (placeInside first) (frame :: frames) (gap ++ frame.close :: rest) =
      skipFrom fuel .after frames rest := by
  cases first
  all_goals
    rw [placeInside, skipFrom, dropSpace_spaces spaces, dropSpace_mark (notSpace_close frame)]
    exact if_pos rfl

theorem skipFrom_front (fuel : Nat) {first : Bool} (frame : Frame) (frames : List Frame)
    {front : Bytes} (isFront : IsFront first front) {mark : UInt8} (solid : isSpace mark = false)
    (notClosing : mark ≠ frame.close) (rest : Bytes) :
    ∃ gap, IsSpaces gap ∧
      skipFrom (fuel + 1) (placeInside first) (frame :: frames) (front ++ mark :: rest) =
        (frame.skipToValue (gap ++ mark :: rest) >>=
          skipFrom fuel .value (frame :: frames)) := by
  cases isFront with
  | first spaces =>
    refine ⟨[], isSpaces_nil, ?_⟩
    rw [placeInside, skipFrom, dropSpace_spaces spaces, dropSpace_mark solid]
    exact if_neg notClosing
  | @later before gap spacesBefore spaces =>
    refine ⟨gap, spaces, ?_⟩
    rw [List.append_assoc, List.cons_append, placeInside, skipFrom, dropSpace_spaces spacesBefore,
      dropSpace_mark (by decide)]
    simp only
    rw [if_neg (notComma_close frame), if_pos trivial]

theorem skips_separated (frame : Frame) {written : ε → Bytes → Prop} {first : Bool} {es : List ε}
    {inner : Bytes} (separated : Separated written first es inner)
    (each : ∀ e ∈ es, ∀ text, written e text → SkipsEntry frame text) :
    ∃ steps ≤ 2 * inner.length + (if first then 2 else 1), ∀ extra frames rest,
      skipFrom (extra + steps) (placeInside first) (frame :: frames)
          (inner ++ frame.close :: rest) = skipFrom extra .after frames rest := by
  induction separated with
  | @closing first gap spaces =>
    refine ⟨1, by cases first <;> simp, fun extra frames rest => ?_⟩
    exact skipFrom_close extra first frame frames spaces rest
  | @entry first e es front text more isFront here others ih =>
    obtain ⟨⟨mark, letters, rfl, solid, notClosing⟩, steps, few, skips⟩ :=
      each e List.mem_cons_self text here
    obtain ⟨later, fewLater, skipsLater⟩ :=
      ih fun e member => each e (List.mem_cons_of_mem _ member)
    refine ⟨later + steps + 1, ?_, fun extra frames rest => ?_⟩
    · -- A comma pays for the step to the entry that it stands before.
      have room : 1 ≤ 2 * front.length + (if first then 1 else 0) := by
        cases isFront with
        | first _ => exact Nat.le_add_left 1 _
        | later _ _ =>
          rw [List.length_append, List.length_cons]
          omega
      rw [if_neg (by decide)] at fewLater
      rw [List.length_append, List.length_append]
      cases first <;> simp only [Bool.false_eq_true, if_false, if_true] at room ⊢ <;> omega
    · obtain ⟨gap, spaces, entered⟩ := skipFrom_front (extra + later + steps) frame frames isFront
        solid notClosing (letters ++ (more ++ frame.close :: rest))
      have skipped := skips (extra + later) frames gap (more ++ frame.close :: rest) spaces
        (stops_separated others (stops_close frame rest))
      rw [List.cons_append] at skipped
      rw [List.append_assoc, List.append_assoc, List.cons_append, ← Nat.add_assoc,
        ← Nat.add_assoc, entered, skipped]
      exact skipsLater extra frames rest

end Steps

section Values

theorem begins_isJson {text : Bytes} (isJson : IsJson text) : Begins text := by
  cases isJson with
  | literal listed =>
    simp only [literals, List.map_cons, List.map_nil, List.mem_cons, List.not_mem_nil,
      or_false] at listed
    rcases listed with rfl | rfl | rfl
    all_goals exact ⟨_, _, rfl, by decide, by decide⟩
  | number isNumber =>
    obtain ⟨mark, more, rfl, begins⟩ := begins_number isNumber
    have front := isScalarMark_number begins
    exact ⟨mark, more, rfl, front.notSpace, front.notClosing⟩
  | string _ => exact ⟨_, _, rfl, by decide, by decide⟩
  | list _ isList =>
    cases isList
    exact ⟨_, _, rfl, by decide, by decide⟩
  | object _ _ isObject =>
    cases isObject
    exact ⟨_, _, rfl, by decide, by decide⟩

theorem skips_isJson {text : Bytes} (isJson : IsJson text) :
    ∃ steps ≤ 2 * text.length, Skips steps text := by
  induction isJson with
  | literal listed =>
    refine ⟨1, ?_, skips_literal listed⟩
    obtain ⟨mark, more, rfl, -⟩ := begins_isJson (.literal listed)
    rw [List.length_cons]
    omega
  | number isNumber =>
    refine ⟨1, ?_, skips_number isNumber⟩
    obtain ⟨mark, more, rfl, -⟩ := begins_number isNumber
    rw [List.length_cons]
    omega
  | string isBody =>
    refine ⟨1, ?_, skips_string isBody⟩
    rw [List.length_cons]
    omega
  | list each isList ih =>
    cases isList with
    | brackets separated =>
      obtain ⟨steps, few, skips⟩ := skips_separated .list separated fun item member text same => by
        obtain ⟨steps, few, skips⟩ := ih item member
        rw [same]
        exact skipsEntry_item (begins_isJson (each item member)) few skips
      refine ⟨steps + 1, ?_, fun extra frames gap rest spaces _ => ?_⟩
      · simp only [List.length_cons, List.length_append, if_true] at few ⊢
        omega
      · rw [← Nat.add_assoc, skipFrom, dropSpace_spaces spaces, List.cons_append,
          dropSpace_mark (by decide)]
        simp only [List.append_assoc, List.singleton_append]
        rw [if_pos trivial]
        exact skips extra frames rest
  | object names each isObject ih =>
    cases isObject with
    | braces separated =>
      obtain ⟨steps, few, skips⟩ := skips_separated .object separated
        fun m member text isMember => by
          obtain ⟨steps, few, skips⟩ := ih m member
          exact skipsEntry_member (names m member) few skips isMember
      refine ⟨steps + 1, ?_, fun extra frames gap rest spaces _ => ?_⟩
      · simp only [List.length_cons, List.length_append, if_true] at few ⊢
        omega
      · rw [← Nat.add_assoc, skipFrom, dropSpace_spaces spaces, List.cons_append,
          dropSpace_mark (by decide)]
        simp only [List.append_assoc, List.singleton_append]
        rw [if_neg (by decide), if_pos trivial]
        exact skips extra frames rest

/-- Whatever a value holds, skipping it leaves the text behind it. -/
theorem skipValue_isJson {gap text rest : Bytes} (spaces : IsSpaces gap) (isJson : IsJson text)
    (stops : Stops rest) : skipValue (gap ++ (text ++ rest)) = .ok rest := by
  obtain ⟨steps, few, skips⟩ := skips_isJson isJson
  have enough : ∃ extra, 2 * (gap ++ (text ++ rest)).length + 2 = extra + 1 + steps := by
    refine ⟨2 * (gap ++ (text ++ rest)).length + 1 - steps, ?_⟩
    simp only [List.length_append]
    omega
  obtain ⟨extra, same⟩ := enough
  rw [skipValue, same, skips (extra + 1) [] gap rest spaces stops]
  rfl

end Values

end KeyCustody.Json
