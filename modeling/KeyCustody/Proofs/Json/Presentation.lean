import KeyCustody.Proofs.Json.Records
import KeyCustody.Proofs.Json.Skipping

/-!
Readers do not see how a value is presented. What a reader makes of one text with anything around it
is said first; then texts of one value are compared.
-/
namespace KeyCustody.Json

section Orders
variable {α ε : Type}

/-- A fold that may fail, over entries in another order. Where two entries that stand `apart` may
change places, whole lists may. -/
theorem foldlM_perm {step : α → ε → Option α} {alike : α → α → Prop} {apart : ε → ε → Prop}
    (equivalence : Equivalence alike) (symm : ∀ x y, apart x y → apart y x)
    (respects : ∀ a b x next, alike a b → step a x = some next →
      ∃ other, step b x = some other ∧ alike next other)
    (swaps : ∀ x y a next final, apart x y → step a x = some next → step next y = some final →
      ∃ middle other, step a y = some middle ∧ step middle x = some other ∧ alike final other)
    {es es' : List ε} (perm : es.Perm es') (pairwise : es.Pairwise apart) {a b final : α}
    (start : alike a b) (ran : es.foldlM step a = some final) :
    ∃ other, es'.foldlM step b = some other ∧ alike final other := by
  have follows : ∀ (es : List ε) {a b final : α}, alike a b → es.foldlM step a = some final →
      ∃ other, es.foldlM step b = some other ∧ alike final other := by
    intro es
    induction es with
    | nil =>
      intro a b final start ran
      cases ran
      exact ⟨b, rfl, start⟩
    | cons x es ih =>
      intro a b final start ran
      rw [List.foldlM_cons] at ran
      obtain ⟨next, stepped, others⟩ := Option.bind_eq_some_iff.mp ran
      obtain ⟨next', stepped', alikeNext⟩ := respects a b x next start stepped
      obtain ⟨other, done, alikeOther⟩ := ih alikeNext others
      refine ⟨other, ?_, alikeOther⟩
      rw [List.foldlM_cons, stepped']
      exact done
  induction perm generalizing a b final with
  | nil => exact follows [] start ran
  | cons x _ ih =>
    rw [List.foldlM_cons] at ran
    obtain ⟨next, stepped, others⟩ := Option.bind_eq_some_iff.mp ran
    obtain ⟨next', stepped', alikeNext⟩ := respects a b x next start stepped
    obtain ⟨other, done, alikeOther⟩ := ih (List.pairwise_cons.mp pairwise).2 alikeNext others
    refine ⟨other, ?_, alikeOther⟩
    rw [List.foldlM_cons, stepped']
    exact done
  | swap x y l =>
    have apartXY := (List.pairwise_cons.mp pairwise).1 x List.mem_cons_self
    rw [List.foldlM_cons] at ran
    obtain ⟨next, stepped, others⟩ := Option.bind_eq_some_iff.mp ran
    rw [List.foldlM_cons] at others
    obtain ⟨second, steppedX, rest⟩ := Option.bind_eq_some_iff.mp others
    obtain ⟨middle, last, first, behind, alikeLast⟩ :=
      swaps y x a next second apartXY stepped steppedX
    obtain ⟨middle', first', alikeMiddle⟩ := respects a b x middle start first
    obtain ⟨last', behind', alikeLast'⟩ := respects middle middle' y last alikeMiddle behind
    obtain ⟨other, done, alikeOther⟩ := follows l (equivalence.trans alikeLast alikeLast') rest
    refine ⟨other, ?_, alikeOther⟩
    rw [List.foldlM_cons, first']
    change (y :: l).foldlM step middle' = some other
    rw [List.foldlM_cons, behind']
    exact done
  | trans left _ ihLeft ihRight =>
    obtain ⟨middle, done, alikeMiddle⟩ := ihLeft pairwise start ran
    have pairwise' := (left.pairwise_iff (fun {x y} => symm x y)).mp pairwise
    obtain ⟨other, done', alikeOther⟩ := ihRight pairwise' (equivalence.refl b) done
    exact ⟨other, done', equivalence.trans alikeMiddle alikeOther⟩

/-- Members of different names may be put in either way round. -/
theorem Members.insert_comm {name other : String} (different : name ≠ other) (v w : Value)
    (members : Members) :
    (members.insert name v).insert other w = (members.insert other w).insert name v := by
  induction members with
  | nil => grind [Members.insert]
  | cons member rest ih =>
    obtain ⟨first, held⟩ := member
    grind [Members.insert]

end Orders

section Readings
variable {α ε : Type}

/-- What becomes of a text with white space before it and anything behind it that does not go on
with a number: the reader takes it as `found`, or it does not take it at all. -/
structure ReadsAs (read : Bytes → Except Fault (α × Bytes)) (text : Bytes) (found : Option α) :
    Prop where
  begins : Begins text
  reads : ∀ gap rest, IsSpaces gap → Stops rest →
    (read (gap ++ (text ++ rest))).toOption = found.map (·, rest)

theorem toOption_bind {β : Type} (x : Except Fault α) (f : α → Except Fault β) :
    (x >>= f).toOption = x.toOption.bind fun a => (f a).toOption := by
  cases x <;> rfl

theorem toOption_eq_some_iff {x : Except Fault α} {a : α} : x.toOption = some a ↔ x = .ok a := by
  cases x <;> simp [Except.toOption]

/-- A reader that is told by the first octet what follows. -/
theorem ReadsAs.of_mark {read : Bytes → Except Fault (α × Bytes)} {mark : UInt8} {more : Bytes}
    {found : Option α} (solid : isSpace mark = false) (notClosing : mark ≠ ']'.toUInt8)
    (reads : ∀ input rest, Stops rest → dropSpace input = mark :: (more ++ rest) →
      (read input).toOption = found.map (·, rest)) : ReadsAs read (mark :: more) found := by
  refine ⟨⟨mark, more, rfl, solid, notClosing⟩, fun gap rest spaces stops => ?_⟩
  apply reads _ rest stops
  rw [dropSpace_spaces spaces, List.cons_append, dropSpace_mark solid]

theorem ReadsAs.map {β : Type} {name : String} {required : Bool} {read : Reader β}
    {set : β → α → α} {levels : Nat} {text : Bytes} {found : Option β}
    (reads : ReadsAs (read levels) text found) :
    ReadsAs ((Field.map name required read set).read levels) text (found.map set) := by
  refine ⟨reads.begins, fun gap rest spaces stops => ?_⟩
  rw [Field.map]
  simp only
  rw [toOption_bind, reads.reads gap rest spaces stops]
  cases found <;> rfl

theorem nextItem_spaces (first : Bool) {gap : Bytes} (spaces : IsSpaces gap) (rest : Bytes) :
    nextItem first (gap ++ ']'.toUInt8 :: rest) = .ok (.done rest) := by
  rw [nextItem, dropSpace_spaces spaces, dropSpace_mark (by decide)]
  exact if_pos rfl

theorem nextMember_spaces (first : Bool) {gap : Bytes} (spaces : IsSpaces gap) (rest : Bytes) :
    nextMember first (gap ++ '}'.toUInt8 :: rest) = .ok (.done rest) := by
  rw [nextMember, dropSpace_spaces spaces, dropSpace_mark (by decide)]
  exact if_pos rfl

theorem nextItem_front {first : Bool} {front : Bytes} (isFront : IsFront first front)
    {mark : UInt8} (solid : isSpace mark = false) (notClosing : mark ≠ ']'.toUInt8)
    (rest : Bytes) : nextItem first (front ++ mark :: rest) = .ok (.item (mark :: rest)) := by
  cases isFront with
  | first spaces =>
    rw [nextItem, dropSpace_spaces spaces, dropSpace_mark solid]
    simp only
    rw [if_neg notClosing, if_pos trivial]
  | later spacesBefore spaces =>
    rw [List.append_assoc, List.cons_append, nextItem, dropSpace_spaces spacesBefore,
      dropSpace_mark (by decide)]
    simp only
    rw [if_neg (by decide), if_neg (by decide), if_pos trivial, dropSpace_spaces spaces,
      dropSpace_mark solid]
    exact if_neg notClosing

theorem nextMember_front {first : Bool} {front : Bytes} (isFront : IsFront first front)
    (rest : Bytes) : nextMember first (front ++ '"'.toUInt8 :: rest) = .ok (.item rest) := by
  cases isFront with
  | first spaces =>
    rw [nextMember, dropSpace_spaces spaces, dropSpace_mark (by decide)]
    rfl
  | later spacesBefore spaces =>
    rw [List.append_assoc, List.cons_append, nextMember, dropSpace_spaces spacesBefore,
      dropSpace_mark (by decide)]
    simp only
    rw [if_neg (by decide), if_neg (by decide), if_pos trivial, dropSpace_spaces spaces,
      dropSpace_mark (by decide)]
    rfl

theorem length_le_separated {written : ε → Bytes → Prop} {first : Bool} {es : List ε}
    {inner : Bytes} (separated : Separated written first es inner)
    (solid : ∀ e ∈ es, ∀ text, written e text → text ≠ []) : es.length ≤ inner.length := by
  induction separated with
  | closing _ => exact Nat.zero_le _
  | @entry first e es front text more _ here _ ih =>
    have positive := List.length_pos_iff.mpr (solid e List.mem_cons_self text here)
    have others := ih fun e member => solid e (List.mem_cons_of_mem _ member)
    simp only [List.length_append, List.length_cons]
    omega

/-- The items of a list, each read as what it means. -/
theorem itemsFrom_separated {read : Bytes → Except Fault (α × Bytes)}
    {written : ε → Bytes → Prop} {meaning : ε → Option α} {first : Bool} {es : List ε}
    {inner : Bytes} (separated : Separated written first es inner)
    (each : ∀ e ∈ es, ∀ text, written e text → ReadsAs read text (meaning e)) (fuel : Nat)
    (enough : es.length < fuel) (found : List α) (rest : Bytes) :
    (itemsFrom read fuel first found (inner ++ ']'.toUInt8 :: rest)).toOption =
      (es.mapM meaning).map fun values => (found.reverse ++ values, rest) := by
  induction separated generalizing fuel found with
  | closing spaces =>
    obtain ⟨fuel, rfl⟩ := Nat.exists_eq_add_one_of_ne_zero (Nat.ne_of_gt enough)
    rw [itemsFrom, nextItem_spaces _ spaces, ok_bind, List.mapM_nil]
    simp [Except.toOption]
  | @entry first e es front text more isFront here others ih =>
    obtain ⟨fuel, rfl⟩ := Nat.exists_eq_add_one_of_ne_zero (Nat.ne_zero_of_lt enough)
    obtain ⟨⟨mark, letters, rfl, solid, notClosing⟩, reads⟩ := each e List.mem_cons_self text here
    have taken := reads [] _ isSpaces_nil (stops_separated others (stops_bracket rest))
    rw [List.nil_append, List.cons_append] at taken
    rw [List.append_assoc, List.append_assoc, List.cons_append, itemsFrom,
      nextItem_front isFront solid notClosing, ok_bind]
    simp only
    rw [toOption_bind, taken, List.mapM_cons]
    cases meaning e with
    | none => rfl
    | some value =>
      have later := ih (fun e member => each e (List.mem_cons_of_mem _ member)) fuel
        (Nat.lt_of_succ_lt_succ enough) (value :: found)
      simp only [Option.map_some, Option.bind_some, later, Option.bind_eq_bind]
      cases es.mapM meaning <;> simp

theorem items_separated {read : Bytes → Except Fault (α × Bytes)} {written : ε → Bytes → Prop}
    {meaning : ε → Option α} {es : List ε} {inner : Bytes}
    (separated : Separated written true es inner)
    (each : ∀ e ∈ es, ∀ text, written e text → ReadsAs read text (meaning e)) (rest : Bytes) :
    (items read (inner ++ ']'.toUInt8 :: rest)).toOption =
      (es.mapM meaning).map (·, rest) := by
  have short := length_le_separated separated fun e member text here => by
    obtain ⟨⟨mark, more, rfl, -⟩, -⟩ := each e member text here
    exact List.cons_ne_nil mark more
  rw [items]
  apply itemsFrom_separated separated each
  rw [List.length_append]
  omega

def StepsAs (member : α → Bytes → Except Fault (α × Bytes)) (value : Bytes)
    (step : α → Option α) : Prop :=
  ∀ held gap behind rest, IsSpaces gap → IsSpaces behind → Stops rest →
    (member held (gap ++ ':'.toUInt8 :: (behind ++ (value ++ rest)))).toOption =
      (step held).map (·, rest)

/-- The members of an object, each taken as its step. -/
theorem membersFrom_separated {member : String → α → Bytes → Except Fault (α × Bytes)}
    {name : ε → String} {value : ε → Bytes} {step : α → ε → Option α} {first : Bool} {es : List ε}
    {inner : Bytes} (separated : Separated (fun e text => IsNamed (name e) (value e) text) first es
      inner)
    (each : ∀ e ∈ es, StepsAs (member (name e)) (value e) (step · e)) (fuel : Nat)
    (enough : es.length < fuel) (held : α) (rest : Bytes) :
    (membersFrom member fuel first held (inner ++ '}'.toUInt8 :: rest)).toOption =
      (es.foldlM step held).map (·, rest) := by
  induction separated generalizing fuel held with
  | closing spaces =>
    obtain ⟨fuel, rfl⟩ := Nat.exists_eq_add_one_of_ne_zero (Nat.ne_of_gt enough)
    rw [membersFrom, nextMember_spaces _ spaces, ok_bind, List.foldlM_nil]
    rfl
  | @entry first e es front text more isFront here others ih =>
    obtain ⟨fuel, rfl⟩ := Nat.exists_eq_add_one_of_ne_zero (Nat.ne_zero_of_lt enough)
    obtain ⟨body, spelled, isMember⟩ := here
    cases isMember with
    | @colon gap behind spaces spacesBehind =>
      have taken := each e List.mem_cons_self held gap behind _ spaces spacesBehind
        (stops_separated others (stops_brace rest))
      beta_reduce at taken
      simp only [List.append_assoc, List.cons_append]
      rw [membersFrom, nextMember_front isFront, ok_bind]
      simp only
      rw [takeString_spelled spelled, ok_bind, toOption_bind, taken, List.foldlM_cons]
      cases step held e with
      | none => rfl
      | some next =>
        exact ih (fun e member => each e (List.mem_cons_of_mem _ member)) fuel
          (Nat.lt_of_succ_lt_succ enough) next

theorem members_separated {member : String → α → Bytes → Except Fault (α × Bytes)}
    {name : ε → String} {value : ε → Bytes} {step : α → ε → Option α} {es : List ε}
    {inner : Bytes} (separated : Separated (fun e text => IsNamed (name e) (value e) text) true es
      inner)
    (each : ∀ e ∈ es, StepsAs (member (name e)) (value e) (step · e)) (start : α) (rest : Bytes) :
    (members member start (inner ++ '}'.toUInt8 :: rest)).toOption =
      (es.foldlM step start).map (·, rest) := by
  have short := length_le_separated separated fun e _ text here => by
    obtain ⟨body, -, isMember⟩ := here
    cases isMember
    exact List.cons_ne_nil _ _
  rw [members]
  apply membersFrom_separated separated each
  rw [List.length_append]
  omega

theorem readsAs_scalar {mark : UInt8} {more : Bytes} {found : Option Found}
    (front : IsScalarMark mark)
    (taken : ∀ rest, Stops rest →
      (takeScalar mark (more ++ rest)).toOption = found.map (·, rest)) (levels : Nat) :
    ReadsAs (value levels) (mark :: more) (found.map Found.value) := by
  apply ReadsAs.of_mark front.notSpace front.notClosing
  intro input rest stops opens
  obtain ⟨inner, same⟩ := value_eq_valueWith levels
  rw [same, valueWith, opens]
  simp only
  rw [if_neg front.notList, if_neg front.notObject, toOption_bind, taken rest stops]
  cases found <;> rfl

theorem readsAs_number {token : Bytes} (isNumber : IsNumber token) :
    ∃ found : Option Found, ∀ levels, ReadsAs (value levels) token (found.map Found.value) := by
  cases isNumber with
  | minus unsigned =>
    obtain ⟨found, ends⟩ := ends_unsigned true unsigned
    refine ⟨found.toOption.map Found.number, ?_⟩
    apply readsAs_scalar (isScalarMark_number (.inl rfl))
    intro rest stops
    rw [takeScalar, if_neg (by decide), if_neg (by decide), if_neg (by decide), if_pos rfl,
      ends rest stops]
    cases found <;> rfl
  | plain unsigned =>
    obtain ⟨mark, more, rfl, digit⟩ := begins_unsigned unsigned
    obtain ⟨found, ends⟩ := ends_unsigned false unsigned
    have other : ∀ letter : UInt8, isDigit letter = false → mark ≠ letter := fun _ =>
      ne_of_isDigit digit
    refine ⟨found.toOption.map Found.number, ?_⟩
    apply readsAs_scalar (isScalarMark_number (.inr digit))
    intro rest stops
    have number := ends rest stops
    rw [List.cons_append] at number
    rw [takeScalar, if_neg (other _ (by decide)), if_neg (other _ (by decide)),
      if_neg (other _ (by decide)), if_neg (other _ (by decide)), if_pos digit, number]
    cases found <;> rfl

theorem readsAs_literal {token : Bytes} (listed : token ∈ literals) :
    ∃ found : Option Found, ∀ levels, ReadsAs (value levels) token (found.map Found.value) := by
  simp only [literals, List.map_cons, List.map_nil, List.mem_cons, List.not_mem_nil,
    or_false] at listed
  rcases listed with rfl | rfl | rfl
  · exact ⟨some .null, readsAs_scalar (by constructor <;> decide) fun _ _ => rfl⟩
  · exact ⟨some (.bool true), readsAs_scalar (by constructor <;> decide) fun _ _ => rfl⟩
  · exact ⟨some (.bool false), readsAs_scalar (by constructor <;> decide) fun _ _ => rfl⟩

theorem readsAs_string {body : Bytes} {s : String} (spelled : SpellsString body s)
    (levels : Nat) :
    ReadsAs (value levels) ('"'.toUInt8 :: (body ++ ['"'.toUInt8])) (some (.text s)) := by
  have taken : ∀ rest, Stops rest →
      (takeScalar '"'.toUInt8 (body ++ ['"'.toUInt8] ++ rest)).toOption =
        (some (Found.text s)).map (·, rest) := by
    intro rest _
    rw [List.append_assoc, List.singleton_append,
      takeScalar_quote (takeString_spelled spelled rest)]
    rfl
  exact readsAs_scalar (by constructor <;> decide) taken levels

end Readings

section Values

def Respects {α : Type} (read : Reader α) : Prop :=
  ∀ levels {left right : Bytes}, SameValue left right →
    ∃ found, ReadsAs (read levels) left found ∧ ReadsAs (read levels) right found

theorem readsAs_list {ε α : Type} {read : Reader α} {levels : Nat} {written : ε → Bytes → Prop}
    {meaning : ε → Option α} {es : List ε} {text : Bytes} (isList : IsList written es text)
    (each : ∀ e ∈ es, ∀ text, written e text → ReadsAs (read levels) text (meaning e)) :
    ReadsAs (list read (levels + 1)) text (es.mapM meaning) := by
  cases isList with
  | brackets separated =>
    apply ReadsAs.of_mark (by decide) (by decide)
    intro input rest _ opens
    rw [List.append_assoc, List.singleton_append] at opens
    rw [list, opens]
    simp only
    rw [if_pos trivial]
    exact items_separated separated each rest

theorem readsAs_array {ε : Type} {levels : Nat} {written : ε → Bytes → Prop}
    {meaning : ε → Option Value} {es : List ε} {text : Bytes} (isList : IsList written es text)
    (each : ∀ e ∈ es, ∀ text, written e text → ReadsAs (value levels) text (meaning e)) :
    ReadsAs (value (levels + 1)) text ((es.mapM meaning).map Value.array) := by
  cases isList with
  | brackets separated =>
    apply ReadsAs.of_mark (by decide) (by decide)
    intro input rest _ opens
    rw [List.append_assoc, List.singleton_append] at opens
    rw [value, valueWith, opens]
    simp only
    rw [if_pos trivial, toOption_bind, items_separated separated each]
    cases es.mapM meaning <;> rfl

theorem takeColon_spaces {gap : Bytes} (spaces : IsSpaces gap) (rest : Bytes) :
    takeColon (gap ++ ':'.toUInt8 :: rest) = .ok rest := by
  rw [takeColon, dropSpace_spaces spaces, dropSpace_mark (by decide)]
  exact if_pos rfl

theorem stepsAs_keepMember {levels : Nat} {name : String} {text : Bytes} {found : Option Value}
    (reads : ReadsAs (value levels) text found) :
    StepsAs (keepMember (value levels) name) text
      (fun held => found.map fun v => held.insert name v) := by
  intro held gap behind rest spaces spacesBehind stops
  rw [keepMember, takeColon_spaces spaces, ok_bind, toOption_bind,
    reads.reads behind rest spacesBehind stops]
  cases found <;> rfl

def putMember {ε : Type} (name : ε → String) (meaning : ε → Option Value) (held : Members)
    (e : ε) : Option Members :=
  (meaning e).map fun v => held.insert (name e) v

theorem readsAs_object {ε : Type} {levels : Nat} {name : ε → String} {text : ε → Bytes}
    {meaning : ε → Option Value} {es : List ε} {written : Bytes}
    (isObject : IsObject (fun e => IsNamed (name e) (text e)) es written)
    (each : ∀ e ∈ es, ReadsAs (value levels) (text e) (meaning e)) :
    ReadsAs (value (levels + 1)) written
      ((es.foldlM (putMember name meaning) []).map Value.object) := by
  cases isObject with
  | braces separated =>
    apply ReadsAs.of_mark (by decide) (by decide)
    intro input rest _ opens
    rw [List.append_assoc, List.singleton_append] at opens
    have steps : ∀ e ∈ es, StepsAs (keepMember (value levels) (name e)) (text e)
        (putMember name meaning · e) := fun e member => stepsAs_keepMember (each e member)
    rw [value, valueWith, opens]
    simp only
    rw [if_neg (by decide), if_pos trivial, toOption_bind, members_separated separated steps]
    cases es.foldlM (putMember name meaning) [] <;> rfl

theorem putMember_swap {ε : Type} {name : ε → String} {meaning : ε → Option Value} {x y : ε}
    (different : name x ≠ name y) {held next final : Members}
    (first : putMember name meaning held x = some next)
    (second : putMember name meaning next y = some final) :
    ∃ middle, putMember name meaning held y = some middle ∧
      putMember name meaning middle x = some final := by
  obtain ⟨v, meaningX, rfl⟩ := Option.map_eq_some_iff.mp first
  obtain ⟨w, meaningY, rfl⟩ := Option.map_eq_some_iff.mp second
  refine ⟨held.insert (name y) w, ?_, ?_⟩
  · rw [putMember, meaningY, Option.map_some]
  · rw [putMember, meaningX, Option.map_some, Members.insert_comm different]

/-- Members of distinct names may be put in any order. -/
theorem foldlM_putMember_perm {ε : Type} {name : ε → String} {meaning : ε → Option Value}
    {es order : List ε} (distinct : (es.map name).Nodup) (perm : es.Perm order) :
    es.foldlM (putMember name meaning) [] = order.foldlM (putMember name meaning) [] := by
  have oneWay : ∀ {es order : List ε}, (es.map name).Nodup → es.Perm order → ∀ held,
      es.foldlM (putMember name meaning) [] = some held →
        order.foldlM (putMember name meaning) [] = some held := by
    intro es order distinct perm held ran
    have apart : es.Pairwise fun x y => name x ≠ name y := List.pairwise_map.mp distinct
    have respects : ∀ a b x next, a = b → putMember name meaning a x = some next →
        ∃ other, putMember name meaning b x = some other ∧ next = other := by
      rintro a _ x next rfl stepped
      exact ⟨next, stepped, rfl⟩
    have swaps : ∀ x y a next final, name x ≠ name y → putMember name meaning a x = some next →
        putMember name meaning next y = some final →
        ∃ middle other, putMember name meaning a y = some middle ∧
          putMember name meaning middle x = some other ∧ final = other := by
      intro x y a next final different first second
      obtain ⟨middle, other, behind⟩ := putMember_swap different first second
      exact ⟨middle, final, other, behind, rfl⟩
    obtain ⟨other, done, rfl⟩ := foldlM_perm eq_equivalence (fun _ _ => Ne.symm) respects swaps
      perm apart rfl ran
    exact done
  have distinct' : (order.map name).Nodup := (perm.map name).nodup_iff.mp distinct
  apply Option.ext
  intro held
  exact ⟨oneWay distinct perm held, oneWay distinct' perm.symm held⟩

def Foreign (mark : UInt8) (text : Bytes) : Prop :=
  ∃ first more, text = first :: more ∧ isSpace first = false ∧ first ≠ ']'.toUInt8 ∧ first ≠ mark

theorem foreign_literal (mark : UInt8) {token : Bytes} (listed : token ∈ literals)
    (none : ∀ token ∈ literals, token.head? ≠ some mark) : Foreign mark token := by
  obtain ⟨first, more, rfl, solid, notClosing⟩ := begins_isJson (.literal listed)
  exact ⟨first, more, rfl, solid, notClosing, fun same => none _ listed (congrArg some same)⟩

theorem foreign_number (mark : UInt8) {token : Bytes} (isNumber : IsNumber token)
    (noMinus : mark ≠ '-'.toUInt8) (noDigit : isDigit mark = false) : Foreign mark token := by
  obtain ⟨first, more, rfl, begins⟩ := begins_number isNumber
  have front := isScalarMark_number begins
  refine ⟨first, more, rfl, front.notSpace, front.notClosing, ?_⟩
  rcases begins with rfl | digit
  · exact noMinus.symm
  · exact ne_of_isDigit digit noDigit

theorem foreign_mark {first mark : UInt8} (more : Bytes) (solid : isSpace first = false)
    (notClosing : first ≠ ']'.toUInt8) (other : first ≠ mark) : Foreign mark (first :: more) :=
  ⟨first, more, rfl, solid, notClosing, other⟩

theorem foreign_isList {ε : Type} {written : ε → Bytes → Prop} {es : List ε} {text : Bytes}
    (isList : IsList written es text) {mark : UInt8} (other : '['.toUInt8 ≠ mark) :
    Foreign mark text := by
  cases isList
  exact foreign_mark _ (by decide) (by decide) other

theorem foreign_isObject {ε : Type} {written : ε → Bytes → Prop} {es : List ε} {text : Bytes}
    (isObject : IsObject written es text) {mark : UInt8} (other : '\x7b'.toUInt8 ≠ mark) :
    Foreign mark text := by
  cases isObject
  exact foreign_mark _ (by decide) (by decide) other

theorem readsAs_foreign {α : Type} {read : Bytes → Except Fault (α × Bytes)} {mark : UInt8}
    {written : Bytes} (foreign : Foreign mark written)
    (refuses : ∀ input first more, dropSpace input = first :: more → first ≠ mark →
      (read input).toOption = none) : ReadsAs read written none := by
  obtain ⟨first, more, rfl, solid, notClosing, other⟩ := foreign
  apply ReadsAs.of_mark solid notClosing
  intro input rest _ opens
  exact refuses input first _ opens other

theorem readsAs_noText {written : Bytes} (foreign : Foreign '"'.toUInt8 written) (levels : Nat) :
    ReadsAs (text levels) written none := by
  refine readsAs_foreign foreign fun input first more opens other => ?_
  rw [text, opens]
  simp only
  rw [if_neg other]
  rfl

theorem readsAs_text {body : Bytes} {s : String} (spelled : SpellsString body s) (levels : Nat) :
    ReadsAs (text levels) ('"'.toUInt8 :: (body ++ ['"'.toUInt8])) (some s) := by
  apply ReadsAs.of_mark (by decide) (by decide)
  intro input rest _ opens
  rw [List.append_assoc, List.singleton_append] at opens
  rw [text, opens]
  simp only
  rw [if_pos trivial, takeString_spelled spelled]
  rfl

theorem respects_text : Respects text := by
  intro levels left right same
  cases same with
  | literal listed =>
    have foreign := foreign_literal '"'.toUInt8 listed (by decide)
    exact ⟨none, readsAs_noText foreign levels, readsAs_noText foreign levels⟩
  | number isNumber =>
    have foreign := foreign_number '"'.toUInt8 isNumber (by decide) (by decide)
    exact ⟨none, readsAs_noText foreign levels, readsAs_noText foreign levels⟩
  | string spelled respelled =>
    exact ⟨_, readsAs_text spelled levels, readsAs_text respelled levels⟩
  | list _ isLeft isRight =>
    exact ⟨none, readsAs_noText (foreign_isList isLeft (by decide)) levels,
      readsAs_noText (foreign_isList isRight (by decide)) levels⟩
  | object _ isLeft isRight _ =>
    exact ⟨none, readsAs_noText (foreign_isObject isLeft (by decide)) levels,
      readsAs_noText (foreign_isObject isRight (by decide)) levels⟩

theorem readsAs_null {α : Type} (read : Reader α) (levels : Nat) :
    ReadsAs (optional read levels) (Text.encode "null") (some none) := by
  change ReadsAs _ ('n'.toUInt8 :: Text.encode "ull") _
  apply ReadsAs.of_mark (by decide) (by decide)
  intro input rest _ opens
  rw [optional, opens]
  rfl

theorem ReadsAs.optional {α : Type} {read : Reader α} {levels : Nat} {written : Bytes}
    {found : Option α} (reads : ReadsAs (read levels) written found)
    (foreign : Foreign 'n'.toUInt8 written) :
    ReadsAs (Json.optional read levels) written (found.map some) := by
  obtain ⟨first, more, rfl, solid, notClosing, other⟩ := foreign
  apply ReadsAs.of_mark solid notClosing
  intro input rest stops opens
  have taken := reads.reads [] rest isSpaces_nil stops
  rw [List.nil_append, List.cons_append] at taken
  have notNull : ¬ (first :: (more ++ rest)).head? = some 'n'.toUInt8 := fun same =>
    other (Option.some.inj same)
  rw [Json.optional, opens]
  simp only
  rw [if_neg notNull, toOption_bind, taken]
  cases found <;> rfl

theorem null_or_foreign {left right : Bytes} (same : SameValue left right) :
    left = Text.encode "null" ∧ right = Text.encode "null" ∨
      Foreign 'n'.toUInt8 left ∧ Foreign 'n'.toUInt8 right := by
  cases same with
  | literal listed =>
    simp only [literals, List.map_cons, List.map_nil, List.mem_cons, List.not_mem_nil,
      or_false] at listed
    rcases listed with rfl | rfl | rfl
    · exact .inl ⟨rfl, rfl⟩
    all_goals
      exact .inr ⟨foreign_mark _ (by decide) (by decide) (by decide),
        foreign_mark _ (by decide) (by decide) (by decide)⟩
  | number isNumber =>
    have foreign := foreign_number 'n'.toUInt8 isNumber (by decide) (by decide)
    exact .inr ⟨foreign, foreign⟩
  | string _ _ =>
    exact .inr ⟨foreign_mark _ (by decide) (by decide) (by decide),
      foreign_mark _ (by decide) (by decide) (by decide)⟩
  | list _ isLeft isRight =>
    exact .inr ⟨foreign_isList isLeft (by decide), foreign_isList isRight (by decide)⟩
  | object _ isLeft isRight _ =>
    exact .inr ⟨foreign_isObject isLeft (by decide), foreign_isObject isRight (by decide)⟩

theorem respects_optional {α : Type} {read : Reader α} (respects : Respects read) :
    Respects (optional read) := by
  intro levels left right same
  rcases null_or_foreign same with ⟨rfl, rfl⟩ | ⟨foreignLeft, foreignRight⟩
  · exact ⟨some none, readsAs_null read levels, readsAs_null read levels⟩
  · obtain ⟨found, readsLeft, readsRight⟩ := respects levels same
    exact ⟨found.map some, readsLeft.optional foreignLeft, readsRight.optional foreignRight⟩

theorem readsAs_noList {α : Type} (read : Reader α) {written : Bytes}
    (foreign : Foreign '['.toUInt8 written) (levels : Nat) :
    ReadsAs (list read levels) written none := by
  refine readsAs_foreign foreign fun input first more opens other => ?_
  rw [list, opens]
  simp only
  rw [if_neg other]
  rfl

theorem readsAs_listTooDeep {α ε : Type} (read : Reader α) {written : ε → Bytes → Prop}
    {es : List ε} {text : Bytes} (isList : IsList written es text) :
    ReadsAs (list read 0) text none := by
  cases isList
  apply ReadsAs.of_mark (by decide) (by decide)
  intro input rest _ opens
  rw [list, opens]
  rfl

theorem respects_list {α : Type} {read : Reader α} (respects : Respects read) :
    Respects (list read) := by
  intro levels left right same
  cases same with
  | literal listed =>
    have foreign := foreign_literal '['.toUInt8 listed (by decide)
    exact ⟨none, readsAs_noList read foreign levels, readsAs_noList read foreign levels⟩
  | number isNumber =>
    have foreign := foreign_number '['.toUInt8 isNumber (by decide) (by decide)
    exact ⟨none, readsAs_noList read foreign levels, readsAs_noList read foreign levels⟩
  | string _ _ =>
    exact ⟨none,
      readsAs_noList read (foreign_mark _ (by decide) (by decide) (by decide)) levels,
      readsAs_noList read (foreign_mark _ (by decide) (by decide) (by decide)) levels⟩
  | object _ isLeft isRight _ =>
    exact ⟨none, readsAs_noList read (foreign_isObject isLeft (by decide)) levels,
      readsAs_noList read (foreign_isObject isRight (by decide)) levels⟩
  | @list items _ _ each isLeft isRight =>
    cases levels with
    | zero => exact ⟨none, readsAs_listTooDeep read isLeft, readsAs_listTooDeep read isRight⟩
    | succ levels =>
      choose! meaning readsLeft readsRight using fun item member =>
        respects levels (each item member)
      refine ⟨items.mapM meaning, readsAs_list isLeft ?_, readsAs_list isRight ?_⟩
      · rintro item member _ rfl
        exact readsLeft item member
      · rintro item member _ rfl
        exact readsRight item member

theorem readsAs_nestedTooDeep {first : UInt8} (more : Bytes)
    (opens : first = '['.toUInt8 ∨ first = '\x7b'.toUInt8) :
    ReadsAs (value 0) (first :: more) none := by
  rcases opens with rfl | rfl
  all_goals
    apply ReadsAs.of_mark (by decide) (by decide)
    intro input rest _ begins
    rw [value, valueWith, begins]
    rfl

/-- Values of any shape: by induction on the two texts, for any number of levels. -/
theorem respects_value : Respects value := by
  intro levels left right same
  induction same generalizing levels with
  | literal listed =>
    obtain ⟨found, reads⟩ := readsAs_literal listed
    exact ⟨found.map Found.value, reads levels, reads levels⟩
  | number isNumber =>
    obtain ⟨found, reads⟩ := readsAs_number isNumber
    exact ⟨found.map Found.value, reads levels, reads levels⟩
  | string spelled respelled =>
    exact ⟨_, readsAs_string spelled levels, readsAs_string respelled levels⟩
  | @list items _ _ _ isLeft isRight ih =>
    cases levels with
    | zero =>
      cases isLeft
      cases isRight
      exact ⟨none, readsAs_nestedTooDeep _ (.inl rfl), readsAs_nestedTooDeep _ (.inl rfl)⟩
    | succ levels =>
      choose! meaning readsLeft readsRight using fun item member => ih item member levels
      have eachLeft : ∀ item ∈ items, ∀ text, text = item.1 →
          ReadsAs (value levels) text (meaning item) := by
        rintro item member _ rfl
        exact readsLeft item member
      have eachRight : ∀ item ∈ items, ∀ text, text = item.2 →
          ReadsAs (value levels) text (meaning item) := by
        rintro item member _ rfl
        exact readsRight item member
      exact ⟨_, readsAs_array isLeft eachLeft, readsAs_array isRight eachRight⟩
  | @object members order _ _ _ isLeft isRight moved ih =>
    cases levels with
    | zero =>
      cases isLeft
      cases isRight
      exact ⟨none, readsAs_nestedTooDeep _ (.inr rfl), readsAs_nestedTooDeep _ (.inr rfl)⟩
    | succ levels =>
      choose! meaning readsLeft readsRight using fun m member => ih m member levels
      have inOrder : ∀ m ∈ order, m ∈ members := by
        rcases moved with rfl | ⟨-, perm⟩
        · exact fun m member => member
        · exact fun m member => perm.mem_iff.mpr member
      have sameFold : members.foldlM (putMember (·.1) meaning) [] =
          order.foldlM (putMember (·.1) meaning) [] := by
        rcases moved with rfl | ⟨distinct, perm⟩
        · rfl
        · exact foldlM_putMember_perm distinct perm
      refine ⟨_, readsAs_object isLeft readsLeft, ?_⟩
      rw [sameFold]
      exact readsAs_object isRight fun m member => readsRight m (inOrder m member)

end Values

end KeyCustody.Json
