import KeyCustody.Aws.Alias
import KeyCustody.Proofs.Json.Records

/-!
What an alias keeps of the text it is read from. Beside the alias, the same text is read as an
object of any members: both hold the same under every name, but for the members that may be null,
which are not written when they are.
-/
namespace KeyCustody.Aws

open Json

namespace Alias

section Entries

def entry (a : Alias) (name : String) : Option Value :=
  if name = "AliasName" then some (.text a.name)
  else if name = "AliasArn" then some (nullable a.arn)
  else if name = "TargetKeyId" then some (.text a.target)
  else if name = "KeyArn" then some (nullable a.keyArn)
  else if name = "PublicKey" then some (nullable a.publicKey)
  else if name = "PublicKeyPoint" then some (nullable a.point)
  else none

def IsField (name : String) : Prop :=
  name ∈ record.fields.map (·.name)

theorem isField_iff (name : String) :
    IsField name ↔ name = "AliasName" ∨ name = "AliasArn" ∨ name = "TargetKeyId" ∨
      name = "KeyArn" ∨ name = "PublicKey" ∨ name = "PublicKeyPoint" := by
  simp [IsField, record, required, defaulted, Field.map]

theorem entry_of_not_isField (a : Alias) {name : String} (unknown : ¬ IsField name) :
    a.entry name = none := by
  rw [isField_iff] at unknown
  simp only [not_or] at unknown
  obtain ⟨noName, noArn, noTarget, noKeyArn, noKey, noPoint⟩ := unknown
  rw [entry, if_neg noName, if_neg noArn, if_neg noTarget, if_neg noKeyArn, if_neg noKey,
    if_neg noPoint]

structure Sets (name : String) (v : Value) (a b : Alias) : Prop where
  extra : b.extra = a.extra
  entry : ∀ other, b.entry other = if other = name then some v else a.entry other

theorem sets_required {name : String} {set : String → Alias → Alias}
    (sets : ∀ s a, Sets name (.text s) a (set s a)) {levels : Nat} {input rest : Bytes}
    {change : Alias → Alias}
    (read : (required name text set).read levels input = .ok (change, rest)) :
    ∃ v, Json.value levels input = .ok (v, rest) ∧ ∀ a, Sets name v a (change a) := by
  obtain ⟨s, taken, rfl⟩ := Field.map_ok read
  exact ⟨.text s, value_of_text taken, sets s⟩

theorem sets_optional {name : String} {set : Option String → Alias → Alias}
    (sets : ∀ s a, Sets name (nullable s) a (set s a)) {levels : Nat} {input rest : Bytes}
    {change : Alias → Alias}
    (read : (defaulted name (optional text) set).read levels input = .ok (change, rest)) :
    ∃ v, Json.value levels input = .ok (v, rest) ∧ ∀ a, Sets name v a (change a) := by
  obtain ⟨s, taken, rfl⟩ := Field.map_ok read
  exact ⟨nullable s, value_of_optional taken, sets s⟩

/-- Reading a field puts what its member holds under its name. -/
theorem sets_of_field {name : String} {field : Json.Field Alias}
    (known : record.field? name = some field) {levels : Nat} {input rest : Bytes}
    {change : Alias → Alias} (read : field.read levels input = .ok (change, rest)) :
    ∃ v, Json.value levels input = .ok (v, rest) ∧ ∀ a, Sets name v a (change a) := by
  have member := List.mem_of_find?_eq_some known
  have named : field.name = name := by simpa using List.find?_some known
  subst named
  simp only [record, List.mem_cons, List.not_mem_nil, or_false] at member
  rcases member with rfl | rfl | rfl | rfl | rfl | rfl
  · apply sets_required _ read
    refine fun s a => ⟨rfl, fun other => ?_⟩
    by_cases same : other = "AliasName" <;> simp [entry, same]
  · apply sets_optional _ read
    refine fun s a => ⟨rfl, fun other => ?_⟩
    by_cases same : other = "AliasArn" <;> simp [entry, same]
  · apply sets_required _ read
    refine fun s a => ⟨rfl, fun other => ?_⟩
    by_cases same : other = "TargetKeyId" <;> simp [entry, same]
  · apply sets_optional _ read
    refine fun s a => ⟨rfl, fun other => ?_⟩
    by_cases same : other = "KeyArn" <;> simp [entry, same]
  · apply sets_optional _ read
    refine fun s a => ⟨rfl, fun other => ?_⟩
    by_cases same : other = "PublicKey" <;> simp [entry, same]
  · apply sets_optional _ read
    refine fun s a => ⟨rfl, fun other => ?_⟩
    by_cases same : other = "PublicKeyPoint" <;> simp [entry, same]

end Entries

section SideBySide

structure Agrees (part : Record.Partial Alias) (held : Members) : Prop where
  sorted : held.IsSorted
  extraSorted : part.record.extra.IsSorted
  seenFields : ∀ name ∈ part.seen, IsField name
  extraFields : ∀ name ∈ part.record.extra.names, ¬ IsField name
  lookup : ∀ name, held.lookup name =
    if name ∈ part.seen then part.record.entry name else part.record.extra.lookup name
  unseen : ∀ name, name ∉ part.seen → part.record.entry name = record.blank.entry name

theorem agrees_blank : Agrees ⟨record.blank, []⟩ [] where
  sorted := List.Pairwise.nil
  extraSorted := List.Pairwise.nil
  seenFields := by simp
  extraFields := by simp [record, Members.names]
  lookup := by simp [record]
  unseen := fun _ _ => rfl

theorem Agrees.field {part : Record.Partial Alias} {held : Members} (agrees : Agrees part held)
    {name : String} (known : IsField name) {v : Value} {b : Alias}
    (sets : Sets name v part.record b) :
    Agrees ⟨b, name :: part.seen⟩ (held.insert name v) where
  sorted := Members.isSorted_insert agrees.sorted name v
  extraSorted := by
    rw [sets.extra]
    exact agrees.extraSorted
  seenFields := by
    intro other member
    rcases List.mem_cons.mp member with rfl | earlier
    · exact known
    · exact agrees.seenFields other earlier
  extraFields := by
    rw [sets.extra]
    exact agrees.extraFields
  lookup := by
    intro other
    rw [sets.extra, sets.entry]
    by_cases same : other = name
    · subst same
      rw [Members.lookup_insert, if_pos List.mem_cons_self, if_pos rfl]
    · have seen : other ∈ name :: part.seen ↔ other ∈ part.seen := by simp [same]
      rw [Members.lookup_insert_of_ne same, agrees.lookup, if_neg same]
      simp only [seen]
  unseen := by
    intro other absent
    rw [List.mem_cons, not_or] at absent
    rw [sets.entry, if_neg absent.1]
    exact agrees.unseen other absent.2

theorem Agrees.extra {part : Record.Partial Alias} {held : Members} (agrees : Agrees part held)
    {name : String} (unknown : ¬ IsField name) (v : Value) :
    Agrees ⟨{ part.record with extra := part.record.extra.insert name v }, part.seen⟩
      (held.insert name v) where
  sorted := Members.isSorted_insert agrees.sorted name v
  extraSorted := Members.isSorted_insert agrees.extraSorted name v
  seenFields := agrees.seenFields
  extraFields := by
    intro other member
    rcases (Members.mem_names_insert name other v _).mp member with rfl | earlier
    · exact unknown
    · exact agrees.extraFields other earlier
  lookup := by
    intro other
    by_cases same : other = name
    · subst same
      have fresh : other ∉ part.seen := fun seen => unknown (agrees.seenFields other seen)
      rw [Members.lookup_insert, if_neg fresh, Members.lookup_insert]
    · rw [Members.lookup_insert_of_ne same, Members.lookup_insert_of_ne same]
      exact agrees.lookup other
  unseen := agrees.unseen

theorem agrees_readMember {levels : Nat} {name : String} {part next : Record.Partial Alias}
    {held : Members} {input rest : Bytes} (agrees : Agrees part held)
    (read : record.readMember levels name part input = .ok (next, rest)) :
    ∃ other, keepMember (Json.value levels) name held input = .ok (other, rest) ∧
      Agrees next other := by
  unfold Record.readMember at read
  split at read
  · next field known =>
    have isField : IsField name := by
      by_cases named : IsField name
      · exact named
      · rw [(Record.field?_eq_none_iff record name).mpr named] at known
        cases known
    split at read
    · cases read
    obtain ⟨behind, colon, taken⟩ := (bind_ok_iff _ _ _).mp read
    obtain ⟨⟨set, left⟩, here, same⟩ := (bind_ok_iff _ _ _).mp taken
    cases same
    obtain ⟨v, plain, sets⟩ := sets_of_field known here
    refine ⟨held.insert name v, ?_, agrees.field isField (sets part.record)⟩
    rw [keepMember, colon, ok_bind, plain]
    rfl
  · next unknown =>
    have noField := (Record.field?_eq_none_iff record name).mp unknown
    obtain ⟨behind, colon, taken⟩ := (bind_ok_iff _ _ _).mp read
    obtain ⟨⟨v, left⟩, plain, same⟩ := (bind_ok_iff _ _ _).mp taken
    cases same
    refine ⟨held.insert name v, ?_, agrees.extra noField v⟩
    rw [keepMember, colon, ok_bind, plain]
    rfl

theorem missing?_eq_none_iff (seen : List String) :
    record.missing? seen = none ↔ "AliasName" ∈ seen ∧ "TargetKeyId" ∈ seen := by
  simp [Record.missing?, record, required, defaulted, Field.map]

end SideBySide

section Written

def nullableNames : List String :=
  ["AliasArn", "KeyArn", "PublicKey", "PublicKeyPoint"]

def isOmitted (m : String × Value) : Bool :=
  match m.2 with
  | .null => m.1 ∈ nullableNames
  | _ => false

theorem isOmitted_of_not_isField {name : String} (unknown : ¬ IsField name) (v : Value) :
    isOmitted (name, v) = false := by
  rw [isField_iff] at unknown
  cases v with
  | null =>
    simp only [isOmitted, nullableNames, decide_eq_false_iff_not, List.mem_cons,
      List.not_mem_nil, or_false]
    tauto
  | _ => rfl

theorem filter_nullable {name : String} (may : name ∈ nullableNames) (text : Option String) :
    ((some (nullable text)).filter fun v => !isOmitted (name, v)) = text.map Value.text := by
  cases text with
  | none => simp [Option.filter, nullable, isOmitted, may]
  | some s => rfl

theorem lookup_optionalMember (name other : String) (text : Option String) :
    List.lookup other (optionalMember name text) =
      if other = name then text.map Value.text else none := by
  cases text with
  | none => simp [optionalMember]
  | some s =>
    by_cases same : other = name
    · simp [optionalMember, same]
    · simp [optionalMember, same, List.lookup_cons, beq_eq_false_iff_ne.mpr same]

theorem mem_names_optionalMember (name other : String) (text : Option String) :
    other ∈ Members.names (optionalMember name text) ↔ text.isSome ∧ other = name := by
  cases text <;> simp [optionalMember, Members.names]

theorem members_eq (a : Alias) :
    a.members = optionalMember "AliasName" (some a.name) ++ (optionalMember "AliasArn" a.arn ++
      (optionalMember "TargetKeyId" (some a.target) ++ (a.extra ++
        (optionalMember "KeyArn" a.keyArn ++ (optionalMember "PublicKey" a.publicKey ++
          optionalMember "PublicKeyPoint" a.point))))) := by
  simp [members, optionalMember]

theorem lookup_members {a : Alias} (noField : ∀ name ∈ a.extra.names, ¬ IsField name)
    (name : String) :
    a.members.lookup name =
      ((a.entry name).filter fun v => !isOmitted (name, v)).or (a.extra.lookup name) := by
  rw [members_eq]
  simp only [List.lookup_append, lookup_optionalMember]
  by_cases isField : IsField name
  · have noExtra : a.extra.lookup name = none :=
      (Members.lookup_eq_none_iff a.extra name).mpr fun member => noField name member isField
    rw [noExtra, Option.or_none]
    rw [isField_iff] at isField
    rcases isField with rfl | rfl | rfl | rfl | rfl | rfl
    · rfl
    · simpa [entry] using (filter_nullable (by decide : "AliasArn" ∈ nullableNames) a.arn).symm
    · rfl
    · simpa [entry] using (filter_nullable (by decide : "KeyArn" ∈ nullableNames) a.keyArn).symm
    · simpa [entry] using
        (filter_nullable (by decide : "PublicKey" ∈ nullableNames) a.publicKey).symm
    · simpa [entry] using
        (filter_nullable (by decide : "PublicKeyPoint" ∈ nullableNames) a.point).symm
  · rw [entry_of_not_isField a isField]
    rw [isField_iff] at isField
    simp only [not_or] at isField
    obtain ⟨noName, noArn, noTarget, noKeyArn, noKey, noPoint⟩ := isField
    simp [noName, noArn, noTarget, noKeyArn, noKey, noPoint]

theorem distinct_optionalMember {name : String} {text : Option String} {others : Members}
    (fresh : name ∉ others.names) (distinct : others.names.Nodup) :
    (Members.names (optionalMember name text ++ others)).Nodup := by
  cases text with
  | none => exact distinct
  | some s => exact List.nodup_cons.mpr ⟨fresh, distinct⟩

theorem distinct_members {a : Alias} (sorted : a.extra.IsSorted)
    (noField : ∀ name ∈ a.extra.names, ¬ IsField name) : a.members.names.Nodup := by
  have absent : ∀ {name}, IsField name → name ∉ a.extra.names :=
    fun isField member => noField _ member isField
  rw [members_eq]
  apply distinct_optionalMember
  · simp [Members.mem_names_append, mem_names_optionalMember, absent, isField_iff]
  apply distinct_optionalMember
  · simp [Members.mem_names_append, mem_names_optionalMember, absent, isField_iff]
  apply distinct_optionalMember
  · simp [Members.mem_names_append, mem_names_optionalMember, absent, isField_iff]
  apply Members.distinct_append sorted.distinct
  · apply distinct_optionalMember
    · simp [Members.mem_names_append, mem_names_optionalMember]
    apply distinct_optionalMember
    · simp [mem_names_optionalMember]
    · cases a.point <;> simp [optionalMember, Members.names]
  · intro name extra later
    simp only [Members.mem_names_append, mem_names_optionalMember] at later
    apply noField name extra
    rw [isField_iff]
    tauto

/-- The members that are written hold what was read, less those that are left out. -/
theorem Agrees.lookup_written {a : Alias} {seen : List String} {held : Members}
    (agrees : Agrees ⟨a, seen⟩ held) (complete : record.missing? seen = none) (name : String) :
    a.members.lookup name = (held.filter fun m => !isOmitted m).lookup name := by
  rw [agrees.sorted.lookup_filter, agrees.lookup, lookup_members agrees.extraFields]
  simp only
  by_cases isField : IsField name
  · have noExtra : a.extra.lookup name = none :=
      (Members.lookup_eq_none_iff a.extra name).mpr fun member =>
        agrees.extraFields name member isField
    rw [noExtra, Option.or_none]
    by_cases known : name ∈ seen
    · rw [if_pos known]
    · rw [if_neg known, agrees.unseen name known]
      obtain ⟨hasName, hasTarget⟩ := (missing?_eq_none_iff seen).mp complete
      rw [isField_iff] at isField
      rcases isField with rfl | rfl | rfl | rfl | rfl | rfl
      · exact absurd hasName known
      · rfl
      · exact absurd hasTarget known
      all_goals rfl
  · have unseen : name ∉ seen := fun known => isField (agrees.seenFields name known)
    rw [if_neg unseen, entry_of_not_isField a isField]
    cases found : a.extra.lookup name with
    | none => rfl
    | some v => simp [Option.filter, isOmitted_of_not_isField isField]

theorem insertAll_members {a : Alias} {seen : List String} {held : Members}
    (agrees : Agrees ⟨a, seen⟩ held) (complete : record.missing? seen = none) :
    Members.insertAll [] a.members = held.filter fun m => !isOmitted m := by
  have distinct := distinct_members agrees.extraSorted agrees.extraFields
  apply Members.IsSorted.ext (Members.isSorted_insertAll List.Pairwise.nil a.members)
    (agrees.sorted.filter _)
  intro name
  rw [Members.lookup_insertAll [] distinct, List.lookup_nil, Option.or_none]
  exact agrees.lookup_written complete name

end Written

section ReadBack

variable {levels : Nat} {gap : List Char} {write : Value → List Char}

theorem reads_required (writes : Writes write) (isGap : IsGap gap) (name : String)
    {set : String → Alias → Alias} (known : record.field? name = some (required name text set))
    (part : Record.Partial Alias) (fresh : name ∉ part.seen) (s : String) :
    Reads (record.readMember levels)
      ((optionalMember name (some s)).map fun m => (m.1, gap ++ write m.2)) part
      ⟨set s part.record, name :: part.seen⟩ := by
  have spelled := spells_textField levels s
  rw [← writes.text] at spelled
  exact Record.reads_field known fresh isGap spelled.map

theorem reads_optional (writes : Writes write) (isGap : IsGap gap) (name : String)
    {set : Option String → Alias → Alias}
    (known : record.field? name = some (defaulted name (optional text) set))
    (part : Record.Partial Alias) (fresh : name ∉ part.seen)
    (blank : set none part.record = part.record) (s : Option String) :
    Reads (record.readMember levels)
      ((optionalMember name s).map fun m => (m.1, gap ++ write m.2)) part
      ⟨set s part.record, Members.names (optionalMember name s) ++ part.seen⟩ := by
  cases s with
  | none =>
    rw [blank]
    exact .nil part
  | some s =>
    have spelled := spells_optionalField levels s
    rw [← writes.text] at spelled
    exact Record.reads_field known fresh isGap spelled.map

theorem foldl_keep (ms : Members) (a : Alias) :
    ms.foldl (fun a m => { a with extra := a.extra.insert m.1 m.2 }) a =
      { a with extra := a.extra.insertAll ms } := by
  induction ms generalizing a with
  | nil => rfl
  | cons m ms ih =>
    rw [List.foldl_cons, ih]
    rfl

/-- The members of an alias lead back to it. -/
theorem reads_members (writes : Writes write) (isGap : IsGap gap) {a : Alias}
    (sorted : a.extra.IsSorted) (noField : ∀ name ∈ a.extra.names, ¬ IsField name)
    (readable : ∀ m ∈ a.extra, m.2.Readable levels) :
    ∃ seen, Reads (record.readMember levels) (a.members.map fun m => (m.1, gap ++ write m.2))
        ⟨record.blank, []⟩ ⟨a, seen⟩ ∧ record.missing? seen = none := by
  have kept : ∀ (b : Alias) (seen : List String), b.extra = [] →
      Reads (record.readMember levels) (a.extra.map fun m => (m.1, gap ++ write m.2)) ⟨b, seen⟩
        ⟨{ b with extra := a.extra }, seen⟩ := by
    intro b seen none
    have unknown : ∀ m ∈ a.extra, record.field? m.1 = Option.none := fun m member =>
      (Record.field?_eq_none_iff record m.1).mpr (noField m.1 (List.mem_map_of_mem member))
    have reads := Record.reads_kept (r := record) rfl isGap unknown
      (fun m member => writes.spells (readable m member)) b seen
    rw [foldl_keep, none, sorted.insertAll_nil] at reads
    exact reads
  have name : Reads (record.readMember levels) _ _ _ :=
    reads_required writes isGap "AliasName" rfl ⟨record.blank, []⟩ List.not_mem_nil a.name
  have arn := name.append (reads_optional writes isGap "AliasArn" rfl _ (by simp) rfl a.arn)
  have target := arn.append (reads_required writes isGap "TargetKeyId" rfl _
    (by simp [mem_names_optionalMember]) a.target)
  have extra := target.append (kept _ _ rfl)
  have keyArn := extra.append (reads_optional writes isGap "KeyArn" rfl _
    (by simp [mem_names_optionalMember]) rfl a.keyArn)
  have publicKey := keyArn.append (reads_optional writes isGap "PublicKey" rfl _
    (by simp [mem_names_optionalMember]) rfl a.publicKey)
  have point := publicKey.append (reads_optional writes isGap "PublicKeyPoint" rfl _
    (by simp [mem_names_optionalMember]) rfl a.point)
  simp only [← List.map_append, List.append_assoc, ← members_eq] at point
  refine ⟨_, point, ?_⟩
  rw [missing?_eq_none_iff]
  simp

end ReadBack

section Verbatim

theorem text_of_mem_optionalMember {name : String} {text : Option String} {m : String × Value}
    (member : m ∈ optionalMember name text) : ∃ s, m.2 = .text s := by
  cases text with
  | none => cases member
  | some s => exact ⟨s, congrArg Prod.snd (List.mem_singleton.mp member)⟩

theorem readable_members {levels : Nat} {a : Alias}
    (readable : ∀ m ∈ a.extra, m.2.Readable levels) : ∀ m ∈ a.members, m.2.Readable levels := by
  intro m member
  have shape : m ∈ a.extra ∨ ∃ s, m.2 = .text s := by
    rw [members_eq] at member
    simp only [List.mem_append] at member
    rcases member with field | field | field | extra | field | field | field
    case inr.inr.inr.inl => exact .inl extra
    all_goals exact .inr (text_of_mem_optionalMember field)
  rcases shape with extra | ⟨s, text⟩
  · exact readable m extra
  · rw [text]
    exact .text levels s

theorem Agrees.mem_of_extra {a : Alias} {seen : List String} {held : Members}
    (agrees : Agrees ⟨a, seen⟩ held) {m : String × Value} (member : m ∈ a.extra) : m ∈ held := by
  have noField := agrees.extraFields m.1 (List.mem_map_of_mem member)
  have unseen : m.1 ∉ seen := fun known => noField (agrees.seenFields m.1 known)
  have here := (Members.mem_iff_of_distinct agrees.extraSorted.distinct m.1 m.2).mp member
  apply Members.mem_of_lookup
  rw [agrees.lookup, if_neg unseen]
  exact here

/-- Both written forms of an alias, read as an object and read as an alias. -/
theorem spells_written {levels : Nat} {write : Value → List Char} (writes : Writes write)
    {a : Alias} {cs : List Char} (text : IsObjectText write a.members cs) {seen : List String}
    {held : Members} (agrees : Agrees ⟨a, seen⟩ held) (complete : record.missing? seen = none)
    (readable : ∀ m ∈ held, m.2.Readable levels) :
    Spells (Json.value (levels + 1)) cs (.object (held.filter fun m => !isOmitted m)) ∧
      Spells (record.reader (levels + 1)) cs a := by
  have extraReadable : ∀ m ∈ a.extra, m.2.Readable levels := fun m member =>
    readable m (agrees.mem_of_extra member)
  constructor
  · have plain := text.spells fun m member =>
      writes.spells (readable_members extraReadable m member)
    rw [insertAll_members agrees complete] at plain
    exact plain
  · cases text with
    | intro isGap isInner isClosing =>
      obtain ⟨seen, reads, complete⟩ :=
        reads_members writes isInner agrees.extraSorted agrees.extraFields extraReadable
      exact Record.spells_reader isGap isClosing reads complete

/-- An alias is written with the members that its text has, whatever their names and values, but for
those that may be null and are; and what is written is read as the same alias again. A number is
whole when its text has neither fraction nor exponent, fits 64 bits and is not minus zero; others
are rounded. -/
theorem carried_verbatim (input : Bytes) (a : Alias) (read : decode record.reader input = .ok a) :
    ∃ held : Members, decode Json.value input = .ok (.object held) ∧
      ((Value.object held).IsWhole → ∀ text, text = a.value.compact ∨ text = a.value.pretty →
        decode Json.value (Text.encode text) =
            .ok (.object (held.filter fun m => !isOmitted m)) ∧
          decode record.reader (Text.encode text) = .ok a) := by
  obtain ⟨rest, taken, ends⟩ := (decode_ok_iff _ _ _).mp read
  obtain ⟨held, seen, plain, agrees, complete⟩ :=
    Record.exists_object_of_reader (fun _ _ _ _ _ _ => agrees_readMember) agrees_blank rfl taken
  refine ⟨held, (decode_ok_iff _ _ _).mpr ⟨rest, plain, ends⟩, ?_⟩
  intro whole text written
  have readable : ∀ m ∈ held, m.2.Readable 126 := by
    cases readable_of_value plain whole with
    | object _ members => exact members
  rcases written with rfl | rfl
  · obtain ⟨object, again⟩ := spells_written writes_compact (isObjectText_compact a.members) agrees
      complete readable
    exact ⟨decode_spelled object, decode_spelled again⟩
  · obtain ⟨object, again⟩ := spells_written (writes_pretty 1) (isObjectText_pretty 0 a.members)
      agrees complete readable
    exact ⟨decode_spelled object, decode_spelled again⟩

def nestedText : String :=
  "\x7b\"Tags\": 0.5, \"AliasArn\": null, \"TargetKeyId\": \"k\\u00e9\", \"Tags\": " ++
    "[18446744073709551615, \x7b\"b\": \"\\n\\ud83d\\ude00\", \"a\": null\x7d], " ++
    "\"AliasName\": \"alias/k\"\x7d"

def nestedTags : Value :=
  .array [.number (.integer 18446744073709551615),
    .object [("a", .null), ("b", .text "\n😀")]]

def nestedAlias : Alias :=
  { name := "alias/k", target := "ké", extra := [("Tags", nestedTags)] }

theorem isWhole_nestedTags : nestedTags.IsWhole := by
  apply Value.IsWhole.array
  intro v member
  simp only [List.mem_cons, List.not_mem_nil, or_false] at member
  rcases member with rfl | rfl
  · exact .integer _
  · apply Value.IsWhole.object
    intro m member
    simp only [List.mem_cons, List.not_mem_nil, or_false] at member
    rcases member with rfl | rfl
    · exact .null
    · exact .text _

set_option maxRecDepth 4000 in
theorem carried_verbatim_nested :
    decode record.reader (Text.encode nestedText) = .ok nestedAlias ∧
      decode Json.value (Text.encode nestedAlias.value.compact) =
        .ok (.object [("AliasName", .text "alias/k"), ("Tags", nestedTags),
          ("TargetKeyId", .text "ké")]) ∧
      decode record.reader (Text.encode nestedAlias.value.pretty) = .ok nestedAlias := by
  have read : decode record.reader (Text.encode nestedText) = .ok nestedAlias := rfl
  have object : decode Json.value (Text.encode nestedText) =
      .ok (.object [("AliasArn", .null), ("AliasName", .text "alias/k"), ("Tags", nestedTags),
        ("TargetKeyId", .text "ké")]) := rfl
  obtain ⟨held, plain, verbatim⟩ := carried_verbatim (Text.encode nestedText) nestedAlias read
  rw [object] at plain
  cases plain
  have whole : (Value.object [("AliasArn", .null), ("AliasName", .text "alias/k"),
      ("Tags", nestedTags), ("TargetKeyId", .text "ké")]).IsWhole := by
    apply Value.IsWhole.object
    intro m member
    simp only [List.mem_cons, List.not_mem_nil, or_false] at member
    rcases member with rfl | rfl | rfl | rfl
    · exact .null
    · exact .text _
    · exact isWhole_nestedTags
    · exact .text _
  exact ⟨read, (verbatim whole _ (.inl rfl)).1, (verbatim whole _ (.inr rfl)).2⟩

end Verbatim

end Alias

end KeyCustody.Aws
