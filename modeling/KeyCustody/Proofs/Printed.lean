import KeyCustody.Google.Key
import KeyCustody.Proofs.Aws.AliasText
import KeyCustody.Proofs.Aws.Inventory

namespace KeyCustody

open Json

section Lists
variable {α : Type}

inductive Holds (shows : String → Value → Prop) : Value → Prop where
  | intro {ms : Members} (distinct : ms.names.Nodup)
      (members : ∀ name v, (name, v) ∈ ms ↔ shows name v) : Holds shows (.object ms)

theorem decode_printed {shows : α → String → Value → Prop} (members : α → Members)
    {records : List α} (distinct : ∀ r ∈ records, (members r).names.Nodup)
    (shown : ∀ r ∈ records, ∀ name v, (name, v) ∈ members r ↔ shows r name v)
    (readable : ∀ r ∈ records, ∀ m ∈ members r, m.2.Readable 125) :
    ∃ objects, decode Json.value (Text.encode
          ((Value.array (records.map fun r => .object (members r))).pretty ++ "\n")) =
        .ok (.array objects) ∧
      List.Forall₂ (fun r object => Holds (shows r) object) records objects := by
  refine ⟨records.map fun r => .object (Members.insertAll [] (members r)), ?_, ?_⟩
  · have each : List.Forall₂ (fun v read => Spells (Json.value 126) (Value.prettyChars 1 v) read)
        (records.map fun r => .object (members r))
        (records.map fun r => .object (Members.insertAll [] (members r))) := by
      rw [List.forall₂_map_left_iff, List.forall₂_map_right_iff, List.forall₂_same]
      intro r member
      exact (isObjectText_pretty 1 (members r)).spells fun m inside =>
        spells_pretty (readable r member m inside) 2
    have newline : IsGap ['\n'] := fun c member => .inr (List.mem_singleton.mp member)
    have spelled : Spells (Json.value greatestDepth) _ _ := spells_prettyArray each
    have read := decode_spelled_gap spelled newline
    rw [String.ofList_append] at read
    exact read
  · rw [List.forall₂_map_right_iff, List.forall₂_same]
    intro r member
    refine .intro (Members.isSorted_insertAll List.Pairwise.nil _).distinct fun name v => ?_
    rw [Members.mem_insertAll_nil_iff (distinct r member)]
    exact shown r member name v

end Lists

namespace Aws

inductive Alias.Shows (a : Alias) : String → Value → Prop where
  | name : Shows a "AliasName" (.text a.name)
  | arn {s : String} (given : a.arn = some s) : Shows a "AliasArn" (.text s)
  | target : Shows a "TargetKeyId" (.text a.target)
  | extra {m : String × Value} (carried : m ∈ a.extra) : Shows a m.1 m.2
  | keyArn {s : String} (given : a.keyArn = some s) : Shows a "KeyArn" (.text s)
  | publicKey {s : String} (given : a.publicKey = some s) : Shows a "PublicKey" (.text s)
  | point {s : String} (given : a.point = some s) : Shows a "PublicKeyPoint" (.text s)

namespace Alias

theorem mem_optionalMember {name : String} {text : Option String} {m : String × Value} :
    m ∈ optionalMember name text ↔ ∃ s, text = some s ∧ m = (name, .text s) := by
  cases text <;> simp [optionalMember]

theorem mem_members_iff (a : Alias) (name : String) (v : Value) :
    (name, v) ∈ a.members ↔ a.Shows name v := by
  rw [members_eq]
  simp only [List.mem_append, mem_optionalMember]
  constructor
  · rintro (⟨s, given, same⟩ | ⟨s, given, same⟩ | ⟨s, given, same⟩ | carried | ⟨s, given, same⟩ |
      ⟨s, given, same⟩ | ⟨s, given, same⟩)
    case inr.inr.inr.inl => exact .extra carried
    all_goals cases same
    · cases given
      exact .name
    · exact .arn given
    · cases given
      exact .target
    · exact .keyArn given
    · exact .publicKey given
    · exact .point given
  · intro shown
    cases shown with
    | name => exact .inl ⟨_, rfl, rfl⟩
    | arn given => exact .inr (.inl ⟨_, given, rfl⟩)
    | target => exact .inr (.inr (.inl ⟨_, rfl, rfl⟩))
    | extra carried => exact .inr (.inr (.inr (.inl carried)))
    | keyArn given => exact .inr (.inr (.inr (.inr (.inl ⟨_, given, rfl⟩))))
    | publicKey given => exact .inr (.inr (.inr (.inr (.inr (.inl ⟨_, given, rfl⟩)))))
    | point given => exact .inr (.inr (.inr (.inr (.inr (.inr ⟨_, given, rfl⟩)))))

structure Carries (a : Alias) : Prop where
  sorted : a.extra.IsSorted
  unknown : ∀ name ∈ a.extra.names, ¬ IsField name
  readable : (∀ m ∈ a.extra, m.2.IsWhole) → ∀ m ∈ a.extra, m.2.Readable 125

theorem isWhole_entry {a : Alias} {name : String} {v : Value} (found : a.entry name = some v) :
    v.IsWhole := by
  have text : ∀ s : Option String, (nullable s).IsWhole := by
    intro s
    cases s with
    | none => exact .null
    | some s => exact .text s
  unfold entry at found
  split_ifs at found
  all_goals cases found
  · exact .text a.name
  · exact text a.arn
  · exact .text a.target
  · exact text a.keyArn
  · exact text a.publicKey
  · exact text a.point

theorem Agrees.isWhole {a : Alias} {seen : List String} {held : Members}
    (agrees : Agrees ⟨a, seen⟩ held) (whole : ∀ m ∈ a.extra, m.2.IsWhole) :
    (Value.object held).IsWhole := by
  refine .object fun m member => ?_
  have found := (Members.mem_iff_of_distinct agrees.sorted.distinct m.1 m.2).mp member
  rw [agrees.lookup] at found
  by_cases known : m.1 ∈ seen
  · rw [if_pos known] at found
    exact isWhole_entry found
  · rw [if_neg known] at found
    exact whole m (Members.mem_of_lookup found)

theorem carries_of_reader {input rest : Bytes} {a : Alias}
    (read : record.reader 126 input = .ok (a, rest)) : a.Carries := by
  obtain ⟨held, seen, plain, agrees, -⟩ :=
    Record.exists_object_of_reader (fun _ _ _ _ _ _ => agrees_readMember) agrees_blank rfl read
  refine ⟨agrees.extraSorted, agrees.extraFields, fun whole m member => ?_⟩
  cases readable_of_value plain (agrees.isWhole whole) with
  | object _ members => exact members m (agrees.mem_of_extra member)

theorem carries_of_prints {reply : Reply} {listed : List Alias}
    (told : Prints (Json.list record.reader) reply listed) : ∀ a ∈ listed, a.Carries := by
  obtain ⟨ending, -, -, decoded⟩ := told
  obtain ⟨rest, read, -⟩ := (decode_ok_iff _ _ _).mp decoded
  unfold Json.list greatestDepth at read
  split at read
  · cases read
  · split at read
    · exact itemsFrom_forall (fun _ _ _ => carries_of_reader) (List.forall_mem_nil _) read
    · cases read

/-- An inventory changes only what an alias does not carry along. -/
theorem carries_of_inventory {σ : Type} {p : Provider σ} {settings : Settings} {withPoint : Bool}
    {s : Session σ} {results : List Alias}
    (done : ((inventory p settings withPoint).run s).1 = .ok results) :
    ∀ a ∈ results, a.Carries := by
  obtain ⟨keys, listed, arns, fetched, complete, enriched⟩ :=
    (inventory_ok_iff p settings withPoint s results).mp done
  intro a member
  obtain ⟨pair, among, key, -, point, -, rfl⟩ := exists_left_of_related enriched a member
  have carries := carries_of_prints complete.aliasesListed pair.1 (List.of_mem_zip among).1
  exact ⟨carries.sorted, carries.unknown, carries.readable⟩

theorem decode_aliases {records : List Alias} (carry : ∀ a ∈ records, a.Carries)
    (whole : ∀ a ∈ records, ∀ m ∈ a.extra, m.2.IsWhole) :
    ∃ objects, decode Json.value
          (Text.encode ((Value.array (records.map value)).pretty ++ "\n")) = .ok (.array objects) ∧
      List.Forall₂ (fun a object => Holds a.Shows object) records objects :=
  decode_printed members
    (fun a member => distinct_members (carry a member).sorted (carry a member).unknown)
    (fun a _ => a.mem_members_iff)
    (fun a member => readable_members ((carry a member).readable (whole a member)))

end Alias

end Aws

namespace Google

inductive KeyRecord.Shows (r : KeyRecord) : String → Value → Prop where
  | createTime : Shows r "createTime" (.text r.createTime)
  | name : Shows r "name" (.text r.name)
  | publicKey {s : String} (given : r.publicKey = some s) : Shows r "publicKey" (.text s)
  | point {s : String} (given : r.point = some s) : Shows r "publicKeyPoint" (.text s)

namespace KeyRecord

def members (r : KeyRecord) : Members :=
  ("createTime", .text r.createTime) :: ("name", .text r.name) ::
    ((r.publicKey.map fun s => ("publicKey", Value.text s)).toList ++
      (r.point.map fun s => ("publicKeyPoint", Value.text s)).toList)

theorem mem_members_iff (r : KeyRecord) (name : String) (v : Value) :
    (name, v) ∈ r.members ↔ r.Shows name v := by
  unfold members
  simp only [List.mem_cons, List.mem_append, Option.mem_toList, Option.map_eq_some_iff]
  constructor
  · rintro (same | same | ⟨s, given, same⟩ | ⟨s, given, same⟩)
    all_goals cases same
    · exact .createTime
    · exact .name
    · exact .publicKey given
    · exact .point given
  · intro shown
    cases shown with
    | createTime => exact .inl rfl
    | name => exact .inr (.inl rfl)
    | publicKey given => exact .inr (.inr (.inl ⟨_, given, rfl⟩))
    | point given => exact .inr (.inr (.inr ⟨_, given, rfl⟩))

theorem distinct_members (r : KeyRecord) : r.members.names.Nodup := by
  unfold members
  cases r.publicKey <;> cases r.point <;> simp [Members.names]

theorem readable_members (r : KeyRecord) : ∀ m ∈ r.members, m.2.Readable 125 := by
  rintro ⟨name, v⟩ member
  cases (r.mem_members_iff name v).mp member <;> exact .text 125 _

theorem decode_records (records : List KeyRecord) :
    ∃ objects, decode Json.value
          (Text.encode ((Value.array (records.map value)).pretty ++ "\n")) = .ok (.array objects) ∧
      List.Forall₂ (fun r object => Holds r.Shows object) records objects :=
  decode_printed members (fun r _ => r.distinct_members)
    (fun r _ => r.mem_members_iff) (fun r _ => r.readable_members)

end KeyRecord

end Google

end KeyCustody
