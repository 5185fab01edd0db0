import KeyCustody.Proofs.Aws.Creation
import KeyCustody.Proofs.Google.Creation
import Mathlib.Data.List.Nodup

/-!
How keys are named. The zero in front of a small index does not change what is read from a name, so
no two indices have one name.
-/
namespace KeyCustody

section Names

theorem ofDigitChars_repr (n : Nat) : Nat.ofDigitChars 10 n.repr.toList 0 = n := by
  rw [Nat.toList_repr, Nat.ofDigitChars_ten_toDigits]

/-- An index is read from its text, whether the text is padded or not. -/
theorem ofDigitChars_indexText (index : Nat) :
    Nat.ofDigitChars 10 (indexText index).toList 0 = index := by
  unfold indexText
  by_cases small : index < 10
  · have padded : ("0" ++ index.repr).toList = '0' :: index.repr.toList := String.toList_append
    rw [if_pos small, padded, Nat.ofDigitChars_cons]
    exact ofDigitChars_repr index
  · rw [if_neg small]
    exact ofDigitChars_repr index

theorem indexText_inj {i j : Nat} : indexText i = indexText j ↔ i = j := by
  constructor
  · intro same
    have read := congrArg (fun text => Nat.ofDigitChars 10 text.toList 0) same
    simpa only [ofDigitChars_indexText] using read
  · rintro rfl
    rfl

theorem keyName_inj (stem : String) {i j : Nat} : keyName stem i = keyName stem j ↔ i = j := by
  unfold keyName
  rw [String.append_right_inj, indexText_inj]

theorem keyName_injective (stem : String) : Function.Injective (keyName stem) :=
  fun _ _ same => (keyName_inj stem).mp same

namespace Plan

def names (p : Plan) (stem : String) : List String :=
  p.indices.map (keyName stem)

/-- From the start of a plan up to its end, and never the greatest index of 32 bits. -/
def Covers (p : Plan) (index : Nat) : Prop :=
  p.start.toNat ≤ index ∧ index < min (p.start.toNat + p.count.toNat) 0xffffffff

theorem names_nodup (p : Plan) (stem : String) : (p.names stem).Nodup :=
  (List.nodup_range' 1).map (keyName_injective stem)

/-- Two plans share a name only where they share an index. -/
theorem names_disjoint_iff (p q : Plan) (stem : String) :
    (p.names stem).Disjoint (q.names stem) ↔ ∀ index, ¬ (p.Covers index ∧ q.Covers index) := by
  unfold names
  rw [List.Disjoint.map_iff (keyName_injective stem)]
  simp only [List.Disjoint, mem_indices]
  exact forall_congr' fun index => ⟨fun apart both => apart both.1 both.2,
    fun apart inside other => apart ⟨inside, other⟩⟩

end Plan

end Names

section Runs
variable {σ α β : Type} {named? : Command → Option String} {names later : List String}

/-- Wherever a run starts, the names in its commands are these, one after another; a run that fails
may leave out some at the end. -/
def GivesNames (named? : Command → Option String) (run : Run σ α) (names : List String) : Prop :=
  ∀ s : Session σ, ∃ asked, (run.run s).2.calls = s.calls ++ asked ∧
    asked.filterMap named? <+: names ∧
    ∀ a, (run.run s).1 = .ok a → asked.filterMap named? = names

def NamesOnce (named? : Command → Option String) (run : Run σ α) (s : Session σ)
    (names : List String) : Prop :=
  ∃ asked, (run.run s).2.calls = s.calls ++ asked ∧ (asked.filterMap named?).Nodup ∧
    asked.filterMap named? <+: names ∧
    ∀ a, (run.run s).1 = .ok a → asked.filterMap named? = names

namespace GivesNames

theorem of_silent {run : Run σ α} (silent : ∀ s, (run.run s).2.calls = s.calls) :
    GivesNames named? run [] := by
  intro s
  refine ⟨[], ?_, List.prefix_rfl, fun _ _ => rfl⟩
  rw [silent, List.append_nil]

theorem of_command {run : Run σ α} {c : Command}
    (asked : ∀ s, (run.run s).2.calls = s.calls ++ [c]) :
    GivesNames named? run (named? c).toList := by
  have given : [c].filterMap named? = (named? c).toList := by
    cases found : named? c <;> simp [found]
  intro s
  exact ⟨[c], asked s, given ▸ List.prefix_rfl, fun _ _ => given⟩

theorem pure (a : α) : GivesNames named? (Pure.pure a : Run σ α) [] :=
  of_silent fun _ => rfl

theorem note (level : Level) (origin : Origin) (message : String)
    (details : List (String × Detail)) :
    GivesNames named? (Run.note level origin message details : Run σ Unit) [] :=
  of_silent fun _ => rfl

theorem wait (milliseconds : Nat) :
    GivesNames named? (Run.wait milliseconds : Run σ Unit) [] :=
  of_silent fun _ => rfl

/-- Also an output that is full gives no command. -/
theorem print (text : String) : GivesNames named? (Run.print text : Run σ Unit) [] := by
  apply of_silent
  intro s
  unfold Run.print Run.printBytes
  rw [Run.run_bind_ok _ (Run.run_get s)]
  rcases s.sink.put (Text.encode text) with ⟨complete, sink⟩
  cases complete <;> rfl

theorem checked (p : Provider σ) (c : Command) :
    GivesNames named? (Run.checked p c) (named? c).toList := by
  apply of_command
  intro s
  rw [Run.run_checked]
  rfl

theorem json (p : Provider σ) (read : Json.Reader α) (c : Command) :
    GivesNames named? (Run.json p read c) (named? c).toList := by
  apply of_command
  intro s
  rw [Run.run_json]
  rfl

theorem bind {x : Run σ α} {f : α → Run σ β} (first : GivesNames named? x names)
    (rest : ∀ a, GivesNames named? (f a) later) :
    GivesNames named? (x >>= f) (names ++ later) := by
  intro s
  obtain ⟨asked, calls, front, all⟩ := first s
  rw [run_bind]
  rcases ran : x.run s with ⟨found, m⟩
  rw [ran] at calls all
  cases found with
  | error failure =>
    refine ⟨asked, calls, front.trans (List.prefix_append names later), ?_⟩
    intro b done
    cases done
  | ok a =>
    -- A run that succeeds has given all of its names, so those of the rest come right behind.
    have given := all a rfl
    obtain ⟨others, callsLater, frontLater, allLater⟩ := rest a m
    refine ⟨asked ++ others, ?_, ?_, ?_⟩
    · rw [callsLater, calls, List.append_assoc]
    · rw [List.filterMap_append, given]
      exact (List.prefix_append_right_inj names).mpr frontLater
    · intro b done
      rw [List.filterMap_append, given, allLater b done]

theorem then_silent {x : Run σ α} {f : α → Run σ β} (first : GivesNames named? x names)
    (rest : ∀ a, GivesNames named? (f a) []) : GivesNames named? (x >>= f) names := by
  have both := first.bind rest
  rwa [List.append_nil] at both

/-- No name is given twice if none stands twice among the names of the run. -/
theorem namesOnce {run : Run σ α} (gives : GivesNames named? run names) (once : names.Nodup)
    (s : Session σ) : NamesOnce named? run s names := by
  obtain ⟨asked, calls, front, all⟩ := gives s
  exact ⟨asked, calls, once.sublist front.sublist, front, all⟩

end GivesNames

theorem provision_givesNames {create : Nat → Run σ α} {name : Nat → String}
    (each : ∀ index, GivesNames named? (create index) [name index]) (plan : Plan) :
    GivesNames named? (provision create plan) (plan.indices.map name) := by
  have created : GivesNames named? (createPlanned create plan) (plan.indices.map name) := by
    refine createPlanned_induction (motive := fun indices run =>
      GivesNames named? run (indices.map name)) create plan ?nil ?cons ?pause
    case nil => exact .pure []
    case cons =>
      intro index indices rest gives
      exact (each index).bind fun key => gives.then_silent fun keys => .pure (key :: keys)
    case pause =>
      intro indices milliseconds run gives
      exact (GivesNames.wait milliseconds).bind fun _ => gives
  exact created.then_silent fun keys => (GivesNames.print "DONE\n").bind fun _ => .pure keys

end Runs

section Tools
variable {σ : Type} (p : Provider σ)

def Aws.aliasMade? (c : Command) : Option String :=
  if c.arguments[1]? = some "create-alias" then c.value? "--alias-name" else none

theorem Aws.aliasMade_createAlias (settings : Aws.Settings) (name arn : String) :
    Aws.aliasMade? (settings.createAlias name arn) = some ("alias/" ++ name) :=
  (if_pos rfl).trans (Aws.createAlias_values settings name arn).1

theorem Aws.aliasMade_createKey (settings : Aws.Settings) :
    Aws.aliasMade? settings.createKey = none := by
  have other : some "create-key" ≠ some "create-alias" := by decide
  exact if_neg other

theorem Aws.createNamed_givesNames (settings : Aws.Settings) (index : Nat) :
    GivesNames Aws.aliasMade? (Aws.createNamed p settings index)
      ["alias/" ++ keyName settings.aliasStem index] := by
  have created : GivesNames Aws.aliasMade? (Aws.createKey p settings) [] := by
    have asked : GivesNames Aws.aliasMade?
        (Run.json p Aws.creationRecord.reader settings.createKey) _ := .json p _ _
    rw [Aws.aliasMade_createKey] at asked
    exact asked.bind fun key => .pure key.arn
  have aliased : ∀ name arn, GivesNames Aws.aliasMade? (Aws.createAlias p settings name arn)
      ["alias/" ++ name] := by
    intro name arn
    have asked : GivesNames Aws.aliasMade? (Run.checked p (settings.createAlias name arn)) _ :=
      .checked p _
    rw [Aws.aliasMade_createAlias] at asked
    exact asked.bind fun _ => .pure ()
  unfold Aws.createNamed
  refine (GivesNames.print _).bind fun _ => created.bind fun arn => ?_
  refine (GivesNames.print _).bind fun _ => (aliased _ arn).then_silent fun _ => ?_
  exact (GivesNames.print _).bind fun _ => (GivesNames.note _ _ _ _).bind fun _ => .pure _

def Google.keyMade? (c : Command) : Option String :=
  c.value? "create"

theorem Google.createNamed_givesNames (settings : Google.Settings) (stop index : Nat) :
    GivesNames Google.keyMade? (Google.createNamed p settings stop index)
      [keyName settings.keyStem index] := by
  have created : GivesNames Google.keyMade?
      (Google.createKey p settings (keyName settings.keyStem index))
      [keyName settings.keyStem index] := by
    have asked : GivesNames Google.keyMade? (Run.checked p (Google.creation settings index)) _ :=
      .checked p _
    unfold Google.keyMade? at asked
    rw [Google.create_creation] at asked
    exact asked.bind fun _ => .pure ()
  unfold Google.createNamed
  refine created.then_silent fun _ => (GivesNames.print _).bind fun _ => ?_
  exact (GivesNames.note _ _ _ _).bind fun _ => .pure _

variable (plan other : Plan) (s : Session σ)

theorem Aws.provision_namesOnce (settings : Aws.Settings) :
    NamesOnce Aws.aliasMade? (Aws.provision p settings plan) s
      ((plan.names settings.aliasStem).map ("alias/" ++ ·)) := by
  have gives := provision_givesNames (Aws.createNamed_givesNames p settings) plan
  have form : plan.indices.map (fun index => "alias/" ++ keyName settings.aliasStem index) =
      (plan.names settings.aliasStem).map ("alias/" ++ ·) := by
    rw [Plan.names, List.map_map]
    rfl
  rw [form] at gives
  have apart : Function.Injective ("alias/" ++ · : String → String) :=
    fun _ _ same => (String.append_right_inj "alias/").mp same
  exact gives.namesOnce ((plan.names_nodup settings.aliasStem).map apart) s

theorem Google.provision_namesOnce (settings : Google.Settings) :
    NamesOnce Google.keyMade? (Google.provision p settings plan) s
      (plan.names settings.keyStem) := by
  have gives := provision_givesNames (Google.createNamed_givesNames p settings plan.stop) plan
  exact gives.namesOnce (plan.names_nodup settings.keyStem) s

/-- No two indices have one name. So a plan names no key twice, two plans share a name exactly where
their indices overlap, and no creation gives one name to two keys, however far it gets. -/
theorem keyNames_distinct (aws : Aws.Settings) (google : Google.Settings) (stem : String) :
    (∀ i j : UInt32, keyName stem i.toNat = keyName stem j.toNat ↔ i = j) ∧
    (plan.names stem).Nodup ∧
    ((plan.names stem).Disjoint (other.names stem) ↔
      ∀ index, ¬ (plan.Covers index ∧ other.Covers index)) ∧
    NamesOnce Aws.aliasMade? (Aws.provision p aws plan) s
      ((plan.names aws.aliasStem).map ("alias/" ++ ·)) ∧
    NamesOnce Google.keyMade? (Google.provision p google plan) s (plan.names google.keyStem) := by
  refine ⟨?injective, plan.names_nodup stem, plan.names_disjoint_iff other stem,
    Aws.provision_namesOnce p plan s aws, Google.provision_namesOnce p plan s google⟩
  intro i j
  rw [keyName_inj, UInt32.toNat_inj]

example : Plan.names ⟨98, 4, 0⟩ "key_" = ["key_98", "key_99", "key_100", "key_101"] := by
  decide +kernel

end Tools

end KeyCustody
