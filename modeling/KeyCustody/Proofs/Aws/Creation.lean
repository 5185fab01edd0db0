import KeyCustody.Aws.Creation
import KeyCustody.Proofs.Precedence
import KeyCustody.Proofs.Provisioning

/-!
What a creation of AWS keys asks and prints. Each key takes two commands, and the first command that
fails is the last one; what was created before it stays on the output.
-/
namespace KeyCustody.Aws

variable {σ : Type}

section Courses

inductive Halt where
  | complete
  | atKey (name : String) (failure : Failure)
  | atAlias (key : NamedKey) (failure : Failure)

def nameLine (name : String) : String := "KeyName " ++ name ++ "\n"

def arnLine (arn : String) : String := "KeyArn " ++ arn ++ "\n"

def keyLines (key : NamedKey) : String := nameLine key.name ++ arnLine key.arn ++ "_\n"

def keyCommands (settings : Settings) (key : NamedKey) : List Command :=
  [settings.createKey, settings.createAlias key.name key.arn]

namespace Halt

def result (made : List NamedKey) : Halt → Except Failure (List NamedKey)
  | complete => .ok made
  | atKey _ failure => .error failure
  | atAlias _ failure => .error failure

theorem result_cons (key : NamedKey) (made : List NamedKey) (halt : Halt) :
    halt.result (key :: made) = (halt.result made).map (key :: ·) := by
  cases halt <;> rfl

def commands (settings : Settings) : Halt → List Command
  | complete => []
  | atKey _ _ => [settings.createKey]
  | atAlias key _ => keyCommands settings key

def progress : Halt → String
  | complete => ""
  | atKey name _ => nameLine name
  | atAlias key _ => nameLine key.name ++ arnLine key.arn

def closing : Halt → String
  | complete => "DONE\n"
  | atKey _ _ => ""
  | atAlias _ _ => ""

end Halt

def commandsOf (settings : Settings) (made : List NamedKey) (halt : Halt) : List Command :=
  made.flatMap (keyCommands settings) ++ halt.commands settings

def progressOf (made : List NamedKey) (halt : Halt) : String :=
  String.join (made.map keyLines) ++ halt.progress

/-- Where a creation for these names comes when its commands get these replies: the keys it makes,
in the order of the names, and where it ends. -/
inductive Course (settings : Settings) : List String → List Reply → List NamedKey → Halt → Prop where
  | complete : Course settings [] [] [] .complete
  | atKey {name : String} {names : List String} {reply : Reply} {failure : Failure}
    (refused : Refused creationRecord.reader settings.createKey reply failure) :
    Course settings (name :: names) [reply] [] (.atKey name failure)
  | atAlias {name : String} {names : List String} {reply aliased : Reply} {key : CreatedKey}
    {failure : Failure} (told : Prints creationRecord.reader reply key)
    (failed : Failed (settings.createAlias name key.arn) aliased failure) :
    Course settings (name :: names) [reply, aliased] [] (.atAlias ⟨name, key.arn⟩ failure)
  | made {name : String} {names : List String} {reply aliased : Reply} {replies : List Reply}
    {key : CreatedKey} {made : List NamedKey} {halt : Halt}
    (told : Prints creationRecord.reader reply key) (good : Succeeds aliased)
    (rest : Course settings names replies made halt) :
    Course settings (name :: names) (reply :: aliased :: replies) (⟨name, key.arn⟩ :: made) halt

theorem commandsOf_cons (settings : Settings) (key : NamedKey) (made : List NamedKey) (halt : Halt) :
    commandsOf settings (key :: made) halt =
      settings.createKey :: settings.createAlias key.name key.arn ::
        commandsOf settings made halt := by
  simp [commandsOf, keyCommands]

theorem progressOf_nil (halt : Halt) : progressOf [] halt = halt.progress := by
  simp [progressOf]

theorem progressOf_cons (key : NamedKey) (made : List NamedKey) (halt : Halt) :
    progressOf (key :: made) halt = keyLines key ++ progressOf made halt := by
  simp [progressOf, String.append_assoc]

end Courses

section Steps
variable {p : Provider σ} {settings : Settings} {s : Session σ} {index : Nat} {name : String}

theorem run_createKey_refused {failure : Failure}
    (refused : Refused creationRecord.reader settings.createKey (s.reply p settings.createKey)
      failure) :
    (createKey p settings).run s = (.error failure, s.after p settings.createKey) :=
  Run.run_bind_error _ (Run.run_json_refused refused)

theorem run_createKey_told {key : CreatedKey}
    (told : Prints creationRecord.reader (s.reply p settings.createKey) key) :
    (createKey p settings).run s = (.ok key.arn, s.after p settings.createKey) :=
  Run.run_bind_ok _ (Run.run_json_prints told)

theorem run_createAlias_failed {arn : String} {failure : Failure}
    (failed : Failed (settings.createAlias name arn) (s.reply p (settings.createAlias name arn))
      failure) :
    (createAlias p settings name arn).run s =
      (.error failure, s.after p (settings.createAlias name arn)) :=
  Run.run_bind_error _ (Run.run_checked_failed failed)

theorem run_createAlias_succeeds {arn : String}
    (good : Succeeds (s.reply p (settings.createAlias name arn))) :
    (createAlias p settings name arn).run s =
      (.ok (), s.after p (settings.createAlias name arn)) := by
  obtain ⟨out, ran⟩ := Run.run_checked_succeeds good
  exact Run.run_bind_ok _ ran

variable (unbounded : s.sink.room = none) (named : keyName settings.aliasStem index = name)
  {key : CreatedKey} {failure : Failure}
include unbounded

theorem leaves_asked (p : Provider σ) (settings : Settings) (name : String) :
    Leaves p s [settings.createKey] (nameLine name)
      ((s.printing (nameLine name)).after p settings.createKey) := by
  have printed := (Leaves.refl p unbounded).print (nameLine name)
  rw [String.empty_append] at printed
  exact printed.command settings.createKey

include named

theorem createNamed_atKey
    (refused : Refused creationRecord.reader settings.createKey (s.reply p settings.createKey)
      failure) :
    Does p s (createNamed p settings index) [settings.createKey] (nameLine name)
      (.error failure) := by
  subst named
  refine ⟨_, ?_, leaves_asked unbounded p settings _⟩
  unfold createNamed
  rw [Run.run_bind_ok _ (run_print _ s unbounded)]
  exact Run.run_bind_error _ (run_createKey_refused refused)

variable (told : Prints creationRecord.reader (s.reply p settings.createKey) key)
include told

theorem createNamed_atAlias
    (failed : Failed (settings.createAlias name key.arn)
      ((s.after p settings.createKey).reply p (settings.createAlias name key.arn)) failure) :
    Does p s (createNamed p settings index) (keyCommands settings ⟨name, key.arn⟩)
      (nameLine name ++ arnLine key.arn) (.error failure) := by
  subst named
  have asked := leaves_asked unbounded p settings (keyName settings.aliasStem index)
  refine ⟨_, ?_, (asked.print _).command _⟩
  unfold createNamed
  rw [Run.run_bind_ok _ (run_print _ s unbounded)]
  refine (Run.run_bind_ok _ (run_createKey_told (s := s.printing _) told)).trans ?_
  refine (Run.run_bind_ok _ (run_print _ _ asked.unbounded)).trans ?_
  exact Run.run_bind_error _ (run_createAlias_failed failed)

theorem createNamed_made
    (good : Succeeds
      ((s.after p settings.createKey).reply p (settings.createAlias name key.arn))) :
    Does p s (createNamed p settings index) (keyCommands settings ⟨name, key.arn⟩)
      (keyLines ⟨name, key.arn⟩) (.ok ⟨name, key.arn⟩) := by
  subst named
  have asked := leaves_asked unbounded p settings (keyName settings.aliasStem index)
  have aliased := (asked.print (arnLine key.arn)).command
    (settings.createAlias (keyName settings.aliasStem index) key.arn)
  have named := (aliased.print "_\n").note
    [⟨.info, .awsCreation, "Created AWS KMS key",
      [("key_name", .text (keyName settings.aliasStem index)), ("key_arn", .text key.arn)]⟩]
  refine ⟨_, ?_, named⟩
  unfold createNamed
  rw [Run.run_bind_ok _ (run_print _ s unbounded)]
  refine (Run.run_bind_ok _ (run_createKey_told (s := s.printing _) told)).trans ?_
  refine (Run.run_bind_ok _ (run_print _ _ asked.unbounded)).trans ?_
  refine (Run.run_bind_ok _ (run_createAlias_succeeds
    (s := ((s.printing _).after p _).printing _) good)).trans ?_
  exact Run.run_bind_ok _ (run_print _ _ aliased.unbounded)

end Steps

section Loop
variable {p : Provider σ} {settings : Settings}

def Follows (p : Provider σ) (settings : Settings) (names : List String)
    (run : Run σ (List NamedKey)) : Prop :=
  ∀ (s : Session σ) made halt, s.sink.room = none →
    Course settings names (s.replies p (commandsOf settings made halt)) made halt →
    Does p s run (commandsOf settings made halt) (progressOf made halt) (halt.result made)

theorem follows_nil : Follows p settings [] (pure []) := by
  intro s made halt unbounded course
  generalize s.replies p (commandsOf settings made halt) = replies at course
  cases course
  exact does_pure p unbounded []

theorem Follows.pause {names : List String} {run : Run σ (List NamedKey)}
    (follows : Follows p settings names run) (milliseconds : Nat) :
    Follows p settings names (Run.wait milliseconds >>= fun _ => run) := by
  intro s made halt unbounded course
  refine Does.pause unbounded milliseconds fun m leaves => ?_
  exact follows m made halt leaves.unbounded (by rwa [leaves.replies_eq])

theorem Follows.cons {names : List String} {run : Run σ (List NamedKey)}
    (follows : Follows p settings names run) (index : Nat) :
    Follows p settings (keyName settings.aliasStem index :: names)
      (do let key ← createNamed p settings index; let keys ← run; pure (key :: keys)) := by
  intro s made halt unbounded course
  -- Which commands were given depends on the case, so the replies to them get a name first.
  generalize heard : s.replies p (commandsOf settings made halt) = replies at course
  cases course with
  | atKey refused =>
    obtain ⟨rfl, -⟩ := List.cons.inj heard
    rw [progressOf_nil]
    exact (createNamed_atKey unbounded rfl refused).bind_error _
  | atAlias told failed =>
    obtain ⟨rfl, later⟩ := List.cons.inj heard
    obtain ⟨rfl, -⟩ := List.cons.inj later
    rw [progressOf_nil]
    exact (createNamed_atAlias unbounded rfl told failed).bind_error _
  | @made _ _ _ _ _ key made halt told good rest =>
    rw [commandsOf_cons, Session.replies_cons_cons] at heard
    obtain ⟨rfl, later⟩ := List.cons.inj heard
    obtain ⟨rfl, rfl⟩ := List.cons.inj later
    rw [commandsOf_cons, progressOf_cons]
    refine (createNamed_made unbounded rfl told good).bind_ok fun m leaves => ?_
    have course : Course settings names (m.replies p (commandsOf settings made halt)) made halt := by
      rw [leaves.replies_eq]
      exact rest
    rw [Halt.result_cons]
    exact (follows m made halt leaves.unbounded course).map _

theorem createPlanned_follows (p : Provider σ) (settings : Settings) (plan : Plan) :
    Follows p settings (plan.indices.map (keyName settings.aliasStem))
      (createPlanned (createNamed p settings) plan) :=
  createPlanned_induction (motive := fun indices run =>
      Follows p settings (indices.map (keyName settings.aliasStem)) run)
    (createNamed p settings) plan follows_nil
    (fun index _ _ follows => follows.cons index)
    (fun _ milliseconds _ follows => follows.pause milliseconds)

end Loop

section Trace
variable (p : Provider σ) (settings : Settings) (plan : Plan) (s : Session σ)

theorem createAlias_values (name arn : String) :
    (settings.createAlias name arn).value? "--alias-name" = some ("alias/" ++ name) ∧
      (settings.createAlias name arn).value? "--target-key-id" = some arn := by
  have unlike : "alias/" ++ name ≠ "--target-key-id" := by
    intro same
    have front := congrArg (fun text => text.toList.head?) same
    simp at front
  constructor
  · rfl
  · simp [Settings.createAlias, Settings.command, Command.value?, Command.flagValue?, unlike]

end Trace

end KeyCustody.Aws
