import KeyCustody.Google.Creation
import KeyCustody.Proofs.Precedence
import KeyCustody.Proofs.Provisioning

/-!
What a creation of Google keys asks and prints. The line of an index is printed when its command has
succeeded, so the first command that fails is the last one and has no line.
-/
namespace KeyCustody.Google

variable {σ : Type}

section Commands

def creation (settings : Settings) (index : Nat) : Command :=
  settings.createKey (keyName settings.keyStem index)

theorem create_creation (settings : Settings) (index : Nat) :
    (creation settings index).value? "create" = some (keyName settings.keyStem index) := by
  simp [creation, Settings.createKey, Settings.command, Command.value?, Command.flagValue?]

def progressLine (stop index : Nat) : String :=
  index.repr ++ "/" ++ stop.repr ++ "\n"

def progress (stop : Nat) (made : List Nat) : String :=
  String.join (made.map (progressLine stop))

theorem progress_cons (stop index : Nat) (made : List Nat) :
    progress stop (index :: made) = progressLine stop index ++ progress stop made := by
  simp [progress]

def AllMade (p : Provider σ) (settings : Settings) (s : Session σ) (indices : List Nat) : Prop :=
  ∀ reply ∈ s.replies p (indices.map (creation settings)), Succeeds reply

structure StopsAt (p : Provider σ) (settings : Settings) (s : Session σ) (indices made : List Nat)
    (index : Nat) (failure : Failure) : Prop where
  among : ∃ rest, indices = made ++ index :: rest
  before : AllMade p settings s made
  failed : Failed (creation settings index)
    ((s.afterAll p (made.map (creation settings))).reply p (creation settings index)) failure

end Commands

section Replies
variable {p : Provider σ} {settings : Settings} {s t : Session σ} {indices made rest : List Nat}
  {index : Nat} {failure : Failure}

theorem allMade_nil : AllMade p settings s [] := by
  intro reply member
  cases member

theorem allMade_cons_iff :
    AllMade p settings s (index :: rest) ↔ Succeeds (s.reply p (creation settings index)) ∧
      AllMade p settings (s.after p (creation settings index)) rest := by
  unfold AllMade
  rw [List.map_cons, Session.replies_cons, List.forall_mem_cons]

theorem stopsAt_nil : ¬ StopsAt p settings s [] made index failure := by
  rintro ⟨⟨rest, split⟩, -, -⟩
  simp at split

theorem stopsAt_cons_nil_iff {first : Nat} :
    StopsAt p settings s (first :: rest) [] index failure ↔
      first = index ∧ Failed (creation settings index) (s.reply p (creation settings index)) failure := by
  constructor
  · rintro ⟨⟨others, split⟩, -, failed⟩
    exact ⟨(List.cons.inj split).1, failed⟩
  · rintro ⟨rfl, failed⟩
    exact ⟨⟨rest, rfl⟩, allMade_nil, failed⟩

theorem stopsAt_cons_cons_iff {first head : Nat} :
    StopsAt p settings s (first :: rest) (head :: made) index failure ↔
      first = head ∧ Succeeds (s.reply p (creation settings first)) ∧
        StopsAt p settings (s.after p (creation settings first)) rest made index failure := by
  constructor
  · rintro ⟨⟨others, split⟩, good, failed⟩
    obtain ⟨rfl, rfl⟩ := List.cons.inj split
    obtain ⟨here, later⟩ := allMade_cons_iff.mp good
    exact ⟨rfl, here, ⟨others, rfl⟩, later, failed⟩
  · rintro ⟨rfl, here, ⟨others, rfl⟩, later, failed⟩
    exact ⟨⟨others, rfl⟩, allMade_cons_iff.mpr ⟨here, later⟩, failed⟩

/-- Whatever the provider does, all keys are made or there is a first that is not. -/
theorem allMade_or_stopsAt (p : Provider σ) (settings : Settings) (indices : List Nat)
    (s : Session σ) :
    AllMade p settings s indices ∨
      ∃ made index failure, StopsAt p settings s indices made index failure := by
  induction indices generalizing s with
  | nil => exact .inl allMade_nil
  | cons index rest ih =>
    rcases failed_or_succeeds (creation settings index) (s.reply p (creation settings index)) with
      ⟨failure, failed⟩ | good
    · exact .inr ⟨[], index, failure, stopsAt_cons_nil_iff.mpr ⟨rfl, failed⟩⟩
    · rcases ih (s.after p (creation settings index)) with all | ⟨made, other, failure, stops⟩
      · exact .inl (allMade_cons_iff.mpr ⟨good, all⟩)
      · exact .inr ⟨index :: made, other, failure, stopsAt_cons_cons_iff.mpr ⟨rfl, good, stops⟩⟩

theorem AllMade.alike (all : AllMade p settings s indices) (same : Session.Alike t s) :
    AllMade p settings t indices := by
  unfold AllMade
  rw [same.replies_eq]
  exact all

theorem StopsAt.alike (stops : StopsAt p settings s indices made index failure)
    (same : Session.Alike t s) : StopsAt p settings t indices made index failure := by
  have later := same.afterAll p (made.map (creation settings))
  refine ⟨stops.among, stops.before.alike same, ?_⟩
  unfold Session.reply
  rw [later.provider, later.files]
  exact stops.failed

end Replies

section Steps
variable {p : Provider σ} {settings : Settings} {s : Session σ} {stop index : Nat}

theorem run_createKey_failed {failure : Failure}
    (failed : Failed (creation settings index) (s.reply p (creation settings index)) failure) :
    (createKey p settings (keyName settings.keyStem index)).run s =
      (.error failure, s.after p (creation settings index)) :=
  Run.run_bind_error _ (Run.run_checked_failed failed)

theorem run_createKey_succeeds (good : Succeeds (s.reply p (creation settings index))) :
    (createKey p settings (keyName settings.keyStem index)).run s =
      (.ok (), s.after p (creation settings index)) := by
  obtain ⟨out, ran⟩ := Run.run_checked_succeeds good
  exact Run.run_bind_ok _ ran

theorem createNamed_failed {failure : Failure} (unbounded : s.sink.room = none)
    (failed : Failed (creation settings index) (s.reply p (creation settings index)) failure) :
    Does p s (createNamed p settings stop index) [creation settings index] "" (.error failure) := by
  refine ⟨_, ?_, (Leaves.refl p unbounded).command (creation settings index)⟩
  unfold createNamed
  exact Run.run_bind_error _ (run_createKey_failed failed)

theorem createNamed_made (unbounded : s.sink.room = none)
    (good : Succeeds (s.reply p (creation settings index))) :
    Does p s (createNamed p settings stop index) [creation settings index]
      (progressLine stop index) (.ok (keyName settings.keyStem index)) := by
  have asked := (Leaves.refl p unbounded).command (creation settings index)
  have told := (asked.print (progressLine stop index)).note
    [⟨.info, .googleCreation, "Created Google KMS key",
      [("key_name", .text (keyName settings.keyStem index))]⟩]
  rw [String.empty_append] at told
  refine ⟨_, ?_, told⟩
  unfold createNamed
  refine (Run.run_bind_ok _ (run_createKey_succeeds good)).trans ?_
  exact Run.run_bind_ok _ (run_print _ _ asked.unbounded)

end Steps

section Loop
variable {p : Provider σ} {settings : Settings} {stop : Nat} {indices : List Nat}
  {run : Run σ (List String)}

structure Follows (p : Provider σ) (settings : Settings) (stop : Nat) (indices : List Nat)
    (run : Run σ (List String)) : Prop where
  completes : ∀ {s : Session σ}, s.sink.room = none → AllMade p settings s indices →
    Does p s run (indices.map (creation settings)) (progress stop indices)
      (.ok (indices.map (keyName settings.keyStem)))
  stops : ∀ {s : Session σ} {made : List Nat} {index : Nat} {failure : Failure},
    s.sink.room = none → StopsAt p settings s indices made index failure →
    Does p s run ((made ++ [index]).map (creation settings)) (progress stop made) (.error failure)

theorem follows_nil : Follows p settings stop [] (pure []) where
  completes unbounded _ := does_pure p unbounded []
  stops _ stopped := absurd stopped stopsAt_nil

theorem Follows.pause (follows : Follows p settings stop indices run) (milliseconds : Nat) :
    Follows p settings stop indices (Run.wait milliseconds >>= fun _ => run) where
  completes unbounded all := Does.pause unbounded milliseconds fun _ leaves =>
    follows.completes leaves.unbounded (all.alike leaves.alike)
  stops unbounded stopped := Does.pause unbounded milliseconds fun _ leaves =>
    follows.stops leaves.unbounded (stopped.alike leaves.alike)

theorem Follows.cons (follows : Follows p settings stop indices run) (index : Nat) :
    Follows p settings stop (index :: indices)
      (do let key ← createNamed p settings stop index; let keys ← run; pure (key :: keys)) where
  completes {s} unbounded all := by
    obtain ⟨good, later⟩ := allMade_cons_iff.mp all
    rw [progress_cons]
    refine (createNamed_made unbounded good).bind_ok fun m leaves => ?_
    exact (follows.completes leaves.unbounded (later.alike leaves.alike)).map _
  stops {s made other failure} unbounded stopped := by
    cases made with
    | nil =>
      obtain ⟨rfl, failed⟩ := stopsAt_cons_nil_iff.mp stopped
      exact (createNamed_failed unbounded failed).bind_error _
    | cons first made =>
      obtain ⟨rfl, good, later⟩ := stopsAt_cons_cons_iff.mp stopped
      rw [progress_cons]
      refine (createNamed_made unbounded good).bind_ok fun m leaves => ?_
      exact (follows.stops leaves.unbounded (later.alike leaves.alike)).bind_error _

theorem createPlanned_follows (p : Provider σ) (settings : Settings) (plan : Plan) :
    Follows p settings plan.stop plan.indices
      (createPlanned (createNamed p settings plan.stop) plan) :=
  createPlanned_induction (motive := Follows p settings plan.stop)
    (createNamed p settings plan.stop) plan follows_nil
    (fun index _ _ follows => follows.cons index)
    (fun _ milliseconds _ follows => follows.pause milliseconds)

end Loop

section Trace
variable (p : Provider σ) (settings : Settings) (plan : Plan) (s : Session σ)

theorem provision_completes (unbounded : s.sink.room = none)
    (all : AllMade p settings s plan.indices) :
    Does p s (provision p settings plan) (plan.indices.map (creation settings))
      (progress plan.stop plan.indices ++ "DONE\n")
      (.ok (plan.indices.map (keyName settings.keyStem))) :=
  provision_closes ((createPlanned_follows p settings plan).completes unbounded all)

theorem provision_stops (unbounded : s.sink.room = none) {made : List Nat} {index : Nat}
    {failure : Failure} (stops : StopsAt p settings s plan.indices made index failure) :
    Does p s (provision p settings plan) ((made ++ [index]).map (creation settings))
      (progress plan.stop made) (.error failure) :=
  provision_fails ((createPlanned_follows p settings plan).stops unbounded stops)

/-- A creation on an output that takes everything. Its indices go up to the greatest one of 32 bits
and never reach it. It succeeds exactly when all its commands do; one that fails has given the
commands up to the first that fails, and has printed a line for each command before that one. -/
theorem provision_progress (unbounded : s.sink.room = none) :
    (plan.stop = min (plan.start.toNat + plan.count.toNat) 0xffffffff ∧
      plan.indices = (List.range (plan.stop - plan.start.toNat)).map (plan.start.toNat + ·)) ∧
    (∀ index, (creation settings index).value? "create" = some (keyName settings.keyStem index)) ∧
    ((∃ names, ((provision p settings plan).run s).1 = .ok names) ↔
      AllMade p settings s plan.indices) ∧
    (∀ names stop, (provision p settings plan).run s = (.ok names, stop) →
      names = plan.indices.map (keyName settings.keyStem) ∧
      stop.calls = s.calls ++ plan.indices.map (creation settings) ∧
      stop.sink.octets =
        s.sink.octets ++ Text.encode (progress plan.stop plan.indices ++ "DONE\n")) ∧
    (∀ failure stop, (provision p settings plan).run s = (.error failure, stop) →
      ∃ made index, StopsAt p settings s plan.indices made index failure ∧
        stop.calls = s.calls ++ (made ++ [index]).map (creation settings) ∧
        stop.sink.octets = s.sink.octets ++ Text.encode (progress plan.stop made)) := by
  refine ⟨⟨rfl, List.range'_eq_map_range⟩, create_creation settings, ?_⟩
  rcases allMade_or_stopsAt p settings plan.indices s with all | ⟨made, index, failure, stops⟩
  · obtain ⟨stop, ran, leaves⟩ := provision_completes p settings plan s unbounded all
    rw [ran]
    refine ⟨iff_of_true ⟨_, rfl⟩ all, ?_, ?_⟩
    · intro names other same
      cases same
      exact ⟨rfl, leaves.calls, leaves.octets⟩
    · intro failure other same
      cases same
  · obtain ⟨stop, ran, leaves⟩ := provision_stops p settings plan s unbounded stops
    rw [ran]
    refine ⟨iff_of_false ?_ ?_, ?_, ?_⟩
    · rintro ⟨names, same⟩
      cases same
    · intro all
      obtain ⟨other, done, -⟩ := provision_completes p settings plan s unbounded all
      cases ran.symm.trans done
    · intro names other same
      cases same
    · intro found other same
      cases same
      exact ⟨made, index, stops, leaves.calls, leaves.octets⟩

def quotaProvider : Provider Nat where
  answer _ left files :=
    match left with
    | 0 => (.ok ⟨false, some 1, [], []⟩, 0, files)
    | left + 1 => (.ok ⟨true, some 0, [], []⟩, left, files)

theorem provision_progress_lastIndices :
    ({ provider := 2 } : Session Nat).sink.room = none ∧
      ∃ stop, (provision quotaProvider {} ⟨4294967293, 5, 0⟩).run { provider := 2 } =
          (.ok ["btci_multisig_google_4294967293", "btci_multisig_google_4294967294"], stop) ∧
        stop.sink.octets =
          Text.encode "4294967293/4294967295\n4294967294/4294967295\nDONE\n" := by
  obtain ⟨-, -, succeeds, told, -⟩ :=
    provision_progress quotaProvider {} ⟨4294967293, 5, 0⟩ { provider := 2 } rfl
  have two : Plan.indices ⟨4294967293, 5, 0⟩ = [4294967293, 4294967294] := by decide
  have all : AllMade quotaProvider {} { provider := 2 } (Plan.indices ⟨4294967293, 5, 0⟩) := by
    rw [two]
    exact allMade_cons_iff.mpr ⟨⟨_, rfl, rfl⟩, allMade_cons_iff.mpr ⟨⟨_, rfl, rfl⟩, allMade_nil⟩⟩
  obtain ⟨names, done⟩ := succeeds.mpr all
  obtain ⟨rfl, -, octets⟩ := told names _ (Prod.ext done rfl)
  rw [two] at done octets
  exact ⟨rfl, _, Prod.ext done rfl, octets⟩

end Trace

end KeyCustody.Google
