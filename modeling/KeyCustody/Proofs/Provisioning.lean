import KeyCustody.Proofs.Conversation
import KeyCustody.Provisioning

/-!
Runs that print between their commands, onto an output that takes everything, and the loop over the
indices of a plan. Printing, noting and waiting are not seen by a provider, so such a run hears what
its commands alone would hear.
-/
namespace KeyCustody

variable {σ α β : Type}

section Printing

theorem encode_append (front back : String) :
    Text.encode (front ++ back) = Text.encode front ++ Text.encode back := by
  simp [Text.encode]

def Session.printing (s : Session σ) (text : String) : Session σ :=
  { s with sink := (s.sink.put (Text.encode text)).2 }

def Session.pausing (s : Session σ) (milliseconds : Nat) : Session σ :=
  { s with waited := s.waited + min milliseconds Run.longestWait }

theorem run_print (text : String) (s : Session σ) (unbounded : s.sink.room = none) :
    (Run.print text).run s = (.ok (), s.printing text) := by
  unfold Run.print Run.printBytes Session.printing
  refine (Run.run_bind_ok _ (Run.run_get s)).trans ?_
  rw [s.sink.put_of_unbounded _ unbounded]
  rfl

theorem run_wait (milliseconds : Nat) (s : Session σ) :
    (Run.wait milliseconds).run s = (.ok (), s.pausing milliseconds) := rfl

end Printing

section Sessions
variable {p : Provider σ} {s m stop : Session σ} {commands later : List Command}
  {text more : String}

/-- From `s` on these commands were given and this text was printed. The provider and the files are
as the commands alone would have left them, and the output still takes everything. -/
structure Leaves (p : Provider σ) (s : Session σ) (commands : List Command) (text : String)
    (stop : Session σ) : Prop where
  alike : Session.Alike stop (s.afterAll p commands)
  calls : stop.calls = s.calls ++ commands
  octets : stop.sink.octets = s.sink.octets ++ Text.encode text
  unbounded : stop.sink.room = none

namespace Leaves

theorem refl (p : Provider σ) (unbounded : s.sink.room = none) : Leaves p s [] "" s where
  alike := ⟨rfl, rfl⟩
  calls := (List.append_nil _).symm
  octets := (List.append_nil _).symm
  unbounded := unbounded

theorem trans (first : Leaves p s commands text m) (rest : Leaves p m later more stop) :
    Leaves p s (commands ++ later) (text ++ more) stop where
  alike := by
    have middle := first.alike.afterAll p later
    rw [← Session.afterAll_append] at middle
    exact ⟨rest.alike.provider.trans middle.provider, rest.alike.files.trans middle.files⟩
  calls := by rw [rest.calls, first.calls, List.append_assoc]
  octets := by rw [rest.octets, first.octets, encode_append, List.append_assoc]
  unbounded := rest.unbounded

theorem print (leaves : Leaves p s commands text m) (more : String) :
    Leaves p s commands (text ++ more) (m.printing more) where
  alike := ⟨leaves.alike.provider, leaves.alike.files⟩
  calls := leaves.calls
  octets := by
    unfold Session.printing
    rw [Sink.octets_put, leaves.unbounded, Option.getD_none, List.take_length, leaves.octets,
      encode_append, List.append_assoc]
  unbounded := by
    unfold Session.printing
    rw [Sink.put_of_unbounded _ _ leaves.unbounded]
    exact leaves.unbounded

theorem command (leaves : Leaves p s commands text m) (c : Command) :
    Leaves p s (commands ++ [c]) text (m.after p c) where
  alike := by
    rw [Session.afterAll_append]
    exact leaves.alike.afterAll p [c]
  calls := (congrArg (· ++ [c]) leaves.calls).trans (List.append_assoc ..)
  octets := leaves.octets
  unbounded := leaves.unbounded

theorem note (leaves : Leaves p s commands text m) (events : List Event) :
    Leaves p s commands text (m.noting events) :=
  ⟨⟨leaves.alike.provider, leaves.alike.files⟩, leaves.calls, leaves.octets, leaves.unbounded⟩

theorem pause (leaves : Leaves p s commands text m) (milliseconds : Nat) :
    Leaves p s commands text (m.pausing milliseconds) :=
  ⟨⟨leaves.alike.provider, leaves.alike.files⟩, leaves.calls, leaves.octets, leaves.unbounded⟩

/-- What is heard afterwards is what is heard behind the commands alone. -/
theorem replies_eq (leaves : Leaves p s commands text stop) (later : List Command) :
    stop.replies p later = (s.afterAll p commands).replies p later :=
  leaves.alike.replies_eq p later

end Leaves

end Sessions

section Runs
variable {p : Provider σ} {s : Session σ} {commands later : List Command} {text more : String}

def Does (p : Provider σ) (s : Session σ) (run : Run σ α) (commands : List Command) (text : String)
    (result : Except Failure α) : Prop :=
  ∃ stop, run.run s = (result, stop) ∧ Leaves p s commands text stop

theorem does_pure (p : Provider σ) (unbounded : s.sink.room = none) (a : α) :
    Does p s (pure a) [] "" (.ok a) :=
  ⟨s, Run.run_pure a s, Leaves.refl p unbounded⟩

theorem does_print (p : Provider σ) (unbounded : s.sink.room = none) (text : String) :
    Does p s (Run.print text) [] text (.ok ()) := by
  refine ⟨_, run_print text s unbounded, ?_⟩
  have printed := (Leaves.refl p unbounded).print text
  rwa [String.empty_append] at printed

theorem does_wait (p : Provider σ) (unbounded : s.sink.room = none) (milliseconds : Nat) :
    Does p s (Run.wait milliseconds) [] "" (.ok ()) :=
  ⟨_, run_wait milliseconds s, (Leaves.refl p unbounded).pause milliseconds⟩

namespace Does
variable {x : Run σ α} {a : α} {result : Except Failure β}

theorem bind_ok {f : α → Run σ β} (first : Does p s x commands text (.ok a))
    (rest : ∀ m, Leaves p s commands text m → Does p m (f a) later more result) :
    Does p s (x >>= f) (commands ++ later) (text ++ more) result := by
  obtain ⟨m, ran, leaves⟩ := first
  obtain ⟨stop, ranLater, leavesLater⟩ := rest m leaves
  exact ⟨stop, (Run.run_bind_ok f ran).trans ranLater, leaves.trans leavesLater⟩

theorem bind_error {failure : Failure} (failed : Does p s x commands text (.error failure))
    (f : α → Run σ β) : Does p s (x >>= f) commands text (.error failure) := by
  obtain ⟨stop, ran, leaves⟩ := failed
  exact ⟨stop, Run.run_bind_error f ran, leaves⟩

/-- A pause in front of a run is not seen. -/
theorem pause {run : Run σ β} (unbounded : s.sink.room = none) (milliseconds : Nat)
    (rest : ∀ m, Leaves p s [] "" m → Does p m run later more result) :
    Does p s (Run.wait milliseconds >>= fun _ => run) later more result := by
  have paused := (does_wait p unbounded milliseconds).bind_ok (f := fun _ => run) rest
  rwa [List.nil_append, String.empty_append] at paused

theorem map (f : α → β) {found : Except Failure α} (does : Does p s x commands text found) :
    Does p s (do let a ← x; pure (f a)) commands text (found.map f) := by
  obtain ⟨stop, ran, leaves⟩ := does
  refine ⟨stop, ?_, leaves⟩
  rw [run_bind, ran]
  cases found <;> rfl

end Does

end Runs

section Plans
variable {p : Provider σ} {s : Session σ} {commands : List Command} {text : String}
  {create : Nat → Run σ α} {plan : Plan}

theorem provision_closes {keys : List α}
    (created : Does p s (createPlanned create plan) commands text (.ok keys)) :
    Does p s (provision create plan) commands (text ++ "DONE\n") (.ok keys) := by
  unfold provision
  rw [← List.append_nil commands]
  refine created.bind_ok fun m leaves => ?_
  exact (does_print p leaves.unbounded "DONE\n").map fun _ => keys

theorem provision_fails {failure : Failure}
    (created : Does p s (createPlanned create plan) commands text (.error failure)) :
    Does p s (provision create plan) commands text (.error failure) :=
  created.bind_error _

/-- What holds of the run that does nothing, and of a longer run if it holds of the shorter one,
holds of the run over the indices of a plan. Pauses may stand anywhere. -/
theorem createPlanned_induction {motive : List Nat → Run σ (List α) → Prop}
    (create : Nat → Run σ α) (plan : Plan) (nil : motive [] (pure []))
    (cons : ∀ index indices rest, motive indices rest →
      motive (index :: indices) (do let key ← create index; let keys ← rest; pure (key :: keys)))
    (pause : ∀ indices milliseconds run, motive indices run →
      motive indices (Run.wait milliseconds >>= fun _ => run)) :
    motive plan.indices (createPlanned create plan) := by
  -- Over what is left to create: each turn of the loop is a pause in front of a longer run.
  have loop : ∀ delay count index,
      motive (List.range' index count) (createMore create delay count index) := by
    intro delay count
    induction count with
    | zero => exact fun _ => nil
    | succ count ih => exact fun index => pause _ _ _ (cons _ _ _ (ih (index + 1)))
  unfold Plan.indices createPlanned
  cases plan.size with
  | zero => exact nil
  | succ count => exact cons _ _ _ (loop _ count _)

end Plans

end KeyCustody
