import KeyCustody.Proofs.Conversation
import KeyCustody.Proofs.Traversal

/-!
Which of several failures counts. Work that is done in order ends with the failure of the first part
that has one, be the parts items of a list or stages of a run.
-/
namespace KeyCustody

section FirstFailing
variable {α β ε : Type} {fails : α → ε → Prop}

/-- Some item fails, and the first one that does fails with `failure`. -/
def FirstFailing (fails : α → ε → Prop) (items : List α) (failure : ε) : Prop :=
  ∃ before x after, items = before ++ x :: after ∧ fails x failure ∧
    ∀ y ∈ before, ∀ other, ¬ fails y other

theorem not_firstFailing_nil (failure : ε) : ¬ FirstFailing fails [] failure := by
  rintro ⟨before, x, after, split, -⟩
  simp at split

theorem firstFailing_cons_iff (x : α) (rest : List α) (failure : ε) :
    FirstFailing fails (x :: rest) failure ↔
      fails x failure ∨ (∀ other, ¬ fails x other) ∧ FirstFailing fails rest failure := by
  constructor
  · rintro ⟨before, y, after, split, here, fine⟩
    cases before with
    | nil =>
      obtain ⟨rfl, rfl⟩ := List.cons.inj split
      exact .inl here
    | cons z before =>
      obtain ⟨rfl, rfl⟩ := List.cons.inj split
      rw [List.forall_mem_cons] at fine
      exact .inr ⟨fine.1, before, y, after, rfl, here, fine.2⟩
  · rintro (here | ⟨fine, before, y, after, rfl, later, earlier⟩)
    · exact ⟨[], x, rest, rfl, here, by simp⟩
    · refine ⟨x :: before, y, after, rfl, later, ?_⟩
      rw [List.forall_mem_cons]
      exact ⟨fine, earlier⟩

theorem firstFailing_append_iff (front back : List α) (failure : ε) :
    FirstFailing fails (front ++ back) failure ↔ FirstFailing fails front failure ∨
      (∀ other, ¬ FirstFailing fails front other) ∧ FirstFailing fails back failure := by
  induction front with
  | nil => simp [not_firstFailing_nil]
  | cons x rest ih =>
    simp only [List.cons_append, firstFailing_cons_iff, ih, not_or, forall_and]
    by_cases fine : ∀ other, ¬ fails x other
    · simp [fine]
    · simp [fine]

theorem firstFailing_congr {others : α → ε → Prop} {items : List α} (failure : ε)
    (same : ∀ x ∈ items, ∀ failure, fails x failure ↔ others x failure) :
    FirstFailing fails items failure ↔ FirstFailing others items failure := by
  induction items with
  | nil => exact iff_of_false (not_firstFailing_nil failure) (not_firstFailing_nil failure)
  | cons x rest ih =>
    rw [List.forall_mem_cons] at same
    simp only [firstFailing_cons_iff, same.1, ih same.2]

theorem firstFailing_map_iff {γ : Type} (f : γ → α) (items : List γ) (failure : ε) :
    FirstFailing fails (items.map f) failure ↔
      FirstFailing (fun x => fails (f x)) items failure := by
  induction items with
  | nil => exact iff_of_false (not_firstFailing_nil failure) (not_firstFailing_nil failure)
  | cons x rest ih => rw [List.map_cons, firstFailing_cons_iff, firstFailing_cons_iff, ih]

theorem exists_firstFailing_iff (items : List α) :
    (∃ failure, FirstFailing fails items failure) ↔ ∃ x ∈ items, ∃ failure, fails x failure := by
  induction items with
  | nil => simp [not_firstFailing_nil]
  | cons x rest ih =>
    simp only [firstFailing_cons_iff, exists_or, exists_and_left, ih, List.exists_mem_cons_iff]
    by_cases here : ∃ failure, fails x failure
    · simp [here]
    · simp [not_exists.mp here]

theorem never_error_iff (x : Except ε β) : (∀ other, x ≠ .error other) ↔ ∃ b, x = .ok b := by
  cases x <;> simp

/-- A walk ends with the failure of its first item that fails. -/
theorem walk_firstFailing_iff (f : α → Except ε β) (items : List α) (failure : ε) :
    items.mapM f = .error failure ↔
      FirstFailing (fun x failure => f x = .error failure) items failure := by
  simp only [walk_error_iff, FirstFailing, ← never_error_iff, ne_eq]

end FirstFailing

section Stages
variable {α β ε : Type}

def FirstStage (stages : List (ε → Prop)) (failure : ε) : Prop :=
  FirstFailing (fun stage => stage) stages failure

theorem firstStage_single_iff (stage : ε → Prop) (failure : ε) :
    FirstStage [stage] failure ↔ stage failure := by
  unfold FirstStage
  rw [firstFailing_cons_iff, or_iff_left]
  rintro ⟨-, none⟩
  exact not_firstFailing_nil failure none

theorem bind_error_iff (x : Except ε α) (f : α → Except ε β) (failure : ε) :
    (x >>= f) = .error failure ↔ x = .error failure ∨ ∃ a, x = .ok a ∧ f a = .error failure := by
  cases x with
  | error found => simp [error_bind]
  | ok a => simp [ok_bind]

section Outcomes
variable {x : Except ε α} {stages : List (ε → Prop)}

theorem exists_error_of_bad (errors : ∀ failure, x = .error failure ↔ FirstStage stages failure)
    (bad : ∃ stage ∈ stages, ∃ failure, stage failure) : ∃ failure, x = .error failure := by
  simp only [errors]
  exact (exists_firstFailing_iff stages).mpr bad

theorem exists_ok_of_fine (errors : ∀ failure, x = .error failure ↔ FirstStage stages failure)
    (fine : ∀ stage ∈ stages, ∀ failure, ¬ stage failure) : ∃ a, x = .ok a := by
  refine (never_error_iff x).mp fun failure failed => ?_
  have first := (errors failure).mp failed
  obtain ⟨stage, among, found, fails⟩ := (exists_firstFailing_iff stages).mp ⟨failure, first⟩
  exact fine stage among found fails

end Outcomes

theorem mapError_ok_iff {ε' : Type} (g : ε → ε') (x : Except ε α) (a : α) :
    x.mapError g = .ok a ↔ x = .ok a := by
  cases x with
  | error cause => exact iff_of_false nofun nofun
  | ok found =>
    change Except.ok found = .ok a ↔ _
    simp

theorem mapError_error_iff {ε' : Type} (g : ε → ε') (x : Except ε α) (failure : ε') :
    x.mapError g = .error failure ↔ ∃ cause, x = .error cause ∧ failure = g cause := by
  cases x with
  | error cause =>
    change Except.error (g cause) = .error failure ↔ _
    simp [eq_comm]
  | ok found =>
    refine iff_of_false nofun ?_
    rintro ⟨cause, none, -⟩
    cases none

/-- Work that goes on with what other work gives has the stages of the one and then of the other. -/
theorem bind_firstStage_iff {x : Except ε α} {f : α → Except ε β} {first later : List (ε → Prop)}
    {failure : ε} (here : ∀ found, x = .error found ↔ FirstStage first found)
    (after : ∀ a, x = .ok a → (f a = .error failure ↔ FirstStage later failure)) :
    (x >>= f) = .error failure ↔ FirstStage (first ++ later) failure := by
  rw [bind_error_iff, FirstStage, firstFailing_append_iff]
  simp only [FirstStage] at here after
  simp only [← here]
  constructor
  · rintro (failed | ⟨a, done, failed⟩)
    · exact .inl failed
    · exact .inr ⟨by simp [done], (after a done).mp failed⟩
  · rintro (failed | ⟨fine, later⟩)
    · exact .inl failed
    · obtain ⟨a, done⟩ := (never_error_iff x).mp fine
      exact .inr ⟨a, done, (after a done).mpr later⟩

/-- As `bind_firstStage_iff`, where the work that comes first is one stage. -/
theorem bind_firstStage_cons_iff {x : Except ε α} {f : α → Except ε β} {stage : ε → Prop}
    {later : List (ε → Prop)} {failure : ε} (here : ∀ found, x = .error found ↔ stage found)
    (after : ∀ a, x = .ok a → (f a = .error failure ↔ FirstStage later failure)) :
    (x >>= f) = .error failure ↔ FirstStage (stage :: later) failure :=
  bind_firstStage_iff (fun found => (here found).trans (firstStage_single_iff stage found).symm) after

end Stages

section Refusals

variable {α : Type} {read : Json.Reader α} {c : Command} {reply : Reply} {failure : Failure}

inductive Failed (c : Command) : Reply → Failure → Prop where
  | spawn (reason : String) : Failed c (.error reason) (.spawn c reason)
  | exit (ending : Ending) (bad : ending.success = false) :
    Failed c (.ok ending) (.exit c ending.code ending.stderr)

inductive Refused (read : Json.Reader α) (c : Command) : Reply → Failure → Prop where
  | failed {reply : Reply} {failure : Failure} (failed : Failed c reply failure) :
    Refused read c reply failure
  | unread (ending : Ending) (good : ending.success = true) (fault : Json.Fault)
    (unread : Json.decode read ending.stdout = .error fault) :
    Refused read c (.ok ending) (.json c fault)

theorem printed_ok_iff (c : Command) (reply : Reply) (out : Bytes) :
    printed c reply = .ok out ↔
      ∃ ending, reply = .ok ending ∧ ending.success = true ∧ ending.stdout = out := by
  cases reply with
  | error reason => simp [printed]
  | ok ending =>
    by_cases good : ending.success = true
    · simp [printed, good]
    · simp [printed, good]

theorem printed_error_iff (c : Command) (reply : Reply) (failure : Failure) :
    printed c reply = .error failure ↔ Failed c reply failure := by
  constructor
  · intro failed
    cases reply with
    | error reason =>
      cases failed
      exact .spawn reason
    | ok ending =>
      by_cases good : ending.success = true
      · simp [printed, good] at failed
      · rw [printed, if_neg good] at failed
        cases failed
        exact .exit ending (Bool.not_eq_true _ ▸ good)
  · intro failed
    cases failed with
    | spawn reason => rfl
    | exit ending bad => simp [printed, bad]

theorem refused_iff (read : Json.Reader α) (c : Command) (reply : Reply) (failure : Failure) :
    (printed c reply).bind (Run.decoded read c) = .error failure ↔ Refused read c reply failure := by
  refine (bind_error_iff (printed c reply) (Run.decoded read c) failure).trans ?_
  simp only [printed_error_iff, printed_ok_iff]
  constructor
  · rintro (failed | ⟨_, ⟨ending, rfl, good, rfl⟩, unread⟩)
    · exact .failed failed
    · unfold Run.decoded at unread
      cases found : Json.decode read ending.stdout with
      | ok a => simp [found] at unread
      | error fault =>
        rw [found] at unread
        cases unread
        exact .unread ending good fault found
  · intro refused
    cases refused with
    | failed failed => exact .inl failed
    | unread ending good fault unread =>
      exact .inr ⟨_, ⟨ending, rfl, good, rfl⟩, by simp [Run.decoded, unread]⟩

theorem Prints.unique {first second : α} (left : Prints read reply first)
    (right : Prints read reply second) : first = second := by
  obtain ⟨ending, rfl, -, found⟩ := left
  obtain ⟨_, same, -, others⟩ := right
  cases same
  exact Except.ok.inj (found.symm.trans others)

def Succeeds (reply : Reply) : Prop :=
  ∃ ending, reply = .ok ending ∧ ending.success = true

theorem failed_or_succeeds (c : Command) (reply : Reply) :
    (∃ failure, Failed c reply failure) ∨ Succeeds reply := by
  cases outcome : printed c reply with
  | error failure => exact .inl ⟨failure, (printed_error_iff c reply failure).mp outcome⟩
  | ok out =>
    obtain ⟨ending, same, good, -⟩ := (printed_ok_iff c reply out).mp outcome
    exact .inr ⟨ending, same, good⟩

namespace Run
variable {σ : Type} {p : Provider σ} {s : Session σ}

theorem run_checked_failed (failed : Failed c (s.reply p c) failure) :
    (checked p c).run s = (.error failure, s.after p c) := by
  rw [run_checked, (printed_error_iff c _ failure).mpr failed]

theorem run_checked_succeeds (good : Succeeds (s.reply p c)) :
    ∃ out, (checked p c).run s = (.ok out, s.after p c) := by
  obtain ⟨ending, same, good⟩ := good
  exact ⟨ending.stdout, by rw [run_checked, (printed_ok_iff c _ _).mpr ⟨ending, same, good, rfl⟩]⟩

theorem run_json_refused (refused : Refused read c (s.reply p c) failure) :
    (json p read c).run s = (.error failure, s.after p c) := by
  rw [run_json, (refused_iff read c _ failure).mpr refused]

theorem run_json_prints {found : α} (told : Prints read (s.reply p c) found) :
    (json p read c).run s = (.ok found, s.after p c) := by
  rw [run_json, (prints_iff read c _ found).mpr told]

end Run

end Refusals

end KeyCustody
