import KeyCustody.Session

/-!
What a run hears from a provider and what it leaves in its session. Commands are put one after
another, each to the provider and the files as the one before has left them.
-/
namespace KeyCustody

variable {σ α β : Type}

section Replies

def Provider.replies (p : Provider σ) : List Command → σ → Files → List Reply
  | [], _, _ => []
  | c :: rest, state, files =>
    let answered := p.answer c state files
    answered.1 :: p.replies rest answered.2.1 answered.2.2

def Provider.filesAfter (p : Provider σ) : List Command → σ → Files → Files
  | [], _, files => files
  | c :: rest, state, files =>
    let answered := p.answer c state files
    p.filesAfter rest answered.2.1 answered.2.2

theorem length_replies (p : Provider σ) (commands : List Command) (state : σ) (files : Files) :
    (p.replies commands state files).length = commands.length := by
  induction commands generalizing state files with
  | nil => rfl
  | cons c rest ih => simp [Provider.replies, ih]

def Prints (read : Json.Reader α) (reply : Reply) (found : α) : Prop :=
  ∃ ending, reply = .ok ending ∧ ending.success = true ∧ Json.decode read ending.stdout = .ok found

def printed (c : Command) : Reply → Except Failure Bytes
  | .error reason => .error (.spawn c reason)
  | .ok ending =>
    if ending.success then .ok ending.stdout else .error (.exit c ending.code ending.stderr)

theorem decoded_ok_iff (read : Json.Reader α) (c : Command) (stdout : Bytes) (found : α) :
    Run.decoded read c stdout = .ok found ↔ Json.decode read stdout = .ok found := by
  unfold Run.decoded
  cases Json.decode read stdout <;> simp

theorem prints_iff (read : Json.Reader α) (c : Command) (reply : Reply) (found : α) :
    (printed c reply).bind (Run.decoded read c) = .ok found ↔ Prints read reply found := by
  cases reply with
  | error reason => simp [printed, Prints, Except.bind]
  | ok ending =>
    by_cases good : ending.success = true
    · simp [printed, Prints, Except.bind, good, decoded_ok_iff]
    · simp [printed, Prints, Except.bind, good]

end Replies

section Sessions

namespace Session

def noting (s : Session σ) (events : List Event) : Session σ :=
  { s with journal := s.journal ++ events }

def spawning (c : Command) : Event :=
  { level := .debug, origin := .commands, message := "Spawning",
    details := [("command", .text c.display)] }

def after (p : Provider σ) (s : Session σ) (c : Command) : Session σ :=
  { s.noting [spawning c] with
    provider := (p.answer c s.provider s.files).2.1
    files := (p.answer c s.provider s.files).2.2
    calls := s.calls ++ [c] }

def afterAll (p : Provider σ) (s : Session σ) (commands : List Command) : Session σ :=
  commands.foldl (after p) s

def reply (p : Provider σ) (s : Session σ) (c : Command) : Reply :=
  (p.answer c s.provider s.files).1

def replies (p : Provider σ) (s : Session σ) (commands : List Command) : List Reply :=
  p.replies commands s.provider s.files

@[simp] theorem replies_noting (p : Provider σ) (s : Session σ) (events : List Event)
    (commands : List Command) : (s.noting events).replies p commands = s.replies p commands := rfl

@[simp] theorem files_noting (s : Session σ) (events : List Event) :
    (s.noting events).files = s.files := rfl

@[simp] theorem calls_noting (s : Session σ) (events : List Event) :
    (s.noting events).calls = s.calls := rfl

theorem noting_noting (s : Session σ) (first later : List Event) :
    (s.noting first).noting later = s.noting (first ++ later) := by
  simp [noting]

theorem replies_cons (p : Provider σ) (s : Session σ) (c : Command) (rest : List Command) :
    s.replies p (c :: rest) = s.reply p c :: (s.after p c).replies p rest := rfl

theorem files_afterAll (p : Provider σ) (s : Session σ) (commands : List Command) :
    (s.afterAll p commands).files = p.filesAfter commands s.provider s.files := by
  induction commands generalizing s with
  | nil => rfl
  | cons c rest ih => exact ih (s.after p c)

-- A provider does not see the journal.
@[simp] theorem files_afterAll_noting (p : Provider σ) (s : Session σ) (events : List Event)
    (commands : List Command) :
    ((s.noting events).afterAll p commands).files = (s.afterAll p commands).files := by
  rw [files_afterAll, files_afterAll]
  rfl

@[simp] theorem calls_afterAll (p : Provider σ) (s : Session σ) (commands : List Command) :
    (s.afterAll p commands).calls = s.calls ++ commands := by
  induction commands generalizing s with
  | nil => simp [afterAll]
  | cons c rest ih =>
    have step : (s.after p c).calls = s.calls ++ [c] := rfl
    have later := ih (s.after p c)
    rw [step, List.append_assoc] at later
    exact later

theorem replies_cons_cons (p : Provider σ) (s : Session σ) (first second : Command)
    (rest : List Command) :
    s.replies p (first :: second :: rest) =
      s.reply p first :: (s.after p first).reply p second ::
        ((s.after p first).after p second).replies p rest := rfl

theorem afterAll_append (p : Provider σ) (s : Session σ) (first later : List Command) :
    s.afterAll p (first ++ later) = (s.afterAll p first).afterAll p later :=
  List.foldl_append

structure Alike (s t : Session σ) : Prop where
  provider : s.provider = t.provider
  files : s.files = t.files

theorem Alike.replies_eq {s t : Session σ} (alike : Alike s t) (p : Provider σ)
    (commands : List Command) : s.replies p commands = t.replies p commands := by
  unfold replies
  rw [alike.provider, alike.files]

theorem Alike.afterAll {s t : Session σ} (alike : Alike s t) (p : Provider σ)
    (commands : List Command) : Alike (s.afterAll p commands) (t.afterAll p commands) := by
  induction commands generalizing s t with
  | nil => exact alike
  | cons c rest ih =>
    have answered : Alike (s.after p c) (t.after p c) := by
      constructor <;> simp only [after, alike.provider, alike.files]
    exact ih answered

end Session

end Sessions

-- A failure skips every step after it, whatever the failures are.
theorem run_bind {ε τ : Type} (x : ExceptT ε (StateM τ) α) (f : α → ExceptT ε (StateM τ) β)
    (s : τ) : (x >>= f).run s =
      match x.run s with
      | (.ok a, s') => (f a).run s'
      | (.error failure, s') => (.error failure, s') := by
  change (match x.run s with | (result, s') => (ExceptT.bindCont f result) s') = _
  rcases x.run s with ⟨result, s'⟩
  cases result <;> rfl

namespace Run
section Steps

theorem run_bind_ok {x : Run σ α} {s s' : Session σ} {a : α} (f : α → Run σ β)
    (done : x.run s = (.ok a, s')) : (x >>= f).run s = (f a).run s' := by
  rw [run_bind, done]

theorem run_bind_error {x : Run σ α} {s s' : Session σ} {failure : Failure} (f : α → Run σ β)
    (failed : x.run s = (.error failure, s')) : (x >>= f).run s = (.error failure, s') := by
  rw [run_bind, failed]

theorem run_pure (a : α) (s : Session σ) : (pure a : Run σ α).run s = (.ok a, s) := rfl

theorem run_get (s : Session σ) : (get : Run σ (Session σ)).run s = (.ok s, s) := rfl

theorem run_note (level : Level) (origin : Origin) (message : String)
    (details : List (String × Detail)) (s : Session σ) :
    (note level origin message details).run s =
      (.ok (), s.noting [{ level, origin, message, details }]) := rfl

theorem run_attempt (x : Run σ α) (s : Session σ) :
    (attempt x).run s = (.ok (x.run s).1, (x.run s).2) := rfl

theorem run_settle (result : Except Failure α) (s : Session σ) :
    (settle result).run s = (result, s) := rfl

/-- Only a command that could not be started has no ending. -/
theorem run_execute (p : Provider σ) (c : Command) (s : Session σ) :
    (execute p c).run s =
      ((s.reply p c).mapError (Failure.spawn c), s.after p c) := by
  unfold execute
  rw [run_bind_ok _ (run_note ..)]
  refine (run_bind_ok _ (run_get (s.noting [Session.spawning c]))).trans ?_
  have noted : p.answer c (s.noting [Session.spawning c]).provider
      (s.noting [Session.spawning c]).files = p.answer c s.provider s.files := rfl
  rw [noted]
  unfold Session.reply Session.after
  rcases p.answer c s.provider s.files with ⟨reply, provider, files⟩
  cases reply <;> rfl

theorem run_checked (p : Provider σ) (c : Command) (s : Session σ) :
    (checked p c).run s = (printed c (s.reply p c), s.after p c) := by
  unfold checked
  rw [run_bind, run_execute]
  cases s.reply p c with
  | error reason => rfl
  | ok ending =>
    by_cases good : ending.success = true
    · change (if ending.success then _ else _ : Run σ Bytes).run _ = _
      simp only [printed, good, if_true]
      rfl
    · change (if ending.success then _ else _ : Run σ Bytes).run _ = _
      simp only [printed, good]
      rfl

theorem run_json (p : Provider σ) (read : Json.Reader α) (c : Command) (s : Session σ) :
    (json p read c).run s =
      ((printed c (s.reply p c)).bind (decoded read c), s.after p c) := by
  unfold json
  rw [run_bind, run_checked]
  cases printed c (s.reply p c) <;> rfl

/-- Every command of a list is put, and every one has a result. -/
theorem run_each (p : Provider σ) (commands : List Command) (s : Session σ) :
    (each p commands).run s =
      (.ok (List.zipWith printed commands (s.replies p commands)), s.afterAll p commands) := by
  -- Over the commands, for any session: the rest starts where the first command has left it.
  induction commands generalizing s with
  | nil => rfl
  | cons c rest ih =>
    have head : (attempt (checked p c)).run s =
        (.ok (printed c (s.reply p c)), s.after p c) := by
      rw [run_attempt, run_checked]
    unfold each
    rw [run_bind_ok _ head, run_bind_ok _ (ih (s.after p c))]
    rfl

theorem run_batch (p : Provider σ) (commands : List Command) (s : Session σ) :
    ∃ events, (batch p commands).run s =
      (.ok (List.zipWith printed commands (s.replies p commands)),
        (s.noting events).afterAll p commands) := by
  unfold batch
  exact ⟨_, (run_bind_ok _ (run_note ..)).trans (run_each p commands _)⟩

end Steps
end Run

end KeyCustody
