import KeyCustody.Aws.Inventory
import KeyCustody.Google.Inventory
import KeyCustody.Proofs.Conversation

/-!
Runs that print nothing. What such a run comes to depends on the provider and the files alone, so
neither the journal nor the output before it makes a difference. Both inventories are silent.
-/
namespace KeyCustody

variable {σ α β : Type}

structure Silent (x : Run σ α) : Prop where
  result : ∀ {s t : Session σ}, Session.Alike s t → (x.run s).1 = (x.run t).1
  left : ∀ {s t : Session σ}, Session.Alike s t → Session.Alike (x.run s).2 (x.run t).2
  sink : ∀ s : Session σ, (x.run s).2.sink = s.sink

namespace Silent
variable {x : Run σ α}

theorem settle (found : Except Failure α) : Silent (Run.settle found : Run σ α) where
  result _ := rfl
  left alike := alike
  sink _ := rfl

theorem pure (a : α) : Silent (Pure.pure a : Run σ α) := .settle (.ok a)

theorem throw (failure : Failure) : Silent (MonadExcept.throw failure : Run σ α) :=
  .settle (.error failure)

theorem note (level : Level) (origin : Origin) (message : String)
    (details : List (String × Detail)) : Silent (Run.note level origin message details : Run σ Unit)
    where
  result _ := rfl
  left alike := ⟨alike.provider, alike.files⟩
  sink _ := rfl

theorem attempt (silent : Silent x) : Silent (Run.attempt x) where
  result {s t} alike := by
    rw [Run.run_attempt, Run.run_attempt, silent.result alike]
  left {s t} alike := by
    rw [Run.run_attempt, Run.run_attempt]
    exact silent.left alike
  sink s := by
    rw [Run.run_attempt]
    exact silent.sink s

theorem bind {f : α → Run σ β} (first : Silent x) (rest : ∀ a, Silent (f a)) :
    Silent (x >>= f) := by
  have both : ∀ {s t : Session σ}, Session.Alike s t →
      ((x >>= f).run s).1 = ((x >>= f).run t).1 ∧
        Session.Alike ((x >>= f).run s).2 ((x >>= f).run t).2 := by
    intro s t alike
    have same := first.result alike
    have middle := first.left alike
    rw [run_bind, run_bind]
    rcases fromS : x.run s with ⟨found, m⟩
    rcases fromT : x.run t with ⟨found', n⟩
    rw [fromS, fromT] at same middle
    obtain rfl : found = found' := same
    cases found with
    | error failure => exact ⟨rfl, middle⟩
    | ok a => exact ⟨(rest a).result middle, (rest a).left middle⟩
  refine ⟨fun alike => (both alike).1, fun alike => (both alike).2, fun s => ?_⟩
  have kept := first.sink s
  rw [run_bind]
  rcases fromS : x.run s with ⟨found, m⟩
  rw [fromS] at kept
  cases found with
  | error failure => exact kept
  | ok a => exact ((rest a).sink m).trans kept

/-- A run that looks at the session may look at what a provider sees of it. -/
theorem get_bind {f : Session σ → Run σ α} (rest : ∀ s, Silent (f s))
    (same : ∀ {s t}, Session.Alike s t → f s = f t) : Silent (get >>= f) where
  result {s t} alike := by
    rw [Run.run_bind_ok f (Run.run_get s), Run.run_bind_ok f (Run.run_get t), ← same alike]
    exact (rest s).result alike
  left {s t} alike := by
    rw [Run.run_bind_ok f (Run.run_get s), Run.run_bind_ok f (Run.run_get t), ← same alike]
    exact (rest s).left alike
  sink s := by
    rw [Run.run_bind_ok f (Run.run_get s)]
    exact (rest s).sink s

theorem checked (p : Provider σ) (c : Command) : Silent (Run.checked p c) where
  result {s t} alike := by
    rw [Run.run_checked, Run.run_checked]
    unfold Session.reply
    rw [alike.provider, alike.files]
  left {s t} alike := by
    rw [Run.run_checked, Run.run_checked]
    exact alike.afterAll p [c]
  sink s := by
    rw [Run.run_checked]
    rfl

theorem json (p : Provider σ) (read : Json.Reader α) (c : Command) : Silent (Run.json p read c) :=
  (checked p c).bind fun stdout => .settle (Run.decoded read c stdout)

theorem batch (p : Provider σ) (commands : List Command) : Silent (Run.batch p commands) := by
  refine (note ..).bind fun _ => ?_
  induction commands with
  | nil => exact .pure []
  | cons c rest ih =>
    exact (checked p c).attempt.bind fun result => ih.bind fun results => .pure (result :: results)

end Silent

section Inventories
variable (p : Provider σ)

theorem Aws.noteAccepted_silent (keys : List Aws.FetchedKey) :
    Silent (Aws.noteAccepted keys : Run σ Unit) := by
  induction keys with
  | nil => exact .pure ()
  | cons key rest ih => exact (Silent.note _ _ _ _).bind fun _ => ih

theorem Aws.attachPublicKeys_silent (settings : Aws.Settings) (withPoint : Bool)
    (aliases : List Aws.Alias) : Silent (Aws.attachPublicKeys p settings withPoint aliases) := by
  unfold Aws.attachPublicKeys
  cases aliases.mapM Aws.requireKeyArn with
  | error failure => exact .pure _
  | ok arns =>
    refine (Silent.batch p _).bind fun results => ?_
    rcases Aws.acceptKeys _ with ⟨keys, failure⟩
    refine (Aws.noteAccepted_silent keys).bind fun _ => ?_
    cases failure <;> exact .pure _

theorem Aws.inventory_silent (settings : Aws.Settings) (withPoint : Bool) :
    Silent (Aws.inventory p settings withPoint) := by
  unfold Aws.inventory
  refine (Silent.json p _ _).attempt.bind fun _ => (Silent.json p _ _).attempt.bind fun _ => ?_
  refine (Silent.settle _).bind fun _ => (Silent.settle _).bind fun _ => ?_
  refine (Silent.note _ _ _ _).bind fun _ => (Silent.settle _).bind fun joined => ?_
  refine (Aws.attachPublicKeys_silent p settings withPoint joined).bind fun attached => ?_
  rcases attached with ⟨aliases, failure⟩
  cases failure with
  | some failure => exact .throw failure
  | none => exact (Silent.note _ _ _ _).bind fun _ => .pure aliases

theorem Google.exportPublicKeys_silent (settings : Google.Settings)
    (records : List Google.KeyRecord) : Silent (Google.exportPublicKeys p settings records) := by
  unfold Google.exportPublicKeys
  refine Silent.get_bind (fun s => ?_) (fun alike => by rw [alike.files])
  cases s.files.stat settings.exportDirectory with
  | error fault => exact .throw _
  | ok node =>
    refine (Silent.batch p _).bind fun _ => (Silent.settle _).bind fun _ => ?_
    exact (Silent.note _ _ _ _).bind fun _ => .pure _

theorem Google.inventory_silent (settings : Google.Settings) (withPoint : Bool) :
    Silent (Google.inventory p settings withPoint) := by
  unfold Google.inventory
  refine (Silent.json p _ _).bind fun _ => (Silent.settle _).bind fun records => ?_
  refine (Silent.note _ _ _ _).bind fun _ => ?_
  refine (Google.exportPublicKeys_silent p settings records).bind fun exports => ?_
  refine Silent.get_bind (fun s => ?_) (fun alike => by rw [alike.files])
  rcases Google.attachPublicKeys s.files withPoint exports records with ⟨attached, failure⟩
  cases failure with
  | some failure => exact .throw failure
  | none => exact (Silent.note _ _ _ _).bind fun _ => .pure attached

end Inventories

end KeyCustody
