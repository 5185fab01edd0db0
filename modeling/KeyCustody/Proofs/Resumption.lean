import KeyCustody.Aws.Creation
import KeyCustody.Google.Creation
import KeyCustody.Proofs.Provisioning

/-!
A plan that is cut in two. The rest of it goes on where its first part has left the provider.
-/
namespace KeyCustody

variable {σ α β : Type}

section Exchanges

namespace Session

theorem replies_append (p : Provider σ) (s : Session σ) (first later : List Command) :
    s.replies p (first ++ later) = s.replies p first ++ (s.afterAll p first).replies p later := by
  induction first generalizing s with
  | nil => rfl
  | cons c rest ih =>
    rw [List.cons_append, replies_cons, replies_cons, ih, List.cons_append]
    rfl

theorem Alike.refl (s : Session σ) : Alike s s := ⟨rfl, rfl⟩

theorem Alike.symm {s t : Session σ} (alike : Alike s t) : Alike t s :=
  ⟨alike.provider.symm, alike.files.symm⟩

theorem Alike.trans {s t u : Session σ} (left : Alike s t) (right : Alike t u) : Alike s u :=
  ⟨left.provider.trans right.provider, left.files.trans right.files⟩

theorem Alike.reply_eq {s t : Session σ} (alike : Alike s t) (p : Provider σ) (c : Command) :
    s.reply p c = t.reply p c := by
  unfold reply
  rw [alike.provider, alike.files]

end Session

structure Exchanged (p : Provider σ) (s : Session σ) (exchange : List (Command × Reply))
    (stop : Session σ) : Prop where
  calls : stop.calls = s.calls ++ exchange.map Prod.fst
  heard : s.replies p (exchange.map Prod.fst) = exchange.map Prod.snd
  left : Session.Alike stop (s.afterAll p (exchange.map Prod.fst))

variable {p : Provider σ} {s m stop : Session σ}

def Session.exchange (p : Provider σ) (s : Session σ) (commands : List Command) :
    List (Command × Reply) :=
  commands.zip (s.replies p commands)

theorem Session.exchange_append (p : Provider σ) (s : Session σ) (first later : List Command) :
    s.exchange p (first ++ later) =
      s.exchange p first ++ (s.afterAll p first).exchange p later := by
  unfold exchange
  rw [replies_append]
  exact List.zip_append (length_replies ..).symm

theorem Leaves.exchanged {commands : List Command} {text : String}
    (leaves : Leaves p s commands text stop) : Exchanged p s (s.exchange p commands) stop := by
  have answered : (s.replies p commands).length = commands.length := length_replies ..
  have asked : (s.exchange p commands).map Prod.fst = commands :=
    List.map_fst_zip (Nat.le_of_eq answered.symm)
  constructor
  · rw [asked]
    exact leaves.calls
  · rw [asked]
    exact (List.map_snd_zip (Nat.le_of_eq answered)).symm
  · rw [asked]
    exact leaves.alike

end Exchanges

section Alikeness
variable {p : Provider σ}

theorem Does.unique {s : Session σ} {x : Run σ α} {commands other : List Command}
    {text more : String} {result found : Except Failure α}
    (left : Does p s x commands text result) (right : Does p s x other more found) :
    commands = other ∧ result = found := by
  obtain ⟨stop, ran, leaves⟩ := left
  obtain ⟨_, again, others⟩ := right
  cases ran.symm.trans again
  have calls := leaves.calls.symm.trans others.calls
  exact ⟨List.append_cancel_left calls, rfl⟩

/-- Runs that a provider cannot tell apart: they give it the same commands and have the same result,
whatever they print. -/
def AsksAlike (p : Provider σ) (x y : Run σ α) : Prop :=
  ∀ s t, Session.Alike s t → s.sink.room = none → t.sink.room = none →
    ∃ commands result, (∃ text, Does p s x commands text result) ∧
      ∃ text, Does p t y commands text result

namespace AsksAlike
variable {x y z : Run σ α}

theorem symm (alike : AsksAlike p x y) : AsksAlike p y x := by
  intro s t same unbounded unboundedOther
  obtain ⟨commands, result, left, right⟩ := alike t s same.symm unboundedOther unbounded
  exact ⟨commands, result, right, left⟩

theorem trans (first : AsksAlike p x y) (later : AsksAlike p y z) : AsksAlike p x z := by
  intro s t same unbounded unboundedOther
  obtain ⟨commands, result, left, _, middle⟩ := first s s (.refl s) unbounded unbounded
  obtain ⟨others, found, ⟨_, again⟩, right⟩ := later s t same unbounded unboundedOther
  obtain ⟨rfl, rfl⟩ := middle.unique again
  exact ⟨commands, result, left, right⟩

theorem pure (a : α) : AsksAlike p (Pure.pure a) (Pure.pure a) := by
  intro s t _ unbounded unboundedOther
  exact ⟨[], .ok a, ⟨_, does_pure p unbounded a⟩, _, does_pure p unboundedOther a⟩

theorem bind {f g : α → Run σ β} (first : AsksAlike p x y)
    (rest : ∀ a, AsksAlike p (f a) (g a)) : AsksAlike p (x >>= f) (y >>= g) := by
  intro s t same unbounded unboundedOther
  obtain ⟨commands, result, ⟨text, left⟩, other, right⟩ := first s t same unbounded unboundedOther
  cases result with
  | error failure =>
    exact ⟨commands, .error failure, ⟨text, left.bind_error f⟩, other, right.bind_error g⟩
  | ok a =>
    obtain ⟨m, ran, leaves⟩ := left
    obtain ⟨n, ranOther, leavesOther⟩ := right
    -- Both have given the same commands, so the provider is in one state for what follows.
    have middle : Session.Alike m n :=
      leaves.alike.trans ((same.afterAll p commands).trans leavesOther.alike.symm)
    obtain ⟨later, found, ⟨more, stop, ranLater, leavesLater⟩, others, stopOther, ranOtherLater,
      leavesOtherLater⟩ := rest a m n middle leaves.unbounded leavesOther.unbounded
    exact ⟨commands ++ later, found,
      ⟨text ++ more, stop, (Run.run_bind_ok f ran).trans ranLater, leaves.trans leavesLater⟩,
      other ++ others, stopOther, (Run.run_bind_ok g ranOther).trans ranOtherLater,
      leavesOther.trans leavesOtherLater⟩

theorem print (text other : String) : AsksAlike p (Run.print text) (Run.print other) := by
  intro s t _ unbounded unboundedOther
  exact ⟨[], .ok (), ⟨text, does_print p unbounded text⟩, other, does_print p unboundedOther other⟩

theorem note (level : Level) (origin : Origin) (message : String)
    (details : List (String × Detail)) :
    AsksAlike p (Run.note level origin message details) (Run.note level origin message details) := by
  have noted : ∀ s : Session σ, s.sink.room = none →
      Does p s (Run.note level origin message details) [] "" (.ok ()) := fun s unbounded =>
    ⟨_, Run.run_note level origin message details s, (Leaves.refl p unbounded).note _⟩
  intro s t _ unbounded unboundedOther
  exact ⟨[], .ok (), ⟨"", noted s unbounded⟩, "", noted t unboundedOther⟩

-- A single command, whose reply decides what comes of the run.
theorem of_reply {c : Command} (result : Reply → Except Failure α)
    (runs : ∀ s : Session σ, x.run s = (result (s.reply p c), s.after p c)) : AsksAlike p x x := by
  have asked : ∀ s : Session σ, s.sink.room = none → Does p s x [c] "" (result (s.reply p c)) :=
    fun s unbounded => ⟨_, runs s, (Leaves.refl p unbounded).command c⟩
  intro s t same unbounded unboundedOther
  have other := asked t unboundedOther
  rw [← same.reply_eq p c] at other
  exact ⟨[c], _, ⟨"", asked s unbounded⟩, "", other⟩

theorem checked (c : Command) : AsksAlike p (Run.checked p c) (Run.checked p c) :=
  of_reply (printed c) (Run.run_checked p c)

theorem json (read : Json.Reader α) (c : Command) :
    AsksAlike p (Run.json p read c) (Run.json p read c) :=
  of_reply (fun reply => (printed c reply).bind (Run.decoded read c)) (Run.run_json p read c)

theorem after_wait (alike : AsksAlike p x y) (milliseconds : Nat) :
    AsksAlike p (Run.wait milliseconds >>= fun _ => x) y := by
  have waited : AsksAlike p (Run.wait milliseconds) (Pure.pure ()) := by
    intro s t _ unbounded unboundedOther
    exact ⟨[], .ok (), ⟨"", does_wait p unbounded milliseconds⟩, _,
      does_pure p unboundedOther ()⟩
  have both := waited.bind fun _ => alike
  rwa [pure_bind] at both

theorem then_print (alike : AsksAlike p x y) (text : String) :
    AsksAlike p (do let a ← x; Run.print text; Pure.pure a) y := by
  have silent : ∀ a : α, AsksAlike p (do Run.print text; Pure.pure a) (Pure.pure a) := by
    intro a s t _ unbounded unboundedOther
    exact ⟨[], .ok a, ⟨_, (does_print p unbounded text).map fun _ => a⟩, _,
      does_pure p unboundedOther a⟩
  have both := alike.bind silent
  rwa [bind_pure] at both

end AsksAlike

end Alikeness

section Cutting
variable {p : Provider σ}

/-- A first part of a plan and the rest of it, beside the whole plan from the same session on. If
the first part fails the whole plan fails in the same way; else the rest goes on from there. -/
inductive Resumed (p : Provider σ) (s : Session σ) (first rest whole : Run σ (List α)) : Prop where
  | failed {failure : Failure} {exchange : List (Command × Reply)} {m stop : Session σ}
    (ran : first.run s = (.error failure, m)) (exchanged : Exchanged p s exchange m)
    (alone : whole.run s = (.error failure, stop)) (same : Exchanged p s exchange stop)
  | finished {made : List α} {exchange later : List (Command × Reply)} {m stop last : Session σ}
    {result : Except Failure (List α)}
    (ran : first.run s = (.ok made, m)) (exchanged : Exchanged p s exchange m)
    (ranRest : rest.run m = (result, last)) (exchangedRest : Exchanged p m later last)
    (alone : whole.run s = (result.map (made ++ ·), stop))
    (same : Exchanged p s (exchange ++ later) stop)

theorem resumed_of_asksAlike {first rest whole : Run σ (List α)}
    (firstSame : AsksAlike p first first) (restSame : AsksAlike p rest rest)
    (alike : AsksAlike p whole (do let made ← first; let later ← rest; pure (made ++ later)))
    {s : Session σ} (unbounded : s.sink.room = none) : Resumed p s first rest whole := by
  obtain ⟨commands, result, ⟨_, stop, alone, leavesWhole⟩, _, both⟩ :=
    alike s s (.refl s) unbounded unbounded
  obtain ⟨asked, found, ⟨text, began⟩, -⟩ := firstSame s s (.refl s) unbounded unbounded
  cases found with
  | error failure =>
    obtain ⟨rfl, rfl⟩ := both.unique (began.bind_error _)
    obtain ⟨m, ran, leaves⟩ := began
    exact .failed ran leaves.exchanged alone leavesWhole.exchanged
  | ok made =>
    obtain ⟨m, ran, leaves⟩ := began
    obtain ⟨later, others, ⟨more, last, ranRest, leavesRest⟩, -⟩ :=
      restSame m m (.refl m) leaves.unbounded leaves.unbounded
    have went : Does p m (do let later ← rest; pure (made ++ later)) later more
        (others.map (made ++ ·)) := Does.map _ ⟨last, ranRest, leavesRest⟩
    obtain ⟨stopBoth, ranBoth, leavesBoth⟩ := went
    have resumed : Does p s (do let made ← first; let later ← rest; pure (made ++ later))
        (asked ++ later) (text ++ more) (others.map (made ++ ·)) :=
      ⟨stopBoth, (Run.run_bind_ok _ ran).trans ranBoth, leaves.trans leavesBoth⟩
    obtain ⟨rfl, rfl⟩ := both.unique resumed
    have exchanged := leavesWhole.exchanged
    have onward : (s.afterAll p asked).exchange p later = m.exchange p later := by
      unfold Session.exchange
      rw [leaves.replies_eq]
    rw [Session.exchange_append, onward] at exchanged
    exact .finished ran leaves.exchanged ranRest leavesRest.exchanged alone exchanged

/-- Pauses are not seen by a provider, so a plan asks what the creations of its indices ask. -/
theorem createPlanned_asksAlike {create other : Nat → Run σ α}
    (alike : ∀ index, AsksAlike p (create index) (other index)) (plan : Plan) :
    AsksAlike p (createPlanned create plan) (plan.indices.mapM other) := by
  refine createPlanned_induction (motive := fun indices run =>
    AsksAlike p run (indices.mapM other)) create plan ?nil ?cons ?pause
  case nil =>
    rw [List.mapM_nil]
    exact .pure []
  case cons =>
    intro index indices rest same
    rw [List.mapM_cons]
    exact (alike index).bind fun key => same.bind fun keys => .pure (key :: keys)
  case pause =>
    intro indices milliseconds run same
    exact same.after_wait milliseconds

theorem provision_asksAlike {create other : Nat → Run σ α}
    (alike : ∀ index, AsksAlike p (create index) (other index)) (plan : Plan) :
    AsksAlike p (provision create plan) (plan.indices.mapM other) :=
  (createPlanned_asksAlike alike plan).then_print "DONE\n"

theorem indices_cut {start count more : UInt32} (delay delayRest delayWhole : UInt64)
    (bound : start.toNat + count.toNat + more.toNat ≤ Plan.greatestStop) :
    Plan.indices ⟨start, count + more, delayWhole⟩ =
      Plan.indices ⟨start, count, delay⟩ ++ Plan.indices ⟨start + count, more, delayRest⟩ := by
  have range : Plan.greatestStop < 2 ^ 32 := by decide
  have begins : (start + count).toNat = start.toNat + count.toNat := by
    rw [UInt32.toNat_add]
    omega
  have counts : (count + more).toNat = count.toNat + more.toNat := by
    rw [UInt32.toNat_add]
    omega
  have sizeWhole : Plan.size ⟨start, count + more, delayWhole⟩ = count.toNat + more.toNat := by
    simp only [Plan.size, Plan.stop, counts]
    omega
  have sizeFirst : Plan.size ⟨start, count, delay⟩ = count.toNat := by
    simp only [Plan.size, Plan.stop]
    omega
  have sizeRest : Plan.size ⟨start + count, more, delayRest⟩ = more.toNat := by
    simp only [Plan.size, Plan.stop, begins]
    omega
  unfold Plan.indices
  rw [sizeWhole, sizeFirst, sizeRest, begins, List.range'_append_1]

/-- Ways to create a key that differ only in what they print make no difference to a cut. -/
theorem provision_cut (create : Nat → Nat → Run σ α)
    (alike : ∀ note other index, AsksAlike p (create note index) (create other index))
    {first rest whole : Plan} (cut : whole.indices = first.indices ++ rest.indices)
    {s : Session σ} (unbounded : s.sink.room = none) :
    Resumed p s (provision (create first.stop) first) (provision (create rest.stop) rest)
      (provision (create whole.stop) whole) := by
  have planned : ∀ plan : Plan, AsksAlike p (provision (create plan.stop) plan)
      (plan.indices.mapM (create 0)) := fun plan => provision_asksAlike (alike plan.stop 0) plan
  have self : ∀ plan : Plan, AsksAlike p (provision (create plan.stop) plan)
      (provision (create plan.stop) plan) := fun plan => (planned plan).trans (planned plan).symm
  refine resumed_of_asksAlike (self first) (self rest) ?_ unbounded
  have whole := planned whole
  rw [cut, List.mapM_append] at whole
  refine whole.trans (AsksAlike.symm ?_)
  exact (planned first).bind fun made => (planned rest).bind fun later => .pure (made ++ later)

end Cutting

section Tools
variable (p : Provider σ)

theorem Aws.createNamed_asksAlike (settings : Aws.Settings) (index : Nat) :
    AsksAlike p (Aws.createNamed p settings index) (Aws.createNamed p settings index) := by
  have created : AsksAlike p (Aws.createKey p settings) (Aws.createKey p settings) :=
    (AsksAlike.json _ _).bind fun key => .pure key.arn
  have aliased : ∀ name arn, AsksAlike p (Aws.createAlias p settings name arn)
      (Aws.createAlias p settings name arn) := fun name arn =>
    (AsksAlike.checked _).bind fun _ => .pure ()
  unfold Aws.createNamed
  refine (AsksAlike.print _ _).bind fun _ => created.bind fun arn => ?_
  refine (AsksAlike.print _ _).bind fun _ => (aliased _ arn).bind fun _ => ?_
  exact (AsksAlike.print _ _).bind fun _ => (AsksAlike.note _ _ _ _).bind fun _ => .pure _

theorem Google.createNamed_asksAlike (settings : Google.Settings) (stop other index : Nat) :
    AsksAlike p (Google.createNamed p settings stop index)
      (Google.createNamed p settings other index) := by
  have created : ∀ name, AsksAlike p (Google.createKey p settings name)
      (Google.createKey p settings name) := fun name =>
    (AsksAlike.checked _).bind fun _ => .pure ()
  unfold Google.createNamed
  refine (created _).bind fun _ => (AsksAlike.print _ _).bind fun _ => ?_
  exact (AsksAlike.note _ _ _ _).bind fun _ => .pure _

variable (aws : Aws.Settings) (google : Google.Settings) (start count more : UInt32)
  (delay delayRest delayWhole : UInt64) (s : Session σ)

/-- A plan may be cut anywhere, also before its first index or behind its last one. What the two
parts ask and hear is what the whole plan asks and hears, and so is what they come to. -/
theorem provision_resumed (unbounded : s.sink.room = none)
    (bound : start.toNat + count.toNat + more.toNat ≤ 0xffffffff) :
    Resumed p s (Aws.provision p aws ⟨start, count, delay⟩)
        (Aws.provision p aws ⟨start + count, more, delayRest⟩)
        (Aws.provision p aws ⟨start, count + more, delayWhole⟩) ∧
      Resumed p s (Google.provision p google ⟨start, count, delay⟩)
        (Google.provision p google ⟨start + count, more, delayRest⟩)
        (Google.provision p google ⟨start, count + more, delayWhole⟩) := by
  have cut := indices_cut delay delayRest delayWhole bound
  constructor
  · exact provision_cut (fun _ => Aws.createNamed p aws)
      (fun _ _ => Aws.createNamed_asksAlike p aws) cut unbounded
  · exact provision_cut (Google.createNamed p google)
      (Google.createNamed_asksAlike p google) cut unbounded

def twoKeysProvider : Provider Nat where
  answer c created files :=
    match c.value? "--alias-name", created with
    | some _, _ => (.ok ⟨true, some 0, [], []⟩, created, files)
    | none, left + 1 =>
      (.ok ⟨true, some 0, Text.encode "\x7b\"KeyMetadata\":[\"K\",\"arn:K\"]\x7d", []⟩, left, files)
    | none, 0 => (.ok ⟨false, some 1, [], []⟩, 0, files)

theorem provision_resumed_twoKeys :
    Resumed twoKeysProvider { provider := 2 } (Aws.provision twoKeysProvider {} ⟨7, 1, 0⟩)
        (Aws.provision twoKeysProvider {} ⟨7 + 1, 2, 9⟩)
        (Aws.provision twoKeysProvider {} ⟨7, 1 + 2, 5⟩) ∧
      Resumed twoKeysProvider { provider := 2 } (Google.provision twoKeysProvider {} ⟨7, 1, 0⟩)
        (Google.provision twoKeysProvider {} ⟨7 + 1, 2, 9⟩)
        (Google.provision twoKeysProvider {} ⟨7, 1 + 2, 5⟩) :=
  provision_resumed twoKeysProvider {} {} 7 1 2 0 9 5 { provider := 2 } rfl (by decide)

end Tools

end KeyCustody
