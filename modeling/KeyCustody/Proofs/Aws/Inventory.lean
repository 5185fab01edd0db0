import KeyCustody.Aws.Inventory
import KeyCustody.Proofs.Attachment
import KeyCustody.Proofs.Aws.SigningKey
import KeyCustody.Proofs.Conversation
import KeyCustody.Proofs.PublicPoint
import KeyCustody.Proofs.Traversal

namespace KeyCustody.Aws

variable {σ : Type}

section Joins

/-- `arn` is the resource name of the key that an alias names. Of several the last listed counts. -/
def Targets (keys : List Key) (a : Alias) (arn : String) : Prop :=
  ∃ key, IsLast (fun key => key.id = a.target) keys key ∧ key.arn = arn

theorem arnOf_iff (keys : List Key) (a : Alias) (arn : String) :
    arnOf? keys a.target = some arn ↔ Targets keys a arn := by
  unfold arnOf? Targets
  rw [Option.map_eq_some_iff]
  simp only [find_reverse_iff (fun key : Key => key.id = a.target)]

theorem joinKeyArn_ok_iff (keys : List Key) (a joined : Alias) :
    joinKeyArn keys a = .ok joined ↔
      ∃ arn, Targets keys a arn ∧ joined = { a with keyArn := some arn } := by
  simp only [← arnOf_iff]
  unfold joinKeyArn
  cases arnOf? keys a.target with
  | none => simp
  | some arn => simp [eq_comm]

def withArns (listed : List Alias) (arns : List String) : List Alias :=
  List.zipWith (fun a arn => { a with keyArn := some arn }) listed arns

theorem joinKeyArns_ok_iff (keys : List Key) (listed joined : List Alias) :
    joinKeyArns keys listed = .ok joined ↔
      ∃ arns, List.Forall₂ (Targets keys) listed arns ∧ joined = withArns listed arns := by
  unfold joinKeyArns
  rw [walk_ok_iff]
  induction listed generalizing joined with
  | nil => simp [withArns]
  | cons a rest ih =>
    simp only [List.forall₂_cons_left_iff, ih]
    constructor
    · rintro ⟨head, _, done, ⟨arns, later, rfl⟩, rfl⟩
      obtain ⟨arn, here, rfl⟩ := (joinKeyArn_ok_iff keys a head).mp done
      exact ⟨arn :: arns, ⟨arn, arns, here, later, rfl⟩, rfl⟩
    · rintro ⟨_, ⟨arn, arns, here, later, rfl⟩, rfl⟩
      have done := (joinKeyArn_ok_iff keys a _).mpr ⟨arn, here, rfl⟩
      exact ⟨_, _, done, ⟨arns, later, rfl⟩, rfl⟩

-- A joined alias has its resource name, so none is missing when keys are fetched.
theorem requireKeyArn_joined (listed : List Alias) (arns : List String)
    (paired : listed.length = arns.length) :
    (withArns listed arns).mapM requireKeyArn = .ok arns := by
  rw [walk_ok_iff]
  induction listed generalizing arns with
  | nil =>
    cases arns with
    | nil => exact .nil
    | cons arn rest => cases paired
  | cons a listed ih =>
    cases arns with
    | nil => cases paired
    | cons arn arns => exact .cons rfl (ih arns (Nat.succ.inj paired))

end Joins

section Fetching

theorem readFetched_ok_iff (c : Command) (reply : Reply) (key : FetchedKey) :
    (printed c reply).bind (readFetched c) = .ok key ↔
      Prints FetchedKey.record.reader reply key ∧ IsSigningKey key := by
  rw [← prints_iff _ c, ← validate_ok_iff]
  unfold readFetched
  cases printed c reply with
  | error failure => simp [Except.bind]
  | ok stdout =>
    cases found : Run.decoded FetchedKey.record.reader c stdout with
    | error failure => simp [Except.bind, bind, found]
    | ok read =>
      cases judged : read.validate with
      | error failure =>
        simp only [Except.bind, bind, found, judged]
        constructor
        · intro done
          cases done
        · rintro ⟨same, valid⟩
          cases same
          rw [judged] at valid
          cases valid
      | ok =>
        simp only [Except.bind, bind, found, judged]
        constructor
        · intro same
          cases same
          exact ⟨rfl, judged⟩
        · rintro ⟨same, -⟩
          exact same

/-- All replies are accepted exactly when each is, and then each gives one key. -/
theorem acceptKeys_iff (commands : List Command) (replies : List Reply) (keys : List FetchedKey)
    (paired : commands.length = replies.length) :
    acceptKeys (commands.zip (List.zipWith printed commands replies)) = (keys, none) ↔
      List.Forall₂ (Prints FetchedKey.record.reader) replies keys ∧ ∀ key ∈ keys, IsSigningKey key := by
  induction commands generalizing replies keys with
  | nil =>
    cases replies with
    | nil =>
      constructor
      · intro done
        cases done
        exact ⟨.nil, by simp⟩
      · rintro ⟨none, -⟩
        cases none
        rfl
    | cons reply rest => cases paired
  | cons c commands ih =>
    cases replies with
    | nil => cases paired
    | cons reply replies =>
      have tail := fun rest => ih replies rest (Nat.succ.inj paired)
      simp only [List.zipWith_cons_cons, List.zip_cons_cons, acceptKeys,
        List.forall₂_cons_left_iff]
      cases read : (printed c reply).bind (readFetched c) with
      -- Nothing after a refused reply is looked at.
      | error failure =>
        constructor
        · intro done
          cases done
        · rintro ⟨⟨key, rest, told, -, rfl⟩, signing⟩
          have good := (readFetched_ok_iff c reply key).mpr ⟨told, signing key (by simp)⟩
          exact absurd (read.symm.trans good) (by simp)
      | ok key =>
        have here := (readFetched_ok_iff c reply key).mp read
        constructor
        · intro done
          simp only [Prod.mk.injEq] at done
          obtain ⟨rfl, none⟩ := done
          have later := (tail _).mp (Prod.ext rfl none)
          refine ⟨⟨key, _, here.1, later.1, rfl⟩, ?_⟩
          simpa using ⟨here.2, later.2⟩
        · rintro ⟨⟨other, rest, told, later, rfl⟩, signing⟩
          have good := (readFetched_ok_iff c reply other).mpr ⟨told, signing other (by simp)⟩
          have same : key = other := Except.ok.inj (read.symm.trans good)
          have accepted := (tail rest).mpr ⟨later, fun k member => signing k (by simp [member])⟩
          simp [accepted, same]

end Fetching

section Attaching

/-- What becomes of a listed alias whose key is called `arn`: it gets that name, the public key of
the last fetched key of that name and, if asked for, its point. All else stays as it was. -/
def Enriched (withPoint : Bool) (fetched : List FetchedKey) (listed : Alias × String)
    (result : Alias) : Prop :=
  ∃ key, IsLast (fun key => key.id = listed.2) fetched key ∧
    ∃ point, PointSaid withPoint (PublicKey.normalizeString key.publicKey) listed.1.point point ∧
      result = { listed.1 with
        keyArn := some listed.2
        publicKey := some (PublicKey.normalizeString key.publicKey)
        point }

theorem keyNamed_iff (fetched : List FetchedKey) (arn : String) (key : FetchedKey) :
    keyNamed? fetched arn = some key ↔ IsLast (fun key => key.id = arn) fetched key :=
  find_reverse_iff (fun key : FetchedKey => key.id = arn) fetched key

theorem attachKey_ok_iff (withPoint : Bool) (fetched : List FetchedKey) (arn : String)
    (a result : Alias) :
    attachKey withPoint fetched arn { a with keyArn := some arn } = .ok result ↔
      Enriched withPoint fetched (a, arn) result := by
  unfold Enriched
  simp only [← keyNamed_iff]
  unfold attachKey
  cases keyNamed? fetched arn with
  | none => simp
  | some key =>
    simp only [Option.some.injEq, exists_eq_left']
    have published := publish_into_iff withPoint key.publicKey a.point fun text point =>
      result = { a with keyArn := some arn, publicKey := some text, point }
    rw [← published]
    cases publish withPoint key.publicKey with
    | error failure => simp [bind, Except.bind]
    | ok published => simp [bind, Except.bind, eq_comm]

theorem attachKeys_joined_iff (withPoint : Bool) (fetched : List FetchedKey) (listed : List Alias)
    (arns : List String) (results : List Alias) (paired : listed.length = arns.length) :
    attachKeys withPoint fetched ((withArns listed arns).zip arns) = ⟨results, none⟩ ↔
      List.Forall₂ (Enriched withPoint fetched) (listed.zip arns) results := by
  rw [attachKeys, attachEach_complete_iff]
  induction listed generalizing arns results with
  | nil => simp [withArns]
  | cons a listed ih =>
    cases arns with
    | nil => cases paired
    | cons arn arns =>
      have tail := fun rest => ih arns rest (Nat.succ.inj paired)
      simp only [withArns, List.zipWith_cons_cons, List.zip_cons_cons,
        List.forall₂_cons_left_iff, attachKey_ok_iff] at tail ⊢
      simp only [tail]

end Attaching

section Runs
variable (p : Provider σ) (settings : Settings) (withPoint : Bool)

theorem run_noteAccepted (keys : List FetchedKey) (s : Session σ) :
    ∃ events, (noteAccepted keys).run s = (.ok (), s.noting events) := by
  induction keys generalizing s with
  | nil => exact ⟨[], by simp [noteAccepted, Run.run_pure, Session.noting]⟩
  | cons key rest ih =>
    unfold noteAccepted
    rw [Run.run_bind_ok _ (Run.run_note ..)]
    obtain ⟨events, later⟩ := ih (s.noting _)
    exact ⟨_, later.trans (by rw [Session.noting_noting])⟩

def attachment (listed : List Alias) (arns : List String) (replies : List Reply) : Attachment :=
  let commands := arns.map settings.getPublicKey
  match acceptKeys (commands.zip (List.zipWith printed commands replies)) with
  | (_, some failure) => ⟨listed, some failure⟩
  | (keys, none) => attachKeys withPoint keys (listed.zip arns)

/-- Every command is put, whatever becomes of the others. A failure is part of the attachment. -/
theorem run_attachPublicKeys (listed : List Alias) (arns : List String) (s : Session σ)
    (named : listed.mapM requireKeyArn = .ok arns) :
    ∃ before later, (attachPublicKeys p settings withPoint listed).run s =
      (.ok (attachment settings withPoint listed arns
          (s.replies p (arns.map settings.getPublicKey))),
        ((s.noting before).afterAll p (arns.map settings.getPublicKey)).noting later) := by
  obtain ⟨before, batched⟩ := Run.run_batch p (arns.map settings.getPublicKey) s
  unfold attachPublicKeys attachment
  simp only [named]
  rw [Run.run_bind_ok _ batched]
  rcases acceptKeys _ with ⟨keys, failure⟩
  obtain ⟨later, accepted⟩ := run_noteAccepted keys
    ((s.noting before).afterAll p (arns.map settings.getPublicKey))
  rw [Run.run_bind_ok _ accepted]
  refine ⟨before, later, ?_⟩
  cases failure <;> rfl

theorem attachment_ok_iff (aliases : List Alias) (arns : List String) (replies : List Reply)
    (results : List Alias) (answered : arns.length = replies.length) :
    attachment settings withPoint aliases arns replies = ⟨results, none⟩ ↔
      ∃ fetched, List.Forall₂ (Prints FetchedKey.record.reader) replies fetched ∧
        (∀ key ∈ fetched, IsSigningKey key) ∧
        attachKeys withPoint fetched (aliases.zip arns) = ⟨results, none⟩ := by
  have commanded : (arns.map settings.getPublicKey).length = replies.length := by
    rw [List.length_map, answered]
  have accepts := fun keys =>
    acceptKeys_iff (arns.map settings.getPublicKey) replies keys commanded
  simp only [attachment]
  cases judged : acceptKeys ((arns.map settings.getPublicKey).zip
      (List.zipWith printed (arns.map settings.getPublicKey) replies)) with
  | mk keys failure =>
    rw [judged] at accepts
    cases failure with
    | some failure =>
      constructor
      · intro done
        injection done with _ none
        cases none
      · rintro ⟨fetched, told, signing, -⟩
        have good := (accepts fetched).mpr ⟨told, signing⟩
        cases good
    | none =>
      constructor
      · intro attached
        obtain ⟨told, signing⟩ := (accepts keys).mp rfl
        exact ⟨keys, told, signing, attached⟩
      · rintro ⟨fetched, told, signing, attached⟩
        have same := (accepts fetched).mpr ⟨told, signing⟩
        injection same with same
        rw [same]
        exact attached

theorem attachment_complete_iff (listed : List Alias) (arns : List String) (replies : List Reply)
    (results : List Alias) (paired : listed.length = arns.length)
    (answered : arns.length = replies.length) :
    attachment settings withPoint (withArns listed arns) arns replies = ⟨results, none⟩ ↔
      ∃ fetched, List.Forall₂ (Prints FetchedKey.record.reader) replies fetched ∧
        (∀ key ∈ fetched, IsSigningKey key) ∧
        List.Forall₂ (Enriched withPoint fetched) (listed.zip arns) results := by
  rw [attachment_ok_iff settings withPoint _ arns replies results answered]
  simp only [attachKeys_joined_iff withPoint _ listed arns results paired]

def conclusion (keysReply aliasesReply : Reply) (fetches : List String → List Reply) :
    Except Failure (List Alias) := do
  let keys ← (printed settings.listKeys keysReply).bind
    (Run.decoded (Json.list Key.record.reader) settings.listKeys)
  let listed ← (printed settings.listAliases aliasesReply).bind
    (Run.decoded (Json.list Alias.record.reader) settings.listAliases)
  let joined ← joinKeyArns keys listed
  let arns ← joined.mapM requireKeyArn
  settled (attachment settings withPoint joined arns (fetches arns))

def listings (s : Session σ) : Session σ :=
  s.afterAll p [settings.listKeys, settings.listAliases]

def asked (keysReply aliasesReply : Reply) : Except Failure (List Alias × List String) := do
  let keys ← (printed settings.listKeys keysReply).bind
    (Run.decoded (Json.list Key.record.reader) settings.listKeys)
  let listed ← (printed settings.listAliases aliasesReply).bind
    (Run.decoded (Json.list Alias.record.reader) settings.listAliases)
  let joined ← joinKeyArns keys listed
  let arns ← joined.mapM requireKeyArn
  .ok (joined, arns)

def fetchCommands : Except Failure (List Alias × List String) → List Command
  | .error _ => []
  | .ok (_, arns) => arns.map settings.getPublicKey

theorem run_inventory (s : Session σ) :
    ∃ stop, (inventory p settings withPoint).run s =
        (conclusion settings withPoint (s.reply p settings.listKeys)
          ((s.after p settings.listKeys).reply p settings.listAliases)
          (fun arns => (listings p settings s).replies p (arns.map settings.getPublicKey)), stop) ∧
      stop.calls = s.calls ++ [settings.listKeys, settings.listAliases] ++
        fetchCommands settings (asked settings (s.reply p settings.listKeys)
          ((s.after p settings.listKeys).reply p settings.listAliases)) := by
  have first := Run.run_attempt (Run.json p (Json.list Key.record.reader) settings.listKeys) s
  rw [Run.run_json] at first
  have second : (Run.attempt (Run.json p (Json.list Alias.record.reader)
      settings.listAliases)).run (s.after p settings.listKeys) =
      (.ok ((printed settings.listAliases
        ((s.after p settings.listKeys).reply p settings.listAliases)).bind
        (Run.decoded (Json.list Alias.record.reader) settings.listAliases)),
        listings p settings s) := by
    rw [Run.run_attempt, Run.run_json]
    rfl
  have called : (listings p settings s).calls =
      s.calls ++ [settings.listKeys, settings.listAliases] := Session.calls_afterAll ..
  have only : (listings p settings s).calls =
      s.calls ++ [settings.listKeys, settings.listAliases] ++ [] := by
    rw [called, List.append_nil]
  unfold inventory conclusion asked
  rw [Run.run_bind_ok _ first, Run.run_bind_ok _ second]
  -- Each step that can fail ends both sides alike; only the last one puts further commands.
  cases (printed settings.listKeys (s.reply p settings.listKeys)).bind
      (Run.decoded (Json.list Key.record.reader) settings.listKeys) with
  | error failure => exact ⟨_, rfl, only⟩
  | ok keys =>
    rw [Run.run_bind_ok _ (Run.run_settle ..), ok_bind, ok_bind]
    cases (printed settings.listAliases
        ((s.after p settings.listKeys).reply p settings.listAliases)).bind
        (Run.decoded (Json.list Alias.record.reader) settings.listAliases) with
    | error failure => exact ⟨_, rfl, only⟩
    | ok listed =>
      rw [Run.run_bind_ok _ (Run.run_settle ..), Run.run_bind_ok _ (Run.run_note ..), ok_bind,
        ok_bind]
      cases joined : joinKeyArns keys listed with
      | error failure => exact ⟨_, rfl, only⟩
      | ok aliases =>
        rw [Run.run_bind_ok _ (Run.run_settle ..), ok_bind, ok_bind]
        obtain ⟨arns, targets, rfl⟩ := (joinKeyArns_ok_iff keys listed aliases).mp joined
        have named := requireKeyArn_joined listed arns targets.length_eq
        obtain ⟨before, later, attached⟩ := run_attachPublicKeys p settings withPoint _ arns
          (Session.noting (listings p settings s) _) named
        rw [Session.replies_noting] at attached
        rw [named, ok_bind, ok_bind, Run.run_bind_ok _ attached]
        beta_reduce
        rcases attachment settings withPoint (withArns listed arns) arns
          ((listings p settings s).replies p (arns.map settings.getPublicKey)) with ⟨results, failure⟩
        cases failure with
        | some failure => exact ⟨_, rfl, by simp [called, fetchCommands]⟩
        | none => exact ⟨_, rfl, by simp [called, fetchCommands]⟩

theorem conclusion_ok_iff (keysReply aliasesReply : Reply) (fetches : List String → List Reply)
    (answered : ∀ arns, (fetches arns).length = arns.length) (results : List Alias) :
    conclusion settings withPoint keysReply aliasesReply fetches = .ok results ↔
      ∃ keys listed arns fetched, Prints (Json.list Key.record.reader) keysReply keys ∧
        Prints (Json.list Alias.record.reader) aliasesReply listed ∧
        List.Forall₂ (Targets keys) listed arns ∧
        List.Forall₂ (Prints FetchedKey.record.reader) (fetches arns) fetched ∧
        (∀ key ∈ fetched, IsSigningKey key) ∧
        List.Forall₂ (Enriched withPoint fetched) (listed.zip arns) results := by
  unfold conclusion
  simp only [bind_ok_iff, prints_iff, joinKeyArns_ok_iff, settled_ok_iff]
  constructor
  · rintro ⟨keys, keysTold, listed, listedTold, _, ⟨arns, targets, rfl⟩, arns', named, done⟩
    have paired := targets.length_eq
    have same := (requireKeyArn_joined listed arns paired).symm.trans named
    cases same
    obtain ⟨fetched, told, signing, enriched⟩ := (attachment_complete_iff settings withPoint listed
      arns (fetches arns) results paired (answered arns).symm).mp done
    exact ⟨keys, listed, arns, fetched, keysTold, listedTold, targets, told, signing, enriched⟩
  · rintro ⟨keys, listed, arns, fetched, keysTold, listedTold, targets, told, signing, enriched⟩
    have paired := targets.length_eq
    have complete := (attachment_complete_iff settings withPoint listed arns (fetches arns) results
      paired (answered arns).symm).mpr ⟨fetched, told, signing, enriched⟩
    exact ⟨keys, keysTold, listed, listedTold, _, ⟨arns, targets, rfl⟩, arns,
      requireKeyArn_joined listed arns paired, complete⟩

end Runs

section Exactness
variable (p : Provider σ) (settings : Settings) (withPoint : Bool)

structure Complete (s : Session σ) (keys : List Key) (listed : List Alias) (arns : List String)
    (fetched : List FetchedKey) : Prop where
  keysListed : Prints (Json.list Key.record.reader) (s.reply p settings.listKeys) keys
  aliasesListed : Prints (Json.list Alias.record.reader)
    ((s.after p settings.listKeys).reply p settings.listAliases) listed
  targets : List.Forall₂ (Targets keys) listed arns
  fetches : List.Forall₂ (Prints FetchedKey.record.reader)
    ((listings p settings s).replies p (arns.map settings.getPublicKey)) fetched
  signing : ∀ key ∈ fetched, IsSigningKey key
  named : ∀ arn ∈ arns, ∃ key ∈ fetched, key.id = arn

def HavePoints (arns : List String) (fetched : List FetchedKey) : Prop :=
  ∀ arn ∈ arns, ∀ key, IsLast (fun key => key.id = arn) fetched key →
    ∃ point, PublicKey.pointHex (PublicKey.normalizeString key.publicKey) = .ok point

theorem exists_enriched_one_iff (fetched : List FetchedKey) (listed : Alias × String) :
    (∃ result, Enriched withPoint fetched listed result) ↔
      ∃ key, IsLast (fun key => key.id = listed.2) fetched key ∧
        (withPoint = true →
          ∃ point, PublicKey.pointHex (PublicKey.normalizeString key.publicKey) = .ok point) := by
  unfold Enriched
  constructor
  · rintro ⟨_, key, last, point, said, rfl⟩
    exact ⟨key, last, (exists_pointSaid_iff withPoint _ _).mp ⟨point, said⟩⟩
  · rintro ⟨key, last, decodes⟩
    obtain ⟨point, said⟩ := (exists_pointSaid_iff withPoint _ listed.1.point).mpr decodes
    exact ⟨_, key, last, point, said, rfl⟩

theorem exists_enriched_iff (fetched : List FetchedKey) (listed : List Alias) (arns : List String)
    (paired : listed.length = arns.length) :
    (∃ results, List.Forall₂ (Enriched withPoint fetched) (listed.zip arns) results) ↔
      (∀ arn ∈ arns, ∃ key ∈ fetched, key.id = arn) ∧
        (withPoint = true → HavePoints arns fetched) := by
  have names : (listed.zip arns).map Prod.snd = arns := List.map_snd_zip (Nat.le_of_eq paired.symm)
  rw [exists_related_iff]
  simp only [exists_enriched_one_iff]
  constructor
  -- Every name that was asked for is that of some alias, so what holds of pairs holds of names.
  · intro each
    have found : ∀ arn ∈ arns, ∃ key, IsLast (fun key => key.id = arn) fetched key ∧
        (withPoint = true →
          ∃ point, PublicKey.pointHex (PublicKey.normalizeString key.publicKey) = .ok point) := by
      intro arn member
      rw [← names] at member
      obtain ⟨pair, paired, rfl⟩ := List.mem_map.mp member
      exact each pair paired
    constructor
    · intro arn member
      obtain ⟨key, last, -⟩ := found arn member
      exact ⟨key, last.mem, last.holds⟩
    · intro asked arn member key last
      obtain ⟨other, otherLast, decodes⟩ := found arn member
      rw [last.unique otherLast]
      exact decodes asked
  · rintro ⟨named, points⟩ pair member
    have asked : pair.2 ∈ arns := by
      rw [← names]
      exact List.mem_map_of_mem member
    obtain ⟨key, last⟩ := (exists_last_iff _ fetched).mpr (named pair.2 asked)
    exact ⟨key, last, fun wanted => points wanted pair.2 asked key last⟩

theorem keyId_getPublicKey (arn : String) :
    (settings.getPublicKey arn).value? "--key-id" = some arn := by
  simp [Settings.getPublicKey, Settings.command, Command.value?, Command.flagValue?]

/-- Success means a complete conversation, from which the result then follows alias by alias. -/
theorem inventory_ok_iff (s : Session σ) (results : List Alias) :
    ((inventory p settings withPoint).run s).1 = .ok results ↔
      ∃ keys listed arns fetched, Complete p settings s keys listed arns fetched ∧
        List.Forall₂ (Enriched withPoint fetched) (listed.zip arns) results := by
  have answered : ∀ arns : List String,
      ((listings p settings s).replies p (arns.map settings.getPublicKey)).length = arns.length :=
    fun arns => (length_replies ..).trans (List.length_map _)
  obtain ⟨stop, ran, -⟩ := run_inventory p settings withPoint s
  rw [ran, conclusion_ok_iff settings withPoint _ _ _ answered]
  constructor
  · rintro ⟨keys, listed, arns, fetched, keysTold, listedTold, targets, told, signing, enriched⟩
    have named := ((exists_enriched_iff withPoint fetched listed arns targets.length_eq).mp
      ⟨results, enriched⟩).1
    exact ⟨keys, listed, arns, fetched, ⟨keysTold, listedTold, targets, told, signing, named⟩,
      enriched⟩
  · rintro ⟨keys, listed, arns, fetched, complete, enriched⟩
    exact ⟨keys, listed, arns, fetched, complete.keysListed, complete.aliasesListed,
      complete.targets, complete.fetches, complete.signing, enriched⟩

/-- When the inventory succeeds, what it then gives, and which key a fetching command asks for. -/
theorem inventory_exact (s : Session σ) :
    ((∃ results, ((inventory p settings withPoint).run s).1 = .ok results) ↔
      ∃ keys listed arns fetched, Complete p settings s keys listed arns fetched ∧
        (withPoint = true → HavePoints arns fetched)) ∧
    (∀ results, ((inventory p settings withPoint).run s).1 = .ok results →
      ∃ keys listed arns fetched, Complete p settings s keys listed arns fetched ∧
        List.Forall₂ (Enriched withPoint fetched) (listed.zip arns) results) ∧
    ∀ arn, (settings.getPublicKey arn).value? "--key-id" = some arn := by
  refine ⟨?_, fun results done => (inventory_ok_iff p settings withPoint s results).mp done,
    keyId_getPublicKey settings⟩
  simp only [inventory_ok_iff]
  constructor
  · rintro ⟨results, keys, listed, arns, fetched, complete, enriched⟩
    have good := (exists_enriched_iff withPoint fetched listed arns
      complete.targets.length_eq).mp ⟨results, enriched⟩
    exact ⟨keys, listed, arns, fetched, complete, good.2⟩
  · rintro ⟨keys, listed, arns, fetched, complete, points⟩
    obtain ⟨results, enriched⟩ := (exists_enriched_iff withPoint fetched listed arns
      complete.targets.length_eq).mpr ⟨complete.named, points⟩
    exact ⟨results, keys, listed, arns, fetched, complete, enriched⟩

end Exactness

end KeyCustody.Aws
