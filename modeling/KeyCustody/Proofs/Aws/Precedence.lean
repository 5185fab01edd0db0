import KeyCustody.Proofs.Aws.Inventory

/-!
Which commands an AWS inventory gives and which failure it ends with when several things are wrong.
Both listings are always made. Keys are fetched for all aliases or for none.
-/
namespace KeyCustody.Aws

variable {σ : Type}

section Stages
variable (p : Provider σ) (settings : Settings) (withPoint : Bool) (s : Session σ)

structure Joinable (keys : List Key) (listed : List Alias) (arns : List String) : Prop where
  keysListed : Prints (Json.list Key.record.reader) (s.reply p settings.listKeys) keys
  aliasesListed : Prints (Json.list Alias.record.reader)
    ((s.after p settings.listKeys).reply p settings.listAliases) listed
  targets : List.Forall₂ (Targets keys) listed arns

def IsStale (keys : List Key) (a : Alias) (failure : Failure) : Prop :=
  (∀ key ∈ keys, key.id ≠ a.target) ∧ failure = .unknownTarget a.name a.target

inductive IsUnfit : Command × Reply → Failure → Prop where
  | refused {c : Command} {reply : Reply} {failure : Failure}
    (refused : Refused FetchedKey.record.reader c reply failure) : IsUnfit (c, reply) failure
  | mismatch {c : Command} {reply : Reply} {key : FetchedKey} {m : Mismatch}
    (told : Prints FetchedKey.record.reader reply key) (found : key.mismatch? = some m) :
    IsUnfit (c, reply) (.mismatch key.id m)

inductive IsUnjoined (fetched : List FetchedKey) : String → Failure → Prop where
  | missing {arn : String} (none : ∀ key ∈ fetched, key.id ≠ arn) :
    IsUnjoined fetched arn (.missingPublicKey arn)
  | pointless {arn : String} {key : FetchedKey} {fault : PublicKey.Fault}
    (asked : withPoint = true) (last : IsLast (fun key => key.id = arn) fetched key)
    (undecoded : PublicKey.pointHex (PublicKey.normalizeString key.publicKey) = .error fault) :
    IsUnjoined fetched arn (.publicKey fault)

/-- What can be wrong before any key is fetched, in the order in which it counts. -/
def listingStages : List (Failure → Prop) :=
  [Refused (Json.list Key.record.reader) settings.listKeys (s.reply p settings.listKeys),
    Refused (Json.list Alias.record.reader) settings.listAliases
      ((s.after p settings.listKeys).reply p settings.listAliases),
    fun failure => ∃ keys listed,
      Prints (Json.list Key.record.reader) (s.reply p settings.listKeys) keys ∧
      Prints (Json.list Alias.record.reader)
        ((s.after p settings.listKeys).reply p settings.listAliases) listed ∧
      FirstFailing (IsStale keys) listed failure]

/-- What can be wrong with the fetched keys, the commands and the names both in listing order. -/
def keyStages : List (Failure → Prop) :=
  [fun failure => ∃ keys listed arns, Joinable p settings s keys listed arns ∧
      FirstFailing IsUnfit ((arns.map settings.getPublicKey).zip
        ((listings p settings s).replies p (arns.map settings.getPublicKey))) failure,
    fun failure => ∃ keys listed arns, Joinable p settings s keys listed arns ∧
      ∃ fetched, List.Forall₂ (Prints FetchedKey.record.reader)
          ((listings p settings s).replies p (arns.map settings.getPublicKey)) fetched ∧
        FirstFailing (IsUnjoined withPoint fetched) arns failure]

end Stages

section Listings
variable {p : Provider σ} {settings : Settings} {s : Session σ}

theorem joinKeyArn_error_iff (keys : List Key) (a : Alias) (failure : Failure) :
    joinKeyArn keys a = .error failure ↔ IsStale keys a failure := by
  unfold joinKeyArn IsStale arnOf?
  rw [← find_reverse_none_iff fun key : Key => key.id = a.target]
  cases keys.reverse.find? fun key => decide (key.id = a.target) with
  | none => simp [eq_comm]
  | some key => simp

theorem joinKeyArns_error_iff (keys : List Key) (listed : List Alias) (failure : Failure) :
    joinKeyArns keys listed = .error failure ↔ FirstFailing (IsStale keys) listed failure := by
  unfold joinKeyArns
  rw [walk_firstFailing_iff]
  simp only [joinKeyArn_error_iff]

theorem Joinable.unique {keys keys' : List Key} {listed listed' : List Alias}
    {arns arns' : List String} (left : Joinable p settings s keys listed arns)
    (right : Joinable p settings s keys' listed' arns') :
    keys = keys' ∧ listed = listed' ∧ arns = arns' := by
  obtain rfl := left.keysListed.unique right.keysListed
  obtain rfl := left.aliasesListed.unique right.aliasesListed
  refine ⟨rfl, rfl, ?_⟩
  have joined := (joinKeyArns_ok_iff keys listed _).mpr ⟨arns, left.targets, rfl⟩
  have others := (joinKeyArns_ok_iff keys listed _).mpr ⟨arns', right.targets, rfl⟩
  have same := Except.ok.inj (joined.symm.trans others)
  have named := requireKeyArn_joined listed arns left.targets.length_eq
  rw [same, requireKeyArn_joined listed arns' right.targets.length_eq] at named
  exact (Except.ok.inj named).symm

theorem Joinable.exists_iff {keys : List Key} {listed : List Alias} {arns : List String}
    (joinable : Joinable p settings s keys listed arns) (fact : List String → Prop) :
    (∃ keys listed arns, Joinable p settings s keys listed arns ∧ fact arns) ↔ fact arns := by
  constructor
  · rintro ⟨_, _, _, other, holds⟩
    rwa [(joinable.unique other).2.2]
  · intro holds
    exact ⟨keys, listed, arns, joinable, holds⟩

end Listings

section Fetches

theorem validate_error_iff (key : FetchedKey) (failure : Failure) :
    key.validate = .error failure ↔
      ∃ m, key.mismatch? = some m ∧ failure = .mismatch key.id m := by
  unfold FetchedKey.validate
  cases key.mismatch? <;> simp [eq_comm]

theorem readFetched_error_iff (c : Command) (reply : Reply) (failure : Failure) :
    (printed c reply).bind (readFetched c) = .error failure ↔ IsUnfit (c, reply) failure := by
  -- Reading comes first, and only a key that was read is judged.
  have steps : (printed c reply).bind (readFetched c) =
      ((printed c reply).bind (Run.decoded FetchedKey.record.reader c) >>= fun key =>
        key.validate >>= fun _ => .ok key) := by
    cases printed c reply <;> rfl
  rw [steps, bind_error_iff, refused_iff]
  simp only [prints_iff, bind_error_iff, validate_error_iff]
  constructor
  · rintro (refused | ⟨key, told, ⟨m, found, rfl⟩ | ⟨_, _, accepted⟩⟩)
    · exact .refused refused
    · exact .mismatch told found
    · cases accepted
  · intro unfit
    cases unfit with
    | refused refused => exact .inl refused
    | mismatch told found => exact .inr ⟨_, told, .inl ⟨_, found, rfl⟩⟩

def accepted : List FetchedKey × Option Failure → Except Failure (List FetchedKey)
  | (_, some failure) => .error failure
  | (keys, none) => .ok keys

/-- The replies are gone through up to the first that is unfit. -/
theorem acceptKeys_failure_iff (commands : List Command) (replies : List Reply)
    (failure : Failure) :
    (acceptKeys (commands.zip (List.zipWith printed commands replies))).2 = some failure ↔
      FirstFailing IsUnfit (commands.zip replies) failure := by
  induction commands generalizing replies with
  | nil => simp [acceptKeys, not_firstFailing_nil]
  | cons c commands ih =>
    cases replies with
    | nil => simp [acceptKeys, not_firstFailing_nil]
    | cons reply replies =>
      simp only [List.zipWith_cons_cons, List.zip_cons_cons, acceptKeys, firstFailing_cons_iff,
        ← readFetched_error_iff, ← ih replies]
      cases (printed c reply).bind (readFetched c) <;> simp

theorem attachKey_error_iff (withPoint : Bool) (fetched : List FetchedKey) (arn : String)
    (a : Alias) (failure : Failure) :
    attachKey withPoint fetched arn a = .error failure ↔
      IsUnjoined withPoint fetched arn failure := by
  unfold attachKey
  cases found : keyNamed? fetched arn with
  | none =>
    have absent := (find_reverse_none_iff (fun key : FetchedKey => key.id = arn) fetched).mp found
    constructor
    · intro failed
      cases failed
      exact .missing absent
    · intro unjoined
      cases unjoined with
      | missing none => rfl
      | pointless asked last undecoded => exact absurd last.holds (absent _ last.mem)
  | some key =>
    have last := (keyNamed_iff fetched arn key).mp found
    simp only [bind_error_iff, publish_error_iff]
    constructor
    · rintro (⟨asked, fault, undecoded, rfl⟩ | ⟨_, -, attached⟩)
      · exact .pointless asked last undecoded
      · cases attached
    · intro unjoined
      cases unjoined with
      | missing none => exact absurd last.holds (none key last.mem)
      | pointless asked other undecoded =>
        obtain rfl := last.unique other
        exact .inl ⟨asked, _, undecoded, rfl⟩

theorem attachKeys_failure_iff (withPoint : Bool) (fetched : List FetchedKey)
    (listed : List Alias) (arns : List String) (paired : listed.length = arns.length)
    (failure : Failure) :
    (attachKeys withPoint fetched (listed.zip arns)).failure = some failure ↔
      FirstFailing (IsUnjoined withPoint fetched) arns failure := by
  have names : (listed.zip arns).map Prod.snd = arns := List.map_snd_zip (Nat.le_of_eq paired.symm)
  rw [attachKeys, attachEach_failure_iff]
  simp only [attachKey_error_iff]
  -- Whether an alias is joined depends on its name alone.
  conv_rhs => rw [← names, firstFailing_map_iff]

theorem attachment_error_iff (settings : Settings) (withPoint : Bool) (listed : List Alias)
    (arns : List String) (replies : List Reply) (paired : listed.length = arns.length)
    (answered : arns.length = replies.length) (failure : Failure) :
    settled (attachment settings withPoint listed arns replies) = .error failure ↔
      FirstStage [FirstFailing IsUnfit ((arns.map settings.getPublicKey).zip replies),
        fun failure => ∃ fetched, List.Forall₂ (Prints FetchedKey.record.reader) replies fetched ∧
          FirstFailing (IsUnjoined withPoint fetched) arns failure] failure := by
  have commanded : (arns.map settings.getPublicKey).length = replies.length := by
    rw [List.length_map, answered]
  have accepts := fun keys =>
    acceptKeys_iff (arns.map settings.getPublicKey) replies keys commanded
  have refuses := acceptKeys_failure_iff (arns.map settings.getPublicKey) replies
  -- The attachment goes on with the accepted keys, or ends with what is wrong with one.
  have steps : settled (attachment settings withPoint listed arns replies) =
      (accepted (acceptKeys ((arns.map settings.getPublicKey).zip
          (List.zipWith printed (arns.map settings.getPublicKey) replies))) >>= fun keys =>
        settled (attachKeys withPoint keys (listed.zip arns))) := by
    simp only [attachment]
    rcases acceptKeys _ with ⟨keys, _ | found⟩ <;> rfl
  rw [steps]
  rcases judged : acceptKeys ((arns.map settings.getPublicKey).zip
      (List.zipWith printed (arns.map settings.getPublicKey) replies)) with ⟨keys, found⟩
  rw [judged] at accepts refuses
  refine bind_firstStage_cons_iff (fun failure => ?_) (fun fetched done => ?_)
  · rw [← refuses]
    cases found <;> simp [accepted]
  · cases found with
    | some found => cases done
    | none =>
      obtain rfl := Except.ok.inj done
      have told := ((accepts keys).mp rfl).1
      rw [firstStage_single_iff, settled_error_iff,
        attachKeys_failure_iff withPoint keys listed arns paired]
      constructor
      · intro unjoined
        exact ⟨keys, told, unjoined⟩
      · rintro ⟨fetched, others, unjoined⟩
        -- A reply can be read in one way only.
        have same : keys = fetched :=
          List.right_unique_forall₂' (fun _ _ _ left right => left.unique right) told others
        rwa [same]

end Fetches

section Precedence
variable (p : Provider σ) (settings : Settings) (withPoint : Bool) (s : Session σ)

theorem asked_ok_iff (joined : List Alias) (arns : List String) :
    asked settings (s.reply p settings.listKeys)
        ((s.after p settings.listKeys).reply p settings.listAliases) = .ok (joined, arns) ↔
      ∃ keys listed, Joinable p settings s keys listed arns ∧ joined = withArns listed arns := by
  unfold asked
  simp only [bind_ok_iff, prints_iff, joinKeyArns_ok_iff, Except.ok.injEq, Prod.mk.injEq]
  constructor
  · rintro ⟨keys, keysTold, listed, listedTold, _, ⟨arns', targets, rfl⟩, _, named, rfl, rfl⟩
    have same := (requireKeyArn_joined listed arns' targets.length_eq).symm.trans named
    cases same
    exact ⟨keys, listed, ⟨keysTold, listedTold, targets⟩, rfl⟩
  · rintro ⟨keys, listed, joinable, rfl⟩
    exact ⟨keys, joinable.keysListed, listed, joinable.aliasesListed, _,
      ⟨arns, joinable.targets, rfl⟩, arns,
      requireKeyArn_joined listed arns joinable.targets.length_eq, rfl, rfl⟩

theorem asked_error_iff (failure : Failure) :
    asked settings (s.reply p settings.listKeys)
        ((s.after p settings.listKeys).reply p settings.listAliases) = .error failure ↔
      FirstStage (listingStages p settings s) failure := by
  unfold asked listingStages
  refine bind_firstStage_cons_iff (refused_iff _ _ _) (fun keys keysRead => ?_)
  refine bind_firstStage_cons_iff (refused_iff _ _ _) (fun listed listedRead => ?_)
  have keysTold := (prints_iff _ _ _ keys).mp keysRead
  have listedTold := (prints_iff _ _ _ listed).mp listedRead
  refine bind_firstStage_cons_iff (fun found => ?_) (fun joined done => ?_)
  · rw [joinKeyArns_error_iff]
    constructor
    · intro stale
      exact ⟨keys, listed, keysTold, listedTold, stale⟩
    · rintro ⟨_, _, otherKeys, otherListed, stale⟩
      obtain rfl := keysTold.unique otherKeys
      obtain rfl := listedTold.unique otherListed
      exact stale
  · obtain ⟨arns, targets, rfl⟩ := (joinKeyArns_ok_iff keys listed joined).mp done
    rw [requireKeyArn_joined listed arns targets.length_eq, ok_bind]
    exact iff_of_false (by simp) (not_firstFailing_nil failure)

theorem conclusion_error_iff (failure : Failure) :
    conclusion settings withPoint (s.reply p settings.listKeys)
        ((s.after p settings.listKeys).reply p settings.listAliases)
        (fun arns => (listings p settings s).replies p (arns.map settings.getPublicKey)) =
      .error failure ↔
      FirstStage (listingStages p settings s ++ keyStages p settings withPoint s) failure := by
  have steps : conclusion settings withPoint (s.reply p settings.listKeys)
      ((s.after p settings.listKeys).reply p settings.listAliases)
      (fun arns => (listings p settings s).replies p (arns.map settings.getPublicKey)) =
      (asked settings (s.reply p settings.listKeys)
        ((s.after p settings.listKeys).reply p settings.listAliases) >>= fun found =>
          settled (attachment settings withPoint found.1 found.2
            ((listings p settings s).replies p (found.2.map settings.getPublicKey)))) := by
    simp only [conclusion, asked, bind_assoc, ok_bind]
  rw [steps]
  refine bind_firstStage_iff (asked_error_iff p settings s) ?_
  rintro ⟨joined, arns⟩ done
  obtain ⟨keys, listed, joinable, rfl⟩ := (asked_ok_iff p settings s joined arns).mp done
  have paired : (withArns listed arns).length = arns.length := by
    simp [withArns, joinable.targets.length_eq]
  have answered : arns.length =
      ((listings p settings s).replies p (arns.map settings.getPublicKey)).length :=
    ((length_replies ..).trans (List.length_map _)).symm
  rw [attachment_error_iff settings withPoint _ arns _ paired answered]
  simp only [keyStages, joinable.exists_iff]

/-- The commands of an inventory, and which failure it ends with if several could end it. The first
stages are gone through before any key is fetched, the others when all replies are there. -/
theorem inventory_precedence :
    (∀ failure, ((inventory p settings withPoint).run s).1 = .error failure ↔
      FirstStage (listingStages p settings s ++ keyStages p settings withPoint s) failure) ∧
    ((∃ stage ∈ listingStages p settings s, ∃ failure, stage failure) →
      ((inventory p settings withPoint).run s).2.calls =
        s.calls ++ [settings.listKeys, settings.listAliases]) ∧
    ((∀ stage ∈ listingStages p settings s, ∀ failure, ¬ stage failure) →
      ∃ keys listed arns, Joinable p settings s keys listed arns ∧
        ((inventory p settings withPoint).run s).2.calls =
          s.calls ++ [settings.listKeys, settings.listAliases] ++
            arns.map settings.getPublicKey) := by
  obtain ⟨stop, ran, called⟩ := run_inventory p settings withPoint s
  rw [ran]
  refine ⟨conclusion_error_iff p settings withPoint s, ?_, ?_⟩
  · intro bad
    obtain ⟨failure, refused⟩ := exists_error_of_bad (asked_error_iff p settings s) bad
    rw [called, refused, fetchCommands, List.append_nil]
  · intro fine
    obtain ⟨⟨joined, arns⟩, done⟩ := exists_ok_of_fine (asked_error_iff p settings s) fine
    obtain ⟨keys, listed, joinable, -⟩ := (asked_ok_iff p settings s joined arns).mp done
    exact ⟨keys, listed, arns, joinable, by rw [called, done, fetchCommands]⟩

end Precedence

end KeyCustody.Aws
