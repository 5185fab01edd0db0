import KeyCustody.Proofs.Google.Inventory
import KeyCustody.Proofs.Precedence

/-!
Which commands a Google inventory gives and which failure it ends with when several things are
wrong. Keys are exported for all records or for none, and files are read only when every export has
succeeded.
-/
namespace KeyCustody.Google

variable {σ : Type}

section Stages
variable (p : Provider σ) (settings : Settings) (withPoint : Bool) (s : Session σ)

structure Chosen (keys : List Key) (records : List KeyRecord) : Prop where
  listed : Prints (Json.list Key.record.reader) (s.reply p settings.listKeys) keys
  kept : filterKeys keys = .ok records
  directory : ∃ node, (s.after p settings.listKeys).files.stat settings.exportDirectory = .ok node

def IsUndated (key : Key) (failure : Failure) : Prop :=
  key.isMultisigKey = true ∧ ∃ fault, Time.parse (Text.encode key.createTime) = .error fault ∧
    failure = .timestamp key.name key.createTime fault

inductive IsUnexported : KeyRecord × Reply → Failure → Prop where
  | failed {r : KeyRecord} {reply : Reply} {cause : Failure}
    (failed : Failed (exportOf settings r) reply cause) :
    IsUnexported (r, reply) (.exportFailed r.name cause)

inductive IsUnread (files : Files) : KeyRecord → Failure → Prop where
  | file {r : KeyRecord} {fault : Files.Fault}
    (unread : files.readText (settings.pathFor r.name) = .error fault) :
    IsUnread files r (.file (settings.pathFor r.name) fault)
  | pointless {r : KeyRecord} {text : String} {fault : PublicKey.Fault} (asked : withPoint = true)
    (read : files.readText (settings.pathFor r.name) = .ok text)
    (undecoded : PublicKey.pointHex (PublicKey.normalizeString text) = .error fault) :
    IsUnread files r (.publicKey fault)

/-- What can be wrong before any key is exported, in the order in which it counts. -/
def listingStages : List (Failure → Prop) :=
  [Refused (Json.list Key.record.reader) settings.listKeys (s.reply p settings.listKeys),
    fun failure => ∃ keys, Prints (Json.list Key.record.reader) (s.reply p settings.listKeys) keys ∧
      FirstFailing IsUndated keys failure,
    fun failure => ∃ fault,
      (s.after p settings.listKeys).files.stat settings.exportDirectory = .error fault ∧
      failure = .file settings.exportDirectory fault]

def exportStage (failure : Failure) : Prop :=
  ∃ keys records, Chosen p settings s keys records ∧
    FirstFailing (IsUnexported settings) (records.zip
      ((s.after p settings.listKeys).replies p (records.map (exportOf settings)))) failure

/-- A file cannot be used, as the files are when all exports have ended. -/
def fileStage (failure : Failure) : Prop :=
  ∃ keys records, Chosen p settings s keys records ∧
    FirstFailing (IsUnread settings withPoint
      ((s.after p settings.listKeys).afterAll p (records.map (exportOf settings))).files)
      records failure

end Stages

section Listings

theorem filterKeys_firstFailing_iff (keys : List Key) (failure : Failure) :
    filterKeys keys = .error failure ↔ FirstFailing IsUndated keys failure := by
  have dated : ∀ key : Key, (∀ other, ¬ IsUndated key other) ↔
      (key.isMultisigKey = true → ∃ i, instant? key.createTime = some i) := by
    intro key
    unfold IsUndated instant?
    cases Time.parse (Text.encode key.createTime) <;> simp [Except.toOption]
  rw [filterKeys_error_iff]
  unfold FirstFailing
  simp only [dated]
  constructor
  · rintro ⟨before, key, after, fault, split, kept, unread, rfl, fine⟩
    exact ⟨before, key, after, split, ⟨kept, fault, unread, rfl⟩, fine⟩
  · rintro ⟨before, key, after, split, ⟨kept, fault, unread, rfl⟩, fine⟩
    exact ⟨before, key, after, fault, split, kept, unread, rfl, fine⟩

theorem Chosen.exists_iff {p : Provider σ} {settings : Settings} {s : Session σ} {keys : List Key}
    {records : List KeyRecord} (choice : Chosen p settings s keys records)
    (fact : List KeyRecord → Prop) :
    (∃ keys records, Chosen p settings s keys records ∧ fact records) ↔ fact records := by
  constructor
  · rintro ⟨_, others, other, holds⟩
    obtain rfl := choice.listed.unique other.listed
    have same : records = others := Except.ok.inj (choice.kept.symm.trans other.kept)
    rwa [same]
  · intro holds
    exact ⟨keys, records, choice, holds⟩

end Listings

section Exports

theorem firstFailure_error_iff (settings : Settings) (records : List KeyRecord)
    (replies : List Reply) (failure : Failure) :
    exported settings records replies = .error failure ↔
      FirstFailing (IsUnexported settings) (records.zip replies) failure := by
  unfold exported
  induction records generalizing replies with
  | nil => simp [firstFailure, not_firstFailing_nil]
  | cons r rest ih =>
    cases replies with
    | nil => simp [firstFailure, not_firstFailing_nil]
    | cons reply replies =>
      have here : ∀ failure, IsUnexported settings (r, reply) failure ↔
          ∃ cause, printed (exportOf settings r) reply = .error cause ∧
            failure = .exportFailed r.name cause := by
        intro failure
        simp only [printed_error_iff]
        constructor
        · rintro ⟨failed⟩
          exact ⟨_, failed, rfl⟩
        · rintro ⟨cause, failed, rfl⟩
          exact .failed failed
      simp only [List.map_cons, List.zipWith_cons_cons, List.zip_cons_cons,
        firstFailing_cons_iff, here, ← ih replies]
      cases printed (exportOf settings r) reply <;> simp [firstFailure, eq_comm]

end Exports

section Reading
variable (settings : Settings) (withPoint : Bool) (files : Files)

theorem attachKey_error_iff {exports : Exports} {r : KeyRecord}
    (named : exports.path? r.name = some (settings.pathFor r.name)) (failure : Failure) :
    attachKey files withPoint exports r = .error failure ↔
      IsUnread settings withPoint files r failure := by
  unfold attachKey
  rw [named]
  cases read : files.readText (settings.pathFor r.name) with
  | error fault =>
    simp only [read]
    constructor
    · intro failed
      cases failed
      exact .file read
    · intro unread
      cases unread with
      | file other =>
        rw [read] at other
        cases other
        rfl
      | pointless asked other undecoded =>
        rw [read] at other
        cases other
  | ok text =>
    simp only [read, bind_error_iff, publish_error_iff]
    constructor
    · rintro (⟨asked, fault, undecoded, rfl⟩ | ⟨_, -, attached⟩)
      · exact .pointless asked read undecoded
      · cases attached
    · intro unread
      cases unread with
      | file other =>
        rw [read] at other
        cases other
      | pointless asked other undecoded =>
        rw [read] at other
        cases other
        exact .inl ⟨asked, _, undecoded, rfl⟩

/-- Every record has its own path here, so it is its own file that counts. -/
theorem attached_error_iff (records : List KeyRecord) (failure : Failure) :
    settled (attachPublicKeys files withPoint (exportsOf settings records) records) =
        .error failure ↔
      FirstFailing (IsUnread settings withPoint files) records failure := by
  rw [settled_error_iff, attachPublicKeys, attachEach_failure_iff]
  refine firstFailing_congr failure ?_
  intro r member failure
  exact attachKey_error_iff settings withPoint files (path?_exportsOf settings records r member)
    failure

end Reading

section Precedence
variable (p : Provider σ) (settings : Settings) (withPoint : Bool) (s : Session σ)

def chosen (listing : Reply) (directory : Except Files.Fault Node) :
    Except Failure (List KeyRecord) := do
  let keys ← (printed settings.listKeys listing).bind
    (Run.decoded (Json.list Key.record.reader) settings.listKeys)
  let records ← filterKeys keys
  let _ ← directory.mapError (Failure.file settings.exportDirectory)
  .ok records

def concluded (records : List KeyRecord) (replies : List Reply) (files : Files) :
    Except Failure (List KeyRecord) := do
  exported settings records replies
  settled (attachPublicKeys files withPoint (exportsOf settings records) records)

def exportCommands : Except Failure (List KeyRecord) → List Command
  | .error _ => []
  | .ok records => records.map (exportOf settings)

theorem run_exportPublicKeys_of_missing (records : List KeyRecord) (s : Session σ)
    {fault : Files.Fault} (missing : s.files.stat settings.exportDirectory = .error fault) :
    (exportPublicKeys p settings records).run s =
      (.error (.file settings.exportDirectory fault), s) := by
  unfold exportPublicKeys
  rw [Run.run_bind_ok _ (Run.run_get s)]
  simp only [missing]
  rfl

theorem run_inventory_chosen :
    ∃ stop, (inventory p settings withPoint).run s =
        ((chosen settings (s.reply p settings.listKeys)
            ((s.after p settings.listKeys).files.stat settings.exportDirectory) >>= fun records =>
          concluded settings withPoint records
            ((s.after p settings.listKeys).replies p (records.map (exportOf settings)))
            ((s.after p settings.listKeys).afterAll p (records.map (exportOf settings))).files),
          stop) ∧
      stop.calls = s.calls ++ [settings.listKeys] ++
        exportCommands settings (chosen settings (s.reply p settings.listKeys)
          ((s.after p settings.listKeys).files.stat settings.exportDirectory)) := by
  have listing := Run.run_json p (Json.list Key.record.reader) settings.listKeys s
  have only : (s.after p settings.listKeys).calls = s.calls ++ [settings.listKeys] ++ [] :=
    (List.append_nil _).symm
  unfold chosen
  cases read : (printed settings.listKeys (s.reply p settings.listKeys)).bind
      (Run.decoded (Json.list Key.record.reader) settings.listKeys) with
  | error failure =>
    rw [read] at listing
    exact ⟨_, Run.run_bind_error _ listing, only⟩
  | ok keys =>
    rw [read] at listing
    rw [ok_bind]
    cases filtered : filterKeys keys with
    | error failure =>
      unfold inventory
      rw [Run.run_bind_ok _ listing, filtered]
      exact ⟨_, rfl, only⟩
    | ok records =>
      rw [ok_bind]
      cases there : (s.after p settings.listKeys).files.stat settings.exportDirectory with
      | error fault =>
        unfold inventory
        rw [Run.run_bind_ok _ listing, filtered, Run.run_bind_ok _ (Run.run_settle ..),
          Run.run_bind_ok _ (Run.run_note ..),
          Run.run_bind_error _ (run_exportPublicKeys_of_missing p settings records
            (Session.noting (s.after p settings.listKeys) _) there)]
        exact ⟨_, rfl, only⟩
      | ok node =>
        have listed := (prints_iff _ settings.listKeys _ keys).mp read
        obtain ⟨stop, ran, called⟩ := run_inventory p settings withPoint s listed filtered there
        refine ⟨stop, ran, ?_⟩
        rw [called]
        exact (List.append_assoc s.calls [settings.listKeys] _).symm

theorem chosen_ok_iff (records : List KeyRecord) :
    chosen settings (s.reply p settings.listKeys)
        ((s.after p settings.listKeys).files.stat settings.exportDirectory) = .ok records ↔
      ∃ keys, Chosen p settings s keys records := by
  unfold chosen
  simp only [bind_ok_iff, prints_iff, mapError_ok_iff, Except.ok.injEq]
  constructor
  · rintro ⟨keys, listed, _, kept, node, there, rfl⟩
    exact ⟨keys, listed, kept, node, there⟩
  · rintro ⟨keys, listed, kept, node, there⟩
    exact ⟨keys, listed, records, kept, node, there, rfl⟩

theorem chosen_error_iff (failure : Failure) :
    chosen settings (s.reply p settings.listKeys)
        ((s.after p settings.listKeys).files.stat settings.exportDirectory) = .error failure ↔
      FirstStage (listingStages p settings s) failure := by
  unfold chosen listingStages
  refine bind_firstStage_cons_iff (refused_iff _ _ _) (fun keys keysRead => ?_)
  have told := (prints_iff _ _ _ keys).mp keysRead
  refine bind_firstStage_cons_iff (fun found => ?_) (fun records _ => ?_)
  · rw [filterKeys_firstFailing_iff]
    constructor
    · intro undated
      exact ⟨keys, told, undated⟩
    · rintro ⟨_, others, undated⟩
      rwa [told.unique others]
  · refine bind_firstStage_cons_iff (fun found => ?_) (fun _ _ => ?_)
    · exact mapError_error_iff _ _ found
    · exact iff_of_false (by simp) (not_firstFailing_nil failure)

theorem inventory_error_iff (failure : Failure) :
    ((inventory p settings withPoint).run s).1 = .error failure ↔
      FirstStage (listingStages p settings s ++
        [exportStage p settings s, fileStage p settings withPoint s]) failure := by
  obtain ⟨stop, ran, -⟩ := run_inventory_chosen p settings withPoint s
  rw [ran]
  refine bind_firstStage_iff (chosen_error_iff p settings s) (fun records done => ?_)
  obtain ⟨keys, choice⟩ := (chosen_ok_iff p settings s records).mp done
  refine bind_firstStage_cons_iff (fun found => ?_) (fun _ _ => ?_)
  · simp only [exportStage, choice.exists_iff]
    exact firstFailure_error_iff settings records _ found
  · simp only [firstStage_single_iff, fileStage, choice.exists_iff]
    exact attached_error_iff settings withPoint _ records failure

/-- A provider that gives the replies of another one and shows the same export directory, but may
leave anything else in the files while it exports. -/
structure Echoes (echo : Provider σ) : Prop where
  listing : s.reply echo settings.listKeys = s.reply p settings.listKeys
  directory : (s.after echo settings.listKeys).files.stat settings.exportDirectory =
    (s.after p settings.listKeys).files.stat settings.exportDirectory
  exports : ∀ records : List KeyRecord,
    (s.after echo settings.listKeys).replies echo (records.map (exportOf settings)) =
      (s.after p settings.listKeys).replies p (records.map (exportOf settings))

-- The files come in only after the exports, so a failed export is the end for both providers.
theorem inventory_echo {failure : Failure} (failed : exportStage p settings s failure)
    {echo : Provider σ} (echoes : Echoes p settings s echo) :
    ((inventory echo settings withPoint).run s).1 = ((inventory p settings withPoint).run s).1 := by
  obtain ⟨stop, ran, -⟩ := run_inventory_chosen p settings withPoint s
  obtain ⟨echoStop, echoRan, -⟩ := run_inventory_chosen echo settings withPoint s
  obtain ⟨keys, records, choice, first⟩ := failed
  have done := (chosen_ok_iff p settings s records).mpr ⟨keys, choice⟩
  have refused := (firstFailure_error_iff settings records _ failure).mpr first
  rw [ran, echoRan, echoes.listing, echoes.directory, done]
  simp only [ok_bind, concluded, echoes.exports, refused, error_bind]

/-- The commands of an inventory, and which failure it ends with if several could end it. If an
export has failed the files that the exports have left make no difference. -/
theorem exports_precedence :
    (∀ failure, ((inventory p settings withPoint).run s).1 = .error failure ↔
      FirstStage (listingStages p settings s ++
        [exportStage p settings s, fileStage p settings withPoint s]) failure) ∧
    ((∃ stage ∈ listingStages p settings s, ∃ failure, stage failure) →
      ((inventory p settings withPoint).run s).2.calls = s.calls ++ [settings.listKeys]) ∧
    ((∀ stage ∈ listingStages p settings s, ∀ failure, ¬ stage failure) →
      ∃ keys records, Chosen p settings s keys records ∧ Chronology keys records ∧
        ((inventory p settings withPoint).run s).2.calls =
          s.calls ++ [settings.listKeys] ++ records.map (exportOf settings)) ∧
    ∀ echo, Echoes p settings s echo → (∃ failure, exportStage p settings s failure) →
      ((inventory echo settings withPoint).run s).1 =
        ((inventory p settings withPoint).run s).1 := by
  refine ⟨inventory_error_iff p settings withPoint s, ?_, ?_, ?_⟩
  · intro bad
    obtain ⟨stop, ran, called⟩ := run_inventory_chosen p settings withPoint s
    obtain ⟨failure, refused⟩ := exists_error_of_bad (chosen_error_iff p settings s) bad
    rw [ran, called, refused, exportCommands, List.append_nil]
  · intro fine
    obtain ⟨stop, ran, called⟩ := run_inventory_chosen p settings withPoint s
    obtain ⟨records, done⟩ := exists_ok_of_fine (chosen_error_iff p settings s) fine
    obtain ⟨keys, choice⟩ := (chosen_ok_iff p settings s records).mp done
    refine ⟨keys, records, choice, chronology_filterKeys keys choice.kept, ?_⟩
    rw [ran, called, done, exportCommands]
  · rintro echo echoes ⟨failure, failed⟩
    exact inventory_echo p settings withPoint s failed echoes

end Precedence

end KeyCustody.Google
