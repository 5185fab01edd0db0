import KeyCustody.Proofs.Attachment
import KeyCustody.Proofs.Google.Export

namespace KeyCustody.Google

variable {σ : Type}

section Attaching
variable (files : Files) (withPoint : Bool) (exports : Exports)

theorem firstFailure_ok_iff (pairs : List (KeyRecord × Except Failure Bytes)) :
    firstFailure pairs = .ok () ↔ ∀ pair ∈ pairs, ∃ out, pair.2 = .ok out := by
  induction pairs with
  | nil => simp [firstFailure]
  | cons pair rest ih =>
    obtain ⟨r, result⟩ := pair
    rw [List.forall_mem_cons]
    cases result with
    | error failure => simp [firstFailure]
    | ok out => simp [firstFailure, ih]

def Carries (text : String) (r result : KeyRecord) : Prop :=
  ∃ point, PointSaid withPoint (PublicKey.normalizeString text) r.point point ∧
    result = { r with publicKey := some (PublicKey.normalizeString text), point }

theorem attachKey_ok_iff {r : KeyRecord} {path text : String}
    (named : exports.path? r.name = some path) (read : files.readText path = .ok text)
    (result : KeyRecord) :
    attachKey files withPoint exports r = .ok result ↔ Carries withPoint text r result := by
  unfold attachKey Carries
  rw [named]
  simp only [read, bind_ok_iff, Except.ok.injEq]
  have into := publish_into_iff withPoint text r.point fun key point =>
    { r with publicKey := some key, point } = result
  rw [into]
  refine exists_congr fun point => and_congr_right fun _ => ?_
  exact eq_comm

end Attaching

section Running
variable (p : Provider σ) (settings : Settings)

def exported (records : List KeyRecord) (replies : List Reply) : Except Failure Unit :=
  firstFailure (records.zip (List.zipWith printed (records.map (exportOf settings)) replies))

/-- Every command of the batch is put, whatever becomes of the others. -/
theorem run_exportPublicKeys (records : List KeyRecord) (s : Session σ) {node : Node}
    (there : s.files.stat settings.exportDirectory = .ok node) :
    ∃ stop, (exportPublicKeys p settings records).run s =
        ((exported settings records (s.replies p (records.map (exportOf settings)))).map
          fun _ => exportsOf settings records, stop) ∧
      stop.files = (s.afterAll p (records.map (exportOf settings))).files ∧
      stop.calls = s.calls ++ records.map (exportOf settings) := by
  obtain ⟨before, batched⟩ := Run.run_batch p (records.map (exportOf settings)) s
  have same : (records.map fun r => settings.getPublicKey (shortName r.name)
      (settings.pathFor r.name)) = records.map (exportOf settings) := rfl
  unfold exportPublicKeys exported
  rw [Run.run_bind_ok _ (Run.run_get s)]
  simp only [there]
  rw [same, Run.run_bind_ok _ batched]
  -- A failed command ends the run here, when the whole batch has been put.
  cases firstFailure _ with
  | error failure => exact ⟨_, Run.run_bind_error _ (Run.run_settle ..), by simp, by simp⟩
  | ok done =>
    rw [Run.run_bind_ok _ (Run.run_settle ..), Run.run_bind_ok _ (Run.run_note ..)]
    exact ⟨_, rfl, by simp, by simp⟩

/-- What an inventory comes to when its listing has been read and filtered. -/
theorem run_inventory (withPoint : Bool) (s : Session σ) {keys : List Key}
    {records : List KeyRecord} {node : Node}
    (listed : Prints (Json.list Key.record.reader) (s.reply p settings.listKeys) keys)
    (filtered : filterKeys keys = .ok records)
    (there : (s.after p settings.listKeys).files.stat settings.exportDirectory = .ok node) :
    ∃ stop, (inventory p settings withPoint).run s =
        ((do
          exported settings records
            ((s.after p settings.listKeys).replies p (records.map (exportOf settings)))
          settled (attachPublicKeys
            ((s.after p settings.listKeys).afterAll p (records.map (exportOf settings))).files
            withPoint (exportsOf settings records) records)), stop) ∧
      stop.calls = s.calls ++ settings.listKeys :: records.map (exportOf settings) := by
  have listing := Run.run_json p (Json.list Key.record.reader) settings.listKeys s
  rw [(prints_iff _ settings.listKeys _ keys).mpr listed] at listing
  unfold inventory
  rw [Run.run_bind_ok _ listing, filtered, Run.run_bind_ok _ (Run.run_settle ..),
    Run.run_bind_ok _ (Run.run_note ..)]
  obtain ⟨stop, exporting, files, calls⟩ := run_exportPublicKeys p settings records
    (Session.noting (s.after p settings.listKeys) _) there
  rw [Session.files_afterAll_noting] at files
  rw [Session.replies_noting] at exporting
  have called : stop.calls = s.calls ++ settings.listKeys :: records.map (exportOf settings) := by
    rw [calls, Session.calls_noting, ← List.singleton_append, ← List.append_assoc]
    rfl
  cases replied : exported settings records
      ((s.after p settings.listKeys).replies p (records.map (exportOf settings))) with
  | error failure =>
    rw [replied] at exporting
    exact ⟨stop, Run.run_bind_error _ exporting, called⟩
  | ok done =>
    rw [replied] at exporting
    rw [Run.run_bind_ok _ exporting]
    beta_reduce
    rw [Run.run_bind_ok _ (Run.run_get stop), files, ok_bind]
    rcases attachPublicKeys _ withPoint (exportsOf settings records) records with ⟨results, failure⟩
    cases failure with
    | some failure => exact ⟨stop, rfl, called⟩
    | none => exact ⟨_, rfl, called⟩

end Running

section OwnKeys
variable (p : Provider σ) (settings : Settings) (s : Session σ) (keys : List Key)
  (written : Command → String)

/-- An inventory of `keys` whose exports all succeed, each having written its text. Earlier contents
of the files do not matter, nor do those of the keys that are not kept. -/
structure Exporting : Prop where
  listed : Prints (Json.list Key.record.reader) (s.reply p settings.listKeys) keys
  dated : ∀ key ∈ keys, key.isMultisigKey = true → ∃ i, instant? key.createTime = some i
  directory : ∃ node, (s.after p settings.listKeys).files.stat settings.exportDirectory = .ok node
  distinct : ((keys.filter Key.isMultisigKey).map fun key => shortName key.name).Nodup
  unflagged : ∀ key ∈ keys, key.isMultisigKey = true → Unflagged settings key.name
  writes : ∀ records, filterKeys keys = .ok records →
    Writes p written (records.map (exportOf settings))
      (s.after p settings.listKeys).provider (s.after p settings.listKeys).files

variable {p settings s keys written}

theorem exported_ok {records : List KeyRecord}
    (writes : Writes p written (records.map (exportOf settings)) s.provider s.files) :
    exported settings records (s.replies p (records.map (exportOf settings))) = .ok () := by
  refine (firstFailure_ok_iff _).mpr ?_
  rintro ⟨r, result⟩ member
  exact printed_of_writes p written _ s writes result (List.of_mem_zip member).2

theorem filterKeys_names {records : List KeyRecord} (filtered : filterKeys keys = .ok records) :
    (records.map fun r => (r.createTime, r.name)).Perm
      ((keys.filter Key.isMultisigKey).map fun key => (key.createTime, key.name)) := by
  have same := (chronology_filterKeys keys filtered).perm.map fun r => (r.createTime, r.name)
  rw [List.map_map] at same
  exact same

theorem filterKeys_mem {records : List KeyRecord} (filtered : filterKeys keys = .ok records)
    {r : KeyRecord} (member : r ∈ records) :
    ∃ key ∈ keys, key.isMultisigKey = true ∧ r = .ofKey key := by
  have among := (chronology_filterKeys keys filtered).perm.mem_iff.mp member
  obtain ⟨key, kept, rfl⟩ := List.mem_map.mp among
  exact ⟨key, (List.mem_filter.mp kept).1, (List.mem_filter.mp kept).2, rfl⟩

theorem Exporting.shortNames (exporting : Exporting p settings s keys written)
    {records : List KeyRecord} (filtered : filterKeys keys = .ok records) :
    (records.map fun r => shortName r.name).Nodup := by
  have names := (chronology_filterKeys keys filtered).perm.map fun r => shortName r.name
  rw [List.map_map] at names
  exact names.nodup_iff.mpr exporting.distinct

theorem Exporting.unflaggedRecord (exporting : Exporting p settings s keys written)
    {records : List KeyRecord} (filtered : filterKeys keys = .ok records) :
    ∀ r ∈ records, Unflagged settings r.name := by
  intro r member
  obtain ⟨key, listed, kept, rfl⟩ := filterKeys_mem filtered member
  exact exporting.unflagged key listed kept

/-- The inventory succeeds with the results that carry the texts of the records' own commands. -/
theorem Exporting.inventory_ok_iff (exporting : Exporting p settings s keys written)
    (withPoint : Bool) {records : List KeyRecord} (filtered : filterKeys keys = .ok records)
    (results : List KeyRecord) :
    ((inventory p settings withPoint).run s).1 = .ok results ↔
      List.Forall₂ (fun r => Carries withPoint (written (exportOf settings r)) r)
        records results := by
  obtain ⟨node, there⟩ := exporting.directory
  obtain ⟨stop, ran, -⟩ :=
    run_inventory p settings withPoint s exporting.listed filtered there
  have writes := exporting.writes records filtered
  rw [ran, exported_ok writes, ok_bind, settled_ok_iff, attachPublicKeys,
    attachEach_complete_iff]
  refine related_congr results ?_
  intro r member result
  exact attachKey_ok_iff _ withPoint _ (path?_exportsOf settings records r member)
    (read_exported p settings written records _ (exporting.unflaggedRecord filtered)
      (exporting.shortNames filtered) writes r member) result

def IsExport (commands : List Command) (name : String) (c : Command) : Prop :=
  commands.filter (fun d => d.value? "--key" = some (shortName name)) = [c]

theorem isExport_exportOf {records : List KeyRecord}
    (distinct : (records.map fun r => shortName r.name).Nodup) (r : KeyRecord)
    (member : r ∈ records) :
    IsExport (records.map (exportOf settings)) r.name (exportOf settings r) := by
  have own := filter_own (fun r : KeyRecord => shortName r.name) records distinct r member
  unfold IsExport
  rw [List.filter_map]
  simp only [Function.comp_def, key_exportOf, Option.some.injEq, own, List.map_cons, List.map_nil]

theorem names_carried {withPoint : Bool} {text : KeyRecord → String}
    {records results : List KeyRecord}
    (carried : List.Forall₂ (fun r => Carries withPoint (text r) r) records results) :
    (results.map fun r => (r.createTime, r.name)) =
      records.map fun r => (r.createTime, r.name) := by
  induction carried with
  | nil => rfl
  | cons first rest ih =>
    obtain ⟨point, -, rfl⟩ := first
    rw [List.map_cons, List.map_cons, ih]

theorem Exporting.own (exporting : Exporting p settings s keys written) (withPoint : Bool)
    {records : List KeyRecord} (filtered : filterKeys keys = .ok records)
    {results : List KeyRecord}
    (done : ((inventory p settings withPoint).run s).1 = .ok results) :
    (results.map fun r => (r.createTime, r.name)).Perm
      ((keys.filter Key.isMultisigKey).map fun key => (key.createTime, key.name)) ∧
    ∀ result ∈ results, ∃ c, IsExport (records.map (exportOf settings)) result.name c ∧
      result.publicKey = some (PublicKey.normalizeString (written c)) ∧
      PointSaid withPoint (PublicKey.normalizeString (written c)) none result.point := by
  have carried := (exporting.inventory_ok_iff withPoint filtered results).mp done
  constructor
  · rw [names_carried carried]
    exact filterKeys_names filtered
  · intro result member
    obtain ⟨r, among, point, told, rfl⟩ := exists_left_of_related carried result member
    obtain ⟨key, -, -, rfl⟩ := filterKeys_mem filtered among
    have only : IsExport (records.map (exportOf settings)) (KeyRecord.ofKey key).name
        (exportOf settings (.ofKey key)) :=
      isExport_exportOf (exporting.shortNames filtered) _ among
    exact ⟨_, only, rfl, told⟩

theorem Exporting.exists_ok_iff (exporting : Exporting p settings s keys written)
    (withPoint : Bool) {records : List KeyRecord} (filtered : filterKeys keys = .ok records) :
    (∃ results, ((inventory p settings withPoint).run s).1 = .ok results) ↔
      (withPoint = true → ∀ c ∈ records.map (exportOf settings),
        ∃ point, PublicKey.pointHex (PublicKey.normalizeString (written c)) = .ok point) := by
  have told : ∀ r : KeyRecord, (∃ result, Carries withPoint (written (exportOf settings r)) r result) ↔
      (withPoint = true → ∃ point, PublicKey.pointHex
        (PublicKey.normalizeString (written (exportOf settings r))) = .ok point) := by
    intro r
    rw [← exists_pointSaid_iff withPoint _ r.point]
    constructor
    · rintro ⟨_, point, said, -⟩
      exact ⟨point, said⟩
    · rintro ⟨point, said⟩
      exact ⟨_, point, said, rfl⟩
  simp only [exporting.inventory_ok_iff withPoint filtered, exists_related_iff, told,
    List.forall_mem_map]
  constructor
  · intro all asked r member
    exact all r member asked
  · intro all r member asked
    exact all asked r member

theorem Exporting.calls (exporting : Exporting p settings s keys written) (withPoint : Bool)
    {records : List KeyRecord} (filtered : filterKeys keys = .ok records) :
    ((inventory p settings withPoint).run s).2.calls =
      s.calls ++ settings.listKeys :: records.map (exportOf settings) := by
  obtain ⟨node, there⟩ := exporting.directory
  obtain ⟨stop, ran, called⟩ :=
    run_inventory p settings withPoint s exporting.listed filtered there
  rw [ran]
  exact called

/-- Every kept key gets its own public key: the text that the one command for its short name has
written. With points the inventory succeeds when all these texts have one. -/
theorem inventory_ownKeys (p : Provider σ) (settings : Settings) (s : Session σ) (keys : List Key)
    (written : Command → String) (exporting : Exporting p settings s keys written) :
    ∃ exports,
      (∀ withPoint, ((inventory p settings withPoint).run s).2.calls =
        s.calls ++ settings.listKeys :: exports) ∧
      (∃ records, ((inventory p settings false).run s).1 = .ok records ∧
        (records.map fun r => (r.createTime, r.name)).Perm
          ((keys.filter Key.isMultisigKey).map fun key => (key.createTime, key.name)) ∧
        ∀ r ∈ records, ∃ c, IsExport exports r.name c ∧
          r.publicKey = some (PublicKey.normalizeString (written c)) ∧ r.point = none) ∧
      ((∃ records, ((inventory p settings true).run s).1 = .ok records) ↔
        ∀ c ∈ exports, ∃ point,
          PublicKey.pointHex (PublicKey.normalizeString (written c)) = .ok point) ∧
      ∀ records, ((inventory p settings true).run s).1 = .ok records →
        (records.map fun r => (r.createTime, r.name)).Perm
          ((keys.filter Key.isMultisigKey).map fun key => (key.createTime, key.name)) ∧
        ∀ r ∈ records, ∃ c, IsExport exports r.name c ∧
          r.publicKey = some (PublicKey.normalizeString (written c)) ∧
          ∃ point, PublicKey.pointHex (PublicKey.normalizeString (written c)) = .ok point ∧
            r.point = some point := by
  obtain ⟨records, filtered⟩ := (exists_filterKeys_iff keys).mpr exporting.dated
  refine ⟨records.map (exportOf settings), fun withPoint => exporting.calls withPoint filtered,
    ?_, ?_, ?_⟩
  · obtain ⟨results, done⟩ := (exporting.exists_ok_iff false filtered).mpr (by simp)
    obtain ⟨names, own⟩ := exporting.own false filtered done
    refine ⟨results, done, names, ?_⟩
    intro r member
    obtain ⟨c, only, text, said⟩ := own r member
    exact ⟨c, only, text, said⟩
  · simpa using exporting.exists_ok_iff true filtered
  · intro results done
    obtain ⟨names, own⟩ := exporting.own true filtered done
    refine ⟨names, ?_⟩
    intro r member
    obtain ⟨c, only, text, point, found, said⟩ := own r member
    exact ⟨c, only, text, point, found, said⟩

end OwnKeys

section TwoKeys

def signingTemplate : Json.Value :=
  .object [("algorithm", .text "EC_SIGN_SECP256K1_SHA256"), ("protectionLevel", .text "HSM")]

def twoKeys : List Key :=
  [⟨"ring/a", "2024-05-17T13:39:44Z", "ASYMMETRIC_SIGN", some signingTemplate⟩,
    ⟨"ring/b", "2024-05-17T13:39:45Z", "ASYMMETRIC_SIGN", some signingTemplate⟩]

def twoKeysText : String :=
  "[\x7b\"name\":\"ring/a\",\"createTime\":\"2024-05-17T13:39:44Z\"," ++
  "\"purpose\":\"ASYMMETRIC_SIGN\",\"versionTemplate\":\x7b" ++
  "\"algorithm\":\"EC_SIGN_SECP256K1_SHA256\",\"protectionLevel\":\"HSM\"\x7d\x7d," ++
  "\x7b\"name\":\"ring/b\",\"createTime\":\"2024-05-17T13:39:45Z\"," ++
  "\"purpose\":\"ASYMMETRIC_SIGN\",\"versionTemplate\":\x7b" ++
  "\"algorithm\":\"EC_SIGN_SECP256K1_SHA256\",\"protectionLevel\":\"HSM\"\x7d\x7d]"

def keyText (c : Command) : String :=
  "key of " ++ (c.value? "--key").getD ""

def twoKeysProvider : Provider Unit where
  answer c _ files :=
    match c.value? "--output-file" with
    | none => (.ok ⟨true, some 0, Text.encode twoKeysText, []⟩, (), files)
    | some path =>
      match files.write path (Text.encode (keyText c)) with
      | .ok files => (.ok ⟨true, some 0, [], []⟩, (), files)
      | .error fault => (.error fault.message, (), files)

def workingSettings : Settings := { exportDirectory := "." }

theorem unflagged_twoKeys :
    ∀ key ∈ twoKeys, key.isMultisigKey = true → Unflagged workingSettings key.name := by
  rw [twoKeys, List.forall_mem_cons, List.forall_mem_singleton]
  constructor
  · exact fun _ => ⟨by decide +kernel, by decide, by decide⟩
  · exact fun _ => ⟨by decide +kernel, by decide, by decide⟩

set_option maxRecDepth 2000 in
theorem filterKeys_twoKeys : filterKeys twoKeys = .ok (twoKeys.map KeyRecord.ofKey) := by
  have dated : (twoKeys.filter Key.isMultisigKey).mapM Key.dated =
      .ok [(⟨1715953184, 0⟩, .ofKey twoKeys[0]), (⟨1715953185, 0⟩, .ofKey twoKeys[1])] := by
    rfl
  exact filterKeys_of_sorted dated (by decide)

set_option maxRecDepth 2000 in
theorem prints_twoKeys : Prints (Json.list Key.record.reader)
    (Session.reply twoKeysProvider ⟨(), .empty, [], [], {}, 0⟩ workingSettings.listKeys) twoKeys :=
  ⟨_, rfl, rfl, rfl⟩

theorem inventory_ownKeys_twoKeys :
    Exporting twoKeysProvider workingSettings { provider := () } twoKeys keyText ∧
      ∃ records, ((inventory twoKeysProvider workingSettings false).run { provider := () }).1 =
        .ok records ∧ records.length = 2 := by
  have exporting :
      Exporting twoKeysProvider workingSettings { provider := () } twoKeys keyText := by
    refine ⟨prints_twoKeys, ?_, ⟨.directory, rfl⟩, by decide +kernel, unflagged_twoKeys, ?_⟩
    · exact (exists_filterKeys_iff twoKeys).mp ⟨_, filterKeys_twoKeys⟩
    · intro records filtered
      cases filterKeys_twoKeys.symm.trans filtered
      exact ⟨⟨_, rfl, rfl⟩, ⟨"./a.pem", rfl, rfl⟩,
        ⟨⟨_, rfl, rfl⟩, ⟨"./b.pem", rfl, rfl⟩, trivial⟩⟩
  obtain ⟨_, -, ⟨records, done, names, -⟩, -⟩ :=
    inventory_ownKeys twoKeysProvider workingSettings { provider := () } twoKeys keyText exporting
  refine ⟨exporting, records, done, ?_⟩
  have size := names.length_eq
  rw [List.length_map, List.length_map] at size
  rw [size]
  rfl

end TwoKeys

end KeyCustody.Google
