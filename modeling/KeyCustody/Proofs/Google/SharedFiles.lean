import KeyCustody.Proofs.Google.Precedence

namespace KeyCustody.Google

variable {σ : Type}

section Reading
variable (p : Provider σ) (settings : Settings) (withPoint : Bool) (s : Session σ)

def exportedFiles (records : List KeyRecord) : Files :=
  ((s.after p settings.listKeys).afterAll p (records.map (exportOf settings))).files

theorem attachKey_read {files : Files} {records : List KeyRecord} {r result : KeyRecord}
    (member : r ∈ records)
    (attached : attachKey files withPoint (exportsOf settings records) r = .ok result) :
    ∃ text, files.readText (settings.pathFor r.name) = .ok text ∧ Carries withPoint text r result := by
  have named := path?_exportsOf settings records r member
  cases read : files.readText (settings.pathFor r.name) with
  | error fault =>
    have failed := (attachKey_error_iff settings withPoint files named _).mpr (.file read)
    rw [failed] at attached
    cases attached
  | ok text => exact ⟨text, rfl, (attachKey_ok_iff files withPoint _ named read result).mp attached⟩

theorem attachPublicKeys_read {files : Files} {records results : List KeyRecord}
    (attached : attachPublicKeys files withPoint (exportsOf settings records) records =
      ⟨results, none⟩) :
    ∀ result ∈ results, ∃ text, files.readText (settings.pathFor result.name) = .ok text ∧
      result.publicKey = some (PublicKey.normalizeString text) := by
  have each := (attachEach_complete_iff _ _ records results).mp attached
  intro result member
  obtain ⟨r, among, here⟩ := exists_left_of_related each result member
  obtain ⟨text, read, point, -, rfl⟩ := attachKey_read settings withPoint among here
  exact ⟨text, read, rfl⟩

theorem inventory_read {results : List KeyRecord}
    (done : ((inventory p settings withPoint).run s).1 = .ok results) :
    ∃ keys records, Chosen p settings s keys records ∧
      ∀ result ∈ results, ∃ text,
        (exportedFiles p settings s records).readText (settings.pathFor result.name) = .ok text ∧
        result.publicKey = some (PublicKey.normalizeString text) := by
  obtain ⟨stop, ran, -⟩ := run_inventory_chosen p settings withPoint s
  rw [ran, bind_ok_iff] at done
  obtain ⟨records, choice, concluded⟩ := done
  obtain ⟨keys, chosen⟩ := (chosen_ok_iff p settings s records).mp choice
  obtain ⟨-, -, attached⟩ := (bind_ok_iff _ _ results).mp concluded
  refine ⟨keys, records, chosen, ?_⟩
  exact attachPublicKeys_read settings withPoint ((settled_ok_iff _ results).mp attached)

end Reading

section Sharing
variable (p : Provider σ) (settings : Settings) (s : Session σ)

theorem exportPublicKeys_ok {records : List KeyRecord} {exports : Exports}
    (done : ((exportPublicKeys p settings records).run s).1 = .ok exports) :
    exports = exportsOf settings records := by
  cases there : s.files.stat settings.exportDirectory with
  | error fault =>
    rw [run_exportPublicKeys_of_missing p settings records s there] at done
    cases done
  | ok node =>
    obtain ⟨stop, ran, -⟩ := run_exportPublicKeys p settings records s there
    rw [ran] at done
    cases outcome : exported settings records (s.replies p (records.map (exportOf settings))) with
    | error failure =>
      rw [outcome] at done
      cases done
    | ok found =>
      rw [outcome] at done
      exact (Except.ok.inj done).symm

/-- Every key has a file, and two keys have the same one exactly when their names end alike after
the last slash. Each record of an inventory has its public key from that file as all exports have
left it, so records of one file have one public key, and records of different files are read from
different places. -/
theorem exports_shared :
    (∀ records exports, ((exportPublicKeys p settings records).run s).1 = .ok exports →
      ∀ r ∈ records, exports.path? r.name = some (settings.pathFor r.name) ∧
        ∀ other ∈ records, exports.path? other.name = exports.path? r.name ↔
          shortName other.name = shortName r.name) ∧
    ∀ withPoint results, ((inventory p settings withPoint).run s).1 = .ok results →
      ∃ keys records, Chosen p settings s keys records ∧ ∀ r ∈ results,
        (∃ text, (exportedFiles p settings s records).readText (settings.pathFor r.name) = .ok text ∧
          r.publicKey = some (PublicKey.normalizeString text)) ∧
        (∀ other ∈ results, shortName other.name = shortName r.name →
          other.publicKey = r.publicKey) ∧
        ∀ other ∈ results, shortName other.name ≠ shortName r.name →
          settings.pathFor other.name ≠ settings.pathFor r.name ∧
          ∀ place, (exportedFiles p settings s records).resolve (settings.pathFor other.name) =
              .ok place →
            (exportedFiles p settings s records).resolve (settings.pathFor r.name) ≠ .ok place := by
  constructor
  · intro records exports done r member
    obtain rfl := exportPublicKeys_ok p settings s done
    have path := path?_exportsOf settings records r member
    refine ⟨path, ?_⟩
    intro other among
    rw [path, path?_exportsOf settings records other among, Option.some.injEq]
    exact exportPath_eq_iff settings.exportDirectory other.name r.name
  · intro withPoint results done
    obtain ⟨keys, records, chosen, read⟩ := inventory_read p settings withPoint s done
    refine ⟨keys, records, chosen, ?_⟩
    intro r member
    refine ⟨read r member, ?_, ?_⟩
    · intro other among alike
      have onePath : settings.pathFor other.name = settings.pathFor r.name :=
        (exportPath_eq_iff settings.exportDirectory other.name r.name).mpr alike
      obtain ⟨text, found, ofText⟩ := read r member
      obtain ⟨otherText, otherFound, ofOtherText⟩ := read other among
      rw [onePath, found] at otherFound
      cases otherFound
      rw [ofText, ofOtherText]
    · intro other among apart
      refine ⟨?_, places_apart settings apart⟩
      intro onePath
      exact apart ((exportPath_eq_iff settings.exportDirectory other.name r.name).mp onePath)

end Sharing

section TwoRings

def ringKeys : List Key :=
  [⟨"ring-a/k", "2024-05-17T13:39:44Z", "ASYMMETRIC_SIGN", some signingTemplate⟩,
    ⟨"ring-b/k", "2024-05-17T13:39:45Z", "ASYMMETRIC_SIGN", some signingTemplate⟩]

def ringRecords : List KeyRecord :=
  ringKeys.map .ofKey

def ringKeysText : String :=
  "[\x7b\"name\":\"ring-a/k\",\"createTime\":\"2024-05-17T13:39:44Z\"," ++
  "\"purpose\":\"ASYMMETRIC_SIGN\",\"versionTemplate\":\x7b" ++
  "\"algorithm\":\"EC_SIGN_SECP256K1_SHA256\",\"protectionLevel\":\"HSM\"\x7d\x7d," ++
  "\x7b\"name\":\"ring-b/k\",\"createTime\":\"2024-05-17T13:39:45Z\"," ++
  "\"purpose\":\"ASYMMETRIC_SIGN\",\"versionTemplate\":\x7b" ++
  "\"algorithm\":\"EC_SIGN_SECP256K1_SHA256\",\"protectionLevel\":\"HSM\"\x7d\x7d]"

def ringsProvider : Provider (List String) where
  answer c texts files :=
    match c.value? "--output-file" with
    | none => (.ok ⟨true, some 0, Text.encode ringKeysText, []⟩, texts, files)
    | some path =>
      match files.write path (Text.encode (texts.headD "")) with
      | .ok files => (.ok ⟨true, some 0, [], []⟩, texts.tail, files)
      | .error fault => (.error fault.message, texts, files)

def ringsSession : Session (List String) := { provider := ["MFYw", "MDYw"] }

set_option maxRecDepth 2000 in
theorem filterKeys_ringKeys : filterKeys ringKeys = .ok ringRecords := by
  have dated : (ringKeys.filter Key.isMultisigKey).mapM Key.dated =
      .ok [(⟨1715953184, 0⟩, .ofKey ringKeys[0]), (⟨1715953185, 0⟩, .ofKey ringKeys[1])] := by
    rfl
  exact filterKeys_of_sorted dated (by decide)

set_option maxRecDepth 2000 in
theorem prints_ringKeys : Prints (Json.list Key.record.reader)
    (ringsSession.reply ringsProvider workingSettings.listKeys) ringKeys :=
  ⟨⟨true, some 0, Text.encode ringKeysText, []⟩, rfl, rfl, rfl⟩

theorem answer_ringsProvider {c : Command} (path : String) {texts : List String}
    {files later : Files} (named : c.value? "--output-file" = some path)
    (written : files.write path (Text.encode (texts.headD "")) = .ok later) :
    ringsProvider.answer c texts files = (.ok ⟨true, some 0, [], []⟩, texts.tail, later) := by
  simp only [ringsProvider, named, written]

def sharedFiles (files : Files) (text : String) : Files :=
  files.put ["tmp", "work", "k.pem"] (.file (Text.encode text))

theorem replies_ringRecords :
    ringsProvider.replies (ringRecords.map (exportOf workingSettings)) ["MFYw", "MDYw"] .empty =
        [.ok ⟨true, some 0, [], []⟩, .ok ⟨true, some 0, [], []⟩] ∧
      ringsProvider.filesAfter (ringRecords.map (exportOf workingSettings)) ["MFYw", "MDYw"] .empty =
        sharedFiles (sharedFiles .empty "MFYw") "MDYw" := by
  have first : ringsProvider.answer (exportOf workingSettings (.ofKey ringKeys[0]))
      ["MFYw", "MDYw"] .empty =
        (.ok ⟨true, some 0, [], []⟩, ["MDYw"], sharedFiles .empty "MFYw") :=
    answer_ringsProvider "./k.pem" (by decide +kernel) rfl
  have second : ringsProvider.answer (exportOf workingSettings (.ofKey ringKeys[1]))
      ["MDYw"] (sharedFiles .empty "MFYw") =
        (.ok ⟨true, some 0, [], []⟩, [], sharedFiles (sharedFiles .empty "MFYw") "MDYw") :=
    answer_ringsProvider "./k.pem" (by decide +kernel) rfl
  have commands : ringRecords.map (exportOf workingSettings) =
      [exportOf workingSettings (.ofKey ringKeys[0]),
        exportOf workingSettings (.ofKey ringKeys[1])] := rfl
  rw [commands]
  constructor
  · simp only [Provider.replies, first, second]
  · simp only [Provider.filesAfter, first, second]

set_option maxRecDepth 2000 in
/-- Both keys are exported to one file. The second export replaces the first, and both records are
given the public key of the second. -/
theorem shared_file_overwritten :
    (∃ exports, ((exportPublicKeys ringsProvider workingSettings ringRecords).run
        ringsSession).1 = .ok exports ∧
      exports.path? "ring-a/k" = some "./k.pem" ∧ exports.path? "ring-b/k" = some "./k.pem") ∧
    ((inventory ringsProvider workingSettings false).run ringsSession).1 =
      .ok [⟨"2024-05-17T13:39:44Z", "ring-a/k", some "MDYw", none⟩,
        ⟨"2024-05-17T13:39:45Z", "ring-b/k", some "MDYw", none⟩] := by
  have replied : exported workingSettings ringRecords
      (ringsSession.replies ringsProvider (ringRecords.map (exportOf workingSettings))) = .ok () := by
    rw [Session.replies, ringsSession, replies_ringRecords.1]
    rfl
  -- Listing the keys changes neither the texts that are left nor the files.
  have listed : Session.Alike (ringsSession.after ringsProvider workingSettings.listKeys)
      ringsSession := ⟨rfl, rfl⟩
  have there : ringsSession.files.stat workingSettings.exportDirectory = .ok .directory := rfl
  constructor
  · obtain ⟨stop, ran, -⟩ :=
      run_exportPublicKeys ringsProvider workingSettings ringRecords ringsSession there
    rw [ran, replied]
    exact ⟨exportsOf workingSettings ringRecords, rfl, by decide +kernel, by decide +kernel⟩
  · obtain ⟨stop, ran, -⟩ := run_inventory ringsProvider workingSettings false ringsSession
      prints_ringKeys filterKeys_ringKeys there
    have left : ((ringsSession.after ringsProvider workingSettings.listKeys).afterAll ringsProvider
        (ringRecords.map (exportOf workingSettings))).files =
          sharedFiles (sharedFiles .empty "MFYw") "MDYw" := by
      rw [Session.files_afterAll, listed.provider, listed.files]
      exact replies_ringRecords.2
    rw [ran, left, listed.replies_eq, replied]
    rfl

end TwoRings

end KeyCustody.Google
