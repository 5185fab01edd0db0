import KeyCustody.Google.Inventory
import KeyCustody.Proofs.Conversation
import KeyCustody.Proofs.Google.Chronology
import KeyCustody.Proofs.Google.ExportPath
import KeyCustody.Proofs.PublicPoint

/-!
Exporting public keys to files and reading them back. Every file is written before the first one is
read, so what counts is that no later write reaches an earlier file.
-/
namespace KeyCustody.Google

variable {σ : Type}

section Commands
variable (settings : Settings)

def exportOf (r : KeyRecord) : Command :=
  settings.getPublicKey (shortName r.name) (settings.pathFor r.name)

def exportsOf (records : List KeyRecord) : Exports :=
  records.map fun r => (r.name, settings.pathFor r.name)

/-- No argument before the last is taken for the flag that names the file. -/
structure Unflagged (name : String) : Prop where
  short : shortName name ≠ "--output-file"
  keyring : settings.keyring ≠ "--output-file"
  location : settings.location ≠ "--output-file"

theorem key_exportOf (r : KeyRecord) :
    (exportOf settings r).value? "--key" = some (shortName r.name) := by
  simp [exportOf, Settings.getPublicKey, Settings.command, Command.value?, Command.flagValue?]

theorem outputFile_exportOf (r : KeyRecord) (unflagged : Unflagged settings r.name) :
    (exportOf settings r).value? "--output-file" = some (settings.pathFor r.name) := by
  simp [exportOf, Settings.getPublicKey, Settings.command, Settings.keyringArguments,
    Command.value?, Command.flagValue?, unflagged.short, unflagged.keyring, unflagged.location]

theorem path?_exportsOf (records : List KeyRecord) (r : KeyRecord) (member : r ∈ records) :
    (exportsOf settings records).path? r.name = some (settings.pathFor r.name) := by
  unfold Exports.path? exportsOf
  cases found : (records.map fun r => (r.name, settings.pathFor r.name)).reverse.find?
      fun entry => decide (entry.1 = r.name) with
  | none =>
    have listed : (r.name, settings.pathFor r.name) ∈
        (records.map fun r => (r.name, settings.pathFor r.name)).reverse :=
      List.mem_reverse.mpr (List.mem_map_of_mem member)
    have absent := List.find?_eq_none.mp found _ listed
    simp at absent
  | some entry =>
    have named := List.find?_some found
    have listed := List.mem_of_find?_eq_some found
    simp only [List.mem_reverse, List.mem_map] at listed
    obtain ⟨other, -, rfl⟩ := listed
    have same : other.name = r.name := by simpa using named
    simp [same]

end Commands

section Writes

/-- Every command ends well and has then written its text to the file that it names. -/
def Writes (p : Provider σ) (written : Command → String) : List Command → σ → Files → Prop
  | [], _, _ => True
  | c :: rest, state, files =>
    let answered := p.answer c state files
    (∃ ending, answered.1 = .ok ending ∧ ending.success = true) ∧
    (∃ path, c.value? "--output-file" = some path ∧
      files.write path (Text.encode (written c)) = .ok answered.2.2) ∧
    Writes p written rest answered.2.1 answered.2.2

variable (p : Provider σ) (settings : Settings) (written : Command → String)

theorem writes_exportOf {r : KeyRecord} {rest : List Command} {s : Session σ}
    (unflagged : Unflagged settings r.name)
    (writes : Writes p written (exportOf settings r :: rest) s.provider s.files) :
    s.files.write (settings.pathFor r.name) (Text.encode (written (exportOf settings r))) =
      .ok (s.after p (exportOf settings r)).files := by
  obtain ⟨-, ⟨path, named, done⟩, -⟩ := writes
  rw [outputFile_exportOf settings r unflagged] at named
  cases named
  exact done

theorem printed_of_writes (commands : List Command) (s : Session σ)
    (writes : Writes p written commands s.provider s.files) :
    ∀ result ∈ List.zipWith printed commands (s.replies p commands), ∃ out, result = .ok out := by
  induction commands generalizing s with
  | nil => simp
  | cons c rest ih =>
    obtain ⟨⟨ending, ended, good⟩, -, later⟩ := writes
    rw [Session.replies_cons, List.zipWith_cons_cons, List.forall_mem_cons]
    refine ⟨⟨ending.stdout, ?_⟩, ih (s.after p c) later⟩
    have replied : s.reply p c = .ok ending := ended
    rw [replied, printed, if_pos good]

-- The frame of a batch: a file keeps its text as long as no command writes to its place.
theorem read_of_others (records : List KeyRecord) (s : Session σ) {name : String} {old : Bytes}
    (unflagged : ∀ r ∈ records, Unflagged settings r.name)
    (writes : Writes p written (records.map (exportOf settings)) s.provider s.files)
    (apart : ∀ r ∈ records, shortName r.name ≠ shortName name)
    (held : s.files.read (settings.pathFor name) = .ok old) :
    (s.afterAll p (records.map (exportOf settings))).files.read (settings.pathFor name) =
      .ok old := by
  induction records generalizing s with
  | nil => exact held
  | cons r rest ih =>
    rw [List.forall_mem_cons] at unflagged apart
    have done := writes_exportOf p settings written unflagged.1 writes
    have still := Files.read_write_other done held (places_apart settings apart.1)
    exact ih (s.after p (exportOf settings r)) unflagged.2 writes.2.2 apart.2 still

theorem read_exported (records : List KeyRecord) (s : Session σ)
    (unflagged : ∀ r ∈ records, Unflagged settings r.name)
    (distinct : (records.map fun r => shortName r.name).Nodup)
    (writes : Writes p written (records.map (exportOf settings)) s.provider s.files) :
    ∀ r ∈ records, (s.afterAll p (records.map (exportOf settings))).files.readText
      (settings.pathFor r.name) = .ok (written (exportOf settings r)) := by
  induction records generalizing s with
  | nil => simp
  | cons r rest ih =>
    rw [List.forall_mem_cons] at unflagged
    rw [List.map_cons, List.nodup_cons] at distinct
    rw [List.forall_mem_cons]
    constructor
    -- What the first command has written is read at once, and kept by all the later ones.
    · have done := writes_exportOf p settings written unflagged.1 writes
      have apart : ∀ other ∈ rest, shortName other.name ≠ shortName r.name := by
        intro other member same
        exact distinct.1 (List.mem_map.mpr ⟨other, member, same⟩)
      exact Files.readText_encode _ (read_of_others p settings written rest
        (s.after p (exportOf settings r)) unflagged.2 writes.2.2 apart
        (Files.read_write_same done))
    · exact ih (s.after p (exportOf settings r)) unflagged.2 distinct.2 writes.2.2

end Writes

end KeyCustody.Google
