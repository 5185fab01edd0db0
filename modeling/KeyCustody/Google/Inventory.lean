import KeyCustody.Google.Key
import KeyCustody.Google.Settings
import KeyCustody.Published
import KeyCustody.Session

/-!
The Google inventory: every kept key with its public key. The provider exports public keys to
files, all of them in one batch, and only then are the files read.
-/
namespace KeyCustody.Google

variable {σ : Type}

abbrev Exports := List (String × String)

/-- The file of a key. Of several for one name the last counts. -/
def Exports.path? (exports : Exports) (name : String) : Option String :=
  (exports.reverse.find? (·.1 = name)).map (·.2)

def firstFailure : List (KeyRecord × Except Failure Bytes) → Except Failure Unit
  | [] => .ok ()
  | (r, .error failure) :: _ => .error (.exportFailed r.name failure)
  | (_, .ok _) :: rest => firstFailure rest

def Exports.size (exports : Exports) : Nat :=
  (exports.map (·.1)).eraseDups.length

/-- Exports the first version of every key. That the directory is there is checked before. -/
def exportPublicKeys (p : Provider σ) (settings : Settings) (records : List KeyRecord) :
    Run σ Exports := do
  let s ← get
  match s.files.stat settings.exportDirectory with
  | .error fault => throw (.file settings.exportDirectory fault)
  | .ok _ =>
    let exports : Exports := records.map fun r => (r.name, settings.pathFor r.name)
    let results ← Run.batch p (records.map fun r =>
      settings.getPublicKey (shortName r.name) (settings.pathFor r.name))
    Run.settle (firstFailure (records.zip results))
    Run.note .debug .googleInventory "Exported public keys"
      [("count", .count exports.size), ("dir", .text settings.exportDirectory)]
    pure exports

section Reading

/-- A record with the public key of its file. Without points the record keeps the one it has. -/
def attachKey (files : Files) (withPoint : Bool) (exports : Exports) (r : KeyRecord) :
    Except Failure KeyRecord :=
  match exports.path? r.name with
  | none => .error (.missingPublicKey r.name)
  | some path =>
    match files.readText path with
    | .error fault => .error (.file path fault)
    | .ok pem => do
      let published ← publish withPoint pem
      .ok { r with publicKey := some published.text, point := published.point.or r.point }

def attachPublicKeys (files : Files) (withPoint : Bool) (exports : Exports)
    (records : List KeyRecord) : Attachment KeyRecord :=
  attachEach id (attachKey files withPoint exports) records

end Reading

def inventory (p : Provider σ) (settings : Settings) (withPoint : Bool) :
    Run σ (List KeyRecord) := do
  let keys ← Run.json p (Json.list Key.record.reader) settings.listKeys
  let records ← Run.settle (filterKeys keys)
  Run.note .info .googleInventory "Filtered Google KMS keys"
    [("listed", .count keys.length), ("kept", .count records.length)]
  let exports ← exportPublicKeys p settings records
  let s ← get
  let attached := attachPublicKeys s.files withPoint exports records
  match attached.failure with
  | some failure => throw failure
  | none =>
    Run.note .info .googleInventory "Google inventory complete"
      [("count", .count attached.records.length)]
    pure attached.records

end KeyCustody.Google
