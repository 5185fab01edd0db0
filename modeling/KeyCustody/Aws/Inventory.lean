import KeyCustody.Aws.Alias
import KeyCustody.Aws.FetchedKey
import KeyCustody.Published
import KeyCustody.Session

/-!
The AWS inventory: every listed alias with its key and public key. Public keys are fetched in one
batch and joined back by the resource name each reply carries, never by position.
-/
namespace KeyCustody.Aws

variable {σ : Type}

section Joining

def requireKeyArn (a : Alias) : Except Failure String :=
  match a.keyArn with
  | some arn => .ok arn
  | none => .error (.missingPublicKey a.name)

def readFetched (c : Command) (stdout : Bytes) : Except Failure FetchedKey := do
  let key ← Run.decoded FetchedKey.record.reader c stdout
  key.validate
  .ok key

def acceptKeys : List (Command × Except Failure Bytes) → List FetchedKey × Option Failure
  | [] => ([], none)
  | (c, result) :: rest =>
    match result.bind (readFetched c) with
    | .error failure => ([], some failure)
    | .ok key =>
      let (keys, failure) := acceptKeys rest
      (key :: keys, failure)

/-- The last key that names itself by `arn`. -/
def keyNamed? (keys : List FetchedKey) (arn : String) : Option FetchedKey :=
  keys.reverse.find? (·.id = arn)

/-- An alias with the public key of `arn`. Without points the alias keeps the one it has. -/
def attachKey (withPoint : Bool) (keys : List FetchedKey) (arn : String) (a : Alias) :
    Except Failure Alias :=
  match keyNamed? keys arn with
  | none => .error (.missingPublicKey arn)
  | some key => do
    let published ← publish withPoint key.publicKey
    .ok { a with publicKey := some published.text, point := published.point.or a.point }

abbrev Attachment := KeyCustody.Attachment Alias

abbrev Attachment.aliases (attached : Attachment) : List Alias :=
  attached.records

def attachKeys (withPoint : Bool) (keys : List FetchedKey) (pairs : List (Alias × String)) :
    Attachment :=
  attachEach Prod.fst (fun pair => attachKey withPoint keys pair.2 pair.1) pairs

end Joining

def noteAccepted : List FetchedKey → Run σ Unit
  | [] => pure ()
  | key :: rest => do
    Run.note .debug .awsInventory "Public key matches expected spec" [("key_id", .text key.id)]
    noteAccepted rest

/-- Fetches the public key of every alias and attaches it. The aliases come back also when that
fails. -/
def attachPublicKeys (p : Provider σ) (settings : Settings) (withPoint : Bool)
    (aliases : List Alias) : Run σ Attachment :=
  match aliases.mapM requireKeyArn with
  | .error failure => pure ⟨aliases, some failure⟩
  | .ok arns => do
    let commands := arns.map settings.getPublicKey
    let results ← Run.batch p commands
    let (keys, failure) := acceptKeys (commands.zip results)
    noteAccepted keys
    match failure with
    | some failure => pure ⟨aliases, some failure⟩
    | none => pure (attachKeys withPoint keys (aliases.zip arns))

/-- Both listings are made before either is looked at. -/
def inventory (p : Provider σ) (settings : Settings) (withPoint : Bool) : Run σ (List Alias) := do
  let keys ← Run.attempt (Run.json p (Json.list Key.record.reader) settings.listKeys)
  let aliases ← Run.attempt (Run.json p (Json.list Alias.record.reader) settings.listAliases)
  let keys ← Run.settle keys
  let aliases ← Run.settle aliases
  Run.note .info .awsInventory "Listed AWS KMS keys"
    [("keys", .count keys.length), ("aliases", .count aliases.length)]
  let joined ← Run.settle (joinKeyArns keys aliases)
  let attached ← attachPublicKeys p settings withPoint joined
  match attached.failure with
  | some failure => throw failure
  | none =>
    Run.note .info .awsInventory "AWS inventory complete"
      [("count", .count attached.aliases.length)]
    pure attached.aliases

end KeyCustody.Aws
