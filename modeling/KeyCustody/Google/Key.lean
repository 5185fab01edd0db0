import KeyCustody.Failure
import KeyCustody.Json.Layout
import KeyCustody.Json.Record

/-!
Listed keys, of which only hardware signing keys on secp256k1 are kept, the oldest first. Keys of
one age stay in the order in which they were listed.
-/
namespace KeyCustody.Google

structure Key where
  name : String
  /-- Only looked at for keys that are kept. -/
  createTime : String := ""
  purpose : String := ""
  versionTemplate : Option Json.Value := none

def Key.record : Json.Record Key where
  title := "struct GoogleKey"
  blank := { name := "" }
  fields :=
    [Json.required "name" Json.text fun s key => { key with name := s },
      Json.defaulted "createTime" Json.text fun s key => { key with createTime := s },
      Json.defaulted "purpose" Json.text fun s key => { key with purpose := s },
      Json.defaulted "versionTemplate" (Json.optional Json.value) fun v key =>
        { key with versionTemplate := v }]

def signingPurpose : String := "ASYMMETRIC_SIGN"
def signingAlgorithm : String := "EC_SIGN_SECP256K1_SHA256"
def hardwareLevel : String := "HSM"

/-- The version template has these two members and no other. -/
def isSigningTemplate : Option Json.Value → Bool
  | some (.object [(algorithmName, .text algorithm), (levelName, .text level)]) =>
    algorithmName == "algorithm" && algorithm == signingAlgorithm &&
      levelName == "protectionLevel" && level == hardwareLevel
  | _ => false

def Key.isMultisigKey (key : Key) : Bool :=
  key.purpose == signingPurpose && isSigningTemplate key.versionTemplate

structure KeyRecord where
  createTime : String
  name : String
  publicKey : Option String := none
  point : Option String := none
  deriving DecidableEq, Repr

def KeyRecord.ofKey (key : Key) : KeyRecord :=
  { createTime := key.createTime, name := key.name }

def KeyRecord.value (r : KeyRecord) : Json.Value :=
  .object
    (("createTime", .text r.createTime) :: ("name", .text r.name) ::
      ((r.publicKey.map fun s => ("publicKey", Json.Value.text s)).toList ++
        (r.point.map fun s => ("publicKeyPoint", Json.Value.text s)).toList))

def Key.created (key : Key) : Except Failure Time.Instant :=
  match Time.parse (Text.encode key.createTime) with
  | .ok instant => .ok instant
  | .error fault => .error (.timestamp key.name key.createTime fault)

def Key.dated (key : Key) : Except Failure (Time.Instant × KeyRecord) := do
  let instant ← key.created
  .ok (instant, .ofKey key)

def filterKeys (keys : List Key) : Except Failure (List KeyRecord) := do
  let dated ← (keys.filter Key.isMultisigKey).mapM Key.dated
  .ok ((dated.mergeSort fun a b => a.1.le b.1).map (·.2))

end KeyCustody.Google
