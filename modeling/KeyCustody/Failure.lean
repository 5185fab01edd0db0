import KeyCustody.Command
import KeyCustody.Files
import KeyCustody.Json.Fault
import KeyCustody.PublicKey
import KeyCustody.Time.Timestamp

/-!
Why a run ends early. Every failure is final: nothing is tried again. `message` says it in one
text, `sources` gives the texts of the causes behind it, the nearest first.
-/
namespace KeyCustody

structure Mismatch where
  property : String
  actual : String
  expected : String
  deriving DecidableEq, Repr

inductive Failure where
  | spawn (command : Command) (reason : String)
  | exit (command : Command) (code : Option Int) (complaint : Bytes)
  | json (command : Command) (fault : Json.Fault)
  | unknownTarget (name target : String)
  | mismatch (key : String) (mismatch : Mismatch)
  | missingPublicKey (name : String)
  | exportFailed (key : String) (cause : Failure)
  | file (path : String) (fault : Files.Fault)
  | output (reason : String)
  | timestamp (key createTime : String) (fault : Time.Fault)
  | publicKey (fault : PublicKey.Fault)

namespace Failure

/-- An exit status; a process that a signal has ended has none. -/
def statusText : Option Int → String
  | some code => toString code
  | none => "signal"

def complaintText (complaint : Bytes) : String :=
  String.ofList (Text.trim (Text.decodeLossy complaint))

def message : Failure → String
  | .spawn command reason => "Failed to spawn `" ++ command.display ++ "`: " ++ reason
  | .exit command code complaint =>
    "Command `" ++ command.display ++ "` failed with status " ++ statusText code ++ ": " ++
      complaintText complaint
  | .json command fault => "Invalid JSON from `" ++ command.display ++ "`: " ++ fault.message
  | .unknownTarget name target => "Alias " ++ name ++ " targets unknown key " ++ target
  | .mismatch key m =>
    "Key " ++ key ++ " has " ++ m.property ++ " = " ++ m.actual ++ ", expected " ++ m.expected
  | .missingPublicKey name => "No public key returned for " ++ name
  | .exportFailed key cause => "Public key export failed for " ++ key ++ ": " ++ cause.message
  | .file path fault => "Failed to access " ++ path ++ ": " ++ fault.message
  | .output reason => "Failed to write output: " ++ reason
  | .timestamp key createTime fault =>
    "Invalid createTime " ++ Text.quote createTime ++ " on " ++ key ++ ": " ++ fault.message
  | .publicKey fault => "Invalid public key: " ++ fault.message

def sources : Failure → List String
  | .spawn _ reason => [reason]
  | .json _ fault => [fault.message]
  | .exportFailed _ cause => cause.message :: cause.sources
  | .file _ fault => [fault.message]
  | .output reason => [reason]
  | .timestamp _ _ fault => [fault.message]
  | _ => []

end Failure

end KeyCustody
