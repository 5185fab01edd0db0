import KeyCustody.Command
import KeyCustody.Files

namespace KeyCustody.Google

structure Settings where
  program : String := "gcloud"
  keyring : String := "TestKeyring"
  location : String := "global"
  /-- The start of every key name. -/
  keyStem : String := "btci_multisig_google_"
  /-- Must be there already. Only names that are Unicode text are represented; a directory may have
  others. -/
  exportDirectory : String := "./google_pubkeys"

/-- The part of a resource name after its last slash. -/
def shortName (name : String) : String :=
  String.ofList (name.toList.reverse.takeWhile (· ≠ '/')).reverse

def exportPath (directory short : String) : String :=
  Path.join directory (short ++ ".pem")

theorem slash_not_mem_shortName (name : String) : '/' ∉ (shortName name).toList := by
  intro member
  have taken := List.mem_reverse.1 (by simpa [shortName] using member)
  have kept := List.all_takeWhile (l := name.toList.reverse) (p := fun c => decide (c ≠ '/'))
  simpa using List.all_eq_true.1 kept '/' (by simpa using taken)

namespace Settings

def keyringArguments (s : Settings) : List String :=
  ["--keyring", s.keyring, "--location", s.location]

def command (s : Settings) (arguments : List String) : Command :=
  ⟨s.program, "kms" :: "keys" :: arguments⟩

def listKeys (s : Settings) : Command :=
  s.command ("list" :: s.keyringArguments ++ ["--format", "json"])

def getPublicKey (s : Settings) (short path : String) : Command :=
  s.command
    (["versions", "get-public-key", "1", "--key", short] ++ s.keyringArguments ++
      ["--output-file", path])

def createKey (s : Settings) (name : String) : Command :=
  s.command
    (["create", name] ++ s.keyringArguments ++
      ["--purpose", "asymmetric-signing", "--default-algorithm", "ec-sign-secp256k1-sha256",
        "--protection-level", "hsm"])

def pathFor (s : Settings) (name : String) : String :=
  exportPath s.exportDirectory (shortName name)

end Settings

end KeyCustody.Google
