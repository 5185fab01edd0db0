import KeyCustody.Aws.Creation
import KeyCustody.Aws.Inventory
import KeyCustody.CommandLine.Report
import KeyCustody.CommandLine.Request
import KeyCustody.CommandLine.Verbosity
import KeyCustody.Google.Creation
import KeyCustody.Google.Inventory

namespace KeyCustody.CommandLine

variable {σ α : Type}

abbrev Job (σ α : Type) := ExceptT Report (StateM (Session σ)) α

def during (context : String) (run : Run σ α) : Job σ α :=
  ExceptT.adapt (fun failure => ⟨context, failure⟩) run

def announce (tool : Tool) (message : String) (details : List (String × Detail)) : Job σ Unit :=
  let origin :=
    match tool with
    | .aws => Origin.awsTool
    | .google => Origin.googleTool
  modify fun s => { s with journal := s.journal ++ [{ level := .info, origin, message, details }] }

def printInventory (values : List Json.Value) : Job σ Unit :=
  during "Failed to print inventory" (Run.printValues values)

def planDetails (plan : Plan) : List (String × Detail) :=
  [("start", .count plan.start.toNat), ("count", .count plan.count.toNat)]

def Request.perform (p : Provider σ) : Request → Job σ Unit
  | .listAws settings withPoint => do
    announce .aws "Listing AWS KMS multisig keys" [("prefix", .text settings.aliasStem)]
    let aliases ←
      during "Failed to build AWS key inventory" (Aws.inventory p settings withPoint)
    printInventory (aliases.map Aws.Alias.value)
  | .createAws settings plan => do
    announce .aws "Creating AWS KMS multisig keys" (planDetails plan)
    let keys ← during "Failed to create AWS keys" (Aws.provision p settings plan)
    announce .aws "AWS provisioning finished" [("created", .count keys.length)]
  | .listGoogle settings withPoint => do
    announce .google "Listing Google KMS multisig keys"
      [("keyring", .text settings.keyring), ("location", .text settings.location)]
    let records ←
      during "Failed to build Google key inventory" (Google.inventory p settings withPoint)
    printInventory (records.map Google.KeyRecord.value)
  | .createGoogle settings plan => do
    announce .google "Creating Google KMS multisig keys"
      (planDetails plan ++ [("keyring", .text settings.keyring)])
    let names ← during "Failed to create Google keys" (Google.provision p settings plan)
    announce .google "Google provisioning finished" [("created", .count names.length)]

structure Outcome where
  exitCode : UInt8
  stdout : Bytes := []
  stderr : String := ""
  journal : List Event := []
  format : LogFormat := .text
  files : Files

def usage (tool : Tool) : String :=
  "Usage: " ++ tool.name ++ " [OPTIONS] <COMMAND>\n"

def misuseText (tool : Tool) : String :=
  "error: the arguments were not understood\n\n" ++ usage tool

def filterVariable : String := "RUST_LOG"

def Order.perform (order : Order) (p : Provider σ) (environment : Environment) (s : Session σ) :
    Outcome :=
  let (result, s) := (order.request.perform p).run s
  let filter := filterFor (environment filterVariable) order.verbose
  let journal := s.journal.filter filter.shows
  match result with
  | .ok () =>
    { exitCode := 0, stdout := s.sink.octets, journal, format := order.format, files := s.files }
  | .error report =>
    { exitCode := 1, stdout := s.sink.octets, stderr := report.text, journal,
      format := order.format, files := s.files }

/-- Runs a tool in a session that has not printed or noted anything yet. -/
def Tool.run (tool : Tool) (p : Provider σ) (environment : Environment) (arguments : List String)
    (s : Session σ) : Outcome :=
  match tool.read environment arguments with
  | .misuse => { exitCode := 2, stderr := misuseText tool, files := s.files }
  | .help => { exitCode := 0, stdout := Text.encode (usage tool), files := s.files }
  | .version =>
    { exitCode := 0, stdout := Text.encode (tool.name ++ " " ++ Tool.version ++ "\n"),
      files := s.files }
  | .order order => order.perform p environment s

end KeyCustody.CommandLine
