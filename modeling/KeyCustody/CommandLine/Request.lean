import KeyCustody.Aws.Settings
import KeyCustody.CommandLine.Flags
import KeyCustody.Google.Settings
import KeyCustody.Plan

namespace KeyCustody.CommandLine

inductive Tool where
  | aws
  | google
  deriving DecidableEq, Repr

def Tool.name : Tool → String
  | .aws => "aws-keys"
  | .google => "google-keys"

def Tool.version : String := "0.1.0"

inductive LogFormat where
  | text
  | json
  deriving DecidableEq, Repr

inductive Request where
  | listAws (settings : Aws.Settings) (withPoint : Bool)
  | createAws (settings : Aws.Settings) (plan : Plan)
  | listGoogle (settings : Google.Settings) (withPoint : Bool)
  | createGoogle (settings : Google.Settings) (plan : Plan)

structure Order where
  verbose : Bool
  format : LogFormat
  request : Request

inductive Reading where
  | misuse
  | help
  | version
  | order (order : Order)

section Flags

def isLogFormat (s : String) : Bool :=
  s = "text" ∨ s = "json"

def greatestIndex : Nat := 0xffffffff
def greatestDelay : Nat := 0xffffffffffffffff

def index? (s : String) : Option Nat := number? true greatestIndex s
def delay? (s : String) : Option Nat := number? false greatestDelay s

def commonFlags : List Flag :=
  [{ name := "verbose", letter := some 'v', takesValue := false },
    { name := "log-format", accepts := isLogFormat }]

def planFlags : List Flag :=
  [{ name := "start", accepts := fun s => (index? s).isSome },
    { name := "count", accepts := fun s => (index? s).isSome },
    { name := "delay-ms", accepts := fun s => (delay? s).isSome }]

def withPointFlag : Flag := { name := "with-point", takesValue := false }

def Tool.flags : Tool → List Flag
  | .aws =>
    [{ name := "aws-bin", environment := some "AWS_CLI" },
      { name := "alias-prefix", environment := some "KMS_ALIAS_PREFIX" }] ++ commonFlags
  | .google =>
    [{ name := "gcloud-bin", environment := some "GCLOUD_CLI" },
      { name := "keyring", environment := some "KMS_KEYRING" },
      { name := "location", environment := some "KMS_LOCATION" }] ++ commonFlags

def Tool.grammar (tool : Tool) : Grammar where
  flags := tool.flags
  subcommands := ["list", "create"]
  showsVersion := true

def Tool.listGrammar : Tool → Grammar
  | .aws => { flags := [withPointFlag] }
  | .google =>
    { flags :=
        [{ name := "export-dir", environment := some "KMS_EXPORT_DIR", accepts := (· ≠ "") },
          withPointFlag] }

def Tool.createGrammar : Tool → Grammar
  | .aws => { flags := planFlags ++ [{ name := "policy-file" }, { name := "description" }] }
  | .google => { flags := planFlags ++ [{ name := "key-prefix" }] }

end Flags

section Orders

abbrev Values := String → Option String

def Values.plan (values : Values) : Plan where
  start := UInt32.ofNat (((values "start").bind index?).getD 0)
  count := UInt32.ofNat (((values "count").bind index?).getD 100)
  delay := UInt64.ofNat (((values "delay-ms").bind delay?).getD 1000)

def Values.awsSettings (values : Values) : Aws.Settings :=
  let usual : Aws.Settings := {}
  { program := (values "aws-bin").getD usual.program
    aliasStem := (values "alias-prefix").getD usual.aliasStem
    policyFile := (values "policy-file").getD usual.policyFile
    description := (values "description").getD usual.description }

def Values.googleSettings (values : Values) : Google.Settings :=
  let usual : Google.Settings := {}
  { program := (values "gcloud-bin").getD usual.program
    keyring := (values "keyring").getD usual.keyring
    location := (values "location").getD usual.location
    keyStem := (values "key-prefix").getD usual.keyStem
    exportDirectory := (values "export-dir").getD usual.exportDirectory }

def Tool.listRequest (tool : Tool) (values : Values) : Request :=
  let withPoint := (values "with-point").isSome
  match tool with
  | .aws => .listAws values.awsSettings withPoint
  | .google => .listGoogle values.googleSettings withPoint

def Tool.createRequest (tool : Tool) (values : Values) : Request :=
  match tool with
  | .aws => .createAws values.awsSettings values.plan
  | .google => .createGoogle values.googleSettings values.plan

def Tool.readSubcommand (tool : Tool) (environment : Environment) (given : Given)
    (inner : Grammar) (arguments : List String) (request : Values → Request) : Reading :=
  match scan inner arguments [] with
  | .misuse => .misuse
  | .help => .help
  | .version => .misuse
  | .done _ (some _) => .misuse
  | .done innerGiven none =>
    if tool.grammar.acceptsEnvironment environment given ∧
        inner.acceptsEnvironment environment innerGiven then
      let values : Values := fun name =>
        (inner.value? environment innerGiven name).or (tool.grammar.value? environment given name)
      .order ⟨given.has "verbose",
        if values "log-format" = some "json" then .json else .text, request values⟩
    else .misuse

def Tool.read (tool : Tool) (environment : Environment) (arguments : List String) : Reading :=
  match scan tool.grammar arguments [] with
  | .misuse => .misuse
  | .help => .help
  | .version => .version
  | .done _ none => .misuse
  | .done given (some (subcommand, rest)) =>
    if subcommand = "list" then
      tool.readSubcommand environment given tool.listGrammar rest tool.listRequest
    else tool.readSubcommand environment given tool.createGrammar rest tool.createRequest

end Orders

end KeyCustody.CommandLine
