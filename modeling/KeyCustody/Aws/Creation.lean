import KeyCustody.Aws.Settings
import KeyCustody.Json.Record
import KeyCustody.Provisioning

namespace KeyCustody.Aws

structure CreatedKey where
  id : String
  arn : String
  deriving DecidableEq, Repr

def CreatedKey.record : Json.Record CreatedKey where
  title := "struct KeyMetadata"
  blank := ⟨"", ""⟩
  fields :=
    [Json.required "KeyId" Json.text fun s key => { key with id := s },
      Json.required "Arn" Json.text fun s key => { key with arn := s }]

def creationRecord : Json.Record CreatedKey where
  title := "struct CreateKeyResponse"
  blank := ⟨"", ""⟩
  fields := [Json.required "KeyMetadata" CreatedKey.record.reader fun key _ => key]

structure NamedKey where
  name : String
  arn : String
  deriving DecidableEq, Repr

variable {σ : Type}

def createKey (p : Provider σ) (settings : Settings) : Run σ String := do
  let key ← Run.json p creationRecord.reader settings.createKey
  pure key.arn

def createAlias (p : Provider σ) (settings : Settings) (name arn : String) : Run σ Unit := do
  let _ ← Run.checked p (settings.createAlias name arn)

def createNamed (p : Provider σ) (settings : Settings) (index : Nat) : Run σ NamedKey := do
  let name := keyName settings.aliasStem index
  Run.print ("KeyName " ++ name ++ "\n")
  let arn ← createKey p settings
  Run.print ("KeyArn " ++ arn ++ "\n")
  createAlias p settings name arn
  Run.print "_\n"
  Run.note .info .awsCreation "Created AWS KMS key"
    [("key_name", .text name), ("key_arn", .text arn)]
  pure ⟨name, arn⟩

def provision (p : Provider σ) (settings : Settings) (plan : Plan) : Run σ (List NamedKey) :=
  KeyCustody.provision (createNamed p settings) plan

end KeyCustody.Aws
