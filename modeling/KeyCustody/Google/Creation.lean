import KeyCustody.Google.Settings
import KeyCustody.Provisioning

namespace KeyCustody.Google

variable {σ : Type}

def createKey (p : Provider σ) (settings : Settings) (name : String) : Run σ Unit := do
  let _ ← Run.checked p (settings.createKey name)

def createNamed (p : Provider σ) (settings : Settings) (stop index : Nat) : Run σ String := do
  let name := keyName settings.keyStem index
  createKey p settings name
  Run.print (index.repr ++ "/" ++ stop.repr ++ "\n")
  Run.note .info .googleCreation "Created Google KMS key" [("key_name", .text name)]
  pure name

def provision (p : Provider σ) (settings : Settings) (plan : Plan) : Run σ (List String) :=
  KeyCustody.provision (createNamed p settings plan.stop) plan

end KeyCustody.Google
