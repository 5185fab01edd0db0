import KeyCustody.Command

namespace KeyCustody.Aws

structure Settings where
  program : String := "aws"
  /-- Part of every alias name that is listed, and the start of every key name. -/
  aliasStem : String := "btci_multisig_"
  policyFile : String := "aws_kms_policy.json"
  description : String := "Key to sign multisig withdrawal transactions in BTC"

def signingKeySpec : String := "ECC_SECG_P256K1"
def signingKeyUsage : String := "SIGN_VERIFY"
def signingAlgorithm : String := "ECDSA_SHA_256"

namespace Settings

def command (s : Settings) (arguments : List String) : Command :=
  ⟨s.program, "kms" :: arguments⟩

def listKeys (s : Settings) : Command :=
  s.command ["list-keys", "--query", "Keys"]

def listAliases (s : Settings) : Command :=
  s.command
    ["list-aliases", "--query", "Aliases[?contains(@.AliasName,'" ++ s.aliasStem ++ "')]"]

def getPublicKey (s : Settings) (arn : String) : Command :=
  s.command ["get-public-key", "--key-id", arn]

def createKey (s : Settings) : Command :=
  s.command
    ["create-key", "--policy", "file://" ++ s.policyFile, "--description", s.description,
      "--key-usage", signingKeyUsage, "--key-spec", signingKeySpec]

def createAlias (s : Settings) (name arn : String) : Command :=
  s.command ["create-alias", "--alias-name", "alias/" ++ name, "--target-key-id", arn]

end Settings

end KeyCustody.Aws
