import KeyCustody.Failure
import KeyCustody.Json.Layout
import KeyCustody.Json.Record

/-!
Listed keys and aliases. An alias names its key by identifier; `joinKeyArns` adds the resource name
that the key listing has for that identifier. Members of an alias that are not known here are
carried along and written back among the known ones.
-/
namespace KeyCustody.Aws

structure Key where
  id : String
  arn : String
  deriving DecidableEq, Repr

def Key.record : Json.Record Key where
  title := "struct AwsKey"
  blank := ⟨"", ""⟩
  fields :=
    [Json.required "KeyId" Json.text fun s key => { key with id := s },
      Json.required "KeyArn" Json.text fun s key => { key with arn := s }]

def Key.value (key : Key) : Json.Value :=
  .object [("KeyId", .text key.id), ("KeyArn", .text key.arn)]

structure Alias where
  name : String
  arn : Option String := none
  target : String
  /-- Members that are not known, sorted by name. -/
  extra : Json.Members := []
  keyArn : Option String := none
  publicKey : Option String := none
  point : Option String := none

def Alias.record : Json.Record Alias where
  title := "struct AwsAlias"
  blank := { name := "", target := "" }
  fields :=
    [Json.required "AliasName" Json.text fun s a => { a with name := s },
      Json.defaulted "AliasArn" (Json.optional Json.text) fun s a => { a with arn := s },
      Json.required "TargetKeyId" Json.text fun s a => { a with target := s },
      Json.defaulted "KeyArn" (Json.optional Json.text) fun s a => { a with keyArn := s },
      Json.defaulted "PublicKey" (Json.optional Json.text) fun s a => { a with publicKey := s },
      Json.defaulted "PublicKeyPoint" (Json.optional Json.text) fun s a => { a with point := s }]
  keep := some fun name v a => { a with extra := a.extra.insert name v }

def optionalMember (name : String) (text : Option String) : Json.Members :=
  match text with
  | some s => [(name, .text s)]
  | none => []

def Alias.members (a : Alias) : Json.Members :=
  ("AliasName", .text a.name) :: optionalMember "AliasArn" a.arn ++
    ("TargetKeyId", .text a.target) :: a.extra ++ optionalMember "KeyArn" a.keyArn ++
    optionalMember "PublicKey" a.publicKey ++ optionalMember "PublicKeyPoint" a.point

def Alias.value (a : Alias) : Json.Value :=
  .object a.members

/-- The resource name of a key. Of several keys with one identifier the last listed counts. -/
def arnOf? (keys : List Key) (id : String) : Option String :=
  (keys.reverse.find? (·.id = id)).map (·.arn)

def joinKeyArn (keys : List Key) (a : Alias) : Except Failure Alias :=
  match arnOf? keys a.target with
  | some arn => .ok { a with keyArn := some arn }
  | none => .error (.unknownTarget a.name a.target)

def joinKeyArns (keys : List Key) (aliases : List Alias) : Except Failure (List Alias) :=
  aliases.mapM (joinKeyArn keys)

end KeyCustody.Aws
