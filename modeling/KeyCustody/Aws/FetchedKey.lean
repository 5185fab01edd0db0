import KeyCustody.Aws.Settings
import KeyCustody.Failure
import KeyCustody.Json.Record

/-!
Fetched public keys and what they must say of themselves: a signing key on secp256k1, with one
algorithm to sign with. Algorithms are judged as a set, so order and repetition do not matter.
-/
namespace KeyCustody.Aws

structure FetchedKey where
  id : String
  publicKey : String
  masterKeySpec : Option String := none
  keySpec : Option String := none
  usage : String
  algorithms : List String := []
  deriving DecidableEq, Repr

def FetchedKey.record : Json.Record FetchedKey where
  title := "struct AwsPublicKey"
  blank := { id := "", publicKey := "", usage := "" }
  fields :=
    [Json.required "KeyId" Json.text fun s key => { key with id := s },
      Json.required "PublicKey" Json.text fun s key => { key with publicKey := s },
      Json.defaulted "CustomerMasterKeySpec" (Json.optional Json.text) fun s key =>
        { key with masterKeySpec := s },
      Json.defaulted "KeySpec" (Json.optional Json.text) fun s key => { key with keySpec := s },
      Json.required "KeyUsage" Json.text fun s key => { key with usage := s },
      Json.defaulted "SigningAlgorithms" (Json.list Json.text) fun ss key =>
        { key with algorithms := ss }]

/-- The spec, under whichever of its two names it comes. -/
def FetchedKey.spec (key : FetchedKey) : Option String :=
  key.masterKeySpec.or key.keySpec

def insertDistinct (s : String) : List String → List String
  | [] => [s]
  | first :: rest =>
    if s = first then first :: rest
    else if s < first then s :: first :: rest
    else first :: insertDistinct s rest

def distinct (texts : List String) : List String :=
  texts.foldr insertDistinct []

theorem mem_insertDistinct (s t : String) (texts : List String) :
    t ∈ insertDistinct s texts ↔ t = s ∨ t ∈ texts := by
  induction texts with
  | nil => simp [insertDistinct]
  | cons first rest ih =>
    simp only [insertDistinct]
    split
    · next same => simp [same]
    · split
      · simp
      · simp only [List.mem_cons, ih]
        exact or_left_comm

theorem mem_distinct (t : String) (texts : List String) : t ∈ distinct texts ↔ t ∈ texts := by
  induction texts with
  | nil => simp [distinct]
  | cons s rest ih =>
    have step := mem_insertDistinct s t (distinct rest)
    simp only [distinct, List.foldr_cons] at *
    rw [step, ih, List.mem_cons]

def showSet (texts : List String) : String :=
  "\x7b" ++ ", ".intercalate ((distinct texts).map Text.quote) ++ "\x7d"

def FetchedKey.mismatch? (key : FetchedKey) : Option Mismatch :=
  if key.spec ≠ some signingKeySpec then
    some ⟨"CustomerMasterKeySpec", key.spec.getD "<missing>", signingKeySpec⟩
  else if key.usage ≠ signingKeyUsage then
    some ⟨"KeyUsage", key.usage, signingKeyUsage⟩
  else if distinct key.algorithms ≠ [signingAlgorithm] then
    some ⟨"SigningAlgorithms", showSet key.algorithms, signingAlgorithm⟩
  else none

def FetchedKey.validate (key : FetchedKey) : Except Failure Unit :=
  match key.mismatch? with
  | some m => .error (.mismatch key.id m)
  | none => .ok ()

end KeyCustody.Aws
