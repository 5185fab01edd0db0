import KeyCustody.Failure

namespace KeyCustody

structure Published where
  text : String
  point : Option String
  deriving DecidableEq, Repr

/-- Brings a key from a provider to this form; only a key whose point is asked for is decoded. -/
def publish (withPoint : Bool) (raw : String) : Except Failure Published :=
  let text := PublicKey.normalizeString raw
  if withPoint then
    match PublicKey.pointHex text with
    | .ok point => .ok ⟨text, some point⟩
    | .error fault => .error (.publicKey fault)
  else .ok ⟨text, none⟩

structure Attachment (α : Type) where
  records : List α
  failure : Option Failure

/-- Goes through items in order up to the first that fails. That one and all after it stay as they
were `before`. -/
def attachEach {ι α : Type} (before : ι → α) (attach : ι → Except Failure α) :
    List ι → Attachment α
  | [] => ⟨[], none⟩
  | item :: rest =>
    match attach item with
    | .error failure => ⟨(item :: rest).map before, some failure⟩
    | .ok record =>
      let attached := attachEach before attach rest
      ⟨record :: attached.records, attached.failure⟩

end KeyCustody
