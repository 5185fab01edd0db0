import KeyCustody.Base64
import KeyCustody.Der
import KeyCustody.Text.Blank
import KeyCustody.Text.Hex

/-!
Public key text. Providers hand keys out as PEM or as bare base64; `normalize` brings both to one
base64 line, and `pointHex` takes the secp256k1 point out of such a line.
-/
namespace KeyCustody.PublicKey

open Text

def pemBegin : List Char := "-----BEGIN PUBLIC KEY-----".toList
def pemEnd : List Char := "-----END PUBLIC KEY-----".toList

def dropMark (mark s : List Char) : List Char :=
  if mark.isPrefixOf s then s.drop mark.length else s

def dropEndMark (mark s : List Char) : List Char :=
  if mark.isSuffixOf s then s.take (s.length - mark.length) else s

def isLineBreak (c : Char) : Bool :=
  c == '\n' || c == '\r'

def normalize (s : List Char) : List Char :=
  (dropEndMark pemEnd (dropMark pemBegin (trim s))).filter (!isLineBreak ·)

def normalizeString (s : String) : String :=
  String.ofList (normalize s.toList)

inductive Fault where
  | notBase64 (fault : Base64.Fault)
  | malformed (fault : Der.Fault)
  | notEllipticCurve
  | otherCurve
  | unusedBits
  | malformedPoint

def Fault.message : Fault → String
  | .notBase64 fault => "not base64: " ++ fault.message
  | .malformed fault => "malformed SubjectPublicKeyInfo: " ++ fault.message
  | .notEllipticCurve => "not an EC public key"
  | .otherCurve => "curve is not secp256k1"
  | .unusedBits => "BIT STRING has unused bits"
  | .malformedPoint => "malformed SEC1 point"

/-- Contents of 1.2.840.10045.2.1. -/
def ellipticCurveKey : Bytes := [0x2a, 0x86, 0x48, 0xce, 0x3d, 0x02, 0x01]

/-- Contents of 1.3.132.0.10. -/
def secp256k1 : Bytes := [0x2b, 0x81, 0x04, 0x00, 0x0a]

/-- Uncompressed or compressed; whether it lies on the curve is not looked at. -/
def isPoint (octets : Bytes) : Bool :=
  (octets.length == 65 && octets.head? == some 0x04) ||
    (octets.length == 33 && (octets.head? == some 0x02 || octets.head? == some 0x03))

def point (der : Bytes) : Except Fault Bytes :=
  match Der.subjectPublicKey der with
  | .error fault => .error (.malformed fault)
  | .ok key =>
    if key.algorithm ≠ ellipticCurveKey then .error .notEllipticCurve
    else if key.parameters ≠ secp256k1 then .error .otherCurve
    else if key.key.unused ≠ 0 then .error .unusedBits
    else if isPoint key.key.octets then .ok key.key.octets
    else .error .malformedPoint

def pointHex (text : String) : Except Fault String :=
  match Base64.decode (encode (trimString text)) with
  | .error fault => .error (.notBase64 fault)
  | .ok der =>
    match point der with
    | .error fault => .error fault
    | .ok octets => .ok (String.ofList (hexOctets octets))

end KeyCustody.PublicKey
