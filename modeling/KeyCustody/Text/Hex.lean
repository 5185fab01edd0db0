import KeyCustody.Text.Utf8
import KeyCustody.Text.Quoted

namespace KeyCustody.Text

def hexOctet (octet : UInt8) : List Char :=
  [hexDigit (octet.toNat / 16), hexDigit (octet.toNat % 16)]

def hexOctets (octets : Bytes) : List Char :=
  octets.flatMap hexOctet

end KeyCustody.Text
