import KeyCustody.Main
import KeyCustody.Proofs.Aws.Inventory
import KeyCustody.Proofs.Base64
import KeyCustody.Proofs.Der
import KeyCustody.Proofs.Timestamp
import KeyCustody.Proofs.Google.Chronology
import KeyCustody.Proofs.Files
import KeyCustody.Proofs.Google.Export
import KeyCustody.Proofs.Google.Inventory
import KeyCustody.Proofs.Precedence
import KeyCustody.Proofs.Aws.Precedence
import KeyCustody.Proofs.Aws.Point
import KeyCustody.Proofs.Aws.Reordering
import KeyCustody.Proofs.Aws.AliasText
import KeyCustody.Proofs.Google.Precedence
import KeyCustody.Proofs.Google.SharedFiles
import KeyCustody.Proofs.Normalization
import KeyCustody.Proofs.Provisioning
import KeyCustody.Proofs.Aws.Creation
import KeyCustody.Proofs.Aws.KeySpec
import KeyCustody.Proofs.Resumption
import KeyCustody.Proofs.CommandLine.Listing
import KeyCustody.Proofs.ProviderRecords
import KeyCustody.Proofs.PublicKeyGrammar
import KeyCustody.Proofs.Google.CreationTime
import KeyCustody.Proofs.PemWrapping
import KeyCustody.Proofs.Google.Creation
import KeyCustody.Proofs.Aws.PartialAttachment
import KeyCustody.Proofs.OctetOrder
import KeyCustody.Proofs.Aws.AlgorithmSet
import KeyCustody.Proofs.Google.ExportPath
import KeyCustody.Proofs.KeyNames
import KeyCustody.Proofs.CommandText
