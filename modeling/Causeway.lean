import Causeway.Buffer
import Causeway.Call
import Causeway.Cell
import Causeway.Contracts.Script
import Causeway.Demo.Host
import Causeway.Layout.Catalog
import Causeway.Logging
import Causeway.Proofs.Acts
import Causeway.Proofs.Program
import Causeway.Proofs.Slots
import Causeway.Sequence.Script
import Causeway.Session.Run
import Causeway.Proofs.Moves
import Causeway.Proofs.Runs
import Causeway.Proofs.Changes
import Causeway.Proofs.Freshness
import Causeway.Proofs.Accounting
import Causeway.Proofs.HandOver
import Causeway.Proofs.Loans
import Causeway.Proofs.Nesting
import Causeway.Proofs.Reading
import Causeway.Proofs.LayoutText
import Causeway.Proofs.Decoding
import Causeway.Proofs.Records
import Causeway.Proofs.SignatureText
import Causeway.Proofs.Relay
import Causeway.Proofs.Transfer
import Causeway.Proofs.Rollbacks
import Causeway.Proofs.Books
import Causeway.Proofs.Upkeep
import Causeway.Proofs.Operations
import Causeway.Proofs.Leaks
import Causeway.Proofs.Locality
import Causeway.Proofs.WordRange
import Causeway.Proofs.Appending
import Causeway.Proofs.Callbacks
import Causeway.Proofs.Forgiving
import Causeway.Proofs.Raising
import Causeway.Proofs.Agreement
import Causeway.Proofs.ByteArrays
import Causeway.Proofs.Asides
import Causeway.Proofs.Consumption
import Causeway.Proofs.Checksum
import Causeway.Proofs.Filling
import Causeway.Proofs.Growing
import Causeway.Proofs.Representation
