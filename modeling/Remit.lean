import Remit.Service.Endpoint
import Remit.Session
import Remit.Proofs.Text.Search
import Remit.Proofs.Text.Numeral
import Remit.Proofs.Instruction.Fields
import Remit.Proofs.Instruction.Grammar
import Remit.Proofs.Instruction.RoundTrip
import Remit.Proofs.Instruction.Naming
import Remit.Proofs.Instruction.Spelling
import Remit.Proofs.Instruction.Forms
import Remit.Proofs.Instruction.Legible
import Remit.Proofs.Instruction.Normal
import Remit.Proofs.Money.Exact
import Remit.Proofs.Calendar.Schedule
import Remit.Proofs.Calendar.Order
import Remit.Proofs.Request
import Remit.Proofs.RequestOrder
import Remit.Proofs.Processing
import Remit.Proofs.Session
import Remit.Proofs.Ledger
import Remit.Proofs.Entries
import Remit.Proofs.Overdraft
import Remit.Proofs.Settlement
import Remit.Proofs.Interchange
import Remit.Proofs.Refusal
import Remit.Proofs.Requirements
import Remit.Proofs.Amount
import Remit.Proofs.Currency
import Remit.Proofs.Shape
import Remit.Proofs.Listing
import Remit.Proofs.Execution
import Remit.Proofs.Decision
import Remit.Proofs.Maturity
import Remit.Proofs.Atomicity
import Remit.Proofs.Payment
import Remit.Proofs.Threshold
import Remit.Proofs.Relevance
import Remit.Proofs.Independence
import Remit.Proofs.Service
