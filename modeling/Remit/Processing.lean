import Remit.Request
import Remit.Response

/-!
# Processing requests

`Request.respond` takes a request through its stages: the instruction is read, checked against the
accounts and carried out or scheduled. Whatever happens ends in a response: a fault in the shape of
the request or an error while it is carried out is reported with code `SY03` and no accounts.
-/

namespace Remit

/-- The response to something that is no fault of an instruction. -/
def Response.unexpected (reason : String) : Response :=
  .ofFailure (Failure.classify ⟨.unexpected, .unexpected, reason, none⟩) none []

namespace Request

/-- Reads, checks and carries out the instruction of a request. -/
def run (supported : List Text) (today : Date) (request : Request) :
    Except ExecutionError Response :=
  match Instruction.parse request.instruction with
  | .error cause =>
    .ok (.ofFailure (Failure.ofCause .parse cause).classify none request.accounts)
  | .ok instruction =>
    match Transfer.ofInstruction supported request.accounts instruction with
    | .error cause =>
      .ok (.ofFailure (Failure.ofCause .validate cause).classify (some instruction)
        request.accounts)
    | .ok transfer =>
      (transfer.execute today).map fun outcome => .ofOutcome outcome request.accounts

/-- The response to a request. -/
def respond (supported : List Text) (today : Date) (request : Request) : Response :=
  match request.run supported today with
  | .ok response => response
  | .error error => .unexpected error.message

end Request

/-- The response to a JSON value that is to be a request. -/
def process (supported : List Text) (today : Date) (payload : Json) : Response :=
  match Request.ofJson payload with
  | .ok request => request.respond supported today
  | .error faults => .unexpected (faultReason faults)

end Remit
