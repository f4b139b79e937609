import StockLedger.Failure

/-!
Call outcomes. A call that fails ends with a status: a code from the fixed set callers
know, and a message. A ledger failure gets its code from the first of these it carries:
a missing record is `NotFound`; an existing location `AlreadyExists`; a shortfall, a
transfer in the wrong status or a disabled source `FailedPrecondition`; a bad quantity,
transfer or change `InvalidArgument`; a held lock `Unavailable`; a cancelled or expired
call `Canceled` or `DeadlineExceeded`. Anything else is `Internal`. The message is the
failure's own.
-/

namespace StockLedger

/-- The code of a failed call. -/
inductive Code where
  | canceled
  | invalidArgument
  | deadlineExceeded
  | notFound
  | alreadyExists
  | failedPrecondition
  | unimplemented
  | internal
  | unavailable
deriving Repr, DecidableEq

namespace Code

/-- The name callers see. -/
def name : Code → String
  | .canceled => "Canceled"
  | .invalidArgument => "InvalidArgument"
  | .deadlineExceeded => "DeadlineExceeded"
  | .notFound => "NotFound"
  | .alreadyExists => "AlreadyExists"
  | .failedPrecondition => "FailedPrecondition"
  | .unimplemented => "Unimplemented"
  | .internal => "Internal"
  | .unavailable => "Unavailable"

end Code

/-- How a failed call ended. -/
structure Status where
  code : Code
  message : String
deriving Repr

namespace Status

/-- Causes and the codes they give, in the order they are tried. -/
def codes : List (List Cause × Code) :=
  [([.levelNotFound, .locationNotFound, .transferNotFound, .sourceNotFound, .productNotFound], .notFound),
   ([.locationExists], .alreadyExists),
   ([.insufficient, .transferStatus, .sourceDisabled], .failedPrecondition),
   ([.nonPositive, .transferInvalid, .changeInvalid], .invalidArgument),
   ([.lock], .unavailable),
   ([.cancelled], .canceled),
   ([.deadlineExceeded], .deadlineExceeded)]

/-- The status a ledger failure ends a call with. -/
def ofFailure (e : Failure) : Status :=
  let code := match codes.find? (fun (cs, _) => cs.any e.carries) with
    | some (_, c) => c
    | none => .internal
  ⟨code, e.message⟩

/-- A request field that must be given. -/
def required (field : String) : Status := ⟨.invalidArgument, field ++ " is required"⟩

/-- A request that could not be read into its record. -/
def unreadable (message : String) : Status := ⟨.invalidArgument, message⟩

end Status

end StockLedger
