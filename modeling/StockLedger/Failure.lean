import StockLedger.Quantity

/-!
Why a ledger call failed. A failure is a tree: a cause callers can test for, a
shortfall of stock, plain text, a labelled wrapper around another failure, or several
failures joined. Its message writes wrappers as `label: inner` and joins parts with
line breaks; a failure carries a cause when any node of the tree is that cause.
-/

namespace StockLedger

/-- The causes a caller can test a failure for. -/
inductive Cause where
  | lock
  | locationNotFound
  | locationExists
  | levelNotFound
  | insufficient
  | nonPositive
  | transferNotFound
  | transferStatus
  | transferInvalid
  | sourceNotFound
  | sourceDisabled
  | productNotFound
  | changeInvalid
  | journalWrite
  | cancelled
  | deadlineExceeded
deriving DecidableEq, Repr

/-- The text each cause starts its message with. -/
def Cause.text : Cause → String
  | .lock => "failed to acquire lock"
  | .locationNotFound => "location not found"
  | .locationExists => "location already exists"
  | .levelNotFound => "inventory record not found"
  | .insufficient => "insufficient inventory"
  | .nonPositive => "quantity must be positive"
  | .transferNotFound => "transfer not found"
  | .transferStatus => "invalid transfer status"
  | .transferInvalid => "invalid transfer"
  | .sourceNotFound => "inventory source not found"
  | .sourceDisabled => "inventory source disabled"
  | .productNotFound => "product not found"
  | .changeInvalid => "invalid inventory change"
  | .journalWrite => "injected journal write failure"
  | .cancelled => "context canceled"
  | .deadlineExceeded => "context deadline exceeded"

/-- A failed call, as a tree of causes, wrappers and joins. -/
inductive Failure where
  /-- A cause, with the detail written after it. -/
  | cause (c : Cause) (detail : Option String)
  /-- A reservation asked for more than was available. -/
  | shortfall (product : String) (available requested : Int64)
  /-- A failure that carries no cause. -/
  | plain (text : String)
  /-- A failure wrapped with a label in front of its message. -/
  | context (label : String) (inner : Failure)
  /-- Several failures reported together. -/
  | joined (parts : List Failure)
deriving Repr

namespace Failure

/-- A cause followed by a detail. -/
def withDetail (c : Cause) (detail : String) : Failure := .cause c (some detail)

mutual
/-- The message of a failure. -/
def message : Failure → String
  | .cause c none => c.text
  | .cause c (some d) => c.text ++ ": " ++ d
  | .shortfall p a r =>
    "insufficient inventory for product " ++ p ++ ": available " ++ Quantity.text a ++
      ", requested " ++ Quantity.text r
  | .plain t => t
  | .context l e => l ++ ": " ++ message e
  | .joined ps => joinMessages ps

/-- Messages of joined failures, one per line. -/
def joinMessages : List Failure → String
  | [] => ""
  | [e] => message e
  | e :: rest => message e ++ "\n" ++ joinMessages rest
end

mutual
/-- Whether some node of the failure is the cause `c`. A shortfall is the cause
`insufficient`. -/
def carries (c : Cause) : Failure → Bool
  | .cause c' _ => c' == c
  | .shortfall _ _ _ => c == .insufficient
  | .plain _ => false
  | .context _ e => carries c e
  | .joined ps => carriesAny c ps

/-- Whether one of several failures carries the cause. -/
def carriesAny (c : Cause) : List Failure → Bool
  | [] => false
  | e :: rest => carries c e || carriesAny c rest
end

mutual
/-- The first shortfall in the tree, searching wrappers inward and joined parts in order. -/
def shortfall? : Failure → Option (String × Int64 × Int64)
  | .cause _ _ => none
  | .shortfall p a r => some (p, a, r)
  | .plain _ => none
  | .context _ e => shortfall? e
  | .joined ps => shortfallAny? ps

/-- The first shortfall among several failures. -/
def shortfallAny? : List Failure → Option (String × Int64 × Int64)
  | [] => none
  | e :: rest => (shortfall? e).or (shortfallAny? rest)
end

end Failure

end StockLedger
