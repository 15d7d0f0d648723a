/-
StripeTransfer/Transfer/Strategy.lean

The choices of a transfer: how bytes are moved, in which direction, and when
written data are flushed.  Each choice has a name that is read in any letter case
and printed in lower case.
-/
import StripeTransfer.Text.Ascii

namespace StripeTransfer

open Text

/-- How a worker moves the bytes of its span. -/
inductive Strategy where
  /-- Through a buffered stream positioned by one seek. -/
  | buffered
  /-- By positioned calls. -/
  | unbuffered
  /-- By mapping the span and copying. -/
  | mapped
  deriving Repr, DecidableEq, Inhabited

namespace Strategy

/-- The name of a strategy. -/
def name : Strategy → String
  | buffered => "buffered"
  | unbuffered => "unbuffered"
  | mapped => "mmap"

/-- All strategies. -/
def all : List Strategy := [buffered, unbuffered, mapped]

/-- The strategy of a name. -/
def ofName? (s : String) : Option Strategy := all.find? fun x => sameIgnoringCase x.name s

/-- Whether the spans of a plan have to start on pages. -/
def needsPages (s : Strategy) : Bool := s == mapped

end Strategy

/-- The direction of a transfer. -/
inductive Mode where
  | read
  | write
  deriving Repr, DecidableEq, Inhabited

/-- When written data are flushed to stable storage. -/
inductive SyncPolicy where
  /-- Once all workers are done. -/
  | atEnd
  /-- By every worker for its own span. -/
  | worker
  /-- Never. -/
  | never
  deriving Repr, DecidableEq, Inhabited

namespace SyncPolicy

/-- The name of a policy. -/
def name : SyncPolicy → String
  | atEnd => "end"
  | worker => "worker"
  | never => "none"

/-- All policies. -/
def all : List SyncPolicy := [atEnd, worker, never]

/-- The policy of a name. -/
def ofName? (s : String) : Option SyncPolicy := all.find? fun x => sameIgnoringCase x.name s

end SyncPolicy

end StripeTransfer
