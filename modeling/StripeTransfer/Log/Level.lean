/-
StripeTransfer/Log/Level.lean

How much is logged, and how it is laid out.  A level is read from its name in
any letter case or from its rank; the empty text stands for errors only.
-/
import StripeTransfer.Text.Ascii
import StripeTransfer.Text.Numeral

namespace StripeTransfer

open Text

/-- The least grave event that is logged. -/
inductive LogLevel where
  | off
  | error
  | warn
  | info
  | debug
  | trace
  deriving Repr, DecidableEq, Inhabited

namespace LogLevel

/-- All levels, the quietest first; the place of a level is its rank. -/
def all : List LogLevel := [off, error, warn, info, debug, trace]

/-- The name of a level. -/
def name : LogLevel → String
  | off => "off"
  | error => "error"
  | warn => "warn"
  | info => "info"
  | debug => "debug"
  | trace => "trace"

/-- The name of a level in capitals. -/
def capitals (l : LogLevel) : String := l.name.toUpper

/-- The level of a text. -/
def ofText? (s : String) : Option LogLevel :=
  match (count? max64 s.toList).bind fun rank => all[rank]? with
  | some l => some l
  | none => if s.isEmpty then some error else all.find? fun l => sameIgnoringCase l.name s

/-- What is said of a text that names no level. -/
def refusal : String :=
  "error parsing level filter: expected one of \"off\", \"error\", \"warn\", \"info\", \"debug\", " ++
    "\"trace\", or a number 0-5"

end LogLevel

/-- How logged events are laid out. -/
inductive LogFormat where
  /-- As suits the place that the log goes to. -/
  | auto
  | pretty
  | simplified
  | json
  deriving Repr, DecidableEq, Inhabited

namespace LogFormat

/-- All formats. -/
def all : List LogFormat := [auto, pretty, simplified, json]

/-- The name of a format. -/
def name : LogFormat → String
  | auto => "auto"
  | pretty => "pretty"
  | simplified => "simplified"
  | json => "json"

/-- The format of a text; the empty text leaves the choice open. -/
def ofText? (s : String) : Option LogFormat :=
  if s.isEmpty then some auto else all.find? fun f => sameIgnoringCase f.name s

/-- What is said of a text that names no format. -/
def refusal (s : String) : String :=
  s!"error parsing \"{s}\" as format: expected one of \"auto\", \"pretty\", \"simplified\", \"json\""

end LogFormat

end StripeTransfer
