/-
StripeTransfer/Command/Form.lean

The forms of commands: the options and the free words that a command takes, and
how the value of each is read.

A `Parameter` knows the type of its value.  The form of a command lists its
parameters as `Item`s, which keep no more than the check of a value, so that a
command line is read without knowing the types; a parameter then picks its own
value out of what was read.
-/
import StripeTransfer.Number.ByteSize
import StripeTransfer.Upload.Source

namespace StripeTransfer

open Text

/-! ### Values -/

/-- Why a value is refused. -/
inductive ValueError where
  | count (e : CountError)
  | size (e : ByteSize.Error)
  | choice (e : Refusal)
  | source (e : UploadRefusal)
  /-- The option has a value already. -/
  | repeated
  deriving Repr, DecidableEq

/-- The message of a refused value. -/
def ValueError.message : ValueError → String
  | .count e => e.message
  | .size e => e.message
  | .choice e => (TransferError.refused e).message
  | .source e => (UploadError.refused e).message
  | .repeated => "duplicate values provided"

/-- Reads the text of a value. -/
abbrev ValueReader (α : Type) : Type := String → Except ValueError α

namespace ValueReader

/-- Any text. -/
def text : ValueReader String := fun s => .ok s

/-- A count of 32 bits. -/
def count : ValueReader Nat := fun s => (readCount max32 s.toList).mapError .count

/-- A size in bytes. -/
def size : ValueReader Nat := fun s => (ByteSize.parse s).mapError .size

/-- The name of a strategy. -/
def strategy : ValueReader Strategy := fun s => (Strategy.ofName s).mapError .choice

/-- The name of a policy on flushing. -/
def sync : ValueReader SyncPolicy := fun s => (SyncPolicy.ofName s).mapError .choice

/-- The name of a source mode. -/
def source : ValueReader SourceMode := fun s => (SourceMode.ofName s).mapError .source

end ValueReader

/-! ### Parameters -/

/-- A named value of a command. -/
structure Parameter (α : Type) where
  name : String
  /-- The letter that may stand for the name of an option. -/
  letter : Option Char
  about : String
  read : ValueReader α

/-- An option that takes no value. -/
structure Switch where
  name : String
  letter : Char
  about : String

/-- An option or a free word of a form. -/
structure Item where
  name : String
  letter : Option Char
  about : String
  required : Bool
  /-- Checks a value; switches take none. -/
  check : Option (String → Except ValueError Unit)

namespace Parameter

variable {α : Type}

/-- A parameter as an item of a form. -/
def item (p : Parameter α) (required : Bool) : Item :=
  ⟨p.name, p.letter, p.about, required, some fun s => (p.read s).map fun _ => ()⟩

/-- A parameter that has to be given. -/
def required (p : Parameter α) : Item := p.item true

/-- A parameter that may be left out. -/
def optional (p : Parameter α) : Item := p.item false

end Parameter

/-- A switch as an item of a form. -/
def Switch.item (s : Switch) : Item := ⟨s.name, some s.letter, s.about, false, none⟩

namespace Item

/-- The long form of an option. -/
def long (i : Item) : String := "--" ++ i.name

/-- The short form of an option. -/
def short? (i : Item) : Option String := i.letter.map fun c => "-" ++ c.toString

/-- Whether a word is one of the forms of an option. -/
def isNamedBy (i : Item) (word : String) : Bool := word == i.long || some word == i.short?

end Item

/-! ### Matches -/

/-- What the words of a command line say. -/
structure Matches where
  /-- The texts of options and free words by name, the latest one first. -/
  texts : List (String × String)
  /-- The names of the switches that are set. -/
  switches : List String
  /-- Whether help is asked for. -/
  help : Bool
  deriving Repr, DecidableEq

namespace Matches

/-- Nothing read yet. -/
def empty : Matches := ⟨[], [], false⟩

/-- The matches with one more text. -/
def give (m : Matches) (name text : String) : Matches := { m with texts := (name, text) :: m.texts }

/-- The matches with a switch set. -/
def turnOn (m : Matches) (name : String) : Matches := { m with switches := name :: m.switches }

/-- Whether a parameter has a text. -/
def has (m : Matches) (name : String) : Bool := (m.texts.lookup name).isSome

/-- The value of a parameter, if it is given. -/
def value? {α : Type} (m : Matches) (p : Parameter α) : Option α :=
  (m.texts.lookup p.name).bind fun text => (p.read text).toOption

/-- The value of a parameter that the form demands. -/
def demanded {α : Type} [Inhabited α] (m : Matches) (p : Parameter α) : α :=
  (m.value? p).getD default

/-- Whether a switch is set. -/
def isOn (m : Matches) (s : Switch) : Bool := m.switches.contains s.name

end Matches

/-! ### Forms -/

/-- The form of a command that is an `α`. -/
structure CommandForm (α : Type) where
  name : String
  about : String
  /-- The free words, in their order. -/
  words : List Item
  options : List Item
  /-- The command, from what its words say. -/
  ofMatches : Matches → α

/-- The form of a command that is part of a larger type. -/
def CommandForm.map {α β : Type} (g : α → β) (f : CommandForm α) : CommandForm β :=
  { f with ofMatches := fun m => g (f.ofMatches m) }

/-- The form of a program with several commands. -/
structure ProgramForm (α : Type) where
  name : String
  about : String
  options : List Item
  commands : List (CommandForm α)

/-- The words that ask for help. -/
def helpWords : List String := ["--help", "help"]

end StripeTransfer
