/-
StripeTransfer/Command/Words.lean

Reading the words of a command line by a form.  A word that starts with a hyphen
is an option, up to two hyphens that stand alone; an option that takes a value
takes the next word, whatever that is.  All other words are free.  The first
free word that names a command of the program hands over to that command, with
the words that are left.
-/
import StripeTransfer.Command.Form

namespace StripeTransfer

/-! ### Errors -/

/-- Why a command line cannot be read. -/
inductive UsageError where
  /-- An option follows a word that asks for help. -/
  | optionAfterHelp
  | unrecognized (word : String)
  | noValue (option : String)
  | badOption (option value : String) (e : ValueError)
  | badWord (name value : String) (e : ValueError)
  /-- Free words and options that have to be given are not. -/
  | missing (words options : List String)
  | noCommand (names : List String)
  deriving Repr, DecidableEq

namespace UsageError

/-- A title, and one line for each entry below it. -/
def listing (title : String) (entries : List String) : String :=
  title ++ ":" ++ String.join (entries.map fun e => "\n    " ++ e)

/-- The listing, unless it has no entries. -/
def listing? (title : String) (entries : List String) : Option String :=
  if entries.isEmpty then none else some (listing title entries)

/-- The message of a command line that cannot be read. -/
def message : UsageError → String
  | optionAfterHelp => "Trailing arguments are not allowed after `help`."
  | unrecognized word => s!"Unrecognized argument: {word}\n"
  | noValue option => s!"No value provided for option '{option}'.\n"
  | badOption option value e =>
    s!"Error parsing option '{option}' with value '{value}': {e.message}\n"
  | badWord name value e =>
    s!"Error parsing positional argument '{name}' with value '{value}': {e.message}\n"
  | missing words options =>
    let words := listing? "Required positional arguments not provided" words
    let options := listing? "Required options not provided" options
    String.intercalate "\n" (words.toList ++ options.toList) ++ "\n"
  | noCommand names => listing "One of the following subcommands must be present" names ++ "\n"

end UsageError

/-! ### Reading -/

/-- What a free word is: the name of a command, a value, or too much. -/
inductive FreeWord where
  | command
  | value (item : Item)
  | surplus

/-- What the next free word is, if `free` are the free words still to come. -/
def FreeWord.of (commands : List String) (free : List Item) (word : String) : FreeWord :=
  if commands.contains word then command
  else
    match free with
    | item :: _ => value item
    | [] => surplus

/-- Checks a value against an item. -/
def Item.accepts (i : Item) (value : String) : Except ValueError Unit :=
  match i.check with
  | some check => check value
  | none => .ok ()

/-- Reads words up to the name of a command, which is given back with the words behind it.  `ended`
says that no more options are read. -/
def readWords (options : List Item) (commands : List String) (free : List Item) (ended : Bool)
    (m : Matches) : List String → Except UsageError (Matches × Option (String × List String))
  | [] => .ok (m, none)
  | word :: rest =>
    if !ended && helpWords.contains word then
      readWords options commands free ended { m with help := true } rest
    else if !ended && word.startsWith "-" then
      if word == "--" then readWords options commands free true m rest
      else if m.help then .error .optionAfterHelp
      else
        match options.find? fun i => i.isNamedBy word with
        | none => .error (.unrecognized word)
        | some item =>
          match item.check, rest with
          | none, rest => readWords options commands free ended (m.turnOn item.name) rest
          | some _, [] => .error (.noValue word)
          | some check, value :: rest =>
            match if m.has item.name then .error .repeated else check value with
            | .error e => .error (.badOption word value e)
            | .ok () => readWords options commands free ended (m.give item.name value) rest
    else
      match FreeWord.of commands free word with
      | .command => .ok (m, some (word, rest))
      | .surplus => .error (.unrecognized word)
      | .value item =>
        match item.accepts word with
        | .error e => .error (.badWord item.name word e)
        | .ok () => readWords options commands free.tail ended (m.give item.name word) rest

namespace CommandForm

variable {α : Type}

/-- Refuses matches that lack something the form demands. -/
def demand (f : CommandForm α) (m : Matches) : Except UsageError Unit :=
  let lacking (items : List Item) : List Item := items.filter fun i => i.required && !m.has i.name
  match lacking f.words, lacking f.options with
  | [], [] => .ok ()
  | words, options => .error (.missing (words.map Item.name) (options.map Item.long))

/-- Reads the words of a command; gives nothing if they ask for help. -/
def read (f : CommandForm α) (words : List String) : Except UsageError (Option α) := do
  let (m, _) ← readWords f.options [] f.words false .empty words
  if m.help then return none
  f.demand m
  return some (f.ofMatches m)

end CommandForm

/-- What a command line asks for. -/
inductive Asked (α : Type) where
  /-- Help on the program. -/
  | help
  /-- Help on a command. -/
  | commandHelp (form : CommandForm α)
  /-- To carry out a command, with what the options of the program say. -/
  | command (program : Matches) (command : α)

/-- Reads the words of a command line. -/
def ProgramForm.read {α : Type} (f : ProgramForm α) (words : List String) :
    Except UsageError (Asked α) := do
  let names := f.commands.map CommandForm.name
  let (m, named) ← readWords f.options names [] false .empty words
  match named.bind fun (name, rest) => (f.commands.find? (·.name == name)).map (·, rest) with
  | some (form, rest) =>
    match ← form.read (if m.help then "help" :: rest else rest) with
    | none => return .commandHelp form
    | some command => return .command m command
  | none =>
    if m.help then return .help
    throw (.noCommand ("help" :: names))

end StripeTransfer
