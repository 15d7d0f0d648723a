/-
StripeTransfer/Command/Help.lean

The help on a form: how a command line is put together, what it is for, and what
each of its parts means.  Meanings stand in a column of their own and are
wrapped at the right margin.
-/
import StripeTransfer.Command.Form
import StripeTransfer.Text.Blank

namespace StripeTransfer

open Text

namespace Help

/-! ### Columns -/

/-- The column in which meanings start. -/
def column : Nat := 20

/-- The number of characters that fit on a line. -/
def width : Nat := 80

/-- As many blanks. -/
def blanks (n : Nat) : String := String.ofList (List.replicate n ' ')

/-- Puts words behind the line that is open; a word that does not fit starts a line of its own. -/
def wrap (line : String) : List String → List String
  | [] => [line]
  | word :: rest =>
    if width < line.length + word.length + 1 then line :: wrap (blanks column ++ word) rest
    else wrap (line ++ " " ++ word) rest

/-- The lines on one part: its label, and its meaning in the next column. -/
def entry (label about : String) : List String :=
  let lead := "  " ++ label
  match (pieces ' ' about.toList).map String.ofList with
  | [] => [lead]
  | word :: rest =>
    if lead.length < column then wrap (lead ++ blanks (column - lead.length) ++ word) rest
    else lead :: wrap (blanks column ++ word) rest

/-- Entries under a title; nothing if there are none. -/
def listing (title : String) (entries : List (String × String)) : String :=
  let lines := entries.flatMap fun e => entry e.1 e.2
  if entries.isEmpty then "" else s!"\n\n{title}:" ++ String.join (lines.map fun l => "\n" ++ l)

/-! ### Parts -/

/-- The label of an option: its short form, if there is one, and its long form. -/
def label (i : Item) : String :=
  match i.short? with
  | some short => short ++ ", " ++ i.long
  | none => i.long

/-- An option as it stands in a command line. -/
def optionUsage (i : Item) : String :=
  let value := if i.check.isSome then s!" <{i.name}>" else ""
  let written := i.short?.getD i.long ++ value
  if i.required then written else s!"[{written}]"

/-- The sections on free words and options. -/
def sections (words options : List Item) : String :=
  let help := ("--help, help", "display usage information")
  listing "Positional Arguments" (words.map fun i => (i.name, i.about)) ++
    listing "Options" (options.map (fun i => (label i, i.about)) ++ [help])

/-- The help on something that is called by the words of `usage`. -/
def page (usage : List String) (about sections : String) : String :=
  let call := String.intercalate " " usage
  s!"Usage: {call}\n\n{about}{sections}\n"

end Help

/-- The help on a command of a program. -/
def CommandForm.help {α : Type} (f : CommandForm α) (program : String) : String :=
  let free := if f.words.isEmpty then [] else "[--]" :: f.words.map fun i => s!"<{i.name}>"
  Help.page ([program, f.name] ++ f.options.map Help.optionUsage ++ free) f.about
    (Help.sections f.words f.options)

/-- The help on a program. -/
def ProgramForm.help {α : Type} (f : ProgramForm α) : String :=
  Help.page ([f.name] ++ f.options.map Help.optionUsage ++ ["<command>", "[<args>]"]) f.about
    (Help.sections [] f.options ++
      Help.listing "Commands" (f.commands.map fun c => (c.name, c.about)))

end StripeTransfer
