/-
StripeTransfer/Log/Filter.lean

Which events are logged, by the place they come from.  A filter is a list of
directives between commas; a directive names a target, a span in brackets with
fields in braces, and a level:

    target[span{field=value}]=level

Every part may be absent.  A filter keeps its directives from the most specific
one to the least: longer targets first, and of two directives for the same place
only the later one.  Directives that name a span, or the value of a field, are
looked at while the program runs and are listed behind all others.
-/
import StripeTransfer.Log.Level
import StripeTransfer.Number.Decimal
import StripeTransfer.Text.Blank
import StripeTransfer.Text.WordChar

namespace StripeTransfer

open Text

/-! ### Directives -/

/-- A field that a directive asks for, with the text of its value if it asks for one. -/
structure FieldMatch where
  name : List Char
  value : Option (List Char)
  deriving Repr, DecidableEq

/-- One directive of a filter. -/
structure LogDirective where
  target : Option (List Char)
  span : Option (List Char)
  fields : List FieldMatch
  level : LogLevel
  deriving Repr, DecidableEq

/-- Why a directive is passed over. -/
inductive DirectiveError where
  | malformed
  | level
  deriving Repr, DecidableEq

/-- The message of a directive that is passed over. -/
def DirectiveError.message : DirectiveError → String
  | .malformed => "invalid filter directive"
  | .level => LogLevel.refusal

namespace FieldMatch

/-- The value of a field as it is written back: numbers in their shortest form. -/
def normalValue (s : List Char) : List Char :=
  match int64? s with
  | some n => (toString n).toList
  | none =>
    match count? max64 s with
    | some n => (toString n).toList
    | none => s

/-- Reads a field; what follows a second equals sign is passed over. -/
def ofChars (s : List Char) : FieldMatch :=
  match pieces '=' s with
  | name :: value :: _ => ⟨name, some (normalValue value)⟩
  | _ => ⟨s, none⟩

/-- The text of a field. -/
def text (f : FieldMatch) : List Char :=
  match f.value with
  | some v => f.name ++ '=' :: v
  | none => f.name

end FieldMatch

namespace LogDirective

/-- A directive that says nothing but that everything is logged. -/
def blank : LogDirective := ⟨none, none, [], .trace⟩

/-- What is being read while a directive is read, from left to right. -/
inductive Reading where
  | start
  | levelOrTarget
  | span (from_ : Nat)
  | field (from_ : Nat)
  | fields
  | target
  | level (from_ : Nat)
  deriving Repr, DecidableEq

/-- Whether a directive without a target may start with `c`. -/
def startsTarget (c : Char) : Bool := c == '-' || c == ':' || isWordChar c

/-- The characters of `s` from one place up to another. -/
def between (s : List Char) (start stop : Nat) : List Char := (s.take stop).drop start

/-- One step of reading the directive `s`: the character `c` stands at place `i`. -/
def step (s : List Char) (i : Nat) (c : Char) (state : Reading) (d : LogDirective) :
    Except DirectiveError (Reading × LogDirective) :=
  match state, c with
  | .start, '[' => .ok (.span (i + 1), d)
  | .start, c => if startsTarget c then .ok (.levelOrTarget, d) else .error .malformed
  | .levelOrTarget, '=' => .ok (.level (i + 1), { d with target := some (between s 0 i) })
  | .levelOrTarget, '[' => .ok (.span (i + 1), { d with target := some (between s 0 i) })
  | .levelOrTarget, _ => .ok (.levelOrTarget, d)
  | .target, '=' => .ok (.level (i + 1), d)
  | .span from_, ']' => .ok (.target, { d with span := some (between s from_ i) })
  | .span from_, '\x7b' =>
    let name := between s from_ i
    .ok (.field (i + 1), { d with span := if name.isEmpty then none else some name })
  | .span from_, _ => .ok (.span from_, d)
  | .field from_, '\x7d' =>
    let field := between s from_ i
    if field.isEmpty then .error .malformed
    else .ok (.fields, { d with fields := d.fields ++ [FieldMatch.ofChars field] })
  | .field from_, _ => .ok (.field from_, d)
  | .fields, ']' => .ok (.target, d)
  | .level from_, _ => .ok (.level from_, d)
  | _, _ => .error .malformed

/-- Reads the characters of a directive from place `i` on. -/
def readFrom (s : List Char) (i : Nat) (state : Reading) (d : LogDirective) :
    List Char → Except DirectiveError (Reading × LogDirective)
  | [] => .ok (state, d)
  | c :: rest =>
    match step s i c state d with
    | .error e => .error e
    | .ok (state, d) => readFrom s (i + 1) state d rest

/-- Reads a directive.  Blanks around it are not looked at, but stay part of a target. -/
def ofChars (s : List Char) : Except DirectiveError LogDirective :=
  match readFrom s 0 .start blank (trim s) with
  | .error e => .error e
  | .ok (.levelOrTarget, d) =>
    match LogLevel.ofText? (String.ofList s) with
    | some l => .ok { d with level := l }
    | none => .ok { d with target := some s }
  | .ok (.level from_, d) =>
    match s.drop from_ with
    | [] => .ok d
    | rest =>
      match LogLevel.ofText? (String.ofList rest) with
      | some l => .ok { d with level := l }
      | none => .error .level
  | .ok (.target, d) => .ok d
  | .ok _ => .error .malformed

/-- Whether the directive can only be decided while the program runs. -/
def isDynamic (d : LogDirective) : Bool := d.span.isSome || !d.fields.isEmpty

/-- Whether the directive can be decided beforehand. -/
def isStatic (d : LogDirective) : Bool := d.span.isNone && d.fields.all fun f => f.value.isNone

/-- Where a directive stands among others, as a tuple to compare. -/
def place (d : LogDirective) : List Nat :=
  [(d.target.map fun t => (String.ofList t).utf8ByteSize + 1).getD 0, if d.span.isSome then 1 else 0,
    d.fields.length]

/-- Which of two equally specific directives comes later in the alphabet. -/
def words (d : LogDirective) : List String :=
  let shown (s : Option (List Char)) : String := (s.map fun cs => "+" ++ String.ofList cs).getD ""
  [shown d.target, shown d.span] ++ d.fields.map fun f => String.ofList f.text

/-- Whether a directive comes before another one. -/
def before (d e : LogDirective) : Bool :=
  e.place < d.place || (e.place == d.place && e.words < d.words)

/-- Whether two directives are for the same place. -/
def samePlace (d e : LogDirective) : Bool := d.place == e.place && d.words == e.words

/-- The text of a directive. -/
def text (d : LogDirective) : String :=
  let fields := if d.fields.isEmpty then []
    else '\x7b' :: (List.intercalate [','] (d.fields.map FieldMatch.text) ++ ['\x7d'])
  let span := if d.isDynamic then '[' :: (d.span.getD [] ++ fields ++ [']']) else []
  let place := d.target.getD [] ++ span
  let separator := if d.target.isSome || d.isDynamic then "=" else ""
  String.ofList place ++ separator ++ d.level.name

end LogDirective

/-! ### Filters -/

/-- A filter: its directives from the most specific one on. -/
structure LogFilter where
  statics : List LogDirective
  dynamics : List LogDirective
  deriving Repr, DecidableEq

namespace LogFilter

/-- Puts a directive in its place; an earlier one for the same place gives way. -/
def insert (d : LogDirective) : List LogDirective → List LogDirective
  | [] => [d]
  | e :: rest =>
    if d.samePlace e then d :: rest
    else if d.before e then d :: e :: rest
    else e :: insert d rest

/-- Directives in their order. -/
def ordered (ds : List LogDirective) : List LogDirective := ds.foldl (fun acc d => insert d acc) []

/-- What each directive of a text is read as. -/
def readings (s : String) : List (String × Except DirectiveError LogDirective) :=
  ((pieces ',' s.toList).filter fun p => !p.isEmpty).map fun p =>
    (String.ofList p, LogDirective.ofChars p)

/-- The filter of a text.  Directives that cannot be read are passed over; if none is left, errors
are logged. -/
def ofText (s : String) : LogFilter :=
  let ds := (readings s).filterMap fun r => r.2.toOption
  let (dynamics, plain) := ds.partition LogDirective.isDynamic
  let statics := plain ++ dynamics.filter LogDirective.isStatic
  if statics.isEmpty && dynamics.isEmpty then ⟨[{ LogDirective.blank with level := .error }], []⟩
  else ⟨ordered statics, ordered dynamics⟩

/-- The text of a filter. -/
def text (f : LogFilter) : String :=
  String.intercalate "," ((f.statics ++ f.dynamics).map LogDirective.text)

/-- What is logged unless the environment says otherwise: everything from the program's own parts,
and what is worth knowing from all others. -/
def usual : String :=
  "INFO,stripebench_cli=TRACE,stripebench_io=TRACE,stripebench_upload=TRACE,"

/-- The level and the filter, by the configured level and a text from the environment.  A plain
level replaces the configured one; any other text is the filter itself. -/
def resolve (configured : LogLevel) : Option String → LogLevel × LogFilter
  | none => (configured, ofText usual)
  | some s =>
    match LogLevel.ofText? s with
    | some level => (level, ofText usual)
    | none => (.trace, ofText s)

end LogFilter

end StripeTransfer
