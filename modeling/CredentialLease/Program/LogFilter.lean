import CredentialLease.Number.Digits
import CredentialLease.Text.Alphanumeric
import CredentialLease.Text.Blank
import CredentialLease.Text.Pieces
import CredentialLease.World

/-!
# Which log lines are written

A filter is a list of directives separated by commas. A directive is a level, the name of a part
of the program, or both around an equals sign; a name alone stands for the most detailed level. In
brackets behind the name, a directive can ask for something that a line tells, or for a span; the
program is never in one. A line is written when the most specific directive about it lets its
level through: the one with the longest name that begins the name of its source, and among those
one that asks for something the line tells.
-/

namespace CredentialLease

/-- A directive: a level for the parts of the program whose names begin with a text. -/
structure LogDirective where
  start : String
  /-- What lines must tell for the directive to be about them. -/
  asked : Option String
  /-- From 0 for no lines to 5 for all of them. -/
  verbosity : Nat
deriving DecidableEq, Inhabited

/-- Which log lines are written. -/
abbrev LogFilter := List LogDirective

/-- The verbosity from which on lines of a level are written. -/
def LogLevel.verbosity : LogLevel → Nat
  | error => 1
  | warn => 2
  | info => 3

namespace LogFilter

/-! ### Reading -/

/-- The names of the levels, from the least verbose on. -/
def levelNames : List String := ["off", "error", "warn", "info", "debug", "trace"]

/-- The verbosity that a text names: a level in any letter case, or a number up to 5. -/
def parseLevel (text : String) : Option Nat :=
  match Number.parseUnsigned 64 text.toList with
  | some n => if n ≤ 5 then some n else none
  | none =>
    if text = "" then some 1
    else
      let lower := String.ofList (text.toList.map Char.toLower)
      (List.range levelNames.length).find? fun n => levelNames.getD n "" = lower

/-- Whether a directive can begin with the name of a part of the program or a level that begins
with a character. -/
def beginsName (c : Char) : Bool :=
  Text.isAlphanumeric c || c == '-' || c == ':' || c == '_'

/-- The verbosity that a directive names in the text after its equals sign, where no text stands
for the most detailed level. -/
def directiveLevel (level : List Char) : Option Nat :=
  if level = [] then some 5 else parseLevel (String.ofList level)

/-- What a directive asks for in brackets. -/
inductive Condition where
  /-- That a line tells something of a name. -/
  | tells (name : String)
  /-- Something that holds of no line of the program, which is never in a span. -/
  | spans
deriving DecidableEq

/-- The condition behind an opening bracket, and what comes after the closing one: the name of a
span, and what the span tells in braces, which may have a value. -/
def parseCondition (text : List Char) : Option (Condition × List Char) :=
  let isName (c : Char) : Bool := c ≠ ']' ∧ c ≠ '\x7b'
  match text.dropWhile isName with
  | ']' :: rest => some (.spans, rest)
  | _ :: inner =>
    let told := inner.takeWhile (· ≠ '\x7d')
    match inner.dropWhile (· ≠ '\x7d') with
    | _ :: ']' :: rest =>
      if told = [] then none
      else if text.takeWhile isName = [] ∧ '=' ∉ told then
        some (.tells (String.ofList told), rest)
      else some (.spans, rest)
    | _ => none
  | [] => none

/-- The directive that begins with a name and goes on with a condition or a level; none for one
that concerns no line of the program. One that is padded with white space cannot name a level, and
what it asks for is never told. -/
def parseRest (padded : Bool) (name text : List Char) : Option (Option LogDirective) := do
  let (condition, rest) ← match text with
    | '[' :: inner => (parseCondition inner).map fun (condition, rest) => (some condition, rest)
    | rest => some (none, rest)
  let verbosity ← match rest with
    | '=' :: level => if padded then none else directiveLevel level
    | _ => if Text.trim rest = [] then some 5 else none
  match condition with
  | none => some (some ⟨String.ofList name, none, verbosity⟩)
  | some (.tells told) =>
    some (if padded then none else some ⟨String.ofList name, some told, verbosity⟩)
  | some .spans => some none

/-- The directive of a text; none for one that concerns no line of the program. A level is one only
without white space around it. -/
def parseDirective (text : List Char) : Option (Option LogDirective) :=
  let flush := Text.trimStart text
  let isName (c : Char) : Bool := c ≠ '=' ∧ c ≠ '['
  match flush with
  | [] => none
  | first :: _ =>
    if first ≠ '[' ∧ !beginsName first then none
    else if flush.all isName then
      match parseLevel (String.ofList text) with
      | some verbosity => some (some ⟨"", none, verbosity⟩)
      | none => some (some ⟨String.ofList text, none, 5⟩)
    else parseRest (flush ≠ text) (flush.takeWhile isName) (flush.dropWhile isName)

/-- The pieces of a text between its commas, without empty ones. -/
def pieces (text : List Char) : List (List Char) := (Text.splitOn ',' text).filter (· ≠ [])

/-- The filter of a text. A text without directives lets errors through. -/
def parse (text : String) : Option LogFilter := do
  let directives ← (pieces text.toList).mapM parseDirective
  return if directives.isEmpty then [⟨"", none, 1⟩] else directives.filterMap id

/-- The filter of a text, or the one that lets informative lines through. -/
def ofText (text : String) : LogFilter := (parse text).getD [⟨"", none, 3⟩]

/-! ### Filtering -/

/-- Whether a directive is about a line. -/
def concerns (directive : LogDirective) (line : LogLine) : Bool :=
  directive.start.toList.isPrefixOf line.source.name.toList && directive.asked.all line.tells

/-- Whether a directive is at least as specific as another about the same line: its name is longer,
or it alone asks for something, or what it asks for comes no earlier in the alphabet. -/
def isAsSpecific (directive other : LogDirective) : Bool :=
  other.start.length < directive.start.length ||
    (other.start.length = directive.start.length &&
      match other.asked, directive.asked with
      | none, _ => true
      | some _, none => false
      | some a, some b => a ≤ b)

/-- The directive that decides about a line: of the most specific ones the last. -/
def deciding (filter : LogFilter) (line : LogLine) : Option LogDirective :=
  (filter.filter (concerns · line)).foldl (fun best directive =>
    match best with
    | some other => if isAsSpecific directive other then some directive else best
    | none => some directive) none

/-- Whether a line is written. -/
def allows (filter : LogFilter) (line : LogLine) : Bool :=
  match filter.deciding line with
  | some directive => line.level.verbosity ≤ directive.verbosity
  | none => false

end LogFilter

end CredentialLease
