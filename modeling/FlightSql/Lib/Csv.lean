/-
  The reader of CPython's `csv` module, `excel` dialect, `strict=True`.

  A record is read by a state machine over the characters of a line, with an end-of-line mark (`none`)
  fed after the last of them; a record goes on over as many lines as its quoted fields need.  Lines
  are those of `io.StringIO`: split after `\n`, which stays part of its line.

  A field is opened by a quote only at its very start, `""` inside quotes is a quote, and in strict
  mode anything but a delimiter or the end of the line after a closing quote is an error, as is the
  end of the data inside quotes.

  Mathlib-free.
-/

set_option linter.unusedVariables false

namespace FlightSql.Lib.Csv

/-- The states of the reader. -/
inductive State where
  | startRecord | startField | inField | inQuotedField | quoteInQuotedField | eatCrnl
  deriving DecidableEq

/-- **The reader inside a record**: its state, the field being read, the fields saved. -/
structure Reader where
  state : State
  field : List Char
  fields : List String

namespace Reader

/-- `parse_reset`. -/
def init : Reader := ⟨.startRecord, [], []⟩

/-- `field_limit`. -/
def fieldLimit : Nat := 131072

/-- `parse_save_field`, going to `state`. -/
def saveField (r : Reader) (state : State) : Reader :=
  ⟨state, [], r.fields ++ [String.ofList r.field]⟩

/-- `parse_add_char`, going to `state`. -/
def addChar (r : Reader) (c : Char) (state : State) : Except String Reader :=
  if fieldLimit ≤ r.field.length then
    .error ("field larger than field limit (" ++ toString fieldLimit ++ ")")
  else .ok { r with state := state, field := r.field ++ [c] }

/-- A character, or the end-of-line mark, where a field may start. -/
def startField (r : Reader) : Option Char → Except String Reader
  | none => .ok (r.saveField .startRecord)
  | some c =>
    if c = '\n' ∨ c = '\r' then .ok (r.saveField .eatCrnl)
    else if c = '"' then .ok { r with state := .inQuotedField }
    else if c = ',' then .ok (r.saveField .startField)
    else r.addChar c .inField

/-- `parse_process_char`. -/
def processChar (r : Reader) (c : Option Char) : Except String Reader :=
  match r.state with
  | .startRecord =>
    if c = none then .ok r
    else if c = some '\n' ∨ c = some '\r' then .ok { r with state := .eatCrnl }
    else r.startField c
  | .startField => r.startField c
  | .inField =>
    match c with
    | none => .ok (r.saveField .startRecord)
    | some c =>
      if c = '\n' ∨ c = '\r' then .ok (r.saveField .eatCrnl)
      else if c = ',' then .ok (r.saveField .startField)
      else r.addChar c .inField
  | .inQuotedField =>
    match c with
    | none => .ok r
    | some c =>
      if c = '"' then .ok { r with state := .quoteInQuotedField }
      else r.addChar c .inQuotedField
  | .quoteInQuotedField =>
    match c with
    | none => .ok (r.saveField .startRecord)
    | some c =>
      if c = '"' then r.addChar c .inQuotedField
      else if c = ',' then .ok (r.saveField .startField)
      else if c = '\n' ∨ c = '\r' then .ok (r.saveField .eatCrnl)
      else .error "',' expected after '\"'"
  | .eatCrnl =>
    match c with
    | none => .ok { r with state := .startRecord }
    | some c =>
      if c = '\n' ∨ c = '\r' then .ok r
      else
        .error "new-line character seen in unquoted field - do you need to open the file with newline=''?"

/-- One line, and the mark after it. -/
def readLine (r : Reader) (line : List Char) : Except String Reader := do
  let r ← line.foldlM (fun r c => r.processChar (some c)) r
  r.processChar none

end Reader

/-- The lines of a text, each with the `\n` that ends it. -/
def lines : List Char → List (List Char)
  | [] => []
  | c :: cs =>
    if c = '\n' then [c] :: lines cs
    else
      match lines cs with
      | [] => [[c]]
      | line :: rest => (c :: line) :: rest

/-- The records of the lines, the first of them continuing the record `r` is inside. -/
def records (r : Reader) : List (List Char) → Except String (List (List String))
  | [] =>
    if r.field ≠ [] ∨ r.state = .inQuotedField then .error "unexpected end of data" else .ok []
  | line :: rest => do
    let r ← r.readLine line
    if r.state = .startRecord then
      let rows ← records .init rest
      .ok (r.fields :: rows)
    else records r rest

/-- **`list(csv.reader(io.StringIO(text), strict=True))`**. -/
def reader (text : String) : Except String (List (List String)) :=
  records .init (lines text.toList)

example : (reader "a,\"b,\"\"c\"\"\",\n\nd\n").toOption =
    some [["a", "b,\"c\"", ""], [], ["d"]] := by decide +kernel

end FlightSql.Lib.Csv
