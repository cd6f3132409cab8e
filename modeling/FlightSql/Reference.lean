/-
  A runtime and a server that run.

  `Runtime.reference` builds arrays of cells and reads them back; `Server.fixed` gives every command
  the same FlightInfo and every ticket the same reader at all times, and keeps the parameters of a
  statement with its one handle.  They show that what is assumed of PyArrow and of servers can be met,
  and let the driver run on concrete input.

  Mathlib-free.
-/
import FlightSql.Arrow.Reference
import FlightSql.Flight

set_option linter.unusedVariables false

namespace FlightSql

open Arrow Lib Lib.Wire

/-! ## The runtime -/

/-- The cell that holds a Python value. -/
def cellOf : PyValue → Atom
  | .int n => .int n
  | .bool b => .bool b
  | .float bits => .float bits
  | .str s => .str s
  | .bytes b => .bytes b
  | .decimal coefficient _ => .decimal coefficient
  | .none | .surrogates _ => default
  | .object _ identity _ => .foreign identity

/-- The Python value of a cell. -/
def pyOf : Value → PyValue
  | .atom (.int n) => .int n
  | .atom (.bool b) => .bool b
  | .atom (.float bits) => .float bits
  | .atom (.str s) => .str s
  | .atom (.bytes b) => .bytes b
  | .atom (.decimal n) => .decimal n 0
  | _ => .none

/-- Arrays of cells, whatever the values. -/
def ArrayBuilder.reference : ArrayBuilder where
  typeStr _ := "type"
  strRepr s := "'" ++ s ++ "'"
  array values type :=
    .ok ⟨type.getD (.scalar .null), .fixed ⟨0, values.length, none⟩ (values.map cellOf)⟩
  castSafe a type := .ok ⟨type, a.data⟩
  unionFromDense types offsets children :=
    .ok ⟨.union .dense .nil [],
      .denseUnion ⟨0, types.data.length, none⟩ none none (children.map ArrowArray.data)⟩
  array_length := by
    intro values type a h
    cases h
    rfl
  castSafe_length := by
    intro a type b h
    cases h
    rfl
  unionFromDense_length := by
    intro types offsets children u h
    cases h
    rfl

/-- **The reference runtime**: no bytes decode to a schema, only strings are stored as strings. -/
def Runtime.reference : Runtime where
  pa := PyArrow.reference
  asPy _ v := .ok (pyOf v)
  openStream _ := .error ⟨.arrow .invalid, "not an IPC stream"⟩
  readSchema _ := .error ⟨.arrow .invalid, "not an IPC schema"⟩
  protobufString
    | .str s => .ok s
    | v => .error ⟨.python .typeError, v.typeName ++ " is not a string"⟩
  builder := ArrayBuilder.reference
  protobufString_str _ := rfl

/-- The streams of one byte: `[0]` is broken, any other has one column, `id` for `[1]` and else `name`. -/
def openByte : PyValue → Except Exn Schema
  | .bytes [n] =>
    if n = 0 then .error ⟨.arrow .invalid, "not an IPC stream"⟩
    else .ok ⟨[⟨⟨if n = 1 then "id" else "name", true, []⟩, .scalar .int64⟩], []⟩
  | _ => .error ⟨.arrow .invalid, "not an IPC stream"⟩

/-- The reference runtime with streams to open. -/
def Runtime.decoding : Runtime := { Runtime.reference with openStream := openByte }

/-! ## The server -/

/-- **A server whose answers never change**: `info` is the FlightInfo of a command and `stream` the
    reader of a ticket.  Every statement gets the handle `[1]`, and a put is answered without one. -/
def Server.fixed (info : Command → Except Exn FlightInfo) (stream : Ticket → Except Exn Reader) :
    Server where
  getFlightInfo _ command := info command
  doGet _ ticket := stream ticket
  createPreparedStatement _ _ := .ok (some ⟨[1], [], []⟩)
  doPut _ _ _ := .ok none
  doPutUpdate _ _ := .ok none
  closePreparedStatement _ _ := .ok ()

/-- A FlightInfo with an endpoint for each ticket. -/
def FlightInfo.ofTickets (tickets : List Ticket) : FlightInfo :=
  ⟨some (tickets.map fun ticket => ⟨some ticket⟩)⟩

/-- A reader of a table. -/
def Reader.ofTable (t : Table) : Reader := ⟨some (.ok (.table t))⟩

/-- A column of Python values as scalars of one type, nulls marked in the bitmap. -/
def Arrow.Column.ofValues (name : String) (type : ScalarType) (values : List PyValue) : Column :=
  ⟨⟨name, true, []⟩, .scalar type,
    [.fixed ⟨0, values.length, some (values.map fun v => v ≠ .none)⟩ (values.map cellOf)]⟩

/-- A table of one column. -/
def Arrow.Table.ofValues (name : String) (type : ScalarType) (values : List PyValue) : Table where
  columns := [Column.ofValues name type values]
  numRows := values.length
  aligned := by
    intro c hc
    rw [List.mem_singleton.mp hc]
    rfl

/-- A table of several such columns, each name with its type and values. -/
def Arrow.Table.ofColumns (numRows : Nat) (columns : List (String × ScalarType × List PyValue))
    (equal : ∀ c ∈ columns, c.2.2.length = numRows) : Table where
  columns := columns.map fun c => Column.ofValues c.1 c.2.1 c.2.2
  numRows := numRows
  aligned := by
    intro c hc
    obtain ⟨values, hvalues, rfl⟩ := List.mem_map.mp hc
    exact equal values hvalues

/-- Nothing has happened yet: an open client, connection and cursor. -/
def World.initial : World where
  log := []
  clientClosed := false
  connection := ⟨false, none, none⟩
  cursor := ⟨false, 1, none, []⟩
  statement := ⟨[], none, none, true⟩

end FlightSql
