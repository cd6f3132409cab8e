/-
  Schemas, tables and the Python values read out of them.

  A `Table` CARRIES the proof that its columns are equally long, so a row index that is good for one
  column is good for all.  Reading is `to_pylist()`: of a column (a list of Python values), of a
  table (one dictionary a row, where a repeated column name keeps its last value), and
  `table.column(name)`, which refuses a name that is missing or repeated.

  How one Arrow value becomes a Python object is PyArrow's business: `AsPy` is that function, taken
  as a parameter.

  Mathlib-free.
-/
import FlightSql.Exceptions
import FlightSql.PyValue
import FlightSql.Lib.Dict
import FlightSql.Arrow.Format

set_option linter.unusedVariables false

namespace FlightSql.Arrow

open Lib

/-- `scalar.as_py()` of a value of some type. -/
abbrev AsPy := DataType → Value → Except Exn PyValue

/-- A field with its type. -/
structure Field where
  info : FieldInfo
  type : DataType

/-- A schema: its fields in order, and its own metadata. -/
structure Schema where
  fields : List Field
  metadata : List (String × String)

/-- A record batch, as the driver builds one to bind parameters. -/
structure RecordBatch where
  schema : Schema
  columns : List ArrowArray

/-- `batch.num_rows`. -/
def RecordBatch.numRows (b : RecordBatch) : Nat :=
  match b.columns with
  | [] => 0
  | c :: _ => c.data.length

/-- A named column of a table. -/
structure Column where
  info : FieldInfo
  data : ChunkedArray

/-- `column.to_pylist()`. -/
def ChunkedArray.toPylist (asPy : AsPy) (c : ChunkedArray) : Except Exn (List PyValue) :=
  c.values.mapM (asPy c.type)

/-- **A table**: columns of one length. -/
structure Table where
  columns : List Column
  numRows : Nat
  aligned : ∀ c ∈ columns, c.data.length = numRows

namespace Table

/-- `table.schema`, its fields. -/
def fields (t : Table) : List Field := t.columns.map fun c => ⟨c.info, c.data.type⟩

/-- `table.column_names`. -/
def columnNames (t : Table) : List String := t.columns.map fun c => c.info.name

/-- `table.column(name)`. -/
def column (t : Table) (name : String) : Except Exn ChunkedArray :=
  match t.columns.filter fun c => c.info.name = name with
  | [c] => .ok c.data
  | [] => .error ⟨.python .keyError, "Field \"" ++ name ++ "\" does not exist in schema"⟩
  | cs => .error ⟨.python .keyError,
      "Field \"" ++ name ++ "\" exists " ++ toString cs.length ++ " times in schema"⟩

/-- `table.column(name).to_pylist()`. -/
def columnValues (asPy : AsPy) (t : Table) (name : String) : Except Exn (List PyValue) := do
  let column ← t.column name
  column.toPylist asPy

/-- `table.to_pylist()`: a dictionary a row. -/
def toPylist (asPy : AsPy) (t : Table) : Except Exn (List (Dict String PyValue)) := do
  let columns ← t.columns.mapM fun c => c.data.toPylist asPy
  .ok ((List.range t.numRows).map fun j =>
    Dict.ofList (t.columnNames.zip (columns.map fun values => values.getD j .none)))

end Table

end FlightSql.Arrow
