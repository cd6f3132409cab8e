/-
  DB API results — `dbapi_results`: a table becomes rows of Python values and column descriptions.

  Columns are normalized to microseconds and converted one by one, by position; a value PyArrow
  cannot convert makes the whole conversion a `DataError`.  Rows are `zip(*columns)`, which stops at
  the shortest column.

  Mathlib-free.
-/
import FlightSql.Normalize
import FlightSql.SqlType

set_option linter.unusedVariables false

namespace FlightSql

open Arrow

/-- `OverflowError`, `ValueError` (of which `ArrowInvalid` is one) and every `ArrowException`. -/
def isConversionError (e : Exn) : Bool :=
  match e.cls with
  | .python .overflowError => true
  | .python .valueError => true
  | .arrow _ => true
  | _ => false

/-- `_dbapi_column_values`. -/
def dbapiColumnValues (pa : PyArrow) (asPy : AsPy) (column : ChunkedArray) :
    Except Exn (List PyValue) := do
  let normalized ← normalizeTemporalChunkedArray pa column
  match normalized.toPylist asPy with
  | .ok values => .ok values
  | .error error =>
    if isConversionError error then
      .error (.dataError
        ("unable to convert Arrow column of type " ++ pa.typeStr normalized.type ++
          " to DB API values"))
    else .error error

/-- How many rows `zip(*columns)` yields: none without a column, else the shortest length. -/
def zipLength : List (List PyValue) → Nat
  | [] => 0
  | [column] => column.length
  | column :: columns => min column.length (zipLength columns)

/-- `[list(row) for row in zip(*columns)]`. -/
def zipColumns (columns : List (List PyValue)) : List (List PyValue) :=
  (List.range (zipLength columns)).map fun j => columns.map fun column => column.getD j .none

/-- **`dbapi_results`**. -/
def dbapiResults (pa : PyArrow) (asPy : AsPy) (table : Table) :
    Except Exn (List (List PyValue) × List ColumnDescription) := do
  let descriptions := arrowColumnDescriptions table.fields
  let columns ← table.columns.mapM fun c => dbapiColumnValues pa asPy c.data
  .ok (zipColumns columns, descriptions)

end FlightSql
