/-
  SQL types of Arrow columns — `resolve_sql_type`, `column_specs` and `arrow_column_descriptions`.

  An Arrow type resolves to a SQLAlchemy type instance: wrappers (extension, dictionary) are looked
  through, scalars go by the first matching predicate, lists become `ARRAY` of a scalar or
  `ArrowNestedJSON`, structs, maps and unions `ArrowNestedJSON`, everything else `NullType`.

  Mathlib-free.
-/
import FlightSql.Arrow.Table

set_option linter.unusedVariables false

namespace FlightSql

open Arrow

/-- The SQLAlchemy types the driver names; `nestedJson` is `ArrowNestedJSON`. -/
inductive SqlType where
  | null
  | timestamp (timezone : Bool)
  | decimal (precision : Nat) (scale : Int)
  | time | date | boolean | interval | real | double | varchar | varbinary
  | smallint | integer | bigint
  | numeric (precision : Nat) (scale : Int)
  | array (item : SqlType)
  | nestedJson
  deriving DecidableEq, Repr

/-- `_SCALAR_SQL_TYPES`, and `NullType` for a scalar no predicate takes. -/
def scalarSqlType : ScalarType → SqlType
  | .date32 | .date64 => .date
  | .bool => .boolean
  | .monthDayNanoInterval => .interval
  | .float16 | .float32 => .real
  | .float64 => .double
  | .string | .largeString | .stringView => .varchar
  | .binary | .largeBinary | .fixedSizeBinary _ | .binaryView => .varbinary
  | .int8 | .int16 | .uint8 => .smallint
  | .int32 | .uint16 => .integer
  | .int64 | .uint32 => .bigint
  | .uint64 => .numeric 20 0
  | .decimal32 p s | .decimal64 p s | .decimal128 p s | .decimal256 p s => .decimal p s
  | .null => .null

/-- The list branch: an `ARRAY` of whatever is neither untyped nor a list itself. -/
def listSqlType (item : SqlType) : SqlType :=
  match item with
  | .null => .nestedJson
  | .array _ => .nestedJson
  | item => .array item

/-- The kinds of `DataType.other` that `_LIST_PREDICATES` names. -/
def isListView (kind : String) : Bool := kind = "list_view" || kind = "large_list_view"

mutual
/-- **`resolve_sql_type`**. -/
def resolveSqlType : DataType → SqlType
  | .extension _ t => resolveSqlType t
  | .dictionary _ t _ => resolveSqlType t
  | .timestamp _ tz => .timestamp tz.isSome
  | .scalar t => scalarSqlType t
  | .time32 _ => .time
  | .time64 _ => .time
  | .duration _ => .interval
  | .list _ t => listSqlType (resolveSqlType t)
  | .largeList _ t => listSqlType (resolveSqlType t)
  | .fixedSizeList _ t _ => listSqlType (resolveSqlType t)
  | .other kind fields => if isListView kind then listSqlType (resolveItem fields) else .null
  | .struct _ => .nestedJson
  | .map _ _ _ _ _ => .nestedJson
  | .union _ _ _ => .nestedJson
/-- The resolved type of a list view's one field, its `value_type`. -/
def resolveItem : Fields → SqlType
  | .cons _ t _ => resolveSqlType t
  | .nil => .null
end

/-- A column as `column_specs` reports it; `default` and `comment` are always `None`. -/
structure ColumnSpec where
  name : String
  type : SqlType
  nullable : Bool
  deriving DecidableEq, Repr

/-- `column_specs`. -/
def columnSpecs (schema : Schema) : List ColumnSpec :=
  schema.fields.map fun f => ⟨f.info.name, resolveSqlType f.type, f.info.nullable⟩

/-- A PEP 249 column description; display and internal size are always `None`. -/
structure ColumnDescription where
  name : String
  typeCode : SqlType
  precision : Option Nat
  scale : Option Int
  nullOk : Bool
  deriving DecidableEq, Repr

/-- `pa.types.is_decimal(t)`, with the precision and scale. -/
def decimalParameters : DataType → Option (Nat × Int)
  | .scalar (.decimal32 p s) | .scalar (.decimal64 p s) => some (p, s)
  | .scalar (.decimal128 p s) | .scalar (.decimal256 p s) => some (p, s)
  | _ => none

/-- `field.type.value_type` of a dictionary, else the type itself. -/
def descriptionStorage : DataType → DataType
  | .dictionary _ t _ => t
  | t => t

/-- `arrow_column_descriptions`. -/
def arrowColumnDescriptions (fields : List Field) : List ColumnDescription :=
  fields.map fun f =>
    let decimal := decimalParameters (descriptionStorage f.type)
    ⟨f.info.name, resolveSqlType f.type, decimal.map Prod.fst, decimal.map Prod.snd,
      f.info.nullable⟩

end FlightSql
