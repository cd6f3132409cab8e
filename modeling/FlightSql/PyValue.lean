/-
  Python objects, as far as the driver looks at them.

  The driver reads cells out of Arrow tables with `to_pylist()` and binds parameters its callers
  pass in.  It tests such a value for `None`, for being a `str`, for truth; it compares values and
  puts them into a `set`.  `PyValue` keeps exactly that: the scalars it can tell apart, and an
  opaque `object` for everything it never looks into.
-/

set_option linter.unusedVariables false

namespace FlightSql

/-- **A Python object**, as far as the driver looks at one: it tests for `None` and `str`, compares
    and hashes.  `surrogates` is a `str` with a lone surrogate in it: UTF-8 cannot encode it, so a caller
    can pass one in and no Arrow cell holds one.  Every object the driver never looks into is an `object`
    of some class. -/
inductive PyValue where
  | none
  | bool (b : Bool)
  | int (n : Int)
  | float (bits : UInt64)
  | str (s : String)
  | surrogates (codePoints : List Nat)
  | bytes (b : List UInt8)
  | decimal (coefficient exponent : Int)
  | object (cls : String) (identity : Nat) (hashable : Bool)
  deriving DecidableEq

namespace PyValue

/-- `type(value).__name__`. -/
def typeName : PyValue → String
  | none => "NoneType"
  | bool _ => "bool"
  | int _ => "int"
  | float _ => "float"
  | str _ => "str"
  | surrogates _ => "str"
  | bytes _ => "bytes"
  | decimal _ _ => "Decimal"
  | object cls _ _ => cls

/-- `type(value)`, when it is one of the five builtin classes the driver maps to Arrow types. -/
def builtinType : PyValue → Option String
  | bool _ => some "bool"
  | int _ => some "int"
  | float _ => some "float"
  | str _ => some "str"
  | surrogates _ => some "str"
  | bytes _ => some "bytes"
  | none | decimal _ _ | object _ _ _ => Option.none

/-- `bool(value)`; an object without a truth test of its own is true. -/
def truthy : PyValue → Bool
  | none => false
  | bool b => b
  | int n => n ≠ 0
  | float bits => bits ≠ 0 ∧ bits ≠ 0x8000000000000000
  | str s => s ≠ ""
  | surrogates codePoints => codePoints ≠ []
  | bytes b => b ≠ []
  | decimal coefficient _ => coefficient ≠ 0
  | object _ _ _ => true

/-- Whether the object may be a member of a `set` or a key of a `dict`. -/
def hashable : PyValue → Bool
  | object _ _ h => h
  | _ => true

end PyValue

end FlightSql
