/-
  Exceptions — `flightsql/exceptions.py` and `dbapi_error` of `flightsql/util.py`.

  Everything the driver can see raised is an `Exn`: a class and the text `str(error)` gives.
  Five families are told apart, because the driver's `except` clauses do:

  * `flight c` — the `pyarrow.flight` errors (all derive from `FlightError`);
  * `arrow c` — the other `pyarrow` errors;
  * `dbapi c` — the driver's own PEP 249 classes, all deriving from `Error`;
  * `sqlalchemy c` / `python c` — what SQLAlchemy and the interpreter raise;
  * `provenance` — the verifier's own `ProvenanceError`.

  `dbapiError` is the class table of `dbapi_error`; `translated` is what an exception leaves a
  `translate_errors` method as.  `translated_isError` states what the decorator is for: every
  Flight or Arrow failure leaves as an `Error`, with its message kept.
-/

set_option linter.unusedVariables false

namespace FlightSql

/-- The classes of `pyarrow.flight`; `server` is `FlightServerError` (status UNKNOWN), `other`
    every further subclass of `FlightError`. -/
inductive FlightClass where
  | unavailable | timedOut | cancelled | internal | server | unauthenticated | unauthorized | other
  deriving DecidableEq

/-- The classes of `pyarrow` outside Flight; `other` is every further `ArrowException`. -/
inductive ArrowClass where
  | invalid | typeError | keyError | indexError | notImplemented | other
  deriving DecidableEq

/-- `flightsql/exceptions.py`; `error` is the base class itself. -/
inductive DbapiClass where
  | error | interface | database | internal | operational | programming | integrity | data
  | notSupported
  deriving DecidableEq

/-- The SQLAlchemy exceptions the dialect raises. -/
inductive SqlalchemyClass where
  | argument | compile | invalidRequest | noSuchTable | unreflectableTable
  deriving DecidableEq

/-- Interpreter exceptions. -/
inductive PythonClass where
  | attributeError | typeError | valueError | keyError | indexError | overflowError | osError
  | runtimeError | other
  deriving DecidableEq

inductive ExnClass where
  | flight (c : FlightClass)
  | arrow (c : ArrowClass)
  | dbapi (c : DbapiClass)
  | sqlalchemy (c : SqlalchemyClass)
  | python (c : PythonClass)
  | provenance
  deriving DecidableEq

/-- **An exception**: its class and its text. -/
structure Exn where
  cls : ExnClass
  message : String
  deriving DecidableEq

namespace Exn

/-- `isinstance(e, flightsql.exceptions.Error)`. -/
def isError (e : Exn) : Bool :=
  match e.cls with
  | .dbapi _ => true
  | _ => false

/-- `isinstance(e, flight.FlightError)`. -/
def isFlightError (e : Exn) : Bool :=
  match e.cls with
  | .flight _ => true
  | _ => false

/-- `Error(message)`. -/
def error (message : String) : Exn := ⟨.dbapi .error, message⟩

/-- `DataError(message)`. -/
def dataError (message : String) : Exn := ⟨.dbapi .data, message⟩

/-- `NotSupportedError(message)`. -/
def notSupported (message : String) : Exn := ⟨.dbapi .notSupported, message⟩

end Exn

/-- `dbapi_error`: the PEP 249 class of a Flight or Arrow failure, in the order of its tests; `none`
    for anything else. -/
def dbapiError (e : Exn) : Option Exn :=
  match e.cls with
  | .flight .unavailable | .flight .timedOut | .flight .cancelled =>
    some ⟨.dbapi .operational, e.message⟩
  | .flight .unauthenticated | .flight .unauthorized => some ⟨.dbapi .operational, e.message⟩
  | .arrow .notImplemented => some ⟨.dbapi .notSupported, e.message⟩
  | .flight .internal => some ⟨.dbapi .internal, e.message⟩
  | .arrow .invalid | .arrow .typeError | .arrow .keyError | .arrow .indexError =>
    some ⟨.dbapi .programming, e.message⟩
  | .flight .server | .flight .other | .arrow .other => some ⟨.dbapi .database, e.message⟩
  | _ => none

/-- What an exception raised inside a `translate_errors` method leaves it as. -/
def translated (e : Exn) : Exn :=
  if e.isError then e
  else
    match dbapiError e with
    | none => e
    | some e' => e'

/-- Every Flight or Arrow failure leaves a `translate_errors` method as the package's `Error`, its
    message preserved; an exception of any other kind passes unchanged. -/
theorem translated_isError (e : Exn) :
    (translated e).message = e.message ∧
      ((translated e).isError = true ∨ translated e = e ∧ dbapiError e = none) := by
  obtain ⟨cls, message⟩ := e
  cases cls with
  | flight c => cases c <;> exact ⟨rfl, Or.inl rfl⟩
  | arrow c => cases c <;> exact ⟨rfl, Or.inl rfl⟩
  | dbapi c => exact ⟨rfl, Or.inl rfl⟩
  | sqlalchemy c => exact ⟨rfl, Or.inr ⟨rfl, rfl⟩⟩
  | python c => exact ⟨rfl, Or.inr ⟨rfl, rfl⟩⟩
  | provenance => exact ⟨rfl, Or.inr ⟨rfl, rfl⟩⟩

end FlightSql
