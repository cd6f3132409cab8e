/-
  The objects of a program — a `FlightSQLClient`, a `Connection` on it, its cursors and the prepared
  statements — and the public methods called on them.

  A method of one object is the method as it is modelled over a `World`, run on that object: the world
  holds the client, the connection and the one cursor or statement it is a method of, and what the method
  leaves of them goes back among the objects.

  An OPERATION is a call of a public method with its arguments; a program is a list of them.  A
  `with`-block's `__exit__` is a `close`.

  Mathlib-free.
-/
import FlightSql.Reference
import FlightSql.Connection
import FlightSql.Cursor
import FlightSql.CursorFetch

set_option linter.unusedVariables false

namespace FlightSql

open Arrow Lib

/-! ## The objects -/

/-- **The objects**: cursors in the order in which the connection created them, statements in the order
    in which the client prepared them. -/
structure Objects where
  log : List Event
  clientClosed : Bool
  connection : Connection
  cursors : List Cursor
  statements : List PreparedStatement

/-- A call of a method. -/
abbrev Action := Run Objects Exn Unit

/-- `Cursor(client)`. -/
def Cursor.new : Cursor := ⟨false, 1, none, []⟩

/-- No statement. -/
def PreparedStatement.absent : PreparedStatement := ⟨[], none, none, true⟩

namespace Objects

/-- The world of a method of this cursor and this statement. -/
def world (s : Objects) (cursor : Cursor) (statement : PreparedStatement) : World :=
  ⟨s.log, s.clientClosed, s.connection, cursor, statement⟩

/-- What a method leaves of the client and the connection. -/
def absorb (s : Objects) (w : World) : Objects :=
  { s with log := w.log, clientClosed := w.clientClosed, connection := w.connection }

end Objects

/-- A method of the client or the connection. -/
def onClient {α : Type} (m : Method α) : Run Objects Exn α := fun s =>
  ((m (s.world .new .absent)).1, s.absorb (m (s.world .new .absent)).2)

/-- A method of the cursor at an index; nothing where there is none. -/
def onCursor {α : Type} (i : Nat) (m : Method α) : Action := fun s =>
  match s.cursors[i]? with
  | none => (.ok (), s)
  | some cursor =>
    let ended := m (s.world cursor .absent)
    (ended.1.map fun _ => (), { s.absorb ended.2 with cursors := s.cursors.set i ended.2.cursor })

/-- A method of the statement at an index; nothing where there is none. -/
def onStatement {α : Type} (i : Nat) (m : Method α) : Action := fun s =>
  match s.statements[i]? with
  | none => (.ok (), s)
  | some statement =>
    let ended := m (s.world .new statement)
    (ended.1.map fun _ => (), { s.absorb ended.2 with statements := s.statements.set i ended.2.statement })

/-- A call whose answer is dropped. -/
def forget {α : Type} (m : Run Objects Exn α) : Action := m >>= fun _ => pure ()

/-! ## FlightSQLClient -/

/-- `TableRef`. -/
structure TableRef where
  catalog : Option String
  dbSchema : Option String
  table : String

/-- **The public methods of `FlightSQLClient`.** -/
inductive ClientMethod where
  | close
  | execute (query : String)
  | executeUpdate (query : String)
  | getTables (includeSchema : Bool) (catalog : Option String) (tableTypes : Option (List String))
      (tableNameFilterPattern dbSchemaFilterPattern : Option String)
  | getDbSchemas (catalog dbSchemaFilterPattern : Option String)
  | getCatalogs
  | getPrimaryKeys (table : TableRef)
  | getExportedKeys (table : TableRef)
  | getImportedKeys (table : TableRef)
  | getCrossReference (pkTable fkTable : TableRef)
  | getXdbcTypeInfo (dataType : Option Int)
  | prepare (query : String)
  | getTableTypes
  | getSqlInfo (info : List Int)
  | doGet (ticket : Ticket)

/-- The message of `get_tables`: no table types are sent for `None` or an empty list. -/
def tablesCommand (includeSchema : Bool) (catalog : Option String) (tableTypes : Option (List String))
    (tableNameFilterPattern dbSchemaFilterPattern : Option String) : Command :=
  match tableTypes.getD [] with
  | [] => .getTables catalog dbSchemaFilterPattern tableNameFilterPattern includeSchema
  | types => .getTablesOfTypes catalog dbSchemaFilterPattern tableNameFilterPattern includeSchema types

/-- `execute_update`: the put and the record count it is answered with. -/
def clientExecuteUpdate (srv : Server) (query : String) : Method Int := do
  let reply ← checkClosed "FlightSQLClient" World.clientClosed
    (rpc (fun log => srv.doPutUpdate log query) (.doPutUpdate query))
  pure (reply.getD 0)

variable (rt : Runtime) (srv : Server) (disconnect : List Event → Except Exn Unit)

/-- `FlightSQLClient.close`; `disconnect` is `flight.FlightClient.close()`. -/
def closeClient : Action := do
  Run.modify fun s => { s with clientClosed := true }
  let log ← Run.gets Objects.log
  Run.ofExcept (disconnect log)

/-- `FlightSQLClient.prepare`, with the statement it returns. -/
def prepareStatement (query : String) : Action := do
  let statement ← onClient do
    prepare rt srv query
    Run.gets World.statement
  Run.modify fun s => { s with statements := s.statements ++ [statement] }

/-- A method that asks for a FlightInfo. -/
def askFlightInfo (command : Command) : Action := forget (onClient (getFlightInfo srv command))

def ClientMethod.run : ClientMethod → Action
  | .close => closeClient disconnect
  | .execute query => forget (onClient (clientExecute srv query))
  | .executeUpdate query => forget (onClient (clientExecuteUpdate srv query))
  | .getTables includeSchema catalog tableTypes tableName dbSchema =>
    askFlightInfo srv (tablesCommand includeSchema catalog tableTypes tableName dbSchema)
  | .getDbSchemas catalog dbSchema => askFlightInfo srv (.getDbSchemas catalog dbSchema)
  | .getCatalogs => askFlightInfo srv .getCatalogs
  | .getPrimaryKeys t => askFlightInfo srv (.getPrimaryKeys t.catalog t.dbSchema t.table)
  | .getExportedKeys t => askFlightInfo srv (.getExportedKeys t.catalog t.dbSchema t.table)
  | .getImportedKeys t => askFlightInfo srv (.getImportedKeys t.catalog t.dbSchema t.table)
  | .getCrossReference pk fk =>
    askFlightInfo srv (.getCrossReference pk.catalog pk.dbSchema pk.table fk.catalog fk.dbSchema fk.table)
  | .getXdbcTypeInfo dataType => askFlightInfo srv (.getXdbcTypeInfo dataType)
  | .prepare query => prepareStatement rt srv query
  | .getTableTypes => askFlightInfo srv .getTableTypes
  | .getSqlInfo info => askFlightInfo srv (.getSqlInfo info)
  | .doGet ticket => forget (onClient (FlightSql.doGet srv ticket))

/-! ## PreparedStatement -/

/-- **The public methods of `PreparedStatement`.** -/
inductive StatementMethod where
  | execute (binding : RecordBatch)
  | close

def StatementMethod.run (i : Nat) : StatementMethod → Action
  | .execute binding => onStatement i (statementExecute srv binding)
  | .close => onStatement i (statementClose srv)

/-! ## Cursor -/

/-- **The public methods of `Cursor`.** -/
inductive CursorMethod where
  | iter
  | close
  | execute (query : String) (params : Option (List PyValue))
  | executemany (query : String) (paramSeq : Option (List (List PyValue)))
  | fetchone
  | fetchmany (size : Option Int)
  | fetchall
  | setinputsizes
  | setoutputsizes
  | rowcount

/-- `check_closed` of a cursor. -/
def cursorMethod {α : Type} (m : Method α) : Method α := checkClosed "Cursor" (fun w => w.cursor.closed) m

def CursorMethod.run (i : Nat) : CursorMethod → Action
  | .iter => onCursor i iterate
  | .close => onCursor i (cursorMethod (Run.modify fun w =>
      { w with cursor := { w.cursor with closed := true } }))
  | .execute query params => onCursor i (FlightSql.execute rt srv query params)
  | .executemany query paramSeq => onCursor i (FlightSql.executemany rt srv query paramSeq)
  | .fetchone => onCursor i FlightSql.fetchone
  | .fetchmany size => onCursor i (FlightSql.fetchmany size)
  | .fetchall => onCursor i FlightSql.fetchall
  | .setinputsizes => onCursor i (cursorMethod (pure ()))
  | .setoutputsizes => onCursor i (cursorMethod (pure ()))
  | .rowcount => onCursor i (cursorMethod (Run.gets fun w => w.cursor.results.length))

/-! ## Connection -/

/-- **The public methods of `Connection`.** -/
inductive ConnectionMethod where
  | commit
  | rollback
  | close
  | cursor
  | execute (query : String) (params : Option (List PyValue))
  | executemany (query : String) (paramSeq : Option (List (List PyValue)))
  | getColumns (tableName : String) (schema : Option String)
  | getTableMetadataForTable (tableName : String) (schema : Option String)
  | getTableMetadata (schema : Option String)
  | getTableNames (schema : Option String)
  | getSchemaNames
  | getSqlInfo (info : List Int)
  | getPrimaryKeys (table : String) (schema : Option String)
  | getForeignKeys (table : String) (schema : Option String)

/-- `check_closed` of the connection. -/
def whileOpen (m : Action) : Action := fun s =>
  if s.connection.closed then (.error (.error "Connection already closed"), s) else m s

/-- One turn of the loop of `Connection.close`. -/
def Cursor.closeUnlessClosed (cursor : Cursor) : Cursor :=
  if cursor.closed then cursor else { cursor with closed := true }

/-- `Connection.close`. -/
def closeConnection : Action :=
  whileOpen (Run.modify fun s => { s with
    connection := { s.connection with closed := true }
    cursors := s.cursors.map Cursor.closeUnlessClosed })

/-- `Connection.cursor`. -/
def newCursor : Action := whileOpen (Run.modify fun s => { s with cursors := s.cursors ++ [.new] })

/-- `self.cursor()` and a method of that cursor. -/
def onNewCursor {α : Type} (m : Method α) : Action :=
  whileOpen do
    newCursor
    let cursors ← Run.gets Objects.cursors
    onCursor (cursors.length - 1) m

def ConnectionMethod.run : ConnectionMethod → Action
  | .commit => whileOpen (pure ())
  | .rollback => whileOpen (pure ())
  | .close => closeConnection
  | .cursor => newCursor
  | .execute query params => onNewCursor (FlightSql.execute rt srv query params)
  | .executemany query paramSeq => onNewCursor (FlightSql.executemany rt srv query paramSeq)
  | .getColumns tableName schema => forget (onClient (flightsqlGetColumns rt srv tableName schema))
  | .getTableMetadataForTable tableName schema =>
    forget (onClient (flightsqlGetTableMetadataForTable rt srv tableName schema))
  | .getTableMetadata schema => forget (onClient (flightsqlGetTableMetadata rt srv schema))
  | .getTableNames schema => forget (onClient (flightsqlGetTableNames rt srv schema))
  | .getSchemaNames => forget (onClient (flightsqlGetSchemaNames rt srv))
  | .getSqlInfo info => forget (onClient (flightsqlGetSqlInfo rt srv info))
  | .getPrimaryKeys table schema => forget (onClient (flightsqlGetPrimaryKeys rt srv table schema))
  | .getForeignKeys table schema => forget (onClient (flightsqlGetForeignKeys rt srv table schema))

/-! ## Operations -/

/-- One of the objects. -/
inductive Object where
  | client
  | connection
  | cursor (i : Nat)
  | statement (i : Nat)
  deriving DecidableEq

/-- The object exists. -/
def Objects.has (s : Objects) : Object → Bool
  | .client | .connection => true
  | .cursor i => i < s.cursors.length
  | .statement i => i < s.statements.length

/-- `self.closed` of an object. -/
def Objects.closed (s : Objects) : Object → Bool
  | .client => s.clientClosed
  | .connection => s.connection.closed
  | .cursor i => (s.cursors[i]?.map Cursor.closed).getD false
  | .statement i => (s.statements[i]?.map PreparedStatement.closed).getD false

/-- **An operation**: a call of a public method of one of the objects. -/
inductive Operation where
  | client (method : ClientMethod)
  | connection (method : ConnectionMethod)
  | cursor (i : Nat) (method : CursorMethod)
  | statement (i : Nat) (method : StatementMethod)

namespace Operation

/-- The object whose method it is. -/
def object : Operation → Object
  | client _ => .client
  | connection _ => .connection
  | cursor i _ => .cursor i
  | statement i _ => .statement i

def run : Operation → Action
  | client method => method.run rt srv disconnect
  | connection method => method.run rt srv
  | cursor i method => method.run rt srv i
  | statement i method => method.run srv i

/-- A method that sends RPCs. -/
def sends : Operation → Bool
  | client .close => false
  | client _ => true
  | connection .commit | connection .rollback | connection .close | connection .cursor => false
  | connection _ => true
  | cursor _ (.execute _ _) | cursor _ (.executemany _ _) => true
  | cursor _ _ => false
  | statement _ _ => true

/-- The operation closes the object: closing a connection closes its cursors. -/
def closes : Operation → Object → Bool
  | client .close, .client => true
  | connection .close, .connection => true
  | connection .close, .cursor _ => true
  | cursor i .close, .cursor j => i = j
  | statement i .close, .statement j => i = j
  | _, _ => false

end Operation

end FlightSql
