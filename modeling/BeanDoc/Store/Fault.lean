import BeanDoc.Database

/-! Why templates cannot be loaded or saved. -/

namespace BeanDoc

inductive ConnectionFault where
  | cannotOpen
  | cannotRead
  | nulInName (position : Nat)
  | badAddress
  | notAllowed
  deriving DecidableEq, Repr

def ConnectionFault.message : ConnectionFault → String
  | cannotOpen => "unable to open database file"
  | cannotRead => "disk I/O error"
  | nulInName position => "nul byte found in provided data at position: " ++ toString position
  | badAddress => "SQL logic error"
  | notAllowed => "access permission denied"

/-- Why a statement failed. Where the database does not even say whether it has the table, both
faults are told. -/
inductive StatementFault where
  | checked (fault : DatabaseFault)
  | unchecked (check fault : DatabaseFault)
  deriving DecidableEq, Repr

def StatementFault.message : StatementFault → String
  | checked f => f.message
  | unchecked check f =>
    "schema presence check failed: " ++ check.message ++ "; original error: " ++ f.message

inductive StoreFault where
  | missingUrl
  | blankUrl
  | connection (fault : ConnectionFault)
  | migration (fault : Database.MigrationFault)
  | noVersion
  | notInitialised
  | query (fault : StatementFault)
  | write (fault : StatementFault)
  deriving DecidableEq, Repr

def StoreFault.message : StoreFault → String
  | missingUrl => "database URL is required (use --database-url or GENDOC_DATABASE_URL)"
  | blankUrl => "database URL must not be blank"
  | connection f => "failed to connect to SQLite database: " ++ f.message
  | migration f => "failed to run database migrations: " ++ f.message
  | noVersion => "no schema version recorded after migrations ran"
  | notInitialised => "template storage is not initialised (run with --migrate-db first)"
  | query f => "failed to read stored template: " ++ f.message
  | write f => "failed to write template: " ++ f.message

end BeanDoc
