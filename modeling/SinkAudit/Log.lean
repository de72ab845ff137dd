/-!
# The log

Each module of the program has a logger of its own, and writes what it decided: the rules, the bucket check,
the validator and the adapters. A run shows warnings, or with `--verbose` all entries, one line each on
standard error. So the log is part of what a run can tell, and everything that is written to it is modelled
as a result of the function that writes it.

The entries never show credentials, only whether there are any.
-/

namespace SinkAudit

/-- How serious a log entry is. Warnings are always shown, and the others with `--verbose` alone. -/
inductive Level where
  | debug
  | info
  | warning
  deriving DecidableEq

/-- Who wrote a log entry, of the program's own loggers. -/
inductive Logger where
  | rules
  | bucket
  | validator
  | storage
  deriving DecidableEq

/-- An entry of the log: who wrote it, how serious it is, and its text with all values filled in. -/
structure LogEntry where
  level : Level
  logger : Logger
  message : String
  deriving DecidableEq

/-- The name of a level. -/
def Level.name : Level → String
  | debug => "DEBUG"
  | info => "INFO"
  | warning => "WARNING"

/-- The name of a logger, which is that of its module. -/
def Logger.name : Logger → String
  | rules => "sinkcheck.rules"
  | bucket => "sinkcheck.bucket"
  | validator => "sinkcheck.validator"
  | storage => "sinkcheck.storage.object_store"

/-- The line of an entry, in the format of the command line (`_configure_logging`). -/
def LogEntry.line (e : LogEntry) : String :=
  e.level.name ++ " " ++ e.logger.name ++ ": " ++ e.message

/-- Is the entry shown when only warnings are? -/
def LogEntry.isWarning (e : LogEntry) : Bool := e.level == .warning

end SinkAudit
