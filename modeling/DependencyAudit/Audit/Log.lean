/-! The records that an audit logs on its way. -/
namespace DependencyAudit

inductive LogLevel
  | trace
  | debug
  | info
  | warn
  | error
deriving DecidableEq

/-- `source` names the part of the program that logs. -/
structure LogRecord where
  level : LogLevel
  source : String
  message : String
deriving DecidableEq

def LogLevel.label : LogLevel → String
  | trace => "TRACE"
  | debug => "DEBUG"
  | info => "INFO"
  | warn => "WARN"
  | error => "ERROR"

end DependencyAudit
