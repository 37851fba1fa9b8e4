/-! # The journal of warnings and errors -/

namespace SpriteRenderer

inductive LogLevel where
  | warn | error
deriving DecidableEq, Repr

structure LogRecord where
  level : LogLevel
  text : String
deriving DecidableEq, Repr

namespace LogRecord

def warning (text : String) : LogRecord := ⟨.warn, text⟩

def failure (text : String) : LogRecord := ⟨.error, text⟩

end LogRecord

/-- Records in the order in which they were written. -/
abbrev Journal := List LogRecord

/-- Which records an application asks its logger for. Without a filter the logger decides. -/
structure LoggingConfig where
  filter : Option String := none
deriving DecidableEq, Repr

end SpriteRenderer
