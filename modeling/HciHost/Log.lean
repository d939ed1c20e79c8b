/-!
# Log lines

Operations report what they did as log lines: a severity level and a text. A line is written
as the level's name, a space and the text, `INFO closing HCI transport`. A computation that
logs is one in a `Logger` monad, and `note` records a line in it.
-/

namespace HciHost

/-- The severity of a log line, most severe first. -/
inductive Level where
  | error
  | warn
  | info
  | debug
  | trace
  deriving DecidableEq

/-- The name of a level as written in a line. -/
def Level.name : Level → String
  | .error => "ERROR"
  | .warn => "WARN"
  | .info => "INFO"
  | .debug => "DEBUG"
  | .trace => "TRACE"

/-- One log line. -/
structure LogLine where
  /-- How severe the line is. -/
  level : Level
  /-- What happened. -/
  text : String
  deriving DecidableEq

/-- A line as written: level name, a space, the text. -/
def LogLine.render (l : LogLine) : String :=
  l.level.name ++ " " ++ l.text

/-- A computation that can record log lines. -/
class Logger (m : Type → Type) where
  /-- Records one line. -/
  emit : LogLine → m Unit

/-- Records a line of level `lv`. -/
def note [Logger m] (lv : Level) (text : String) : m Unit :=
  Logger.emit ⟨lv, text⟩

end HciHost
