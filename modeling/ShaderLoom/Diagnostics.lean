import ShaderLoom.Table
import ShaderLoom.Traced

/-!
# Diagnostics

The errors and warnings of a compilation.  A warning is kept once, however often it arises; an
error is kept every time.  Whatever is kept is also written to a log.
-/

namespace ShaderLoom

/-- How grave a line of a log is; greater is graver. -/
abbrev Level := Int

namespace Level

def unset : Level := 0
def debug : Level := 10
def info : Level := 20
def warning : Level := 30
def error : Level := 40
def critical : Level := 50

/-- The name of a level. -/
def name (level : Level) : String :=
  if level = debug then "DEBUG"
  else if level = info then "INFO"
  else if level = warning then "WARNING"
  else if level = error then "ERROR"
  else if level = critical then "CRITICAL"
  else "Level " ++ decimalText level

/-- The least level that a log of the given level writes.  A log whose level is unset writes
warnings and what is graver. -/
def threshold (level : Level) : Level := if level = unset then warning else level

end Level

/-- A line of a log. -/
structure LogLine where
  level : Level
  message : String
deriving DecidableEq, Inhabited

/-- The text of a line, with its end. -/
def LogLine.text (line : LogLine) : String :=
  "[ShaderGraph] [" ++ Level.name line.level ++ "] " ++ line.message ++ "\n"

/-- Whether a log of the given level writes a line.  A line whose level is not positive is never
written. -/
def LogLine.isWritten (level : Level) (line : LogLine) : Bool :=
  Level.unset < line.level && level.threshold ≤ line.level

/-- The text of the lines that a log of the given level writes. -/
def logText (level : Level) (lines : List LogLine) : String :=
  String.join ((lines.filter (LogLine.isWritten level)).map LogLine.text)

/-- The errors and warnings that were kept, in order. -/
structure Diagnostics where
  errors : List String
  warnings : List String
deriving DecidableEq, Inhabited

namespace Diagnostics

/-- Nothing was kept yet. -/
def empty : Diagnostics := ⟨[], []⟩

/-- Whether there is no error. -/
def ok (diagnostics : Diagnostics) : Bool := diagnostics.errors.isEmpty

/-- A warning as it is kept. -/
def warningEntry (message : String) : String := "[WARNING] " ++ message

/-- Keeps a warning that is new, and writes it to the log. -/
def warn (diagnostics : Diagnostics) (message : String) : Diagnostics × List LogLine :=
  if diagnostics.warnings.contains (warningEntry message) then (diagnostics, [])
  else ({ diagnostics with warnings := diagnostics.warnings ++ [warningEntry message] },
    [⟨.warning, message⟩])

/-- Keeps an error, and writes it to the log. -/
def error (diagnostics : Diagnostics) (message : String) : Diagnostics × List LogLine :=
  ({ diagnostics with errors := diagnostics.errors ++ ["[ERROR] " ++ message] },
    [⟨.error, message⟩])

/-- Takes over the errors and warnings of another compilation, as they are. -/
def extend (diagnostics other : Diagnostics) : Diagnostics :=
  ⟨diagnostics.errors ++ other.errors, diagnostics.warnings ++ other.warnings⟩

/-- How many errors and warnings were kept, as a line of the log. -/
def summary (diagnostics : Diagnostics) (level : Level) : LogLine :=
  ⟨level, toString diagnostics.errors.length ++ " error(s), "
    ++ toString diagnostics.warnings.length ++ " warning(s)"⟩

/-- Keeps the warnings of several messages, one after the other. -/
def warnAll (diagnostics : Diagnostics) : List String → Diagnostics × List LogLine
  | [] => (diagnostics, [])
  | message :: rest =>
    let (next, lines) := diagnostics.warn message
    let (last, more) := next.warnAll rest
    (last, lines ++ more)

end Diagnostics

end ShaderLoom
