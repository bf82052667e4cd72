import ArtifactResolution.Text.Lowercase

namespace ArtifactResolution
set_option autoImplicit false

inductive LogLevel where
  | silent
  | error
  | warn
  | info
  | debug
  | trace
deriving DecidableEq

namespace LogLevel

/-- A level is shown as the filter that it stands for. -/
protected def toString : LogLevel → String
  | silent => "off"
  | error => "error"
  | warn => "warn"
  | info => "info"
  | debug => "debug"
  | trace => "trace"

instance : ToString LogLevel := ⟨LogLevel.toString⟩

def name : LogLevel → String
  | silent => "silent"
  | level => level.toString

/-- The names under which levels are read. -/
def names : List (String × LogLevel) :=
  [("off", silent), ("silent", silent), ("error", error), ("warn", warn), ("warning", warn),
    ("info", info), ("debug", debug), ("trace", trace)]

/-- A text, in lower case, that names no level. -/
structure ParseError where
  text : String
deriving DecidableEq

def ParseError.message (e : ParseError) : String := "Invalid log level: " ++ e.text

/-- Reads the name of a level in any letter case. -/
def parse (text : String) : Except ParseError LogLevel :=
  match names.lookup (Text.lowercase text) with
  | some level => .ok level
  | none => .error ⟨Text.lowercase text⟩

end LogLevel

end ArtifactResolution
