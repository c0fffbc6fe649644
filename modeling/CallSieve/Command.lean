import CallSieve.Check
import CallSieve.Text.Terminal

namespace CallSieve

inductive Command where
  | check (c : Check)
  | listPresets
  /-- Writes a configuration to start from, over an old one only by force. -/
  | init (force : Bool)
  deriving DecidableEq, Repr

/-- A command with the options that every command has. -/
structure Invocation where
  verbose : Bool
  config : Option FilePath
  command : Command
  deriving DecidableEq, Repr

inductive LogLevel where
  | debug
  | info
  | warn
  deriving DecidableEq, Repr

def LogLevel.render : LogLevel → String
  | debug => "DEBUG"
  | info => "INFO"
  | warn => "WARN"

structure LogEntry where
  level : LogLevel
  text : String
  deriving DecidableEq, Repr

/-- The entry as a terminal is to show it. -/
def LogEntry.render (e : LogEntry) : String := e.level.render ++ " " ++ Text.inert e.text

inductive Ending where
  | done
  /-- A check found what it fails on. -/
  | findings
  /-- The command could not be done, for a reason and perhaps another behind it. -/
  | failed (reason : String) (behind : Option String)
  | misused (reason : String)
  deriving DecidableEq, Repr

namespace Ending

def code : Ending → UInt32
  | done => 0
  | findings | failed .. => 1
  | misused _ => 2

def notice? : Ending → Option String
  | done | findings => none
  | failed reason none => some ("Error: " ++ reason)
  | failed reason (some behind) => some ("Error: " ++ reason ++ "\n\nCaused by:\n    " ++ behind)
  | misused reason => some ("error: " ++ reason)

end Ending

/-- What a run leaves behind, the disk apart. -/
structure Outcome where
  ending : Ending
  output : String := ""
  log : List LogEntry := []
  deriving DecidableEq, Repr

end CallSieve
