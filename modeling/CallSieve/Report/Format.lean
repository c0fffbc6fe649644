import CallSieve.Report.Json

namespace CallSieve

inductive Format where
  /-- Two lines for each finding, a blank line after it, and a summary, in colours. -/
  | text
  | json
  /-- A finding after the other, and nothing else. -/
  | compact
  deriving DecidableEq, Repr

namespace Format

def all : List Format := [text, json, compact]

def name : Format → String
  | text => "text"
  | json => "json"
  | compact => "compact"

def parse? (text : String) : Option Format := all.find? (·.name == text)

end Format

inductive Colour where
  | red
  | green
  | yellow
  | blue
  deriving DecidableEq, Repr

def Colour.code : Colour → String
  | red => "31"
  | green => "32"
  | yellow => "33"
  | blue => "34"

def Colour.paint (c : Colour) (text : String) : String := "\x1b[" ++ c.code ++ "m" ++ text ++ "\x1b[0m"

def Severity.colour : Severity → Colour
  | .info => .blue
  | .warning => .yellow
  | .error => .red

def Severity.label (s : Severity) : String := s.colour.paint s.render

namespace Report

/-- That of the gravest findings, of which those of mere information do not count. -/
def summaryColour (r : Report) : Colour :=
  if r.count .error > 0 then .red else if r.count .warning > 0 then .yellow else .green

def toText (r : Report) : String :=
  String.join (r.findings.map fun f => f.renderLabelled f.severity.label ++ "\n")
    ++ r.summaryColour.paint r.summary ++ "\n"

def toCompact (r : Report) : String := String.join (r.findings.map fun f => f.render ++ "\n")

def print (r : Report) : Format → String
  | .text => r.toText
  | .json => r.toJsonText ++ "\n"
  | .compact => r.toCompact

end Report

inductive PrintError where
  | pathNotText
  deriving DecidableEq, Repr

def PrintError.message : PrintError → String
  | pathNotText => "path contains invalid UTF-8 characters"

/-- The report of a file in a form. The JSON form writes paths as text, so it fails at
    the first finding in a file whose path is none. -/
def Report.tryPrint (r : Report) (isText : Bool) (format : Format) : Except PrintError String :=
  if format = .json && !isText && !r.findings.isEmpty then .error .pathNotText else .ok (r.print format)

end CallSieve
