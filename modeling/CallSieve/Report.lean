import CallSieve.Group
import CallSieve.Snapshot

namespace CallSieve

/-- A site that a group accepts, as a line of the file it comes from. -/
structure Finding where
  id : String
  severity : Severity
  file : String
  line : UInt32
  message : String
  deriving DecidableEq, Repr

namespace Finding

/-- On one line, as long as the message is. -/
def render (f : Finding) : String :=
  f.file ++ ":" ++ toString f.line ++ ": " ++ f.severity.render ++ " [" ++ f.id ++ "] " ++ f.message

/-- On two lines, with a label for the severity. -/
def renderLabelled (f : Finding) (label : String) : String :=
  f.id ++ " at " ++ f.file ++ ":" ++ toString f.line ++ "\n  " ++ label ++ ": " ++ f.message ++ "\n"

/-- Whether a finding may stand before another: by line, then by id. -/
def le (a b : Finding) : Bool := a.line < b.line || (a.line == b.line && a.id ≤ b.id)

end Finding

structure Report where
  findings : List Finding
  sitesChecked : UInt64
  deriving DecidableEq, Repr

namespace Report

def empty : Report := ⟨[], 0⟩

def count (r : Report) (s : Severity) : Nat := (r.findings.filter (·.severity = s)).length

def hasErrors (r : Report) : Bool := r.findings.any (·.severity = .error)

/-- Whether any finding is at or above a threshold. -/
def hasFindingsAt (r : Report) (threshold : Severity) : Bool := r.findings.any (·.severity.reaches threshold)

def summary (r : Report) : String :=
  "Found " ++ toString (r.count .error) ++ " error(s), " ++ toString (r.count .warning) ++ " warning(s), "
    ++ toString (r.count .info) ++ " info(s) in " ++ toString r.sitesChecked ++ " site(s)"

/-- The findings of another report after those of this one. -/
def extend (r other : Report) : Report := ⟨r.findings ++ other.findings, r.sitesChecked + other.sitesChecked⟩

end Report

def MatcherGroup.findings (g : MatcherGroup TypeRef) (s : Snapshot) (file : String) (mode : Mode) : List Finding :=
  (s.matchingLines g.matchers mode).map fun line => ⟨g.id.text, g.severity, file, line, g.message⟩

/-- What all groups find. Findings of one line and one id stay in the order of
    groups and then of sites. -/
def Snapshot.report (s : Snapshot) (file : String) (groups : List (MatcherGroup TypeRef)) (mode : Mode) : Report :=
  ⟨(groups.flatMap (·.findings s file mode)).mergeSort Finding.le, UInt64.ofNat s.sites.length⟩

end CallSieve
