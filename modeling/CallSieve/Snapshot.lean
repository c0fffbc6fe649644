import CallSieve.Site

namespace CallSieve

structure Snapshot where
  table : TypeTable
  sites : List Site
  deriving DecidableEq, Repr

namespace Snapshot

/-- The sites that matchers accept, in the order of the snapshot. -/
def matchingSites (s : Snapshot) (ms : Matchers TypeRef) (mode : Mode) : List Site :=
  s.sites.filter (mode.accepts ms s.table)

def matchingLines (s : Snapshot) (ms : Matchers TypeRef) (mode : Mode) : List UInt32 :=
  (s.matchingSites ms mode).map (·.line)

end Snapshot

end CallSieve
