import CallSieve.Proofs.Catalog.Selection
import CallSieve.Proofs.Disk.Reading
import CallSieve.Proofs.Except
import CallSieve.Proofs.Report.Findings
import CallSieve.Proofs.TypeTable.History

namespace CallSieve

namespace Snapshot

variable {s : Snapshot} {file : String} {groups : List (MatcherGroup TypeRef)} {mode : Mode}

end Snapshot

namespace Check

section
variable {τ : Type}

end

section
variable {c : Check} {threshold : Severity} {groups : List (MatcherGroup TypeRef)} {s : Snapshot}

end

end Check

section
variable {σ : Type}

variable {disk : Disk (StateM σ)} {env : Environment} {given : Option FilePath} {start : σ} {c : Check}
  {config : Config TypeRef} {s : Snapshot}

end

end CallSieve
