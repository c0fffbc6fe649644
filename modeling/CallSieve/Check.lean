import CallSieve.Catalog.Selection
import CallSieve.Config
import CallSieve.FilePath
import CallSieve.Report.Format
import CallSieve.Snapshot.File

namespace CallSieve

structure Check where
  snapshot : FilePath
  /-- Whether the path of the snapshot is text, or only shown as one. -/
  isText : Bool := true
  format : Format := .text
  /-- The text of a selection, which goes before that of the configuration. -/
  presets : Option String := none
  mode : Mode := .tree
  deriving DecidableEq, Repr

namespace Check

def directory (c : Check) : FilePath :=
  match c.snapshot.parent? with
  | some ⟨false, []⟩ | none => .ofString "."
  | some dir => dir

def selection {τ : Type} (c : Check) (config : Config τ) : List String :=
  match c.presets with
  | some text => Selection.ofText text
  | none => config.settings.presets.getD Selection.default

/-- The selected groups of the catalog, and then those of the configuration. -/
def groups {τ : Type} (c : Check) (config : Config τ) : Except PresetError (List (MatcherGroup τ)) := do
  return (← Selection.resolve (c.selection config)) ++ config.groups

def report (c : Check) (groups : List (MatcherGroup TypeRef)) (s : Snapshot) : Report :=
  s.report c.snapshot.render groups c.mode

end Check

end CallSieve
