import CallSieve.Catalog.Preset
import CallSieve.Text.Pieces
import CallSieve.Text.Space

namespace CallSieve.Selection

/-- The items of a text, which stand between commas. -/
def ofText (text : String) : List String :=
  ((Text.pieces ',' text).map Text.trimmed).filter (!·.isEmpty)

def default : List String := [Preset.recommended.name]

/-- The entries one item stands for: those of a preset, or the one of that name
    or code. -/
def entriesOf? (item : String) : Option (List Entry) :=
  match Preset.parse? item with
  | some p => some p.entries
  | none => (Entry.find? item).map ([·])

/-- What the items so far have picked: the codes of entries, each once, and the
    items that were passed over. -/
structure Picked where
  codes : List String := []
  unknown : List String := []
  deriving DecidableEq, Repr

namespace Picked

def addEntry (p : Picked) (e : Entry) : Picked :=
  if p.codes.contains e.code then p else { p with codes := p.codes ++ [e.code] }

def addItem (p : Picked) (item : String) : Picked :=
  match entriesOf? item with
  | some entries => entries.foldl addEntry p
  | none => { p with unknown := p.unknown ++ [item] }

end Picked

def pick (items : List String) : Picked := items.foldl .addItem {}

/-- Builds the groups of the codes that are picked, in the order of the catalog. -/
def resolve {τ : Type} (items : List String) : Except PresetError (List (MatcherGroup τ)) :=
  (Entry.withCodes (pick items).codes).mapM Entry.buildGroup

def isKnown (item : String) : Bool := (entriesOf? item).isSome

def picks (item : String) (e : Entry) : Bool := ((entriesOf? item).getD []).contains e

/-- The entries that any item picks, each once and in the order of the catalog. -/
def entries (items : List String) : List Entry := Entry.all.filter fun e => items.any (picks · e)

/-- What `resolve` comes to, since every entry builds. -/
def groups {τ : Type} (items : List String) : List (MatcherGroup τ) := (entries items).map (·.group)

end CallSieve.Selection
