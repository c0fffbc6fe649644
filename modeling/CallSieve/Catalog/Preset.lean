import CallSieve.Catalog

namespace CallSieve

inductive Preset where
  /-- Bug-prone uses with few false alarms. -/
  | recommended
  /-- APIs that matter to security. -/
  | security
  | all
  deriving DecidableEq, Repr

namespace Preset

def every : List Preset := [recommended, security, all]

def name : Preset → String
  | recommended => "recommended"
  | security => "security"
  | all => "all"

def parse? (text : String) : Option Preset := every.find? (·.name == text)

def entries : Preset → List Entry
  | recommended =>
    Entry.withCodes [Entry.stringPrimitiveConstructor.code, Entry.randomFloatToInt.code, Entry.inappropriateRegexp.code,
      Entry.streamPeek.code]
  | security => Entry.withCodes [Entry.sqlInjection.code, Entry.sessionAttribute.code, Entry.envVariables.code]
  | all => Entry.all

end Preset

def padded (width : Nat) (text : String) : String := text ++ String.ofList (List.replicate (width - text.length) ' ')

def Entry.listingLine (e : Entry) : String :=
  "  " ++ padded 6 e.code ++ " " ++ padded 29 e.name ++ " " ++ e.severity.render ++ "\n"

def Preset.listingLine (p : Preset) : String :=
  "  " ++ padded 12 p.name ++ " " ++ ", ".intercalate (p.entries.map (·.code)) ++ "\n"

/-- The catalog and the presets as a table to read. -/
def Catalog.listing : String :=
  "Catalog:\n" ++ String.join (Entry.all.map (·.listingLine)) ++ "\nPresets:\n"
    ++ String.join (Preset.every.map (·.listingLine))

end CallSieve
