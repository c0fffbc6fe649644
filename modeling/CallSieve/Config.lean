import CallSieve.Rules

namespace CallSieve

structure Settings where
  /-- The selection from the catalog; none leaves it to the caller. -/
  presets : Option (List String) := none
  /-- The severity from which on findings fail a check. -/
  failOn : Option Severity := none
  deriving DecidableEq, Repr

structure Config (τ : Type) where
  settings : Settings
  groups : List (MatcherGroup τ)

inductive ConfigError where
  | settings (e : Toml.Error)
  | rules (e : RuleError)
  deriving DecidableEq

def ConfigError.message : ConfigError → String
  | settings e => "Failed to parse config: " ++ e.message
  | rules e => "Invalid matcher definition: " ++ e.message

namespace Settings

open Toml (Value FieldError)

def read (v : Value) : Except FieldError Settings := do
  let r ← v.asRecord ["presets", "fail-on"]
  r.read ({} : Settings) fun s key v =>
    match key with
    | "presets" => return { s with presets := some (← v.asStrings) }
    | "fail-on" => return { s with failOn := some (← v.asVariant Severity.render Severity.all) }
    | _ => return s

def readFrom (r : Toml.Record) : Except FieldError Settings :=
  r.read {} fun s key v =>
    match key with
    | "settings" => read v
    | _ => return s

end Settings

namespace Config

variable {τ : Type}

/-- The configuration where there is no file. -/
def default : Config τ := ⟨{}, []⟩

def failOn (c : Config τ) : Severity := c.settings.failOn.getD .error

def parse (text : String) : Except ConfigError (Config τ) := do
  let settings ← (Toml.readText text Settings.readFrom).mapError .settings
  let groups ← (Rules.parse text).mapError .rules
  return ⟨settings, groups⟩

end Config

end CallSieve
