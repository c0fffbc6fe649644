namespace CallSieve.ConfigStarter

/-- The name of the file, in the working directory. -/
def name : String := "methodmatch.toml"

def lines : List String := [
  "# methodmatch configuration",
  "",
  "[settings]",
  "# Presets, catalog entry names or codes to enable (default: [\"recommended\"])",
  "presets = [\"recommended\"]",
  "",
  "# Exit with status 1 when a finding at or above this severity is reported",
  "fail-on = \"error\"",
  "",
  "# Custom matchers. Tables sharing an `id` form one group.",
  "# Each table needs a type criterion, a name criterion and a parameter criterion.",
  "",
  "[[matcher]]",
  "id = \"no-system-exit\"",
  "types = [\"java.lang.System\"]",
  "names = [\"exit\"]",
  "parameters = [[\"int\"]]",
  "message = \"Do not call System.exit\"",
  "severity = \"warning\"",
  "",
  "# [[matcher]]",
  "# id = \"no-collection-clear\"",
  "# subtypes = [\"java.util.Collection\"]",
  "# names = [\"clear\"]",
  "# any-parameters = true"]

def text : String := String.join (lines.map (· ++ "\n"))

end CallSieve.ConfigStarter
