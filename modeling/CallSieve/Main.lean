import CallSieve.Command.Run

namespace CallSieve.Program

/-- The path of what is there, without links on it. -/
def resolved (p : FilePath) : IO FilePath := do
  return .ofString (← IO.FS.realPath p.render).toString

def succeeds {α : Type} (action : IO α) : IO Bool := do
  try
    discard action
    return true
  catch _ => return false

def isFile (p : FilePath) : IO Bool := do
  try
    return (← (← IO.FS.realPath p.render).metadata).type == .file
  catch _ => return false

def disk : Disk IO where
  isFile := isFile
  isPresent p := succeeds (resolved p)
  canonical? p := do
    try
      return some (← resolved p)
    catch _ => return none
  read p := do
    try
      return .ok (← IO.FS.readFile p.render)
    catch e => return .error e.toString
  write p text := do
    try
      IO.FS.writeFile p.render text
      return .ok ()
    catch e =>
      if (← succeeds (resolved p)) && !(← isFile p) then return .error .isDirectory
      return .error (.other e.toString)

end CallSieve.Program

def main (arguments : List String) : IO UInt32 := do
  let home ← IO.getEnv "HOME"
  let configDir ← IO.getEnv "METHODMATCH_CONFIG_DIR"
  let env : CallSieve.Environment := ⟨home.map .ofString, configDir.map .ofString⟩
  let outcome ← CallSieve.run CallSieve.Program.disk env arguments
  for entry in outcome.log do
    IO.eprintln entry.render
  IO.print outcome.output
  if let some notice := outcome.ending.notice? then
    IO.eprintln notice
  return outcome.ending.code
