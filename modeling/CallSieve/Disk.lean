import CallSieve.FilePath

namespace CallSieve

inductive WriteError where
  | isDirectory
  | other (message : String)
  deriving DecidableEq, Repr

def WriteError.message : WriteError → String
  | isDirectory => "Is a directory (os error 21)"
  | other message => message

/-- Access to files, with effects of any kind. -/
structure Disk (m : Type → Type) where
  /-- Whether there is a file at a path, and no directory. -/
  isFile : FilePath → m Bool
  isPresent : FilePath → m Bool
  /-- The path from the root by which something is known that is there. -/
  canonical? : FilePath → m (Option FilePath)
  /-- The text of a file, or why it cannot be read. -/
  read : FilePath → m (Except String String)
  write : FilePath → String → m (Except WriteError Unit)

end CallSieve
