import CallSieve.FilePath

namespace CallSieve

inductive ConfigSource where
  | explicit (path : FilePath)
  | project (path : FilePath)
  | global (path : FilePath)
  | default
  deriving DecidableEq, Repr

namespace ConfigSource

def path? : ConfigSource → Option FilePath
  | explicit path | project path | global path => some path
  | default => none

/-- The names of the file of a project. In one directory the first goes before
    the second. -/
def projectNames : List String := ["methodmatch.toml", ".methodmatch.toml"]

def globalName : String := "config.toml"

def projectCandidates (start : FilePath) : List FilePath :=
  start.ancestors.flatMap fun dir => projectNames.map dir.child

def globalCandidate (dir : FilePath) : FilePath := dir.child globalName

/-- The paths at which a configuration is looked for if none is given. -/
def candidates (start : FilePath) (globalDir : Option FilePath) : List FilePath :=
  projectCandidates start ++ (globalDir.map globalCandidate).toList

/-- The source for a check that starts in a directory. A path that is given
    need not be there. -/
def locate (isFile : FilePath → Bool) (start : FilePath) (given globalDir : Option FilePath) : ConfigSource :=
  match given with
  | some path => .explicit path
  | none =>
    match (projectCandidates start).find? isFile with
    | some path => .project path
    | none =>
      match (globalDir.map globalCandidate).filter isFile with
      | some path => .global path
      | none => .default

end ConfigSource

end CallSieve
