import CallSieve.Disk

/-!
A disk held in memory. A place on it is the list of names that lead there from
the root. There are no links, so each thing is in one place.
-/

namespace CallSieve

structure FileTree where
  files : List (List String × String)
  /-- Directories that need not hold anything. -/
  directories : List (List String)
  /-- The directory where relative paths begin. -/
  working : List String
  deriving DecidableEq, Repr

namespace FileTree

/-- What leads to a file or a directory is a directory. -/
def isDirectory (t : FileTree) (place : List String) : Bool :=
  place.isEmpty || (t.working :: t.directories ++ t.files.map (·.1.dropLast)).any place.isPrefixOf

def content? (t : FileTree) (place : List String) : Option String := t.files.lookup place

/-- The place that one piece of a path leads to. -/
def follow? (t : FileTree) (place : List String) (piece : String) : Option (List String) :=
  if !t.isDirectory place then none
  else if FilePath.isIdle piece then some place
  else if piece == ".." then some place.dropLast
  else
    let next := place ++ [piece]
    if t.isDirectory next || (t.content? next).isSome then some next else none

def start (t : FileTree) (p : FilePath) : List String := if p.isAbsolute then [] else t.working

/-- The place of what is at a path. There is nothing at the empty path. -/
def place? (t : FileTree) (p : FilePath) : Option (List String) :=
  if !p.isAbsolute && p.pieces.isEmpty then none else p.pieces.foldlM t.follow? (t.start p)

def isFile (t : FileTree) (p : FilePath) : Bool := ((t.place? p).bind t.content?).isSome

def canonical? (t : FileTree) (p : FilePath) : Option FilePath := (t.place? p).map (⟨true, ·⟩)

def read? (t : FileTree) (p : FilePath) : Option String := (t.place? p).bind t.content?

def put (t : FileTree) (place : List String) (text : String) : FileTree :=
  { t with files := (place, text) :: t.files.filter (·.1 ≠ place) }

/-- Where a text is written: over the file at a path, or as a new file in a
    directory that is there. -/
def target (t : FileTree) (p : FilePath) : Except WriteError (List String) :=
  match t.place? p with
  | some place => if t.isDirectory place then .error .isDirectory else .ok place
  | none =>
    match p.pieces.getLast?, p.pieces.dropLast.foldlM t.follow? (t.start p) with
    | some name, some dir =>
      if t.isDirectory dir && !FilePath.isIdle name && name != ".." then .ok (dir ++ [name])
      else .error (.other "Not a directory (os error 20)")
    | _, _ => .error (.other "No such file or directory (os error 2)")

def write (t : FileTree) (p : FilePath) (text : String) : Except WriteError FileTree :=
  (t.target p).map (t.put · text)

/-- The tree as the disk of commands that may change it. -/
def disk : Disk (StateM FileTree) where
  isFile p := return (← get).isFile p
  isPresent p := return ((← get).place? p).isSome
  canonical? p := return (← get).canonical? p
  read p := return match (← get).read? p with
    | some text => .ok text
    | none => .error "No such file or directory (os error 2)"
  write p text := do
    match (← get).write p text with
    | .ok t => set t; return .ok ()
    | .error e => return .error e

end FileTree

end CallSieve
