import CallSieve.Text.Pieces
import CallSieve.Text.Quoted

namespace CallSieve

/-- What stands between the slashes of a path, without the slash that an
    absolute path begins with. -/
structure FilePath where
  isAbsolute : Bool
  pieces : List String
  deriving DecidableEq, Repr

namespace FilePath

def ofString (text : String) : FilePath :=
  match text.toList with
  | [] => ⟨false, []⟩
  | '/' :: rest => ⟨true, (Text.cut '/' rest).map String.ofList⟩
  | cs => ⟨false, (Text.cut '/' cs).map String.ofList⟩

def render (p : FilePath) : String := (if p.isAbsolute then "/" else "") ++ "/".intercalate p.pieces

def quoted (p : FilePath) : String := Text.quoted p.render

/-- A piece that leads nowhere: an empty one, or the name that each directory has for itself. -/
def isIdle (piece : String) : Bool := piece == "" || piece == "."

/-- Pieces without the idle ones at their end. -/
def withoutIdleEnd (pieces : List String) : List String := (pieces.reverse.dropWhile isIdle).reverse

/-- Pieces without the last that leads anywhere, and the idle ones around it. -/
def above? (pieces : List String) : Option (List String) :=
  match withoutIdleEnd pieces with
  | [] => none
  | named => some (withoutIdleEnd named.dropLast)

/-- The directory that a path leads through to its last piece, by the text
    alone. A relative path of one piece lies in the empty path; the root and the
    empty path lie nowhere. At the beginning of a relative path no piece is idle. -/
def parent? : FilePath → Option FilePath
  | ⟨true, pieces⟩ => (above? pieces).map (⟨true, ·⟩)
  | ⟨false, []⟩ => none
  | ⟨false, first :: rest⟩ =>
    match above? rest with
    | none => some ⟨false, []⟩
    | some rest => some ⟨false, first :: rest⟩

theorem length_withoutIdleEnd (pieces : List String) : (withoutIdleEnd pieces).length ≤ pieces.length := by
  have := (pieces.reverse.dropWhile_sublist isIdle).length_le
  simpa [withoutIdleEnd] using this

theorem length_lt_of_above? {pieces above : List String} (known : above? pieces = some above) :
    above.length < pieces.length := by
  unfold above? at known
  split at known
  · simp at known
  · next named shape =>
    obtain rfl := Option.some.inj known
    have shorter := length_withoutIdleEnd pieces
    have dropped := length_withoutIdleEnd (withoutIdleEnd pieces).dropLast
    have : (withoutIdleEnd pieces).length ≠ 0 := by simpa using shape
    simp only [List.length_dropLast] at dropped
    omega

theorem length_lt_of_parent? {p q : FilePath} (parent : p.parent? = some q) : q.pieces.length < p.pieces.length := by
  fun_cases parent? p with
  | case1 pieces =>
    obtain ⟨above, known, rfl⟩ := Option.map_eq_some_iff.1 parent
    exact length_lt_of_above? known
  | case2 => simp [parent?] at parent
  | case3 first rest none => simp_all [parent?]; simp [← parent]
  | case4 first rest above known =>
    have := length_lt_of_above? known
    simp only [parent?, known, Option.some.injEq] at parent
    simp [← parent, this]

def ancestors (p : FilePath) : List FilePath :=
  p :: match parent : p.parent? with
    | none => []
    | some q =>
      have := length_lt_of_parent? parent
      q.ancestors
termination_by p.pieces.length

/-- The path of a name in a directory. One slash at the end of the directory
    serves as the slash between them. -/
def child (p : FilePath) (name : String) : FilePath :=
  ⟨p.isAbsolute, (if p.pieces.getLast? = some "" then p.pieces.dropLast else p.pieces) ++ [name]⟩

end FilePath

end CallSieve
