import CallSieve.Hierarchy
import CallSieve.Symbol

/-!
Declared types and methods. Supertypes are kept by name and looked up when they
are asked for, so the order of declarations does not matter and a later
declaration of the same name takes the place of the earlier one. Names that
are never declared stand for unknown types.
-/

namespace CallSieve

inductive TypeKind where
  /-- A class, abstract or not. -/
  | classKind
  | interface
  | primitive
  deriving DecidableEq, Repr

def TypeKind.render : TypeKind → String
  | .classKind => "class"
  | .interface => "interface"
  | .primitive => "primitive"

def TypeKind.all : List TypeKind := [.classKind, .interface, .primitive]

structure TypeDecl where
  name : String
  kind : TypeKind
  supers : List String
  deriving DecidableEq, Repr

/-- A method or constructor, with its owner and parameter types by name. -/
structure MethodDecl where
  owner : String
  name : String
  parameters : List String
  deriving DecidableEq, Repr

/-- A handle on a declared method: its place in the table. -/
structure MethodId where
  index : Nat
  deriving DecidableEq, Repr

structure TypeTable where
  types : List TypeDecl
  methods : List MethodDecl
  deriving DecidableEq, Repr

namespace TypeTable

def rootName : String := "java.lang.Object"

def primitiveNames : List String :=
  ["boolean", "byte", "char", "short", "int", "long", "float", "double", "void"]

def indexOf? (t : TypeTable) (name : String) : Option Nat := t.types.findIdx? (·.name == name)

def find? (t : TypeTable) (name : String) : Option TypeDecl := t.types.find? (·.name == name)

def contains (t : TypeTable) (name : String) : Bool := (t.find? name).isSome

/-- Adds a type, or puts it in the place of the type of its name. -/
def declare (t : TypeTable) (d : TypeDecl) : TypeTable :=
  match t.indexOf? d.name with
  | some i => { t with types := t.types.set i d }
  | none => { t with types := t.types ++ [d] }

def declareClass (t : TypeTable) (name : String) (supers : List String) : TypeTable :=
  t.declare ⟨name, .classKind, supers⟩

def declareInterface (t : TypeTable) (name : String) (supers : List String) : TypeTable :=
  t.declare ⟨name, .interface, supers⟩

/-- The table of the types that need no declaration. -/
def initial : TypeTable :=
  ⟨primitiveNames.map (⟨·, .primitive, []⟩) ++ [⟨rootName, .classKind, []⟩], []⟩

/-- Adds a method. Methods are never replaced, so earlier handles stay good. -/
def declareMethod (t : TypeTable) (m : MethodDecl) : TypeTable × MethodId :=
  ({ t with methods := t.methods ++ [m] }, ⟨t.methods.length⟩)

def method? (t : TypeTable) (id : MethodId) : Option MethodDecl := t.methods[id.index]?

/-- The first method declared with exactly this signature. -/
def findMethod? (t : TypeTable) (owner name : String) (parameters : List String) : Option MethodId :=
  (t.methods.findIdx? (· == ⟨owner, name, parameters⟩)).map (⟨·⟩)

/-- Whether a type has the root for a supertype without listing it: a class
    that lists no class, and an interface that lists nothing. -/
def hasImplicitRoot (t : TypeTable) (d : TypeDecl) : Bool :=
  match d.kind with
  | .primitive => false
  | .interface => d.supers.isEmpty
  | .classKind => d.name != rootName && !d.supers.any fun s => (t.find? s).map (·.kind) == some .classKind

/-- The names of the direct supertypes, the implicit root last. -/
def superNames (t : TypeTable) (d : TypeDecl) : List String :=
  if t.hasImplicitRoot d then d.supers ++ [rootName] else d.supers

end TypeTable

structure TypeRef where
  table : TypeTable
  decl : Option TypeDecl

/-- The type of a name, unknown if the name is not declared. -/
def TypeTable.get (t : TypeTable) (name : String) : TypeRef := ⟨t, t.find? name⟩

/-- The type that stands for all that is not declared. -/
def TypeTable.unknown (t : TypeTable) : TypeRef := ⟨t, none⟩

namespace TypeRef

def kind (r : TypeRef) : Option TypeKind := r.decl.map (·.kind)

def name (r : TypeRef) : String :=
  match r.decl with
  | some d => d.name
  | none => Hierarchy.unknownName

def supers (r : TypeRef) : List TypeRef :=
  match r.decl with
  | some d => (r.table.superNames d).map r.table.get
  | none => []

/-- The names declared in the table, after the type's own. -/
def vocabulary (r : TypeRef) : List String := (r.decl.map (·.name)).toList ++ r.table.types.map (·.name)

theorem vocabulary_get_subset (t : TypeTable) (name : String) :
    (t.get name).vocabulary ⊆ t.types.map (·.name) := by
  intro k member
  rcases List.mem_append.mp member with own | listed
  · obtain ⟨d, found, rfl⟩ := Option.map_eq_some_iff.mp (Option.mem_toList.mp own)
    exact List.mem_map_of_mem (List.mem_of_find?_eq_some found)
  · exact listed

instance : Hierarchy TypeRef where
  name := name
  isUnknown r := r.decl.isNone
  supers := supers
  vocabulary := vocabulary
  name_mem_vocabulary {r} known := by
    cases h : r.decl with
    | none => simp [h] at known
    | some d => simp [name, vocabulary, h]
  vocabulary_subset {s r} above := by
    cases h : r.decl with
    | none => simp [supers, h] at above
    | some d =>
      obtain ⟨n, _, rfl⟩ := List.mem_map.mp (by simpa only [supers, h] using above)
      exact List.Subset.trans (vocabulary_get_subset r.table n) (List.subset_append_right _ _)

end TypeRef

def TypeTable.symbolOf (t : TypeTable) (m : MethodDecl) : Symbol TypeRef where
  name := m.name
  isMethod := true
  isUnknown := false
  owner := some (t.get m.owner)
  parameters := m.parameters.map t.get

/-- The symbol of a handle, if the table holds a method there. -/
def TypeTable.symbol? (t : TypeTable) (id : MethodId) : Option (Symbol TypeRef) :=
  (t.method? id).map t.symbolOf

end CallSieve
