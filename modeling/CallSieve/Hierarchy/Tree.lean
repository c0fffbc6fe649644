import CallSieve.Hierarchy

namespace CallSieve

/-- A type with all that is above it. -/
inductive TypeTree where
  | node (name : String) (isUnknown : Bool) (supers : List TypeTree)

namespace TypeTree

def name : TypeTree → String
  | node name _ _ => name

def isUnknown : TypeTree → Bool
  | node _ isUnknown _ => isUnknown

def supers : TypeTree → List TypeTree
  | node _ _ supers => supers

mutual
def names : TypeTree → List String
  | node name _ supers => name :: namesAbove supers
def namesAbove : List TypeTree → List String
  | [] => []
  | t :: rest => names t ++ namesAbove rest
end

theorem names_subset_namesAbove {s : TypeTree} {trees : List TypeTree} (h : s ∈ trees) :
    s.names ⊆ namesAbove trees := by
  induction trees with
  | nil => cases h
  | cons t rest ih =>
    rw [namesAbove]
    rcases List.mem_cons.mp h with rfl | h
    · exact List.subset_append_left _ _
    · exact List.Subset.trans (ih h) (List.subset_append_right _ _)

instance : Hierarchy TypeTree where
  name := name
  isUnknown := isUnknown
  supers := supers
  vocabulary := names
  name_mem_vocabulary {t} _ := by cases t; simp [name, names]
  vocabulary_subset {s t} h := by
    cases t
    rw [names]
    exact List.Subset.trans (names_subset_namesAbove h) (List.subset_cons_self _ _)

end TypeTree

end CallSieve
