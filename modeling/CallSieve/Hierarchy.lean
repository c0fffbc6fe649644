/-!
What a host says of its types, and the subtype test by name. The test walks
up depth first and expands each name at most once, so diamonds cost linear
time and a hierarchy with cycles is still walked to an end.
-/

namespace CallSieve

/-- Types as a matcher sees them. `name` is the erased qualified name and
    `supers` are the direct supertypes; an unknown type is one the host could
    not resolve. The vocabulary of a type is a finite list of names that holds
    its own name and does not grow on the way up. -/
class Hierarchy (τ : Type) where
  name : τ → String
  isUnknown : τ → Bool
  supers : τ → List τ
  vocabulary : τ → List String
  name_mem_vocabulary {t : τ} : isUnknown t = false → name t ∈ vocabulary t
  vocabulary_subset {s t : τ} : s ∈ supers t → vocabulary s ⊆ vocabulary t

namespace Hierarchy

/-- The name under which every unknown type of a table goes. -/
def unknownName : String := "!unknown!"

variable {τ : Type} [Hierarchy τ]

/-- Exact comparison by name. An unknown type has no name to compare. -/
def hasName (t : τ) (wanted : String) : Bool := !isUnknown t && name t == wanted

/-- How a type is written in an answer about it. -/
def label (t : τ) : String := if isUnknown t then unknownName else name t

/-- What a walk ends with: the wanted name, or all the names it has seen. -/
inductive Walk where
  | found
  | exhausted (visited : List String)
  deriving DecidableEq, Repr

def unvisited (words visited : List String) : List String := words.filter (· ∉ visited)

theorem unvisited_lt {words visited : List String} {n : String} (inside : n ∈ words) (fresh : n ∉ visited) :
    (unvisited words (n :: visited)).length < (unvisited words visited).length := by
  have split : unvisited words (n :: visited) = (unvisited words visited).filter (· ≠ n) := by
    simp only [unvisited, List.filter_filter, List.mem_cons]
    congr 1
    funext m
    by_cases h : m = n <;> simp [h]
  rw [split]
  exact List.length_filter_lt_length_iff_exists.mpr ⟨n, by simp [unvisited, inside, fresh], by simp⟩

/-- Walks up from pending types, the first one and all above it first. Unknown
    types and visited names are passed over. -/
def climb (words : List String) (wanted : String) (visited : List String) (pending : List τ)
    (covered : ∀ t ∈ pending, vocabulary t ⊆ words) : Walk :=
  match pending with
  | [] => .exhausted visited
  | t :: rest =>
    if skip : isUnknown t = true ∨ name t ∈ visited then
      climb words wanted visited rest (fun s h => covered s (List.mem_cons_of_mem _ h))
    else if name t = wanted then .found
    else
      climb words wanted (name t :: visited) (supers t ++ rest) (fun s h => by
        rcases List.mem_append.mp h with h | h
        · exact List.Subset.trans (vocabulary_subset h) (covered t List.mem_cons_self)
        · exact covered s (List.mem_cons_of_mem _ h))
termination_by ((unvisited words visited).length, pending.length)
decreasing_by
  · exact Prod.Lex.right _ (by simp)
  · refine Prod.Lex.left _ _ (unvisited_lt ?_ (fun h => skip (Or.inr h)))
    exact covered t List.mem_cons_self (name_mem_vocabulary (by simpa using fun h => skip (Or.inl h)))

/-- The walk over the types strictly above `t`, given names already visited. -/
def walkAbove (t : τ) (wanted : String) (visited : List String) : Walk :=
  climb (vocabulary t) wanted visited (supers t) (fun _ h => vocabulary_subset h)

/-- Reflexive, transitive subtyping by name, false for an unknown type. -/
def isSubtype (t : τ) (wanted : String) : Bool :=
  if isUnknown t then false
  else if name t = wanted then true
  else walkAbove t wanted [name t] = .found

end Hierarchy

end CallSieve
