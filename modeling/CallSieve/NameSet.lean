namespace CallSieve

/-- Names in strictly ascending order. -/
structure NameSet where
  names : List String
  ascending : names.Pairwise (· < ·)
  deriving DecidableEq

namespace NameSet

/-- Puts a name in its place, unless it is there. -/
def place (n : String) : List String → List String
  | [] => [n]
  | m :: rest => if n < m then n :: m :: rest else if n = m then m :: rest else m :: place n rest

theorem mem_place {n k : String} {names : List String} : k ∈ place n names ↔ k = n ∨ k ∈ names := by
  induction names with
  | nil => simp [place]
  | cons m rest ih =>
    rw [place]
    split
    · simp
    · split
      · rename_i same; simp [same]
      · simp only [List.mem_cons, ih]
        grind

theorem place_ascending {n : String} {names : List String} (h : names.Pairwise (· < ·)) :
    (place n names).Pairwise (· < ·) := by
  induction names with
  | nil => simp [place]
  | cons m rest ih =>
    obtain ⟨below, later⟩ := List.pairwise_cons.mp h
    rw [place]
    split
    · rename_i first
      refine List.pairwise_cons.mpr ⟨fun k member => ?_, h⟩
      rcases List.mem_cons.mp member with rfl | member
      · exact first
      · exact String.lt_trans first (below k member)
    · split
      · exact h
      · rename_i after other
        refine List.pairwise_cons.mpr ⟨fun k member => ?_, ih later⟩
        rcases mem_place.mp member with rfl | member
        · rcases String.le_total k m with le | le
          · exact absurd (String.le_antisymm le (String.not_lt.mp after)) other
          · exact String.not_le.mp (fun back => other (String.le_antisymm back le))
        · exact below k member

def empty : NameSet := ⟨[], .nil⟩

def insert (s : NameSet) (n : String) : NameSet := ⟨place n s.names, place_ascending s.ascending⟩

def ofList (names : List String) : NameSet := names.foldl insert empty

def contains (s : NameSet) (n : String) : Bool := s.names.contains n

theorem contains_insert (s : NameSet) (n k : String) : (s.insert n).contains k = (k == n || s.contains k) := by
  rw [Bool.eq_iff_iff]
  simp [contains, insert, mem_place]

theorem contains_ofList (names : List String) (k : String) : (ofList names).contains k = names.contains k := by
  have grown : ∀ s : NameSet, (names.foldl insert s).contains k = (names.contains k || s.contains k) := by
    induction names with
    | nil => simp
    | cons n rest ih =>
      intro s
      rw [List.foldl_cons, ih, contains_insert, List.contains_cons]
      cases rest.contains k <;> cases k == n <;> simp
  rw [ofList, grown]
  simp [empty, contains]

end NameSet

end CallSieve
