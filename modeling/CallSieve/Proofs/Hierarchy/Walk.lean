import CallSieve.Hierarchy
import Mathlib

/-!
What `climb` finds. It passes over names it has seen, so it can miss a type
whose name was seen at another type; where a name says what is above it
(`Coherent`), the walk finds the wanted name exactly if a chain of types leads
to it that are known and not visited before (`climb_eq_found_iff`). No bound on
the length of chains and no assumption against cycles is needed.
-/

namespace CallSieve.Hierarchy

variable {τ : Type} [Hierarchy τ]

/-- A type the walk may enter: known, and of a name not visited. -/
def IsOpen (visited : List String) (t : τ) : Prop := isUnknown t = false ∧ name t ∉ visited

/-- One step up, to a type the walk may enter. -/
def Step (visited : List String) (t s : τ) : Prop := s ∈ supers t ∧ IsOpen visited s

/-- A type at the end of a chain of open types that begins with a pending one. -/
def Reached (visited : List String) (pending : List τ) (t : τ) : Prop :=
  ∃ r ∈ pending, IsOpen visited r ∧ Relation.ReflTransGen (Step visited) r t

/-- Types reached under one name have known supertypes of the same names. -/
def Coherent (visited : List String) (pending : List τ) : Prop :=
  ∀ t u, Reached visited pending t → Reached visited pending u → name t = name u →
    ∀ s ∈ supers t, isUnknown s = false → ∃ s' ∈ supers u, isUnknown s' = false ∧ name s' = name s

theorem IsOpen.mono {small large : List String} (subset : small ⊆ large) {t : τ} (isOpen : IsOpen large t) :
    IsOpen small t := ⟨isOpen.1, fun seen => isOpen.2 (subset seen)⟩

theorem Step.mono {small large : List String} (subset : small ⊆ large) {t s : τ} (step : Step large t s) :
    Step small t s := ⟨step.1, step.2.mono subset⟩

theorem Reached.isOpen {visited : List String} {pending : List τ} {t : τ} (reached : Reached visited pending t) :
    IsOpen visited t := by
  obtain ⟨r, -, isOpen, path⟩ := reached
  cases path with
  | refl => exact isOpen
  | tail _ step => exact step.2

theorem Reached.skip {visited : List String} {t : τ} {rest : List τ} {s : τ} (reached : Reached visited rest s) :
    Reached visited (t :: rest) s := by
  obtain ⟨r, member, chain⟩ := reached
  exact ⟨r, List.mem_cons_of_mem _ member, chain⟩

/-- What is reached after a type is expanded was reached before. -/
theorem Reached.expand {visited : List String} {t : τ} {rest : List τ} {s : τ} (isOpen : IsOpen visited t)
    (reached : Reached (name t :: visited) (supers t ++ rest) s) : Reached visited (t :: rest) s := by
  have subset : visited ⊆ name t :: visited := List.subset_cons_self _ _
  obtain ⟨r, member, rOpen, path⟩ := reached
  have pathBefore : Relation.ReflTransGen (Step visited) r s := 
    Relation.ReflTransGen.mono (fun _ _ step => step.mono subset) _ _ path
  rcases List.mem_append.mp member with above | later
  · exact ⟨t, List.mem_cons_self, isOpen, pathBefore.head ⟨above, rOpen.mono subset⟩⟩
  · exact ⟨r, List.mem_cons_of_mem _ later, rOpen.mono subset, pathBefore⟩

theorem reached_supers_iff {visited : List String} {t s : τ} :
    Reached visited (supers t) s ↔ Relation.TransGen (Step visited) t s := by
  rw [Relation.TransGen.head'_iff]
  simp only [Reached, Step, and_assoc]

theorem reached_of_climb_eq_found {words visited : List String} {wanted : String} {pending : List τ}
    {covered : ∀ t ∈ pending, vocabulary t ⊆ words} (found : climb words wanted visited pending covered = .found) :
    ∃ t, Reached visited pending t ∧ name t = wanted := by
  fun_induction climb words wanted visited pending covered with
  | case1 => cases found
  | case2 visited t rest _ _ _ ih =>
    obtain ⟨s, reached, named⟩ := ih found
    exact ⟨s, reached.skip, named⟩
  | case3 visited t rest _ skip named _ =>
    exact ⟨t, ⟨t, List.mem_cons_self, by simpa [IsOpen] using skip, .refl⟩, named⟩
  | case4 visited t rest _ skip _ _ ih =>
    obtain ⟨s, reached, named⟩ := ih found
    exact ⟨s, reached.expand (by simpa [IsOpen] using skip), named⟩

/-- What is known when nothing is pending any more: every new name is that of a
    reached type all of whose known supertypes have been visited as well. -/
structure Exhausted (visited : List String) (pending : List τ) (wanted : String) (after : List String) : Prop where
  kept : visited ⊆ after
  entered : ∀ t ∈ pending, isUnknown t = false → name t ∈ after
  missed : wanted ∈ after → wanted ∈ visited
  expanded : ∀ n ∈ after, n ∉ visited →
    ∃ t, Reached visited pending t ∧ name t = n ∧ ∀ s ∈ supers t, isUnknown s = false → name s ∈ after

theorem Exhausted.skip {visited after : List String} {wanted : String} {t : τ} {rest : List τ}
    (exhausted : Exhausted visited rest wanted after) (skip : isUnknown t = true ∨ name t ∈ visited) :
    Exhausted visited (t :: rest) wanted after where
  kept := exhausted.kept
  entered := by
    intro s member known
    rcases List.mem_cons.mp member with rfl | later
    · exact exhausted.kept (skip.resolve_left (by simp [known]))
    · exact exhausted.entered s later known
  missed := exhausted.missed
  expanded := by
    intro n new fresh
    obtain ⟨s, reached, named, above⟩ := exhausted.expanded n new fresh
    exact ⟨s, reached.skip, named, above⟩

theorem Exhausted.expand {visited after : List String} {wanted : String} {t : τ} {rest : List τ}
    (exhausted : Exhausted (name t :: visited) (supers t ++ rest) wanted after) (isOpen : IsOpen visited t)
    (other : name t ≠ wanted) : Exhausted visited (t :: rest) wanted after where
  kept := List.Subset.trans (List.subset_cons_self _ _) exhausted.kept
  entered := by
    intro s member known
    rcases List.mem_cons.mp member with rfl | later
    · exact exhausted.kept List.mem_cons_self
    · exact exhausted.entered s (List.mem_append_right _ later) known
  missed := by
    intro member
    rcases List.mem_cons.mp (exhausted.missed member) with same | seen
    · exact absurd same.symm other
    · exact seen
  expanded := by
    intro n new fresh
    by_cases same : n = name t
    · refine ⟨t, ⟨t, List.mem_cons_self, isOpen, .refl⟩, same.symm, ?_⟩
      intro s above known
      exact exhausted.entered s (List.mem_append_left _ above) known
    · obtain ⟨s, reached, named, above⟩ := exhausted.expanded n new (by simp [same, fresh])
      exact ⟨s, reached.expand isOpen, named, above⟩

theorem exhausted_of_climb_eq {words visited after : List String} {wanted : String} {pending : List τ}
    {covered : ∀ t ∈ pending, vocabulary t ⊆ words}
    (ended : climb words wanted visited pending covered = .exhausted after) :
    Exhausted visited pending wanted after := by
  fun_induction climb words wanted visited pending covered with
  | case1 visited =>
    cases ended
    exact ⟨List.Subset.refl _, by simp, id, fun n new fresh => absurd new fresh⟩
  | case2 visited t rest _ skip _ ih => exact (ih ended).skip skip
  | case3 => cases ended
  | case4 visited t rest _ skip other _ ih => exact (ih ended).expand (by simpa [IsOpen] using skip) other

/-- A walk to the end visits all that is reached. The induction is along the
    chain: a reached name was entered at some type, and that type has the same
    supertypes by name. -/
theorem Exhausted.visits {visited after : List String} {wanted : String} {pending : List τ}
    (exhausted : Exhausted visited pending wanted after) (coherent : Coherent visited pending) {t : τ}
    (reached : Reached visited pending t) : name t ∈ after := by
  obtain ⟨r, member, isOpen, path⟩ := reached
  induction path with
  | refl => exact exhausted.entered r member isOpen.1
  | @tail t s path step ih =>
    have tReached : Reached visited pending t := ⟨r, member, isOpen, path⟩
    obtain ⟨u, uReached, named, above⟩ := exhausted.expanded (name t) ih tReached.isOpen.2
    obtain ⟨s', s'Above, known, sameName⟩ := coherent t u tReached uReached named.symm s step.1 step.2.1
    exact sameName ▸ above s' s'Above known

/-- What a walk to the end has visited, apart from the names it began with, are the
    names of what is reached. -/
theorem Exhausted.mem_iff {visited after : List String} {wanted : String} {pending : List τ}
    (exhausted : Exhausted visited pending wanted after) (coherent : Coherent visited pending) {n : String} :
    n ∈ after ↔ n ∈ visited ∨ ∃ t, Reached visited pending t ∧ name t = n := by
  constructor
  · intro member
    by_cases seen : n ∈ visited
    · exact .inl seen
    · obtain ⟨t, reached, named, -⟩ := exhausted.expanded n member seen
      exact .inr ⟨t, reached, named⟩
  · rintro (seen | ⟨t, reached, rfl⟩)
    · exact exhausted.kept seen
    · exact exhausted.visits coherent reached

theorem climb_eq_found_iff {words visited : List String} {wanted : String} {pending : List τ}
    {covered : ∀ t ∈ pending, vocabulary t ⊆ words} (coherent : Coherent visited pending) :
    climb words wanted visited pending covered = .found ↔ ∃ t, Reached visited pending t ∧ name t = wanted := by
  refine ⟨reached_of_climb_eq_found, ?_⟩
  rintro ⟨t, reached, rfl⟩
  cases walk : climb words (name t) visited pending covered with
  | found => rfl
  | exhausted after =>
    have exhausted := exhausted_of_climb_eq walk
    exact absurd (exhausted.missed (exhausted.visits coherent reached)) reached.isOpen.2

/-! ### One pending type after the other

The walk takes the types above a pending one before those behind it, all from one list.
So it is a recursion (`climb_cons`), in which a type behind is walked from with the names
that are visited by then. -/

theorem climb_words {words others visited : List String} {wanted : String} {pending : List τ}
    {covered : ∀ t ∈ pending, vocabulary t ⊆ words} (coveredToo : ∀ t ∈ pending, vocabulary t ⊆ others) :
    climb words wanted visited pending covered = climb others wanted visited pending coveredToo := by
  fun_induction climb words wanted visited pending covered with
  | case1 => rw [climb]
  | case2 visited t rest _ skip _ ih =>
    rw [climb, dif_pos skip]
    exact ih _
  | case3 visited t rest _ skip same => rw [climb, dif_neg skip, if_pos same]
  | case4 visited t rest _ skip other _ ih =>
    rw [climb, dif_neg skip, if_neg other]
    exact ih _

/-- What follows a walk that has not found what is wanted. -/
def Walk.andThen : Walk → (List String → Walk) → Walk
  | found, _ => found
  | exhausted visited, next => next visited

/-- The types pending are walked from one after the other, each with the names that
    are visited by then. -/
theorem climb_append {words visited : List String} {wanted : String} {before after : List τ}
    {covered : ∀ t ∈ before, vocabulary t ⊆ words} (coveredAfter : ∀ t ∈ after, vocabulary t ⊆ words)
    (coveredAll : ∀ t ∈ before ++ after, vocabulary t ⊆ words) :
    climb words wanted visited (before ++ after) coveredAll =
      (climb words wanted visited before covered).andThen fun seen => climb words wanted seen after coveredAfter := by
  fun_induction climb words wanted visited before covered with
  | case1 => rfl
  | case2 visited t rest _ skip _ ih =>
    simp only [List.cons_append]
    rw [climb, dif_pos skip]
    exact ih _
  | case3 visited t rest _ skip same =>
    simp only [List.cons_append]
    rw [climb, dif_neg skip, if_pos same]
    rfl
  | case4 visited t rest _ skip other _ ih =>
    simp only [List.cons_append]
    rw [climb, dif_neg skip, if_neg other]
    simp only [← List.append_assoc]
    exact ih _

/-- To walk on from an open type is to walk over all above it, and then on with the
    names that are visited by then. -/
theorem climb_cons {words visited : List String} {wanted : String} {t : τ} {rest : List τ}
    {covered : ∀ s ∈ t :: rest, vocabulary s ⊆ words} (isOpen : IsOpen visited t) (other : name t ≠ wanted) :
    climb words wanted visited (t :: rest) covered =
      (walkAbove t wanted (name t :: visited)).andThen fun seen =>
        climb words wanted seen rest fun s member => covered s (List.mem_cons_of_mem _ member) := by
  have enters : ¬ (isUnknown t = true ∨ name t ∈ visited) := by simpa [IsOpen] using isOpen
  have above : ∀ s ∈ supers t, vocabulary s ⊆ words := fun s member =>
    List.Subset.trans (vocabulary_subset member) (covered t List.mem_cons_self)
  have sameWalk : walkAbove t wanted (name t :: visited) = climb words wanted (name t :: visited) (supers t) above :=
    climb_words above
  rw [climb, dif_neg enters, if_neg other, sameWalk]
  exact climb_append _ _

/-- A type at the end of a chain of known types, of any length, that begins with `t`. -/
def Reaches (t s : τ) : Prop :=
  isUnknown t = false ∧ Relation.ReflTransGen (fun a b => b ∈ supers a ∧ isUnknown b = false) t s

theorem reached_singleton_iff {t s : τ} : Reached [] [t] s ↔ Reaches t s := by
  have steps : Step (τ := τ) [] = fun a b => b ∈ supers a ∧ isUnknown b = false := by
    funext a b
    simp [Step, IsOpen]
  simp [Reached, Reaches, IsOpen, steps]

/-- The subtype test is the walk from the type itself with nothing visited. -/
theorem isSubtype_iff_climb {t : τ} {wanted : String} :
    isSubtype t wanted = true ↔
      climb (vocabulary t) wanted [] [t] (fun _ member => by rw [List.mem_singleton.mp member]; simp) = .found := by
  rw [climb]
  by_cases unknown : isUnknown t = true
  · simp [isSubtype, unknown, climb]
  · by_cases same : name t = wanted
    · simp [isSubtype, unknown, same]
    · simp only [isSubtype, walkAbove, unknown, same, Bool.false_eq_true, ↓reduceIte, List.not_mem_nil, or_self,
        ↓reduceDIte, List.append_nil]
      exact decide_eq_true_iff

theorem isSubtype_iff_reaches {t : τ} (coherent : Coherent [] [t]) {wanted : String} :
    isSubtype t wanted = true ↔ ∃ s, Reaches t s ∧ name s = wanted := by
  rw [isSubtype_iff_climb, climb_eq_found_iff coherent]
  simp only [reached_singleton_iff]

end CallSieve.Hierarchy
