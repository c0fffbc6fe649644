import CallSieve.Matcher.Clause
import Mathlib

/-!
What clauses add up to. A kind is mixed when it has two criteria or more and one
of them is for everything. The first clause after which a kind is mixed decides
the outcome; without such a clause the matcher has what the clauses add, in
their order, unless a kind has nothing.
-/

namespace CallSieve

variable {τ κ : Type}

namespace Clause

@[simp] theorem added_types (criteria : List (TypeCriterion τ)) :
    (types criteria).addedTypes = criteria ∧ (types criteria).addedNames = [] ∧
      (types criteria).addedParameters = [] := ⟨rfl, rfl, rfl⟩

@[simp] theorem added_name (c : NameCriterion) :
    (name c : Clause τ).addedTypes = [] ∧ (name c : Clause τ).addedNames = [c] ∧
      (name c : Clause τ).addedParameters = [] := ⟨rfl, rfl, rfl⟩

@[simp] theorem added_parameters (c : ParametersCriterion τ) :
    (parameters c).addedTypes = [] ∧ (parameters c).addedNames = [] ∧ (parameters c).addedParameters = [c] :=
  ⟨rfl, rfl, rfl⟩

end Clause

/-- Criteria that may not stand together: two or more, one of them for everything. -/
def Crowded (isAny : κ → Bool) (criteria : List κ) : Prop :=
  2 ≤ criteria.length ∧ ∃ c ∈ criteria, isAny c = true

/-- The clauses add criteria of the kind that may not stand together. -/
def Mixed (clauses : List (Clause τ)) : Kind → Prop
  | .type => Crowded (·.isAny) (clauses.flatMap (·.addedTypes))
  | .name => Crowded (·.isAny) (clauses.flatMap (·.addedNames))
  | .parameters => Crowded (·.isAny) (clauses.flatMap (·.addedParameters))

/-- No clause adds a criterion of the kind. -/
def Lacking (clauses : List (Clause τ)) : Kind → Prop
  | .type => clauses.flatMap (·.addedTypes) = []
  | .name => clauses.flatMap (·.addedNames) = []
  | .parameters => clauses.flatMap (·.addedParameters) = []

instance (clauses : List (Clause τ)) : DecidablePred (Lacking clauses)
  | .type => inferInstanceAs (Decidable (clauses.flatMap (·.addedTypes) = []))
  | .name => inferInstanceAs (Decidable (clauses.flatMap (·.addedNames) = []))
  | .parameters => inferInstanceAs (Decidable (clauses.flatMap (·.addedParameters) = []))

/-- The kind is mixed after a clause before which none was. -/
def FirstMixed (clauses : List (Clause τ)) (kind : Kind) : Prop :=
  ∃ before c after, clauses = before ++ c :: after ∧ Mixed (before ++ [c]) kind ∧ ∀ other, ¬ Mixed before other

/-- The first of the kinds, in their order, of which no clause adds a criterion. -/
def FirstLacking (clauses : List (Clause τ)) : Kind → Prop
  | .type => Lacking clauses .type
  | .name => ¬ Lacking clauses .type ∧ Lacking clauses .name
  | .parameters => ¬ Lacking clauses .type ∧ ¬ Lacking clauses .name ∧ Lacking clauses .parameters

theorem Crowded.append {isAny : κ → Bool} {criteria : List κ} (crowded : Crowded isAny criteria) (more : List κ) :
    Crowded isAny (criteria ++ more) := by
  obtain ⟨long, c, member, any⟩ := crowded
  refine ⟨?_, c, List.mem_append_left _ member, any⟩
  rw [List.length_append]
  omega

theorem Mixed.append {clauses : List (Clause τ)} {kind : Kind} (mixed : Mixed clauses kind) (more : List (Clause τ)) :
    Mixed (clauses ++ more) kind := by
  cases kind with
  | _ =>
    simp only [Mixed, List.flatMap_append] at mixed ⊢
    exact mixed.append _

theorem FirstMixed.append {clauses : List (Clause τ)} {kind : Kind} (first : FirstMixed clauses kind)
    (more : List (Clause τ)) : FirstMixed (clauses ++ more) kind := by
  obtain ⟨before, c, after, rfl, mixed, clear⟩ := first
  exact ⟨before, c, after ++ more, by simp, mixed, clear⟩

theorem exists_firstMixed {clauses : List (Clause τ)} {kind : Kind} (mixed : Mixed clauses kind) :
    ∃ first, FirstMixed clauses first := by
  induction clauses using List.reverseRecOn generalizing kind with
  | nil => cases kind <;> simp [Mixed, Crowded] at mixed
  | append_singleton before c ih =>
    by_cases earlier : ∃ other, Mixed before other
    · obtain ⟨other, mixedBefore⟩ := earlier
      obtain ⟨first, isFirst⟩ := ih mixedBefore
      exact ⟨first, isFirst.append [c]⟩
    · exact ⟨kind, before, c, [], rfl, mixed, not_exists.mp earlier⟩

theorem FirstMixed.mixed {clauses : List (Clause τ)} {kind : Kind} (first : FirstMixed clauses kind) :
    Mixed clauses kind := by
  obtain ⟨before, c, after, rfl, mixed, -⟩ := first
  simpa using mixed.append after

/-- If clauses mix one kind only, it is the first that is mixed, whatever follows. -/
theorem firstMixed_of_only {clauses : List (Clause τ)} {kind : Kind} (mixed : Mixed clauses kind)
    (only : ∀ other, Mixed clauses other → other = kind) (more : List (Clause τ)) :
    FirstMixed (clauses ++ more) kind := by
  obtain ⟨first, isFirst⟩ := exists_firstMixed mixed
  obtain rfl := only first isFirst.mixed
  exact isFirst.append more

/-! ### Slots -/

namespace Slot

/-- The slot of criteria that may stand together. -/
def holding (isAny : κ → Bool) : List κ → Slot κ
  | [] => unset
  | [c] => if isAny c then frozen c else specific [c]
  | criteria => specific criteria

theorem push_holding {isAny : κ → Bool} {criteria : List κ} {c : κ} (kind : Kind)
    (clear : ¬ Crowded isAny (criteria ++ [c])) :
    (holding isAny criteria).push kind (isAny c) c = (holding isAny (criteria ++ [c]), none) := by
  cases criteria with
  | nil => cases h : isAny c <;> simp [holding, push, h]
  | cons a rest =>
    have plain : ∀ k ∈ a :: rest ++ [c], isAny k = false := by
      intro k member
      by_contra any
      exact clear ⟨by simp, k, member, by simpa using any⟩
    have added : isAny c = false := plain c (by simp)
    cases rest with
    | nil => simp [holding, push, added, plain a (by simp)]
    | cons b rest => simp [holding, push, added]

/-- A slot refuses what would crowd it, and keeps what it has. -/
theorem push_holding_refused {isAny : κ → Bool} {criteria : List κ} {c : κ} (kind : Kind)
    (clear : ¬ Crowded isAny criteria) (crowded : Crowded isAny (criteria ++ [c])) :
    (holding isAny criteria).push kind (isAny c) c = (holding isAny criteria, some (.conflictingAny kind)) := by
  cases criteria with
  | nil => exact absurd crowded.1 (by simp)
  | cons a rest =>
    cases rest with
    | nil =>
      obtain ⟨-, k, member, any⟩ := crowded
      rcases List.mem_cons.mp member with rfl | member
      · simp [holding, push, any]
      · rw [List.mem_singleton.mp member] at any
        cases h : isAny a <;> simp [holding, push, any, h]
    | cons b rest =>
      -- Two criteria are there already, so only the new one can be for everything.
      have added : isAny c = true := by
        obtain ⟨-, k, member, any⟩ := crowded
        rcases List.mem_append.mp member with earlier | last
        · exact absurd ⟨by simp, k, earlier, any⟩ clear
        · rwa [List.mem_singleton.mp last] at any
      simp [holding, push, added]

theorem finish_holding (isAny : κ → Bool) (criteria : List κ) (kind : Kind) :
    (holding isAny criteria).finish kind = if criteria = [] then .error (.incomplete kind) else .ok criteria := by
  cases criteria with
  | nil => rfl
  | cons a rest =>
    cases rest with
    | nil => cases h : isAny a <;> simp [holding, finish, h]
    | cons b rest => simp [holding, finish]

end Slot

/-! ### Drafts -/

namespace Draft

/-- The draft of clauses that mix no kind. -/
def holding (clauses : List (Clause τ)) : Draft τ where
  types := .holding (·.isAny) (clauses.flatMap (·.addedTypes))
  names := .holding (·.isAny) (clauses.flatMap (·.addedNames))
  parameters := .holding (·.isAny) (clauses.flatMap (·.addedParameters))
  misuse := none

theorem foldl_addType_misuse {d : Draft τ} {e : BuildError} (misused : d.misuse = some e)
    (criteria : List (TypeCriterion τ)) : (criteria.foldl addType d).misuse = some e := by
  induction criteria generalizing d with
  | nil => exact misused
  | cons c rest ih => exact ih (by simp [addType, misused])

/-- A clause does not hide an earlier misuse. -/
theorem add_misuse {d : Draft τ} {e : BuildError} (misused : d.misuse = some e) (c : Clause τ) :
    (d.add c).misuse = some e := by
  cases c with
  | types criteria => exact foldl_addType_misuse misused criteria
  | name c => simp [add, addName, misused]
  | parameters c => simp [add, addParameters, misused]

theorem foldl_add_misuse {d : Draft τ} {e : BuildError} (misused : d.misuse = some e) (clauses : List (Clause τ)) :
    (clauses.foldl add d).misuse = some e := by
  induction clauses generalizing d with
  | nil => exact misused
  | cons c rest ih => exact ih (add_misuse misused c)

theorem foldl_addType_holding {names : Slot NameCriterion} {parameters : Slot (ParametersCriterion τ)}
    {earlier criteria : List (TypeCriterion τ)} (clear : ¬ Crowded (·.isAny) (earlier ++ criteria)) :
    criteria.foldl addType ⟨.holding (·.isAny) earlier, names, parameters, none⟩ =
      ⟨.holding (·.isAny) (earlier ++ criteria), names, parameters, none⟩ := by
  induction criteria generalizing earlier with
  | nil => simp
  | cons c rest ih =>
    have clearNext : ¬ Crowded (·.isAny) (earlier ++ [c]) := by
      intro crowded
      exact clear (by simpa using crowded.append rest)
    have later := @ih (earlier ++ [c]) (by simpa using clear)
    simpa [addType, Slot.push_holding .type clearNext] using later

theorem foldl_addType_refused {names : Slot NameCriterion} {parameters : Slot (ParametersCriterion τ)}
    {earlier criteria : List (TypeCriterion τ)} (clear : ¬ Crowded (·.isAny) earlier)
    (crowded : Crowded (·.isAny) (earlier ++ criteria)) :
    (criteria.foldl addType ⟨.holding (·.isAny) earlier, names, parameters, none⟩).misuse =
      some (.conflictingAny .type) := by
  induction criteria generalizing earlier with
  | nil => exact absurd (by simpa using crowded) clear
  | cons c rest ih =>
    rw [List.foldl_cons]
    by_cases next : Crowded (·.isAny) (earlier ++ [c])
    · refine foldl_addType_misuse ?_ rest
      simp [addType, Slot.push_holding_refused .type clear next]
    · have later := @ih (earlier ++ [c]) next (by simpa using crowded)
      simpa [addType, Slot.push_holding .type next] using later

theorem add_holding {clauses : List (Clause τ)} {c : Clause τ} (clear : ∀ kind, ¬ Mixed (clauses ++ [c]) kind) :
    (holding clauses).add c = holding (clauses ++ [c]) := by
  cases c with
  | types criteria =>
    have free : ¬ Crowded (·.isAny) (clauses.flatMap (·.addedTypes) ++ criteria) := by
      simpa [Mixed] using clear .type
    simp [add, holding, foldl_addType_holding free]
  | name c =>
    have free : ¬ Crowded (·.isAny) (clauses.flatMap (·.addedNames) ++ [c]) := by
      simpa [Mixed] using clear .name
    simp [add, addName, holding, Slot.push_holding .name free]
  | parameters c =>
    have free : ¬ Crowded (·.isAny) (clauses.flatMap (·.addedParameters) ++ [c]) := by
      simpa [Mixed] using clear .parameters
    simp [add, addParameters, holding, Slot.push_holding .parameters free]

/-- The clause that first mixes a kind is refused with that kind. -/
theorem add_holding_refused {clauses : List (Clause τ)} {c : Clause τ} {kind : Kind}
    (clear : ∀ other, ¬ Mixed clauses other) (mixed : Mixed (clauses ++ [c]) kind) :
    ((holding clauses).add c).misuse = some (.conflictingAny kind) := by
  -- Only the kind of the clause can be mixed by it.
  cases kind with
  | type =>
    cases c with
    | types criteria => exact foldl_addType_refused (clear .type) (by simpa [Mixed] using mixed)
    | _ => exact absurd (by simpa [Mixed] using mixed) (clear .type)
  | name =>
    cases c with
    | name c =>
      have crowded : Crowded (·.isAny) (clauses.flatMap (·.addedNames) ++ [c]) := by
        simpa [Mixed] using mixed
      simp [add, addName, holding, Slot.push_holding_refused .name (clear .name) crowded]
    | _ => exact absurd (by simpa [Mixed] using mixed) (clear .name)
  | parameters =>
    cases c with
    | parameters c =>
      have crowded : Crowded (·.isAny) (clauses.flatMap (·.addedParameters) ++ [c]) := by
        simpa [Mixed] using mixed
      simp [add, addParameters, holding, Slot.push_holding_refused .parameters (clear .parameters) crowded]
    | _ => exact absurd (by simpa [Mixed] using mixed) (clear .parameters)

theorem ofClauses_eq_holding {clauses : List (Clause τ)} (clear : ∀ kind, ¬ Mixed clauses kind) :
    ofClauses clauses = holding clauses := by
  induction clauses using List.reverseRecOn with
  | nil => rfl
  | append_singleton before c ih =>
    have clearBefore : ∀ kind, ¬ Mixed before kind := fun kind mixed => clear kind (mixed.append [c])
    rw [ofClauses, List.foldl_append, ← ofClauses, ih clearBefore]
    exact add_holding clear

theorem ofClauses_misuse {clauses : List (Clause τ)} {kind : Kind} (first : FirstMixed clauses kind) :
    (ofClauses clauses).misuse = some (.conflictingAny kind) := by
  obtain ⟨before, c, after, rfl, mixed, clear⟩ := first
  rw [ofClauses, List.foldl_append, ← ofClauses, ofClauses_eq_holding clear, List.foldl_cons]
  exact foldl_add_misuse (add_holding_refused clear mixed) after

theorem build_holding (clauses : List (Clause τ)) :
    (holding clauses).build =
      if Lacking clauses .type then .error (.incomplete .type)
      else if Lacking clauses .name then .error (.incomplete .name)
      else if Lacking clauses .parameters then .error (.incomplete .parameters)
      else .ok (.collected clauses) := by
  have types : (holding clauses).types.finish .type =
      if Lacking clauses .type then .error (.incomplete .type) else .ok (clauses.flatMap (·.addedTypes)) :=
    Slot.finish_holding ..
  have names : (holding clauses).names.finish .name =
      if Lacking clauses .name then .error (.incomplete .name) else .ok (clauses.flatMap (·.addedNames)) :=
    Slot.finish_holding ..
  have parameters : (holding clauses).parameters.finish .parameters =
      if Lacking clauses .parameters then .error (.incomplete .parameters)
      else .ok (clauses.flatMap (·.addedParameters)) := Slot.finish_holding ..
  have unspoilt : (holding clauses).misuse = none := rfl
  simp only [build, unspoilt, types, names, parameters]
  split_ifs <;> rfl

end Draft

namespace Matcher

theorem ofClauses_of_firstMixed {clauses : List (Clause τ)} {kind : Kind} (first : FirstMixed clauses kind) :
    ofClauses clauses = .error (.conflictingAny kind) := by
  simp [ofClauses, Draft.build, Draft.ofClauses_misuse first]

theorem ofClauses_of_clear {clauses : List (Clause τ)} (clear : ∀ kind, ¬ Mixed clauses kind) :
    ofClauses clauses =
      if Lacking clauses .type then .error (.incomplete .type)
      else if Lacking clauses .name then .error (.incomplete .name)
      else if Lacking clauses .parameters then .error (.incomplete .parameters)
      else .ok (.collected clauses) := by
  rw [ofClauses, Draft.ofClauses_eq_holding clear, Draft.build_holding]

/-- Whatever is built has all that the clauses add. -/
theorem eq_collected_of_ofClauses {clauses : List (Clause τ)} {m : Matcher τ} (built : ofClauses clauses = .ok m) :
    m = .collected clauses := by
  by_cases mixed : ∃ kind, Mixed clauses kind
  · obtain ⟨kind, mixed⟩ := mixed
    obtain ⟨first, isFirst⟩ := exists_firstMixed mixed
    rw [ofClauses_of_firstMixed isFirst] at built
    cases built
  · rw [ofClauses_of_clear (not_exists.mp mixed)] at built
    split_ifs at built
    exact (Except.ok.inj built).symm

theorem ofClauses_conflictingAny_iff {clauses : List (Clause τ)} {kind : Kind} :
    ofClauses clauses = .error (.conflictingAny kind) ↔ FirstMixed clauses kind := by
  refine ⟨fun failed => ?_, ofClauses_of_firstMixed⟩
  by_cases mixed : ∃ other, Mixed clauses other
  · obtain ⟨other, mixed⟩ := mixed
    obtain ⟨first, isFirst⟩ := exists_firstMixed mixed
    rw [ofClauses_of_firstMixed isFirst] at failed
    cases failed
    exact isFirst
  · rw [ofClauses_of_clear (not_exists.mp mixed)] at failed
    split_ifs at failed <;> cases failed

theorem ofClauses_incomplete_iff {clauses : List (Clause τ)} {kind : Kind} :
    ofClauses clauses = .error (.incomplete kind) ↔ (∀ other, ¬ Mixed clauses other) ∧ FirstLacking clauses kind := by
  by_cases mixed : ∃ other, Mixed clauses other
  · obtain ⟨other, mixed⟩ := mixed
    obtain ⟨first, isFirst⟩ := exists_firstMixed mixed
    rw [ofClauses_of_firstMixed isFirst]
    constructor
    · intro failed
      cases failed
    · intro clear
      exact absurd mixed (clear.1 other)
  · have clear := not_exists.mp mixed
    rw [ofClauses_of_clear clear]
    cases kind <;> split_ifs <;> simp_all [FirstLacking]

theorem ofClauses_ok_iff {clauses : List (Clause τ)} {m : Matcher τ} :
    ofClauses clauses = .ok m ↔
      (∀ kind, ¬ Mixed clauses kind) ∧ (∀ kind, ¬ Lacking clauses kind) ∧ m = .collected clauses := by
  constructor
  · intro built
    have clear : ∀ kind, ¬ Mixed clauses kind := by
      intro kind mixed
      obtain ⟨first, isFirst⟩ := exists_firstMixed mixed
      rw [ofClauses_of_firstMixed isFirst] at built
      cases built
    refine ⟨clear, ?_, eq_collected_of_ofClauses built⟩
    rw [ofClauses_of_clear clear] at built
    split_ifs at built with type name parameters
    rintro (_ | _ | _)
    · exact type
    · exact name
    · exact parameters
  · rintro ⟨clear, complete, rfl⟩
    rw [ofClauses_of_clear clear, if_neg (complete .type), if_neg (complete .name), if_neg (complete .parameters)]

/-- The outcome of any list of clauses. The clause that first mixes a kind
    decides it, whatever follows; then the first kind of which there is
    nothing; and else the matcher has exactly what the clauses add. A list of
    types adds one criterion for each, a list of names a single one, and an
    empty list of parameters asks for none. -/
theorem ofClauses_outcome (clauses : List (Clause τ)) :
    (∀ kind, ofClauses clauses = .error (.conflictingAny kind) ↔ FirstMixed clauses kind) ∧
    (∀ kind, ofClauses clauses = .error (.incomplete kind) ↔
      (∀ other, ¬ Mixed clauses other) ∧ FirstLacking clauses kind) ∧
    (∀ m, ofClauses clauses = .ok m ↔
      (∀ kind, ¬ Mixed clauses kind) ∧ (∀ kind, ¬ Lacking clauses kind) ∧ m = .collected clauses) ∧
    (∀ names, (Clause.ofTypes names : Clause τ).addedTypes = names.map .exact ∧
      (Clause.ofSubtypes names : Clause τ).addedTypes = names.map .subtypeOf ∧
      (Clause.namedOneOf names : Clause τ).addedNames = [.ofNames names]) ∧
    (Clause.withParameters [] : Clause τ).addedParameters = [.empty] ∧
    (Clause.withParameterCriteria [] : Clause τ).addedParameters = [.empty] :=
  ⟨fun _ => ofClauses_conflictingAny_iff, fun _ => ofClauses_incomplete_iff, fun _ => ofClauses_ok_iff,
    fun _ => ⟨rfl, rfl, rfl⟩, rfl, rfl⟩

end Matcher

end CallSieve
