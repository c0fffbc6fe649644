import CallSieve.Hierarchy.Tree
import CallSieve.Proofs.Matcher.Building
import CallSieve.Rules.Table

/-!
The clauses of a table come kind by kind, and the criterion for everything comes
last in its kind. So a table fails for the first kind whose fields ask for
everything and for something else, then for the first kind without a field; and
else its matcher accepts what a direct reading of the fields says
(`matcher_reading`).
-/

namespace CallSieve

variable {τ κ : Type}

/-- The first kind of which something holds, in the order type, name, parameters. -/
def Kind.IsFirst (holds : Kind → Prop) : Kind → Prop
  | .type => holds .type
  | .name => ¬ holds .type ∧ holds .name
  | .parameters => ¬ holds .type ∧ ¬ holds .name ∧ holds .parameters

theorem Kind.exists_isFirst {holds : Kind → Prop} {kind : Kind} (some : holds kind) :
    ∃ first : Kind, first.IsFirst holds := by
  by_cases type : holds .type
  · exact ⟨.type, type⟩
  · by_cases name : holds .name
    · exact ⟨.name, type, name⟩
    · cases kind with
      | type => exact absurd some type
      | name => exact absurd some name
      | parameters => exact ⟨.parameters, type, name, some⟩

namespace MatcherTable

/-- The fields of a kind ask for everything and for something else. -/
def Conflicts (t : MatcherTable) : Kind → Prop
  | .type => t.anyType = true ∧ (t.types ≠ [] ∨ t.subtypes ≠ [])
  | .name => t.anyName = true ∧ (t.names ≠ [] ∨ t.nameStart ≠ none ∨ t.constructors = true)
  | .parameters => t.anyParameters = true ∧ (t.parameters ≠ none ∨ t.parameterStarts ≠ [])

/-- No field of the kind says anything. An empty list of signatures does. -/
def Lacks (t : MatcherTable) : Kind → Prop
  | .type => t.anyType = false ∧ t.types = [] ∧ t.subtypes = []
  | .name => t.anyName = false ∧ t.names = [] ∧ t.nameStart = none ∧ t.constructors = false
  | .parameters => t.anyParameters = false ∧ t.parameters = none ∧ t.parameterStarts = []

section

variable [Hierarchy τ]

/-- A known type of this name. -/
def Named (p : τ) (n : String) : Prop := Hierarchy.isUnknown p = false ∧ Hierarchy.name p = n

/-- What the fields on types say of an owner. -/
def ReadsType (t : MatcherTable) (owner : τ) : Prop :=
  (∃ n ∈ t.types, Named owner n) ∨ (∃ n ∈ t.subtypes, Hierarchy.isSubtype owner n = true) ∨ t.anyType = true

/-- What the fields on names say of a name. -/
def ReadsName (t : MatcherTable) (name : String) : Prop :=
  name ≠ constructorName ∧ (name ∈ t.names ∨ ∃ start, t.nameStart = some start ∧ start.toList <+: name.toList) ∨
    name = constructorName ∧ t.constructors = true ∨ t.anyName = true

/-- What the fields on parameters say of parameter types. -/
def ReadsParameters (t : MatcherTable) (params : List τ) : Prop :=
  (t.parameters = some [] ∧ params = []) ∨
    (∃ signatures, t.parameters = some signatures ∧ ∃ names ∈ signatures, List.Forall₂ Named params names) ∨
    (∃ names ∈ t.parameterStarts, ∃ leading, leading <+: params ∧ List.Forall₂ Named leading names) ∨
    t.anyParameters = true

/-- What a table says of a method, by its own fields. -/
def Reads (t : MatcherTable) (owner : τ) (name : String) (params : List τ) : Prop :=
  t.ReadsType owner ∧ t.ReadsName name ∧ t.ReadsParameters params

end

def typeClauses (t : MatcherTable) : List (Clause τ) :=
  clauseIf (!t.types.isEmpty) (.ofTypes t.types) ++ clauseIf (!t.subtypes.isEmpty) (.ofSubtypes t.subtypes)
    ++ clauseIf t.anyType .ofAnyType

def nameClauses (t : MatcherTable) : List (Clause τ) :=
  clauseIf (!t.names.isEmpty) (.namedOneOf t.names) ++ (t.nameStart.map .nameStartingWith).toList
    ++ clauseIf t.constructors .constructors ++ clauseIf t.anyName .anyName

def parametersClauses (t : MatcherTable) : List (Clause τ) :=
  signatureClauses t.parameters ++ t.parameterStarts.map .startingWithParameters
    ++ clauseIf t.anyParameters .withAnyParameters

theorem clauses_eq_append (t : MatcherTable) :
    (t.clauses : List (Clause τ)) = t.typeClauses ++ t.nameClauses ++ t.parametersClauses := by
  simp only [clauses, typeClauses, nameClauses, parametersClauses, List.append_assoc]

def criterionIf (isSet : Bool) (c : κ) : List κ := if isSet then [c] else []

def specificTypes (t : MatcherTable) : List (TypeCriterion τ) := t.types.map .exact ++ t.subtypes.map .subtypeOf

def specificNames (t : MatcherTable) : List NameCriterion :=
  criterionIf (!t.names.isEmpty) (.ofNames t.names) ++ (t.nameStart.map .startsWith).toList
    ++ criterionIf t.constructors .constructors

/-- The criterion of one signature. -/
def signatureCriterion : List String → ParametersCriterion τ
  | [] => .empty
  | names => .ofNames names

def signatureCriteria : Option (List (List String)) → List (ParametersCriterion τ)
  | none => []
  | some [] => [.empty]
  | some signatures => signatures.map signatureCriterion

def specificParameters (t : MatcherTable) : List (ParametersCriterion τ) :=
  signatureCriteria t.parameters ++ t.parameterStarts.map .startingWithNames

def typeCriteria (t : MatcherTable) : List (TypeCriterion τ) := t.specificTypes ++ criterionIf t.anyType .any

def nameCriteria (t : MatcherTable) : List NameCriterion := t.specificNames ++ criterionIf t.anyName .any

def parametersCriteria (t : MatcherTable) : List (ParametersCriterion τ) :=
  t.specificParameters ++ criterionIf t.anyParameters .any

theorem collected_append (before after : List (Clause τ)) :
    Matcher.collected (before ++ after) =
      ⟨(Matcher.collected before).types ++ (Matcher.collected after).types,
        (Matcher.collected before).names ++ (Matcher.collected after).names,
        (Matcher.collected before).parameters ++ (Matcher.collected after).parameters⟩ := by
  simp [Matcher.collected]

/-- A list that is left out as a clause if it is empty adds no criterion anyway. -/
theorem collected_clauseIf_types (criterion : String → TypeCriterion τ) (names : List String) :
    Matcher.collected (clauseIf (!names.isEmpty) (.types (names.map criterion))) = ⟨names.map criterion, [], []⟩ := by
  cases names with
  | nil => rfl
  | cons first rest => simp [clauseIf, Matcher.collected]

theorem collected_typeClauses (t : MatcherTable) :
    Matcher.collected (t.typeClauses : List (Clause τ)) = ⟨t.typeCriteria, [], []⟩ := by
  have types : Matcher.collected (clauseIf (!t.types.isEmpty) (.ofTypes t.types) : List (Clause τ)) =
      ⟨t.types.map .exact, [], []⟩ := collected_clauseIf_types .exact t.types
  have subtypes : Matcher.collected (clauseIf (!t.subtypes.isEmpty) (.ofSubtypes t.subtypes) : List (Clause τ)) =
      ⟨t.subtypes.map .subtypeOf, [], []⟩ := collected_clauseIf_types .subtypeOf t.subtypes
  have forAll : Matcher.collected (clauseIf t.anyType .ofAnyType : List (Clause τ)) =
      ⟨criterionIf t.anyType .any, [], []⟩ := by cases t.anyType <;> rfl
  rw [typeClauses, collected_append, collected_append, types, subtypes, forAll]
  rfl

theorem collected_nameClauses (t : MatcherTable) :
    Matcher.collected (t.nameClauses : List (Clause τ)) = ⟨[], t.nameCriteria, []⟩ := by
  simp only [nameClauses, nameCriteria, specificNames]
  cases t.names <;> cases t.nameStart <;> cases t.constructors <;> cases t.anyName <;> rfl

theorem collected_withParameters (names : List String) :
    Matcher.collected [(.withParameters names : Clause τ)] = ⟨[], [], [signatureCriterion names]⟩ := by
  cases names <;> rfl

theorem collected_map_parameters {clause : List String → Clause τ} {criterion : List String → ParametersCriterion τ}
    (each : ∀ names, Matcher.collected [clause names] = ⟨[], [], [criterion names]⟩) (lists : List (List String)) :
    Matcher.collected (lists.map clause) = ⟨[], [], lists.map criterion⟩ := by
  induction lists with
  | nil => rfl
  | cons names rest ih => rw [List.map_cons, ← List.singleton_append, collected_append, each, ih]; rfl

theorem collected_signatureClauses (signatures : Option (List (List String))) :
    Matcher.collected (signatureClauses signatures : List (Clause τ)) = ⟨[], [], signatureCriteria signatures⟩ := by
  cases signatures with
  | none => rfl
  | some signatures =>
    cases signatures with
    | nil => rfl
    | cons first rest => exact collected_map_parameters collected_withParameters (first :: rest)

theorem collected_parametersClauses (t : MatcherTable) :
    Matcher.collected (t.parametersClauses : List (Clause τ)) =
      ⟨[], [], t.parametersCriteria⟩ := by
  have starts : Matcher.collected (t.parameterStarts.map .startingWithParameters : List (Clause τ)) =
      ⟨[], [], t.parameterStarts.map .startingWithNames⟩ := collected_map_parameters (fun _ => rfl) _
  have forAll : Matcher.collected (clauseIf t.anyParameters .withAnyParameters : List (Clause τ)) =
      ⟨[], [], criterionIf t.anyParameters .any⟩ := by cases t.anyParameters <;> rfl
  rw [parametersClauses, collected_append, collected_append, collected_signatureClauses, starts, forAll]
  rfl

/-- What the clauses of a table add. -/
theorem collected_clauses (t : MatcherTable) :
    Matcher.collected (t.clauses : List (Clause τ)) =
      ⟨t.typeCriteria, t.nameCriteria, t.parametersCriteria⟩ := by
  rw [clauses_eq_append, collected_append, collected_append, collected_typeClauses, collected_nameClauses,
    collected_parametersClauses]
  simp

/-! ### Conflicts and gaps -/

/-- With a criterion for everything as the last one, any other one is too much. -/
theorem crowded_append_iff {isAny : κ → Bool} {specific : List κ} (plain : ∀ c ∈ specific, isAny c = false)
    {isSet : Bool} {c : κ} (any : isAny c = true) :
    Crowded isAny (specific ++ criterionIf isSet c) ↔ isSet = true ∧ specific ≠ [] := by
  cases isSet with
  | false =>
    simp only [criterionIf, Bool.false_eq_true, if_false, List.append_nil, false_and, iff_false]
    rintro ⟨-, a, member, forAll⟩
    simp [plain a member] at forAll
  | true =>
    cases specific with
    | nil => simp [Crowded, criterionIf]
    | cons a rest => simp [Crowded, criterionIf, any]

theorem append_eq_nil_iff {specific : List κ} {isSet : Bool} {c : κ} :
    specific ++ criterionIf isSet c = [] ↔ isSet = false ∧ specific = [] := by
  cases isSet <;> simp [criterionIf]

theorem specificTypes_eq_nil_iff {t : MatcherTable} :
    (t.specificTypes : List (TypeCriterion τ)) = [] ↔ t.types = [] ∧ t.subtypes = [] := by
  simp [specificTypes]

theorem specificNames_eq_nil_iff {t : MatcherTable} :
    t.specificNames = [] ↔ t.names = [] ∧ t.nameStart = none ∧ t.constructors = false := by
  simp only [specificNames]
  cases t.names <;> cases t.nameStart <;> cases t.constructors <;> simp [criterionIf]

theorem specificParameters_eq_nil_iff {t : MatcherTable} :
    (t.specificParameters : List (ParametersCriterion τ)) = [] ↔ t.parameters = none ∧ t.parameterStarts = [] := by
  simp only [specificParameters, List.append_eq_nil_iff, List.map_eq_nil_iff]
  refine and_congr_left fun _ => ?_
  cases t.parameters with
  | none => simp [signatureCriteria]
  | some signatures => cases signatures <;> simp [signatureCriteria]

theorem isAny_specificTypes {t : MatcherTable} : ∀ c ∈ (t.specificTypes : List (TypeCriterion τ)), c.isAny = false := by
  intro c member
  rcases List.mem_append.mp member with type | subtype
  · obtain ⟨n, -, rfl⟩ := List.mem_map.mp type
    rfl
  · obtain ⟨n, -, rfl⟩ := List.mem_map.mp subtype
    rfl

theorem isAny_specificNames {t : MatcherTable} : ∀ c ∈ t.specificNames, c.isAny = false := by
  simp only [specificNames]
  cases t.names <;> cases t.nameStart <;> cases t.constructors <;>
    simp [criterionIf, NameCriterion.ofNames, NameCriterion.isAny]

theorem isAny_signatureCriterion (names : List String) :
    (signatureCriterion names : ParametersCriterion τ).isAny = false := by
  cases names <;> rfl

theorem isAny_specificParameters {t : MatcherTable} :
    ∀ c ∈ (t.specificParameters : List (ParametersCriterion τ)), c.isAny = false := by
  intro c member
  rcases List.mem_append.mp member with signature | start
  · cases given : t.parameters with
    | none => simp [given, signatureCriteria] at signature
    | some signatures =>
      cases signatures with
      | nil =>
        rw [given, signatureCriteria, List.mem_singleton] at signature
        rw [signature]
        rfl
      | cons first rest =>
        rw [given] at signature
        obtain ⟨names, -, rfl⟩ := List.mem_map.mp signature
        exact isAny_signatureCriterion names
  · obtain ⟨names, -, rfl⟩ := List.mem_map.mp start
    rfl

theorem crowded_types_iff {t : MatcherTable} :
    Crowded (·.isAny) (t.typeCriteria : List (TypeCriterion τ)) ↔ t.Conflicts .type := by
  rw [typeCriteria, crowded_append_iff isAny_specificTypes rfl, ne_eq, specificTypes_eq_nil_iff, not_and_or]
  rfl

theorem crowded_names_iff {t : MatcherTable} :
    Crowded (·.isAny) t.nameCriteria ↔ t.Conflicts .name := by
  rw [nameCriteria, crowded_append_iff isAny_specificNames rfl, ne_eq, specificNames_eq_nil_iff, not_and_or, not_and_or,
    Bool.not_eq_false]
  rfl

theorem crowded_parameters_iff {t : MatcherTable} :
    Crowded (·.isAny) (t.parametersCriteria : List (ParametersCriterion τ)) ↔ t.Conflicts .parameters := by
  rw [parametersCriteria, crowded_append_iff isAny_specificParameters rfl, ne_eq, specificParameters_eq_nil_iff,
    not_and_or]
  rfl

theorem mixed_clauses_iff {t : MatcherTable} {kind : Kind} :
    Mixed (t.clauses : List (Clause τ)) kind ↔ t.Conflicts kind := by
  have same : Matcher.collected (t.clauses : List (Clause τ)) = _ := t.collected_clauses
  rw [Matcher.collected, Matcher.mk.injEq] at same
  obtain ⟨types, names, parameters⟩ := same
  cases kind with
  | type => rw [Mixed, types, crowded_types_iff]
  | name => rw [Mixed, names, crowded_names_iff]
  | parameters => rw [Mixed, parameters, crowded_parameters_iff]

theorem lacking_clauses_iff {t : MatcherTable} {kind : Kind} :
    Lacking (t.clauses : List (Clause τ)) kind ↔ t.Lacks kind := by
  have same : Matcher.collected (t.clauses : List (Clause τ)) = _ := t.collected_clauses
  rw [Matcher.collected, Matcher.mk.injEq] at same
  obtain ⟨types, names, parameters⟩ := same
  cases kind with
  | type => rw [Lacking, types, typeCriteria, append_eq_nil_iff, specificTypes_eq_nil_iff, Lacks]
  | name => rw [Lacking, names, nameCriteria, append_eq_nil_iff, specificNames_eq_nil_iff, Lacks]
  | parameters => rw [Lacking, parameters, parametersCriteria, append_eq_nil_iff, specificParameters_eq_nil_iff, Lacks]

/-- The table without its fields on names. -/
def withoutNames (t : MatcherTable) : MatcherTable :=
  { t with names := [], nameStart := none, constructors := false, anyName := false }

/-- The table without its fields on parameters. -/
def withoutParameters (t : MatcherTable) : MatcherTable :=
  { t with parameters := none, parameterStarts := [], anyParameters := false }

theorem clauses_eq_withoutParameters_append (t : MatcherTable) :
    (t.clauses : List (Clause τ)) = t.withoutParameters.clauses ++ t.parametersClauses := by
  simp [clauses_eq_append, withoutParameters, typeClauses, nameClauses, parametersClauses, signatureClauses, clauseIf]

theorem clauses_withoutParameters (t : MatcherTable) :
    (t.withoutParameters.clauses : List (Clause τ)) = t.withoutParameters.withoutNames.clauses ++ t.nameClauses := by
  simp [clauses_eq_append, withoutParameters, withoutNames, typeClauses, nameClauses, parametersClauses,
    signatureClauses, clauseIf]

/-- Clauses of later kinds do not hide a conflict, since those of the earlier
    kinds are the clauses of a table of their own. -/
theorem firstMixed_clauses {t : MatcherTable} {kind : Kind} (first : kind.IsFirst t.Conflicts) :
    FirstMixed (t.clauses : List (Clause τ)) kind := by
  cases kind with
  | type =>
    have cut : t.withoutParameters.withoutNames.Conflicts .type := first
    rw [clauses_eq_withoutParameters_append, clauses_withoutParameters, List.append_assoc]
    refine firstMixed_of_only (mixed_clauses_iff.mpr cut) ?_ _
    intro other mixed
    have conflict := mixed_clauses_iff.mp mixed
    cases other with
    | type => rfl
    | name => simp [Conflicts, withoutNames] at conflict
    | parameters => simp [Conflicts, withoutParameters, withoutNames] at conflict
  | name =>
    have cut : t.withoutParameters.Conflicts .name := first.2
    rw [clauses_eq_withoutParameters_append]
    refine firstMixed_of_only (mixed_clauses_iff.mpr cut) ?_ _
    intro other mixed
    have conflict := mixed_clauses_iff.mp mixed
    cases other with
    | type => exact absurd conflict first.1
    | name => rfl
    | parameters => simp [Conflicts, withoutParameters] at conflict
  | parameters =>
    have whole : FirstMixed ((t.clauses : List (Clause τ)) ++ []) .parameters := by
      refine firstMixed_of_only (mixed_clauses_iff.mpr first.2.2) ?_ []
      intro other mixed
      have conflict := mixed_clauses_iff.mp mixed
      cases other with
      | type => exact absurd conflict first.1
      | name => exact absurd conflict first.2.1
      | parameters => rfl
    simpa using whole

theorem matcher_conflictingAny_iff {t : MatcherTable} {kind : Kind} :
    (t.matcher : Except BuildError (Matcher τ)) = .error (.conflictingAny kind) ↔ kind.IsFirst t.Conflicts := by
  constructor
  · intro failed
    have mixed := (Matcher.ofClauses_conflictingAny_iff.mp failed).mixed
    obtain ⟨first, isFirst⟩ := Kind.exists_isFirst (mixed_clauses_iff.mp mixed)
    have failedFirst := Matcher.ofClauses_of_firstMixed (firstMixed_clauses (τ := τ) isFirst)
    rw [matcher, failedFirst] at failed
    cases failed
    exact isFirst
  · intro first
    exact Matcher.ofClauses_of_firstMixed (firstMixed_clauses first)

theorem matcher_incomplete_iff {t : MatcherTable} {kind : Kind} :
    (t.matcher : Except BuildError (Matcher τ)) = .error (.incomplete kind) ↔
      (∀ other, ¬ t.Conflicts other) ∧ kind.IsFirst t.Lacks := by
  rw [matcher, Matcher.ofClauses_incomplete_iff]
  simp only [mixed_clauses_iff]
  refine and_congr_right fun _ => ?_
  cases kind with
  | _ => simp only [FirstLacking, Kind.IsFirst, lacking_clauses_iff]

theorem matcher_ok_iff {t : MatcherTable} {m : Matcher τ} :
    t.matcher = .ok m ↔ (∀ kind, ¬ t.Conflicts kind) ∧ (∀ kind, ¬ t.Lacks kind) ∧ m = .collected t.clauses := by
  rw [matcher, Matcher.ofClauses_ok_iff]
  simp only [mixed_clauses_iff, lacking_clauses_iff]

/-! ### Acceptance -/

section

variable [Hierarchy τ] {t : MatcherTable} {owner : τ} {name : String} {params : List τ} {names : List String}

theorem hasName_iff {p : τ} {n : String} : Hierarchy.hasName p n = true ↔ Named p n := by
  simp [Hierarchy.hasName, Named]

theorem any_criterionIf (isSet : Bool) (c : κ) (accepts : κ → Bool) :
    (criterionIf isSet c).any accepts = (isSet && accepts c) := by
  cases isSet <;> simp [criterionIf]

theorem any_typeCriteria_iff : t.typeCriteria.any (·.accepts owner) = true ↔ t.ReadsType owner := by
  simp only [typeCriteria, specificTypes, List.any_append, List.any_map, Bool.or_eq_true, any_criterionIf,
    List.any_eq_true, Function.comp, TypeCriterion.accepts, hasName_iff, Bool.and_true, ReadsType, or_assoc]

theorem any_nameCriteria_iff : t.nameCriteria.any (·.accepts name) = true ↔ t.ReadsName name := by
  have listed : (criterionIf (!t.names.isEmpty) (NameCriterion.ofNames t.names)).any (·.accepts name) = true ↔
      name ≠ constructorName ∧ name ∈ t.names := by
    cases t.names <;> simp [any_criterionIf, NameCriterion.accepts_ofNames_iff]
  have started : ((t.nameStart.map NameCriterion.startsWith).toList).any (·.accepts name) = true ↔
      name ≠ constructorName ∧ ∃ start, t.nameStart = some start ∧ start.toList <+: name.toList := by
    cases t.nameStart <;> simp [NameCriterion.accepts_startsWith_iff]
  have constructed : (criterionIf t.constructors NameCriterion.constructors).any (·.accepts name) = true ↔
      name = constructorName ∧ t.constructors = true := by
    simp [any_criterionIf, NameCriterion.accepts_constructors_iff, and_comm]
  have forAll : (criterionIf t.anyName NameCriterion.any).any (·.accepts name) = true ↔ t.anyName = true := by
    simp [any_criterionIf, NameCriterion.accepts]
  simp only [nameCriteria, specificNames, List.any_append, Bool.or_eq_true, listed, started, constructed, forAll,
    ReadsName]
  rw [or_assoc, and_or_left]

theorem leadingAccepted_exact_iff (enough : names.length ≤ params.length) :
    ParametersCriterion.leadingAccepted (names.map .exact) params = true ↔
      List.Forall₂ Named (params.take names.length) names := by
  induction names generalizing params with
  | nil => simp [ParametersCriterion.leadingAccepted]
  | cons n rest ih =>
    cases params with
    | nil => simp at enough
    | cons p others =>
      have first : (TypeCriterion.exact n).accepts p = true ↔ Named p n := hasName_iff
      have later := @ih others (by simpa using enough)
      simp only [ParametersCriterion.leadingAccepted] at later ⊢
      simp only [List.map_cons, List.zip_cons_cons, List.all_cons, Bool.and_eq_true, first, later, List.length_cons,
        List.take_succ_cons, List.forall₂_cons]

theorem accepts_ofNames_iff :
    (ParametersCriterion.ofNames names).accepts params = true ↔ List.Forall₂ Named params names := by
  simp only [ParametersCriterion.ofNames, ParametersCriterion.accepts, List.length_map, Bool.and_eq_true, beq_iff_eq]
  constructor
  · rintro ⟨sameLength, accepted⟩
    simpa [← sameLength] using (leadingAccepted_exact_iff sameLength.ge).mp accepted
  · intro each
    refine ⟨each.length_eq, (leadingAccepted_exact_iff each.length_eq.ge).mpr ?_⟩
    simpa [← each.length_eq] using each

theorem accepts_signatureCriterion_iff :
    (signatureCriterion names).accepts params = true ↔ List.Forall₂ Named params names := by
  cases names with
  | nil => simp [signatureCriterion, ParametersCriterion.accepts]
  | cons first rest => exact accepts_ofNames_iff

theorem accepts_startingWithNames_iff :
    (ParametersCriterion.startingWithNames names).accepts params = true ↔
      ∃ leading, leading <+: params ∧ List.Forall₂ Named leading names := by
  simp only [ParametersCriterion.startingWithNames, ParametersCriterion.accepts, List.length_map, Bool.and_eq_true,
    decide_eq_true_eq]
  constructor
  · rintro ⟨enough, accepted⟩
    exact ⟨_, List.take_prefix _ _, (leadingAccepted_exact_iff enough).mp accepted⟩
  · rintro ⟨leading, isLeading, each⟩
    have enough : names.length ≤ params.length := each.length_eq ▸ isLeading.length_le
    refine ⟨enough, (leadingAccepted_exact_iff enough).mpr ?_⟩
    rwa [← each.length_eq, ← List.prefix_iff_eq_take.mp isLeading]

theorem any_parametersCriteria_iff : t.parametersCriteria.any (·.accepts params) = true ↔ t.ReadsParameters params := by
  have signatures : (signatureCriteria t.parameters).any (·.accepts params) = true ↔
      (t.parameters = some [] ∧ params = []) ∨
        ∃ signatures, t.parameters = some signatures ∧ ∃ names ∈ signatures, List.Forall₂ Named params names := by
    cases t.parameters with
    | none => simp [signatureCriteria]
    | some signatures =>
      cases signatures with
      | nil => simp [signatureCriteria, ParametersCriterion.accepts]
      | cons first rest => simp [signatureCriteria, accepts_signatureCriterion_iff]
  have starts : (t.parameterStarts.map ParametersCriterion.startingWithNames).any (·.accepts params) = true ↔
      ∃ names ∈ t.parameterStarts, ∃ leading, leading <+: params ∧ List.Forall₂ Named leading names := by
    simp [accepts_startingWithNames_iff]
  have forAll : (criterionIf t.anyParameters ParametersCriterion.any).any (·.accepts params) = true ↔
      t.anyParameters = true := by
    simp [any_criterionIf, ParametersCriterion.accepts]
  simp only [parametersCriteria, specificParameters, List.any_append, Bool.or_eq_true, signatures, starts, forAll,
    ReadsParameters, or_assoc]

theorem meets_iff_reads : (Matcher.collected t.clauses).meets owner name params = true ↔ t.Reads owner name params := by
  rw [collected_clauses]
  simp only [Matcher.meets, Bool.and_eq_true, any_typeCriteria_iff, any_nameCriteria_iff, any_parametersCriteria_iff,
    Reads, and_assoc]

theorem acceptsResolved_iff_reads {m : Matcher τ} (built : t.matcher = .ok m) {s : Symbol τ}
    (known : s.isUnknown = false) (isMethod : s.isMethod = true) {callSite : Option τ}
    (tested : callSite.or s.owner = some owner) :
    m.acceptsResolved s callSite = true ↔ t.Reads owner s.name s.parameters := by
  rw [(matcher_ok_iff.mp built).2.2, Matcher.acceptsResolved, known, isMethod, tested, ← meets_iff_reads]
  rfl

/-- What a table stands for. It fails for the first kind whose fields ask for
    everything and for something else; without such a kind, for the first that
    no field says anything of; and else it is a matcher that accepts a known
    method, as a node and as a symbol, if the fields say so of its owner, its
    name and its parameters. -/
theorem matcher_reading (t : MatcherTable) :
    (∀ kind, (t.matcher : Except BuildError (Matcher τ)) = .error (.conflictingAny kind) ↔ kind.IsFirst t.Conflicts) ∧
    (∀ kind, (t.matcher : Except BuildError (Matcher τ)) = .error (.incomplete kind) ↔
      (∀ other, ¬ t.Conflicts other) ∧ kind.IsFirst t.Lacks) ∧
    ((∃ m : Matcher τ, t.matcher = .ok m) ↔ (∀ kind, ¬ t.Conflicts kind) ∧ ∀ kind, ¬ t.Lacks kind) ∧
    ∀ m : Matcher τ, t.matcher = .ok m → ∀ (s : Symbol τ) (owner : τ), s.isUnknown = false → s.isMethod = true →
      (∀ callSite, callSite.or s.owner = some owner →
        ((Matchers.single m).accepts ⟨some s, callSite⟩ = true ↔ t.Reads owner s.name s.parameters)) ∧
      (s.owner = some owner → ((Matchers.single m).acceptsSymbol s = true ↔ t.Reads owner s.name s.parameters)) := by
  refine ⟨fun _ => matcher_conflictingAny_iff, fun _ => matcher_incomplete_iff, ?_, ?_⟩
  · simp only [matcher_ok_iff]
    constructor
    · rintro ⟨m, free, complete, -⟩
      exact ⟨free, complete⟩
    · rintro ⟨free, complete⟩
      exact ⟨_, free, complete, rfl⟩
  · intro m built s owner known isMethod
    constructor
    · intro callSite tested
      simpa [Matchers.single, Matchers.accepts, Matcher.accepts] using
        acceptsResolved_iff_reads built known isMethod tested
    · intro owned
      have tested : (none : Option τ).or s.owner = some owner := owned
      simpa [Matchers.single, Matchers.acceptsSymbol, Matcher.acceptsSymbol] using
        acceptsResolved_iff_reads built known isMethod tested

end

/-- Methods of a class and its subtypes, by their names or as constructors. -/
def runTable : MatcherTable where
  id := "run"
  types := ["app.Leaf"]
  subtypes := ["app.Base"]
  names := ["run"]
  constructors := true
  parameters := some [[]]
  parameterStarts := [["int"]]

/-- A method with a parameter more than the table asks for. -/
def runSymbol : Symbol TypeTree where
  name := "run"
  isMethod := true
  isUnknown := false
  owner := some (.node "app.Leaf" false [])
  parameters := [.node "int" false [], .node "app.Base" true []]

theorem reads_runSymbol : runTable.Reads (.node "app.Leaf" false []) runSymbol.name runSymbol.parameters := by
  refine ⟨.inl ⟨"app.Leaf", by simp [runTable], rfl, rfl⟩, .inl ⟨by decide, .inl (by simp [runTable, runSymbol])⟩, ?_⟩
  refine .inr (.inr (.inl ⟨["int"], by simp [runTable], [.node "int" false []], ⟨_, rfl⟩, ?_⟩))
  exact .cons ⟨rfl, rfl⟩ .nil

theorem accepts_runSymbol :
    (∃ m : Matcher TypeTree, runTable.matcher = .ok m ∧ (Matchers.single m).acceptsSymbol runSymbol = true) ∧
    ({ runTable with anyType := true }.matcher : Except BuildError (Matcher TypeTree)) =
      .error (.conflictingAny .type) ∧
    ({ runTable with parameters := none, parameterStarts := [] }.matcher : Except BuildError (Matcher TypeTree)) =
      .error (.incomplete .parameters) := by
  refine ⟨?_, ?_, ?_⟩
  · obtain ⟨-, -, builds, reading⟩ := matcher_reading (τ := TypeTree) runTable
    obtain ⟨m, built⟩ := builds.mpr ⟨by rintro (_ | _ | _) <;> simp [Conflicts, runTable],
      by rintro (_ | _ | _) <;> simp [Lacks, runTable]⟩
    exact ⟨m, built, ((reading m built runSymbol _ rfl rfl).2 rfl).mpr reads_runSymbol⟩
  · refine ((matcher_reading _).1 .type).mpr ?_
    simp [Kind.IsFirst, Conflicts, runTable]
  · refine ((matcher_reading _).2.1 .parameters).mpr ⟨?_, ?_⟩
    · rintro (_ | _ | _) <;> simp [Conflicts, runTable]
    · simp [Kind.IsFirst, Lacks, runTable]

end MatcherTable

end CallSieve
