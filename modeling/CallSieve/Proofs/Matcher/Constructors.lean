import CallSieve.Proofs.Groups
import CallSieve.Proofs.Matcher.Alternatives
import CallSieve.Proofs.Rules.Table

namespace CallSieve

variable {τ : Type}

/-- A clause that, if it is on names, gives them as texts. -/
inductive Clause.NamesByText : Clause τ → Prop
  | types (criteria : List (TypeCriterion τ)) : NamesByText (.types criteria)
  | parameters (criterion : ParametersCriterion τ) : NamesByText (.parameters criterion)
  | named (n : String) : NamesByText (.named n)
  | namedOneOf (names : List String) : NamesByText (.namedOneOf names)
  | nameStartingWith (start : String) : NamesByText (.nameStartingWith start)

namespace NameCriterion

theorem ofNames_refuses (names : List String) : (ofNames names).accepts constructorName = false := by
  rw [Bool.eq_false_iff, Ne, accepts_ofNames_iff]
  exact fun accepted => accepted.1 rfl

theorem startsWith_refuses (start : String) : (startsWith start).accepts constructorName = false := by
  rw [Bool.eq_false_iff, Ne, accepts_startsWith_iff]
  exact fun accepted => accepted.1 rfl

theorem any_insert_constructors {before after : List NameCriterion} {n : String} (other : n ≠ constructorName) :
    (before ++ constructors :: after).any (·.accepts n) = (before ++ after).any (·.accepts n) := by
  have refused : constructors.accepts n = false := by
    rw [Bool.eq_false_iff, Ne, accepts_constructors_iff]
    exact other
  simp only [List.any_append, List.any_cons, refused, Bool.false_or]

end NameCriterion

theorem Clause.NamesByText.refuses {c : Clause τ} (byText : c.NamesByText) :
    ∀ k ∈ c.addedNames, k.accepts constructorName = false ∧ k.isAny = false := by
  intro k member
  cases byText with
  | types | parameters => cases member
  | named n =>
    rw [List.mem_singleton.mp member]
    exact ⟨NameCriterion.ofNames_refuses [n], rfl⟩
  | namedOneOf names =>
    rw [List.mem_singleton.mp member]
    exact ⟨NameCriterion.ofNames_refuses names, rfl⟩
  | nameStartingWith start =>
    rw [List.mem_singleton.mp member]
    exact ⟨NameCriterion.startsWith_refuses start, rfl⟩

namespace Matchers

variable [Hierarchy τ]

/-- No constructor is accepted, neither as a node nor as a bare symbol. -/
def RejectConstructors (ms : Matchers τ) : Prop :=
  ∀ s : Symbol τ, s.isConstructor = true →
    (∀ callSite, ms.accepts ⟨some s, callSite⟩ = false) ∧ ms.acceptsSymbol s = false

/-- Both give the same answer for whatever is no constructor. -/
def AgreeBesidesConstructors (ms others : Matchers τ) : Prop :=
  (∀ n : Subject τ, (∀ s, n.symbol = some s → s.isConstructor = false) → ms.accepts n = others.accepts n) ∧
    ∀ s : Symbol τ, s.isConstructor = false → ms.acceptsSymbol s = others.acceptsSymbol s

variable {types : List (TypeCriterion τ)} {names others : List NameCriterion}
  {parameters : List (ParametersCriterion τ)}

theorem rejectConstructors_of_names {ms : Matchers τ}
    (refuse : ∀ m ∈ ms.all, ∀ k ∈ m.names, k.accepts constructorName = false) : ms.RejectConstructors := by
  have rejected (s : Symbol τ) (isConstructor : s.isConstructor = true) (callSite : Option τ) :
      ∀ m ∈ ms.all, m.acceptsResolved s callSite = false := by
    intro m member
    have named : s.name = constructorName := beq_iff_eq.mp (Bool.and_eq_true_iff.mp isConstructor).2
    have refused : m.names.any (·.accepts s.name) = false := by
      rw [named, List.any_eq_false]
      exact fun k listed => Bool.eq_false_iff.mp (refuse m member k listed)
    exact Matcher.acceptsResolved_of_names refused
  intro s isConstructor
  simp only [accepts, acceptsSymbol, List.any_eq_false, Bool.not_eq_true]
  exact ⟨fun callSite => rejected s isConstructor callSite, rejected s isConstructor none⟩

theorem agreeBesidesConstructors_of_names
    (same : ∀ n, n ≠ constructorName → names.any (·.accepts n) = others.any (·.accepts n)) :
    (single ⟨types, names, parameters⟩).AgreeBesidesConstructors (single ⟨types, others, parameters⟩) := by
  have resolved (s : Symbol τ) (noConstructor : s.isConstructor = false) (callSite : Option τ) :
      (⟨types, names, parameters⟩ : Matcher τ).acceptsResolved s callSite =
        (⟨types, others, parameters⟩ : Matcher τ).acceptsResolved s callSite := by
    -- what is no method may have the reserved name, and still is no constructor
    refine Matcher.acceptsResolved_eq_of_names fun isMethod => same s.name ?_
    simpa [Symbol.isConstructor, isMethod] using noConstructor
  refine ⟨fun n noConstructor => ?_, fun s noConstructor => ?_⟩
  · simp only [accepts, single, List.any_cons, List.any_nil, Matcher.accepts]
    cases found : n.symbol with
    | none => rfl
    | some s => simp only [resolved s (noConstructor s found)]
  · simp only [acceptsSymbol, single, List.any_cons, List.any_nil, Matcher.acceptsSymbol, resolved s noConstructor]

end Matchers

/-- A known constructor is accepted exactly if its owner and its parameters are. -/
def Matcher.TakesConstructors [Hierarchy τ] (m : Matcher τ) : Prop :=
  ∀ (s : Symbol τ) (callSite : Option τ) (owner : τ), s.isConstructor = true → s.isUnknown = false →
    callSite.or s.owner = some owner → (m.accepts ⟨some s, callSite⟩ = true ↔
      m.types.any (·.accepts owner) = true ∧ m.parameters.any (·.accepts s.parameters) = true)

theorem Matcher.takesConstructors_of_mem [Hierarchy τ] {m : Matcher τ} (listed : .constructors ∈ m.names) :
    m.TakesConstructors := by
  intro s callSite owner isConstructor known owned
  obtain ⟨isMethod, named⟩ := Bool.and_eq_true_iff.mp isConstructor
  have accepted : m.names.any (·.accepts s.name) = true :=
    List.any_eq_true.mpr ⟨_, listed, NameCriterion.accepts_constructors_iff.mpr (beq_iff_eq.mp named)⟩
  simp [accepts, acceptsResolved_iff, isMethod, known, owned, meets, accepted]

namespace Matcher

variable {clauses before after : List (Clause τ)} {m : Matcher τ}

theorem names_refuse_of_ofClauses (byText : ∀ c ∈ clauses, c.NamesByText) (built : ofClauses clauses = .ok m) :
    ∀ k ∈ m.names, k.accepts constructorName = false ∧ k.isAny = false := by
  rw [eq_collected_of_ofClauses built]
  intro k member
  obtain ⟨c, listed, added⟩ := List.mem_flatMap.mp member
  exact (byText c listed).refuses k added

theorem ofClauses_cons_constructors (byText : ∀ c ∈ clauses, c.NamesByText) (built : ofClauses clauses = .ok m) :
    ∃ m', ofClauses (.constructors :: clauses) = .ok m' := by
  obtain ⟨clear, complete, isCollected⟩ := ofClauses_ok_iff.mp built
  refine exists_ofClauses_iff.mpr ⟨fun kind mixed => ?_, fun kind lacking => ?_⟩
  · cases kind with
    | type => exact clear .type mixed
    | parameters => exact clear .parameters mixed
    | name =>
      obtain ⟨-, k, member, any⟩ := mixed
      rcases List.mem_cons.mp member with rfl | given
      · cases any
      · have plain := (names_refuse_of_ofClauses byText built k (isCollected ▸ given)).2
        exact Bool.false_ne_true (plain.symm.trans any)
  · cases kind with
    | type => exact complete .type lacking
    | name => cases lacking
    | parameters => exact complete .parameters lacking

variable [Hierarchy τ]

theorem rejectConstructors_of_ofClauses (byText : ∀ c ∈ clauses, c.NamesByText) (built : ofClauses clauses = .ok m) :
    (Matchers.single m).RejectConstructors := by
  refine Matchers.rejectConstructors_of_names fun _ member k listed => ?_
  rw [List.mem_singleton.mp member] at listed
  exact (names_refuse_of_ofClauses byText built k listed).1

/-- Where names are given as texts, constructors can be asked for at any place. Then
    they are accepted, and nothing else is answered differently. -/
theorem ofClauses_insert_constructors (byText : ∀ c ∈ before ++ after, c.NamesByText)
    (built : ofClauses (before ++ after) = .ok m) :
    ∃ m', ofClauses (before ++ .constructors :: after) = .ok m' ∧ m'.TakesConstructors ∧
      (Matchers.single m).AgreeBesidesConstructors (.single m') := by
  obtain ⟨m', builtWith⟩ := exists_ofClauses_of_perm List.perm_middle.symm (ofClauses_cons_constructors byText built)
  refine ⟨m', builtWith, ?_⟩
  rw [eq_collected_of_ofClauses built, eq_collected_of_ofClauses builtWith]
  have collectedWith : collected (before ++ .constructors :: after) =
      ⟨(collected (before ++ after)).types,
        (collected before).names ++ .constructors :: (collected after).names,
        (collected (before ++ after)).parameters⟩ := by
    simp [collected, Clause.constructors]
  rw [collectedWith]
  refine ⟨takesConstructors_of_mem (by simp), Matchers.agreeBesidesConstructors_of_names fun n other => ?_⟩
  rw [NameCriterion.any_insert_constructors other, collected, List.flatMap_append]
  rfl

end Matcher

namespace MatcherTable

variable {t : MatcherTable} {m : Matcher τ}

theorem namesByText_withParameters (names : List String) : (.withParameters names : Clause τ).NamesByText := by
  cases names with
  | nil => exact .parameters .empty
  | cons => exact .parameters _

/-- Without the two flags, a table gives names as texts only. -/
theorem namesByText_clauses (noFlag : t.constructors = false) (noAny : t.anyName = false) :
    ∀ c ∈ (t.clauses : List (Clause τ)), c.NamesByText := by
  intro c member
  rw [clauses_eq_append, List.mem_append, List.mem_append] at member
  rcases member with (ofType | ofName) | ofParameters
  · simp only [typeClauses, List.mem_append, mem_clauseIf] at ofType
    rcases ofType with (⟨-, rfl⟩ | ⟨-, rfl⟩) | ⟨-, rfl⟩
    all_goals exact .types _
  · simp only [nameClauses, noFlag, noAny, List.mem_append, mem_clauseIf, Option.mem_toList, Option.map_eq_some_iff,
      Bool.false_eq_true, false_and, or_false] at ofName
    rcases ofName with ⟨-, rfl⟩ | ⟨start, -, rfl⟩
    · exact .namedOneOf t.names
    · exact .nameStartingWith start
  · simp only [parametersClauses, List.mem_append, mem_clauseIf, List.mem_map] at ofParameters
    rcases ofParameters with (signature | ⟨names, -, rfl⟩) | ⟨-, rfl⟩
    · obtain ⟨names, rfl⟩ := exists_withParameters_of_mem signature
      exact namesByText_withParameters names
    · exact .parameters _
    · exact .parameters .any

/-- What the flag adds to a table is one clause. -/
theorem exists_clauses_split (noFlag : t.constructors = false) :
    ∃ before after : List (Clause τ), t.clauses = before ++ after ∧
      { t with constructors := true }.clauses = before ++ .constructors :: after := by
  refine ⟨t.typeClauses ++ (clauseIf (!t.names.isEmpty) (.namedOneOf t.names)
    ++ (t.nameStart.map .nameStartingWith).toList), clauseIf t.anyName .anyName ++ t.parametersClauses, ?_, ?_⟩
  · simp [clauses_eq_append, nameClauses, clauseIf, noFlag]
  · simp [clauses_eq_append, typeClauses, nameClauses, parametersClauses, clauseIf]

end MatcherTable

/-- Texts as names, and constructors. A matcher whose clauses only give names as texts
    accepts no constructor; a clause for constructors may stand anywhere among them, and
    then it takes them, and nothing else is answered differently. The same holds of a table
    that sets neither flag, if the one for constructors is set as well, and a group accepts
    no constructor if no table of its id sets either. -/
theorem constructors_apart [Hierarchy τ] :
    (∀ (clauses : List (Clause τ)) (m : Matcher τ), (∀ c ∈ clauses, c.NamesByText) →
      Matcher.ofClauses clauses = .ok m →
      (Matchers.single m).RejectConstructors ∧
      ∀ before after, clauses = before ++ after → ∃ m', Matcher.ofClauses (before ++ .constructors :: after) = .ok m' ∧
        m'.TakesConstructors ∧ (Matchers.single m).AgreeBesidesConstructors (.single m')) ∧
    (∀ (t : MatcherTable) (m : Matcher τ), t.constructors = false → t.anyName = false → t.matcher = .ok m →
      (Matchers.single m).RejectConstructors ∧
      ∃ m', { t with constructors := true }.matcher = .ok m' ∧ m'.TakesConstructors ∧
        (Matchers.single m).AgreeBesidesConstructors (.single m')) ∧
    ∀ (tables : List MatcherTable) (groups : List (MatcherGroup τ)), Rules.load tables = .ok groups →
      ∀ g ∈ groups, (∀ t ∈ tables, t.id = g.id.text → t.constructors = false ∧ t.anyName = false) →
        g.matchers.RejectConstructors := by
  refine ⟨?_, ?_, ?_⟩
  · intro clauses m byText built
    refine ⟨Matcher.rejectConstructors_of_ofClauses byText built, ?_⟩
    rintro before after rfl
    exact Matcher.ofClauses_insert_constructors byText built
  · intro t m noFlag noAny built
    have byText := MatcherTable.namesByText_clauses (τ := τ) noFlag noAny
    refine ⟨Matcher.rejectConstructors_of_ofClauses byText built, ?_⟩
    obtain ⟨before, after, split, splitWith⟩ := MatcherTable.exists_clauses_split (τ := τ) noFlag
    rw [MatcherTable.matcher, split] at built
    rw [MatcherTable.matcher, splitWith]
    exact Matcher.ofClauses_insert_constructors (split ▸ byText) built
  · intro tables groups loaded g member unset
    refine Matchers.rejectConstructors_of_names fun m inside k listed => ?_
    obtain ⟨t, isTable, named, built⟩ := Rules.matcher_of_load loaded member inside
    obtain ⟨noFlag, noAny⟩ := unset t isTable named
    exact (Matcher.names_refuse_of_ofClauses (MatcherTable.namesByText_clauses noFlag noAny) built k listed).1

/-- The reserved name, and the start of all names. -/
def reservedClauses : List (Clause TypeRef) :=
  [.ofAnyType, .named constructorName, .nameStartingWith "", .withAnyParameters]

/-- The same as a table. -/
def reservedTable : MatcherTable where
  id := "reserved"
  anyType := true
  names := [constructorName]
  nameStart := some ""
  anyParameters := true

theorem constructors_apart_reserved :
    (∃ m m', Matcher.ofClauses reservedClauses = .ok m ∧ (Matchers.single m).RejectConstructors ∧
      Matcher.ofClauses [.ofAnyType, .named constructorName, .constructors, .nameStartingWith "", .withAnyParameters] =
        .ok m' ∧ m'.TakesConstructors ∧ (Matchers.single m).AgreeBesidesConstructors (.single m')) ∧
    (∃ m m' : Matcher TypeRef, reservedTable.matcher = .ok m ∧ (Matchers.single m).RejectConstructors ∧
      { reservedTable with constructors := true }.matcher = .ok m' ∧ m'.TakesConstructors ∧
      (Matchers.single m).AgreeBesidesConstructors (.single m')) ∧
    ∃ g : MatcherGroup TypeRef, Rules.load [reservedTable] = .ok [g] ∧ g.matchers.RejectConstructors := by
  obtain ⟨ofClauses, ofTable, ofTables⟩ := constructors_apart (τ := TypeRef)
  have byText : ∀ c ∈ reservedClauses, c.NamesByText := by
    simp only [reservedClauses, List.forall_mem_cons]
    exact ⟨.types _, .named _, .nameStartingWith _, .parameters _, by simp⟩
  refine ⟨?_, ?_, ?_⟩
  · obtain ⟨rejects, inserts⟩ := ofClauses reservedClauses (.collected reservedClauses) byText rfl
    obtain ⟨m', built, takes, agree⟩ :=
      inserts [.ofAnyType, .named constructorName] [.nameStartingWith "", .withAnyParameters] rfl
    exact ⟨_, m', rfl, rejects, built, takes, agree⟩
  · obtain ⟨rejects, m', built, takes, agree⟩ := ofTable reservedTable (.collected reservedTable.clauses) rfl rfl rfl
    exact ⟨_, m', rfl, rejects, built, takes, agree⟩
  · refine ⟨_, rfl, ofTables [reservedTable] _ rfl _ (List.mem_singleton_self _) fun t member _ => ?_⟩
    rw [List.mem_singleton.mp member]
    exact ⟨rfl, rfl⟩

end CallSieve
