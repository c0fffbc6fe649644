import CallSieve.Catalog
import CallSieve.Proofs.Matcher.Acceptance
import CallSieve.Proofs.Matcher.Alternatives
import CallSieve.Proofs.TypeTable.History

namespace CallSieve

open Hierarchy (isSubtype)

variable {τ : Type}

namespace Entry

/-- Interfaces whose implementations are covered too, with their methods. -/
def interfaceApis : List (String × List String) :=
  [hibernateSession, sqlStatement, sqlConnection, jdbcOperations, persistenceManager, jdoQuery]

/-- Types that are covered alone, with their methods. -/
def exactApis : List (String × List String) :=
  [entityManager, (statementFactory.1, constructorName :: statementFactory.2)]

/-- The type is one of the interfaces or below it, and the interface has a method of this name. -/
def CoveredBelow (t : TypeTable) (receiver name : String) : Prop :=
  ∃ api ∈ interfaceApis, isSubtype (t.get receiver) api.1 = true ∧ name ∈ api.2

/-- The type is covered alone, with a method of this name. -/
def CoveredAlone (receiver name : String) : Prop := ∃ api ∈ exactApis, api.1 = receiver ∧ name ∈ api.2

instance (receiver name : String) : Decidable (CoveredAlone receiver name) :=
  inferInstanceAs (Decidable (∃ api ∈ exactApis, api.1 = receiver ∧ name ∈ api.2))

theorem mem_sqlInjection_iff {m : Matcher τ} :
    m ∈ (sqlInjection.matchers : Matchers τ).all ↔
      (∃ api ∈ interfaceApis, .collected (callsBelow api) = m) ∨ m = .collected (callsOn entityManager) ∨
        m = .collected (callsAndConstructorsOn statementFactory) := by
  rw [← List.mem_map]
  simp only [matchers, chains, interfaceApis, List.map_cons, List.map_nil, List.mem_cons,
    List.not_mem_nil, or_false, or_assoc]
  grind only

section

variable [Hierarchy τ] {owner : τ} {name : String} {params : List τ} {api : String × List String}

/-- A list of names without that of constructors is asked for as it stands. -/
theorem meets_anySignature_iff {c : TypeCriterion τ} {names : List String} (proper : constructorName ∉ names) :
    (⟨[c], [.ofNames names], [.any]⟩ : Matcher τ).meets owner name params = true ↔
      c.accepts owner = true ∧ name ∈ names := by
  have named : (NameCriterion.ofNames names).accepts name = true ↔ name ∈ names :=
    NameCriterion.accepts_ofNames_iff.trans (and_iff_right_of_imp fun member => ne_of_mem_of_not_mem member proper)
  simp only [Matcher.meets, ParametersCriterion.accepts, named, List.any_cons, List.any_nil, Bool.or_false,
    Bool.and_true, Bool.and_eq_true]

theorem meets_callsBelow_iff (proper : constructorName ∉ api.2) :
    (Matcher.collected (callsBelow api) : Matcher τ).meets owner name params = true ↔
      isSubtype owner api.1 = true ∧ name ∈ api.2 :=
  meets_anySignature_iff proper

theorem meets_callsOn_iff (proper : constructorName ∉ api.2) :
    (Matcher.collected (callsOn api) : Matcher τ).meets owner name params = true ↔
      Hierarchy.hasName owner api.1 = true ∧ name ∈ api.2 :=
  meets_anySignature_iff proper

/-- Constructors are asked for as such, since no name accepts them. -/
theorem meets_callsAndConstructorsOn_iff :
    (Matcher.collected (callsAndConstructorsOn api) : Matcher τ).meets owner name params = true ↔
      Hierarchy.hasName owner api.1 = true ∧ name ∈ constructorName :: api.2 := by
  have named : NameCriterion.constructors.accepts name = true ∨ (NameCriterion.ofNames api.2).accepts name = true ↔
      name ∈ constructorName :: api.2 := by
    rw [NameCriterion.accepts_constructors_iff, NameCriterion.accepts_ofNames_iff, List.mem_cons]
    by_cases isConstructor : name = constructorName
    · simp [isConstructor]
    · simp [isConstructor]
  have parts : (Matcher.collected (callsAndConstructorsOn api) : Matcher τ) =
      ⟨[.exact api.1], [.constructors, .ofNames api.2], [.any]⟩ := rfl
  simp only [parts, Matcher.meets, ParametersCriterion.accepts, named, List.any_cons, List.any_nil, Bool.or_false,
    Bool.and_true, Bool.and_eq_true, Bool.or_eq_true]
  rfl

theorem meets_sqlInjection_iff :
    (∃ m ∈ (sqlInjection.matchers : Matchers τ).all, m.meets owner name params = true) ↔
      (∃ api ∈ interfaceApis, isSubtype owner api.1 = true ∧ name ∈ api.2) ∨
        ∃ api ∈ exactApis, Hierarchy.hasName owner api.1 = true ∧ name ∈ api.2 := by
  have proper : ∀ api ∈ interfaceApis, constructorName ∉ api.2 := by decide
  have exactly : (∃ api ∈ exactApis, Hierarchy.hasName owner api.1 = true ∧ name ∈ api.2) ↔
      (Matcher.collected (callsOn entityManager) : Matcher τ).meets owner name params = true ∨
        (Matcher.collected (callsAndConstructorsOn statementFactory) : Matcher τ).meets owner name params = true := by
    rw [meets_callsOn_iff (by decide), meets_callsAndConstructorsOn_iff]
    simp only [exactApis, List.exists_mem_cons_iff, List.not_mem_nil, false_and, exists_const, or_false]
  rw [exactly]
  constructor
  · rintro ⟨m, member, met⟩
    rcases mem_sqlInjection_iff.mp member with ⟨api, listed, rfl⟩ | rfl | rfl
    · exact .inl ⟨api, listed, (meets_callsBelow_iff (proper api listed)).mp met⟩
    · exact .inr (.inl met)
    · exact .inr (.inr met)
  · rintro (⟨api, listed, met⟩ | met | met)
    · exact ⟨_, mem_sqlInjection_iff.mpr (.inl ⟨api, listed, rfl⟩), (meets_callsBelow_iff (proper api listed)).mpr met⟩
    · exact ⟨_, mem_sqlInjection_iff.mpr (.inr (.inl rfl)), met⟩
    · exact ⟨_, mem_sqlInjection_iff.mpr (.inr (.inr rfl)), met⟩

end

section

variable {t : TypeTable} {s : Symbol TypeRef} {lower upper receiver name : String}

theorem CoveredBelow.of_isSubtype (below : isSubtype (t.get lower) upper = true)
    (covered : CoveredBelow t upper name) : CoveredBelow t lower name := by
  obtain ⟨api, listed, above, member⟩ := covered
  exact ⟨api, listed, TypeTable.isSubtype_get_trans below above, member⟩

/-- The types that are covered alone share no method. -/
theorem CoveredAlone.unique (one : CoveredAlone lower name) (other : CoveredAlone upper name) : lower = upper := by
  obtain ⟨a, aListed, rfl, aNamed⟩ := one
  obtain ⟨b, bListed, rfl, bNamed⟩ := other
  have apart : ∀ a ∈ exactApis, ∀ b ∈ exactApis, ∀ n ∈ a.2, n ∈ b.2 → a.1 = b.1 := by decide
  exact apart a aListed b bListed name aNamed bNamed

theorem accepts_sqlInjection_iff :
    sqlInjection.matchers.accepts ⟨some s, some (t.get receiver)⟩ = true ↔
      s.isMethod = true ∧ s.isUnknown = false ∧
        (CoveredBelow t receiver s.name ∨ t.contains receiver = true ∧ CoveredAlone receiver s.name) := by
  have alone : (∃ api ∈ exactApis, Hierarchy.hasName (t.get receiver) api.1 = true ∧ s.name ∈ api.2) ↔
      t.contains receiver = true ∧ CoveredAlone receiver s.name := by
    simp only [TypeTable.hasName_get_iff, CoveredAlone, eq_comm (a := receiver)]
    grind only
  rw [CoveredBelow, ← alone, ← meets_sqlInjection_iff, Matchers.accepts, List.any_eq_true]
  simp only [Matcher.accepts, Matcher.acceptsResolved_iff, Option.some_or, Option.some.injEq, exists_eq_left']
  constructor
  · rintro ⟨m, member, isMethod, known, met⟩
    exact ⟨isMethod, known, m, member, met⟩
  · rintro ⟨isMethod, known, m, member, met⟩
    exact ⟨m, member, isMethod, known, met⟩

/-- Where the entry accepts a call on a type, it accepts the same call on a type
    below it as well, unless the upper type is covered alone for that method; then
    only if the lower type is below one of the interfaces. -/
theorem accepts_sqlInjection_below_iff (t : TypeTable) (s : Symbol TypeRef) (lower upper : String)
    (below : isSubtype (t.get lower) upper = true)
    (accepted : sqlInjection.matchers.accepts ⟨some s, some (t.get upper)⟩ = true) :
    sqlInjection.matchers.accepts ⟨some s, some (t.get lower)⟩ = true ↔
      lower = upper ∨ ¬ CoveredAlone upper s.name ∨ CoveredBelow t lower s.name := by
  obtain ⟨isMethod, known, covered⟩ := accepts_sqlInjection_iff.mp accepted
  have declared : t.contains lower = true := (TypeTable.isSubtype_get_iff.mp below).1
  rw [accepts_sqlInjection_iff]
  constructor
  · rintro ⟨-, -, covers | ⟨-, alone⟩⟩
    · exact .inr (.inr covers)
    · by_cases upperAlone : CoveredAlone upper s.name
      · exact .inl (alone.unique upperAlone)
      · exact .inr (.inl upperAlone)
  · intro reason
    refine ⟨isMethod, known, ?_⟩
    rcases covered with coversUpper | ⟨-, upperAlone⟩
    · exact .inl (coversUpper.of_isSubtype below)
    · rcases reason with rfl | notAlone | covers
      · exact .inr ⟨declared, upperAlone⟩
      · exact absurd upperAlone notAlone
      · exact .inl covers

end

/-- An interface of the entry with a class two steps below it, and a type that is
    covered alone with a class that implements it. -/
def driverTable : TypeTable :=
  .ofDeclarations [
    .ofInterface "java.sql.Statement" [],
    .ofInterface "java.sql.PreparedStatement" ["java.sql.Statement"],
    .ofClass "org.h2.JdbcStatement" ["java.sql.PreparedStatement"],
    .ofInterface "javax.persistence.EntityManager" [],
    .ofClass "app.Manager" ["javax.persistence.EntityManager"],
    .method ⟨"java.sql.Statement", "executeQuery", ["java.lang.String"]⟩,
    .method ⟨"javax.persistence.EntityManager", "createQuery", ["java.lang.String"]⟩]

def execution : Symbol TypeRef := driverTable.symbolOf ⟨"java.sql.Statement", "executeQuery", ["java.lang.String"]⟩

theorem isSubtype_driver : isSubtype (driverTable.get "org.h2.JdbcStatement") "java.sql.Statement" = true := by
  have first : driverTable.Extends "org.h2.JdbcStatement" "java.sql.PreparedStatement" := ⟨by decide, _, rfl, by decide⟩
  have second : driverTable.Extends "java.sql.PreparedStatement" "java.sql.Statement" := ⟨by decide, _, rfl, by decide⟩
  exact TypeTable.isSubtype_get_iff.mpr ⟨by decide, .tail (.single first) second⟩

theorem accepts_execution_below :
    isSubtype (driverTable.get "org.h2.JdbcStatement") "java.sql.Statement" = true ∧
    sqlInjection.matchers.accepts ⟨some execution, some (driverTable.get "java.sql.Statement")⟩ = true ∧
    sqlInjection.matchers.accepts ⟨some execution, some (driverTable.get "org.h2.JdbcStatement")⟩ = true := by
  have reflexive : isSubtype (driverTable.get "java.sql.Statement") sqlStatement.1 = true :=
    TypeTable.isSubtype_get_iff.mpr ⟨by decide, .refl⟩
  have covered : CoveredBelow driverTable "java.sql.Statement" execution.name :=
    ⟨sqlStatement, by decide, reflexive, by decide⟩
  have accepted : sqlInjection.matchers.accepts ⟨some execution, some (driverTable.get "java.sql.Statement")⟩ = true :=
    accepts_sqlInjection_iff.mpr ⟨rfl, rfl, .inl covered⟩
  have notAlone : ¬ CoveredAlone "java.sql.Statement" execution.name := by decide
  exact ⟨isSubtype_driver, accepted,
    (accepts_sqlInjection_below_iff _ _ _ _ isSubtype_driver accepted).mpr (.inr (.inl notAlone))⟩

def queryOn (receiver : String) : Site := ⟨3, .invocation, some ⟨1⟩, some receiver, none⟩

theorem accepts_queryOn_iff {receiver : String} :
    Mode.tree.accepts sqlInjection.matchers driverTable (queryOn receiver) = true ↔
      CoveredBelow driverTable receiver "createQuery" ∨
        driverTable.contains receiver = true ∧ CoveredAlone receiver "createQuery" :=
  accepts_sqlInjection_iff.trans ((and_iff_right rfl).trans (and_iff_right rfl))

/-- A call that is accepted on an interface, and not on a class that implements it. -/
theorem query_not_accepted_below :
    (driverTable.get "javax.persistence.EntityManager").kind = some .interface ∧
    isSubtype (driverTable.get "app.Manager") "javax.persistence.EntityManager" = true ∧
    Mode.tree.accepts sqlInjection.matchers driverTable (queryOn "javax.persistence.EntityManager") = true ∧
    Mode.tree.accepts sqlInjection.matchers driverTable (queryOn "app.Manager") = false := by
  have implements : driverTable.Extends "app.Manager" "javax.persistence.EntityManager" :=
    ⟨by decide, _, rfl, by decide⟩
  have absent : ∀ api ∈ interfaceApis, "createQuery" ∈ api.2 → driverTable.contains api.1 = false := by decide
  refine ⟨rfl, TypeTable.isSubtype_get_iff.mpr ⟨by decide, .single implements⟩, ?_, ?_⟩
  · exact accepts_queryOn_iff.mpr (.inr ⟨by decide, by decide⟩)
  · rw [Bool.eq_false_iff, Ne, accepts_queryOn_iff]
    rintro (⟨api, listed, below, named⟩ | ⟨-, alone⟩)
    · obtain ⟨declared, path⟩ := TypeTable.isSubtype_get_iff.mp below
      have there := TypeTable.contains_of_extends declared path
      simp [absent api listed named] at there
    · exact absurd alone (by decide)

end Entry

end CallSieve
