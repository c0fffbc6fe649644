import CallSieve.Proofs.Except
import CallSieve.Proofs.Matcher.Alternatives
import CallSieve.TypeTable

/-!
A clause on types that lists names is the clauses for each of them. A clause with
a list of names is a single criterion instead, so drafts after the one and after
the others are not the same; but they accept alike, and further clauses keep them
so (`Draft.Alike.foldl_add`). Only an empty list of names is not the same as no
clause at all (`Draft.buildAfter_bulk`): it fills a kind with a criterion that
accepts nothing.
-/

namespace CallSieve

variable {τ : Type}

namespace NameCriterion

/-- A set of names accepts what the sets of each of them accept. -/
theorem any_map_ofNames (names : List String) (n : String) :
    (names.map fun name => ofNames [name]).any (·.accepts n) = (ofNames names).accepts n := by
  rw [Bool.eq_iff_iff, List.any_map, List.any_eq_true]
  simp only [Function.comp_apply, accepts_ofNames_iff, List.mem_singleton]
  constructor
  · rintro ⟨name, member, proper, rfl⟩
    exact ⟨proper, member⟩
  · rintro ⟨proper, member⟩
    exact ⟨n, member, proper, rfl⟩

@[simp] theorem isAny_ofNames (names : List String) : (ofNames names).isAny = false := rfl

theorem accepts_ofNames_nil (n : String) : (ofNames []).accepts n = false := by
  rw [Bool.eq_false_iff]
  intro accepted
  simpa using (accepts_ofNames_iff.mp accepted).2

end NameCriterion

theorem Clause.named_eq (name : String) : (named name : Clause τ) = namedOneOf [name] := rfl

/-! ### Drafts that accept alike -/

/-- Slots in the same state, with criteria that together accept the same names. -/
inductive Slot.Alike : Slot NameCriterion → Slot NameCriterion → Prop
  | unset : Alike .unset .unset
  | specific {criteria others : List NameCriterion}
      (same : ∀ n, criteria.any (·.accepts n) = others.any (·.accepts n)) : Alike (.specific criteria) (.specific others)
  | frozen (criterion : NameCriterion) : Alike (.frozen criterion) (.frozen criterion)

theorem Slot.Alike.refl (slot : Slot NameCriterion) : slot.Alike slot := by
  cases slot with
  | unset => exact .unset
  | specific criteria => exact .specific fun _ => rfl
  | frozen criterion => exact .frozen criterion

/-- Alike slots take the same criteria and refuse the same. -/
theorem Slot.Alike.push {slot other : Slot NameCriterion} (alike : slot.Alike other) (isAny : Bool) (c : NameCriterion) :
    (slot.push .name isAny c).1.Alike (other.push .name isAny c).1 ∧
      (slot.push .name isAny c).2 = (other.push .name isAny c).2 := by
  cases alike with
  | unset => exact ⟨.refl _, rfl⟩
  | specific same =>
    cases isAny with
    | true => exact ⟨.specific same, rfl⟩
    | false => exact ⟨.specific fun n => by simp only [List.any_append, same], rfl⟩
  | frozen criterion => exact ⟨.refl _, rfl⟩

namespace Draft

/-- Drafts that differ at most in how their criteria on names are put. -/
structure Alike (d e : Draft τ) : Prop where
  types : d.types = e.types
  names : d.names.Alike e.names
  parameters : d.parameters = e.parameters
  misuse : d.misuse = e.misuse

namespace Alike

variable {d e : Draft τ}

theorem refl (d : Draft τ) : d.Alike d := ⟨rfl, .refl _, rfl, rfl⟩

theorem addType (alike : d.Alike e) (c : TypeCriterion τ) : (d.addType c).Alike (e.addType c) where
  types := by simp only [Draft.addType, alike.types]
  names := alike.names
  parameters := alike.parameters
  misuse := by simp only [Draft.addType, alike.types, alike.misuse]

theorem addName (alike : d.Alike e) (c : NameCriterion) : (d.addName c).Alike (e.addName c) where
  types := alike.types
  names := (alike.names.push c.isAny c).1
  parameters := alike.parameters
  misuse := by
    simp only [Draft.addName, alike.misuse, (alike.names.push c.isAny c).2]

theorem addParameters (alike : d.Alike e) (c : ParametersCriterion τ) :
    (d.addParameters c).Alike (e.addParameters c) where
  types := alike.types
  names := alike.names
  parameters := by simp only [Draft.addParameters, alike.parameters]
  misuse := by simp only [Draft.addParameters, alike.parameters, alike.misuse]

theorem foldl_addType (alike : d.Alike e) (criteria : List (TypeCriterion τ)) :
    (criteria.foldl Draft.addType d).Alike (criteria.foldl Draft.addType e) := by
  induction criteria generalizing d e with
  | nil => exact alike
  | cons c rest ih => exact ih (alike.addType c)

theorem add (alike : d.Alike e) (c : Clause τ) : (d.add c).Alike (e.add c) := by
  cases c with
  | types criteria => exact alike.foldl_addType criteria
  | name c => exact alike.addName c
  | parameters c => exact alike.addParameters c

theorem foldl_add (alike : d.Alike e) (clauses : List (Clause τ)) :
    (clauses.foldl Draft.add d).Alike (clauses.foldl Draft.add e) := by
  induction clauses generalizing d e with
  | nil => exact alike
  | cons c rest ih => exact ih (alike.add c)

end Alike

section

variable {types : Slot (TypeCriterion τ)} {parameters : Slot (ParametersCriterion τ)} {misuse : Option BuildError}
  {criteria : List NameCriterion}

theorem add_namedOneOf_unset (names : List String) :
    add ⟨types, .unset, parameters, misuse⟩ (.namedOneOf names) =
      ⟨types, .specific [.ofNames names], parameters, misuse⟩ := by
  simp [add, Clause.namedOneOf, addName, Slot.push]

theorem add_namedOneOf_specific (names : List String) :
    add ⟨types, .specific criteria, parameters, misuse⟩ (.namedOneOf names) =
      ⟨types, .specific (criteria ++ [.ofNames names]), parameters, misuse⟩ := by
  simp [add, Clause.namedOneOf, addName, Slot.push]

/-- A kind with a criterion for everything refuses any list, and an earlier misuse counts before that. -/
theorem add_namedOneOf_frozen (frozen : NameCriterion) (names : List String) :
    add ⟨types, .frozen frozen, parameters, misuse⟩ (.namedOneOf names) =
      ⟨types, .frozen frozen, parameters, misuse.or (some (.conflictingAny .name))⟩ := rfl

/-- Where there are specific criteria on names, each further name adds its own. -/
theorem foldl_named_specific (names : List String) :
    (names.map Clause.named).foldl add ⟨types, .specific criteria, parameters, misuse⟩ =
      ⟨types, .specific (criteria ++ names.map fun name => .ofNames [name]), parameters, misuse⟩ := by
  induction names generalizing criteria with
  | nil => simp
  | cons name rest ih =>
    rw [List.map_cons, List.foldl_cons, Clause.named_eq, add_namedOneOf_specific, ih, List.append_assoc]
    rfl

/-- After the first refusal no name changes anything. -/
theorem foldl_named_frozen (frozen : NameCriterion) (e : BuildError) (names : List String) :
    (names.map Clause.named).foldl add ⟨types, .frozen frozen, parameters, some e⟩ =
      ⟨types, .frozen frozen, parameters, some e⟩ := by
  induction names with
  | nil => rfl
  | cons name rest ih =>
    rw [List.map_cons, List.foldl_cons, Clause.named_eq, add_namedOneOf_frozen, Option.or_some]
    exact ih

end

/-- A list of types is the types in it. -/
theorem foldl_ofType (d : Draft τ) (names : List String) :
    (names.map Clause.ofType).foldl add d = d.add (.ofTypes names) := by
  simp only [add, Clause.ofTypes, List.foldl_map]
  rfl

theorem foldl_ofSubtype (d : Draft τ) (names : List String) :
    (names.map Clause.ofSubtype).foldl add d = d.add (.ofSubtypes names) := by
  simp only [add, Clause.ofSubtypes, List.foldl_map]
  rfl

/-- A list of names is alike to the names in it, if there are any or if there are
    specific criteria on names already. -/
theorem alike_namedOneOf (d : Draft τ) {names : List String}
    (filled : names ≠ [] ∨ ∃ criteria, d.names = .specific criteria) :
    (d.add (.namedOneOf names)).Alike ((names.map Clause.named).foldl add d) := by
  obtain ⟨types, slot, parameters, misuse⟩ := d
  cases slot with
  | specific criteria =>
    rw [add_namedOneOf_specific, foldl_named_specific]
    refine ⟨rfl, .specific fun n => ?_, rfl, rfl⟩
    rw [List.any_append, List.any_append, NameCriterion.any_map_ofNames]
    simp
  | unset =>
    obtain ⟨name, rest, rfl⟩ := List.exists_cons_of_ne_nil (filled.resolve_right (by simp))
    rw [add_namedOneOf_unset, List.map_cons, List.foldl_cons, Clause.named_eq, add_namedOneOf_unset,
      foldl_named_specific]
    refine ⟨rfl, .specific fun n => ?_, rfl, rfl⟩
    have whole := NameCriterion.any_map_ofNames (name :: rest) n
    rw [List.map_cons] at whole
    rw [List.singleton_append, whole]
    simp
  | frozen frozen =>
    obtain ⟨name, rest, rfl⟩ := List.exists_cons_of_ne_nil (filled.resolve_right (by simp))
    obtain ⟨e, misused⟩ : ∃ e, misuse.or (some (.conflictingAny .name)) = some e := by cases misuse <;> simp
    rw [add_namedOneOf_frozen, List.map_cons, List.foldl_cons, Clause.named_eq, add_namedOneOf_frozen, misused,
      foldl_named_frozen]
    exact .refl _

/-- What is built from a draft after further clauses. -/
def buildAfter (d : Draft τ) (clauses : List (Clause τ)) : Except BuildError (Matcher τ) :=
  (clauses.foldl add d).build

section

variable {d : Draft τ}

theorem buildAfter_append (d : Draft τ) (clauses more : List (Clause τ)) :
    d.buildAfter (clauses ++ more) = (clauses.foldl add d).buildAfter more := by
  rw [buildAfter, List.foldl_append, buildAfter]

theorem build_eq_ok_iff {m : Matcher τ} :
    d.build = .ok m ↔
      d.misuse = none ∧ d.types.finish .type = .ok m.types ∧ d.names.finish .name = .ok m.names ∧
        d.parameters.finish .parameters = .ok m.parameters := by
  obtain ⟨types, names, parameters, misuse⟩ := d
  cases misuse with
  | some e => simp [build]
  | none =>
    simp only [build, bind_eq_ok_iff, true_and]
    constructor
    · rintro ⟨_, typesDone, _, namesDone, _, parametersDone, done⟩
      cases done
      exact ⟨typesDone, namesDone, parametersDone⟩
    · rintro ⟨typesDone, namesDone, parametersDone⟩
      exact ⟨_, typesDone, _, namesDone, _, parametersDone, rfl⟩

theorem build_of_misuse {e : BuildError} (misused : d.misuse = some e) : d.build = .error e := by
  simp only [build, misused]

/-- What is lacking is the only error of a draft without a misuse. -/
theorem build_ne_conflictingAny (unspoilt : d.misuse = none) (kind : Kind) :
    d.build ≠ .error (.conflictingAny kind) := by
  obtain ⟨types, names, parameters, _⟩ := d
  obtain rfl := unspoilt
  simp only [build]
  cases types <;> cases names <;> cases parameters <;> simp [Slot.finish, bind, Except.bind, pure, Except.pure]

theorem buildAfter_of_misuse {e : BuildError} (misused : d.misuse = some e) (clauses : List (Clause τ)) :
    d.buildAfter clauses = .error e :=
  build_of_misuse (foldl_add_misuse misused clauses)

/-- An empty list of names is refused where a criterion for everything stands, and keeps out one
    that comes later. -/
theorem exists_buildAfter_noNames (unspoilt : d.misuse = none) (unspecific : ∀ criteria, d.names ≠ .specific criteria) :
    ∃ more, d.buildAfter (.namedOneOf [] :: more) = .error (.conflictingAny .name) ∧
      d.buildAfter more ≠ .error (.conflictingAny .name) := by
  obtain ⟨types, slot, parameters, _⟩ := d
  obtain rfl := unspoilt
  cases slot with
  | unset => exact ⟨[.anyName], build_of_misuse rfl, build_ne_conflictingAny rfl .name⟩
  | specific criteria => exact absurd rfl (unspecific criteria)
  | frozen criterion => exact ⟨[], build_of_misuse rfl, build_ne_conflictingAny rfl .name⟩

end

end Draft

/-- The same error twice, or two matchers that accept the same nodes and the same symbols. -/
def OutcomesAgree [Hierarchy τ] : Except BuildError (Matcher τ) → Except BuildError (Matcher τ) → Prop
  | .error e, .error e' => e = e'
  | .ok m, .ok m' => (∀ n, m.accepts n = m'.accepts n) ∧ ∀ s, m.acceptsSymbol s = m'.acceptsSymbol s
  | .ok _, .error _ | .error _, .ok _ => False

variable [Hierarchy τ]

namespace OutcomesAgree

theorem refl (outcome : Except BuildError (Matcher τ)) : OutcomesAgree outcome outcome := by
  cases outcome with
  | error e => rfl
  | ok m => exact ⟨fun _ => rfl, fun _ => rfl⟩

theorem eq_error {e : BuildError} {outcome : Except BuildError (Matcher τ)} (agree : OutcomesAgree (.error e) outcome) :
    outcome = .error e := by
  cases outcome with
  | error e' => exact congrArg _ (Eq.symm agree)
  | ok m => exact agree.elim

end OutcomesAgree

theorem Matcher.acceptsResolved_of_noNames {m : Matcher τ} (noNames : ∀ n, m.names.any (·.accepts n) = false)
    (s : Symbol τ) (callSite : Option τ) : m.acceptsResolved s callSite = false :=
  acceptsResolved_of_names (noNames s.name)

namespace Draft

variable {d e : Draft τ}

/-- Drafts that accept alike have outcomes that agree. -/
theorem Alike.build (alike : d.Alike e) : OutcomesAgree d.build e.build := by
  obtain ⟨types, slot, parameters, misuse⟩ := d
  obtain ⟨_, other, _, _⟩ := e
  obtain ⟨rfl, alike, rfl, rfl⟩ := alike
  cases alike with
  | unset => exact .refl _
  | frozen criterion => exact .refl _
  | specific same =>
    cases misuse with
    | some e => rfl
    | none =>
      simp only [Draft.build]
      cases types.finish .type with
      | error e => rfl
      | ok types =>
        cases parameters.finish .parameters with
        | error e => rfl
        | ok parameters =>
          refine ⟨fun n => ?_, fun s => Matcher.acceptsResolved_eq_of_names fun _ => same s.name⟩
          cases found : n.symbol with
          | none => simp only [Matcher.accepts, found]
          | some s =>
            simp only [Matcher.accepts, found]
            exact Matcher.acceptsResolved_eq_of_names fun _ => same s.name

theorem Alike.buildAfter (alike : d.Alike e) (more : List (Clause τ)) :
    OutcomesAgree (d.buildAfter more) (e.buildAfter more) :=
  (alike.foldl_add more).build

theorem outcomesAgree_namedOneOf_iff {names : List String} :
    (∀ more, OutcomesAgree (d.buildAfter (.namedOneOf names :: more)) (d.buildAfter (names.map .named ++ more))) ↔
      names ≠ [] ∨ d.misuse.isSome = true ∨ ∃ criteria, d.names = .specific criteria := by
  constructor
  · intro agree
    by_contra other
    simp only [not_or, not_not, Bool.not_eq_true, Option.isSome_eq_false_iff, Option.isNone_iff_eq_none,
      not_exists] at other
    obtain ⟨rfl, unspoilt, unspecific⟩ := other
    obtain ⟨more, refused, allowed⟩ := exists_buildAfter_noNames unspoilt unspecific
    have same := agree more
    rw [refused] at same
    exact allowed same.eq_error
  · rintro (filled | misused | specific) more
    · rw [buildAfter_append]
      exact (d.alike_namedOneOf (.inl filled)).buildAfter more
    · obtain ⟨e, misused⟩ := Option.isSome_iff_exists.mp misused
      rw [buildAfter_of_misuse misused, buildAfter_of_misuse misused]
      exact .refl _
    · rw [buildAfter_append]
      exact (d.alike_namedOneOf (.inr specific)).buildAfter more

omit [Hierarchy τ] in
/-- Where only a name is missing, an empty list of names makes up for it. -/
theorem buildAfter_noNames (noName : d.names = .unset) {name : String} {m : Matcher τ}
    (built : d.buildAfter [.named name] = .ok m) :
    d.build = .error (.incomplete .name) ∧ d.buildAfter [.namedOneOf []] = .ok ⟨m.types, [.ofNames []], m.parameters⟩ := by
  obtain ⟨types, _, parameters, misuse⟩ := d
  obtain rfl := noName
  simp only [buildAfter, List.foldl_cons, List.foldl_nil, Clause.named_eq, add_namedOneOf_unset] at built ⊢
  obtain ⟨unspoilt, typesDone, -, parametersDone⟩ := build_eq_ok_iff.mp built
  refine ⟨?_, build_eq_ok_iff.mpr ⟨unspoilt, typesDone, rfl, parametersDone⟩⟩
  obtain rfl : misuse = none := unspoilt
  simp only [Draft.build, typesDone]
  rfl

/-- Clauses with several names, after any clauses and before any others. On types
    they are the clauses for each of the names. A list of names for methods agrees
    with the single names in all that can follow exactly if it is not empty, or an
    earlier misuse counts anyway, or specific criteria on names are there already:
    an empty list is a criterion that accepts nothing. So where only a name is
    missing, it makes a matcher that accepts nothing out of one that is incomplete. -/
theorem buildAfter_bulk (d : Draft τ) (names : List String) :
    (∀ more, d.buildAfter (.ofTypes names :: more) = d.buildAfter (names.map .ofType ++ more)) ∧
    (∀ more, d.buildAfter (.ofSubtypes names :: more) = d.buildAfter (names.map .ofSubtype ++ more)) ∧
    ((∀ more, OutcomesAgree (d.buildAfter (.namedOneOf names :: more)) (d.buildAfter (names.map .named ++ more))) ↔
      names ≠ [] ∨ d.misuse.isSome = true ∨ ∃ criteria, d.names = .specific criteria) ∧
    (d.names = .unset → ∀ name m, d.buildAfter [.named name] = .ok m →
      d.build = .error (.incomplete .name) ∧
        ∃ m', d.buildAfter [.namedOneOf []] = .ok m' ∧ (∀ n, m'.accepts n = false) ∧ ∀ s, m'.acceptsSymbol s = false) := by
  refine ⟨fun more => ?_, fun more => ?_, outcomesAgree_namedOneOf_iff, fun noName name m built => ?_⟩
  · rw [buildAfter_append, foldl_ofType]
    rfl
  · rw [buildAfter_append, foldl_ofSubtype]
    rfl
  · obtain ⟨lacking, done⟩ := buildAfter_noNames noName built
    have rejects := (⟨m.types, [.ofNames []], m.parameters⟩ : Matcher τ).acceptsResolved_of_noNames fun n => by
      simp [NameCriterion.accepts_ofNames_nil]
    refine ⟨lacking, _, done, fun n => ?_, fun s => rejects s none⟩
    simp only [Matcher.accepts, rejects]
    split <;> rfl

/-- Every type and all parameters, but no name yet. -/
def nameless : Draft TypeRef := ofClauses [.ofAnyType, .withAnyParameters]

/-- Two names at once or one by one, and two types where every type is asked for. -/
theorem buildAfter_accessors :
    OutcomesAgree (nameless.buildAfter [.namedOneOf ["get", "set"]]) (nameless.buildAfter [.named "get", .named "set"]) ∧
    nameless.buildAfter [.ofTypes ["app.Map", "app.List"]] = nameless.buildAfter [.ofType "app.Map", .ofType "app.List"] ∧
    nameless.build = .error (.incomplete .name) := by
  obtain ⟨-, -, bulk, -⟩ := buildAfter_bulk nameless ["get", "set"]
  have one := (buildAfter_bulk nameless []).2.2.2 rfl "get" _ rfl
  exact ⟨bulk.mpr (.inl (by decide)) [], (buildAfter_bulk nameless ["app.Map", "app.List"]).1 [], one.1⟩

/-- No names make a matcher that accepts nothing where leaving them out is an error. -/
theorem not_outcomesAgree_noNames :
    Matcher.ofClauses [.ofAnyType, .namedOneOf [], .withAnyParameters] =
      .ok (⟨[.any], [.ofNames []], [.any]⟩ : Matcher TypeRef) ∧
    (Matcher.ofClauses [.ofAnyType, .withAnyParameters] : Except BuildError (Matcher TypeRef)) =
      .error (.incomplete .name) ∧
    ¬ OutcomesAgree ((ofClauses [.ofAnyType]).buildAfter [.namedOneOf [], .withAnyParameters])
      ((ofClauses [.ofAnyType]).buildAfter (([] : List String).map .named ++ [.withAnyParameters]) :
        Except BuildError (Matcher TypeRef)) :=
  ⟨rfl, rfl, id⟩

end Draft

end CallSieve
