import CallSieve.Proofs.Matcher.Building

/-!
Clauses and matchers can be put in any order and nested in any way. Clauses in
another order describe a matcher that accepts the same, and what is put together
from matchers accepts by a single criterion of each kind
(`accepts_by_alternatives`).
-/

namespace CallSieve

variable {τ κ : Type}

theorem Crowded.of_perm {isAny : κ → Bool} {criteria others : List κ} (reordered : criteria.Perm others)
    (crowded : Crowded isAny criteria) : Crowded isAny others := by
  obtain ⟨long, c, member, any⟩ := crowded
  exact ⟨reordered.length_eq ▸ long, c, reordered.mem_iff.mp member, any⟩

theorem Mixed.of_perm {clauses others : List (Clause τ)} (reordered : clauses.Perm others) {kind : Kind}
    (mixed : Mixed clauses kind) : Mixed others kind := by
  cases kind with
  | _ => exact Crowded.of_perm (reordered.flatMap_right _) mixed

theorem Lacking.of_perm {clauses others : List (Clause τ)} (reordered : clauses.Perm others) {kind : Kind}
    (lacking : Lacking clauses kind) : Lacking others kind := by
  cases kind with
  | _ =>
    simp only [Lacking] at lacking ⊢
    exact List.nil_perm.mp (lacking ▸ reordered.flatMap_right _)

namespace Matcher

theorem exists_ofClauses_iff {clauses : List (Clause τ)} :
    (∃ m, ofClauses clauses = .ok m) ↔ (∀ kind, ¬ Mixed clauses kind) ∧ ∀ kind, ¬ Lacking clauses kind := by
  simp only [ofClauses_ok_iff]
  constructor
  · rintro ⟨_, clear, complete, -⟩
    exact ⟨clear, complete⟩
  · rintro ⟨clear, complete⟩
    exact ⟨_, clear, complete, rfl⟩

/-- Whether clauses describe a matcher does not depend on their order. -/
theorem exists_ofClauses_of_perm {clauses others : List (Clause τ)} (reordered : clauses.Perm others)
    (built : ∃ m, ofClauses clauses = .ok m) : ∃ m, ofClauses others = .ok m := by
  obtain ⟨clear, complete⟩ := exists_ofClauses_iff.mp built
  refine exists_ofClauses_iff.mpr ⟨fun kind mixed => ?_, fun kind lacking => ?_⟩
  · exact clear kind (mixed.of_perm reordered.symm)
  · exact complete kind (lacking.of_perm reordered.symm)

section

variable [Hierarchy τ] {m : Matcher τ} {n : Subject τ} {s : Symbol τ}

theorem meets_collected_of_perm {clauses others : List (Clause τ)} (reordered : clauses.Perm others) (owner : τ)
    (name : String) (params : List τ) :
    (collected clauses).meets owner name params = (collected others).meets owner name params := by
  have types := (reordered.flatMap_right (·.addedTypes)).any_eq (f := (·.accepts owner))
  have names := (reordered.flatMap_right (·.addedNames)).any_eq (f := (·.accepts name))
  have parameters := (reordered.flatMap_right (·.addedParameters)).any_eq (f := (·.accepts params))
  simp only [meets, collected, types, names, parameters]

theorem accepts_eq_of_perm {clauses others : List (Clause τ)} (reordered : clauses.Perm others) {m m' : Matcher τ}
    (built : ofClauses clauses = .ok m) (otherBuilt : ofClauses others = .ok m') (n : Subject τ) :
    m.accepts n = m'.accepts n := by
  obtain rfl := eq_collected_of_ofClauses built
  obtain rfl := eq_collected_of_ofClauses otherBuilt
  simp only [accepts, acceptsResolved, meets_collected_of_perm reordered]

theorem acceptsResolved_iff {callSite : Option τ} :
    m.acceptsResolved s callSite = true ↔
      s.isMethod = true ∧ s.isUnknown = false ∧
        ∃ owner, callSite.or s.owner = some owner ∧ m.meets owner s.name s.parameters = true := by
  rw [acceptsResolved]
  generalize callSite.or s.owner = candidate
  cases candidate <;> cases s.isMethod <;> cases s.isUnknown <;> simp

/-- Without a criterion that accepts its name, a method is not accepted. -/
theorem acceptsResolved_of_names {callSite : Option τ} (none : m.names.any (·.accepts s.name) = false) :
    m.acceptsResolved s callSite = false := by
  rw [Bool.eq_false_iff, Ne, acceptsResolved_iff]
  rintro ⟨-, -, owner, -, met⟩
  simp [meets, none] at met

/-- Of criteria on names it only matters what they say of the name of a method. -/
theorem acceptsResolved_eq_of_names {types : List (TypeCriterion τ)} {names others : List NameCriterion}
    {parameters : List (ParametersCriterion τ)} {callSite : Option τ}
    (same : s.isMethod = true → names.any (·.accepts s.name) = others.any (·.accepts s.name)) :
    (⟨types, names, parameters⟩ : Matcher τ).acceptsResolved s callSite =
      (⟨types, others, parameters⟩ : Matcher τ).acceptsResolved s callSite := by
  cases isMethod : s.isMethod with
  | false => simp only [acceptsResolved, isMethod, Bool.not_false, Bool.or_true, if_true]
  | true => simp only [acceptsResolved, meets, same isMethod]

theorem accepts_iff : m.accepts n = true ↔ ∃ s, n.symbol = some s ∧ m.acceptsResolved s n.callSite = true := by
  rw [accepts]
  cases n.symbol <;> simp

/-- The matcher is built from one criterion of each kind. -/
def IsAlternative (m one : Matcher τ) : Prop :=
  ∃ c ∈ m.types, ∃ k ∈ m.names, ∃ p ∈ m.parameters, ofClauses [.types [c], .name k, .parameters p] = .ok one

omit [Hierarchy τ] in
theorem ofClauses_singles (c : TypeCriterion τ) (k : NameCriterion) (p : ParametersCriterion τ) :
    ofClauses [.types [c], .name k, .parameters p] = .ok ⟨[c], [k], [p]⟩ := by
  refine ofClauses_ok_iff.mpr ⟨fun kind => ?_, fun kind => ?_, rfl⟩
  · cases kind <;> simp [Mixed, Crowded]
  · cases kind <;> simp [Lacking]

/-- What is built from one criterion of each kind accepts what all three accept. -/
theorem accepts_single_iff {c : TypeCriterion τ} {k : NameCriterion} {p : ParametersCriterion τ} :
    (⟨[c], [k], [p]⟩ : Matcher τ).accepts n = true ↔
      ∃ s owner, n.symbol = some s ∧ s.isMethod = true ∧ s.isUnknown = false ∧ n.callSite.or s.owner = some owner ∧
        c.accepts owner = true ∧ k.accepts s.name = true ∧ p.accepts s.parameters = true := by
  simp only [accepts_iff, acceptsResolved_iff, meets, List.any_cons, List.any_nil, Bool.or_false, Bool.and_eq_true,
    and_assoc]
  constructor
  · rintro ⟨s, resolved, isMethod, known, owner, owned, met⟩
    exact ⟨s, owner, resolved, isMethod, known, owned, met⟩
  · rintro ⟨s, owner, resolved, isMethod, known, owned, met⟩
    exact ⟨s, resolved, isMethod, known, owner, owned, met⟩

theorem meets_iff_alternative {owner : τ} {name : String} {params : List τ} :
    m.meets owner name params = true ↔ ∃ one, m.IsAlternative one ∧ one.meets owner name params = true := by
  simp only [IsAlternative, ofClauses_singles]
  constructor
  · intro met
    simp only [meets, Bool.and_eq_true, List.any_eq_true] at met
    obtain ⟨⟨⟨c, cMember, typeAccepted⟩, k, kMember, nameAccepted⟩, p, pMember, paramsAccepted⟩ := met
    exact ⟨_, ⟨c, cMember, k, kMember, p, pMember, rfl⟩, by simp [meets, typeAccepted, nameAccepted, paramsAccepted]⟩
  · rintro ⟨one, ⟨c, cMember, k, kMember, p, pMember, built⟩, met⟩
    obtain rfl := Except.ok.inj built
    simp only [meets, List.any_cons, List.any_nil, Bool.or_false, Bool.and_eq_true] at met
    simp only [meets, Bool.and_eq_true, List.any_eq_true]
    exact ⟨⟨⟨c, cMember, met.1.1⟩, k, kMember, met.1.2⟩, p, pMember, met.2⟩

/-- A matcher accepts by one of the matchers of a single criterion of each kind. -/
theorem accepts_iff_alternative : m.accepts n = true ↔ ∃ one, m.IsAlternative one ∧ one.accepts n = true := by
  constructor
  · intro accepted
    obtain ⟨s, resolved, accepted⟩ := accepts_iff.mp accepted
    obtain ⟨isMethod, known, owner, owned, met⟩ := acceptsResolved_iff.mp accepted
    obtain ⟨one, isAlternative, met⟩ := meets_iff_alternative.mp met
    exact ⟨one, isAlternative, accepts_iff.mpr
      ⟨s, resolved, acceptsResolved_iff.mpr ⟨isMethod, known, owner, owned, met⟩⟩⟩
  · rintro ⟨one, isAlternative, accepted⟩
    obtain ⟨s, resolved, accepted⟩ := accepts_iff.mp accepted
    obtain ⟨isMethod, known, owner, owned, met⟩ := acceptsResolved_iff.mp accepted
    exact accepts_iff.mpr ⟨s, resolved, acceptsResolved_iff.mpr
      ⟨isMethod, known, owner, owned, meets_iff_alternative.mpr ⟨one, isAlternative, met⟩⟩⟩

end

end Matcher

/-- How matchers are put together: each alone, none at all, or as alternatives
    that are put together themselves, handed over or gathered. -/
inductive Assembly (τ : Type) where
  | single (m : Matcher τ)
  | empty
  | or (each : List (Assembly τ))
  | collect (each : List (Assembly τ))

namespace Assembly

mutual
def matchers : Assembly τ → Matchers τ
  | single m => .single m
  | empty => .empty
  | or each => .or (matchersOf each)
  | collect each => .collect (matchersOf each)
def matchersOf : List (Assembly τ) → List (Matchers τ)
  | [] => []
  | a :: rest => a.matchers :: matchersOf rest
end

/-- The single matchers anywhere inside. -/
inductive Constituent (m : Matcher τ) : Assembly τ → Prop
  | single : Constituent m (.single m)
  | or {each : List (Assembly τ)} {a : Assembly τ} (member : a ∈ each) (inside : Constituent m a) :
      Constituent m (.or each)
  | collect {each : List (Assembly τ)} {a : Assembly τ} (member : a ∈ each) (inside : Constituent m a) :
      Constituent m (.collect each)

theorem matchersOf_eq_map (each : List (Assembly τ)) : matchersOf each = each.map matchers := by
  induction each with
  | nil => rfl
  | cons a rest ih => rw [matchersOf, ih, List.map_cons]

theorem mem_all_or_iff {each : List (Assembly τ)} {m : Matcher τ} :
    m ∈ (Matchers.or (matchersOf each)).all ↔ ∃ a ∈ each, m ∈ a.matchers.all := by
  simp [Matchers.or, matchersOf_eq_map]

theorem mem_all_iff (a : Assembly τ) {m : Matcher τ} : m ∈ a.matchers.all ↔ Constituent m a := by
  match a with
  | single m' =>
    simp only [matchers, Matchers.single, List.mem_singleton]
    constructor
    · rintro rfl
      exact .single
    · intro inside
      cases inside
      rfl
  | empty =>
    constructor
    · intro member
      cases member
    · intro inside
      cases inside
  | or each =>
    rw [matchers, mem_all_or_iff]
    constructor
    · rintro ⟨b, member, inside⟩
      exact .or member (b.mem_all_iff.mp inside)
    · intro inside
      cases inside with
      | @or _ b member inside => exact ⟨b, member, b.mem_all_iff.mpr inside⟩
  | collect each =>
    rw [matchers, Matchers.collect, mem_all_or_iff]
    constructor
    · rintro ⟨b, member, inside⟩
      exact .collect member (b.mem_all_iff.mp inside)
    · intro inside
      cases inside with
      | @collect _ b member inside => exact ⟨b, member, b.mem_all_iff.mpr inside⟩

end Assembly

/-- What matchers can be asked about: a known method with the type of its call
    site, or else with an owner. -/
def Subject.IsKnown (n : Subject τ) : Prop :=
  ∃ s, n.symbol = some s ∧ s.isMethod = true ∧ s.isUnknown = false ∧ ∃ owner, n.callSite.or s.owner = some owner

variable [Hierarchy τ]

theorem Matcher.isKnown_of_accepts {m : Matcher τ} {n : Subject τ} (accepted : m.accepts n = true) : n.IsKnown := by
  obtain ⟨s, resolved, accepted⟩ := accepts_iff.mp accepted
  obtain ⟨isMethod, known, owner, owned, -⟩ := acceptsResolved_iff.mp accepted
  exact ⟨s, resolved, isMethod, known, owner, owned⟩

namespace Assembly

theorem accepts_iff {a : Assembly τ} {n : Subject τ} :
    a.matchers.accepts n = true ↔
      n.IsKnown ∧ ∃ m, Constituent m a ∧ ∃ one, m.IsAlternative one ∧ one.accepts n = true := by
  rw [Matchers.accepts, List.any_eq_true]
  simp only [mem_all_iff, ← Matcher.accepts_iff_alternative]
  constructor
  · rintro ⟨m, inside, accepted⟩
    exact ⟨Matcher.isKnown_of_accepts accepted, m, inside, accepted⟩
  · rintro ⟨-, accepted⟩
    exact accepted

/-- Neither the order of clauses nor the nesting of matchers matters. Clauses in
    another order describe a matcher if they did before, and then it accepts the
    same nodes and the same symbols. Matchers that are put together accept a
    node exactly if it resolves to a known method with a type to hold against
    the matcher, and some single matcher inside has one criterion of each kind of
    which the matcher of these three alone accepts it; and so for a bare symbol.
    Three such criteria always make a matcher, and it accepts what all three do. -/
theorem accepts_by_alternatives (τ : Type) [Hierarchy τ] :
    (∀ clauses others : List (Clause τ), clauses.Perm others →
      ((∃ m, Matcher.ofClauses clauses = .ok m) ↔ ∃ m, Matcher.ofClauses others = .ok m) ∧
      ∀ m m', Matcher.ofClauses clauses = .ok m → Matcher.ofClauses others = .ok m' →
        (∀ n, m.accepts n = m'.accepts n) ∧ ∀ s, m.acceptsSymbol s = m'.acceptsSymbol s) ∧
    (∀ (a : Assembly τ) (n : Subject τ), a.matchers.accepts n = true ↔
      n.IsKnown ∧ ∃ m, Constituent m a ∧ ∃ one, m.IsAlternative one ∧ one.accepts n = true) ∧
    (∀ (a : Assembly τ) (s : Symbol τ), a.matchers.acceptsSymbol s = true ↔
      (⟨some s, none⟩ : Subject τ).IsKnown ∧
        ∃ m, Constituent m a ∧ ∃ one, m.IsAlternative one ∧ one.acceptsSymbol s = true) ∧
    ∀ (c : TypeCriterion τ) (k : NameCriterion) (p : ParametersCriterion τ),
      ∃ one, Matcher.ofClauses [.types [c], .name k, .parameters p] = .ok one ∧
        ∀ n, one.accepts n = true ↔
          ∃ s owner, n.symbol = some s ∧ s.isMethod = true ∧ s.isUnknown = false ∧
            n.callSite.or s.owner = some owner ∧
              c.accepts owner = true ∧ k.accepts s.name = true ∧ p.accepts s.parameters = true := by
  refine ⟨fun clauses others reordered => ⟨⟨?_, ?_⟩, ?_⟩, fun a n => accepts_iff, fun a s => ?_, fun c k p => ?_⟩
  · exact Matcher.exists_ofClauses_of_perm reordered
  · exact Matcher.exists_ofClauses_of_perm reordered.symm
  · intro m m' built otherBuilt
    have same := Matcher.accepts_eq_of_perm reordered built otherBuilt
    exact ⟨same, fun s => same ⟨some s, none⟩⟩
  · exact accepts_iff (n := ⟨some s, none⟩)
  · exact ⟨_, Matcher.ofClauses_singles c k p, fun n => Matcher.accepts_single_iff⟩

end Assembly

end CallSieve
