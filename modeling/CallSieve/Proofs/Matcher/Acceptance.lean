import CallSieve.Proofs.TypeTable.Subtyping
import CallSieve.Site

/-!
What matchers ask of a site comes down to the method it refers to and the names
of types (`Mode.accepts_iff`). Matchers without tests of their own see of a type
only its name and the names above it, so they accept wherever these are still
there (`Mode.accepts_mono`).
-/

namespace CallSieve

variable {τ : Type}

def TypeCriterion.isPlain : TypeCriterion τ → Bool
  | predicate _ => false
  | any | exact _ | subtypeOf _ => true

def NameCriterion.isPlain : NameCriterion → Bool
  | predicate _ => false
  | oneOf _ | startsWith _ | any | constructors => true

def ParametersCriterion.isPlain : ParametersCriterion τ → Bool
  | exactly each | startingWith each => each.all (·.isPlain)
  | testing _ | predicate _ => false
  | empty | any => true

/-- No criterion of the matcher is a test that was handed in. -/
def Matcher.isPlain (m : Matcher τ) : Bool :=
  m.types.all (·.isPlain) && m.names.all (·.isPlain) && m.parameters.all (·.isPlain)

def Matchers.isPlain (ms : Matchers τ) : Bool := ms.all.all (·.isPlain)

/-- Every name that is that of `a`, or above it, is so for `b`. -/
structure Hierarchy.Within [Hierarchy τ] (a b : τ) : Prop where
  hasName : ∀ n, Hierarchy.hasName a n = true → Hierarchy.hasName b n = true
  isSubtype : ∀ n, Hierarchy.isSubtype a n = true → Hierarchy.isSubtype b n = true

section

variable [Hierarchy τ] {a b : τ} {params others : List τ}

open Hierarchy (Within)

theorem TypeCriterion.accepts_mono {c : TypeCriterion τ} (plain : c.isPlain = true) (within : Within a b)
    (accepted : c.accepts a = true) : c.accepts b = true := by
  cases c with
  | any => rfl
  | exact n => exact within.hasName n accepted
  | subtypeOf n => exact within.isSubtype n accepted
  | predicate test => cases plain

theorem ParametersCriterion.leadingAccepted_mono {criteria : List (TypeCriterion τ)}
    (plain : criteria.all (·.isPlain) = true) (within : List.Forall₂ Within params others)
    (accepted : leadingAccepted criteria params = true) : leadingAccepted criteria others = true := by
  induction within generalizing criteria with
  | nil => exact accepted
  | cons first _ ih =>
    cases criteria with
    | nil => rfl
    | cons c rest =>
      simp only [leadingAccepted, List.zip_cons_cons, List.all_cons, Bool.and_eq_true] at plain accepted ih ⊢
      exact ⟨c.accepts_mono plain.1 first accepted.1, ih plain.2 accepted.2⟩

theorem ParametersCriterion.accepts_mono {c : ParametersCriterion τ} (plain : c.isPlain = true)
    (within : List.Forall₂ Within params others) (accepted : c.accepts params = true) : c.accepts others = true := by
  have sameLength := within.length_eq
  cases c with
  | empty => simpa [accepts, ← List.length_eq_zero_iff, sameLength] using accepted
  | any => rfl
  | exactly each =>
    simp only [accepts, sameLength, Bool.and_eq_true] at accepted ⊢
    exact ⟨accepted.1, leadingAccepted_mono plain within accepted.2⟩
  | startingWith leading =>
    simp only [accepts, sameLength, Bool.and_eq_true] at accepted ⊢
    exact ⟨accepted.1, leadingAccepted_mono plain within accepted.2⟩
  | testing each => cases plain
  | predicate test => cases plain

theorem Matcher.meets_mono {m : Matcher τ} (plain : m.isPlain = true) (owner : Within a b) {name : String}
    (within : List.Forall₂ Within params others) (met : m.meets a name params = true) :
    m.meets b name others = true := by
  simp only [isPlain, meets, Bool.and_eq_true, List.all_eq_true, List.any_eq_true] at plain met ⊢
  obtain ⟨⟨⟨c, cMember, typeAccepted⟩, nameAccepted⟩, d, dMember, paramsAccepted⟩ := met
  refine ⟨⟨⟨c, cMember, ?_⟩, nameAccepted⟩, d, dMember, ?_⟩
  · exact c.accepts_mono (plain.1.1 c cMember) owner typeAccepted
  · exact d.accepts_mono (plain.2 d dMember) within paramsAccepted

end

namespace TypeTable

variable {t u : TypeTable}

theorem hasName_get_iff {a n : String} : Hierarchy.hasName (t.get a) n = true ↔ t.contains a = true ∧ a = n := by
  simp only [Hierarchy.hasName, isUnknown_get, Bool.not_not, Bool.and_eq_true, beq_iff_eq]
  exact and_congr_right fun declared => by rw [name_get declared]

/-- A name stands for as much in another table if all that is above it still is:
    a type is below its own name. -/
theorem within_get_of_isSubtype {a : String}
    (above : ∀ n, Hierarchy.isSubtype (t.get a) n = true → Hierarchy.isSubtype (u.get a) n = true) :
    Hierarchy.Within (t.get a) (u.get a) where
  hasName n named := by
    obtain ⟨declared, same⟩ := hasName_get_iff.mp named
    have reflexive := above a (isSubtype_get_iff.mpr ⟨declared, .refl⟩)
    exact hasName_get_iff.mpr ⟨(isSubtype_get_iff.mp reflexive).1, same⟩
  isSubtype := above

/-- Names stand for as much in another table if it has all the declared ones
    and all that is above them. -/
theorem within_get (declared : ∀ a, t.contains a = true → u.contains a = true)
    (above : ∀ a b, t.Extends a b → Relation.ReflTransGen u.Extends a b) (n : String) :
    Hierarchy.Within (t.get n) (u.get n) := by
  refine within_get_of_isSubtype fun wanted subtype => ?_
  obtain ⟨known, path⟩ := isSubtype_get_iff.mp subtype
  exact isSubtype_get_iff.mpr ⟨declared n known, Relation.reflTransGen_closed above _ _ path⟩

end TypeTable

/-- The name of the type that stands for the owner of a method at a site. -/
def Mode.ownerName (mode : Mode) (x : Site) (d : MethodDecl) : String :=
  match mode, x.kind with
  | .tree, .invocation | .tree, .methodReference => x.receiver.getD d.owner
  | .tree, .declaration | .tree, .newClass | .symbol, _ => d.owner

theorem TypeTable.method?_eq_of_methods_eq {t u : TypeTable} (same : t.methods = u.methods) : t.method? = u.method? :=
  funext fun id => by rw [method?, method?, same]

theorem bind_symbol? (t : TypeTable) (x : Site) :
    x.method.bind t.symbol? = (x.method.bind t.method?).map t.symbolOf := by
  cases x.method <;> rfl

theorem Matcher.acceptsResolved_symbolOf (m : Matcher TypeRef) (t : TypeTable) (d : MethodDecl)
    (callSite : Option TypeRef) :
    m.acceptsResolved (t.symbolOf d) callSite =
      m.meets (callSite.getD (t.get d.owner)) d.name (d.parameters.map t.get) := by
  cases callSite <;> rfl

theorem Matcher.acceptsResolved_of_not_isMethod {m : Matcher TypeRef} {s : Symbol TypeRef}
    {callSite : Option TypeRef} (noMethod : s.isMethod = false) : m.acceptsResolved s callSite = false := by
  simp [acceptsResolved, noMethod]

theorem Site.isMethod_symbol {t : TypeTable} {x : Site} (reference : x.kind = .methodReference) :
    (x.symbol t).isMethod = false := by
  cases named : x.interface <;> simp [symbol, reference, named, Symbol.unknown, Symbol.ofType]

theorem Site.symbol_eq {t : TypeTable} {x : Site} (noReference : x.kind ≠ .methodReference) :
    x.symbol t = ((x.method.bind t.method?).map t.symbolOf).getD .unknown := by
  cases kind : x.kind with
  | methodReference => exact absurd kind noReference
  | _ => simp only [symbol, kind, bind_symbol?]

/-- A site is accepted for the method it refers to. By its symbol a method
    reference is not accepted at all. -/
theorem Mode.accepts_iff {mode : Mode} {ms : Matchers TypeRef} {t : TypeTable} {x : Site} :
    mode.accepts ms t x = true ↔
      ∃ d, x.method.bind t.method? = some d ∧ (mode = .symbol → x.kind ≠ .methodReference) ∧
        ∃ m ∈ ms.all, m.meets (t.get (mode.ownerName x d)) d.name (d.parameters.map t.get) = true := by
  cases mode with
  | tree =>
    simp only [accepts, Matchers.accepts, Matcher.accepts, Site.subject, bind_symbol?, List.any_eq_true]
    cases x.method.bind t.method? with
    | none => simp
    | some d =>
      have owner : (x.callSite t).getD (t.get d.owner) = t.get (Mode.tree.ownerName x d) := by
        cases kind : x.kind <;> cases receiver : x.receiver <;> simp [Site.callSite, ownerName, kind, receiver]
      simp [Matcher.acceptsResolved_symbolOf, owner]
  | symbol =>
    simp only [accepts, Matchers.acceptsSymbol, Matcher.acceptsSymbol, List.any_eq_true]
    by_cases reference : x.kind = .methodReference
    · simp [Matcher.acceptsResolved_of_not_isMethod (Site.isMethod_symbol reference), reference]
    · rw [Site.symbol_eq reference]
      cases x.method.bind t.method? with
      | none => simp [Matcher.acceptsResolved_of_not_isMethod, Symbol.unknown]
      | some d => simp [Matcher.acceptsResolved_symbolOf, ownerName, reference]

section

variable {mode : Mode} {t : TypeTable} {x : Site} {d : MethodDecl}

theorem Mode.accepts_single_iff {m : Matcher TypeRef} (found : x.method.bind t.method? = some d)
    (allowed : mode = .symbol → x.kind ≠ .methodReference) :
    mode.accepts (.single m) t x = true ↔
      m.meets (t.get (mode.ownerName x d)) d.name (d.parameters.map t.get) = true := by
  rw [accepts_iff]
  constructor
  · rintro ⟨e, foundHere, -, k, isM, met⟩
    obtain rfl : d = e := Option.some.inj (found.symm.trans foundHere)
    rwa [List.mem_singleton.mp isM] at met
  · intro met
    exact ⟨d, found, allowed, m, List.mem_singleton_self m, met⟩

theorem Mode.accepts_subtypeOf_iff {n : String} (found : x.method.bind t.method? = some d)
    (allowed : mode = .symbol → x.kind ≠ .methodReference) :
    mode.accepts (.single ⟨[.subtypeOf n], [.any], [.any]⟩) t x = true ↔
      Hierarchy.isSubtype (t.get (mode.ownerName x d)) n = true := by
  rw [accepts_single_iff found allowed]
  simp [Matcher.meets, TypeCriterion.accepts, NameCriterion.accepts, ParametersCriterion.accepts]

end

/-- What names of types meet in one table they meet where they stand for as much. -/
theorem Matcher.meets_get_mono {m : Matcher TypeRef} {t u : TypeTable} (plain : m.isPlain = true) {owner : String}
    {d : MethodDecl} (within : ∀ n ∈ owner :: d.parameters, Hierarchy.Within (t.get n) (u.get n))
    (met : m.meets (t.get owner) d.name (d.parameters.map t.get) = true) :
    m.meets (u.get owner) d.name (d.parameters.map u.get) = true := by
  obtain ⟨ownerWithin, paramsWithin⟩ := List.forall_mem_cons.mp within
  have params : List.Forall₂ Hierarchy.Within (d.parameters.map t.get) (d.parameters.map u.get) := by
    rw [List.forall₂_map_left_iff, List.forall₂_map_right_iff]
    exact List.forall₂_same.mpr paramsWithin
  exact m.meets_mono plain ownerWithin params met

/-- The name of a type that matchers are asked about at a site: what stands for
    the owner of its method, or a parameter. -/
def Mode.Asks (mode : Mode) (t : TypeTable) (x : Site) (n : String) : Prop :=
  ∃ d, x.method.bind t.method? = some d ∧ (mode = .symbol → x.kind ≠ .methodReference) ∧
    n ∈ mode.ownerName x d :: d.parameters

/-- What is accepted stays accepted where the site refers to the same method, and
    the names that are asked about stand for as much as before. -/
theorem Mode.accepts_mono {mode : Mode} {ms : Matchers TypeRef} {t u : TypeTable} {x y : Site}
    (plain : ms.isPlain = true) (kind : x.kind = y.kind) (receiver : x.receiver = y.receiver)
    (target : ∀ d, x.method.bind t.method? = some d → y.method.bind u.method? = some d)
    (within : ∀ n, mode.Asks t x n → Hierarchy.Within (t.get n) (u.get n))
    (accepted : mode.accepts ms t x = true) : mode.accepts ms u y = true := by
  obtain ⟨d, found, allowed, m, member, met⟩ := accepts_iff.mp accepted
  have owner : mode.ownerName y d = mode.ownerName x d := by simp only [ownerName, kind, receiver]
  refine accepts_iff.mpr ⟨d, target d found, kind ▸ allowed, m, member, ?_⟩
  rw [owner]
  exact m.meets_get_mono (List.all_eq_true.mp plain m member) (fun n asked => within n ⟨d, found, allowed, asked⟩) met

end CallSieve
