import CallSieve.Proofs.Matcher.Acceptance
import CallSieve.Proofs.Matcher.Building
import CallSieve.Proofs.Snapshot.Outcome

namespace CallSieve

variable {τ : Type}

/-- A clause that, if it is on names, asks for constructors. -/
inductive Clause.NamesConstructors : Clause τ → Prop
  | types (criteria : List (TypeCriterion τ)) : NamesConstructors (.types criteria)
  | parameters (criterion : ParametersCriterion τ) : NamesConstructors (.parameters criterion)
  | constructors : NamesConstructors .constructors

theorem Matcher.name_of_meets [Hierarchy τ] {clauses : List (Clause τ)} {m : Matcher τ}
    (only : ∀ c ∈ clauses, c.NamesConstructors) (built : ofClauses clauses = .ok m) {owner : τ} {name : String}
    {params : List τ} (met : m.meets owner name params = true) : name = constructorName := by
  rw [eq_collected_of_ofClauses built] at met
  simp only [meets, collected, Bool.and_eq_true, List.any_eq_true, List.mem_flatMap] at met
  obtain ⟨⟨-, k, ⟨c, listed, added⟩, accepted⟩, -⟩ := met
  cases only c listed with
  | types | parameters => cases added
  | constructors =>
    rw [List.mem_singleton.mp added] at accepted
    exact NameCriterion.accepts_constructors_iff.mp accepted

/-- The method has the reserved name, as one that is no constructor. -/
def MethodEntry.IsForged (m : MethodEntry) : Prop := m.name = some constructorName

theorem MethodEntry.IsNamed.reserved_iff {m : MethodEntry} (named : m.IsNamed) :
    m.name.getD constructorName = constructorName ↔ m.isConstructor = true ∨ m.IsForged := by
  obtain ⟨id, owner, name, isConstructor, parameters⟩ := m
  have one := named.exactlyOne
  cases name with
  | none =>
    have marked : isConstructor = true := by simpa using one
    simp [marked]
  | some name =>
    have unmarked : isConstructor = false := by simpa using one
    simp [IsForged, unmarked]

namespace SnapshotFile

/-- The site of an entry resolves if the entry names a method. It resolves to a
    constructor exactly if that method is marked or forged, and what only asks for
    constructors finds it in no other case. -/
structure Classifies (f : SnapshotFile) (t : TypeTable) (x : SiteEntry) (site : Site) : Prop where
  unnamed : x.method = none → (site.subject t).symbol = none
  named : ∀ m ∈ f.methods, x.method = some m.id → ∃ s, (site.subject t).symbol = some s ∧
    (s.isConstructor = true ↔ m.isConstructor = true ∨ m.IsForged)
  found : ∀ (clauses : List (Clause TypeRef)) (k : Matcher TypeRef), (∀ c ∈ clauses, c.NamesConstructors) →
    Matcher.ofClauses clauses = .ok k → ∀ mode : Mode, mode.accepts (.single k) t site = true →
      ∃ m ∈ f.methods, x.method = some m.id ∧ (m.isConstructor = true ∨ m.IsForged)

/-- The site of an entry resolves to a constructor exactly if the method that the
    entry names is marked. -/
def FollowsMark (f : SnapshotFile) (t : TypeTable) (x : SiteEntry) (site : Site) : Prop :=
  ∀ m ∈ f.methods, x.method = some m.id → ∀ s, (site.subject t).symbol = some s →
    (s.isConstructor = true ↔ m.isConstructor = true)

variable {f : SnapshotFile} {t : TypeTable} {x : SiteEntry} {site : Site} {m : MethodEntry}

theorem Binds.symbol_of_named (binds : f.Binds t x site) (inFile : m ∈ f.methods) (named : x.method = some m.id) :
    site.method.bind t.method? = some ⟨m.owner, m.name.getD constructorName, m.parameters⟩ := by
  obtain ⟨handle, _, isHandle, -, -, only, declared⟩ := binds.named m.id named
  rw [isHandle, Option.bind_some, declared, only m inFile rfl]

theorem Binds.classifies (binds : f.Binds t x site) (allNamed : ∀ m ∈ f.methods, m.IsNamed) :
    f.Classifies t x site where
  unnamed unnamed := by simp [Site.subject, binds.unnamed unnamed]
  named m inFile named := by
    refine ⟨t.symbolOf ⟨m.owner, m.name.getD constructorName, m.parameters⟩, ?_, ?_⟩
    · rw [Site.subject, bind_symbol?, binds.symbol_of_named inFile named, Option.map_some]
    · rw [← (allNamed m inFile).reserved_iff]
      simp [Symbol.isConstructor, TypeTable.symbolOf]
  found clauses k only built mode accepted := by
    obtain ⟨d, isMethod, -, k', member, met⟩ := Mode.accepts_iff.mp accepted
    obtain rfl := List.mem_singleton.mp member
    have reserved := Matcher.name_of_meets only built met
    cases named : x.method with
    | none => simp [binds.unnamed named] at isMethod
    | some id =>
      obtain ⟨-, m, -, inFile, rfl, -⟩ := binds.named id named
      obtain rfl := Option.some.inj (isMethod.symm.trans (binds.symbol_of_named inFile named))
      exact ⟨m, inFile, rfl, (allNamed m inFile).reserved_iff.mp reserved⟩

theorem Classifies.followsMark_iff (classifies : f.Classifies t x site) (allNamed : ∀ m ∈ f.methods, m.IsNamed) :
    f.FollowsMark t x site ↔ ∀ m ∈ f.methods, x.method = some m.id → ¬ m.IsForged := by
  constructor
  · intro follows m inFile named forged
    obtain ⟨s, resolved, isConstructor⟩ := classifies.named m inFile named
    have marked : m.isConstructor = true := (follows m inFile named s resolved).mp (isConstructor.mpr (.inr forged))
    exact (allNamed m inFile).exactlyOne (by rw [forged, marked, Option.isSome_some])
  · intro clean m inFile named s resolved
    obtain ⟨s', resolvedHere, isConstructor⟩ := classifies.named m inFile named
    obtain rfl := Option.some.inj (resolved.symm.trans resolvedHere)
    rw [isConstructor, or_iff_left (clean m inFile named)]

/-- What counts as a constructor in a loaded file. A site resolves if its entry names
    a method, and then to a constructor exactly if that method is marked as one, or has
    the reserved name without the mark; what only asks for constructors finds no other
    sites. So the mark alone decides it at all sites exactly if no site names a method
    of the reserved name. -/
theorem constructors_loaded (f : SnapshotFile) (s : Snapshot) (loaded : f.load = .ok s) :
    List.Forall₂ (f.Classifies s.table) f.sites s.sites ∧
    (List.Forall₂ (f.FollowsMark s.table) f.sites s.sites ↔
      ∀ x ∈ f.sites, ∀ m ∈ f.methods, x.method = some m.id → ¬ m.IsForged) := by
  obtain ⟨valid, rfl⟩ := load_eq_ok_iff.mp loaded
  have classified (x : SiteEntry) (member : x ∈ f.sites) : f.Classifies f.snapshot.table x (f.bound x) :=
    (valid.binds member).classifies valid.isNamed
  simp only [snapshot, List.forall₂_map_right_iff, List.forall₂_same]
  refine ⟨classified, forall₂_congr fun x member => ?_⟩
  exact (classified x member).followsMark_iff valid.isNamed

/-- A constructor, and a method that is not marked as one but has the reserved name. -/
def jobFile : SnapshotFile where
  types := [⟨"app.Job", .classKind, []⟩]
  methods := [⟨"make", "app.Job", none, true, []⟩, ⟨"forged", "app.Job", some constructorName, false, []⟩]
  sites := [⟨3, .newClass, some "make", none, none⟩, ⟨4, .invocation, some "forged", none, none⟩]

/-- Only constructors, of whatever type. -/
def anyConstructor : Matcher TypeRef := ⟨[.any], [.constructors], [.any]⟩

theorem constructors_jobFile :
    jobFile.load = .ok jobFile.snapshot ∧
    List.Forall₂ (jobFile.Classifies jobFile.snapshot.table) jobFile.sites jobFile.snapshot.sites ∧
    ¬ List.Forall₂ (jobFile.FollowsMark jobFile.snapshot.table) jobFile.sites jobFile.snapshot.sites := by
  have loaded : jobFile.load = .ok jobFile.snapshot := rfl
  obtain ⟨classified, follow⟩ := constructors_loaded jobFile jobFile.snapshot loaded
  refine ⟨loaded, classified, fun marked => ?_⟩
  have forgedSite : (⟨4, .invocation, some "forged", none, none⟩ : SiteEntry) ∈ jobFile.sites := by decide
  exact follow.mp marked _ forgedSite ⟨"forged", "app.Job", some constructorName, false, []⟩ (by decide) rfl rfl

/-- A site of a method that no entry marks resolves to a constructor, and is found as one. -/
theorem forged_found :
    jobFile.load = .ok jobFile.snapshot ∧
    (∀ m ∈ jobFile.methods, m.id = "forged" → m.isConstructor = false) ∧
    (jobFile.snapshot.sites.map fun site => (site.subject jobFile.snapshot.table).symbol.map (·.isConstructor)) =
      [some true, some true] ∧
    Matcher.ofClauses [.ofAnyType, .constructors, .withAnyParameters] = .ok anyConstructor ∧
    jobFile.snapshot.matchingLines (.single anyConstructor) .tree = [3, 4] :=
  ⟨rfl, by decide, by decide, rfl, by decide⟩

end SnapshotFile

end CallSieve
