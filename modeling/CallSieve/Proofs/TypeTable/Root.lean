import CallSieve.Proofs.TypeTable.History
import CallSieve.Proofs.TypeTable.Subtyping

namespace CallSieve.TypeTable

variable {t : TypeTable}

/-- A class lists another one among its supertypes. -/
def ClassExtends (t : TypeTable) (a b : String) : Prop :=
  ∃ d, t.find? a = some d ∧ d.kind = .classKind ∧ b ∈ d.supers ∧ (t.find? b).map (·.kind) = some .classKind

/-- No class extends itself, directly or by way of other classes. -/
def AcyclicClasses (t : TypeTable) : Prop := ∀ a, ¬ Relation.TransGen t.ClassExtends a a

theorem finite_declared (t : TypeTable) : Finite { n // t.contains n = true } := by
  refine Set.Finite.subset (List.finite_toSet (t.types.map (·.name))) ?_
  intro n declared
  obtain ⟨d, found⟩ := contains_iff.mp declared
  exact name_of_find? found ▸ List.mem_map_of_mem (List.mem_of_find?_eq_some found)

/-- There are finitely many declared names, so a class without a cycle above it
    can be followed up to one that lists no class. -/
theorem wellFounded_classExtends (acyclic : t.AcyclicClasses) :
    WellFounded fun b a : { n // t.contains n = true } => Relation.TransGen t.ClassExtends a b := by
  have finite := t.finite_declared
  have irrefl : Std.Irrefl fun b a : { n // t.contains n = true } => Relation.TransGen t.ClassExtends a b :=
    ⟨fun a => acyclic a⟩
  have trans : IsTrans { n // t.contains n = true } fun b a => Relation.TransGen t.ClassExtends a b :=
    ⟨fun _ _ _ upper lower => lower.trans upper⟩
  exact Finite.wellFounded_of_trans_of_irrefl _

theorem extends_root (acyclic : t.AcyclicClasses) (rootDeclared : t.contains rootName = true) {a : String}
    {d : TypeDecl} (found : t.find? a = some d) (isClass : d.kind = .classKind) :
    Relation.ReflTransGen t.Extends a rootName := by
  have declared : t.contains a = true := contains_iff.mpr ⟨d, found⟩
  lift a to { n // t.contains n = true } using declared
  induction a using (wellFounded_classExtends acyclic).induction generalizing d with
  | _ a ih =>
    by_cases isRoot : d.name = rootName
    · rw [← isRoot, name_of_find? found]
    · by_cases lists : ∃ b ∈ d.supers, (t.find? b).map (·.kind) = some .classKind
      · obtain ⟨b, listed, bIsClass⟩ := lists
        obtain ⟨e, bFound, eIsClass⟩ := Option.map_eq_some_iff.mp bIsClass
        have bDeclared : t.contains b = true := contains_iff.mpr ⟨e, bFound⟩
        have above : t.Extends a b := ⟨bDeclared, d, found, mem_superNames_iff.mpr (.inl listed)⟩
        have upToRoot := ih ⟨b, bDeclared⟩ (.single ⟨d, found, isClass, listed, bIsClass⟩) eIsClass bFound
        exact upToRoot.head above
      · have implicit : t.hasImplicitRoot d = true := by
          simpa [hasImplicitRoot, isClass, isRoot] using lists
        exact .single ⟨rootDeclared, d, found, mem_superNames_iff.mpr (.inr ⟨implicit, rfl⟩)⟩

/-- Numbers that fall from each class to the classes that it lists leave no
    room for a cycle. -/
theorem acyclicClasses_of_rank (rank : String → Nat)
    (falls : ∀ d ∈ t.types, d.kind = .classKind → ∀ b ∈ d.supers,
      (t.find? b).map (·.kind) = some .classKind → rank b < rank d.name) : t.AcyclicClasses := by
  have step {a b : String} (above : t.ClassExtends a b) : rank b < rank a := by
    obtain ⟨d, found, isClass, listed, bIsClass⟩ := above
    rw [← name_of_find? found]
    exact falls d (List.mem_of_find?_eq_some found) isClass b listed bIsClass
  have chain {a b : String} (path : Relation.TransGen t.ClassExtends a b) : rank b < rank a := by
    induction path with
    | single above => exact step above
    | tail _ above ih => exact (step above).trans ih
  intro a cycle
  exact lt_irrefl _ (chain cycle)

theorem contains_rootName (ds : List Declaration) : (ofDeclarations ds).contains rootName = true := by
  rw [contains_ofDeclarations, declaredTypes, List.map_append]
  exact List.mem_append_left _ (by decide)

/-- Whatever is declared, the root and what needs no declaration included: as
    long as no class extends itself by way of classes, all classes are below the
    root. -/
theorem isSubtype_root (ds : List Declaration) (acyclic : (ofDeclarations ds).AcyclicClasses) (n : String)
    (isClass : ((ofDeclarations ds).get n).kind = some .classKind) :
    Hierarchy.isSubtype ((ofDeclarations ds).get n) rootName = true := by
  obtain ⟨d, found, kind⟩ : ∃ d, (ofDeclarations ds).find? n = some d ∧ d.kind = .classKind :=
    Option.map_eq_some_iff.mp isClass
  have path := extends_root acyclic (contains_rootName ds) found kind
  exact isSubtype_get_iff.mpr ⟨contains_iff.mpr ⟨d, found⟩, path⟩

/-- A class in the place of a primitive, and the root itself below a class. -/
def redeclarations : List Declaration :=
  [.ofClass rootName ["app.Base"], .ofClass "int" ["app.Face", "app.Leaf"], .ofInterface "app.Leaf" [],
    .ofInterface "app.Face" ["lib.Missing"], .ofClass "app.Leaf" ["app.Face", "lib.Missing", "boolean", "app.Base"],
    .ofClass "app.Base" []]

/-- The classes on the longest way up that goes by classes which are listed. -/
def redeclaredRank (n : String) : Nat :=
  if n = "int" then 2 else if n = "app.Leaf" || n = rootName then 1 else 0

theorem isSubtype_redeclared :
    (ofDeclarations redeclarations).AcyclicClasses ∧
    ((ofDeclarations redeclarations).get "int").kind = some .classKind ∧
    Hierarchy.isSubtype ((ofDeclarations redeclarations).get "int") rootName = true := by
  have acyclic : (ofDeclarations redeclarations).AcyclicClasses := acyclicClasses_of_rank redeclaredRank (by decide)
  exact ⟨acyclic, by decide, isSubtype_root redeclarations acyclic "int" (by decide)⟩

end CallSieve.TypeTable
