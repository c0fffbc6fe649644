import CallSieve.Proofs.Matcher.Acceptance
import CallSieve.Proofs.Snapshot.Loading
import CallSieve.Proofs.TypeTable.Root

/-!
A file that says less leads to fewer matches (`accepts_of_reduced`). Without the
table of a class another class can come to have the root for an implicit
supertype, so the types of the reduced file are not all below fewer names at
once; but that class is below the root in the full file too, by way of the class
that was left out.
-/

namespace CallSieve

namespace TypeTable

/-- Every type of a table is as it is in the fuller one, or has nothing above it. -/
def PartOf (t u : TypeTable) : Prop :=
  ∀ n d, t.find? n = some d → u.find? n = some d ∨ t.superNames d = [] ∧ u.contains n = true

variable {t u : TypeTable}

theorem PartOf.contains (part : t.PartOf u) {n : String} (declared : t.contains n = true) : u.contains n = true := by
  obtain ⟨d, found⟩ := contains_iff.mp declared
  rcases part n d found with same | ⟨-, still⟩
  · exact contains_iff.mpr ⟨d, same⟩
  · exact still

/-- One step up in a part of a table is a way up in the table. Only the step from
    a class to the implicit root may be a longer way there. -/
theorem PartOf.chain_of_extends (part : t.PartOf u) (acyclic : u.AcyclicClasses) {a b : String} (above : t.Extends a b) :
    Relation.ReflTransGen u.Extends a b := by
  obtain ⟨bDeclared, d, found, listed⟩ := above
  rcases part a d found with same | ⟨nothing, -⟩
  · rcases mem_superNames_iff.mp listed with explicit | ⟨implicit, rfl⟩
    · exact .single ⟨part.contains bDeclared, d, same, mem_superNames_iff.mpr (.inl explicit)⟩
    · cases kind : d.kind with
      | classKind => exact extends_root acyclic (part.contains bDeclared) same kind
      | interface =>
        have implicitStill : u.hasImplicitRoot d = true := by simpa [hasImplicitRoot, kind] using implicit
        exact .single ⟨part.contains bDeclared, d, same, mem_superNames_iff.mpr (.inr ⟨implicitStill, rfl⟩)⟩
      | primitive => simp [hasImplicitRoot, kind] at implicit
  · simp [nothing] at listed

theorem PartOf.within (part : t.PartOf u) (acyclic : u.AcyclicClasses) (n : String) :
    Hierarchy.Within (t.get n) (u.get n) :=
  within_get (fun _ => part.contains) (fun _ _ => part.chain_of_extends acyclic) n

theorem superNames_of_initial {n : String} {d : TypeDecl} (found : initial.find? n = some d) :
    t.superNames d = [] := by
  have member : d ∈ initial.types := List.mem_of_find?_eq_some found
  rcases List.mem_append.mp member with primitive | root
  · obtain ⟨name, -, rfl⟩ := List.mem_map.mp primitive
    rfl
  · rw [List.mem_singleton.mp root]
    rfl

end TypeTable

namespace SnapshotFile

variable {full reduced : SnapshotFile}

/-- A file with some of its type tables and some of the methods of its sites left out. -/
structure ReducedFrom (reduced full : SnapshotFile) : Prop where
  types : reduced.types.Sublist full.types
  methods : reduced.methods = full.methods
  sites : List.Forall₂ (fun x y => x = y ∨ x = { y with method := none }) reduced.sites full.sites

theorem exists_mem_of_forall₂ {α : Type} {R : α → α → Prop} {xs ys : List α} (each : List.Forall₂ R xs ys) {x : α}
    (member : x ∈ xs) : ∃ y ∈ ys, R x y := by
  induction each with
  | nil => cases member
  | @cons a b as bs here _ ih =>
    rcases List.mem_cons.mp member with rfl | later
    · exact ⟨b, List.mem_cons_self, here⟩
    · obtain ⟨y, yMember, related⟩ := ih later
      exact ⟨y, List.mem_cons_of_mem _ yMember, related⟩

theorem ReducedFrom.valid (isReduced : reduced.ReducedFrom full) (valid : full.Valid) : reduced.Valid where
  typeNames d member := valid.typeNames d (isReduced.types.subset member)
  methodNames := isReduced.methods ▸ valid.methodNames
  methodIds := isReduced.methods ▸ valid.methodIds
  siteMethods := by
    intro x member id named
    obtain ⟨y, yMember, rfl | rfl⟩ := exists_mem_of_forall₂ isReduced.sites member
    · exact isReduced.methods ▸ valid.siteMethods x yMember id named
    · cases named

theorem ReducedFrom.partOf (isReduced : reduced.ReducedFrom full) (distinct : (full.types.map (·.name)).Nodup) :
    reduced.snapshot.table.PartOf full.snapshot.table := by
  have distinctReduced : (reduced.types.map (·.name)).Nodup := distinct.sublist (isReduced.types.map _)
  intro n d found
  rw [find?_snapshot, TypeTable.find?_foldl_declare_eq_some_iff distinctReduced] at found
  rcases found with ⟨member, named⟩ | ⟨-, initially⟩
  · left
    rw [find?_snapshot, TypeTable.find?_foldl_declare_eq_some_iff distinct]
    exact .inl ⟨isReduced.types.subset member, named⟩
  · right
    refine ⟨TypeTable.superNames_of_initial initially, ?_⟩
    exact TypeTable.contains_foldl_declare full.types (TypeTable.contains_iff.mpr ⟨d, initially⟩)

theorem ReducedFrom.accepts (isReduced : reduced.ReducedFrom full) (distinct : (full.types.map (·.name)).Nodup)
    (acyclic : full.snapshot.table.AcyclicClasses) {ms : Matchers TypeRef} (plain : ms.isPlain = true) {mode : Mode}
    {x y : SiteEntry} (kept : x = y ∨ x = { y with method := none })
    (accepted : mode.accepts ms reduced.snapshot.table (reduced.bound x) = true) :
    mode.accepts ms full.snapshot.table (full.bound y) = true := by
  have within := (isReduced.partOf distinct).within acyclic
  rcases kept with rfl | rfl
  · refine Mode.accepts_mono (x := reduced.bound x) plain rfl rfl ?_ (fun n _ => within n) accepted
    intro d found
    rw [method_bound] at found ⊢
    rwa [target?, ← isReduced.methods]
  · obtain ⟨d, found, -⟩ := Mode.accepts_iff.mp accepted
    cases found

/-- What matches in a file with type tables and methods of sites left out
    matches in the full file, site by site. A type that needs no declaration is
    what it is without one if its table is left out. -/
theorem accepts_of_reduced {s : Snapshot} (loaded : full.load = .ok s) (distinct : (full.types.map (·.name)).Nodup)
    (acyclic : s.table.AcyclicClasses) (isReduced : reduced.ReducedFrom full) :
    ∃ s', reduced.load = .ok s' ∧
      ∀ (ms : Matchers TypeRef) (mode : Mode), ms.isPlain = true →
        List.Forall₂ (fun x y => mode.accepts ms s'.table x = true → mode.accepts ms s.table y = true)
          s'.sites s.sites := by
  obtain ⟨valid, rfl⟩ := load_eq_ok_iff.mp loaded
  refine ⟨reduced.snapshot, load_eq_ok_iff.mpr ⟨isReduced.valid valid, rfl⟩, ?_⟩
  intro ms mode plain
  refine List.forall₂_map_left_iff.mpr (List.forall₂_map_right_iff.mpr (isReduced.sites.imp ?_))
  intro x y kept accepted
  exact isReduced.accepts distinct acyclic plain kept accepted

/-- Calls of a method of a class that extends another class. -/
def subclassCalls : SnapshotFile where
  types := [⟨"app.Leaf", .classKind, ["app.Base"]⟩, ⟨"app.Base", .classKind, []⟩]
  methods := [⟨"run", "app.Leaf", some "run", false, []⟩]
  sites := [⟨3, .invocation, some "run", none, none⟩, ⟨4, .invocation, some "run", none, none⟩]

/-- Without the base class, and without the method of the second call. -/
def baselessCalls : SnapshotFile where
  types := [⟨"app.Leaf", .classKind, ["app.Base"]⟩]
  methods := [⟨"run", "app.Leaf", some "run", false, []⟩]
  sites := [⟨3, .invocation, some "run", none, none⟩, ⟨4, .invocation, none, none, none⟩]

theorem acyclicClasses_subclassCalls : subclassCalls.snapshot.table.AcyclicClasses :=
  TypeTable.acyclicClasses_of_rank (fun n => if n = "app.Leaf" then 1 else 0) (by decide)

def belowRoot : Matchers TypeRef := .single ⟨[.subtypeOf TypeTable.rootName], [.any], [.any]⟩

/-- Without its base the class has the root for an implicit supertype. -/
theorem accepts_baselessCalls (mode : Mode) :
    mode.accepts belowRoot baselessCalls.snapshot.table ⟨3, .invocation, some ⟨0⟩, none, none⟩ = true := by
  have above : baselessCalls.snapshot.table.Extends "app.Leaf" TypeTable.rootName :=
    ⟨by decide, _, rfl, by decide⟩
  have subtype : Hierarchy.isSubtype (baselessCalls.snapshot.table.get "app.Leaf") TypeTable.rootName = true :=
    TypeTable.isSubtype_get_iff.mpr ⟨by decide, .single above⟩
  have found : (some ⟨0⟩ : Option MethodId).bind baselessCalls.snapshot.table.method? =
      some ⟨"app.Leaf", "run", []⟩ := by decide
  refine (Mode.accepts_subtypeOf_iff found (by simp)).mpr ?_
  cases mode <;> exact subtype

theorem accepts_subclassCalls :
    ∃ s s', subclassCalls.load = .ok s ∧ baselessCalls.load = .ok s' ∧
      ∃ x y, s'.sites[0]? = some x ∧ s.sites[0]? = some y ∧
        ∀ mode : Mode, mode.accepts belowRoot s'.table x = true ∧ mode.accepts belowRoot s.table y = true := by
  have loaded : subclassCalls.load = .ok subclassCalls.snapshot :=
    load_eq_ok_iff.mpr ⟨⟨by decide, by decide, by decide, by decide⟩, rfl⟩
  have isReduced : baselessCalls.ReducedFrom subclassCalls :=
    ⟨by decide, rfl, .cons (.inl rfl) (.cons (.inr rfl) .nil)⟩
  obtain ⟨s', reducedLoaded, accepts⟩ :=
    accepts_of_reduced loaded (by decide) acyclicClasses_subclassCalls isReduced
  obtain ⟨-, rfl⟩ := load_eq_ok_iff.mp reducedLoaded
  refine ⟨_, _, loaded, reducedLoaded, _, _, rfl, rfl, fun mode => ⟨accepts_baselessCalls mode, ?_⟩⟩
  cases accepts belowRoot mode rfl with
  | cons first _ => exact first (accepts_baselessCalls mode)

end SnapshotFile

end CallSieve
