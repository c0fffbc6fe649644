import CallSieve.Proofs.Except
import CallSieve.Proofs.TypeTable.Declarations
import CallSieve.Snapshot.File

namespace CallSieve

/-- The name that a method table declares, if it declares exactly one. -/
def MethodEntry.declaredName? (m : MethodEntry) : Option String :=
  match m.name, m.isConstructor with
  | some name, false => if name.isEmpty then none else some name
  | none, true => some constructorName
  | _, _ => none

def MethodEntry.decl (m : MethodEntry) : MethodDecl := ⟨m.owner, m.declaredName?.getD "", m.parameters⟩

namespace SnapshotFile

/-- What a file has to meet to be a snapshot. -/
structure Valid (f : SnapshotFile) : Prop where
  typeNames : ∀ d ∈ f.types, d.name ≠ ""
  methodNames : ∀ m ∈ f.methods, m.declaredName?.isSome = true
  methodIds : (f.methods.map (·.id)).Nodup
  siteMethods : ∀ x ∈ f.sites, ∀ id, x.method = some id → id ∈ f.methods.map (·.id)

def handle? (f : SnapshotFile) (id : String) : Option MethodId := (f.methods.findIdx? (·.id == id)).map (⟨·⟩)

def bound (f : SnapshotFile) (x : SiteEntry) : Site := ⟨x.line, x.kind, x.method.bind f.handle?, x.receiver, x.interface⟩

/-- The snapshot that a valid file describes. -/
def snapshot (f : SnapshotFile) : Snapshot :=
  ⟨⟨(f.types.foldl TypeTable.declare .initial).types, f.methods.map (·.decl)⟩, f.sites.map f.bound⟩

theorem foldlM_declareType_eq_ok_iff {types : List TypeDecl} {start : Nat} {t u : TypeTable} :
    (types.zipIdx start).foldlM declareType t = .ok u ↔ (∀ d ∈ types, d.name ≠ "") ∧ u = types.foldl .declare t := by
  induction types generalizing start t with
  | nil =>
    constructor
    · intro loaded
      cases loaded
      simp
    · rintro ⟨-, rfl⟩
      rfl
  | cons d rest ih =>
    rw [List.zipIdx_cons, List.foldlM_cons, bind_eq_ok_iff]
    by_cases empty : d.name = ""
    · simp [declareType, empty]
    · simp [declareType, empty, ih]

theorem methodName_eq_ok_iff {m : MethodEntry} {index : Nat} {name : String} :
    methodName m index = .ok name ↔ m.declaredName? = some name := by
  obtain ⟨id, owner, given, isConstructor, parameters⟩ := m
  cases given with
  | none => cases isConstructor <;> simp [methodName, MethodEntry.declaredName?]
  | some given =>
    cases isConstructor with
    | false => by_cases empty : given = "" <;> simp [methodName, MethodEntry.declaredName?, empty]
    | true => simp [methodName, MethodEntry.declaredName?]

/-- What one method adds, unless its name or its id is bad. -/
theorem declareMethod_eq (ms : Methods) (m : MethodEntry) (index : Nat) :
    declareMethod ms (m, index) =
      (methodName m index).bind fun name =>
        if (ms.handles.lookup m.id).isSome then .error (.duplicateMethod index m.id)
        else .ok ⟨⟨ms.table.types, ms.table.methods ++ [⟨m.owner, name, m.parameters⟩]⟩,
          ms.handles ++ [(m.id, ⟨ms.table.methods.length⟩)]⟩ := by
  rw [declareMethod]
  cases methodName m index with
  | error e => rfl
  | ok name => cases known : ms.handles.lookup m.id <;> rfl

theorem declareMethod_eq_ok_iff {ms next : Methods} {m : MethodEntry} {index : Nat} :
    declareMethod ms (m, index) = .ok next ↔
      m.declaredName?.isSome = true ∧ ms.handles.lookup m.id = none ∧
        next = ⟨⟨ms.table.types, ms.table.methods ++ [m.decl]⟩,
          ms.handles ++ [(m.id, ⟨ms.table.methods.length⟩)]⟩ := by
  rw [declareMethod_eq]
  cases declared : m.declaredName? with
  | none =>
    cases named : methodName m index with
    | error e => simp [Except.bind]
    | ok name => simp [methodName_eq_ok_iff.mp named] at declared
  | some name =>
    rw [methodName_eq_ok_iff.mpr declared]
    cases ms.handles.lookup m.id <;> simp [Except.bind, MethodEntry.decl, declared, eq_comm]

theorem lookup_eq_none_iff_not_mem {handles : List (String × MethodId)} {id : String} :
    handles.lookup id = none ↔ id ∉ handles.map (·.1) := by
  rw [List.lookup_eq_none_iff, List.mem_map]
  constructor
  · rintro absent ⟨entry, member, rfl⟩
    simpa using absent entry member
  · intro absent entry member
    exact bne_iff_ne.mpr fun same => absent ⟨entry, member, same.symm⟩

/-- Methods are numbered in their order, after those of the start. -/
def handlesFrom (start : Nat) (methods : List MethodEntry) : List (String × MethodId) :=
  (methods.zipIdx start).map fun (m, i) => (m.id, ⟨i⟩)

/-- Adding methods one after the other. The ids of the start and those that are
    left to add have to be distinct; both sides of the append shift by one
    method in a step, so that the condition stays the same. -/
theorem foldlM_declareMethod_eq_ok_iff {methods : List MethodEntry} {start : Nat} {ms result : Methods}
    (distinct : (ms.handles.map (·.1)).Nodup) :
    (methods.zipIdx start).foldlM declareMethod ms = .ok result ↔
      (∀ m ∈ methods, m.declaredName?.isSome = true) ∧ (ms.handles.map (·.1) ++ methods.map (·.id)).Nodup ∧
        result = ⟨⟨ms.table.types, ms.table.methods ++ methods.map (·.decl)⟩,
          ms.handles ++ handlesFrom ms.table.methods.length methods⟩ := by
  induction methods generalizing start ms with
  | nil =>
    constructor
    · intro loaded
      cases loaded
      simpa [handlesFrom] using distinct
    · rintro ⟨-, -, rfl⟩
      simp [handlesFrom, pure, Except.pure]
  | cons m rest ih =>
    rw [List.zipIdx_cons, List.foldlM_cons, bind_eq_ok_iff]
    simp only [declareMethod_eq_ok_iff, lookup_eq_none_iff_not_mem]
    constructor
    · rintro ⟨_, ⟨named, fresh, rfl⟩, later⟩
      have distinctNext : ((ms.handles ++ [(m.id, (⟨ms.table.methods.length⟩ : MethodId))]).map (·.1)).Nodup := by
        rw [List.map_append]
        exact distinct.append (List.nodup_singleton _) (List.disjoint_singleton.mpr fresh)
      obtain ⟨restNamed, restDistinct, rfl⟩ := (ih distinctNext).mp later
      exact ⟨List.forall_mem_cons.mpr ⟨named, restNamed⟩, by simpa using restDistinct, by simp [handlesFrom]⟩
    · rintro ⟨named, allDistinct, rfl⟩
      obtain ⟨headNamed, restNamed⟩ := List.forall_mem_cons.mp named
      have allDistinctNext : ((ms.handles ++ [(m.id, (⟨ms.table.methods.length⟩ : MethodId))]).map (·.1) ++
          rest.map (·.id)).Nodup := by simpa using allDistinct
      have fresh : m.id ∉ ms.handles.map (·.1) := by
        intro member
        exact (List.nodup_append.mp allDistinct).2.2 m.id member m.id (by simp) rfl
      refine ⟨_, ⟨headNamed, fresh, rfl⟩, ?_⟩
      exact (ih allDistinctNext.of_append_left).mpr ⟨restNamed, allDistinctNext, by simp [handlesFrom]⟩

/-- Adding methods to a table with no ids yet. -/
theorem foldlM_declareMethod_nil_eq_ok_iff {methods : List MethodEntry} {start : Nat} {t : TypeTable}
    {result : Methods} :
    (methods.zipIdx start).foldlM declareMethod ⟨t, []⟩ = .ok result ↔
      (∀ m ∈ methods, m.declaredName?.isSome = true) ∧ (methods.map (·.id)).Nodup ∧
        result = ⟨⟨t.types, t.methods ++ methods.map (·.decl)⟩, handlesFrom t.methods.length methods⟩ := by
  have distinct : ((⟨t, []⟩ : Methods).handles.map (·.1)).Nodup := List.nodup_nil
  simpa using foldlM_declareMethod_eq_ok_iff distinct

/-- What becomes of one site. -/
theorem bindSite_eq (handles : List (String × MethodId)) (x : SiteEntry) (index : Nat) :
    bindSite handles (x, index) =
      match x.method with
      | none => .ok ⟨x.line, x.kind, none, x.receiver, x.interface⟩
      | some id =>
        match handles.lookup id with
        | none => .error (.unknownMethod index id)
        | some handle => .ok ⟨x.line, x.kind, some handle, x.receiver, x.interface⟩ := by
  rw [bindSite]
  cases x.method with
  | none => rfl
  | some id => cases known : handles.lookup id <;> simp only [known] <;> rfl

theorem bindSite_eq_ok_iff {handles : List (String × MethodId)} {x : SiteEntry} {index : Nat} {site : Site} :
    bindSite handles (x, index) = .ok site ↔
      (∀ id, x.method = some id → id ∈ handles.map (·.1)) ∧
        site = ⟨x.line, x.kind, x.method.bind fun id => handles.lookup id, x.receiver, x.interface⟩ := by
  rw [bindSite_eq]
  cases x.method with
  | none => simp [eq_comm]
  | some id =>
    dsimp only
    cases known : handles.lookup id with
    | none =>
      have absent := lookup_eq_none_iff_not_mem.mp known
      constructor
      · intro done
        cases done
      · intro bound
        exact absurd (bound.1 id rfl) absent
    | some handle =>
      have present : id ∈ handles.map (·.1) := by
        by_contra absent
        simp [lookup_eq_none_iff_not_mem.mpr absent] at known
      constructor
      · intro same
        cases same
        simpa [known] using present
      · rintro ⟨-, rfl⟩
        simp [known]

theorem mapM_bindSite_eq_ok_iff {handles : List (String × MethodId)} {xs : List SiteEntry} {start : Nat}
    {sites : List Site} :
    (xs.zipIdx start).mapM (bindSite handles) = .ok sites ↔
      (∀ x ∈ xs, ∀ id, x.method = some id → id ∈ handles.map (·.1)) ∧
        sites = xs.map fun x => ⟨x.line, x.kind, x.method.bind fun id => handles.lookup id, x.receiver, x.interface⟩ := by
  induction xs generalizing start sites with
  | nil => simp [pure, Except.pure, eq_comm]
  | cons x rest ih =>
    rw [List.zipIdx_cons, List.mapM_cons, bind_eq_ok_iff]
    simp only [bind_eq_ok_iff, bindSite_eq_ok_iff, ih]
    constructor
    · rintro ⟨_, ⟨headKnown, rfl⟩, _, ⟨restKnown, rfl⟩, done⟩
      cases done
      exact ⟨List.forall_mem_cons.mpr ⟨headKnown, restKnown⟩, rfl⟩
    · rintro ⟨known, rfl⟩
      obtain ⟨headKnown, restKnown⟩ := List.forall_mem_cons.mp known
      exact ⟨_, ⟨headKnown, rfl⟩, _, ⟨restKnown, rfl⟩, rfl⟩

theorem lookup_handlesFrom (start : Nat) (methods : List MethodEntry) (id : String) :
    (handlesFrom start methods).lookup id = (methods.findIdx? (·.id == id)).map fun i => ⟨start + i⟩ :=
  lookup_map_zipIdx MethodEntry.id MethodId.mk methods start id

theorem map_fst_handlesFrom (start : Nat) (methods : List MethodEntry) :
    (handlesFrom start methods).map (·.1) = methods.map (·.id) := by
  induction methods generalizing start with
  | nil => rfl
  | cons m rest ih => simpa [handlesFrom] using ih (start + 1)

theorem lookup_handlesFrom_zero (f : SnapshotFile) (id : String) :
    (handlesFrom 0 f.methods).lookup id = f.handle? id := by
  rw [lookup_handlesFrom]
  simp [handle?]

/-- A file loads exactly if it is valid, and then to the snapshot it describes. -/
theorem load_eq_ok_iff {f : SnapshotFile} {s : Snapshot} : f.load = .ok s ↔ f.Valid ∧ s = f.snapshot := by
  have noMethods : (f.types.foldl TypeTable.declare .initial).methods = [] :=
    TypeTable.methods_foldl_declare f.types .initial
  have methodsLoad (result : Methods) :
      f.methods.zipIdx.foldlM declareMethod ⟨f.types.foldl TypeTable.declare .initial, []⟩ = .ok result ↔
        (∀ m ∈ f.methods, m.declaredName?.isSome = true) ∧ (f.methods.map (·.id)).Nodup ∧
          result = ⟨f.snapshot.table, handlesFrom 0 f.methods⟩ := by
    rw [foldlM_declareMethod_nil_eq_ok_iff, noMethods]
    rfl
  simp only [load, bind_eq_ok_iff, foldlM_declareType_eq_ok_iff]
  constructor
  · rintro ⟨_, ⟨typeNames, rfl⟩, _, methodsLoaded, _, sitesBound, done⟩
    obtain ⟨methodNames, methodIds, rfl⟩ := (methodsLoad _).mp methodsLoaded
    obtain ⟨siteMethods, rfl⟩ := mapM_bindSite_eq_ok_iff.mp sitesBound
    cases done
    rw [map_fst_handlesFrom] at siteMethods
    refine ⟨⟨typeNames, methodNames, methodIds, siteMethods⟩, ?_⟩
    simp only [snapshot, lookup_handlesFrom_zero]
    rfl
  · rintro ⟨valid, rfl⟩
    refine ⟨_, ⟨valid.typeNames, rfl⟩, _, (methodsLoad _).mpr ⟨valid.methodNames, valid.methodIds, rfl⟩,
      f.sites.map f.bound, ?_, rfl⟩
    refine mapM_bindSite_eq_ok_iff.mpr ⟨?_, ?_⟩
    · rw [map_fst_handlesFrom]
      exact valid.siteMethods
    · simp only [lookup_handlesFrom_zero]
      rfl

/-! ### What a loaded snapshot says -/

/-- The method that a site refers to. -/
def target? (f : SnapshotFile) (x : SiteEntry) : Option MethodDecl :=
  x.method.bind fun id => (f.methods.find? (·.id == id)).map (·.decl)

theorem method_bound (f : SnapshotFile) (x : SiteEntry) :
    (f.bound x).method.bind f.snapshot.table.method? = f.target? x := by
  cases named : x.method with
  | none => simp [bound, target?, named]
  | some id =>
    simp only [bound, target?, named, Option.bind_some, handle?, Option.bind_map, List.find?_eq_bind_findIdx?_getElem?,
      Option.map_bind, snapshot, TypeTable.method?, Function.comp_def, List.getElem?_map]

theorem find?_snapshot (f : SnapshotFile) (n : String) :
    f.snapshot.table.find? n = (f.types.foldl TypeTable.declare .initial).find? n := rfl

end SnapshotFile

end CallSieve
