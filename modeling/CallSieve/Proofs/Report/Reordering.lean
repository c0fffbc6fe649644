import CallSieve.Proofs.Groups
import CallSieve.Proofs.Report.Findings
import CallSieve.Proofs.Snapshot.Loading
import CallSieve.Proofs.TypeTable.Agreement

/-!
The order of the tables in a snapshot file and the order of groups show nowhere
in a report (`report_eq_of_reordered`). Types and methods are numbered by their
places, but a site is accepted by what names stand for; and what is left of the
order of sites and groups goes when findings are sorted, since groups with
distinct ids have no findings in common.
-/

namespace CallSieve

namespace TypeTable

variable {t u : TypeTable}

theorem within_of_find?_eq (same : ∀ n, t.find? n = u.find? n) (n : String) :
    Hierarchy.Within (t.get n) (u.get n) := by
  have agree : AgreeOn (fun _ => True) t u := ⟨fun n _ => same n, trivial, fun _ _ _ _ _ _ => trivial⟩
  exact agree.within trivial

end TypeTable

namespace SnapshotFile

variable {f g : SnapshotFile}

/-- The same tables, each kind of them in any order. -/
structure Reordered (f g : SnapshotFile) : Prop where
  types : f.types.Perm g.types
  methods : f.methods.Perm g.methods
  sites : f.sites.Perm g.sites

theorem Reordered.symm (reordered : Reordered f g) : Reordered g f :=
  ⟨reordered.types.symm, reordered.methods.symm, reordered.sites.symm⟩

theorem Reordered.valid (reordered : Reordered f g) (valid : f.Valid) : g.Valid where
  typeNames d member := valid.typeNames d (reordered.types.mem_iff.mpr member)
  methodNames m member := valid.methodNames m (reordered.methods.mem_iff.mpr member)
  methodIds := (reordered.methods.map _).nodup_iff.mp valid.methodIds
  siteMethods x member id named :=
    (reordered.methods.map _).mem_iff.mp (valid.siteMethods x (reordered.sites.mem_iff.mpr member) id named)

theorem Reordered.loads_iff (reordered : Reordered f g) : (∃ s, f.load = .ok s) ↔ ∃ s, g.load = .ok s := by
  simp only [load_eq_ok_iff]
  constructor
  · rintro ⟨_, valid, -⟩
    exact ⟨_, reordered.valid valid, rfl⟩
  · rintro ⟨_, valid, -⟩
    exact ⟨_, reordered.symm.valid valid, rfl⟩

theorem Reordered.find?_eq (reordered : Reordered f g) (distinct : (f.types.map (·.name)).Nodup) (n : String) :
    f.snapshot.table.find? n = g.snapshot.table.find? n := by
  have distinctOther : (g.types.map (·.name)).Nodup := (reordered.types.map _).nodup_iff.mp distinct
  refine Option.ext fun d => ?_
  simp only [find?_snapshot, TypeTable.find?_foldl_declare_eq_some_iff distinct,
    TypeTable.find?_foldl_declare_eq_some_iff distinctOther, reordered.types.mem_iff]

theorem Reordered.target?_eq (reordered : Reordered f g) (distinct : (f.methods.map (·.id)).Nodup) (x : SiteEntry) :
    f.target? x = g.target? x := by
  have distinctOther : (g.methods.map (·.id)).Nodup := (reordered.methods.map _).nodup_iff.mp distinct
  have sameEntry (id : String) : f.methods.find? (·.id == id) = g.methods.find? (·.id == id) := by
    refine Option.ext fun m => ?_
    rw [find?_key_eq_some_iff distinct, find?_key_eq_some_iff distinctOther, reordered.methods.mem_iff]
  simp only [target?, sameEntry]

theorem Reordered.accepts_of_accepts (reordered : Reordered f g) (distinct : (f.types.map (·.name)).Nodup)
    (valid : f.Valid) {mode : Mode} {ms : Matchers TypeRef} (plain : ms.isPlain = true) {x : SiteEntry}
    (accepted : mode.accepts ms f.snapshot.table (f.bound x) = true) :
    mode.accepts ms g.snapshot.table (g.bound x) = true := by
  have within := TypeTable.within_of_find?_eq (reordered.find?_eq distinct)
  refine Mode.accepts_mono (x := f.bound x) plain rfl rfl ?_ (fun n _ => within n) accepted
  intro d found
  rwa [method_bound, ← reordered.target?_eq valid.methodIds, ← method_bound]

theorem Reordered.accepts_eq (reordered : Reordered f g) (distinct : (f.types.map (·.name)).Nodup) (valid : f.Valid)
    {mode : Mode} {ms : Matchers TypeRef} (plain : ms.isPlain = true) (x : SiteEntry) :
    mode.accepts ms f.snapshot.table (f.bound x) = mode.accepts ms g.snapshot.table (g.bound x) := by
  have distinctOther : (g.types.map (·.name)).Nodup := (reordered.types.map _).nodup_iff.mp distinct
  rw [Bool.eq_iff_iff]
  constructor
  · exact reordered.accepts_of_accepts distinct valid plain
  · exact reordered.symm.accepts_of_accepts distinctOther (reordered.valid valid) plain

end SnapshotFile

namespace MatcherGroup

theorem findings_snapshot (g : MatcherGroup TypeRef) (f : SnapshotFile) (file : String) (mode : Mode) :
    g.findings f.snapshot file mode =
      (f.sites.filter fun x => mode.accepts g.matchers f.snapshot.table (f.bound x)).map
        fun x => g.finding file x.line := by
  rw [findings_eq_map, SnapshotFile.snapshot, List.filter_map, List.map_map]
  rfl

theorem findings_perm {g : MatcherGroup TypeRef} (stated : g.IsStated) {a b : SnapshotFile} (reordered : a.Reordered b)
    (distinct : (a.types.map (·.name)).Nodup) (valid : a.Valid) (file : String) (mode : Mode) :
    (g.findings a.snapshot file mode).Perm (g.findings b.snapshot file mode) := by
  simp only [findings_snapshot, reordered.accepts_eq distinct valid stated.isPlain]
  exact (reordered.sites.filter _).map _

/-- Line and id tell apart what groups with distinct ids find. -/
theorem eq_of_mem_findings {gs : List (MatcherGroup TypeRef)} (distinct : (gs.map (·.id)).Nodup) {s : Snapshot}
    {file : String} {mode : Mode} {a b : Finding} (aFound : a ∈ gs.flatMap (·.findings s file mode))
    (bFound : b ∈ gs.flatMap (·.findings s file mode)) (sameLine : a.line = b.line) (sameId : a.id = b.id) : a = b := by
  obtain ⟨g, gMember, aFound⟩ := List.mem_flatMap.mp aFound
  obtain ⟨h, hMember, bFound⟩ := List.mem_flatMap.mp bFound
  have aEq := eq_finding_of_mem_findings aFound
  have bEq := eq_finding_of_mem_findings bFound
  have sameGroup : g = h := by
    refine List.inj_on_of_nodup_map distinct gMember hMember (MatcherId.text_injective ?_)
    rw [aEq, bEq] at sameId
    exact sameId
  rw [aEq, bEq, sameGroup, sameLine]

end MatcherGroup

/-- Reports do not depend on the order of types, methods and sites in a file,
    nor on the order of groups. Names of types and ids of groups have to be
    distinct; ids of methods are in all that loads. -/
theorem SnapshotFile.report_eq_of_reordered {f g : SnapshotFile} (distinctTypes : (f.types.map (·.name)).Nodup)
    (reordered : f.Reordered g) {gs hs : List (MatcherGroup TypeRef)} (stated : ∀ group ∈ gs, group.IsStated)
    (distinctIds : (gs.map (·.id)).Nodup) (sameGroups : gs.Perm hs) :
    ((∃ s, f.load = .ok s) ↔ ∃ s, g.load = .ok s) ∧
    ∀ s s', f.load = .ok s → g.load = .ok s' → ∀ file mode, s.report file gs mode = s'.report file hs mode := by
  refine ⟨reordered.loads_iff, ?_⟩
  intro s s' loaded otherLoaded file mode
  obtain ⟨valid, rfl⟩ := load_eq_ok_iff.mp loaded
  obtain ⟨-, rfl⟩ := load_eq_ok_iff.mp otherLoaded
  have sameFindings : (gs.flatMap (·.findings f.snapshot file mode)).Perm
      (hs.flatMap (·.findings g.snapshot file mode)) := by
    refine (List.Perm.flatMap_left gs fun group member => ?_).trans (sameGroups.flatMap_right _)
    exact MatcherGroup.findings_perm (stated group member) reordered distinctTypes valid file mode
  have sameNumber : f.snapshot.sites.length = g.snapshot.sites.length := by
    simpa [snapshot] using reordered.sites.length_eq
  rw [Snapshot.report, Snapshot.report, sameNumber, Finding.mergeSort_eq_of_perm sameFindings]
  intro a aFound b bFound
  exact MatcherGroup.eq_of_mem_findings distinctIds aFound bFound

namespace SnapshotFile

def reversed (f : SnapshotFile) : SnapshotFile := ⟨f.types.reverse, f.methods.reverse, f.sites.reverse⟩

theorem reordered_reversed (f : SnapshotFile) : f.Reordered f.reversed where
  types := (List.reverse_perm _).symm
  methods := (List.reverse_perm _).symm
  sites := (List.reverse_perm _).symm

def catalogCalls : SnapshotFile where
  types := [⟨"app.Numbers", .interface, ["java.util.stream.Stream"]⟩, ⟨"java.util.stream.Stream", .interface, []⟩,
    ⟨"java.lang.System", .classKind, []⟩]
  methods := [⟨"peek", "java.util.stream.Stream", some "peek", false, ["java.util.function.Consumer"]⟩,
    ⟨"getenv", "java.lang.System", some "getenv", false, ["java.lang.String"]⟩]
  sites := [⟨7, .invocation, some "peek", none, none⟩, ⟨3, .invocation, some "peek", none, none⟩,
    ⟨3, .invocation, some "getenv", none, none⟩]

def everyCall : MatcherTable :=
  { id := "every-call", anyType := true, anyName := true, anyParameters := true, message := some "A call." }

def everyCallGroup : MatcherGroup TypeRef :=
  ⟨⟨"every-call", rfl, rfl⟩, .single ⟨[.any], [.any], [.any]⟩, "A call.", .warning⟩

theorem isStated_everyCallGroup : everyCallGroup.IsStated :=
  .ofTables (show Rules.load [everyCall] = .ok [everyCallGroup] from rfl) (List.mem_singleton_self _)

def callGroups : List (MatcherGroup TypeRef) := [everyCallGroup, Entry.streamPeek.group, Entry.envVariables.group]

theorem report_catalogCalls :
    ∃ s s', catalogCalls.load = .ok s ∧ catalogCalls.reversed.load = .ok s' ∧
      (∀ file mode, s.report file callGroups mode = s'.report file callGroups.reverse mode) ∧
      ∀ file, ((s.report file callGroups .tree).findings.map fun f => (f.line, f.id)).Perm
        [(7, "every-call"), (3, "every-call"), (3, "every-call"), (7, "S3864"), (3, "S3864"), (3, "S5304")] := by
  have stated : ∀ group ∈ callGroups, group.IsStated := by
    simp [callGroups, Entry.isStated_group, isStated_everyCallGroup]
  obtain ⟨bothLoad, sameReport⟩ := report_eq_of_reordered (by decide) (reordered_reversed catalogCalls) stated
    (by decide) (List.reverse_perm _).symm
  have loaded : catalogCalls.load = .ok catalogCalls.snapshot :=
    load_eq_ok_iff.mpr ⟨⟨by decide, by decide, by decide, by decide⟩, rfl⟩
  obtain ⟨s', otherLoaded⟩ := bothLoad.mp ⟨_, loaded⟩
  refine ⟨_, s', loaded, otherLoaded, sameReport _ s' loaded otherLoaded, fun file => ?_⟩
  exact ((List.mergeSort_perm _ _).map _).trans (.of_eq rfl)

end SnapshotFile

end CallSieve
