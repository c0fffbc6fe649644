import CallSieve.Proofs.Snapshot.Loading

/-!
A file loads if nothing offends in it, and then each site refers to the method of
the one table that has the id it names. If anything offends, the error is what
offends first, with types before methods and methods before sites
(`loaded_or_first_offence`).
-/

namespace CallSieve

namespace MethodEntry

/-- The method sets exactly one of a name and the mark of constructors, and no empty name. -/
@[mk_iff]
structure IsNamed (m : MethodEntry) : Prop where
  exactlyOne : m.name.isSome ≠ m.isConstructor
  nonempty : m.name ≠ some ""

variable {m : MethodEntry}

theorem isSome_declaredName?_iff : m.declaredName?.isSome = true ↔ m.IsNamed := by
  rw [isNamed_iff]
  obtain ⟨id, owner, name, isConstructor, parameters⟩ := m
  cases name with
  | none => cases isConstructor <;> simp [declaredName?]
  | some name => by_cases empty : name = "" <;> cases isConstructor <;> simp [declaredName?, empty]

/-- The method sets exactly one of a name that is not empty and the mark of constructors. -/
def SetsOne (m : MethodEntry) : Prop := Xor (∃ name, m.name = some name ∧ name ≠ "") (m.isConstructor = true)

/-- An empty name counts as one beside the mark of constructors. -/
theorem isNamed_iff_setsOne : m.IsNamed ↔ m.SetsOne ∧ ¬ (m.name = some "" ∧ m.isConstructor = true) := by
  rw [isNamed_iff, SetsOne]
  obtain ⟨id, owner, name, isConstructor, parameters⟩ := m
  cases name with
  | none => cases isConstructor <;> simp [Xor]
  | some name => by_cases empty : name = "" <;> cases isConstructor <;> simp [Xor, empty]

/-- What is declared has the name that is set, or else that of constructors. -/
theorem decl_eq (declared : m.declaredName?.isSome = true) :
    m.decl = ⟨m.owner, m.name.getD constructorName, m.parameters⟩ := by
  obtain ⟨id, owner, name, isConstructor, parameters⟩ := m
  cases name with
  | none => cases isConstructor <;> simp_all [decl, declaredName?]
  | some name => by_cases empty : name = "" <;> cases isConstructor <;> simp_all [decl, declaredName?]

end MethodEntry

namespace SnapshotError

/-- The number of the list with the error: types, methods and sites, in this order. -/
def list : SnapshotError → Nat
  | toml _ | emptyTypeName _ => 0
  | emptyMethodName _ | ambiguousMethodName _ | duplicateMethod _ _ => 1
  | unknownMethod _ _ => 2

/-- The place in that list. -/
def index : SnapshotError → Nat
  | toml _ => 0
  | emptyTypeName i | emptyMethodName i | ambiguousMethodName i | duplicateMethod i _ | unknownMethod i _ => i

/-- The number of the check at that place: a method has its name checked before its id. -/
def check : SnapshotError → Nat
  | duplicateMethod _ _ => 1
  | toml _ | emptyTypeName _ | emptyMethodName _ | ambiguousMethodName _ | unknownMethod _ _ => 0

/-- When the error is come upon: list by list, place by place, check by check. -/
def turn (e : SnapshotError) : Nat ×ₗ Nat ×ₗ Nat := toLex (e.list, toLex (e.index, e.check))

theorem turn_le_iff {e d : SnapshotError} :
    e.turn ≤ d.turn ↔
      e.list ≤ d.list ∧ (e.list = d.list → e.index ≤ d.index ∧ (e.index = d.index → e.check ≤ d.check)) := by
  simp only [turn, Prod.Lex.toLex_le_toLex']

end SnapshotError

namespace SnapshotFile

/-- What is wrong with an entry, whatever is wrong elsewhere. -/
inductive Offends (f : SnapshotFile) : SnapshotError → Prop
  | typeName {i : Nat} {d : TypeDecl} (entry : f.types[i]? = some d) (empty : d.name = "") :
      Offends f (.emptyTypeName i)
  | methodName {i : Nat} {m : MethodEntry} (entry : f.methods[i]? = some m) (empty : m.name = some "")
      (unmarked : m.isConstructor = false) : Offends f (.emptyMethodName i)
  | ambiguous {i : Nat} {m : MethodEntry} (entry : f.methods[i]? = some m) (both : m.name.isSome = m.isConstructor) :
      Offends f (.ambiguousMethodName i)
  | duplicate {i : Nat} {m earlier : MethodEntry} (entry : f.methods[i]? = some m) (before : earlier ∈ f.methods.take i)
      (same : earlier.id = m.id) : Offends f (.duplicateMethod i m.id)
  | unknown {i : Nat} {x : SiteEntry} {id : String} (entry : f.sites[i]? = some x) (named : x.method = some id)
      (missing : ∀ m ∈ f.methods, m.id ≠ id) : Offends f (.unknownMethod i id)

/-- The site is that of its entry. It refers to a method if the entry names one,
    and the handle is that of the only method with this id. -/
structure Binds (f : SnapshotFile) (t : TypeTable) (x : SiteEntry) (site : Site) : Prop where
  line : site.line = x.line
  kind : site.kind = x.kind
  receiver : site.receiver = x.receiver
  interface : site.interface = x.interface
  unnamed : x.method = none → site.method = none
  named : ∀ id, x.method = some id → ∃ handle m, site.method = some handle ∧ m ∈ f.methods ∧ m.id = id ∧
    (∀ other ∈ f.methods, other.id = id → other = m) ∧
      t.method? handle = some ⟨m.owner, m.name.getD constructorName, m.parameters⟩

variable {f : SnapshotFile} {i : Nat} {e d : SnapshotError} {m : MethodEntry}

theorem methodName_eq_error_iff :
    methodName m i = .error e ↔
      (m.name = some "" ∧ m.isConstructor = false) ∧ e = .emptyMethodName i ∨
        m.name.isSome = m.isConstructor ∧ e = .ambiguousMethodName i := by
  obtain ⟨id, owner, name, isConstructor, parameters⟩ := m
  cases name with
  | none => cases isConstructor <;> simp [methodName, @eq_comm _ e]
  | some name => by_cases empty : name = "" <;> cases isConstructor <;> simp [methodName, empty, @eq_comm _ e]

theorem declareType_eq_error_iff {t : TypeTable} {d : TypeDecl} :
    declareType t (d, i) = .error e ↔ d.name = "" ∧ e = .emptyTypeName i := by
  by_cases empty : d.name = "" <;> simp [declareType, empty, @eq_comm _ e]

theorem declareMethod_eq_error_iff {ms : Methods} :
    declareMethod ms (m, i) = .error e ↔
      methodName m i = .error e ∨
        m.IsNamed ∧ m.id ∈ ms.handles.map (·.1) ∧ e = .duplicateMethod i m.id := by
  rw [declareMethod_eq, ← MethodEntry.isSome_declaredName?_iff]
  cases named : methodName m i with
  | error e' =>
    have undeclared : m.declaredName? = none := by
      rw [Option.eq_none_iff_forall_ne_some]
      intro name declared
      simp [methodName_eq_ok_iff.mpr declared] at named
    simp [Except.bind, undeclared]
  | ok name =>
    have declared := methodName_eq_ok_iff.mp named
    by_cases known : m.id ∈ ms.handles.map (·.1)
    · have found : (ms.handles.lookup m.id).isSome = true := by
        rw [Option.isSome_iff_ne_none]
        exact fun absent => lookup_eq_none_iff_not_mem.mp absent known
      simp only [Except.bind, found, if_true, declared, Option.isSome_some, known, true_and]
      simp [@eq_comm _ e]
    · have absent := lookup_eq_none_iff_not_mem.mpr known
      simp [Except.bind, absent, known]

theorem bindSite_eq_error_iff {handles : List (String × MethodId)} {x : SiteEntry} :
    bindSite handles (x, i) = .error e ↔
      ∃ id, x.method = some id ∧ id ∉ handles.map (·.1) ∧ e = .unknownMethod i id := by
  rw [bindSite_eq]
  cases x.method with
  | none => simp
  | some id =>
    dsimp only
    cases known : handles.lookup id with
    | none =>
      have absent := lookup_eq_none_iff_not_mem.mp known
      constructor
      · intro failed
        cases failed
        exact ⟨id, rfl, absent, rfl⟩
      · rintro ⟨_, same, -, rfl⟩
        cases same
        rfl
    | some handle =>
      constructor
      · intro failed
        cases failed
      · rintro ⟨_, same, absent, -⟩
        cases same
        simp [lookup_eq_none_iff_not_mem.mpr absent] at known

/-! ### Entries before the error -/

theorem mem_take_of_lt {α : Type} {entries : List α} {j : Nat} {a : α} (entry : entries[j]? = some a) (before : j < i) :
    a ∈ entries.take i := by
  have same : (entries.take i)[j]? = some a := by rw [List.getElem?_take_of_lt before, entry]
  exact List.mem_of_getElem? same

theorem Offends.le_of_typeNames (offends : f.Offends d) (inTypes : d.list = 0)
    (names : ∀ t ∈ f.types.take i, t.name ≠ "") : i ≤ d.index := by
  by_contra before
  cases offends with
  | typeName entry empty => exact names _ (mem_take_of_lt entry (not_le.mp before)) empty
  | methodName | ambiguous | duplicate | unknown => cases inTypes

/-- Of methods with distinct ids, none has the id of an earlier one. -/
theorem id_ne_of_nodup {methods : List MethodEntry} (distinct : (methods.map (·.id)).Nodup) {j : Nat}
    (entry : methods[j]? = some m) {earlier : MethodEntry} (before : earlier ∈ methods.take j) : earlier.id ≠ m.id := by
  have pairwise : methods.Pairwise fun a b => a.id ≠ b.id := List.pairwise_map.mp distinct
  have after : m ∈ methods.drop j := List.mem_of_getElem? (i := 0) (by rw [List.getElem?_drop]; exact entry)
  exact pairwise.rel_of_mem_take_of_mem_drop before after

theorem Offends.le_of_methods (offends : f.Offends d) (inMethods : d.list = 1)
    (named : ∀ m ∈ f.methods.take i, m.IsNamed) (distinct : ((f.methods.take i).map (·.id)).Nodup) :
    i ≤ d.index := by
  by_contra before
  rw [not_le] at before
  cases offends with
  | methodName entry empty =>
    have entryNamed := named _ (mem_take_of_lt entry before)
    exact entryNamed.nonempty empty
  | ambiguous entry both =>
    have entryNamed := named _ (mem_take_of_lt entry before)
    exact entryNamed.exactlyOne both
  | @duplicate j m earlier entry isEarlier same =>
    change j < i at before
    have entryBefore : (f.methods.take i)[j]? = some m := by rw [List.getElem?_take_of_lt before, entry]
    have earlierBefore : earlier ∈ (f.methods.take i).take j := by
      rwa [List.take_take, min_eq_left (Nat.le_of_lt before)]
    exact id_ne_of_nodup distinct entryBefore earlierBefore same
  | typeName | unknown => cases inMethods

theorem Offends.le_of_sites (offends : f.Offends d) (inSites : d.list = 2)
    (known : ∀ x ∈ f.sites.take i, ∀ id, x.method = some id → id ∈ f.methods.map (·.id)) : i ≤ d.index := by
  by_contra before
  cases offends with
  | unknown entry isNamed missing =>
    obtain ⟨m, member, same⟩ := List.mem_map.mp (known _ (mem_take_of_lt entry (not_le.mp before)) _ isNamed)
    exact missing m member same
  | typeName | methodName | ambiguous | duplicate => cases inSites

theorem Offends.check_of_isNamed (offends : f.Offends d) (inMethods : d.list = 1)
    (entry : f.methods[d.index]? = some m) (named : m.IsNamed) : d.check = 1 := by
  cases offends with
  | methodName isEntry empty =>
    obtain rfl := Option.some.inj (entry.symm.trans isEntry)
    exact absurd empty named.nonempty
  | ambiguous isEntry both =>
    obtain rfl := Option.some.inj (entry.symm.trans isEntry)
    exact absurd both named.exactlyOne
  | duplicate => rfl
  | typeName | unknown => cases inMethods

theorem Offends.list_le (offends : f.Offends d) : d.list ≤ 2 := by
  cases offends <;> simp [SnapshotError.list]

theorem Offends.zero_lt_list (offends : f.Offends d) (names : ∀ t ∈ f.types, t.name ≠ "") : 0 < d.list := by
  rw [Nat.pos_iff_ne_zero]
  intro inTypes
  have beyond : d.index + 1 ≤ d.index :=
    offends.le_of_typeNames inTypes fun t member => names t (List.mem_of_mem_take member)
  omega

theorem Offends.one_lt_list (offends : f.Offends d) (names : ∀ t ∈ f.types, t.name ≠ "")
    (named : ∀ m ∈ f.methods, m.IsNamed) (distinct : (f.methods.map (·.id)).Nodup) : 1 < d.list := by
  have notTypes := offends.zero_lt_list names
  have notMethods : d.list ≠ 1 := by
    intro inMethods
    have beyond : d.index + 1 ≤ d.index := by
      refine offends.le_of_methods inMethods (fun m member => named m (List.mem_of_mem_take member)) ?_
      exact distinct.sublist ((List.take_sublist _ _).map _)
    omega
  omega

theorem Valid.isNamed (valid : f.Valid) : ∀ m ∈ f.methods, m.IsNamed := fun m member =>
  MethodEntry.isSome_declaredName?_iff.mp (valid.methodNames m member)

theorem Valid.not_offends (valid : f.Valid) : ¬ f.Offends d := by
  intro offends
  have inSites : d.list = 2 :=
    Nat.le_antisymm offends.list_le (offends.one_lt_list valid.typeNames valid.isNamed valid.methodIds)
  have beyond : d.index + 1 ≤ d.index :=
    offends.le_of_sites inSites fun x member => valid.siteMethods x (List.mem_of_mem_take member)
  omega

/-! ### The first error -/

/-- The error is about what offends, and nothing that offends comes before it. -/
def IsFirst (f : SnapshotFile) (e : SnapshotError) : Prop := f.Offends e ∧ ∀ d, f.Offends d → e.turn ≤ d.turn

theorem isFirst_of_types (failed : f.types.zipIdx.foldlM declareType .initial = .error e) : f.IsFirst e := by
  obtain ⟨i, t, _, entry, earlier, stopped⟩ := foldlM_zipIdx_eq_error_iff.mp failed
  obtain ⟨names, -⟩ := foldlM_declareType_eq_ok_iff.mp earlier
  obtain ⟨empty, rfl⟩ := declareType_eq_error_iff.mp stopped
  rw [Nat.zero_add]
  refine ⟨.typeName entry empty, fun d offends => SnapshotError.turn_le_iff.mpr ⟨Nat.zero_le _, fun same => ?_⟩⟩
  exact ⟨offends.le_of_typeNames same.symm names, fun _ => Nat.zero_le _⟩

theorem isFirst_of_methods (names : ∀ t ∈ f.types, t.name ≠ "") {t : TypeTable}
    (failed : f.methods.zipIdx.foldlM declareMethod ⟨t, []⟩ = .error e) : f.IsFirst e := by
  obtain ⟨i, m, reached, entry, earlier, stopped⟩ := foldlM_zipIdx_eq_error_iff.mp failed
  obtain ⟨declared, distinct, rfl⟩ := foldlM_declareMethod_nil_eq_ok_iff.mp earlier
  have named : ∀ m ∈ f.methods.take i, m.IsNamed := fun m member =>
    MethodEntry.isSome_declaredName?_iff.mp (declared m member)
  rw [declareMethod_eq_error_iff, methodName_eq_error_iff, map_fst_handlesFrom, Nat.zero_add] at stopped
  have first (inMethods : e.list = 1) (atPlace : e.index = i) (d : SnapshotError) (offends : f.Offends d)
      (checked : d.list = 1 → d.index = i → e.check ≤ d.check) : e.turn ≤ d.turn := by
    refine SnapshotError.turn_le_iff.mpr ⟨inMethods ▸ offends.zero_lt_list names, fun same => ?_⟩
    have dInMethods : d.list = 1 := same ▸ inMethods
    refine ⟨atPlace ▸ offends.le_of_methods dInMethods named distinct, fun sameIndex => ?_⟩
    exact checked dInMethods (sameIndex ▸ atPlace)
  rcases stopped with (⟨⟨empty, unmarked⟩, rfl⟩ | ⟨both, rfl⟩) | ⟨isNamed, member, rfl⟩
  · exact ⟨.methodName entry empty unmarked, fun d offends => first rfl rfl d offends fun _ _ => Nat.zero_le _⟩
  · exact ⟨.ambiguous entry both, fun d offends => first rfl rfl d offends fun _ _ => Nat.zero_le _⟩
  · obtain ⟨other, before, same⟩ := List.mem_map.mp member
    refine ⟨.duplicate entry before same, fun d offends => first rfl rfl d offends fun inMethods atPlace => ?_⟩
    rw [offends.check_of_isNamed inMethods (atPlace ▸ entry) isNamed]
    rfl

theorem isFirst_of_sites (names : ∀ t ∈ f.types, t.name ≠ "") (named : ∀ m ∈ f.methods, m.IsNamed)
    (distinct : (f.methods.map (·.id)).Nodup) {start : Nat}
    (failed : f.sites.zipIdx.mapM (bindSite (handlesFrom start f.methods)) = .error e) : f.IsFirst e := by
  obtain ⟨i, x, _, entry, earlier, stopped⟩ := mapM_zipIdx_eq_error_iff.mp failed
  obtain ⟨known, -⟩ := mapM_bindSite_eq_ok_iff.mp earlier
  obtain ⟨id, isNamed, missing, rfl⟩ := bindSite_eq_error_iff.mp stopped
  rw [map_fst_handlesFrom] at known missing
  rw [Nat.zero_add]
  refine ⟨.unknown entry isNamed fun m member same => ?_, fun d offends => SnapshotError.turn_le_iff.mpr ?_⟩
  · exact missing (List.mem_map.mpr ⟨m, member, same⟩)
  · refine ⟨offends.one_lt_list names named distinct, fun same => ?_⟩
    exact ⟨offends.le_of_sites same.symm known, fun _ => Nat.zero_le _⟩

/-- What stops the loading is the first offence. Each list is only gone through
    once nothing offends in those before it. -/
theorem isFirst_of_load (failed : f.load = .error e) : f.IsFirst e := by
  rw [load, bind_eq_error_iff] at failed
  rcases failed with typesFailed | ⟨t, typesLoaded, failed⟩
  · exact isFirst_of_types typesFailed
  obtain ⟨names, rfl⟩ := foldlM_declareType_eq_ok_iff.mp typesLoaded
  rcases bind_eq_error_iff.mp failed with methodsFailed | ⟨ms, methodsLoaded, failed⟩
  · exact isFirst_of_methods names methodsFailed
  obtain ⟨declared, distinct, rfl⟩ := foldlM_declareMethod_nil_eq_ok_iff.mp methodsLoaded
  have named : ∀ m ∈ f.methods, m.IsNamed := fun m member =>
    MethodEntry.isSome_declaredName?_iff.mp (declared m member)
  rcases bind_eq_error_iff.mp failed with sitesFailed | ⟨_, _, failed⟩
  · exact isFirst_of_sites names named distinct sitesFailed
  · cases failed

theorem Offends.not_ambiguous (offends : f.Offends (.emptyMethodName i)) : ¬ f.Offends (.ambiguousMethodName i) := by
  intro other
  cases offends with
  | methodName entry empty unmarked =>
    cases other with
    | ambiguous isEntry both =>
      obtain rfl := Option.some.inj (entry.symm.trans isEntry)
      simp [empty, unmarked] at both

/-- The list, the place and the check say what the error is. -/
theorem Offends.eq_of_turn_eq (offends : f.Offends e) (other : f.Offends d) (same : e.turn = d.turn) : e = d := by
  have sameList : e.list = d.list := congrArg (·.1) same
  have sameIndex : e.index = d.index := congrArg (·.2.1) same
  have sameCheck : e.check = d.check := congrArg (·.2.2) same
  cases offends with
  | typeName =>
    cases other with
    | typeName => exact congrArg _ sameIndex
    | methodName | ambiguous | duplicate | unknown => cases sameList
  | methodName entry empty unmarked =>
    cases other with
    | methodName => exact congrArg _ sameIndex
    | ambiguous isEntry both =>
      cases sameIndex
      exact absurd (.ambiguous isEntry both) (Offends.methodName entry empty unmarked).not_ambiguous
    | duplicate => cases sameCheck
    | typeName | unknown => cases sameList
  | ambiguous entry both =>
    cases other with
    | ambiguous => exact congrArg _ sameIndex
    | methodName isEntry empty unmarked =>
      cases sameIndex
      exact absurd (.ambiguous entry both) (Offends.methodName isEntry empty unmarked).not_ambiguous
    | duplicate => cases sameCheck
    | typeName | unknown => cases sameList
  | duplicate entry =>
    cases other with
    | duplicate isEntry =>
      cases sameIndex
      obtain rfl := Option.some.inj (entry.symm.trans isEntry)
      rfl
    | methodName | ambiguous => cases sameCheck
    | typeName | unknown => cases sameList
  | unknown entry named =>
    cases other with
    | unknown isEntry isNamed =>
      cases sameIndex
      obtain rfl := Option.some.inj (entry.symm.trans isEntry)
      obtain rfl := Option.some.inj (named.symm.trans isNamed)
      rfl
    | typeName | methodName | ambiguous | duplicate => cases sameList

theorem load_eq_error_iff : f.load = .error e ↔ f.IsFirst e := by
  constructor
  · exact isFirst_of_load
  · rintro ⟨offends, least⟩
    cases loaded : f.load with
    | ok s => exact absurd offends (load_eq_ok_iff.mp loaded).1.not_offends
    | error d =>
      obtain ⟨first, before⟩ := isFirst_of_load loaded
      rw [offends.eq_of_turn_eq first (le_antisymm (least d first) (before e offends))]

theorem Offends.context_eq (offends : f.Offends e) :
    ∃ list key, ["types", "methods", "sites"][e.list]? = some list ∧
      e.context = SnapshotError.placeIn list e.index ++ key := by
  cases offends with
  | typeName | methodName | duplicate | unknown => exact ⟨_, _, rfl, rfl⟩
  | ambiguous => exact ⟨_, "", rfl, String.append_empty.symm⟩

theorem Valid.binds (valid : f.Valid) {x : SiteEntry} (member : x ∈ f.sites) :
    f.Binds f.snapshot.table x (f.bound x) where
  line := rfl
  kind := rfl
  receiver := rfl
  interface := rfl
  unnamed unnamed := by simp [bound, unnamed]
  named id isNamed := by
    obtain ⟨m, inMethods, same⟩ := List.mem_map.mp (valid.siteMethods x member id isNamed)
    have found : f.methods.find? (·.id == id) = some m :=
      (find?_key_eq_some_iff valid.methodIds).mpr ⟨inMethods, same⟩
    have resolved := f.method_bound x
    rw [target?, isNamed, Option.bind_some, found, Option.map_some] at resolved
    obtain ⟨handle, isHandle, declared⟩ := Option.bind_eq_some_iff.mp resolved
    refine ⟨handle, m, isHandle, inMethods, same, fun other isOther sameId => ?_, ?_⟩
    · exact List.inj_on_of_nodup_map valid.methodIds isOther inMethods (sameId.trans same.symm)
    · rw [declared, MethodEntry.decl_eq (valid.methodNames m inMethods)]

/-- What becomes of any file. It loads if all types have names, all methods have
    exactly one name, no two methods have the same id and sites only name ids of
    methods. Then there is one site for each entry, in the order of the file, and
    where an entry names a method, the handle of its site is that of the only method
    with this id. If the file does not load, the error is the first offence, list by
    list, place by place and check by check, and its text begins with this place. -/
theorem loaded_or_first_offence (f : SnapshotFile) :
    ((∃ s, f.load = .ok s) ↔
      (∀ t ∈ f.types, t.name ≠ "") ∧ (∀ m ∈ f.methods, m.IsNamed) ∧ (f.methods.map (·.id)).Nodup ∧
        ∀ x ∈ f.sites, ∀ id, x.method = some id → ∃ m ∈ f.methods, m.id = id) ∧
    (∀ s, f.load = .ok s → List.Forall₂ (f.Binds s.table) f.sites s.sites) ∧
    (∀ e, f.load = .error e ↔ f.Offends e ∧ ∀ d, f.Offends d → e.turn ≤ d.turn) ∧
    ∀ e, f.load = .error e → ∃ list key, ["types", "methods", "sites"][e.list]? = some list ∧
      e.context = SnapshotError.placeIn list e.index ++ key := by
  refine ⟨?_, ?_, fun e => load_eq_error_iff, ?_⟩
  · simp only [load_eq_ok_iff, ← List.mem_map]
    constructor
    · rintro ⟨_, valid, -⟩
      exact ⟨valid.typeNames, valid.isNamed, valid.methodIds, valid.siteMethods⟩
    · rintro ⟨typeNames, named, methodIds, siteMethods⟩
      have methodNames : ∀ m ∈ f.methods, m.declaredName?.isSome = true := fun m member =>
        MethodEntry.isSome_declaredName?_iff.mpr (named m member)
      exact ⟨_, ⟨typeNames, methodNames, methodIds, siteMethods⟩, rfl⟩
  · intro s loaded
    obtain ⟨valid, rfl⟩ := load_eq_ok_iff.mp loaded
    rw [snapshot, List.forall₂_map_right_iff, List.forall₂_same]
    exact fun x member => valid.binds member
  · intro e failed
    exact (load_eq_error_iff.mp failed).1.context_eq

example : (⟨[], [⟨"run", "app.Job", some "run", false, []⟩, ⟨"run", "app.Task", none, true, []⟩],
      [⟨3, .invocation, some "stop", none, none⟩]⟩ : SnapshotFile).load = .error (.duplicateMethod 1 "run") := rfl

/-- A constructor with an empty name. -/
def blankConstructor : SnapshotFile where
  types := [⟨"app.Job", .classKind, []⟩]
  methods := [⟨"new", "app.Job", some "", true, []⟩]
  sites := [⟨4, .newClass, some "new", none, none⟩]

/-- The one method sets no name that is not empty, and still has one too many. -/
theorem load_blankConstructor :
    (∀ t ∈ blankConstructor.types, t.name ≠ "") ∧ (∀ m ∈ blankConstructor.methods, m.SetsOne) ∧
    (blankConstructor.methods.map (·.id)).Nodup ∧
    (∀ x ∈ blankConstructor.sites, ∀ id, x.method = some id → ∃ m ∈ blankConstructor.methods, m.id = id) ∧
    blankConstructor.load = .error (.ambiguousMethodName 0) := by
  refine ⟨by decide, ?_, by decide, ?_, rfl⟩
  · simp [blankConstructor, MethodEntry.SetsOne, Xor]
  · simp [blankConstructor]

end SnapshotFile

end CallSieve
