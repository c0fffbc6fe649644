import CallSieve.Proofs.TypeTable.Declarations

/-!
A table grows by declarations, one after the other. Its history has, beside the
table, the place that each name was given when it first came up, and each handle
that was handed out, with the method it is for. What is declared later moves no
name and takes no method from its handle (`ofDeclarations_records`).
-/

namespace CallSieve

/-- One declaration, by the way in which it is made. -/
inductive Declaration where
  | type (d : TypeDecl)
  | ofClass (name : String) (supers : List String)
  | ofInterface (name : String) (supers : List String)
  | method (m : MethodDecl)

namespace Declaration

def type? : Declaration → Option TypeDecl
  | type d => some d
  | ofClass name supers => some ⟨name, .classKind, supers⟩
  | ofInterface name supers => some ⟨name, .interface, supers⟩
  | method _ => none

def method? : Declaration → Option MethodDecl
  | method m => some m
  | type _ | ofClass _ _ | ofInterface _ _ => none

end Declaration

/-- The types of declarations in their order, those that need none first. -/
def declaredTypes (ds : List Declaration) : List TypeDecl := TypeTable.initial.types ++ ds.filterMap (·.type?)

def declaredMethods (ds : List Declaration) : List MethodDecl := ds.filterMap (·.method?)

namespace TypeTable

def perform (t : TypeTable) : Declaration → TypeTable
  | .type d => t.declare d
  | .ofClass name supers => t.declareClass name supers
  | .ofInterface name supers => t.declareInterface name supers
  | .method m => (t.declareMethod m).1

/-- The table of declarations that are made one after the other. -/
def ofDeclarations (ds : List Declaration) : TypeTable := ds.foldl perform initial

theorem ofDeclarations_concat (ds : List Declaration) (d : Declaration) :
    ofDeclarations (ds ++ [d]) = (ofDeclarations ds).perform d := by
  rw [ofDeclarations, List.foldl_append]
  rfl

/-- The methods of a table have no part in how its types are declared. -/
theorem declare_withMethods (t : TypeTable) (methods : List MethodDecl) (d : TypeDecl) :
    ({ t with methods } : TypeTable).declare d = { t.declare d with methods } := by
  have samePlace : ({ t with methods } : TypeTable).indexOf? d.name = t.indexOf? d.name := rfl
  cases place : t.indexOf? d.name <;> simp [declare, samePlace, place]

/-- Types and methods come about apart from each other. -/
theorem ofDeclarations_eq (ds : List Declaration) :
    ofDeclarations ds = { (ds.filterMap (·.type?)).foldl declare initial with methods := declaredMethods ds } := by
  induction ds using List.reverseRecOn with
  | nil => rfl
  | append_singleton before d ih =>
    rw [ofDeclarations_concat, ih]
    simp only [declaredMethods, List.filterMap_append, List.foldl_append]
    cases d with
    | method m => simp [perform, declareMethod, Declaration.type?, Declaration.method?]
    | _ => simp [perform, declareClass, declareInterface, declare_withMethods, Declaration.type?, Declaration.method?]

theorem methods_ofDeclarations (ds : List Declaration) : (ofDeclarations ds).methods = declaredMethods ds := by
  rw [ofDeclarations_eq]

/-- A handle stands for its method whatever is declared later. -/
theorem method?_ofDeclarations_append {ds : List Declaration} {id : MethodId} {m : MethodDecl}
    (found : (ofDeclarations ds).method? id = some m) (more : List Declaration) :
    (ofDeclarations (ds ++ more)).method? id = some m := by
  rw [method?, methods_ofDeclarations] at found ⊢
  obtain ⟨inside, -⟩ := List.getElem?_eq_some_iff.mp found
  rw [declaredMethods, List.filterMap_append]
  exact (List.getElem?_append_left inside).trans found

/-- A name stands for the last of its declarations. -/
theorem find?_ofDeclarations (ds : List Declaration) (n : String) :
    (ofDeclarations ds).find? n = ((declaredTypes ds).filter (·.name == n)).getLast? := by
  have start : initial = initial.types.foldl declare ⟨[], []⟩ := rfl
  have sameTypes : (ofDeclarations ds).find? n = ((declaredTypes ds).foldl declare ⟨[], []⟩).find? n := by
    rw [ofDeclarations_eq, declaredTypes, List.foldl_append, ← start]
    rfl
  rw [sameTypes, find?_foldl_declare, List.getLast?_eq_head?_reverse, ← List.filter_reverse, List.head?_filter]
  simp [find?]

theorem contains_ofDeclarations (ds : List Declaration) (n : String) :
    (ofDeclarations ds).contains n = true ↔ n ∈ (declaredTypes ds).map (·.name) := by
  rw [contains, find?_ofDeclarations, List.getLast?_isSome]
  simp

theorem get_of_not_contains {t : TypeTable} {n : String} (unknown : t.contains n = false) : t.get n = t.unknown := by
  have absent : t.find? n = none := by simpa [contains] using unknown
  rw [get, TypeTable.unknown, absent]

end TypeTable

/-! ### Histories -/

/-- A table with the places of its names and the handles of its methods. -/
structure History where
  table : TypeTable
  places : List (String × Nat)
  issued : List (MethodId × MethodDecl)

namespace History

/-- A type is put in the place of its name; a new name gets the next place. -/
def declare (h : History) (d : TypeDecl) : History :=
  match h.places.lookup d.name with
  | some i => { h with table := { h.table with types := h.table.types.set i d } }
  | none =>
    { h with
      table := { h.table with types := h.table.types ++ [d] }
      places := h.places ++ [(d.name, h.table.types.length)] }

def declareMethod (h : History) (m : MethodDecl) : History :=
  let (table, id) := h.table.declareMethod m
  { h with table, issued := h.issued ++ [(id, m)] }

def add (h : History) : Declaration → History
  | .type d => h.declare d
  | .ofClass name supers => h.declare ⟨name, .classKind, supers⟩
  | .ofInterface name supers => h.declare ⟨name, .interface, supers⟩
  | .method m => h.declareMethod m

def empty : History := ⟨⟨[], []⟩, [], []⟩

def initial : History := TypeTable.initial.types.foldl declare empty

def ofDeclarations (ds : List Declaration) : History := ds.foldl add initial

/-- Names are numbered in the order of the table, in which each has one type, and
    handles in the order of the methods. -/
structure Consistent (h : History) : Prop where
  places : h.places = (h.table.types.map (·.name)).zipIdx
  distinct : (h.table.types.map (·.name)).Nodup
  issued : h.issued = h.table.methods.zipIdx.map fun (m, i) => (⟨i⟩, m)

variable {h : History}

theorem declare_of_placed {d : TypeDecl} {i : Nat} (place : h.places.lookup d.name = some i) :
    h.declare d = ⟨⟨h.table.types.set i d, h.table.methods⟩, h.places, h.issued⟩ := by
  simp only [declare, place]

theorem declare_of_new {d : TypeDecl} (place : h.places.lookup d.name = none) :
    h.declare d =
      ⟨⟨h.table.types ++ [d], h.table.methods⟩, h.places ++ [(d.name, h.table.types.length)], h.issued⟩ := by
  simp only [declare, place]

namespace Consistent

/-- The place written down for a name is the one that a search finds. -/
theorem lookup_eq (consistent : h.Consistent) (n : String) : h.places.lookup n = h.table.indexOf? n := by
  have searched := lookup_map_zipIdx (·.name) id h.table.types 0 n
  rw [consistent.places, List.zipIdx_map]
  simpa [TypeTable.indexOf?, Prod.map_def] using searched

theorem lookup_eq_some_iff (consistent : h.Consistent) {n : String} {i : Nat} :
    h.places.lookup n = some i ↔ ∃ d, h.table.types[i]? = some d ∧ d.name = n := by
  rw [consistent.lookup_eq, TypeTable.indexOf?, List.findIdx?_eq_some_iff_getElem]
  constructor
  · rintro ⟨inside, named, -⟩
    exact ⟨h.table.types[i], List.getElem?_eq_getElem inside, by simpa using named⟩
  · rintro ⟨d, placed, rfl⟩
    obtain ⟨inside, rfl⟩ := List.getElem?_eq_some_iff.mp placed
    refine ⟨inside, by simp, fun j before same => ?_⟩
    have sameName : h.table.types[j].name = h.table.types[i].name := by simpa using same
    have samePlace : j = i := by
      refine (List.getElem?_inj (by simpa using before.trans inside) consistent.distinct).mp ?_
      simp [before.trans inside, inside, sameName]
    omega

theorem table_declare (consistent : h.Consistent) (d : TypeDecl) : (h.declare d).table = h.table.declare d := by
  rw [History.declare, TypeTable.declare, consistent.lookup_eq]
  cases h.table.indexOf? d.name <;> rfl

theorem declare (consistent : h.Consistent) (d : TypeDecl) : (h.declare d).Consistent := by
  cases place : h.places.lookup d.name with
  | some i =>
    obtain ⟨e, placed, named⟩ := consistent.lookup_eq_some_iff.mp place
    have sameNames : (h.table.types.set i d).map (·.name) = h.table.types.map (·.name) := by
      obtain ⟨inside, rfl⟩ := List.getElem?_eq_some_iff.mp placed
      have inside : i < (h.table.types.map (·.name)).length := by simpa using inside
      rw [List.map_set, ← named]
      simpa using List.set_getElem_self inside
    rw [declare_of_placed place]
    exact ⟨by rw [consistent.places, sameNames], by rw [sameNames]; exact consistent.distinct, consistent.issued⟩
  | none =>
    have fresh : d.name ∉ h.table.types.map (·.name) := by
      intro listed
      obtain ⟨e, member, named⟩ := List.mem_map.mp listed
      obtain ⟨i, placed⟩ := List.mem_iff_getElem?.mp member
      have placed := consistent.lookup_eq_some_iff.mpr ⟨e, placed, named⟩
      simp [place] at placed
    rw [declare_of_new place]
    refine ⟨?_, ?_, consistent.issued⟩
    · simp [consistent.places, List.zipIdx_append]
    · rw [List.map_append]
      exact consistent.distinct.append (List.nodup_singleton _) (List.disjoint_singleton.mpr fresh)

theorem declareMethod (consistent : h.Consistent) (m : MethodDecl) : (h.declareMethod m).Consistent := by
  constructor
  · exact consistent.places
  · exact consistent.distinct
  · simp [History.declareMethod, TypeTable.declareMethod, consistent.issued, List.zipIdx_append]

theorem add (consistent : h.Consistent) (d : Declaration) : (h.add d).Consistent := by
  cases d with
  | type d => exact consistent.declare d
  | ofClass name supers => exact consistent.declare ⟨name, .classKind, supers⟩
  | ofInterface name supers => exact consistent.declare ⟨name, .interface, supers⟩
  | method m => exact consistent.declareMethod m

theorem table_add (consistent : h.Consistent) (d : Declaration) : (h.add d).table = h.table.perform d := by
  cases d with
  | type d => exact consistent.table_declare d
  | ofClass name supers => exact consistent.table_declare ⟨name, .classKind, supers⟩
  | ofInterface name supers => exact consistent.table_declare ⟨name, .interface, supers⟩
  | method m => rfl

/-- The type in the place of a name is what the name stands for. -/
theorem find?_eq_bind_lookup (consistent : h.Consistent) (n : String) :
    h.table.find? n = (h.places.lookup n).bind (h.table.types[·]?) := by
  rw [consistent.lookup_eq, TypeTable.find?, TypeTable.indexOf?, List.find?_eq_bind_findIdx?_getElem?]

/-- Exactly the names that stand for a type have places. -/
theorem exists_place_iff (consistent : h.Consistent) {n : String} :
    (∃ i, h.places.lookup n = some i) ↔ h.table.contains n = true := by
  rw [TypeTable.contains, consistent.find?_eq_bind_lookup]
  constructor
  · rintro ⟨i, place⟩
    obtain ⟨d, placed, -⟩ := consistent.lookup_eq_some_iff.mp place
    simp [place, placed]
  · intro found
    obtain ⟨d, found⟩ := Option.isSome_iff_exists.mp found
    obtain ⟨i, place, -⟩ := Option.bind_eq_some_iff.mp found
    exact ⟨i, place⟩

theorem map_snd_issued (consistent : h.Consistent) : h.issued.map (·.2) = h.table.methods := by
  rw [consistent.issued, List.map_map]
  exact List.zipIdx_map_fst 0 h.table.methods

theorem nodup_handles (consistent : h.Consistent) : (h.issued.map (·.1)).Nodup := by
  have numbered : (h.issued.map (·.1)).map MethodId.index = List.range h.table.methods.length := by
    rw [consistent.issued, List.map_map, List.map_map, List.range_eq_range']
    exact List.zipIdx_map_snd 0 h.table.methods
  refine List.Nodup.of_map MethodId.index ?_
  rw [numbered]
  exact List.nodup_range

theorem mem_issued_iff (consistent : h.Consistent) {id : MethodId} {m : MethodDecl} :
    (id, m) ∈ h.issued ↔ h.table.method? id = some m := by
  rw [consistent.issued, List.mem_map, TypeTable.method?]
  constructor
  · rintro ⟨⟨k, i⟩, member, same⟩
    cases same
    exact List.mem_zipIdx_iff_getElem?.mp member
  · intro found
    exact ⟨(m, id.index), List.mem_zipIdx_iff_getElem?.mpr found, rfl⟩

/-- The first handle for a signature is the one that a search finds. -/
theorem findMethod?_eq (consistent : h.Consistent) (owner name : String) (parameters : List String) :
    h.table.findMethod? owner name parameters =
      (h.issued.find? (·.2 == ⟨owner, name, parameters⟩)).map (·.1) := by
  rw [consistent.issued, TypeTable.findMethod?, List.find?_map, Option.map_map, List.findIdx?_eq_fst_find?_zipIdx,
    Option.map_map]
  rfl

theorem findMethod?_eq_some_iff (consistent : h.Consistent) {owner name : String} {parameters : List String}
    {id : MethodId} :
    h.table.findMethod? owner name parameters = some id ↔
      ∃ before after, h.issued = before ++ (id, ⟨owner, name, parameters⟩) :: after ∧
        ∀ earlier ∈ before, earlier.2 ≠ ⟨owner, name, parameters⟩ := by
  rw [consistent.findMethod?_eq, Option.map_eq_some_iff]
  constructor
  · rintro ⟨⟨id, m⟩, first, rfl⟩
    obtain ⟨sameSignature, before, after, split, others⟩ := List.find?_eq_some_iff_append.mp first
    obtain rfl : m = ⟨owner, name, parameters⟩ := by simpa using sameSignature
    exact ⟨before, after, split, fun earlier member => by simpa using others earlier member⟩
  · rintro ⟨before, after, split, others⟩
    refine ⟨(id, ⟨owner, name, parameters⟩), ?_, rfl⟩
    refine List.find?_eq_some_iff_append.mpr ⟨by simp, before, after, split, fun earlier member => ?_⟩
    simpa using others earlier member

theorem findMethod?_eq_none_iff (consistent : h.Consistent) {owner name : String} {parameters : List String} :
    h.table.findMethod? owner name parameters = none ↔ ⟨owner, name, parameters⟩ ∉ h.issued.map (·.2) := by
  rw [consistent.findMethod?_eq, Option.map_eq_none_iff, List.find?_eq_none, List.mem_map]
  constructor
  · rintro others ⟨entry, member, same⟩
    exact others entry member (by simp [same])
  · intro absent entry member same
    exact absent ⟨entry, member, by simpa using same⟩

end Consistent

theorem consistent_initial : initial.Consistent :=
  ⟨by decide, by decide, rfl⟩

theorem ofDeclarations_concat (ds : List Declaration) (d : Declaration) :
    ofDeclarations (ds ++ [d]) = (ofDeclarations ds).add d := by
  rw [ofDeclarations, List.foldl_append]
  rfl

theorem consistent_ofDeclarations (ds : List Declaration) : (ofDeclarations ds).Consistent := by
  induction ds using List.reverseRecOn with
  | nil => exact consistent_initial
  | append_singleton before d ih =>
    rw [ofDeclarations_concat]
    exact ih.add d

/-- Where the places of names are written down, the table is the same. -/
theorem table_ofDeclarations (ds : List Declaration) : (ofDeclarations ds).table = .ofDeclarations ds := by
  induction ds using List.reverseRecOn with
  | nil => rfl
  | append_singleton before d ih =>
    rw [ofDeclarations_concat, (consistent_ofDeclarations before).table_add, ih, TypeTable.ofDeclarations_concat]

/-- What a history keeps of declarations. -/
structure Records (ds : List Declaration) (h : History) : Prop where
  /-- The places written down change nothing in the table. -/
  table : h.table = .ofDeclarations ds
  placed : ∀ n, (∃ i, h.places.lookup n = some i) ↔ n ∈ (declaredTypes ds).map (·.name)
  /-- The place of a name is that of the only type of this name. -/
  place : ∀ n i, h.places.lookup n = some i ↔ ∃ d, h.table.types[i]? = some d ∧ d.name = n
  found : ∀ n, h.table.get n = ⟨h.table, (h.places.lookup n).bind (h.table.types[·]?)⟩
  /-- A name stands for the last type declared by it. -/
  last : ∀ n d, ((declaredTypes ds).filter (·.name == n)).getLast? = some d →
    h.table.contains n = true ∧ h.table.get n = ⟨h.table, some d⟩ ∧ d.name = n
  undeclared : ∀ n, n ∉ (declaredTypes ds).map (·.name) →
    h.table.contains n = false ∧ h.table.get n = h.table.unknown
  /-- Each declared method has one handle, in the order of declarations. -/
  methods : h.issued.map (·.2) = declaredMethods ds
  distinct : (h.issued.map (·.1)).Nodup
  lasting : ∀ more id m, (id, m) ∈ h.issued → (TypeTable.ofDeclarations (ds ++ more)).method? id = some m
  /-- A signature is found by the first handle for it. -/
  earliest : ∀ owner name parameters id, h.table.findMethod? owner name parameters = some id ↔
    ∃ before after, h.issued = before ++ (id, ⟨owner, name, parameters⟩) :: after ∧
      ∀ earlier ∈ before, earlier.2 ≠ ⟨owner, name, parameters⟩
  unissued : ∀ owner name parameters, h.table.findMethod? owner name parameters = none ↔
    ⟨owner, name, parameters⟩ ∉ declaredMethods ds

/-- Whatever is declared in whatever order, its history keeps the places of
    names, the types they stand for and the handles of methods. -/
theorem ofDeclarations_records (ds : List Declaration) : Records ds (ofDeclarations ds) := by
  have consistent := consistent_ofDeclarations ds
  have sameTable := table_ofDeclarations ds
  have methods : (ofDeclarations ds).issued.map (·.2) = declaredMethods ds := by
    rw [consistent.map_snd_issued, sameTable, TypeTable.methods_ofDeclarations]
  have declared : ∀ n, (ofDeclarations ds).table.contains n = true ↔ n ∈ (declaredTypes ds).map (·.name) := by
    rw [sameTable]
    exact TypeTable.contains_ofDeclarations ds
  constructor
  case table => exact sameTable
  case placed => exact fun n => consistent.exists_place_iff.trans (declared n)
  case place => exact fun n i => consistent.lookup_eq_some_iff
  case found => exact fun n => by rw [TypeTable.get, consistent.find?_eq_bind_lookup]
  case last =>
    intro n d last
    obtain ⟨member, named⟩ := List.mem_filter.mp (List.mem_of_getLast? last)
    have named : d.name = n := by simpa using named
    refine ⟨(declared n).mpr (List.mem_map.mpr ⟨d, member, named⟩), ?_, named⟩
    rw [sameTable, TypeTable.get, TypeTable.find?_ofDeclarations, last]
  case undeclared =>
    intro n absent
    have unknown : (ofDeclarations ds).table.contains n = false := by simpa using mt (declared n).mp absent
    exact ⟨unknown, TypeTable.get_of_not_contains unknown⟩
  case methods => exact methods
  case distinct => exact consistent.nodup_handles
  case lasting =>
    intro more id m issued
    exact TypeTable.method?_ofDeclarations_append (sameTable ▸ consistent.mem_issued_iff.mp issued) more
  case earliest => exact fun owner name parameters id => consistent.findMethod?_eq_some_iff
  case unissued => exact fun owner name parameters => methods ▸ consistent.findMethod?_eq_none_iff

end History

end CallSieve
