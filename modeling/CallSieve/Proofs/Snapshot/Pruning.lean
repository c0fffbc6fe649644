import CallSieve.Proofs.Snapshot.Reduction

/-!
A name that is listed and not declared has no place in any chain, but it counts
in the list of an interface: one that lists such names only has nothing above it,
and without them it has the root. So a file that leaves these names out matches
the same lines for all matchers without tests of their own exactly if no type at
its sites hangs on such an interface (`load_pruned`).
-/

namespace CallSieve

open Hierarchy (isSubtype)

namespace TypeTable

/-- A declaration without the names that the table does not declare. -/
def prune (t : TypeTable) (d : TypeDecl) : TypeDecl := { d with supers := d.supers.filter t.contains }

/-- An interface that lists names, none of them declared. -/
def Stranded (t : TypeTable) (c : String) : Prop :=
  ∃ d, t.find? c = some d ∧ d.kind = .interface ∧ d.supers ≠ [] ∧ ∀ s ∈ d.supers, t.contains s = false

/-- Below a stranded interface, and not below the root by another way. -/
def CutOff (t : TypeTable) (a : String) : Prop :=
  (∃ c, t.Stranded c ∧ isSubtype (t.get a) c = true) ∧ isSubtype (t.get a) rootName = false

/-- The other table has the same types, without the undeclared names that they list. -/
def PrunedTo (t u : TypeTable) : Prop := ∀ n, u.find? n = (t.find? n).map t.prune

namespace PrunedTo

variable {t u : TypeTable} {a b n : String}

theorem contains_eq (pruned : t.PrunedTo u) (n : String) : u.contains n = t.contains n := by
  rw [contains, contains, pruned n, Option.isSome_map]

theorem kind_eq (pruned : t.PrunedTo u) (n : String) : (u.find? n).map (·.kind) = (t.find? n).map (·.kind) := by
  rw [pruned n, Option.map_map]
  rfl

/-- A class looks its supertypes up, so undeclared ones are nothing to it. An
    interface looks at its list only. -/
theorem hasImplicitRoot_iff (pruned : t.PrunedTo u) (d : TypeDecl) :
    u.hasImplicitRoot (t.prune d) = true ↔
      t.hasImplicitRoot d = true ∨
        d.kind = .interface ∧ d.supers ≠ [] ∧ ∀ s ∈ d.supers, t.contains s = false := by
  cases kind : d.kind with
  | primitive => simp [hasImplicitRoot, prune, kind]
  | interface =>
    by_cases lists : d.supers = []
    · simp [hasImplicitRoot, prune, kind, lists]
    · simp [hasImplicitRoot, prune, kind, lists]
  | classKind =>
    have sameClasses (s : String) : (t.contains s && (t.find? s).map (·.kind) == some .classKind) =
        ((t.find? s).map (·.kind) == some .classKind) := by
      cases found : t.find? s <;> simp [contains, found]
    simp only [hasImplicitRoot, prune, kind, List.any_filter, pruned.kind_eq, sameClasses]
    simp

theorem find?_prune (pruned : t.PrunedTo u) {d : TypeDecl} (found : t.find? a = some d) :
    u.find? a = some (t.prune d) := by
  rw [pruned a, found]
  rfl

theorem extends_of_extends (pruned : t.PrunedTo u) (above : t.Extends a b) : u.Extends a b := by
  obtain ⟨declared, d, found, above⟩ := above
  refine ⟨pruned.contains_eq b ▸ declared, t.prune d, pruned.find?_prune found, mem_superNames_iff.mpr ?_⟩
  rcases mem_superNames_iff.mp above with listed | ⟨implicit, rfl⟩
  · exact .inl (List.mem_filter.mpr ⟨listed, declared⟩)
  · exact .inr ⟨(pruned.hasImplicitRoot_iff d).mpr (.inl implicit), rfl⟩

theorem extends_root (pruned : t.PrunedTo u) (rootDeclared : t.contains rootName = true) (stranded : t.Stranded a) :
    u.Extends a rootName := by
  obtain ⟨d, found, stranded⟩ := stranded
  refine ⟨pruned.contains_eq _ ▸ rootDeclared, t.prune d, pruned.find?_prune found, mem_superNames_iff.mpr ?_⟩
  exact .inr ⟨(pruned.hasImplicitRoot_iff d).mpr (.inr stranded), rfl⟩

theorem extends_cases (pruned : t.PrunedTo u) (above : u.Extends a b) :
    t.Extends a b ∨ t.Stranded a ∧ b = rootName := by
  obtain ⟨declared, e, foundPruned, above⟩ := above
  rw [pruned.contains_eq] at declared
  obtain ⟨d, found, rfl⟩ := Option.map_eq_some_iff.mp ((pruned a).symm.trans foundPruned)
  rcases mem_superNames_iff.mp above with listed | ⟨implicit, rfl⟩
  · have listed : b ∈ d.supers := (List.mem_filter.mp listed).1
    exact .inl ⟨declared, d, found, mem_superNames_iff.mpr (.inl listed)⟩
  · rcases (pruned.hasImplicitRoot_iff d).mp implicit with implicit | stranded
    · exact .inl ⟨declared, d, found, mem_superNames_iff.mpr (.inr ⟨implicit, rfl⟩)⟩
    · exact .inr ⟨⟨d, found, stranded⟩, rfl⟩

/-- A chain of the other table is one of this table, or it comes to the root from
    a stranded interface, for the last time, and goes on from there. -/
theorem chain_iff (pruned : t.PrunedTo u) (rootDeclared : t.contains rootName = true) :
    Relation.ReflTransGen u.Extends a n ↔
      Relation.ReflTransGen t.Extends a n ∨
        (∃ c, t.Stranded c ∧ Relation.ReflTransGen t.Extends a c) ∧ Relation.ReflTransGen t.Extends rootName n := by
  have kept {b c : String} (path : Relation.ReflTransGen t.Extends b c) : Relation.ReflTransGen u.Extends b c :=
    Relation.reflTransGen_closed (fun _ _ above => .single (pruned.extends_of_extends above)) _ _ path
  constructor
  · intro path
    induction path with
    | refl => exact .inl .refl
    | @tail b c _ above ih =>
      rcases pruned.extends_cases above with above | ⟨stranded, rfl⟩
      · exact ih.imp (·.tail above) (fun ⟨jump, fromRoot⟩ => ⟨jump, fromRoot.tail above⟩)
      · -- at the root the way up starts anew, so an earlier jump is as good
        rcases ih with path | ⟨jump, -⟩
        · exact .inr ⟨⟨b, stranded, path⟩, .refl⟩
        · exact .inr ⟨jump, .refl⟩
  · rintro (path | ⟨⟨c, stranded, toInterface⟩, fromRoot⟩)
    · exact kept path
    · exact ((kept toInterface).tail (pruned.extends_root rootDeclared stranded)).trans (kept fromRoot)

theorem isSubtype_iff (pruned : t.PrunedTo u) (rootDeclared : t.contains rootName = true) :
    isSubtype (u.get a) n = true ↔
      isSubtype (t.get a) n = true ∨ t.CutOff a ∧ isSubtype (t.get rootName) n = true := by
  simp only [CutOff, ← Bool.not_eq_true, isSubtype_get_iff, pruned.contains_eq, rootDeclared,
    pruned.chain_iff rootDeclared]
  constructor
  · rintro ⟨declared, path | ⟨⟨c, stranded, toInterface⟩, fromRoot⟩⟩
    · exact .inl ⟨declared, path⟩
    · -- with another way to the root the jump leads nowhere new
      by_cases toRoot : Relation.ReflTransGen t.Extends a rootName
      · exact .inl ⟨declared, toRoot.trans fromRoot⟩
      · exact .inr ⟨⟨⟨c, stranded, declared, toInterface⟩, fun below => toRoot below.2⟩, trivial, fromRoot⟩
  · rintro (⟨declared, path⟩ | ⟨⟨⟨c, stranded, declared, toInterface⟩, -⟩, -, fromRoot⟩)
    · exact ⟨declared, .inl path⟩
    · exact ⟨declared, .inr ⟨⟨c, stranded, toInterface⟩, fromRoot⟩⟩

theorem within (pruned : t.PrunedTo u) (rootDeclared : t.contains rootName = true) (a : String) :
    Hierarchy.Within (t.get a) (u.get a) :=
  within_get_of_isSubtype fun _ subtype => (pruned.isSubtype_iff rootDeclared).mpr (.inl subtype)

theorem within_of_not_cutOff (pruned : t.PrunedTo u) (rootDeclared : t.contains rootName = true)
    (attached : ¬ t.CutOff a) : Hierarchy.Within (u.get a) (t.get a) := by
  refine within_get_of_isSubtype fun n subtype => ?_
  rcases (pruned.isSubtype_iff rootDeclared).mp subtype with subtype | ⟨cutOff, -⟩
  · exact subtype
  · exact absurd cutOff attached

end PrunedTo

theorem Stranded.cutOff {t : TypeTable} {a : String} (stranded : t.Stranded a) (other : a ≠ rootName) : t.CutOff a := by
  obtain ⟨d, found, isInterface, lists, undeclared⟩ := stranded
  have declared : t.contains a = true := contains_iff.mpr ⟨d, found⟩
  have top (b : String) : ¬ t.Extends a b := by
    rintro ⟨bDeclared, e, foundHere, above⟩
    obtain rfl : d = e := Option.some.inj (found.symm.trans foundHere)
    have explicit : t.superNames d = d.supers := by simp [superNames, hasImplicitRoot, isInterface, lists]
    have bUndeclared := undeclared b (explicit ▸ above)
    simp [bDeclared] at bUndeclared
  refine ⟨⟨a, ⟨d, found, isInterface, lists, undeclared⟩, isSubtype_get_iff.mpr ⟨declared, .refl⟩⟩, ?_⟩
  rw [Bool.eq_false_iff]
  intro below
  rcases (isSubtype_get_iff.mp below).2.cases_head with same | ⟨b, above, -⟩
  · exact other same
  · exact top b above

theorem map_prune_initial (t : TypeTable) (n : String) : (initial.find? n).map t.prune = initial.find? n := by
  cases found : initial.find? n with
  | none => rfl
  | some d =>
    have listNothing : ∀ d ∈ initial.types, d.supers = [] := by decide
    obtain ⟨name, kind, supers⟩ := d
    obtain rfl : supers = [] := listNothing _ (List.mem_of_find?_eq_some found)
    rfl

end TypeTable

/-- A criterion for the place after any types. -/
def ParametersCriterion.atPlace {τ : Type} (place : Nat) (c : TypeCriterion τ) : ParametersCriterion τ :=
  startingWith (List.replicate place .any ++ [c])

theorem ParametersCriterion.leadingAccepted_replicate {τ : Type} [Hierarchy τ] (c : TypeCriterion τ)
    (before after : List τ) (a : τ) :
    leadingAccepted (List.replicate before.length .any ++ [c]) (before ++ a :: after) = c.accepts a := by
  induction before with
  | nil => simp [leadingAccepted]
  | cons b before ih => simpa [leadingAccepted, List.replicate_succ, TypeCriterion.accepts] using ih

theorem ParametersCriterion.accepts_atPlace {τ : Type} [Hierarchy τ] (c : TypeCriterion τ) (before after : List τ)
    (a : τ) : (atPlace before.length c).accepts (before ++ a :: after) = c.accepts a := by
  simp [atPlace, accepts, leadingAccepted_replicate]

/-- Some matchers without tests of their own ask for nothing but whether a type
    of the site is below a name. -/
theorem Mode.Asks.exists_matchers {mode : Mode} {t : TypeTable} {x : Site} {a : String} (asked : mode.Asks t x a)
    (n : String) :
    ∃ ms : Matchers TypeRef, ms.isPlain = true ∧ ∀ u : TypeTable, u.methods = t.methods →
      (mode.accepts ms u x = true ↔ isSubtype (u.get a) n = true) := by
  obtain ⟨d, found, allowed, member⟩ := asked
  have foundIn {u : TypeTable} (same : u.methods = t.methods) : x.method.bind u.method? = some d := by
    rwa [TypeTable.method?_eq_of_methods_eq same]
  rcases List.mem_cons.mp member with rfl | isParameter
  · refine ⟨.single ⟨[.subtypeOf n], [.any], [.any]⟩, rfl, fun u same => ?_⟩
    exact accepts_subtypeOf_iff (foundIn same) allowed
  · obtain ⟨before, after, split⟩ := List.append_of_mem isParameter
    refine ⟨.single ⟨[.any], [.any], [.atPlace before.length (.subtypeOf n)]⟩, ?_, fun u same => ?_⟩
    · simp [Matchers.isPlain, Matchers.single, Matcher.isPlain, TypeCriterion.isPlain, NameCriterion.isPlain,
        ParametersCriterion.isPlain, ParametersCriterion.atPlace]
    · have atPlace := ParametersCriterion.accepts_atPlace (.subtypeOf n) (before.map u.get) (after.map u.get) (u.get a)
      rw [List.length_map] at atPlace
      rw [accepts_single_iff (foundIn same) allowed, split, List.map_append, List.map_cons]
      simp [Matcher.meets, TypeCriterion.accepts, NameCriterion.accepts, atPlace]

namespace SnapshotFile

/-- The file without the names that its types list and that no type has. -/
def pruned (f : SnapshotFile) : SnapshotFile := { f with types := f.types.map f.snapshot.table.prune }

variable {f : SnapshotFile} {ms : Matchers TypeRef} {mode : Mode} {x : Site}

theorem Valid.pruned (valid : f.Valid) : f.pruned.Valid where
  typeNames d member := by
    obtain ⟨e, listed, rfl⟩ := List.mem_map.mp member
    exact valid.typeNames e listed
  methodNames := valid.methodNames
  methodIds := valid.methodIds
  siteMethods := valid.siteMethods

theorem prunedTo_pruned (f : SnapshotFile) : f.snapshot.table.PrunedTo f.pruned.snapshot.table := by
  intro n
  rw [find?_snapshot, find?_snapshot, TypeTable.find?_foldl_declare, TypeTable.find?_foldl_declare, Option.map_or,
    TypeTable.map_prune_initial, pruned, ← List.map_reverse, List.find?_map]
  rfl

theorem contains_rootName (f : SnapshotFile) : f.snapshot.table.contains TypeTable.rootName = true :=
  TypeTable.contains_foldl_declare f.types (by decide)

theorem accepts_pruned (plain : ms.isPlain = true) (accepted : mode.accepts ms f.snapshot.table x = true) :
    mode.accepts ms f.pruned.snapshot.table x = true := by
  refine Mode.accepts_mono plain rfl rfl ?_ ?_ accepted
  · exact fun _ found => found
  · exact fun n _ => f.prunedTo_pruned.within f.contains_rootName n

theorem accepts_of_pruned (plain : ms.isPlain = true)
    (attached : ∀ a, mode.Asks f.snapshot.table x a → ¬ f.snapshot.table.CutOff a)
    (accepted : mode.accepts ms f.pruned.snapshot.table x = true) : mode.accepts ms f.snapshot.table x = true := by
  refine Mode.accepts_mono plain rfl rfl ?_ ?_ accepted
  · exact fun _ found => found
  · exact fun n asked => f.prunedTo_pruned.within_of_not_cutOff f.contains_rootName (attached n asked)

theorem matchingSites_sublist (plain : ms.isPlain = true) :
    (f.snapshot.matchingSites ms mode).Sublist (f.pruned.snapshot.matchingSites ms mode) :=
  List.monotone_filter_right _ fun _ => accepts_pruned plain

/-- A type that is cut off is below the root in the pruned file. -/
theorem not_cutOff_of_matchingLines_eq
    (sameLines : ∀ ms : Matchers TypeRef, ms.isPlain = true →
      f.pruned.snapshot.matchingLines ms mode = f.snapshot.matchingLines ms mode)
    (member : x ∈ f.snapshot.sites) {a : String} (asked : mode.Asks f.snapshot.table x a) :
    ¬ f.snapshot.table.CutOff a := by
  intro cutOff
  obtain ⟨ms, plain, asks⟩ := asked.exists_matchers TypeTable.rootName
  have belowRoot : isSubtype (f.pruned.snapshot.table.get a) TypeTable.rootName = true := by
    refine (f.prunedTo_pruned.isSubtype_iff f.contains_rootName).mpr (.inr ⟨cutOff, ?_⟩)
    exact TypeTable.isSubtype_get_iff.mpr ⟨f.contains_rootName, .refl⟩
  have sameSites : f.snapshot.matchingSites ms mode = f.pruned.snapshot.matchingSites ms mode := by
    refine (matchingSites_sublist plain).eq_of_length ?_
    simpa [Snapshot.matchingLines] using congrArg List.length (sameLines ms plain).symm
  have matched : x ∈ f.pruned.snapshot.matchingSites ms mode :=
    List.mem_filter.mpr ⟨member, (asks f.pruned.snapshot.table rfl).mpr belowRoot⟩
  have accepted : mode.accepts ms f.snapshot.table x = true := (List.mem_filter.mp (sameSites ▸ matched)).2
  exact Bool.false_ne_true (cutOff.2.symm.trans ((asks _ rfl).mp accepted))

theorem matchingLines_pruned (plain : ms.isPlain = true)
    (attached : ∀ x ∈ f.snapshot.sites, ∀ a, mode.Asks f.snapshot.table x a → ¬ f.snapshot.table.CutOff a) :
    f.pruned.snapshot.matchingLines ms mode = f.snapshot.matchingLines ms mode := by
  refine congrArg (List.map Site.line) (List.filter_congr fun x member => ?_)
  rw [Bool.eq_iff_iff]
  exact ⟨accepts_of_pruned plain (attached x member), accepts_pruned plain⟩

end SnapshotFile

/-- A file without the undeclared names in its lists: it still loads, to the same
    sites. A type is below what it was below, and if it was cut off, also below
    the root and what that is below. So no match is lost; and no matchers without
    tests of their own match other lines than before exactly if no type that they
    are asked about is cut off. -/
theorem SnapshotFile.load_pruned {f : SnapshotFile} {s : Snapshot} (loaded : f.load = .ok s) :
    ∃ s', f.pruned.load = .ok s' ∧ s'.sites = s.sites ∧
      (∀ a n, isSubtype (s'.table.get a) n = true ↔
        isSubtype (s.table.get a) n = true ∨
          s.table.CutOff a ∧ isSubtype (s.table.get TypeTable.rootName) n = true) ∧
      (∀ ms mode, ms.isPlain = true → (s.matchingLines ms mode).Sublist (s'.matchingLines ms mode)) ∧
      ((∀ ms mode, ms.isPlain = true → s'.matchingLines ms mode = s.matchingLines ms mode) ↔
        ∀ x ∈ s.sites, ∀ (mode : Mode) (a : String), mode.Asks s.table x a → ¬ s.table.CutOff a) := by
  obtain ⟨valid, rfl⟩ := load_eq_ok_iff.mp loaded
  refine ⟨f.pruned.snapshot, load_eq_ok_iff.mpr ⟨valid.pruned, rfl⟩, rfl, ?_, ?_, ?_, ?_⟩
  · intro a n
    exact f.prunedTo_pruned.isSubtype_iff f.contains_rootName
  · intro ms mode plain
    exact (matchingSites_sublist plain).map _
  · intro sameLines x member mode a
    exact not_cutOff_of_matchingLines_eq (fun ms => sameLines ms mode) member
  · intro attached ms mode plain
    exact matchingLines_pruned plain fun x member => attached x member mode

namespace SnapshotFile

/-- A call on a class, with undeclared names in its list and in that of its interface. -/
def attachedCalls : SnapshotFile where
  types := [⟨"app.Job", .classKind, ["lib.Base", "app.Face"]⟩, ⟨"app.Face", .interface, ["lib.Missing"]⟩]
  methods := [⟨"run", "app.Job", some "run", false, []⟩]
  sites := [⟨3, .invocation, some "run", some "app.Job", none⟩]

theorem matchingLines_attachedCalls :
    ∃ s s', attachedCalls.load = .ok s ∧ attachedCalls.pruned.load = .ok s' ∧
      ∀ ms mode, ms.isPlain = true → s'.matchingLines ms mode = s.matchingLines ms mode := by
  have loaded : attachedCalls.load = .ok attachedCalls.snapshot :=
    load_eq_ok_iff.mpr ⟨⟨by decide, by decide, by decide, by decide⟩, rfl⟩
  have belowRoot : isSubtype (attachedCalls.snapshot.table.get "app.Job") TypeTable.rootName = true :=
    TypeTable.isSubtype_get_iff.mpr ⟨by decide, .single ⟨by decide, _, rfl, by decide⟩⟩
  obtain ⟨s', prunedLoaded, -, -, -, sameLines⟩ := load_pruned loaded
  refine ⟨_, s', loaded, prunedLoaded, sameLines.mpr ?_⟩
  rintro x member mode a ⟨d, found, -, asked⟩ ⟨-, notBelow⟩
  obtain rfl := List.mem_singleton.mp member
  cases found
  obtain rfl : a = "app.Job" := by cases mode <;> exact List.mem_singleton.mp asked
  exact Bool.false_ne_true (notBelow.symm.trans belowRoot)

/-- A call on an interface that lists an undeclared name only. -/
def strandedCalls : SnapshotFile where
  types := [⟨"app.Source", .interface, ["lib.Missing"]⟩]
  methods := [⟨"read", "app.Source", some "read", false, []⟩]
  sites := [⟨3, .invocation, some "read", some "app.Source", none⟩]

def strandedCall : Site := ⟨3, .invocation, some ⟨0⟩, some "app.Source", none⟩

theorem accepts_strandedCall_iff (t : TypeTable) (sameMethods : t.methods = strandedCalls.snapshot.table.methods)
    (mode : Mode) :
    mode.accepts belowRoot t strandedCall = true ↔ isSubtype (t.get "app.Source") TypeTable.rootName = true := by
  have found : strandedCall.method.bind t.method? = some ⟨"app.Source", "read", []⟩ := by
    rw [TypeTable.method?_eq_of_methods_eq sameMethods]
    rfl
  have noReference : strandedCall.kind ≠ .methodReference := by decide
  have onSource : mode.ownerName strandedCall ⟨"app.Source", "read", []⟩ = "app.Source" := by cases mode <;> rfl
  rw [belowRoot, Mode.accepts_subtypeOf_iff found fun _ => noReference, onSource]

/-- Without the undeclared name the interface is below the root, and its call matches. -/
theorem matchingLines_strandedCalls :
    ∃ s s', strandedCalls.load = .ok s ∧ strandedCalls.pruned.load = .ok s' ∧ belowRoot.isPlain = true ∧
      ∀ mode, s.matchingLines belowRoot mode = [] ∧ s'.matchingLines belowRoot mode = [3] := by
  have valid : strandedCalls.Valid := ⟨by decide, by decide, by decide, by decide⟩
  have stranded : strandedCalls.snapshot.table.Stranded "app.Source" := ⟨_, rfl, rfl, by decide, by decide⟩
  have below : isSubtype (strandedCalls.pruned.snapshot.table.get "app.Source") TypeTable.rootName = true := by
    have above := strandedCalls.prunedTo_pruned.extends_root strandedCalls.contains_rootName stranded
    exact TypeTable.isSubtype_get_iff.mpr ⟨by decide, .single above⟩
  refine ⟨_, _, load_eq_ok_iff.mpr ⟨valid, rfl⟩, load_eq_ok_iff.mpr ⟨valid.pruned, rfl⟩, rfl, fun mode => ⟨?_, ?_⟩⟩
  · have rejected : ¬ mode.accepts belowRoot strandedCalls.snapshot.table strandedCall = true := by
      rw [accepts_strandedCall_iff _ rfl, (stranded.cutOff (by decide)).2]
      exact Bool.false_ne_true
    exact congrArg (List.map Site.line) (List.filter_cons_of_neg rejected)
  · have accepted : mode.accepts belowRoot strandedCalls.pruned.snapshot.table strandedCall = true :=
      (accepts_strandedCall_iff strandedCalls.pruned.snapshot.table rfl mode).mpr below
    exact congrArg (List.map Site.line) (List.filter_cons_of_pos accepted)

end SnapshotFile

end CallSieve
