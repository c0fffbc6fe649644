import CallSieve.Proofs.Matcher.Acceptance
import CallSieve.Proofs.TypeTable.History

/-!
What a table says of a type rests on the names that are listed on its way up.
Tables that agree on names closed under what is listed have the same supertypes
and subtypes there (`AgreeOn`). So a declaration shows only in the types that
mention its name, and matchers without tests of their own give the same answer
for all others (`declare_frame`).
-/

namespace CallSieve

namespace TypeTable

/-- The name of a type and the root, and with each declared name all that its
    declaration lists. -/
inductive Mentions (t : TypeTable) (a : String) : String → Prop where
  | self : Mentions t a a
  | root : Mentions t a rootName
  | listed {b c : String} {d : TypeDecl} (mentioned : Mentions t a b) (found : t.find? b = some d)
      (listed : c ∈ d.supers) : Mentions t a c

/-- The tables have the same declarations for some names. The root is one of
    these, and so is all that is listed for one of them. -/
structure AgreeOn (names : String → Prop) (t u : TypeTable) : Prop where
  same : ∀ n, names n → t.find? n = u.find? n
  root : names rootName
  listed : ∀ n d, names n → t.find? n = some d → ∀ b ∈ d.supers, names b

variable {t u : TypeTable} {names : String → Prop} {a b c : String}

namespace AgreeOn

theorem symm (agree : AgreeOn names t u) : AgreeOn names u t where
  same n inside := (agree.same n inside).symm
  root := agree.root
  listed n d inside found := agree.listed n d inside ((agree.same n inside).trans found)

theorem contains_eq (agree : AgreeOn names t u) (inside : names a) : t.contains a = u.contains a := by
  rw [contains, contains, agree.same a inside]

/-- Whether a class has the root for an implicit supertype is up to the kinds of
    the names that it lists. -/
theorem superNames_eq (agree : AgreeOn names t u) {d : TypeDecl} (inside : names a) (found : t.find? a = some d) :
    t.superNames d = u.superNames d := by
  have sameClasses : (d.supers.any fun s => (t.find? s).map (·.kind) == some .classKind) =
      d.supers.any fun s => (u.find? s).map (·.kind) == some .classKind := by
    rw [Bool.eq_iff_iff, List.any_eq_true, List.any_eq_true]
    refine exists_congr fun s => and_congr_right fun listed => ?_
    rw [agree.same s (agree.listed a d inside found s listed)]
  rw [superNames, superNames, hasImplicitRoot, hasImplicitRoot, sameClasses]

theorem names_superNames (agree : AgreeOn names t u) {d : TypeDecl} (inside : names a) (found : t.find? a = some d)
    (above : b ∈ t.superNames d) : names b := by
  rcases mem_superNames_iff.mp above with listed | ⟨-, rfl⟩
  · exact agree.listed a d inside found b listed
  · exact agree.root

theorem extends_of_extends (agree : AgreeOn names t u) (inside : names a) (above : t.Extends a b) :
    names b ∧ u.Extends a b := by
  obtain ⟨declared, d, found, listed⟩ := above
  have bInside := agree.names_superNames inside found listed
  refine ⟨bInside, ?_, d, ?_, ?_⟩
  · rwa [← agree.contains_eq bInside]
  · rwa [← agree.same a inside]
  · rwa [← agree.superNames_eq inside found]

/-- A chain that starts at one of the names never leaves them. -/
theorem chain_of_chain (agree : AgreeOn names t u) (inside : names a) (path : Relation.ReflTransGen t.Extends a b) :
    names b ∧ Relation.ReflTransGen u.Extends a b := by
  induction path with
  | refl => exact ⟨inside, .refl⟩
  | tail _ above ih =>
    obtain ⟨inside, above⟩ := agree.extends_of_extends ih.1 above
    exact ⟨inside, ih.2.tail above⟩

theorem decl_get (agree : AgreeOn names t u) (inside : names a) : (t.get a).decl = (u.get a).decl :=
  agree.same a inside

theorem decl_supers_get (agree : AgreeOn names t u) (inside : names a) :
    (Hierarchy.supers (t.get a)).map TypeRef.decl = (Hierarchy.supers (u.get a)).map TypeRef.decl := by
  cases found : t.find? a with
  | none =>
    have foundOther : u.find? a = none := agree.same a inside ▸ found
    simp [Hierarchy.supers, TypeRef.supers, get, found, foundOther]
  | some d =>
    have foundOther : u.find? a = some d := agree.same a inside ▸ found
    have sameDecls : ∀ b ∈ t.superNames d, (t.get b).decl = (u.get b).decl :=
      fun b above => agree.decl_get (agree.names_superNames inside found above)
    simpa [Hierarchy.supers, TypeRef.supers, get, found, foundOther, ← agree.superNames_eq inside found] using sameDecls

theorem isSubtype_eq (agree : AgreeOn names t u) (inside : names a) (n : String) :
    Hierarchy.isSubtype (t.get a) n = Hierarchy.isSubtype (u.get a) n := by
  rw [Bool.eq_iff_iff, isSubtype_get_iff, isSubtype_get_iff, agree.contains_eq inside]
  refine and_congr_right fun _ => ⟨fun path => (agree.chain_of_chain inside path).2, fun path => ?_⟩
  exact (agree.symm.chain_of_chain inside path).2

theorem within (agree : AgreeOn names t u) (inside : names a) : Hierarchy.Within (t.get a) (u.get a) :=
  within_get_of_isSubtype fun n subtype => agree.isSubtype_eq inside n ▸ subtype

theorem meets_eq (agree : AgreeOn names t u) {m : Matcher TypeRef} (plain : m.isPlain = true) {d : MethodDecl}
    (inside : ∀ n ∈ a :: d.parameters, names n) :
    m.meets (t.get a) d.name (d.parameters.map t.get) = m.meets (u.get a) d.name (d.parameters.map u.get) := by
  rw [Bool.eq_iff_iff]
  constructor
  · exact m.meets_get_mono plain fun n member => agree.within (inside n member)
  · exact m.meets_get_mono plain fun n member => agree.symm.within (inside n member)

end AgreeOn

theorem Mentions.trans (lower : t.Mentions a b) (upper : t.Mentions b c) : t.Mentions a c := by
  induction upper with
  | self => exact lower
  | root => exact .root
  | listed _ found listed ih => exact .listed ih found listed

/-- Names that hold the root and all that is listed for them hold what a member mentions. -/
theorem Mentions.of_closed {closed : List String} (root : rootName ∈ closed)
    (listed : ∀ n ∈ closed, ∀ d ∈ t.find? n, ∀ b ∈ d.supers, b ∈ closed) (inside : a ∈ closed)
    (mentioned : t.Mentions a b) : b ∈ closed := by
  induction mentioned with
  | self => exact inside
  | root => exact root
  | listed _ found member ih => exact listed _ ih _ found _ member

/-- Types that do not mention a name list none that do. They mention the root,
    so that does not mention the name either. -/
theorem agreeOn_declare {d : TypeDecl} (outside : ¬ t.Mentions a d.name) :
    AgreeOn (fun n => ¬ t.Mentions n d.name) t (t.declare d) where
  same n outside := by
    have other : d.name ≠ n := by
      rintro rfl
      exact outside .self
    rw [find?_declare, if_neg other]
  root mentioned := outside (Mentions.root.trans mentioned)
  listed n e outside found b listed mentioned := outside ((Mentions.self.listed found listed).trans mentioned)

theorem meets_declare {d : TypeDecl} {m : Matcher TypeRef} (plain : m.isPlain = true) {method : MethodDecl}
    (outside : ∀ n ∈ a :: method.parameters, ¬ t.Mentions n d.name) :
    m.meets ((t.declare d).get a) method.name (method.parameters.map (t.declare d).get) =
      m.meets (t.get a) method.name (method.parameters.map t.get) :=
  have agree := agreeOn_declare (outside a List.mem_cons_self)
  (agree.meets_eq plain outside).symm

theorem accepts_declare {d : TypeDecl} {ms : Matchers TypeRef} (plain : ms.isPlain = true) {mode : Mode} {x : Site}
    (outside : ∀ n, mode.Asks t x n → ¬ t.Mentions n d.name) :
    mode.accepts ms (t.declare d) x = mode.accepts ms t x := by
  rw [Bool.eq_iff_iff, Mode.accepts_iff, Mode.accepts_iff, method?_eq_of_methods_eq (methods_declare t d)]
  refine exists_congr fun method => and_congr_right fun found => and_congr_right fun allowed => ?_
  refine exists_congr fun m => and_congr_right fun member => ?_
  rw [meets_declare (List.all_eq_true.mp plain m member) fun n asked => outside n ⟨method, found, allowed, asked⟩]

theorem acceptsSymbol_declare {d : TypeDecl} {ms : Matchers TypeRef} (plain : ms.isPlain = true) {method : MethodDecl}
    (outside : ∀ n ∈ method.owner :: method.parameters, ¬ t.Mentions n d.name) :
    ms.acceptsSymbol ((t.declare d).symbolOf method) = ms.acceptsSymbol (t.symbolOf method) := by
  simp only [Matchers.acceptsSymbol, Matcher.acceptsSymbol, Matcher.acceptsResolved_symbolOf, Option.getD_none]
  rw [Bool.eq_iff_iff, List.any_eq_true, List.any_eq_true]
  refine exists_congr fun m => and_congr_right fun member => ?_
  rw [meets_declare (List.all_eq_true.mp plain m member) outside]

/-- What is declared for a name, be it new or in the place of a type of any kind,
    shows only in types that mention the name. All others keep their
    declaration, their direct supertypes and their subtype test, and a site or a
    symbol with no other types is accepted by the same matchers as before. -/
theorem declare_frame (t : TypeTable) (d : TypeDecl) :
    (∀ a, ¬ t.Mentions a d.name →
      ((t.declare d).get a).decl = (t.get a).decl ∧
      (Hierarchy.supers ((t.declare d).get a)).map TypeRef.decl = (Hierarchy.supers (t.get a)).map TypeRef.decl ∧
      ∀ n, Hierarchy.isSubtype ((t.declare d).get a) n = Hierarchy.isSubtype (t.get a) n) ∧
    ∀ ms : Matchers TypeRef, ms.isPlain = true →
      (∀ (mode : Mode) (x : Site), (∀ a, mode.Asks t x a → ¬ t.Mentions a d.name) →
        mode.accepts ms (t.declare d) x = mode.accepts ms t x) ∧
      ∀ m : MethodDecl, (∀ a ∈ m.owner :: m.parameters, ¬ t.Mentions a d.name) →
        ms.acceptsSymbol ((t.declare d).symbolOf m) = ms.acceptsSymbol (t.symbolOf m) := by
  constructor
  · intro a outside
    have agree := (agreeOn_declare outside).symm
    exact ⟨agree.decl_get outside, agree.decl_supers_get outside, agree.isSubtype_eq outside⟩
  · intro ms plain
    exact ⟨fun mode x => accepts_declare plain, fun m => acceptsSymbol_declare plain⟩

/-- A class below another one, and an interface that lists it. -/
def familyTable : TypeTable :=
  .ofDeclarations [.ofClass "app.Base" ["lib.Missing"], .ofClass "app.Leaf" ["app.Base"],
    .ofInterface "app.Face" ["app.Leaf"], .method ⟨"app.Base", "run", ["app.Leaf"]⟩]

/-- A class in the place of the interface. -/
def faceClass : TypeDecl := ⟨"app.Face", .classKind, []⟩

def onLeaf : Site := ⟨3, .invocation, some ⟨0⟩, some "app.Leaf", none⟩

/-- Methods of one class and below, with a parameter of the other. -/
def takingLeaf : Matchers TypeRef := .single ⟨[.subtypeOf "app.Base"], [.any], [.exactly [.exact "app.Leaf"]]⟩

theorem not_mentions_face : ∀ n ∈ ["app.Leaf", "app.Base"], ¬ familyTable.Mentions n faceClass.name := by
  intro n member mentioned
  have inside : n ∈ ["app.Leaf", "app.Base", "lib.Missing", rootName] :=
    List.mem_append_left ["lib.Missing", rootName] member
  exact absurd (mentioned.of_closed (by decide) (by decide) inside) (by decide)

theorem declare_faceClass :
    (∀ n ∈ ["app.Leaf", "app.Base"], ¬ familyTable.Mentions n faceClass.name) ∧ takingLeaf.isPlain = true ∧
    (∀ n, Hierarchy.isSubtype ((familyTable.declare faceClass).get "app.Leaf") n =
      Hierarchy.isSubtype (familyTable.get "app.Leaf") n) ∧
    Mode.tree.accepts takingLeaf (familyTable.declare faceClass) onLeaf =
      Mode.tree.accepts takingLeaf familyTable onLeaf ∧
    takingLeaf.acceptsSymbol ((familyTable.declare faceClass).symbolOf ⟨"app.Base", "run", ["app.Leaf"]⟩) =
      takingLeaf.acceptsSymbol (familyTable.symbolOf ⟨"app.Base", "run", ["app.Leaf"]⟩) := by
  obtain ⟨types, matchers⟩ := declare_frame familyTable faceClass
  obtain ⟨sites, symbols⟩ := matchers takingLeaf rfl
  refine ⟨not_mentions_face, rfl, (types "app.Leaf" (not_mentions_face _ (by decide))).2.2, ?_, ?_⟩
  · refine sites .tree onLeaf fun n asked => not_mentions_face n ?_
    obtain ⟨m, found, -, member⟩ := asked
    cases found
    have isLeaf : n = "app.Leaf" := by simpa [Mode.ownerName, onLeaf] using member
    simp [isLeaf]
  · exact symbols _ fun n member => not_mentions_face n (by simpa [or_comm] using member)

end TypeTable

end CallSieve
