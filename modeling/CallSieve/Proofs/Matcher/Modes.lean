import CallSieve.Proofs.Matcher.Acceptance
import CallSieve.Proofs.TypeTable.History

/-!
A site can be matched as a node or by the symbol handed out for it
(`accepts_node_and_symbol`). Both ways ask the same of it where its call site
says no more than the owner of its method. Below that owner the node is accepted
for whatever types pass on to their subtypes, and the symbol of a method
reference is never accepted.
-/

namespace CallSieve

open Hierarchy (isSubtype)

/-- What a type meets by the criterion, its subtypes meet. -/
def TypeCriterion.isInherited {τ : Type} : TypeCriterion τ → Bool
  | any | subtypeOf _ => true
  | exact _ | predicate _ => false

namespace Site

variable {t : TypeTable} {x : Site}

/-- The site has no call site, or it is the owner of its method. -/
def AtOwner (t : TypeTable) (x : Site) : Prop :=
  match x.kind with
  | .declaration | .newClass => True
  | .invocation => ∀ r d, x.receiver = some r → x.method.bind t.method? = some d → r = d.owner
  | .methodReference => False

/-- The site is a call on a subtype of the owner of its method. -/
def BelowOwner (t : TypeTable) (x : Site) : Prop :=
  x.kind = .invocation ∧
    ∀ d, x.method.bind t.method? = some d → ∃ r, x.receiver = some r ∧ isSubtype (t.get r) d.owner = true

/-- The site has no handle, or one that no method of the table has. -/
def Unresolved (t : TypeTable) (x : Site) : Prop := ∀ id, x.method = some id → t.methods.length ≤ id.index

theorem Unresolved.method_eq_none (unresolved : x.Unresolved t) : x.method.bind t.method? = none := by
  rw [Option.bind_eq_none_iff]
  intro id named
  exact List.getElem?_eq_none (unresolved id named)

theorem AtOwner.kind_ne (atOwner : x.AtOwner t) : x.kind ≠ .methodReference := by
  intro reference
  simp [AtOwner, reference] at atOwner

/-- The node is matched against the same type as the symbol. -/
theorem AtOwner.ownerName_eq (atOwner : x.AtOwner t) {d : MethodDecl} (found : x.method.bind t.method? = some d) :
    Mode.tree.ownerName x d = d.owner := by
  cases kind : x.kind with
  | invocation =>
    simp only [AtOwner, kind] at atOwner
    cases receiver : x.receiver with
    | none => simp [Mode.ownerName, kind, receiver]
    | some r => simp [Mode.ownerName, kind, receiver, atOwner r d receiver found]
  | declaration => simp [Mode.ownerName, kind]
  | newClass => simp [Mode.ownerName, kind]
  | methodReference => exact absurd kind atOwner.kind_ne

end Site

section

variable {t : TypeTable} {x : Site} {ms : Matchers TypeRef}

theorem Mode.accepts_symbol_of_reference (reference : x.kind = .methodReference) :
    Mode.symbol.accepts ms t x = false := by
  rw [Bool.eq_false_iff]
  intro accepted
  obtain ⟨-, -, allowed, -⟩ := accepts_iff.mp accepted
  exact allowed rfl reference

theorem Mode.accepts_of_unresolved (unresolved : x.Unresolved t) (mode : Mode) : mode.accepts ms t x = false := by
  rw [Bool.eq_false_iff]
  intro accepted
  obtain ⟨d, found, -⟩ := accepts_iff.mp accepted
  simp [unresolved.method_eq_none] at found

theorem Mode.accepts_tree_eq_symbol (atOwner : x.AtOwner t) :
    Mode.tree.accepts ms t x = Mode.symbol.accepts ms t x := by
  rw [Bool.eq_iff_iff, accepts_iff, accepts_iff]
  refine exists_congr fun d => and_congr_right fun found => ?_
  have sameOwner : Mode.tree.ownerName x d = Mode.symbol.ownerName x d := atOwner.ownerName_eq found
  rw [sameOwner]
  simp [atOwner.kind_ne]

theorem TypeCriterion.accepts_of_isSubtype {c : TypeCriterion TypeRef} (inherited : c.isInherited = true)
    {lower upper : String} (below : isSubtype (t.get lower) upper = true) (accepted : c.accepts (t.get upper) = true) :
    c.accepts (t.get lower) = true := by
  cases c with
  | any => rfl
  | subtypeOf n => exact TypeTable.isSubtype_get_trans below accepted
  | exact n => cases inherited
  | predicate test => cases inherited

theorem Mode.accepts_tree_of_symbol (belowOwner : x.BelowOwner t)
    (inherited : ∀ m ∈ ms.all, ∀ c ∈ m.types, c.isInherited = true)
    (accepted : Mode.symbol.accepts ms t x = true) : Mode.tree.accepts ms t x = true := by
  obtain ⟨d, found, -, m, member, met⟩ := accepts_iff.mp accepted
  obtain ⟨isCall, onReceiver⟩ := belowOwner
  obtain ⟨r, receiver, below⟩ := onReceiver d found
  have owner : Mode.tree.ownerName x d = r := by simp [ownerName, isCall, receiver]
  refine accepts_iff.mpr ⟨d, found, by simp, m, member, ?_⟩
  simp only [Matcher.meets, Bool.and_eq_true, List.any_eq_true] at met ⊢
  obtain ⟨⟨⟨c, cMember, typeAccepted⟩, nameAccepted⟩, paramsAccepted⟩ := met
  refine ⟨⟨⟨c, cMember, ?_⟩, nameAccepted⟩, paramsAccepted⟩
  rw [owner]
  exact c.accepts_of_isSubtype (inherited m member c cMember) below typeAccepted

end

/-- A site as a node beside the symbol handed out for it, whatever the matchers
    test. A method reference has no symbol that is accepted; where the call site
    is no other type than the owner both are accepted alike; on a subtype of the
    owner the node is accepted if the symbol is, by criteria that are inherited;
    and what refers to no method of the table is accepted neither way. -/
theorem Matchers.accepts_node_and_symbol (ms : Matchers TypeRef) (t : TypeTable) (x : Site) :
    (x.kind = .methodReference → ms.acceptsSymbol (x.symbol t) = false) ∧
    (x.AtOwner t → ms.accepts (x.subject t) = ms.acceptsSymbol (x.symbol t)) ∧
    (x.BelowOwner t → (∀ m ∈ ms.all, ∀ c ∈ m.types, c.isInherited = true) →
      ms.acceptsSymbol (x.symbol t) = true → ms.accepts (x.subject t) = true) ∧
    (x.Unresolved t → ms.accepts (x.subject t) = false ∧ ms.acceptsSymbol (x.symbol t) = false) := by
  refine ⟨?_, ?_, ?_, ?_⟩
  · exact Mode.accepts_symbol_of_reference
  · exact Mode.accepts_tree_eq_symbol
  · exact Mode.accepts_tree_of_symbol
  · intro unresolved
    exact ⟨Mode.accepts_of_unresolved unresolved .tree, Mode.accepts_of_unresolved unresolved .symbol⟩

/-- A class with a method, and a class that extends it. -/
def extendedTable : TypeTable :=
  .ofDeclarations [.ofClass "app.Base" [], .ofClass "app.Leaf" ["app.Base"], .method ⟨"app.Base", "run", []⟩]

def leafCall : Site := ⟨3, .invocation, some ⟨0⟩, some "app.Leaf", none⟩

/-- Every method of the owner and what is below it. -/
def belowBase : Matchers TypeRef := .single ⟨[.subtypeOf "app.Base"], [.any], [.any]⟩

theorem isSubtype_leaf : isSubtype (extendedTable.get "app.Leaf") "app.Base" = true := by
  have above : extendedTable.Extends "app.Leaf" "app.Base" := ⟨by decide, _, rfl, by decide⟩
  exact TypeTable.isSubtype_get_iff.mpr ⟨by decide, .single above⟩

theorem belowOwner_leafCall : leafCall.BelowOwner extendedTable := by
  refine ⟨rfl, fun d found => ⟨"app.Leaf", rfl, ?_⟩⟩
  cases found
  exact isSubtype_leaf

theorem accepts_symbol_leafCall : Mode.symbol.accepts belowBase extendedTable leafCall = true := by
  have reflexive : isSubtype (extendedTable.get "app.Base") "app.Base" = true :=
    TypeTable.isSubtype_get_iff.mpr ⟨by decide, .refl⟩
  have found : leafCall.method.bind extendedTable.method? = some ⟨"app.Base", "run", []⟩ := rfl
  have noReference : leafCall.kind ≠ .methodReference := by decide
  exact (Mode.accepts_subtypeOf_iff found fun _ => noReference).mpr reflexive

theorem Matchers.accepts_leafCall :
    belowBase.acceptsSymbol (leafCall.symbol extendedTable) = true ∧
    belowBase.accepts (leafCall.subject extendedTable) = true ∧
    belowBase.accepts ({ leafCall with receiver := none }.subject extendedTable) = true ∧
    belowBase.acceptsSymbol ({ leafCall with kind := .methodReference }.symbol extendedTable) = false ∧
    belowBase.accepts ({ leafCall with method := some ⟨1⟩ }.subject extendedTable) = false := by
  have inherited : ∀ m ∈ belowBase.all, ∀ c ∈ m.types, c.isInherited = true := by
    simp [belowBase, Matchers.single, TypeCriterion.isInherited]
  have atOwner : { leafCall with receiver := none }.AtOwner extendedTable := by
    intro r d receiver
    cases receiver
  have unresolved : { leafCall with method := some ⟨1⟩ }.Unresolved extendedTable := by
    intro id named
    cases named
    decide
  have onNode := (accepts_node_and_symbol belowBase extendedTable leafCall).2.2.1
  have unqualified := (accepts_node_and_symbol belowBase extendedTable { leafCall with receiver := none }).2.1
  have asReference := (accepts_node_and_symbol belowBase extendedTable { leafCall with kind := .methodReference }).1
  have onNothing := (accepts_node_and_symbol belowBase extendedTable { leafCall with method := some ⟨1⟩ }).2.2.2
  refine ⟨accepts_symbol_leafCall, ?_, ?_, asReference rfl, (onNothing unresolved).1⟩
  · exact onNode belowOwner_leafCall inherited accepts_symbol_leafCall
  · rw [unqualified atOwner]
    exact accepts_symbol_leafCall

end CallSieve
