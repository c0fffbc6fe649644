import CallSieve.Proofs.Matcher.Modes
import CallSieve.Proofs.TypeTable.History

namespace CallSieve

variable {t : TypeTable} {x : Site}

/-- What resolves to no method has no symbol, but for a method reference, whose
    symbol is that of the interface it is converted to. -/
theorem Site.Unresolved.symbol_eq_unknown (unresolved : x.Unresolved t)
    (noInterface : x.kind = .methodReference → x.interface = none) : x.symbol t = .unknown := by
  by_cases reference : x.kind = .methodReference
  · simp [symbol, reference, noInterface reference]
  · rw [symbol_eq reference, unresolved.method_eq_none]
    rfl

namespace TypeTable

theorem index_declareMethod (before : List Declaration) (m : MethodDecl) :
    ((ofDeclarations before).declareMethod m).2.index = (declaredMethods before).length := by
  rw [declareMethod, methods_ofDeclarations]

/-- The handle that a table gives out for a method, after any declarations, held
    against a table of any other declarations. It stands there for the method that
    is declared with as many methods before it, whatever its signature is. Only if
    no more methods are declared there than were declared before the handle was
    given out, it stands for nothing, and sites that refer to it are not accepted. -/
theorem resolves_elsewhere (ds before : List Declaration) (m : MethodDecl) :
    let t := ofDeclarations ds
    let id := ((ofDeclarations before).declareMethod m).2
    t.symbol? id = (declaredMethods ds)[(declaredMethods before).length]?.map t.symbolOf ∧
    (t.symbol? id = none ↔ (declaredMethods ds).length ≤ (declaredMethods before).length) ∧
    ((declaredMethods ds).length ≤ (declaredMethods before).length → ∀ x : Site, x.method = some id →
      (x.subject t).symbol = none ∧
        ((x.kind = .methodReference → x.interface = none) → x.symbol t = .unknown) ∧
          ∀ ms mode, Mode.accepts mode ms t x = false) := by
  intro t id
  have resolved : t.symbol? id = (declaredMethods ds)[(declaredMethods before).length]?.map t.symbolOf := by
    rw [symbol?, method?, methods_ofDeclarations, index_declareMethod]
  refine ⟨resolved, ?_, ?_⟩
  · rw [resolved, Option.map_eq_none_iff, List.getElem?_eq_none_iff]
  · intro beyond x named
    have unresolved : x.Unresolved t := by
      intro other isOther
      obtain rfl : id = other := Option.some.inj (named.symm.trans isOther)
      rwa [methods_ofDeclarations, index_declareMethod]
    refine ⟨?_, unresolved.symbol_eq_unknown, fun ms mode => Mode.accepts_of_unresolved unresolved mode⟩
    simp [Site.subject, bind_symbol?, unresolved.method_eq_none]

/-- A class with one method. -/
def drawing : List Declaration := [.ofClass "app.Canvas" [], .method ⟨"app.Canvas", "draw", []⟩]

/-- The handle of the only method of another table. -/
def closeHandle : MethodId := ((ofDeclarations [.ofClass "app.Door" []]).declareMethod ⟨"app.Door", "close", []⟩).2

def strayCall : Site := ⟨3, .invocation, some closeHandle, none, none⟩

def anyMethod : Matchers TypeRef := .single ⟨[.any], [.any], [.any]⟩

/-- A call of the method of one table is taken for a call of an unrelated one. -/
theorem accepts_handle_of_other_table :
    (ofDeclarations drawing).method? closeHandle = some ⟨"app.Canvas", "draw", []⟩ ∧
      (strayCall.symbol (ofDeclarations drawing)).isUnknown = false ∧
        ∀ mode : Mode, mode.accepts anyMethod (ofDeclarations drawing) strayCall = true := by
  refine ⟨rfl, rfl, fun mode => ?_⟩
  cases mode with
  | _ => rfl

end TypeTable

end CallSieve
