import Mathlib

namespace CallSieve

variable {ε ε' α β : Type}

theorem bind_eq_ok_iff {x : Except ε α} {f : α → Except ε β} {b : β} :
    x >>= f = .ok b ↔ ∃ a, x = .ok a ∧ f a = .ok b := by
  cases x with
  | error e =>
    constructor
    · intro failed
      cases failed
    · rintro ⟨_, failed, _⟩
      cases failed
  | ok a =>
    constructor
    · intro done
      exact ⟨a, rfl, done⟩
    · rintro ⟨_, same, done⟩
      cases same
      exact done

theorem exists_ok_iff {x : Except ε α} : (∃ a, x = .ok a) ↔ ∀ e, x ≠ .error e := by
  cases x <;> simp

theorem mapError_eq_ok_iff {x : Except ε α} {f : ε → ε'} {a : α} : x.mapError f = .ok a ↔ x = .ok a := by
  cases x with
  | error e =>
    constructor
    · intro done
      cases done
    · intro done
      cases done
  | ok b =>
    constructor
    · intro done
      cases done
      rfl
    · intro done
      cases done
      rfl

theorem bind_eq_error_iff {x : Except ε α} {f : α → Except ε β} {e : ε} :
    x >>= f = .error e ↔ x = .error e ∨ ∃ a, x = .ok a ∧ f a = .error e := by
  cases x with
  | error d =>
    constructor
    · intro failed
      cases failed
      exact .inl rfl
    · rintro (failed | ⟨_, done, _⟩)
      · cases failed
        rfl
      · cases done
  | ok a =>
    constructor
    · intro failed
      exact .inr ⟨a, rfl, failed⟩
    · rintro (failed | ⟨_, same, failed⟩)
      · cases failed
      · cases same
        exact failed

theorem mapError_eq_error_iff {x : Except ε α} {f : ε → ε'} {e : ε'} :
    x.mapError f = .error e ↔ ∃ d, x = .error d ∧ f d = e := by
  cases x with
  | error d =>
    constructor
    · intro failed
      cases failed
      exact ⟨d, rfl, rfl⟩
    · rintro ⟨_, same, rfl⟩
      cases same
      rfl
  | ok a =>
    constructor
    · intro failed
      cases failed
    · rintro ⟨_, failed, _⟩
      cases failed

/-- A run over numbered entries fails at the first one that cannot follow those before it. -/
theorem foldlM_zipIdx_eq_error_iff {step : β → α × Nat → Except ε β} {entries : List α} {start : Nat} {b : β} {e : ε} :
    (entries.zipIdx start).foldlM step b = .error e ↔
      ∃ i a reached, entries[i]? = some a ∧ ((entries.take i).zipIdx start).foldlM step b = .ok reached ∧
        step reached (a, start + i) = .error e := by
  induction entries generalizing start b with
  | nil => simp [pure, Except.pure]
  | cons a rest ih =>
    rw [List.zipIdx_cons, List.foldlM_cons, bind_eq_error_iff]
    simp only [ih]
    constructor
    · rintro (failed | ⟨next, done, i, c, reached, entry, before, failed⟩)
      · exact ⟨0, a, b, rfl, rfl, failed⟩
      · refine ⟨i + 1, c, reached, entry, ?_, by rwa [Nat.add_assoc, Nat.add_comm 1] at failed⟩
        exact bind_eq_ok_iff.mpr ⟨next, done, before⟩
    · rintro ⟨i, c, reached, entry, before, failed⟩
      cases i with
      | zero =>
        cases entry
        cases before
        exact .inl failed
      | succ i =>
        obtain ⟨next, done, before⟩ := bind_eq_ok_iff.mp before
        exact .inr ⟨next, done, i, c, reached, entry, before, by rwa [Nat.add_assoc, Nat.add_comm 1]⟩

/-- A map over numbered entries fails at the first one on which it fails. -/
theorem mapM_zipIdx_eq_error_iff {g : α × Nat → Except ε β} {entries : List α} {start : Nat} {e : ε} :
    (entries.zipIdx start).mapM g = .error e ↔
      ∃ i a done, entries[i]? = some a ∧ ((entries.take i).zipIdx start).mapM g = .ok done ∧
        g (a, start + i) = .error e := by
  induction entries generalizing start with
  | nil => simp [pure, Except.pure]
  | cons a rest ih =>
    rw [List.zipIdx_cons, List.mapM_cons, bind_eq_error_iff]
    simp only [bind_eq_error_iff, ih]
    constructor
    · rintro (failed | ⟨b, first, ⟨i, c, done, entry, before, failed⟩ | ⟨_, _, failed⟩⟩)
      · exact ⟨0, a, [], rfl, rfl, failed⟩
      · refine ⟨i + 1, c, b :: done, entry, ?_, by rwa [Nat.add_assoc, Nat.add_comm 1] at failed⟩
        rw [List.take_succ_cons, List.zipIdx_cons, List.mapM_cons, first, before]
        rfl
      · cases failed
    · rintro ⟨i, c, done, entry, before, failed⟩
      cases i with
      | zero =>
        cases entry
        exact .inl failed
      | succ i =>
        rw [List.take_succ_cons, List.zipIdx_cons, List.mapM_cons] at before
        obtain ⟨b, first, before⟩ := bind_eq_ok_iff.mp before
        obtain ⟨more, before, -⟩ := bind_eq_ok_iff.mp before
        exact .inr ⟨b, first, .inl ⟨i, c, more, entry, before, by rwa [Nat.add_assoc, Nat.add_comm 1]⟩⟩

end CallSieve
