import CallSieve.Command.Run
import CallSieve.Disk.Tree
import Mathlib

namespace CallSieve

/-- A run goes on from where its first step ends. -/
theorem run_bind_eq {σ α β : Type} {x : StateM σ α} {f : α → StateM σ β} {start next : σ} {a : α}
    (step : x.run start = (a, next)) : (x >>= f).run start = (f a).run next := by
  rw [StateT.run_bind, step]
  rfl

namespace FileTree

variable {t : FileTree}

theorem run_isFile (p : FilePath) : (disk.isFile p).run t = (t.isFile p, t) := rfl

theorem run_canonical? (p : FilePath) : (disk.canonical? p).run t = (t.canonical? p, t) := rfl

theorem run_filterAuxM_isFile (ps kept : List FilePath) :
    (ps.filterAuxM disk.isFile kept).run t = ((ps.filter t.isFile).reverse ++ kept, t) := by
  induction ps generalizing kept with
  | nil => rfl
  | cons p ps ih =>
    rw [List.filterAuxM, run_bind_eq (run_isFile p), ih]
    cases file : t.isFile p <;> simp [file]

theorem run_filterM_isFile (ps : List FilePath) : (ps.filterM disk.isFile).run t = (ps.filter t.isFile, t) := by
  rw [List.filterM, run_bind_eq (run_filterAuxM_isFile ps []), List.append_nil, List.reverse_reverse]
  rfl

/-- The source is located from the canonical directory of the snapshot. -/
theorem run_source {env : Environment} {given : Option FilePath} {c : Check} {start : FilePath}
    (canonical : (t.canonical? c.directory).getD c.directory = start) :
    (c.source disk env given).run t =
      (.locate ((ConfigSource.candidates start env.globalDir).filter t.isFile).contains start given env.globalDir,
        t) := by
  rw [Check.source, run_bind_eq (run_canonical? c.directory)]
  dsimp only
  rw [canonical, run_bind_eq (run_filterM_isFile _)]
  rfl

end FileTree

end CallSieve
