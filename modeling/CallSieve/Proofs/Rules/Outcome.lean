import CallSieve.Proofs.Rules.Loading

namespace CallSieve

variable {τ α : Type}

namespace Rules

/-- Tables of one id that set the field set it to the same value. -/
def Agree (field : MatcherTable → Option α) (tables : List MatcherTable) : Prop :=
  ∀ id a b, Sets field tables id a → Sets field tables id b → a = b

/-- A table sets the field to another value than an earlier one of its id. -/
def Clash (field : MatcherTable → Option α) (before : List MatcherTable) (t : MatcherTable) : Prop :=
  ∃ a b, Sets field before t.id a ∧ field t = some b ∧ a ≠ b

/-- Each table has the text of an id, at most the text of a severity, and fields
    that make a matcher; and tables of one id agree. -/
structure Loadable (τ : Type) (tables : List MatcherTable) : Prop where
  ids : ∀ t ∈ tables, ∃ id : MatcherId, id.text = t.id
  severities : ∀ t ∈ tables, ∀ text, t.severity = some text → ∃ s : Severity, s.render = text
  criteria : ∀ t ∈ tables, ∃ m : Matcher τ, t.matcher = .ok m
  message : Agree (·.message) tables
  severity : Agree (·.severity) tables

/-- The error of the first check that a table fails behind the tables before it,
    in the order id, severity, criteria, message and severity of its group. -/
inductive FirstFailure (τ : Type) (before : List MatcherTable) (t : MatcherTable) (index : Nat) : RuleError → Prop
  | id {e : IdError} (bad : MatcherId.ofString t.id = .error e) : FirstFailure τ before t index (.badId index e)
  | severity {id : MatcherId} (named : id.text = t.id) {text : String} (written : t.severity = some text)
      (unknown : ∀ s : Severity, s.render ≠ text) : FirstFailure τ before t index (.unknownSeverity index text)
  | criteria {id : MatcherId} (named : id.text = t.id) {severity : Option Severity}
      (read : t.severity = severity.map Severity.render) {e : BuildError}
      (bad : (t.matcher : Except BuildError (Matcher τ)) = .error e) :
      FirstFailure τ before t index (.badMatcher index e)
  | groupMessage {id : MatcherId} (named : id.text = t.id) {severity : Option Severity}
      (read : t.severity = severity.map Severity.render) {m : Matcher τ} (built : t.matcher = .ok m)
      (clash : Clash (·.message) before t) : FirstFailure τ before t index (.inconsistent index .message id)
  | groupSeverity {id : MatcherId} (named : id.text = t.id) {severity : Option Severity}
      (read : t.severity = severity.map Severity.render) {m : Matcher τ} (built : t.matcher = .ok m)
      (agrees : ¬ Clash (·.message) before t) (clash : Clash (·.severity) before t) :
      FirstFailure τ before t index (.inconsistent index .severity id)

theorem Sets.mono {field : MatcherTable → Option α} {small large : List MatcherTable} (inside : small ⊆ large)
    {id : String} {a : α} (sets : Sets field small id a) : Sets field large id a := by
  obtain ⟨t, member, named, isSet⟩ := sets
  exact ⟨t, inside member, named, isSet⟩

theorem Agree.mono {field : MatcherTable → Option α} {small large : List MatcherTable} (inside : small ⊆ large)
    (agree : Agree field large) : Agree field small := by
  intro id a b isA isB
  exact agree id a b (isA.mono inside) (isB.mono inside)

theorem agree_concat_iff {field : MatcherTable → Option α} {before : List MatcherTable} {t : MatcherTable} :
    Agree field (before ++ [t]) ↔ Agree field before ∧ ¬ Clash field before t := by
  constructor
  · intro agree
    refine ⟨agree.mono (List.subset_append_left _ _), ?_⟩
    rintro ⟨a, b, earlier, isSet, differ⟩
    exact differ (agree t.id a b (sets_concat_iff.mpr (.inl earlier)) (sets_concat_iff.mpr (.inr ⟨rfl, isSet⟩)))
  · rintro ⟨agree, none⟩ id a b isA isB
    rcases sets_concat_iff.mp isA with earlierA | ⟨namedA, lastA⟩ <;>
      rcases sets_concat_iff.mp isB with earlierB | ⟨namedB, lastB⟩
    · exact agree id a b earlierA earlierB
    · by_contra differ
      exact none ⟨a, b, namedB ▸ earlierA, lastB, differ⟩
    · by_contra differ
      exact none ⟨b, a, namedA ▸ earlierB, lastA, Ne.symm differ⟩
    · exact Option.some.inj (lastA.symm.trans lastB)

theorem Loadable.mono {small large : List MatcherTable} (inside : small ⊆ large) (loadable : Loadable τ large) :
    Loadable τ small where
  ids t member := loadable.ids t (inside member)
  severities t member := loadable.severities t (inside member)
  criteria t member := loadable.criteria t (inside member)
  message := loadable.message.mono inside
  severity := loadable.severity.mono inside

theorem loadable_nil : Loadable τ [] where
  ids := by simp
  severities := by simp
  criteria := by simp
  message := by simp [Agree, Sets]
  severity := by simp [Agree, Sets]

variable {before tables : List MatcherTable} {t : MatcherTable}

/-- The last of tables that load fails no check behind the others. -/
theorem Loadable.not_firstFailure {index : Nat} {e : RuleError} (loadable : Loadable τ (before ++ [t])) :
    ¬ FirstFailure τ before t index e := by
  have last : t ∈ before ++ [t] := by simp
  intro failure
  cases failure with
  | id bad =>
    obtain ⟨id, named⟩ := loadable.ids t last
    rw [MatcherId.ofString_eq_ok_iff.mpr named] at bad
    cases bad
  | severity named written unknown =>
    obtain ⟨s, isText⟩ := loadable.severities t last _ written
    exact unknown s isText
  | criteria named read bad =>
    obtain ⟨m, built⟩ := loadable.criteria t last
    rw [built] at bad
    cases bad
  | groupMessage named read built clash => exact (agree_concat_iff.mp loadable.message).2 clash
  | groupSeverity named read built agrees clash => exact (agree_concat_iff.mp loadable.severity).2 clash

/-- What fails no check is sound by itself and agrees with what comes before. -/
theorem Loadable.concat {index : Nat} (loadable : Loadable τ before) (passes : ∀ e, ¬ FirstFailure τ before t index e) :
    Loadable τ (before ++ [t]) := by
  -- Each check is only known to be passed once those before it are.
  obtain ⟨id, named⟩ : ∃ id : MatcherId, id.text = t.id := by
    cases isId : MatcherId.ofString t.id with
    | ok id => exact ⟨id, MatcherId.ofString_eq_ok_iff.mp isId⟩
    | error e => exact absurd (.id isId) (passes _)
  obtain ⟨severity, read⟩ : ∃ severity : Option Severity, t.severity = severity.map Severity.render := by
    cases isSeverity : severityOf index t.severity with
    | ok severity => exact ⟨severity, severityOf_eq_ok_iff.mp isSeverity⟩
    | error e =>
      obtain ⟨text, written, unknown, -⟩ := severityOf_eq_error_iff.mp isSeverity
      exact absurd (.severity named written unknown) (passes _)
  obtain ⟨m, built⟩ : ∃ m : Matcher τ, t.matcher = .ok m := by
    cases built : (t.matcher : Except BuildError (Matcher τ)) with
    | ok m => exact ⟨m, rfl⟩
    | error e => exact absurd (.criteria named read built) (passes _)
  have noMessage : ¬ Clash (·.message) before t := fun clash => passes _ (.groupMessage named read built clash)
  have noSeverity : ¬ Clash (·.severity) before t := fun clash =>
    passes _ (.groupSeverity named read built noMessage clash)
  refine ⟨?_, ?_, ?_, agree_concat_iff.mpr ⟨loadable.message, noMessage⟩,
    agree_concat_iff.mpr ⟨loadable.severity, noSeverity⟩⟩
  · simpa [or_imp, forall_and] using ⟨loadable.ids, id, named⟩
  · simp only [List.mem_append, List.mem_singleton, or_imp, forall_and, forall_eq]
    refine ⟨loadable.severities, fun text written => ?_⟩
    obtain ⟨s, -, isText⟩ := Option.map_eq_some_iff.mp (read.symm.trans written)
    exact ⟨s, isText⟩
  · simpa [or_imp, forall_and] using ⟨loadable.criteria, m, built⟩

variable {groups : List (PartialGroup τ)} {index : Nat} {e : RuleError}

/-- What a group has of its earlier tables is all that a merge has to look at. -/
theorem merge?_eq_none_iff_clash [DecidableEq α] {field : MatcherTable → Option α} {old : Option α}
    (known : ∀ a, old = some a ↔ Sets field before t.id a) :
    PartialGroup.merge? old (field t) = none ↔ Clash field before t := by
  simp only [PartialGroup.merge?_eq_none_iff, known, Clash]

/-- A table that is sound by itself fails by what it sets for its group, the message first. -/
theorem Grouped.addToGroups_eq_error_iff (grouped : Grouped before groups) {id : MatcherId} (named : id.text = t.id)
    {severity : Option Severity} (read : t.severity = severity.map Severity.render) {m : Matcher τ} :
    addToGroups id (·.add index m t.message severity) groups = .error e ↔
      Clash (·.message) before t ∧ e = .inconsistent index .message id ∨
        ¬ Clash (·.message) before t ∧ Clash (·.severity) before t ∧ e = .inconsistent index .severity id := by
  obtain ⟨old, put, place⟩ := exists_place id groups
  have collects := grouped.collects_place place
  have own : old.id.text = t.id := by rw [place.id_eq, named]
  have message : PartialGroup.merge? old.message t.message = none ↔ Clash (·.message) before t :=
    merge?_eq_none_iff_clash fun text => own ▸ collects.message text
  have severity : PartialGroup.merge? old.severity severity = none ↔ Clash (·.severity) before t := by
    rw [← merge?_eq_none_iff_clash fun text => own ▸ collects.severity text, read,
      PartialGroup.merge?_map Severity.render_injective, Option.map_eq_none_iff]
  rw [place.addToGroups_eq, bind_eq_error_iff, or_iff_left (by simp), PartialGroup.add_eq_error_iff, message, severity,
    ne_eq, message, place.id_eq]

/-- A table fails where it comes by the first check that it fails. -/
theorem Grouped.addTable_eq_error_iff (grouped : Grouped before groups) :
    addTable groups (t, index) = .error e ↔ FirstFailure τ before t index e := by
  simp only [addTable, bind_eq_error_iff, mapError_eq_error_iff, mapError_eq_ok_iff, MatcherId.ofString_eq_ok_iff,
    severityOf_eq_ok_iff, severityOf_eq_error_iff]
  constructor
  · rintro (⟨e, bad, rfl⟩ | ⟨id, named, failed⟩)
    · exact .id bad
    rcases failed with ⟨text, written, unknown, rfl⟩ | ⟨severity, read, failed⟩
    · exact .severity named written unknown
    rcases failed with ⟨e, bad, rfl⟩ | ⟨m, built, failed⟩
    · exact .criteria named read bad
    rcases (grouped.addToGroups_eq_error_iff named read).mp failed with ⟨clash, rfl⟩ | ⟨agrees, clash, rfl⟩
    · exact .groupMessage named read built clash
    · exact .groupSeverity named read built agrees clash
  · intro failure
    cases failure with
    | id bad => exact .inl ⟨_, bad, rfl⟩
    | @severity id named text written unknown => exact .inr ⟨id, named, .inl ⟨text, written, unknown, rfl⟩⟩
    | @criteria id named severity read e bad => exact .inr ⟨id, named, .inr ⟨severity, read, .inl ⟨e, bad, rfl⟩⟩⟩
    | @groupMessage id named severity read m built clash =>
      refine .inr ⟨id, named, .inr ⟨severity, read, .inr ⟨m, built, ?_⟩⟩⟩
      exact (grouped.addToGroups_eq_error_iff named read).mpr (.inl ⟨clash, rfl⟩)
    | @groupSeverity id named severity read m built agrees clash =>
      refine .inr ⟨id, named, .inr ⟨severity, read, .inr ⟨m, built, ?_⟩⟩⟩
      exact (grouped.addToGroups_eq_error_iff named read).mpr (.inr ⟨agrees, clash, rfl⟩)

theorem Grouped.exists_addTable_iff (grouped : Grouped before groups) :
    (∃ next, addTable groups (t, index) = .ok next) ↔ ∀ e, ¬ FirstFailure τ before t index e := by
  rw [exists_ok_iff]
  exact forall_congr' fun e => not_congr grouped.addTable_eq_error_iff

theorem exists_collect_iff : (∃ groups : List (PartialGroup τ), collect tables = .ok groups) ↔ Loadable τ tables := by
  induction tables using List.reverseRecOn with
  | nil => exact iff_of_true ⟨[], rfl⟩ loadable_nil
  | append_singleton before t ih =>
    rw [collect_concat]
    constructor
    · rintro ⟨next, done⟩
      obtain ⟨groups, collected, added⟩ := bind_eq_ok_iff.mp done
      exact (ih.mp ⟨groups, collected⟩).concat ((grouped_of_collect collected).exists_addTable_iff.mp ⟨next, added⟩)
    · intro loadable
      obtain ⟨groups, collected⟩ := ih.mpr (loadable.mono (List.subset_append_left _ _))
      obtain ⟨next, added⟩ :=
        (grouped_of_collect collected).exists_addTable_iff.mpr fun e => loadable.not_firstFailure
      exact ⟨next, bind_eq_ok_iff.mpr ⟨groups, collected, added⟩⟩

theorem exists_load_iff : (∃ groups : List (MatcherGroup τ), load tables = .ok groups) ↔ Loadable τ tables := by
  rw [← exists_collect_iff]
  simp only [load_eq_ok_iff]
  constructor
  · rintro ⟨_, groups, collected, -⟩
    exact ⟨groups, collected⟩
  · rintro ⟨groups, collected⟩
    exact ⟨_, groups, collected, rfl⟩

theorem load_eq_error_iff_collect :
    (load tables : Except RuleError (List (MatcherGroup τ))) = .error e ↔
      (collect tables : Except RuleError (List (PartialGroup τ))) = .error e := by
  rw [load_eq_bind_collect, bind_eq_error_iff, or_iff_left (by simp)]

/-- An error is final: it does not depend on the tables behind. -/
theorem collect_append_of_error (failed : (collect before : Except RuleError (List (PartialGroup τ))) = .error e)
    (after : List MatcherTable) :
    (collect (before ++ after) : Except RuleError (List (PartialGroup τ))) = .error e := by
  rw [collect_append, failed]
  rfl

theorem collect_eq_error_iff :
    (collect tables : Except RuleError (List (PartialGroup τ))) = .error e ↔
      ∃ before t after, tables = before ++ t :: after ∧ Loadable τ before ∧
        FirstFailure τ before t before.length e := by
  constructor
  · intro failed
    induction tables using List.reverseRecOn with
    | nil => cases failed
    | append_singleton before t ih =>
      rw [collect_concat, bind_eq_error_iff] at failed
      rcases failed with earlier | ⟨groups, collected, added⟩
      · obtain ⟨first, u, after, rfl, loadable, failure⟩ := ih earlier
        exact ⟨first, u, after ++ [t], by simp, loadable, failure⟩
      · exact ⟨before, t, [], rfl, exists_collect_iff.mp ⟨groups, collected⟩,
          (grouped_of_collect collected).addTable_eq_error_iff.mp added⟩
  · rintro ⟨before, t, after, rfl, loadable, failure⟩
    obtain ⟨groups, collected⟩ := exists_collect_iff.mpr loadable
    have failed : (collect (before ++ [t]) : Except RuleError (List (PartialGroup τ))) = .error e := by
      rw [collect_concat, collected]
      exact (grouped_of_collect collected).addTable_eq_error_iff.mpr failure
    simpa using collect_append_of_error failed after

/-- The place of the first table that cannot follow those before it. -/
theorem isLeast_unloadable_iff {i : Nat} (inside : i < tables.length) :
    IsLeast {i | ¬ Loadable τ (tables.take (i + 1))} i ↔
      Loadable τ (tables.take i) ∧ ¬ Loadable τ (tables.take (i + 1)) := by
  constructor
  · rintro ⟨fails, least⟩
    refine ⟨?_, fails⟩
    cases i with
    | zero => exact loadable_nil
    | succ j =>
      by_contra earlier
      exact absurd (least earlier) (by simp)
  · rintro ⟨loadable, fails⟩
    refine ⟨fails, fun j earlier => ?_⟩
    by_contra below
    refine earlier (loadable.mono ?_)
    exact (List.take_prefix_take_left (by omega)).subset

/-- The group has the matchers of the tables of its id, in their order, and the
    message and the severity that these set, or else the defaults. -/
structure Unites (g : MatcherGroup τ) (tables : List MatcherTable) : Prop where
  matchers : g.matchers.all.map .ok = (tables.filter (·.id == g.id.text)).map (·.matcher)
  message : ∀ text, Sets (·.message) tables g.id.text text → g.message = text
  messageUnset : (∀ text, ¬ Sets (·.message) tables g.id.text text) →
    g.message = "call matched by `" ++ g.id.text ++ "`"
  severity : ∀ text, Sets (·.severity) tables g.id.text text → g.severity.render = text
  severityUnset : (∀ text, ¬ Sets (·.severity) tables g.id.text text) → g.severity = .warning

theorem unites_finish {g : PartialGroup τ} (collects : g.Collects tables) : Unites g.finish tables where
  matchers := collects.matchers
  message text isSet := by
    have known := (collects.message text).mpr isSet
    simp [PartialGroup.finish, known]
  messageUnset unset := by
    have unknown : g.message = none := Option.eq_none_iff_forall_ne_some.mpr fun text known =>
      unset text ((collects.message text).mp known)
    simp [PartialGroup.finish, unknown]
  severity text isSet := by
    obtain ⟨s, known, isText⟩ := Option.map_eq_some_iff.mp ((collects.severity text).mpr isSet)
    simp [PartialGroup.finish, known, isText]
  severityUnset unset := by
    have unknown : g.severity = none := Option.eq_none_iff_forall_ne_some.mpr fun s known =>
      unset s.render ((collects.severity s.render).mp (by rw [known]; rfl))
    simp [PartialGroup.finish, unknown]

theorem unites_of_load {groups : List (MatcherGroup τ)} (loaded : load tables = .ok groups) {g : MatcherGroup τ}
    (member : g ∈ groups) : Unites g tables := by
  obtain ⟨collected, done, rfl⟩ := load_eq_ok_iff.mp loaded
  obtain ⟨unfinished, known, rfl⟩ := List.mem_map.mp member
  exact unites_finish ((grouped_of_collect done).each unfinished known)

/-- What becomes of any tables. They load if each is sound and those of one id
    agree. Then there is one group for each id, in the order in which the ids first
    appear, and it unites the tables of its id. If they do not load, the error is
    that of the first table up to which they do not, by the first check that this
    table fails; and it stays the same whatever tables follow. -/
theorem load_outcome (tables : List MatcherTable) :
    ((∃ groups : List (MatcherGroup τ), load tables = .ok groups) ↔ Loadable τ tables) ∧
    (∀ groups : List (MatcherGroup τ), load tables = .ok groups →
      (groups.map (·.id)).Nodup ∧ groups.map (·.id.text) = (tables.map (·.id)).eraseDups ∧
        ∀ g ∈ groups, Unites g tables) ∧
    (∀ e, (load tables : Except RuleError (List (MatcherGroup τ))) = .error e ↔
      ∃ i t, IsLeast {i | ¬ ∃ groups : List (MatcherGroup τ), load (tables.take (i + 1)) = .ok groups} i ∧
        tables[i]? = some t ∧ FirstFailure τ (tables.take i) t i e) ∧
    ∀ e more, (load tables : Except RuleError (List (MatcherGroup τ))) = .error e →
      (load (tables ++ more) : Except RuleError (List (MatcherGroup τ))) = .error e := by
  refine ⟨exists_load_iff, ?_, ?_, ?_⟩
  · intro loaded done
    obtain ⟨groups, collected, rfl⟩ := load_eq_ok_iff.mp done
    have grouped := grouped_of_collect collected
    refine ⟨?_, ?_, ?_⟩
    · refine List.Nodup.of_map MatcherId.text ?_
      simpa [List.map_map, Function.comp_def, PartialGroup.finish] using grouped.nodup
    · rw [← grouped.ids, List.map_map]
      rfl
    · intro g member
      obtain ⟨collected, known, rfl⟩ := List.mem_map.mp member
      exact unites_finish (grouped.each collected known)
  · intro e
    simp only [exists_load_iff, load_eq_error_iff_collect, collect_eq_error_iff]
    constructor
    · rintro ⟨before, t, after, rfl, loadable, failure⟩
      have earlier : (before ++ t :: after).take before.length = before := List.take_left
      have upTo : (before ++ t :: after).take (before.length + 1) = before ++ [t] := List.take_length_add_append 1
      refine ⟨before.length, t, (isLeast_unloadable_iff (by simp)).mpr ?_, by simp, by rwa [earlier]⟩
      rw [earlier, upTo]
      exact ⟨loadable, fun extended => extended.not_firstFailure failure⟩
    · rintro ⟨i, t, least, isTable, failure⟩
      obtain ⟨inside, isTable⟩ := List.getElem?_eq_some_iff.mp isTable
      refine ⟨tables.take i, t, tables.drop (i + 1), ?_, ((isLeast_unloadable_iff inside).mp least).1, ?_⟩
      · rw [← isTable, List.getElem_cons_drop, List.take_append_drop]
      · rwa [List.length_take_of_le inside.le]
  · intro e more failed
    rw [load_eq_error_iff_collect] at failed ⊢
    exact collect_append_of_error failed more

example : (load [
      { id := "run", anyType := true, names := ["run"], anyParameters := true },
      { id := "make", anyType := true, constructors := true, anyParameters := true },
      { id := "run", anyType := true, names := ["start"], anyParameters := true, message := some "task" }] :
    Except RuleError (List (MatcherGroup τ))).map (List.map fun g => (g.id.text, g.matchers.all.length, g.message)) =
      .ok [("run", 2, "task"), ("make", 1, "call matched by `make`")] := rfl

end Rules

end CallSieve
