import CallSieve.Proofs.Except
import CallSieve.Rules

/-!
What a run over tables has collected: one group for each id, in the order in
which the ids first appear, with the matchers of the tables of that id in their
order, and with the message and the severity that one of them sets
(`grouped_of_collect`).
-/

namespace CallSieve

variable {τ α β : Type}

theorem MatcherId.text_injective : Function.Injective MatcherId.text := by
  rintro ⟨a, _, _⟩ ⟨b, _, _⟩ same
  cases same
  rfl

theorem MatcherId.ofString_eq_ok_iff {text : String} {id : MatcherId} :
    MatcherId.ofString text = .ok id ↔ id.text = text := by
  constructor
  · intro done
    rw [ofString] at done
    split at done
    · cases done
    · split at done
      · cases done
        rfl
      · cases done
  · rintro rfl
    simp [ofString, id.nonempty, id.legal]

theorem Severity.parse?_render (s : Severity) : Severity.parse? s.render = some s := by
  cases s <;> simp [parse?, all, render]

theorem Severity.render_injective : Function.Injective Severity.render := by
  intro a b same
  have parsed := parse?_render a
  rw [same, parse?_render b] at parsed
  exact (Option.some.inj parsed).symm

theorem Severity.parse?_eq_some_iff {text : String} {s : Severity} :
    Severity.parse? text = some s ↔ s.render = text := by
  constructor
  · intro found
    simpa using List.find?_some found
  · rintro rfl
    exact parse?_render s

namespace Rules

theorem severityOf_eq_ok_iff {index : Nat} {written : Option String} {severity : Option Severity} :
    severityOf index written = .ok severity ↔ written = severity.map Severity.render := by
  cases written with
  | none => cases severity <;> simp [severityOf]
  | some text =>
    rw [severityOf]
    cases parsed : Severity.parse? text with
    | none =>
      cases severity with
      | none => simp
      | some s =>
        have other : text ≠ s.render := by
          rintro rfl
          simp [Severity.parse?_render] at parsed
        simp [other]
    | some s =>
      obtain rfl := Severity.parse?_eq_some_iff.mp parsed
      cases severity with
      | none => simp
      | some other => simp [Severity.render_injective.eq_iff]

theorem severityOf_eq_error_iff {index : Nat} {written : Option String} {e : RuleError} :
    severityOf index written = .error e ↔
      ∃ text, written = some text ∧ (∀ s : Severity, s.render ≠ text) ∧ e = .unknownSeverity index text := by
  cases written with
  | none => simp [severityOf]
  | some text =>
    rw [severityOf]
    cases parsed : Severity.parse? text with
    | none =>
      have unknown (s : Severity) : s.render ≠ text := by
        rintro rfl
        simp [Severity.parse?_render] at parsed
      constructor
      · intro failed
        cases failed
        exact ⟨text, rfl, unknown, rfl⟩
      · rintro ⟨_, same, -, rfl⟩
        cases same
        rfl
    | some s =>
      obtain rfl := Severity.parse?_eq_some_iff.mp parsed
      simp

theorem addTable_eq_ok_iff {groups next : List (PartialGroup τ)} {t : MatcherTable} {index : Nat} :
    addTable groups (t, index) = .ok next ↔
      ∃ id severity m, id.text = t.id ∧ t.severity = severity.map Severity.render ∧ t.matcher = .ok m ∧
        addToGroups id (·.add index m t.message severity) groups = .ok next := by
  simp only [addTable, bind_eq_ok_iff, mapError_eq_ok_iff, MatcherId.ofString_eq_ok_iff, severityOf_eq_ok_iff]
  constructor
  · rintro ⟨id, named, severity, read, m, built, added⟩
    exact ⟨id, severity, m, named, read, built, added⟩
  · rintro ⟨id, severity, m, named, read, built, added⟩
    exact ⟨id, named, severity, read, m, built, added⟩

/-- A table of this id sets the field to this value. -/
def Sets (field : MatcherTable → Option α) (tables : List MatcherTable) (id : String) (a : α) : Prop :=
  ∃ t ∈ tables, t.id = id ∧ field t = some a

theorem sets_concat_iff {field : MatcherTable → Option α} {tables : List MatcherTable} {t : MatcherTable} {id : String}
    {a : α} : Sets field (tables ++ [t]) id a ↔ Sets field tables id a ∨ t.id = id ∧ field t = some a := by
  simp only [Sets, List.mem_append, List.mem_singleton, or_and_right, exists_or, exists_eq_left]

end Rules

namespace PartialGroup

open Rules (Sets sets_concat_iff)

section

variable [DecidableEq α] [DecidableEq β]

theorem merge?_eq_none_iff {old new : Option α} :
    merge? old new = none ↔ ∃ a b, old = some a ∧ new = some b ∧ a ≠ b := by
  cases old <;> cases new <;> simp [merge?]

theorem merged_eq_some_iff {old new merged : Option α} (done : merge? old new = some merged) {a : α} :
    merged = some a ↔ old = some a ∨ new = some a := by
  cases old with
  | none =>
    cases new <;> cases done <;> simp
  | some b =>
    cases new with
    | none =>
      cases done
      simp
    | some c =>
      by_cases same : b = c
      · simp only [merge?, same, if_true, Option.some.injEq] at done
        simp [← done, same]
      · simp [merge?, same] at done

theorem merge?_map {f : α → β} (injective : f.Injective) (old new : Option α) :
    merge? (old.map f) (new.map f) = (merge? old new).map (Option.map f) := by
  cases old with
  | none => cases new <;> rfl
  | some a =>
    cases new with
    | none => rfl
    | some b => by_cases same : a = b <;> simp [merge?, injective.eq_iff, same]

end

theorem add_eq_ok_iff {g next : PartialGroup τ} {index : Nat} {m : Matcher τ} {message : Option String}
    {severity : Option Severity} :
    g.add index m message severity = .ok next ↔
      ∃ newMessage newSeverity, merge? g.message message = some newMessage ∧
        merge? g.severity severity = some newSeverity ∧ ⟨g.id, g.matchers ++ [m], newMessage, newSeverity⟩ = next := by
  rw [add]
  cases merge? g.message message with
  | none => simp
  | some newMessage => cases merge? g.severity severity <;> simp

theorem add_eq_error_iff {g : PartialGroup τ} {index : Nat} {m : Matcher τ} {message : Option String}
    {severity : Option Severity} {e : RuleError} :
    g.add index m message severity = .error e ↔
      merge? g.message message = none ∧ e = .inconsistent index .message g.id ∨
        merge? g.message message ≠ none ∧ merge? g.severity severity = none ∧
          e = .inconsistent index .severity g.id := by
  rw [add]
  cases merge? g.message message with
  | none => simp [eq_comm]
  | some newMessage => cases merge? g.severity severity <;> simp [eq_comm]

/-- The group is what the tables of its id state. Severities are compared as they are written. -/
structure Collects (g : PartialGroup τ) (tables : List MatcherTable) : Prop where
  matchers : g.matchers.map .ok = (tables.filter (·.id == g.id.text)).map (·.matcher)
  message : ∀ text, g.message = some text ↔ Sets (·.message) tables g.id.text text
  severity : ∀ text, g.severity.map Severity.render = some text ↔ Sets (·.severity) tables g.id.text text

variable {g next : PartialGroup τ} {tables : List MatcherTable} {t : MatcherTable}

theorem collects_empty {id : MatcherId} (absent : ∀ t ∈ tables, t.id ≠ id.text) :
    (empty id : PartialGroup τ).Collects tables where
  matchers := by
    have none : tables.filter (·.id == id.text) = [] := by simpa using absent
    simp [empty, none]
  message text := by
    have unset : ¬ Sets (·.message) tables id.text text := by
      rintro ⟨t, member, named, -⟩
      exact absent t member named
    simp [empty, unset]
  severity text := by
    have unset : ¬ Sets (·.severity) tables id.text text := by
      rintro ⟨t, member, named, -⟩
      exact absent t member named
    simp [empty, unset]

theorem Collects.concat_other (collects : g.Collects tables) (other : t.id ≠ g.id.text) :
    g.Collects (tables ++ [t]) where
  matchers := by simp [collects.matchers, other]
  message text := by simp [sets_concat_iff, collects.message, other]
  severity text := by simp [sets_concat_iff, collects.severity, other]

theorem Collects.concat_own (collects : g.Collects tables) (named : g.id.text = t.id) {severity : Option Severity}
    (read : t.severity = severity.map Severity.render) {m : Matcher τ} (built : t.matcher = .ok m) {index : Nat}
    (added : g.add index m t.message severity = .ok next) : next.id = g.id ∧ next.Collects (tables ++ [t]) := by
  obtain ⟨newMessage, newSeverity, isMessage, isSeverity, rfl⟩ := add_eq_ok_iff.mp added
  refine ⟨rfl, ?_, ?_, ?_⟩
  · simp [collects.matchers, named, built]
  · intro text
    simp [sets_concat_iff, merged_eq_some_iff isMessage, collects.message, named]
  · intro text
    have merged : merge? (g.severity.map Severity.render) t.severity = some (newSeverity.map Severity.render) := by
      rw [read, merge?_map Severity.render_injective, isSeverity]
      rfl
    simp only [sets_concat_iff, merged_eq_some_iff merged, collects.severity, named, true_and]

end PartialGroup

/-! ### All groups -/

namespace Rules

/-- Where the group of an id stands among groups: the first one of that id, or
    an empty one behind all of them. The last part puts another in its place. -/
inductive Place (id : MatcherId) :
    List (PartialGroup τ) → PartialGroup τ → (PartialGroup τ → List (PartialGroup τ)) → Prop
  | known (before after : List (PartialGroup τ)) {old : PartialGroup τ} (first : ∀ g ∈ before, g.id ≠ id)
      (named : old.id = id) : Place id (before ++ old :: after) old fun g => before ++ g :: after
  | new {groups : List (PartialGroup τ)} (absent : ∀ g ∈ groups, g.id ≠ id) :
      Place id groups (.empty id) fun g => groups ++ [g]

variable {groups next : List (PartialGroup τ)} {old : PartialGroup τ} {put : PartialGroup τ → List (PartialGroup τ)}
  {tables : List MatcherTable} {t : MatcherTable} {id : MatcherId} {index : Nat}

theorem exists_place (id : MatcherId) (groups : List (PartialGroup τ)) : ∃ old put, Place id groups old put := by
  induction groups with
  | nil => exact ⟨_, _, .new (by simp)⟩
  | cons g rest ih =>
    by_cases here : g.id = id
    · exact ⟨g, _, .known [] rest (by simp) here⟩
    · obtain ⟨old, put, place⟩ := ih
      cases place with
      | known before after first named =>
        exact ⟨old, _, .known (g :: before) after (by simpa [here] using first) named⟩
      | new absent => exact ⟨_, _, .new (by simpa [here] using absent)⟩

theorem Place.id_eq (place : Place id groups old put) : old.id = id := by
  cases place with
  | known before after first named => exact named
  | new absent => rfl

theorem addToGroups_append (add : PartialGroup τ → Except RuleError (PartialGroup τ)) {before : List (PartialGroup τ)}
    (other : ∀ g ∈ before, g.id ≠ id) (rest : List (PartialGroup τ)) :
    addToGroups id add (before ++ rest) = addToGroups id add rest >>= fun groups => .ok (before ++ groups) := by
  induction before with
  | nil =>
    rw [List.nil_append]
    cases addToGroups id add rest <;> rfl
  | cons g before ih =>
    rw [List.cons_append, addToGroups, if_neg (other g (by simp)), ih fun h member => other h (by simp [member])]
    cases addToGroups id add rest <;> rfl

/-- To add to the group of an id is to change the group at its place. -/
theorem Place.addToGroups_eq (place : Place id groups old put)
    (add : PartialGroup τ → Except RuleError (PartialGroup τ)) :
    addToGroups id add groups = add old >>= fun g => .ok (put g) := by
  cases place with
  | known before after first named =>
    rw [addToGroups_append add first, addToGroups, if_pos named]
    cases add old <;> rfl
  | new absent =>
    have atEnd := addToGroups_append add absent []
    rw [List.append_nil] at atEnd
    rw [atEnd, addToGroups]
    cases add (.empty id) <;> rfl

/-- The groups are those of the tables, in the order in which their ids first appear. -/
structure Grouped (tables : List MatcherTable) (groups : List (PartialGroup τ)) : Prop where
  ids : groups.map (·.id.text) = (tables.map (·.id)).eraseDups
  each : ∀ g ∈ groups, g.Collects tables

theorem eraseDups_concat [DecidableEq α] (l : List α) (a : α) :
    (l ++ [a]).eraseDups = if a ∈ l then l.eraseDups else l.eraseDups ++ [a] := by
  have single : [a].eraseDups = [a] := by simp [List.eraseDups_cons]
  by_cases member : a ∈ l <;> simp [List.eraseDups_append, List.removeAll, member, single]

theorem nodup_eraseDups [DecidableEq α] (l : List α) : l.eraseDups.Nodup := by
  induction l using List.reverseRecOn with
  | nil => simp
  | append_singleton l a ih =>
    rw [eraseDups_concat]
    split
    · exact ih
    · rename_i fresh
      rw [List.nodup_append]
      refine ⟨ih, List.nodup_singleton a, ?_⟩
      rintro b member _ last rfl
      rw [List.mem_singleton.mp last, List.mem_eraseDups] at member
      exact fresh member

namespace Grouped

theorem nodup (grouped : Grouped tables groups) : (groups.map (·.id.text)).Nodup :=
  grouped.ids ▸ nodup_eraseDups _

theorem mem_ids_iff (grouped : Grouped tables groups) {text : String} :
    (∃ g ∈ groups, g.id.text = text) ↔ ∃ t ∈ tables, t.id = text := by
  have same : text ∈ groups.map (·.id.text) ↔ text ∈ (tables.map (·.id)).eraseDups := by rw [grouped.ids]
  simpa using same

theorem collects_place (grouped : Grouped tables groups) (place : Place id groups old put) : old.Collects tables := by
  cases place with
  | known before after first named => exact grouped.each old (by simp)
  | new absent =>
    refine PartialGroup.collects_empty fun t member named => ?_
    obtain ⟨g, known, same⟩ := grouped.mem_ids_iff.mpr ⟨t, member, named⟩
    exact absent g known (MatcherId.text_injective same)

/-- With the group of its id collected, a table is grouped. -/
theorem concat (grouped : Grouped tables groups) (place : Place id groups old put) (named : id.text = t.id)
    {g : PartialGroup τ} (same : g.id = old.id) (collects : g.Collects (tables ++ [t])) :
    Grouped (tables ++ [t]) (put g) := by
  cases place with
  | known before after first isOld =>
    have seen : t.id ∈ tables.map (·.id) := by
      obtain ⟨u, member, sameId⟩ := grouped.mem_ids_iff.mp ⟨old, by simp, rfl⟩
      exact List.mem_map.mpr ⟨u, member, by rw [sameId, isOld, named]⟩
    -- The id is not new, and as ids are distinct no other group has it.
    refine ⟨?_, ?_⟩
    · have ids := eraseDups_concat (tables.map (·.id)) t.id
      rw [if_pos seen, ← grouped.ids] at ids
      simpa [same] using ids.symm
    · intro h member
      have distinct := grouped.nodup
      simp only [List.map_append, List.map_cons, List.nodup_append, List.nodup_cons] at distinct
      rcases List.mem_append.mp member with earlier | later
      · refine (grouped.each h (by simp [earlier])).concat_other fun own => ?_
        exact first h earlier (MatcherId.text_injective (own.symm.trans named.symm))
      · rcases List.mem_cons.mp later with rfl | later
        · exact collects
        · refine (grouped.each h (by simp [later])).concat_other fun own => ?_
          refine distinct.2.1.1 (List.mem_map.mpr ⟨h, later, ?_⟩)
          rw [← own, isOld, named]
  | new absent =>
    have fresh : t.id ∉ tables.map (·.id) := by
      intro seen
      obtain ⟨u, member, sameId⟩ := List.mem_map.mp seen
      obtain ⟨h, known, isId⟩ := grouped.mem_ids_iff.mpr ⟨u, member, sameId.trans named.symm⟩
      exact absent h known (MatcherId.text_injective isId)
    refine ⟨?_, ?_⟩
    · have ids := eraseDups_concat (tables.map (·.id)) t.id
      rw [if_neg fresh, ← grouped.ids, ← named] at ids
      simpa [same, PartialGroup.empty, named] using ids.symm
    · intro h member
      rcases List.mem_append.mp member with earlier | last
      · refine (grouped.each h earlier).concat_other fun own => ?_
        exact absent h earlier (MatcherId.text_injective (own.symm.trans named.symm))
      · rw [List.mem_singleton.mp last]
        exact collects

theorem step (grouped : Grouped tables groups) (added : addTable groups (t, index) = .ok next) :
    Grouped (tables ++ [t]) next := by
  obtain ⟨id, severity, m, named, read, built, added⟩ := addTable_eq_ok_iff.mp added
  obtain ⟨old, put, place⟩ := exists_place id groups
  rw [place.addToGroups_eq, bind_eq_ok_iff] at added
  obtain ⟨g, isNew, done⟩ := added
  cases done
  obtain ⟨same, collects⟩ :=
    (grouped.collects_place place).concat_own (by rw [place.id_eq, named]) read built isNew
  exact grouped.concat place named same collects

end Grouped

/-- The groups of tables, before defaults are set. -/
def collect (tables : List MatcherTable) : Except RuleError (List (PartialGroup τ)) := tables.zipIdx.foldlM addTable []

theorem load_eq_bind_collect (tables : List MatcherTable) :
    (load tables : Except RuleError (List (MatcherGroup τ))) =
      collect tables >>= fun groups => .ok (groups.map (·.finish)) := rfl

theorem collect_append (before after : List MatcherTable) :
    (collect (before ++ after) : Except RuleError (List (PartialGroup τ))) =
      collect before >>= fun groups => (after.zipIdx before.length).foldlM addTable groups := by
  rw [collect, List.zipIdx_append, List.foldlM_append, Nat.zero_add]
  rfl

theorem collect_concat (before : List MatcherTable) (t : MatcherTable) :
    (collect (before ++ [t]) : Except RuleError (List (PartialGroup τ))) =
      collect before >>= fun groups => addTable groups (t, before.length) := by
  rw [collect_append]
  refine congrArg _ (funext fun groups => ?_)
  simp

theorem grouped_of_collect (done : collect tables = .ok groups) : Grouped tables groups := by
  induction tables using List.reverseRecOn generalizing groups with
  | nil =>
    cases done
    exact ⟨rfl, by simp⟩
  | append_singleton before t ih =>
    rw [collect_concat, bind_eq_ok_iff] at done
    obtain ⟨earlier, collected, added⟩ := done
    exact (ih collected).step added

theorem load_eq_ok_iff {loaded : List (MatcherGroup τ)} :
    load tables = .ok loaded ↔ ∃ groups, collect tables = .ok groups ∧ groups.map (·.finish) = loaded := by
  rw [load_eq_bind_collect, bind_eq_ok_iff]
  simp only [Except.ok.injEq]

/-- A matcher of a loaded group is that of a table of its id. -/
theorem matcher_of_load {tables : List MatcherTable} {groups : List (MatcherGroup τ)}
    (loaded : load tables = .ok groups) {g : MatcherGroup τ} (member : g ∈ groups) {m : Matcher τ}
    (inside : m ∈ g.matchers.all) : ∃ t ∈ tables, t.id = g.id.text ∧ t.matcher = .ok m := by
  obtain ⟨partials, collected, rfl⟩ := load_eq_ok_iff.mp loaded
  obtain ⟨g, partialMember, rfl⟩ := List.mem_map.mp member
  have own := ((grouped_of_collect collected).each g partialMember).matchers
  have built : .ok m ∈ (tables.filter (·.id == g.id.text)).map (·.matcher) := own ▸ List.mem_map_of_mem inside
  obtain ⟨t, listed, isMatcher⟩ := List.mem_map.mp built
  obtain ⟨member, named⟩ := List.mem_filter.mp listed
  exact ⟨t, member, beq_iff_eq.mp named, isMatcher⟩

end Rules

end CallSieve
