import CallSieve.Check
import CallSieve.Proofs.Catalog.Selection

namespace CallSieve

variable {τ : Type}

namespace Entry

theorem id_injective : Function.Injective id := fun _ _ same => code_injective (congrArg MatcherId.text same)

theorem nodup_all : all.Nodup := by decide

end Entry

namespace Selection

variable {items others : List String}

theorem entries_eq_of_picked
    (same : ∀ e : Entry, (∃ item ∈ items, e.PickedBy item) ↔ ∃ item ∈ others, e.PickedBy item) :
    entries items = entries others := by
  refine List.filter_congr fun e _ => ?_
  rw [Bool.eq_iff_iff, List.any_eq_true, List.any_eq_true]
  simpa only [picks_iff] using same e

theorem isKnown_iff {item : String} : isKnown item = true ↔ ∃ e : Entry, e.PickedBy item := by
  simp only [← picks_iff, isKnown, picks, List.contains_iff_mem]
  constructor
  · intro known
    obtain ⟨each, found⟩ := Option.isSome_iff_exists.mp known
    rw [found]
    rw [entriesOf?] at found
    split at found
    · next p _ =>
      obtain rfl := Option.some.inj found
      exact p.exists_holds.imp fun _ => Preset.mem_entries_iff.mpr
    · obtain ⟨e, -, rfl⟩ := Option.map_eq_some_iff.mp found
      exact ⟨e, List.mem_singleton_self e⟩
  · rintro ⟨e, inside⟩
    cases found : entriesOf? item with
    | none => simp [found] at inside
    | some each => rfl

theorem mem_unknown_pick_iff {item : String} :
    item ∈ (pick items).unknown ↔ item ∈ items ∧ ¬ ∃ e : Entry, e.PickedBy item := by
  rw [unknown_pick, List.mem_filter, ← isKnown_iff, Bool.not_eq_true', Bool.not_eq_true]

/-- Neither unknown items count nor how often an item stands in a selection, and where. -/
theorem entries_eq_of_known (same : ∀ item, (∃ e : Entry, e.PickedBy item) → (item ∈ items ↔ item ∈ others)) :
    entries items = entries others := by
  refine entries_eq_of_picked fun e => exists_congr fun item => ?_
  exact and_congr_left fun picked => same item ⟨e, picked⟩

theorem mem_entries_append_iff {e : Entry} :
    e ∈ entries (items ++ others) ↔ e ∈ entries items ∨ e ∈ entries others := by
  simp only [mem_entries_iff, List.mem_append, or_and_right, exists_or]

theorem nodup_entries (items : List String) : (entries items).Nodup := Entry.nodup_all.filter _

theorem entries_map_code (items : List String) : entries ((entries items).map (·.code)) = entries items := by
  refine entries_eq_of_picked fun e => ?_
  constructor
  · rintro ⟨_, member, picked⟩
    obtain ⟨d, inside, rfl⟩ := List.mem_map.mp member
    obtain rfl := pickedBy_code_iff.mp picked
    exact mem_entries_iff.mp inside
  · intro picked
    exact ⟨e.code, List.mem_map_of_mem (mem_entries_iff.mpr picked), .byCode⟩

/-- The codes are gathered in the order of the items, the groups are made in that of the catalog. -/
theorem codes_pick_perm (items : List String) : (pick items).codes.Perm ((entries items).map (·.code)) := by
  refine (List.perm_ext_iff_of_nodup (nodup_codes_pick items) ?_).mpr fun code => ?_
  · exact (nodup_entries items).map Entry.code_injective
  · rw [mem_codes_pick_iff, List.mem_map]
    simp only [mem_entries_iff, picks_iff]
    constructor
    · rintro ⟨item, member, e, picked, same⟩
      exact ⟨e, ⟨item, member, picked⟩, same⟩
    · rintro ⟨e, ⟨item, member, picked⟩, same⟩
      exact ⟨item, member, e, picked, same⟩

theorem nodup_ids (items : List String) : ((groups items : List (MatcherGroup τ)).map (·.id)).Nodup := by
  have distinct := (nodup_entries items).map Entry.id_injective
  rwa [groups, List.map_map]

theorem map_id_groups (items : List String) :
    (groups items : List (MatcherGroup τ)).map (·.id.text) = (entries items).map (·.code) := by
  rw [groups, List.map_map]
  rfl

theorem mem_groups_append_iff {g : MatcherGroup τ} :
    g ∈ groups (items ++ others) ↔ g ∈ groups items ∨ g ∈ groups others := by
  simp only [groups, List.mem_map, mem_entries_append_iff, or_and_right, exists_or]

theorem entries_ofText_eq {text other : String} (same : ∀ item, Lists text item ↔ Lists other item) :
    entries (ofText text) = entries (ofText other) := by
  apply entries_eq_of_known
  intro item _
  rw [mem_ofText_iff, mem_ofText_iff]
  exact same item

/-- Every selection builds the groups of the entries that an item picks, each once and
    in the order of the catalog, from the codes that are gathered item by item. Items that
    pick nothing are passed over. Selections that have the same items, these left aside,
    build the same; one put behind another adds its groups; and the ids of what is built
    select the same again. Of a text that is given for a check it only matters what stands
    between its commas. -/
theorem resolve_picked :
    (∀ items, ∃ built : List (MatcherGroup τ), resolve items = .ok built ∧
      (∀ g, g ∈ built ↔ ∃ item ∈ items, ∃ e : Entry, e.PickedBy item ∧ e.buildGroup = .ok g) ∧
      (built.map (·.id)).Nodup ∧
      (∃ catalog, Entry.all.mapM Entry.buildGroup = .ok catalog ∧ built.Sublist catalog) ∧
      (pick items).codes.Perm (built.map (·.id.text)) ∧
      (∀ item, item ∈ (pick items).unknown ↔ item ∈ items ∧ ¬ ∃ e : Entry, e.PickedBy item) ∧
      (∀ others, (∀ item, (∃ e : Entry, e.PickedBy item) → (item ∈ items ↔ item ∈ others)) →
        resolve others = .ok built) ∧
      (∀ others, ∃ more both : List (MatcherGroup τ), resolve others = .ok more ∧
        resolve (items ++ others) = .ok both ∧ ∀ g, g ∈ both ↔ g ∈ built ∨ g ∈ more) ∧
      resolve (built.map (·.id.text)) = .ok built) ∧
    ∀ (c : Check) (config : Config τ) (text other : String), (∀ item, Lists text item ↔ Lists other item) →
      { c with presets := some text }.groups config = { c with presets := some other }.groups config := by
  constructor
  · intro items
    refine ⟨groups items, resolve_eq items, fun g => mem_groups_iff, nodup_ids items, ?_, ?_,
      fun item => mem_unknown_pick_iff, ?_, ?_, ?_⟩
    · exact ⟨_, Entry.mapM_buildGroup _, List.filter_sublist.map _⟩
    · rw [map_id_groups]
      exact codes_pick_perm items
    · intro others same
      rw [resolve_eq, groups, groups, entries_eq_of_known same]
    · intro others
      exact ⟨_, _, resolve_eq others, resolve_eq (items ++ others), fun g => mem_groups_append_iff⟩
    · rw [resolve_eq, map_id_groups, groups, entries_map_code, groups]
  · intro c config text other same
    have resolved : (resolve (ofText text) : Except PresetError (List (MatcherGroup τ))) = resolve (ofText other) := by
      rw [resolve_eq, resolve_eq, groups, groups, entries_ofText_eq same]
    exact congrArg (fun r => return (← r) ++ config.groups) resolved

end Selection

end CallSieve
