import CallSieve.Catalog.Selection
import CallSieve.Proofs.Matcher.Building
import CallSieve.Proofs.Text.Pieces

/-!
An item picks an entry if it is the name or the code of the entry, or the name of a
preset that has it (`picks_iff`). No name stands for two of these, so the order in
which they are looked up does not matter. What items pick one after the other is
what any of them picks, and all of it builds (`resolve_eq`).
-/

namespace CallSieve

/-- The entries that a preset stands for. -/
def Preset.Holds : Preset → Entry → Prop
  | recommended, e => e ∈ [Entry.stringPrimitiveConstructor, .randomFloatToInt, .inappropriateRegexp, .streamPeek]
  | security, e => e ∈ [Entry.sqlInjection, .sessionAttribute, .envVariables]
  | all, _ => True

/-- The texts that stand for an entry. -/
inductive Entry.PickedBy (e : Entry) : String → Prop
  | ofPreset {p : Preset} (holds : p.Holds e) : PickedBy e p.name
  | byName : PickedBy e e.name
  | byCode : PickedBy e e.code

namespace Preset

theorem parse?_name (p : Preset) : parse? p.name = some p := by
  cases p <;> decide

theorem name_of_parse? {text : String} {p : Preset} (parsed : parse? text = some p) : p.name = text :=
  eq_of_beq (List.find?_some (p := fun p : Preset => p.name == text) parsed)

theorem mem_entries_iff {p : Preset} {e : Entry} : e ∈ p.entries ↔ p.Holds e := by
  cases p with
  | recommended => exact Iff.rfl
  | security => exact Iff.rfl
  | all => cases e <;> simp [entries, Entry.all, Holds]

/-- No preset is without entries. -/
theorem exists_holds (p : Preset) : ∃ e, p.Holds e := by
  cases p with
  | recommended => exact ⟨.streamPeek, by simp [Holds]⟩
  | security => exact ⟨.envVariables, by simp [Holds]⟩
  | all => exact ⟨.streamPeek, trivial⟩

end Preset

namespace Entry

theorem mem_all (e : Entry) : e ∈ all := by
  cases e <;> decide

theorem find?_name (e : Entry) : find? e.name = some e := by
  cases e <;> decide

theorem find?_code (e : Entry) : find? e.code = some e := by
  cases e <;> decide

theorem code_injective : Function.Injective code := by
  intro d e same
  have found := find?_code d
  rw [same, find?_code] at found
  exact (Option.some.inj found).symm

theorem eq_of_find? {key : String} {e : Entry} (found : find? key = some e) : e.name = key ∨ e.code = key := by
  have named := List.find?_some (p := fun e : Entry => e.name == key || e.code == key) found
  simpa using named

/-- No name or code of an entry is the name of a preset. -/
theorem parse?_name (e : Entry) : Preset.parse? e.name = none := by
  cases e <;> decide

theorem parse?_code (e : Entry) : Preset.parse? e.code = none := by
  cases e <;> decide

variable {τ : Type}

theorem build_eq (e : Entry) : (e.build : Except BuildError (Matchers τ)) = .ok e.matchers := by
  cases e <;> rfl

theorem buildGroup_eq (e : Entry) : (e.buildGroup : Except PresetError (MatcherGroup τ)) = .ok e.group := by
  have isId : MatcherId.ofString e.code = .ok e.id := by cases e <;> rfl
  rw [buildGroup, build_eq, isId]
  rfl

theorem mapM_buildGroup (entries : List Entry) :
    (entries.mapM buildGroup : Except PresetError (List (MatcherGroup τ))) = .ok (entries.map (·.group)) := by
  have each : (buildGroup : Entry → Except PresetError (MatcherGroup τ)) = fun e => pure e.group :=
    funext buildGroup_eq
  rw [each, List.mapM_pure]
  rfl

end Entry

namespace Selection

/-- An item stands in a text: it is not empty, and it is what is left of one of the
    texts between the commas without the white space around it. -/
def Lists (text item : String) : Prop :=
  item ≠ "" ∧ ∃ parts : List (List Char), [','].intercalate parts = text.toList ∧ (∀ p ∈ parts, ',' ∉ p) ∧
    ∃ part ∈ parts, Text.Trims part item.toList

theorem mem_ofText_iff {text item : String} : item ∈ ofText text ↔ Lists text item := by
  have trimmed_iff (part : List Char) : Text.trimmed (String.ofList part) = item ↔ Text.Trims part item.toList := by
    rw [← Text.trimmedChars_eq_iff, Text.trimmed, String.toList_ofList, ← String.toList_inj, String.toList_ofList]
  have parts_iff : item ∈ (Text.pieces ',' text).map Text.trimmed ↔
      ∃ part ∈ Text.cut ',' text.toList, Text.Trims part item.toList := by
    simp only [Text.pieces, List.map_map, List.mem_map, Function.comp_apply, trimmed_iff]
  rw [ofText, List.mem_filter, parts_iff, Lists, and_comm]
  refine and_congr (by simp) ⟨?_, ?_⟩
  · rintro ⟨part, member, trims⟩
    obtain ⟨-, free, whole⟩ := Text.cut_eq_iff.mp (Eq.refl (Text.cut ',' text.toList))
    exact ⟨_, whole, free, part, member, trims⟩
  · rintro ⟨parts, whole, free, part, member, trims⟩
    have same : Text.cut ',' text.toList = parts :=
      Text.cut_eq_iff.mpr ⟨List.ne_nil_of_mem member, free, whole⟩
    exact ⟨part, same ▸ member, trims⟩

theorem picks_iff {item : String} {e : Entry} : picks item e = true ↔ e.PickedBy item := by
  constructor
  · intro picked
    rw [picks, List.contains_iff_mem, entriesOf?] at picked
    cases parsed : Preset.parse? item with
    | some p =>
      rw [parsed] at picked
      exact Preset.name_of_parse? parsed ▸ .ofPreset (Preset.mem_entries_iff.mp picked)
    | none =>
      cases found : Entry.find? item with
      | none => simp [parsed, found] at picked
      | some d =>
        obtain rfl : e = d := by simpa [parsed, found] using picked
        rcases Entry.eq_of_find? found with rfl | rfl
        · exact .byName
        · exact .byCode
  · intro picked
    rw [picks, List.contains_iff_mem, entriesOf?]
    cases picked with
    | ofPreset holds => rw [Preset.parse?_name]; exact Preset.mem_entries_iff.mpr holds
    | byName => simp [Entry.parse?_name, Entry.find?_name]
    | byCode => simp [Entry.parse?_code, Entry.find?_code]

/-- A code stands for its own entry only. -/
theorem pickedBy_code_iff {e d : Entry} : e.PickedBy d.code ↔ e = d := by
  rw [← picks_iff, picks, entriesOf?, Entry.parse?_code, Entry.find?_code]
  simp

theorem mem_entries_iff {items : List String} {e : Entry} : e ∈ entries items ↔ ∃ item ∈ items, e.PickedBy item := by
  simp only [entries, List.mem_filter, e.mem_all, true_and, List.any_eq_true, picks_iff]

/-- What each step adds is all that a run adds. -/
theorem foldl_iff {σ β : Type} {step : σ → β → σ} (holds : σ → Prop) (adds : β → Prop)
    (each : ∀ s b, holds (step s b) ↔ holds s ∨ adds b) (l : List β) (s : σ) :
    holds (l.foldl step s) ↔ holds s ∨ ∃ b ∈ l, adds b := by
  induction l generalizing s with
  | nil => simp
  | cons b rest ih => rw [List.foldl_cons, ih, each, or_assoc, List.exists_mem_cons_iff]

namespace Picked

variable {p : Picked} {e : Entry} {item code : String}

theorem mem_codes_addEntry : code ∈ (p.addEntry e).codes ↔ code ∈ p.codes ∨ e.code = code := by
  rw [addEntry]
  split
  · next there =>
    rw [List.contains_iff_mem] at there
    exact (or_iff_left_of_imp fun same => same ▸ there).symm
  · rw [List.mem_append, List.mem_singleton, eq_comm (a := code)]

theorem nodup_addEntry (distinct : p.codes.Nodup) (e : Entry) : (p.addEntry e).codes.Nodup := by
  rw [addEntry]
  split
  · exact distinct
  · next fresh =>
    rw [List.contains_iff_mem] at fresh
    exact List.nodup_append_comm.mp (List.nodup_cons.mpr ⟨fresh, distinct⟩)

theorem unknown_foldl_addEntry (entries : List Entry) : (entries.foldl addEntry p).unknown = p.unknown := by
  induction entries generalizing p with
  | nil => rfl
  | cons e rest ih =>
    rw [List.foldl_cons, ih, addEntry]
    split <;> rfl

theorem mem_codes_addItem :
    code ∈ (p.addItem item).codes ↔ code ∈ p.codes ∨ ∃ e, picks item e = true ∧ e.code = code := by
  simp only [picks, List.contains_iff_mem, addItem]
  cases entriesOf? item with
  | none => simp
  | some entries => exact foldl_iff (code ∈ ·.codes) (·.code = code) (fun _ _ => mem_codes_addEntry) entries p

theorem nodup_addItem (distinct : p.codes.Nodup) (item : String) : (p.addItem item).codes.Nodup := by
  rw [addItem]
  split
  · exact List.foldlRecOn (motive := fun p : Picked => p.codes.Nodup) _ _ distinct
      fun _ distinct e _ => nodup_addEntry distinct e
  · exact distinct

/-- An item that is not known is passed over, and no other. -/
theorem unknown_addItem : (p.addItem item).unknown = p.unknown ++ [item].filter (!isKnown ·) := by
  rw [addItem]
  cases found : entriesOf? item with
  | none => simp [isKnown, found]
  | some entries => simp [isKnown, found, unknown_foldl_addEntry]

end Picked

theorem mem_codes_pick_iff {items : List String} {code : String} :
    code ∈ (pick items).codes ↔ ∃ item ∈ items, ∃ e, picks item e = true ∧ e.code = code := by
  have each := foldl_iff (fun p : Picked => code ∈ p.codes) (fun item => ∃ e, picks item e = true ∧ e.code = code)
    (fun _ _ => Picked.mem_codes_addItem) items {}
  exact each.trans (or_iff_right List.not_mem_nil)

theorem nodup_codes_pick (items : List String) : (pick items).codes.Nodup :=
  List.foldlRecOn (motive := fun p : Picked => p.codes.Nodup) _ _ List.nodup_nil
    fun _ distinct item _ => Picked.nodup_addItem distinct item

theorem unknown_pick (items : List String) : (pick items).unknown = items.filter (!isKnown ·) := by
  induction items using List.reverseRecOn with
  | nil => rfl
  | append_singleton items item ih =>
    rw [pick, List.foldl_append, ← pick, List.foldl_cons, List.foldl_nil, Picked.unknown_addItem, ih,
      List.filter_append]

/-- The codes that are picked stand for the entries that any item picks. -/
theorem withCodes_pick (items : List String) : Entry.withCodes (pick items).codes = entries items := by
  refine List.filter_congr fun e _ => ?_
  rw [Bool.eq_iff_iff, List.contains_iff_mem, mem_codes_pick_iff, List.any_eq_true]
  refine exists_congr fun item => and_congr_right fun _ => ?_
  simp only [Entry.code_injective.eq_iff, exists_eq_right]

variable {τ : Type}

theorem resolve_eq (items : List String) :
    (resolve items : Except PresetError (List (MatcherGroup τ))) = .ok (groups items) := by
  rw [resolve, withCodes_pick, Entry.mapM_buildGroup, groups]

theorem mem_groups_iff {items : List String} {g : MatcherGroup τ} :
    g ∈ groups items ↔ ∃ item ∈ items, ∃ e : Entry, e.PickedBy item ∧ e.buildGroup = .ok g := by
  simp only [groups, List.mem_map, mem_entries_iff, Entry.buildGroup_eq, Except.ok.injEq]
  constructor
  · rintro ⟨e, ⟨item, member, picked⟩, rfl⟩
    exact ⟨item, member, e, picked, rfl⟩
  · rintro ⟨item, member, e, picked, rfl⟩
    exact ⟨e, ⟨item, member, picked⟩, rfl⟩

end Selection

end CallSieve
