import Mathlib.Data.List.Induction
import SqlComposer.OrderedMap

/-!
What settings leave behind. However a map is built from them, it has each name once, in the order
of the first settings, with the value of the name's last setting.
-/

namespace SqlComposer

variable {α : Type}

section Settings

variable {settings entries : List (String × α)} {name : String} {value : α}

theorem lookup_eq_some_iff_mem (distinct : (entries.map Prod.fst).Nodup) :
    entries.lookup name = some value ↔ (name, value) ∈ entries := by
  rw [List.lookup_eq_some_iff]
  constructor
  · rintro ⟨front, back, rfl, _⟩
    simp
  · intro member
    obtain ⟨front, back, rfl⟩ := List.append_of_mem member
    refine ⟨front, back, rfl, ?_⟩
    intro entry present
    rw [List.map_append, List.nodup_append] at distinct
    have apart := distinct.2.2 entry.1 (List.mem_map_of_mem present) name (by simp)
    exact bne_iff_ne.mpr (Ne.symm apart)

def LastSetting (settings : List (String × α)) (name : String) (value : α) : Prop :=
  ∃ before after, settings = before ++ (name, value) :: after ∧ name ∉ after.map Prod.fst

theorem lastSetting_append {setting : String × α} :
    LastSetting (settings ++ [setting]) name value ↔
      setting = (name, value) ∨ setting.1 ≠ name ∧ LastSetting settings name value := by
  constructor
  · rintro ⟨before, after, split, absent⟩
    rcases List.eq_nil_or_concat after with rfl | ⟨init, last, rfl⟩
    · obtain ⟨_, same⟩ := List.append_inj' split rfl
      exact .inl (List.cons.inj same).1
    · rw [List.concat_eq_append] at split absent
      have moved : before ++ (name, value) :: (init ++ [last]) =
          (before ++ (name, value) :: init) ++ [last] := by simp
      obtain ⟨same, ends⟩ := List.append_inj' (split.trans moved) rfl
      cases ends
      rw [List.map_append, List.mem_append, not_or] at absent
      refine .inr ⟨?_, before, init, same, absent.1⟩
      rintro rfl
      exact absent.2 (by simp)
  · rintro (rfl | ⟨other, before, after, rfl, absent⟩)
    · exact ⟨settings, [], rfl, by simp⟩
    · refine ⟨before, after ++ [setting], by simp, ?_⟩
      rw [List.map_append, List.mem_append, not_or]
      exact ⟨absent, by simpa using Ne.symm other⟩

theorem LastSetting.unique {other : α} (left : LastSetting settings name value)
    (right : LastSetting settings name other) : value = other := by
  induction settings using List.reverseRecOn with
  | nil =>
      obtain ⟨before, after, split, _⟩ := left
      simp at split
  | append_singleton settings setting ih =>
      rw [lastSetting_append] at left right
      rcases left with rfl | ⟨differs, left⟩
      · rcases right with same | ⟨differs, _⟩
        · exact (Prod.mk.inj same).2
        · exact absurd rfl differs
      · rcases right with rfl | ⟨_, right⟩
        · exact absurd rfl differs
        · exact ih left right

/-- The entries that settings come to: each name once, where it was first set. -/
structure Settles (settings entries : List (String × α)) : Prop where
  distinct : (entries.map Prod.fst).Nodup
  ordered : entries.map Prod.fst = (settings.map Prod.fst).eraseDups
  last : ∀ entry ∈ entries, LastSetting settings entry.1 entry.2

theorem assignAll_append (settings : List (String × α)) (setting : String × α) :
    assignAll (settings ++ [setting]) = assign setting.1 setting.2 (assignAll settings) := by
  rw [assignAll, List.foldl_append]
  rfl

theorem mem_assign_self (name : String) (value : α) (entries : List (String × α)) :
    (name, value) ∈ assign name value entries := by
  induction entries with
  | nil => exact List.mem_singleton_self (name, value)
  | cons first rest ih =>
      rw [assign]
      split
      · rename_i same
        rw [same]
        exact List.mem_cons_self
      · exact List.mem_cons_of_mem first ih

theorem replaced_of_mem_assign {entry : String × α} (distinct : (entries.map Prod.fst).Nodup)
    (member : entry ∈ assign name value entries) :
    (name, value) = entry ∨ name ≠ entry.1 ∧ entry ∈ entries := by
  by_cases same : name = entry.1
  · -- the new entry has this name too, and no two of them do
    have single := nodup_names_assign name value distinct
    have new := (lookup_eq_some_iff_mem single).mpr (mem_assign_self name value entries)
    have found := (lookup_eq_some_iff_mem single).mpr member
    rw [← same, new] at found
    exact .inl (Prod.ext same (Option.some.inj found))
  · refine .inr ⟨same, (mem_assign member).resolve_right ?_⟩
    rintro rfl
    exact same rfl

theorem settles_assignAll (settings : List (String × α)) :
    Settles settings (assignAll settings) := by
  -- from the last setting back, since that one decides what its name holds
  induction settings using List.reverseRecOn with
  | nil => exact ⟨List.nodup_nil, rfl, by simp [assignAll]⟩
  | append_singleton settings setting ih =>
      rw [assignAll_append]
      refine ⟨nodup_names_assign setting.1 setting.2 ih.distinct, ?_, ?_⟩
      · rw [names_assign, ih.ordered, List.map_append, List.eraseDups_append]
        by_cases known : setting.1 ∈ settings.map Prod.fst
        · simp [known, List.removeAll]
        · simp [known, List.removeAll, List.eraseDups_cons]
      · intro entry member
        rw [lastSetting_append]
        rcases replaced_of_mem_assign ih.distinct member with set | ⟨apart, kept⟩
        · exact .inl set
        · exact .inr ⟨apart, ih.last entry kept⟩

theorem Settles.unique {others : List (String × α)} (left : Settles settings entries)
    (right : Settles settings others) : entries = others := by
  have names : entries.map Prod.fst = others.map Prod.fst := left.ordered.trans right.ordered.symm
  have sizes : entries.length = others.length := by simpa using congrArg List.length names
  apply List.ext_getElem sizes
  intro place inLeft inRight
  have name : entries[place].1 = others[place].1 := by
    have same := List.getElem_of_eq names (by simpa using inLeft)
    simpa using same
  have leftLast := left.last _ (List.getElem_mem inLeft)
  rw [name] at leftLast
  exact Prod.ext name (leftLast.unique (right.last _ (List.getElem_mem inRight)))

theorem Settles.lookup_eq_some_iff (settles : Settles settings entries) :
    entries.lookup name = some value ↔ LastSetting settings name value := by
  rw [lookup_eq_some_iff_mem settles.distinct]
  constructor
  · exact settles.last (name, value)
  · intro last
    have known : name ∈ entries.map Prod.fst := by
      obtain ⟨before, after, rfl, _⟩ := last
      rw [settles.ordered, List.mem_eraseDups]
      simp
    obtain ⟨⟨_, held⟩, member, rfl⟩ := List.mem_map.mp known
    rwa [last.unique (settles.last _ member)]

end Settings

namespace OrderedMap

variable {settings : List (String × α)} {map : OrderedMap α}

/-- The maps that settings are built into: by collecting them, and by setting more behind. -/
inductive BuiltFrom : List (String × α) → OrderedMap α → Prop
  | empty : BuiltFrom [] .empty
  | collected (settings : List (String × α)) : BuiltFrom settings (.ofList settings)
  | set {settings : List (String × α)} {map : OrderedMap α} (built : BuiltFrom settings map)
    (name : String) (value : α) : BuiltFrom (settings ++ [(name, value)]) (map.set name value)

theorem BuiltFrom.entries_eq (built : BuiltFrom settings map) :
    map.entries = assignAll settings := by
  induction built with
  | empty => rfl
  | collected settings => exact entries_ofList settings
  | set built name value ih =>
      rw [assignAll_append, ← ih]
      rfl

theorem builtFrom_iff : BuiltFrom settings map ↔ Settles settings map.entries := by
  constructor
  · intro built
    rw [built.entries_eq]
    exact settles_assignAll settings
  · intro settles
    have same : ofList settings = map := by
      apply eq_of_entries
      rw [entries_ofList]
      exact (settles_assignAll settings).unique settles
    rw [← same]
    exact .collected settings

theorem BuiltFrom.settles_iff (built : BuiltFrom settings map) {entries : List (String × α)} :
    Settles settings entries ↔ entries = map.entries := by
  constructor
  · intro settles
    exact settles.unique (builtFrom_iff.mp built)
  · rintro rfl
    exact builtFrom_iff.mp built

theorem builtFrom_entries_iff {again : OrderedMap α} :
    BuiltFrom map.entries again ↔ again = map := by
  constructor
  · intro built
    apply eq_of_entries
    rw [built.entries_eq, assignAll_eq_self map.distinct]
  · rintro rfl
    have same : ofList again.entries = again := by
      apply eq_of_entries
      rw [entries_ofList, assignAll_eq_self again.distinct]
    have built := BuiltFrom.collected again.entries
    rwa [same] at built

end OrderedMap

end SqlComposer
