/-!
Maps from names to values that remember the order in which names were first set. Setting a name
again replaces its value in place.
-/

namespace SqlComposer

/-- Puts a value under a name: in the name's place if it has one, else at the end. -/
def assign {α : Type} (name : String) (value : α) : List (String × α) → List (String × α)
  | [] => [(name, value)]
  | entry :: rest =>
    if entry.1 = name then (entry.1, value) :: rest else entry :: assign name value rest

def assignAll {α : Type} (settings : List (String × α)) : List (String × α) :=
  settings.foldl (fun entries setting => assign setting.1 setting.2 entries) []

theorem names_assign {α : Type} (name : String) (value : α) (entries : List (String × α)) :
    (assign name value entries).map Prod.fst =
      if name ∈ entries.map Prod.fst then entries.map Prod.fst
      else entries.map Prod.fst ++ [name] := by
  induction entries with
  | nil => simp [assign]
  | cons entry rest ih =>
      by_cases same : entry.1 = name
      · simp [assign, same]
      · have other : ¬ name = entry.1 := fun eq => same eq.symm
        simp only [assign, same, if_false, List.map_cons, ih, List.mem_cons, other, false_or]
        split <;> simp

theorem assign_of_notMem {α : Type} {name : String} (value : α) {entries : List (String × α)}
    (absent : name ∉ entries.map Prod.fst) :
    assign name value entries = entries ++ [(name, value)] := by
  induction entries with
  | nil => rfl
  | cons entry rest ih =>
      rw [List.map_cons, List.mem_cons, not_or] at absent
      have other : ¬ entry.1 = name := fun same => absent.1 same.symm
      rw [assign, if_neg other, ih absent.2, List.cons_append]

theorem nodup_names_assign {α : Type} (name : String) (value : α) {entries : List (String × α)}
    (distinct : (entries.map Prod.fst).Nodup) :
    ((assign name value entries).map Prod.fst).Nodup := by
  rw [names_assign]
  split
  · exact distinct
  · rename_i absent
    rw [List.nodup_append]
    refine ⟨distinct, by simp, ?_⟩
    intro present member other only equal
    rw [List.mem_singleton] at only
    exact absent (by rw [← only, ← equal]; exact member)

theorem assignAll_eq_self {α : Type} {settings : List (String × α)}
    (distinct : (settings.map Prod.fst).Nodup) : assignAll settings = settings := by
  have run : ∀ entries : List (String × α), ((entries ++ settings).map Prod.fst).Nodup →
      settings.foldl (fun entries setting => assign setting.1 setting.2 entries) entries =
        entries ++ settings := by
    clear distinct
    induction settings with
    | nil => intro entries _; simp
    | cons setting rest ih =>
        intro entries distinct
        have absent : setting.1 ∉ entries.map Prod.fst := by
          rw [List.map_append, List.nodup_append] at distinct
          intro present
          exact distinct.2.2 setting.1 present setting.1 (by simp) rfl
        rw [List.foldl_cons, assign_of_notMem setting.2 absent, ih _ (by simpa using distinct)]
        simp
  exact run [] distinct

theorem mem_assign {α : Type} {name : String} {value : α} {entries : List (String × α)}
    {entry : String × α} (member : entry ∈ assign name value entries) :
    entry ∈ entries ∨ entry = (name, value) := by
  induction entries with
  | nil => exact .inr (List.mem_singleton.mp member)
  | cons first rest ih =>
      rw [assign] at member
      split at member
      · rename_i same
        rcases List.mem_cons.mp member with rfl | later
        · exact .inr (by rw [same])
        · exact .inl (List.mem_cons_of_mem first later)
      · rcases List.mem_cons.mp member with rfl | later
        · exact .inl List.mem_cons_self
        · exact (ih later).imp_left (List.mem_cons_of_mem first)

theorem mem_assignAll {α : Type} {settings : List (String × α)} {entry : String × α}
    (member : entry ∈ assignAll settings) : entry ∈ settings := by
  have run : ∀ entries : List (String × α),
      entry ∈ settings.foldl (fun entries setting => assign setting.1 setting.2 entries) entries →
        entry ∈ entries ∨ entry ∈ settings := by
    clear member
    induction settings with
    | nil => intro entries member; exact .inl member
    | cons setting rest ih =>
        intro entries member
        rcases ih _ member with assigned | later
        · rcases mem_assign assigned with earlier | rfl
          · exact .inl earlier
          · exact .inr List.mem_cons_self
        · exact .inr (List.mem_cons_of_mem setting later)
  exact (run [] member).resolve_left (by simp)

structure OrderedMap (α : Type) where
  entries : List (String × α)
  distinct : (entries.map Prod.fst).Nodup

namespace OrderedMap

variable {α : Type}

theorem eq_of_entries {left right : OrderedMap α} (same : left.entries = right.entries) :
    left = right := by
  cases left
  cases right
  cases same
  rfl

instance [DecidableEq α] : DecidableEq (OrderedMap α) := fun left right =>
  match decEq left.entries right.entries with
  | isTrue same => isTrue (eq_of_entries same)
  | isFalse differ => isFalse (fun same => differ (by rw [same]))

def empty : OrderedMap α := ⟨[], List.nodup_nil⟩

instance : Inhabited (OrderedMap α) := ⟨empty⟩

def set (map : OrderedMap α) (name : String) (value : α) : OrderedMap α :=
  ⟨assign name value map.entries, nodup_names_assign name value map.distinct⟩

def ofList (settings : List (String × α)) : OrderedMap α :=
  settings.foldl (fun map setting => map.set setting.1 setting.2) empty

def names (map : OrderedMap α) : List String :=
  map.entries.map Prod.fst

def size (map : OrderedMap α) : Nat :=
  map.entries.length

def isEmpty (map : OrderedMap α) : Bool :=
  map.entries.isEmpty

def get? (map : OrderedMap α) (name : String) : Option α :=
  map.entries.lookup name

theorem entries_ofList (settings : List (String × α)) :
    (ofList settings).entries = assignAll settings := by
  have run : ∀ (map : OrderedMap α),
      (settings.foldl (fun map setting => map.set setting.1 setting.2) map).entries =
        settings.foldl (fun entries setting => assign setting.1 setting.2 entries)
          map.entries := by
    induction settings with
    | nil => intro map; rfl
    | cons setting rest ih => intro map; exact ih (map.set setting.1 setting.2)
  exact run empty

end OrderedMap

end SqlComposer
