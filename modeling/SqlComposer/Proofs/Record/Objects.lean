import SqlComposer.Proofs.Record.Cells
import SqlComposer.Proofs.Record.Settings
import SqlComposer.Record.Document

/-!
Rows as JSON objects. The object of a document comes back from the row of its columns. A row that
repeats a column shows the last value of that column in its object, and by its name the first.
-/

namespace SqlComposer

theorem Value.toJson_ofJson (document : Json) : (ofJson document).toJson = document := by
  cases document with
  | number n =>
      cases n with
      | integer n range =>
          rw [ofJson]
          by_cases small : n < 2 ^ 63
          · have exact : (Int64.ofInt n).toInt = n := Int64.toInt_ofInt_of_le range.1 small
            simp [ofNumber_signed small, toJson, Json.ofInt64, exact]
          · have exact : ((UInt64.ofNat n.toNat).toNat : Int) = n := by
              rw [UInt64.toNat_ofNat']
              omega
            simp only [ofNumber_unsigned small, toJson, Json.ofUInt64, exact]
      | real x finite => simp [ofJson, ofNumber, toJson, Json.ofReal, finite]
  | null | bool | string | array | object => rfl

theorem lookup_map_snd {α β : Type} (change : α → β) (name : String)
    (entries : List (String × α)) :
    (entries.map fun entry => (entry.1, change entry.2)).lookup name =
      (entries.lookup name).map change := by
  induction entries with
  | nil => rfl
  | cons entry entries ih =>
      rw [List.map_cons, List.lookup_cons, List.lookup_cons, ih]
      split <;> rfl

namespace Row

variable {row : Row} {column : String} {held : Option Value}

def jsonCells (row : Row) : List (String × Json) :=
  row.cells.map fun cell => (cell.1, cell.2.toJson)

theorem names_jsonCells (row : Row) : row.jsonCells.map Prod.fst = row.columns := by
  rw [← names_cells, jsonCells, List.map_map]
  rfl

theorem toJson_eq (row : Row) : row.toJson = .object (assignAll row.jsonCells) :=
  row.toJson_eq_cells

theorem PlacesLast.lastSetting (places : row.PlacesLast column held) :
    LastSetting row.jsonCells column (held.getD .null).toJson := by
  obtain ⟨front, back, columns, absent, rfl⟩ := places
  rw [jsonCells, cells_eq_pairCells, columns, pairCells_append, pairCells, List.head?_drop,
    List.map_append, List.map_cons]
  refine ⟨_, _, rfl, ?_⟩
  rw [List.map_map, Function.comp_def]
  simpa only [map_fst_pairCells] using absent

/--
A document of a JSON object, put into a row, shows as the same object: the same names in the same
order, and under each its value. By its name each value is found, and no other names are.
-/
theorem objects_come_back {members : List (String × Json)}
    (distinct : (members.map Prod.fst).Nodup) :
    ∃ document, Document.ofJson (.object members) = .ok document ∧
      (ofCells document.entries).toJson = .object members ∧
      ∀ name content, (name, content) ∈ members ↔
        ∃ value, (ofCells document.entries).get? name = some value ∧ value.toJson = content := by
  have entries := Document.entries_ofMembers distinct
  have shown : (ofCells (Document.ofMembers members).entries).jsonCells = members := by
    rw [jsonCells, cells_ofCells, entries, List.map_map]
    simp [Function.comp_def, Value.toJson_ofJson]
  refine ⟨_, rfl, ?_, ?_⟩
  · rw [toJson_eq, shown, assignAll_eq_self distinct]
  · intro name content
    have byName : members.lookup name =
        ((ofCells (Document.ofMembers members).entries).get? name).map Value.toJson := by
      rw [get?_eq_lookup, ← lookup_map_snd]
      exact congrArg (List.lookup name) shown.symm
    rw [← lookup_eq_some_iff_mem distinct, byName, Option.map_eq_some_iff]

theorem objects_come_back_extreme :
    let tags : Json := .object [("b", .array [.null, .ofInt64 (-1)]), ("a", .ofReal (.zero true))]
    let members : List (String × Json) := [("least", .ofInt64 Int64.minValue),
      ("greatest", .ofUInt64 (-1)), ("tags", tags), ("half", .ofReal (.ofQuotient true 1 2))]
    (members.map Prod.fst).Nodup ∧
    ∃ document, Document.ofJson (.object members) = .ok document ∧
      (ofCells document.entries).toJson = .object members ∧
      ∃ value, (ofCells document.entries).get? "tags" = some value ∧ value.toJson = tags := by
  intro tags members
  have distinct : (members.map Prod.fst).Nodup := by decide
  obtain ⟨document, read, shown, found⟩ := objects_come_back distinct
  exact ⟨distinct, document, read, shown, (found "tags" tags).mp (by simp [members])⟩

theorem names_shown (row : Row) :
    (assignAll row.jsonCells).map Prod.fst = row.columns.eraseDups := by
  rw [(settles_assignAll row.jsonCells).ordered, names_jsonCells]

theorem PlacesLast.lookup_shown (places : row.PlacesLast column held) :
    (assignAll row.jsonCells).lookup column = some (held.getD .null).toJson :=
  (settles_assignAll row.jsonCells).lookup_eq_some_iff.mpr places.lastSetting

theorem lookup_shown_absent (absent : column ∉ row.columns) :
    (assignAll row.jsonCells).lookup column = none := by
  rw [List.lookup_eq_none_iff]
  intro member shown
  apply bne_iff_ne.mpr
  rintro rfl
  have known : member.1 ∈ (assignAll row.jsonCells).map Prod.fst := List.mem_map_of_mem shown
  rw [names_shown, List.mem_eraseDups] at known
  exact absent known

theorem lookup_shown_eq_iff :
    (assignAll row.jsonCells).lookup column = (row.get? column).map Value.toJson ↔
      ∀ first last, row.Places column first → row.PlacesLast column last →
        (first.getD .null).toJson = (last.getD .null).toJson := by
  by_cases present : column ∈ row.columns
  · obtain ⟨⟨first, places⟩, last, placesLast⟩ := exists_places present
    constructor
    · intro same first last places placesLast
      rw [places.get?_eq, placesLast.lookup_shown] at same
      exact (Option.some.inj same).symm
    · intro same
      rw [places.get?_eq, placesLast.lookup_shown]
      exact congrArg some (same first last places placesLast).symm
  · rw [lookup_shown_absent present, get?_eq, if_neg present]
    simp only [Option.map_none, true_iff]
    intro _ _ places
    exact absurd places.mem present

/--
The object of a row has the names of its columns, each in its first place. Its value is that of
the last column of the name, whereas the name finds the first; so they agree just where the first
and the last value of a column have the same JSON form.
-/
theorem json_takes_last (row : Row) :
    ∃ members, row.toJson = .object members ∧ (members.map Prod.fst).Nodup ∧
      members.map Prod.fst = row.columns.eraseDups ∧
      ∀ column,
        (column ∈ members.map Prod.fst ↔ (row.get? column).isSome) ∧
        (∀ held, row.Places column held → row.get? column = some (held.getD .null)) ∧
        (∀ held, row.PlacesLast column held →
          members.lookup column = some (held.getD .null).toJson) ∧
        (members.lookup column = (row.get? column).map Value.toJson ↔
          ∀ first last, row.Places column first → row.PlacesLast column last →
            (first.getD .null).toJson = (last.getD .null).toJson) := by
  refine ⟨_, toJson_eq row, (settles_assignAll row.jsonCells).distinct, names_shown row, ?_⟩
  intro column
  refine ⟨?_, fun _ => Places.get?_eq, fun _ => PlacesLast.lookup_shown, lookup_shown_eq_iff⟩
  rw [names_shown, List.mem_eraseDups, get?_eq]
  by_cases present : column ∈ row.columns <;> simp [present]

theorem json_takes_last_joined :
    let joined : Row := ⟨["id", "name", "id"], [.int 7, .text "Ann"]⟩
    joined.Places "id" (some (.int 7)) ∧ joined.PlacesLast "id" none ∧
    joined.get? "id" = some (.int 7) ∧
    ∃ members, joined.toJson = .object members ∧ members.map Prod.fst = ["id", "name"] ∧
      members.lookup "id" = some .null ∧ members.lookup "name" = some (.string "Ann") := by
  intro joined
  have first : joined.Places "id" (some (.int 7)) := ⟨[], ["name", "id"], rfl, by decide, rfl⟩
  have last : joined.PlacesLast "id" none := ⟨["id", "name"], [], rfl, by decide, rfl⟩
  have name : joined.PlacesLast "name" (some (.text "Ann")) :=
    ⟨["id"], ["id"], rfl, by decide, rfl⟩
  obtain ⟨members, shown, -, names, columns⟩ := json_takes_last joined
  exact ⟨first, last, (columns "id").2.1 _ first, members, shown, names,
    (columns "id").2.2.1 _ last, (columns "name").2.2.1 _ name⟩

theorem repeated_column_disagrees :
    let row : Row := ⟨["id", "id"], [.int 1, .int 2]⟩
    row.get? "id" = some (.int 1) ∧ row.toJson = .object [("id", .ofInt64 2)] ∧
      (Value.int 1).toJson ≠ .ofInt64 2 :=
  ⟨rfl, rfl, by decide⟩

end Row

end SqlComposer
