import Mathlib.Data.List.Basic
import SqlComposer.Record.Row

/-!
The cells of a row by the names and by the places of their columns.
-/

namespace SqlComposer

def pairCells : List String → List Value → List (String × Value)
  | [], _ => []
  | column :: columns, values => (column, values.head?.getD .null) :: pairCells columns values.tail

theorem map_fst_pairCells (columns : List String) (values : List Value) :
    (pairCells columns values).map Prod.fst = columns := by
  induction columns generalizing values with
  | nil => rfl
  | cons column columns ih => rw [pairCells, List.map_cons, ih]

theorem pairCells_append (front back : List String) (values : List Value) :
    pairCells (front ++ back) values =
      pairCells front values ++ pairCells back (values.drop front.length) := by
  induction front generalizing values with
  | nil => simp [pairCells]
  | cons column front ih => simp [pairCells, ih]

theorem pairCells_eq_mapIdx (columns : List String) (values : List Value) :
    pairCells columns values =
      columns.mapIdx fun place column => (column, values.getD place .null) := by
  induction columns generalizing values with
  | nil => rfl
  | cons column columns ih =>
      rw [pairCells, ih, List.mapIdx_cons]
      cases values <;> rfl

namespace Row

theorem cells_eq_pairCells (row : Row) : row.cells = pairCells row.columns row.values :=
  (pairCells_eq_mapIdx row.columns row.values).symm

theorem names_cells (row : Row) : row.cells.map Prod.fst = row.columns := by
  rw [cells_eq_pairCells, map_fst_pairCells]

theorem cells_ofCells (cells : List (String × Value)) : (ofCells cells).cells = cells := by
  rw [cells_eq_pairCells, ofCells]
  induction cells with
  | nil => rfl
  | cons cell rest ih => exact congrArg (cell :: ·) ih

def cell (row : Row) (column : String) : Value :=
  row.values.getD (row.columns.idxOf column) .null

theorem get?_eq (row : Row) (column : String) :
    row.get? column = if column ∈ row.columns then some (row.cell column) else none := by
  by_cases present : column ∈ row.columns
  · have found : row.columns.findIdx? (· == column) = some (row.columns.idxOf column) :=
      List.findIdx?_eq_some_iff_findIdx_eq.mpr ⟨List.idxOf_lt_length_iff.mpr present, rfl⟩
    rw [get?, found, if_pos present, Option.map_some, cell]
  · have unfound : row.columns.findIdx? (· == column) = none := by
      rw [List.findIdx?_eq_none_iff]
      intro name member
      exact beq_false_of_ne fun same => present (same ▸ member)
    rw [get?, unfound, if_neg present, Option.map_none]

theorem lookup_cells (row : Row) (column : String) :
    row.cells.lookup column = if column ∈ row.columns then some (row.cell column) else none := by
  obtain ⟨columns, values⟩ := row
  simp only [cells_eq_pairCells, cell]
  induction columns generalizing values with
  | nil => simp [pairCells]
  | cons name columns ih =>
      by_cases same : column = name
      · subst same
        cases values <;> simp [pairCells]
      · have apart : (column == name) = false ∧ (name == column) = false :=
          ⟨beq_false_of_ne same, beq_false_of_ne (Ne.symm same)⟩
        cases values <;> simp [pairCells, List.lookup_cons, same, ih, List.idxOf_cons, apart]

theorem get?_eq_lookup (row : Row) (column : String) :
    row.get? column = row.cells.lookup column := by
  rw [get?_eq, lookup_cells]

theorem at?_eq_getElem? (row : Row) (place : Nat) :
    row.at? place = row.cells[place]?.map Prod.snd := by
  rw [at?, cells, List.getElem?_mapIdx]
  split
  · rename_i outside
    rw [List.getElem?_eq_none outside]
    rfl
  · rename_i inside
    rw [List.getElem?_eq_getElem (Nat.lt_of_not_le inside)]
    rfl

theorem toJson_eq_cells (row : Row) :
    row.toJson = .object (assignAll (row.cells.map fun cell => (cell.1, cell.2.toJson))) := by
  rw [toJson, cells]
  congr 2
  apply List.ext_getElem?
  intro place
  simp [Function.comp_def]

/-- What the row has at the first place of the column, where its values may have ended. -/
def Places (row : Row) (column : String) (held : Option Value) : Prop :=
  ∃ front back, row.columns = front ++ column :: back ∧ column ∉ front ∧
    row.values[front.length]? = held

/-- What the row has at the last place of the column, where its values may have ended. -/
def PlacesLast (row : Row) (column : String) (held : Option Value) : Prop :=
  ∃ front back, row.columns = front ++ column :: back ∧ column ∉ back ∧
    row.values[front.length]? = held

section Places

variable {row : Row} {column : String} {held : Option Value}

theorem Places.mem (places : row.Places column held) : column ∈ row.columns := by
  obtain ⟨front, back, columns, _, _⟩ := places
  simp [columns]

theorem Places.cell_eq (places : row.Places column held) :
    row.cell column = held.getD .null := by
  obtain ⟨front, back, columns, absent, rfl⟩ := places
  have place : row.columns.idxOf column = front.length := by
    rw [columns, List.idxOf_append_of_notMem absent, List.idxOf_cons_self, Nat.add_zero]
  rw [cell, place, List.getD_eq_getElem?_getD]

theorem Places.get?_eq (places : row.Places column held) :
    row.get? column = some (held.getD .null) := by
  rw [Row.get?_eq, if_pos places.mem, places.cell_eq]

theorem exists_places (present : column ∈ row.columns) :
    (∃ held, row.Places column held) ∧ ∃ held, row.PlacesLast column held := by
  constructor
  · obtain ⟨front, back, columns, absent⟩ := List.eq_append_cons_of_mem present
    exact ⟨_, front, back, columns, absent, rfl⟩
  · obtain ⟨back, front, columns, absent⟩ :=
      List.eq_append_cons_of_mem (List.mem_reverse.mpr present)
    refine ⟨_, front.reverse, back.reverse, ?_, by simpa using absent, rfl⟩
    rw [← List.reverse_reverse row.columns, columns]
    simp

end Places

end Row

end SqlComposer
