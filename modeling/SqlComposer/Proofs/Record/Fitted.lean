import Mathlib.Data.List.Basic
import SqlComposer.Proofs.Record.Cells
import SqlComposer.Record.Shape

/-!
Rows with too few or too many values for their columns. In every way of reading they are the row
whose values are cut at the last column, or filled up with nulls to it.
-/

namespace SqlComposer

namespace Row

def fitted (row : Row) : Row where
  columns := row.columns
  values := (row.values.take row.columns.length).rightpad row.columns.length .null

theorem length_values_fitted (row : Row) : row.fitted.values.length = row.columns.length := by
  simp only [fitted, List.rightpad, List.length_append, List.length_take, List.length_replicate]
  omega

theorem getD_values_fitted (row : Row) {place : Nat} (inside : place < row.columns.length) :
    row.fitted.values.getD place .null = row.values.getD place .null := by
  simp only [fitted, List.rightpad, List.getD_eq_getElem?_getD]
  by_cases held : place < row.values.length
  · have taken : place < (row.values.take row.columns.length).length := by
      rw [List.length_take]
      omega
    rw [List.getElem?_append_left taken, List.getElem?_take_of_lt inside]
  · have filled : (row.values.take row.columns.length).length ≤ place := by
      rw [List.length_take]
      omega
    rw [List.getElem?_append_right filled, List.getElem?_replicate,
      List.getElem?_eq_none (Nat.le_of_not_lt held)]
    split <;> rfl

theorem cells_fitted (row : Row) : row.fitted.cells = row.cells := by
  apply List.mapIdx_eq_mapIdx_iff.mpr
  intro place inside
  rw [row.getD_values_fitted inside]

theorem get?_fitted (row : Row) (column : String) : row.fitted.get? column = row.get? column := by
  rw [get?_eq_lookup, get?_eq_lookup, cells_fitted]

theorem at?_fitted (row : Row) (place : Nat) : row.fitted.at? place = row.at? place := by
  rw [at?_eq_getElem?, at?_eq_getElem?, cells_fitted]

theorem toJson_fitted (row : Row) : row.fitted.toJson = row.toJson := by
  rw [toJson_eq_cells, toJson_eq_cells, cells_fitted]

theorem decode_fitted {ρ : Type} (row : Row)
    (shape : List (String × Value) → Except ShapeFault ρ) :
    row.fitted.decode shape = row.decode shape := by
  rw [decode, decode, cells_fitted]

theorem at?_eq (row : Row) (place : Nat) :
    row.at? place =
      if place < row.columns.length then some (row.values.getD place .null) else none := by
  rw [at?]
  split
  · rename_i outside
    rw [if_neg (Nat.not_lt.mpr outside)]
  · rename_i inside
    rw [if_pos (Nat.lt_of_not_le inside)]

theorem get?_eq_at? (row : Row) (column : String) :
    row.get? column = row.at? (row.columns.idxOf column) := by
  rw [get?_eq, at?_eq, cell]
  simp only [List.idxOf_lt_length_iff]

theorem read_optional_of_missing {α : Type} {row : Row} {column : String}
    (present : column ∈ row.columns) (missing : row.values.length ≤ row.columns.idxOf column)
    (reader : Reader α) : row.read reader.optional column = .ok none := by
  have null : row.get? column = some .null := by
    rw [get?_eq, if_pos present, cell, List.getD_eq_getElem?_getD, List.getElem?_eq_none missing]
    rfl
  rw [read, null]
  rfl

/--
Every way of reading a row gives what it gives for the row cut or filled up to its columns: by
name, by place, as a type, as a JSON object and as a record. They all read the same cells. The value
of a column is the one at its place, or null where the values have ended; a name stands for the
first place that has it; and an optional value that is missing reads as nothing.
-/
theorem fitted_rows_read_alike (columns : List String) (values : List Value) :
    let row : Row := ⟨columns, values⟩
    row.fitted.columns = columns ∧ row.fitted.values.length = columns.length ∧
    row.cells = columns.mapIdx (fun place column => (column, values.getD place .null)) ∧
    (∀ column, row.get? column = row.fitted.get? column ∧
      row.get? column = row.cells.lookup column ∧
      row.get? column = row.at? (columns.idxOf column)) ∧
    (∀ place, row.at? place = row.fitted.at? place ∧
      row.at? place = row.cells[place]?.map Prod.snd ∧
      row.at? place = if place < columns.length then some (values.getD place .null) else none) ∧
    (∀ {α : Type} (reader : Reader α) (column : String),
      row.read reader column = row.fitted.read reader column) ∧
    (row.toJson = row.fitted.toJson ∧
      row.toJson = .object (assignAll (row.cells.map fun cell => (cell.1, cell.2.toJson)))) ∧
    (∀ {ρ : Type} (shape : List (String × Value) → Except ShapeFault ρ),
      row.decode shape = row.fitted.decode shape) ∧
    (∀ {α : Type} (shape : Shape α), row.decodeEach shape = row.fitted.decodeEach shape) ∧
    ∀ {α : Type} (reader : Reader α) (column : String),
      column ∈ columns → values.length ≤ columns.idxOf column →
      row.read reader.optional column = .ok none := by
  intro row
  refine ⟨rfl, row.length_values_fitted, rfl, ?_, ?_, ?_,
    ⟨row.toJson_fitted.symm, row.toJson_eq_cells⟩, fun shape => (row.decode_fitted shape).symm,
    fun _ => (row.decode_fitted _).symm, ?_⟩
  · intro column
    exact ⟨(row.get?_fitted column).symm, row.get?_eq_lookup column, row.get?_eq_at? column⟩
  · intro place
    exact ⟨(row.at?_fitted place).symm, row.at?_eq_getElem? place, row.at?_eq place⟩
  · intro α reader column
    rw [read, read, get?_fitted]
  · intro α reader column present missing
    exact read_optional_of_missing present missing reader

theorem fitted_rows_read_alike_short :
    let row : Row := ⟨["id", "note", "id"], [.int 7]⟩
    "note" ∈ row.columns ∧ row.values.length ≤ row.columns.idxOf "note" ∧
    row.fitted = ⟨["id", "note", "id"], [.int 7, .null, .null]⟩ ∧
    row.read Reader.text.optional "note" = .ok none ∧
    row.read (Reader.integer .int64) "id" = row.fitted.read (Reader.integer .int64) "id" ∧
    row.at? 3 = none := by
  intro row
  obtain ⟨-, -, -, -, places, reads, -, -, -, missing⟩ :=
    fitted_rows_read_alike ["id", "note", "id"] [.int 7]
  have present : "note" ∈ row.columns := by decide
  have ended : row.values.length ≤ row.columns.idxOf "note" := by decide
  exact ⟨present, ended, rfl, missing Reader.text "note" present ended, reads _ "id",
    (places 3).2.2⟩

end Row

end SqlComposer
