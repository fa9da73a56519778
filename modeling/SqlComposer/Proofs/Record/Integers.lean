import SqlComposer.Proofs.Number.Numeral
import SqlComposer.Proofs.Record.Cells
import SqlComposer.Record.Shape

/-!
The two ways to an integer in a column, the reader of one column and the shape of a row, come to
the same number, and a column of text to the same as one of the number itself.
-/

namespace SqlComposer

namespace IntegerType

variable {type : IntegerType}

theorem narrow_eq_ok {n m : Int} : type.narrow n = .ok m ↔ n = m ∧ type.holds n = true := by
  rw [narrow, holds_iff]
  by_cases above : type.greatest < n
  · simp only [above, if_true, reduceCtorEq, false_iff]
    rintro ⟨_, _, bound⟩
    omega
  · by_cases below : n < type.least
    · simp only [above, below, if_true, if_false, reduceCtorEq, false_iff]
      rintro ⟨_, bound, _⟩
      omega
    · simp only [above, below, if_false, Except.ok.injEq]
      constructor
      · rintro rfl
        exact ⟨rfl, by omega, by omega⟩
      · exact And.left

theorem isSigned_widest (type : IntegerType) : type.widest.isSigned = type.isSigned := by
  cases type <;> rfl

theorem bounds_widest (type : IntegerType) :
    type.widest.least ≤ type.least ∧ type.greatest ≤ type.widest.greatest := by
  cases type <;> decide

theorem holds_widest {n : Int} (held : type.holds n = true) : type.widest.holds n = true := by
  have wider := type.bounds_widest
  rw [holds_iff] at held ⊢
  omega

end IntegerType

open IntegerType

variable {type : IntegerType}

theorem Shape.narrow_eq_ok {n m : Int} :
    Shape.narrow type n = .ok m ↔ n = m ∧ type.holds n = true := by
  rw [narrow]
  by_cases held : type.holds n = true
  · simp [held]
  · simp [held]

theorem Reader.integerText_eq_ok {text : String} {n : Int} :
    integerText type text = .ok n ↔
      IsNumeral type.isSigned (Text.trim text.toList) n ∧ type.holds n = true := by
  rw [integerText, mapError_eq_ok, read_eq_ok]

theorem Shape.integer_text_eq_ok {text : String} {n : Int} :
    (Shape.integer type).ofColumn (.text text) = .ok n ↔
      IsNumeral type.isSigned (Text.trim text.toList) n ∧ type.holds n = true := by
  have read : (Shape.integer type).ofColumn (.text text) =
      (Reader.integerText type.widest text).mapError ShapeFault.unreadable >>=
        Shape.narrow type := rfl
  rw [read, bind_eq_ok]
  simp only [mapError_eq_ok, Reader.integerText_eq_ok, isSigned_widest, narrow_eq_ok]
  -- what the type holds, its widest type holds as well, so the first reading refuses nothing more
  constructor
  · rintro ⟨_, ⟨numeral, _⟩, rfl, held⟩
    exact ⟨numeral, held⟩
  · rintro ⟨numeral, held⟩
    exact ⟨n, ⟨numeral, holds_widest held⟩, rfl, held⟩

def Value.number? : Value → Option Int
  | .int n => some n.toInt
  | .uint n => some n.toNat
  | _ => none

theorem Reader.integer_number_eq_ok {value : Value} {n m : Int} (number : value.number? = some n) :
    integer type value = .ok m ↔ n = m ∧ type.holds n = true := by
  cases value with
  | int k =>
      cases number
      rw [integer, mapError_eq_ok, IntegerType.narrow_eq_ok]
  | uint k =>
      cases number
      rw [integer, mapError_eq_ok, IntegerType.narrow_eq_ok]
  | null | bool | float | text | bytes | dateTime | date | uuid | json | raw => cases number

theorem Shape.integer_number_eq_ok {value : Value} {n m : Int} (number : value.number? = some n) :
    (Shape.integer type).ofColumn value = .ok m ↔ n = m ∧ type.holds n = true := by
  cases value with
  | int k =>
      cases number
      exact narrow_eq_ok
  | uint k =>
      cases number
      exact narrow_eq_ok
  | null | bool | float | text | bytes | dateTime | date | uuid | json | raw => cases number

theorem integer_eq_ok_iff {value : Value} (notBool : ∀ b, value ≠ .bool b)
    (notJson : ∀ document, value ≠ .json document) (n : Int) :
    Reader.integer type value = .ok n ↔ (Shape.integer type).ofColumn value = .ok n := by
  cases value with
  | int k => rw [Reader.integer_number_eq_ok rfl, Shape.integer_number_eq_ok rfl]
  | uint k => rw [Reader.integer_number_eq_ok rfl, Shape.integer_number_eq_ok rfl]
  | text text => rw [Shape.integer_text_eq_ok, ← Reader.integerText_eq_ok, Reader.integer]
  | bool b => exact absurd rfl (notBool b)
  | json document => exact absurd rfl (notJson document)
  | float x =>
      by_cases finite : x.isFinite = true
      · simp [Reader.integer, Shape.integer, Shape.parsed, Value.toJson, Json.ofReal, finite]
      · simp [Reader.integer, Shape.integer, Shape.parsed, Value.toJson, Json.ofReal, finite]
  | null | bytes | dateTime | date | uuid | raw =>
      simp [Reader.integer, Shape.integer, Shape.parsed, Value.toJson]

section Surrounded

variable {before after : String} {n m : Int}

theorem trim_repr (blankBefore : Text.allBlank before = true)
    (blankAfter : Text.allBlank after = true) :
    Text.trim (before ++ n.repr ++ after).toList = n.repr.toList := by
  have numeral : IsNumeral true n.repr.toList n := isNumeral_repr (.inl rfl)
  rw [String.toList_append, String.toList_append]
  exact Text.trim_surrounded numeral.ne_nil numeral.not_isBlank blankBefore blankAfter

theorem isNumeral_repr_iff :
    IsNumeral type.isSigned n.repr.toList m ∧ type.holds m = true ↔
      n = m ∧ type.holds n = true := by
  constructor
  · rintro ⟨numeral, held⟩
    have same : n = m := IsNumeral.unique (@isNumeral_repr true n (.inl rfl)) numeral
    exact ⟨same, by rwa [same]⟩
  · rintro ⟨rfl, held⟩
    refine ⟨isNumeral_repr ?_, held⟩
    cases signed : type.isSigned with
    | true => exact .inl rfl
    | false =>
        right
        rw [holds_iff, least, signed] at held
        simpa using held.1

theorem Reader.integer_surrounded_eq_ok (blankBefore : Text.allBlank before = true)
    (blankAfter : Text.allBlank after = true) :
    integer type (.text (before ++ n.repr ++ after)) = .ok m ↔ n = m ∧ type.holds n = true := by
  rw [integer, integerText_eq_ok, trim_repr blankBefore blankAfter, isNumeral_repr_iff]

theorem Shape.integer_surrounded_eq_ok (blankBefore : Text.allBlank before = true)
    (blankAfter : Text.allBlank after = true) :
    (Shape.integer type).ofColumn (.text (before ++ n.repr ++ after)) = .ok m ↔
      n = m ∧ type.holds n = true := by
  rw [integer_text_eq_ok, trim_repr blankBefore blankAfter, isNumeral_repr_iff]

end Surrounded

namespace Row

variable {α : Type} {column : String} {value : Value}

theorem read_single_eq_ok {reader : Reader α} {result : α} :
    (ofCells [(column, value)]).read reader column = .ok result ↔ reader value = .ok result := by
  have found : (ofCells [(column, value)]).get? column = some value := by
    simp [get?, ofCells]
  rw [read, found]
  exact mapError_eq_ok

theorem decodeEach_single_eq_ok {shape : Shape α} {results : List (String × α)} :
    (ofCells [(column, value)]).decodeEach shape = .ok results ↔
      ∃ result, shape.ofColumn value = .ok result ∧ results = [(column, result)] := by
  rw [decodeEach, decode, mapError_eq_ok, cells_ofCells, mapM_cons_eq_ok]
  simp only [map_eq_ok]
  constructor
  · rintro ⟨_, _, ⟨result, decoded, rfl⟩, rest, rfl⟩
    cases rest
    exact ⟨result, decoded, rfl⟩
  · rintro ⟨result, decoded, rfl⟩
    exact ⟨_, [], ⟨result, decoded, rfl⟩, rfl, rfl⟩

theorem decodeEach_single_eq_error {shape : Shape α} {fault : ShapeFault}
    (failed : shape.ofColumn value = .error fault) :
    (ofCells [(column, value)]).decodeEach shape = .error (.decode "*" fault.message) := by
  simp only [decodeEach, decode, cells_ofCells, List.mapM_cons, failed]
  rfl

theorem decodeEach_ne_ok {shape : Shape α} (refused : ∀ result, shape.ofColumn value ≠ .ok result)
    (before after : List (String × Value)) (column : String) (results : List (String × α)) :
    (ofCells (before ++ (column, value) :: after)).decodeEach shape ≠ .ok results := by
  intro decoded
  rw [decodeEach, decode, cells_ofCells, mapError_eq_ok, List.mapM_append] at decoded
  obtain ⟨_, _, rest⟩ := bind_eq_ok.mp decoded
  obtain ⟨_, back, _⟩ := bind_eq_ok.mp rest
  obtain ⟨_, _, made, _⟩ := mapM_cons_eq_ok.mp back
  obtain ⟨result, found, _⟩ := map_eq_ok.mp made
  exact refused result found

/--
Where a value is neither a truth value nor a document, reading its column as an integer type and
decoding its row into that type come to the same number or both to none. Of an integer both make
its number if the type holds it, and both do the same with the decimal numeral of the integer as
a text, whatever blanks surround it.
-/
theorem integers_agree (type : IntegerType) (column : String) :
    (∀ value n, (∀ b, value ≠ .bool b) → (∀ document, value ≠ .json document) →
      ((ofCells [(column, value)]).read (Reader.integer type) column = .ok n ↔
        (ofCells [(column, value)]).decodeEach (Shape.integer type) = .ok [(column, n)])) ∧
    ∀ value n before after, value.number? = some n →
      Text.allBlank before = true → Text.allBlank after = true →
      ∀ cell ∈ [value, .text (before ++ n.repr ++ after)],
        (∀ m, (ofCells [(column, cell)]).read (Reader.integer type) column = .ok m ↔
          n = m ∧ type.least ≤ n ∧ n ≤ type.greatest) ∧
        ∀ results, (ofCells [(column, cell)]).decodeEach (Shape.integer type) = .ok results ↔
          results = [(column, n)] ∧ type.least ≤ n ∧ n ≤ type.greatest := by
  constructor
  · intro value n notBool notJson
    rw [read_single_eq_ok, decodeEach_single_eq_ok, integer_eq_ok_iff notBool notJson]
    simp
  · intro value n before after number blankBefore blankAfter cell member
    rw [List.mem_cons, List.mem_singleton] at member
    have read : ∀ m, Reader.integer type cell = .ok m ↔ n = m ∧ type.holds n = true := by
      intro m
      rcases member with rfl | rfl
      · exact Reader.integer_number_eq_ok number
      · exact Reader.integer_surrounded_eq_ok blankBefore blankAfter
    have decoded : ∀ m, (Shape.integer type).ofColumn cell = .ok m ↔
        n = m ∧ type.holds n = true := by
      intro m
      rcases member with rfl | rfl
      · exact Shape.integer_number_eq_ok number
      · exact Shape.integer_surrounded_eq_ok blankBefore blankAfter
    constructor
    · intro m
      rw [read_single_eq_ok, read, holds_iff]
    · intro results
      rw [decodeEach_single_eq_ok]
      simp only [decoded, holds_iff]
      constructor
      · rintro ⟨_, ⟨rfl, range⟩, same⟩
        exact ⟨same, range⟩
      · rintro ⟨same, range⟩
        exact ⟨n, ⟨rfl, range⟩, same⟩

theorem integers_agree_padded :
    let row := ofCells [("delta", .text "\u00a0-42\n")]
    row.read (Reader.integer .int16) "delta" = .ok (-42) ∧
    row.decodeEach (Shape.integer .int16) = .ok [("delta", -42)] ∧
    ∀ m, row.read (Reader.integer .uint16) "delta" ≠ .ok m := by
  intro row
  have text : "\u00a0" ++ (-42 : Int).repr ++ "\n" = "\u00a0-42\n" := by decide
  have signed := (integers_agree .int16 "delta").2 (.int (-42)) (-42) "\u00a0" "\n" rfl
    (by decide) (by decide) (.text "\u00a0-42\n") (by simp [text])
  have unsigned := (integers_agree .uint16 "delta").2 (.int (-42)) (-42) "\u00a0" "\n" rfl
    (by decide) (by decide) (.text "\u00a0-42\n") (by simp [text])
  have read : row.read (Reader.integer .int16) "delta" = .ok (-42) :=
    (signed.1 (-42)).mpr ⟨rfl, by decide, by decide⟩
  have decoded := ((integers_agree .int16 "delta").1 (.text "\u00a0-42\n") (-42)
    (by simp) (by simp)).mp read
  refine ⟨read, decoded, ?_⟩
  intro m found
  have range : IntegerType.least .uint16 ≤ -42 := ((unsigned.1 m).mp found).2.1
  exact absurd range (by decide)

end Row

end SqlComposer
