import SqlComposer.Proofs.Record.Integers
import SqlComposer.Record.Samples

/-!
Columns that decode as a real number, and the type that wraps one. The wrapper is decoded in its
place inside a list, but from no column that is a number.
-/

namespace SqlComposer

/-- The columns that decode as a real number, and the number. -/
inductive IsReal : Value → Binary64 → Prop
  | int (n : Int64) : IsReal (.int n) (.ofInt n.toInt)
  | uint (n : UInt64) : IsReal (.uint n) (.ofInt n.toNat)
  | float {x : Binary64} (finite : x.isFinite = true) : IsReal (.float x) x
  | text {s : String} {x : Binary64} (read : Reader.realText s = .ok x) : IsReal (.text s) x
  | integer {n : Int} (range : -2 ^ 63 ≤ n ∧ n < 2 ^ 64) :
    IsReal (.json (.number (.integer n range))) (.ofInt n)
  | fraction {x : Binary64} (finite : x.isFinite = true) :
    IsReal (.json (.number (.real x finite))) x

namespace Shape

variable {α β : Type}

theorem real_ofJson_eq_ok {document : Json} {x : Binary64} :
    real.ofJson document = .ok x ↔ IsReal (.json document) x := by
  constructor
  · intro decoded
    match document with
    | .number (.integer n range) =>
        cases decoded
        exact .integer range
    | .number (.real y finite) =>
        cases decoded
        exact .fraction finite
  · intro isReal
    cases isReal <;> rfl

theorem real_ofColumn_float (x : Binary64) :
    real.ofColumn (.float x) = real.ofJson (.ofReal x) :=
  rfl

theorem real_ofColumn_text (s : String) :
    real.ofColumn (.text s) = (Reader.realText s).mapError .unreadable :=
  rfl

theorem real_ofColumn_eq_ok {value : Value} {x : Binary64} :
    real.ofColumn value = .ok x ↔ IsReal value x := by
  constructor
  · intro decoded
    cases value with
    | int n =>
        cases decoded
        exact .int n
    | uint n =>
        cases decoded
        exact .uint n
    | float y =>
        rw [real_ofColumn_float, Json.ofReal] at decoded
        by_cases finite : y.isFinite = true
        · rw [dif_pos finite] at decoded
          cases decoded
          exact .float finite
        · rw [dif_neg finite] at decoded
          cases decoded
    | text s =>
        rw [real_ofColumn_text, mapError_eq_ok] at decoded
        exact .text decoded
    | json document => exact real_ofJson_eq_ok.mp decoded
    | null | bool | bytes | dateTime | date | uuid | raw => cases decoded
  · intro isReal
    cases isReal with
    | float finite =>
        rw [real_ofColumn_float, Json.ofReal, dif_pos finite]
        rfl
    | text read => rw [real_ofColumn_text, read, mapError_ok]
    | int | uint | integer | fraction => rfl

theorem list_ofColumn (inner : Shape α) {value : Value} (notText : ∀ s, value ≠ .text s) :
    (list inner).ofColumn value = (list inner).ofJson value.toJson := by
  cases value with
  | text s => exact absurd rfl (notText s)
  | null | bool | int | uint | float | bytes | dateTime | date | uuid | json | raw => rfl

theorem list_ofColumn_map {inner : Shape α} {outer : Shape β} {change : α → β}
    (each : ∀ document, outer.ofJson document = (inner.ofJson document).map change)
    (value : Value) :
    (list outer).ofColumn value = ((list inner).ofColumn value).map (List.map change) := by
  have decoded : ∀ document, (list outer).ofJson document =
      ((list inner).ofJson document).map (List.map change) := by
    intro document
    cases document with
    | array items =>
        have mapped := mapM_map_eq inner.ofJson change items
        rw [← funext each] at mapped
        exact mapped
    | null | bool | number | string | object => rfl
  by_cases isText : ∃ s, value = .text s
  · obtain ⟨s, rfl⟩ := isText
    have bound := bind_map_eq ((Json.read s).mapError ShapeFault.notJson) (list inner).ofJson
      (List.map change)
    rw [← funext decoded] at bound
    exact bound
  · have notText : ∀ s, value ≠ .text s := fun s same => isText ⟨s, same⟩
    rw [list_ofColumn _ notText, list_ofColumn _ notText, decoded]

end Shape

namespace Meters

theorem ofColumn_of_isReal {value : Value} {x : Binary64} (isReal : IsReal value x) :
    ofColumn value = .error (.wrongType value.toJson "tuple struct Meters") := by
  cases isReal with
  | float finite => simp only [ofColumn, Value.toJson, Json.ofReal, dif_pos finite]
  | int | uint | text | integer | fraction => rfl

theorem ofColumn_eq_ok {value : Value} {meters : Meters} :
    ofColumn value = .ok meters ↔
      ∃ item, value.toJson = .array [item] ∧ IsReal (.json item) meters.length := by
  rw [ofColumn]
  cases value.toJson with
  | array items =>
      match items with
      | [] => simp
      | [item] =>
          simp only [bind_eq_ok, Shape.real_ofJson_eq_ok]
          constructor
          · rintro ⟨x, isReal, finished⟩
            cases finished
            exact ⟨item, rfl, isReal⟩
          · rintro ⟨_, same, isReal⟩
            cases same
            exact ⟨meters.length, isReal, rfl⟩
      | item :: other :: rest =>
          simp only [bind_eq_ok]
          constructor
          · rintro ⟨_, _, finished⟩
            cases finished
          · rintro ⟨_, same, _⟩
            cases same
  | null | bool | number | string | object => simp

end Meters

namespace Row

/--
A column decodes as a real number if it is an integer, a finite real, a text that reads as one or
a number in JSON. The type that wraps a real number decodes from none of these: it takes only what
is an array of one number in JSON. A list of wrapped numbers decodes as the list of the numbers.
-/
theorem wrapper_refuses_numbers (column : String) :
    (∀ value results, (ofCells [(column, value)]).decodeEach .real = .ok results ↔
      ∃ x, IsReal value x ∧ results = [(column, x)]) ∧
    (∀ value x, IsReal value x →
      (ofCells [(column, value)]).decodeEach Meters.shape = .error (.decode "*"
        ("invalid type: " ++ value.toJson.description ++ ", expected " ++ "tuple struct Meters")) ∧
      ∀ before after results,
        (ofCells (before ++ (column, value) :: after)).decodeEach Meters.shape ≠ .ok results) ∧
    (∀ value results, (ofCells [(column, value)]).decodeEach Meters.shape = .ok results ↔
      ∃ item x, value.toJson = .array [item] ∧ IsReal (.json item) x ∧
        results = [(column, ⟨x⟩)]) ∧
    ∀ value results, (ofCells [(column, value)]).decodeEach (.list Meters.shape) = .ok results ↔
      ∃ lengths, (ofCells [(column, value)]).decodeEach (.list .real) = .ok [(column, lengths)] ∧
        results = [(column, lengths.map .mk)] := by
  refine ⟨?_, ?_, ?_, ?_⟩
  · intro value results
    rw [decodeEach_single_eq_ok]
    simp only [Shape.real_ofColumn_eq_ok]
  · intro value x isReal
    have refused : Meters.shape.ofColumn value = .error (.wrongType value.toJson _) :=
      Meters.ofColumn_of_isReal isReal
    refine ⟨decodeEach_single_eq_error refused, fun before after => ?_⟩
    apply decodeEach_ne_ok
    intro meters decoded
    rw [refused] at decoded
    cases decoded
  · intro value results
    rw [decodeEach_single_eq_ok]
    constructor
    · rintro ⟨meters, decoded, rfl⟩
      obtain ⟨item, shown, isReal⟩ := Meters.ofColumn_eq_ok.mp decoded
      exact ⟨item, meters.length, shown, isReal, rfl⟩
    · rintro ⟨item, x, shown, isReal, rfl⟩
      exact ⟨⟨x⟩, Meters.ofColumn_eq_ok.mpr ⟨item, shown, isReal⟩, rfl⟩
  · intro value results
    have mapped : (Shape.list Meters.shape).ofColumn value =
        ((Shape.list .real).ofColumn value).map (List.map .mk) :=
      Shape.list_ofColumn_map (fun _ => rfl) value
    simp only [decodeEach_single_eq_ok, mapped, map_eq_ok]
    constructor
    · rintro ⟨_, ⟨lengths, decoded, rfl⟩, rfl⟩
      exact ⟨lengths, ⟨lengths, decoded, rfl⟩, rfl⟩
    · rintro ⟨lengths, ⟨_, decoded, same⟩, rfl⟩
      cases same
      exact ⟨_, ⟨lengths, decoded, rfl⟩, rfl⟩

theorem wrapper_refuses_numbers_parsed :
    let half : Value := .text " 0.5"
    IsReal half (.ofQuotient false 1 2) ∧
    (ofCells [("m", half)]).decodeEach .real = .ok [("m", .ofQuotient false 1 2)] ∧
    (ofCells [("m", half)]).decodeEach Meters.shape = .error (.decode "*"
      "invalid type: string \" 0.5\", expected tuple struct Meters") ∧
    (ofCells [("m", .json (.array [.ofInt64 7]))]).decodeEach Meters.shape =
      .ok [("m", ⟨.ofInt 7⟩)] := by
  intro half
  have isReal : IsReal half (.ofQuotient false 1 2) := .text rfl
  obtain ⟨read, refused, taken, -⟩ := wrapper_refuses_numbers "m"
  refine ⟨isReal, (read half _).mpr ⟨_, isReal, rfl⟩, ?_, ?_⟩
  · exact (refused half _ isReal).1
  · exact (taken _ _).mpr ⟨.ofInt64 7, .ofInt 7, rfl, .integer _, rfl⟩

theorem number_not_wrapped :
    let row := ofCells [("m", .int 7)]
    row.decodeEach .real = .ok [("m", .ofInt 7)] ∧
      row.decodeEach Meters.shape ≠ .ok [("m", ⟨.ofInt 7⟩)] := by
  refine ⟨rfl, ?_⟩
  intro decoded
  cases decoded

end Row

end SqlComposer
