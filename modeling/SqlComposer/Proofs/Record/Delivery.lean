import SqlComposer.Proofs.Json.Compact
import SqlComposer.Proofs.Record.Cells
import SqlComposer.Proofs.Record.Integers
import SqlComposer.Record.Samples

/-!
A document may be delivered as itself or as its compact text. Lists, maps and records decode alike
from both; a pair is not read from text at all.
-/

namespace SqlComposer

variable {α β : Type}

namespace Shape

theorem container_ofColumn_text {ofJson : Json → Except ShapeFault α} {document : Json}
    (readable : Json.read document.compact = .ok document) :
    (container ofJson).ofColumn (.text document.compact) =
      (container ofJson).ofColumn (.json document) := by
  have text : (container ofJson).ofColumn (.text document.compact) =
      ((Json.read document.compact).mapError ShapeFault.notJson >>= ofJson) := rfl
  rw [text, readable]
  rfl

theorem integer_ofJson_eq_ok {type : IntegerType} {document : Json} {n : Int} :
    (integer type).ofJson document = .ok n ↔
      (∃ range, document = .number (.integer n range)) ∧ type.holds n = true := by
  match document with
  | .null | .bool _ | .string _ | .array _ | .object _ | .number (.real _ _) =>
      simp [integer, parsed]
  | .number (.integer m range) =>
      have narrowed : (integer type).ofJson (.number (.integer m range)) = narrow type m := rfl
      rw [narrowed, narrow_eq_ok]
      constructor
      · rintro ⟨rfl, held⟩
        exact ⟨⟨range, rfl⟩, held⟩
      · rintro ⟨⟨_, same⟩, held⟩
        cases same
        exact ⟨rfl, held⟩

theorem text_ofJson_eq_ok {document : Json} {s : String} :
    text.ofJson document = .ok s ↔ document = .string s := by
  cases document <;> simp [text, plain]

theorem twoItems_eq_ok (expected : String) {first : Shape α} {second : Shape β}
    {items : List Json} {a : α} {b : β} :
    twoItems expected first second items = .ok (a, b) ↔
      ∃ left right, items = [left, right] ∧ first.ofJson left = .ok a ∧
        second.ofJson right = .ok b := by
  match items with
  | [] => simp [twoItems]
  | [item] =>
      rw [twoItems, bind_eq_ok]
      constructor
      · rintro ⟨_, _, thrown⟩
        cases thrown
      · rintro ⟨_, _, same, _⟩
        cases same
  | left :: right :: rest =>
      simp only [twoItems, bind_eq_ok]
      constructor
      · rintro ⟨_, decoded, _, decodedToo, finished⟩
        cases rest with
        | nil =>
            cases finished
            exact ⟨left, right, rfl, decoded, decodedToo⟩
        | cons item rest => cases finished
      · rintro ⟨_, _, same, decoded, decodedToo⟩
        cases same
        exact ⟨a, decoded, b, decodedToo, rfl⟩

theorem pair_ofColumn_json_eq_ok {first : Shape α} {second : Shape β} {document : Json}
    {a : α} {b : β} :
    (pair first second).ofColumn (.json document) = .ok (a, b) ↔
      ∃ left right, document = .array [left, right] ∧ first.ofJson left = .ok a ∧
        second.ofJson right = .ok b := by
  cases document with
  | array items =>
      refine (twoItems_eq_ok "a tuple of size 2").trans ?_
      simp
  | null | bool | number | string | object => simp [pair, plain, Value.toJson]

/-- The shape decodes a document alike, however it is delivered and whatever else is in the row. -/
def DecodesAlike (shape : Shape α) (document : Json) : Prop :=
  ∀ (before after : List (String × Value)) (column : String),
    (Row.ofCells (before ++ (column, .text document.compact) :: after)).decodeEach shape =
      (Row.ofCells (before ++ (column, .json document) :: after)).decodeEach shape

end Shape

theorem Shape.container_decodesAlike {document : Json}
    (readable : Json.read document.compact = .ok document)
    (ofJson : Json → Except ShapeFault α) : (container ofJson).DecodesAlike document := by
  intro before after column
  simp only [Row.decodeEach, Row.decode, Row.cells_ofCells, List.mapM_append, List.mapM_cons,
    container_ofColumn_text readable]

namespace Row

theorem decodeEach_pair_text_ne_ok (first : Shape α) (second : Shape β)
    (before after : List (String × Value)) (column text : String)
    (results : List (String × α × β)) :
    (ofCells (before ++ (column, .text text) :: after)).decodeEach (.pair first second) ≠
      .ok results := by
  refine decodeEach_ne_ok ?_ before after column results
  intro pair decoded
  cases decoded

theorem decodeEach_pair_json_eq_ok (document : Json) (column s : String) (n : Int) :
    (ofCells [(column, .json document)]).decodeEach (.pair (.integer .int64) .text) =
        .ok [(column, n, s)] ↔
      (∃ range, document = .array [.number (.integer n range), .string s]) ∧
        IntegerType.int64.holds n = true := by
  rw [decodeEach_single_eq_ok]
  constructor
  · rintro ⟨_, decoded, same⟩
    cases same
    obtain ⟨left, right, rfl, first, second⟩ := Shape.pair_ofColumn_json_eq_ok.mp decoded
    obtain ⟨⟨range, rfl⟩, held⟩ := Shape.integer_ofJson_eq_ok.mp first
    rw [Shape.text_ofJson_eq_ok.mp second]
    exact ⟨⟨range, rfl⟩, held⟩
  · rintro ⟨⟨range, rfl⟩, held⟩
    refine ⟨(n, s), ?_, rfl⟩
    exact Shape.pair_ofColumn_json_eq_ok.mpr ⟨_, _, rfl,
      Shape.integer_ofJson_eq_ok.mpr ⟨⟨range, rfl⟩, held⟩, Shape.text_ofJson_eq_ok.mpr rfl⟩

/-- A document reads back from its compact text, if it is not too deep. Then each container decodes
alike from both deliveries, and a pair decodes from the document alone. -/
theorem deliveries_decode {document : Json} (whole : document.RealFree)
    (settled : document.Settled) :
    (Json.read document.compact = .ok document ↔ document.depth < Json.depthLimit) ∧
    (Json.read document.compact = .ok document →
      (Shape.list (.integer .int64)).DecodesAlike document ∧
      (Shape.list (.integer .uint8)).DecodesAlike document ∧
      (Shape.list .text).DecodesAlike document ∧
      (Shape.map (.integer .int64)).DecodesAlike document ∧
      Point.shape.DecodesAlike document) ∧
    (∀ before after column results,
      (ofCells (before ++ (column, .text document.compact) :: after)).decodeEach
        (.pair (.integer .int64) .text) ≠ .ok results) ∧
    ∀ column s n,
      (ofCells [(column, .json document)]).decodeEach (.pair (.integer .int64) .text) =
          .ok [(column, n, s)] ↔
        (∃ range, document = .array [.number (.integer n range), .string s]) ∧
          IntegerType.int64.holds n = true := by
  refine ⟨Json.read_compact_iff whole settled, ?_, ?_, decodeEach_pair_json_eq_ok document⟩
  · intro readable
    exact ⟨Shape.container_decodesAlike readable _, Shape.container_decodesAlike readable _,
      Shape.container_decodesAlike readable _, Shape.container_decodesAlike readable _,
      Shape.container_decodesAlike readable _⟩
  · intro before after column results
    exact decodeEach_pair_text_ne_ok _ _ before after column document.compact results

theorem deliveries_decode_point :
    let document : Json := .object [("y", .ofInt64 (-2)), ("note", .array [.string "\"\n"]),
      ("x", .ofInt64 1)]
    document.RealFree ∧ document.Settled ∧ Json.read document.compact = .ok document ∧
      Point.shape.DecodesAlike document ∧
      Point.shape.ofColumn (.text document.compact) = .ok ⟨1, -2⟩ := by
  intro document
  have whole : document.RealFree := ⟨trivial, ⟨trivial, trivial⟩, trivial, trivial⟩
  have settled : document.Settled := ⟨by decide, trivial, ⟨trivial, trivial⟩, trivial, trivial⟩
  obtain ⟨read_iff, decode, -⟩ := deliveries_decode whole settled
  have readable : Json.read document.compact = .ok document := read_iff.mpr (by decide)
  obtain ⟨-, -, -, -, alike⟩ := decode readable
  refine ⟨whole, settled, readable, alike, ?_⟩
  exact (Shape.container_ofColumn_text readable).trans rfl

theorem pair_not_decodesAlike :
    let document : Json := .array [.ofInt64 1, .string "a"]
    Json.read document.compact = .ok document ∧
      ¬ (Shape.pair (.integer .int64) .text).DecodesAlike document := by
  intro document
  have whole : document.RealFree := ⟨trivial, trivial, trivial⟩
  have settled : document.Settled := ⟨trivial, trivial, trivial⟩
  refine ⟨(Json.read_compact_iff whole settled).mpr (by decide), ?_⟩
  intro alike
  have decoded : (ofCells [("p", .json document)]).decodeEach (.pair (.integer .int64) .text) =
      .ok [("p", 1, "a")] := rfl
  exact decodeEach_pair_text_ne_ok _ _ [] [] "p" document.compact _
    ((alike [] [] "p").trans decoded)

end Row

end SqlComposer
