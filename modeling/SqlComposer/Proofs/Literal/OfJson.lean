import Mathlib.Data.List.Forall2
import SqlComposer.Literal.Value

/-!
The values that JSON documents stand for, said without the conversion that makes them.
-/

namespace SqlComposer

namespace Json

/-- A whole number is signed if it is below `2 ^ 63`, and else unsigned. -/
inductive Scalar : Json → Value → Prop
  | null : Scalar .null .null
  | bool (b : Bool) : Scalar (.bool b) (.bool b)
  | signed {n : Int} {range : -2 ^ 63 ≤ n ∧ n < 2 ^ 64} {m : Int64} (same : m.toInt = n) :
    Scalar (.number (.integer n range)) (.int m)
  | unsigned {n : Int} {range : -2 ^ 63 ≤ n ∧ n < 2 ^ 64} {m : UInt64} (large : 2 ^ 63 ≤ n)
    (same : (m.toNat : Int) = n) : Scalar (.number (.integer n range)) (.uint m)
  | real (x : Binary64) (finite : x.isFinite = true) : Scalar (.number (.real x finite)) (.float x)
  | text (s : String) : Scalar (.string s) (.text s)

inductive Operand : Json → Value → Prop
  | scalar {document : Json} {value : Value} (scalar : Scalar document value) :
    Operand document value
  | array (items : List Json) : Operand (.array items) (.json (.array items))
  | object (members : List (String × Json)) : Operand (.object members) (.json (.object members))

variable {document : Json} {value : Value}

theorem scalar_ofNumber (n : JsonNumber) : Scalar (.number n) (Value.ofNumber n) := by
  cases n with
  | real x finite => exact .real x finite
  | integer n range =>
      by_cases small : n < 2 ^ 63
      · rw [Value.ofNumber_signed small]
        exact .signed (Int64.toInt_ofInt_of_le range.1 small)
      · rw [Value.ofNumber_unsigned small]
        refine .unsigned (Int.not_lt.mp small) ?_
        rw [UInt64.toNat_ofNat']
        omega

theorem Scalar.eq_ofJson (scalar : Scalar document value) : value = Value.ofJson document := by
  cases scalar with
  | null | bool | real | text => rfl
  | @signed _ range m same =>
      have small := m.toInt_lt
      subst same
      rw [Value.ofJson, Value.ofNumber_signed small, Int64.ofInt_toInt]
  | @unsigned _ range m large same =>
      subst same
      rw [Value.ofJson, Value.ofNumber_unsigned (Int.not_lt.mpr large), Int.toNat_natCast,
        UInt64.ofNat_toNat]

theorem operand_iff : Operand document value ↔ value = Value.ofJson document := by
  constructor
  · intro operand
    cases operand with
    | scalar scalar => exact scalar.eq_ofJson
    | array | object => rfl
  · rintro rfl
    cases document with
    | null => exact .scalar .null
    | bool b => exact .scalar (.bool b)
    | number n => exact .scalar (scalar_ofNumber n)
    | string s => exact .scalar (.text s)
    | array items => exact .array items
    | object members => exact .object members

theorem operands_iff {items : List Json} {values : List Value} :
    List.Forall₂ Operand items values ↔ values = items.map Value.ofJson := by
  have pointwise : Operand = fun document value => Value.ofJson document = value := by
    funext document value
    exact propext (operand_iff.trans eq_comm)
  rw [pointwise, ← List.forall₂_map_left_iff, List.forall₂_eq_eq_eq, eq_comm]

end Json

end SqlComposer
