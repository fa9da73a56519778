import SqlComposer.Number.Binary
import SqlComposer.OrderedMap

/-!
JSON documents. An object keeps its members in order; `settle` gives each name one place, as
setting the members one after the other would.
-/

namespace SqlComposer

inductive JsonNumber where
  | integer (n : Int) (range : -2 ^ 63 ≤ n ∧ n < 2 ^ 64)
  | real (x : Binary64) (finite : x.isFinite = true)
deriving DecidableEq

inductive Json where
  | null
  | bool (b : Bool)
  | number (n : JsonNumber)
  | string (s : String)
  | array (items : List Json)
  | object (members : List (String × Json))

instance : Inhabited Json := ⟨.null⟩

namespace Json

mutual

def decEq : (left right : Json) → Decidable (left = right)
  | .null, right => match right with
    | .null => isTrue rfl
    | .bool _ | .number _ | .string _ | .array _ | .object _ => isFalse nofun
  | .bool b, right => match right with
    | .bool c => if same : b = c then isTrue (by rw [same]) else isFalse (by simpa using same)
    | .null | .number _ | .string _ | .array _ | .object _ => isFalse nofun
  | .number n, right => match right with
    | .number m => if same : n = m then isTrue (by rw [same]) else isFalse (by simpa using same)
    | .null | .bool _ | .string _ | .array _ | .object _ => isFalse nofun
  | .string s, right => match right with
    | .string t => if same : s = t then isTrue (by rw [same]) else isFalse (by simpa using same)
    | .null | .bool _ | .number _ | .array _ | .object _ => isFalse nofun
  | .array items, right => match right with
    | .array others => match decEqItems items others with
      | isTrue same => isTrue (by rw [same])
      | isFalse differ => isFalse (by simpa using differ)
    | .null | .bool _ | .number _ | .string _ | .object _ => isFalse nofun
  | .object members, right => match right with
    | .object others => match decEqMembers members others with
      | isTrue same => isTrue (by rw [same])
      | isFalse differ => isFalse (by simpa using differ)
    | .null | .bool _ | .number _ | .string _ | .array _ => isFalse nofun

def decEqItems : (left right : List Json) → Decidable (left = right)
  | [], [] => isTrue rfl
  | [], _ :: _ => isFalse nofun
  | _ :: _, [] => isFalse nofun
  | item :: items, other :: others => match decEq item other, decEqItems items others with
    | isTrue first, isTrue rest => isTrue (by rw [first, rest])
    | isFalse differ, _ => isFalse (by intro same; exact differ (List.cons.inj same).1)
    | _, isFalse differ => isFalse (by intro same; exact differ (List.cons.inj same).2)

def decEqMembers : (left right : List (String × Json)) → Decidable (left = right)
  | [], [] => isTrue rfl
  | [], _ :: _ => isFalse nofun
  | _ :: _, [] => isFalse nofun
  | (name, value) :: members, (otherName, otherValue) :: others =>
    if named : name = otherName then
      match decEq value otherValue, decEqMembers members others with
      | isTrue first, isTrue rest => isTrue (by rw [named, first, rest])
      | isFalse differ, _ => isFalse (by
          intro same; exact differ (Prod.mk.inj (List.cons.inj same).1).2)
      | _, isFalse differ => isFalse (by intro same; exact differ (List.cons.inj same).2)
    else isFalse (by intro same; exact named (Prod.mk.inj (List.cons.inj same).1).1)

end

instance : DecidableEq Json := decEq

def ofInt64 (n : Int64) : Json :=
  .number (.integer n.toInt
    (by have := n.le_toInt; have := n.toInt_lt; constructor <;> omega))

def ofUInt64 (n : UInt64) : Json :=
  .number (.integer n.toNat
    (by have := n.toNat_lt; constructor <;> omega))

def ofByte (byte : UInt8) : Json :=
  .number (.integer byte.toNat
    (by have := byte.toNat_lt; constructor <;> omega))

def ofReal (x : Binary64) : Json :=
  if finite : x.isFinite = true then .number (.real x finite) else .null

mutual

/-- Gives each name of each object one place, the first, and its last value. -/
def settle : Json → Json
  | .array items => .array (settleItems items)
  | .object members => .object (assignAll (settleMembers members))
  | other => other

def settleItems : List Json → List Json
  | [] => []
  | item :: items => settle item :: settleItems items

def settleMembers : List (String × Json) → List (String × Json)
  | [] => []
  | (name, value) :: members => (name, settle value) :: settleMembers members

end

mutual

def Settled : Json → Prop
  | .array items => SettledItems items
  | .object members => (members.map Prod.fst).Nodup ∧ SettledMembers members
  | _ => True

def SettledItems : List Json → Prop
  | [] => True
  | item :: items => Settled item ∧ SettledItems items

def SettledMembers : List (String × Json) → Prop
  | [] => True
  | (_, value) :: members => Settled value ∧ SettledMembers members

end

end Json

end SqlComposer
