import SqlComposer.Filter.Document
import SqlComposer.Proofs.Filter.Compiled
import SqlComposer.Proofs.Literal.OfJson

/-!
The grammar of the conditions on a field, said without the reader: a scalar, one operator, or one
or two bounds in any order. The reader accepts exactly these.
-/

namespace SqlComposer

namespace Condition

inductive Single : String → Json → Condition → Prop
  | like {argument : Json} {pattern : Value} (operand : Json.Operand argument pattern) :
    Single "$like" argument (.like pattern)
  | identical {argument : Json} {value : Value} (operand : Json.Operand argument value) :
    Single "$eq" argument (.identical value)
  | oneOf {items : List Json} {values : List Value}
    (operands : List.Forall₂ Json.Operand items values) :
    Single "$in" (.array items) (.oneOf values)
  | between {items : List Json} {values : List Value}
    (operands : List.Forall₂ Json.Operand items values) :
    Single "$between" (.array items) (.between values)
  | sql (text : String) : Single "$sql" (.string text) (.sql text)

abbrev BoundArgument := Bool × Json

def lowerMember (bound : BoundArgument) : String × Json :=
  (if bound.1 then "$gte" else "$gt", bound.2)

def upperMember (bound : BoundArgument) : String × Json :=
  (if bound.1 then "$lte" else "$lt", bound.2)

def boundMembers (lower upper : Option BoundArgument) : List (String × Json) :=
  (lower.map lowerMember).toList ++ (upper.map upperMember).toList

structure IsBound (argument : BoundArgument) (bound : Bound) : Prop where
  inclusive : bound.inclusive = argument.1
  operand : Json.Operand argument.2 bound.value

inductive Written : Json → Condition → Prop
  | scalar {document : Json} {value : Value} (scalar : Json.Scalar document value) :
    Written document (.equals value)
  | single {key : String} {argument : Json} {condition : Condition}
    (operator : Single key argument condition) : Written (.object [(key, argument)]) condition
  | bounds {members : List (String × Json)} {lower upper : Option BoundArgument} {bounds : Bounds}
    (nonempty : members ≠ []) (only : members.Perm (boundMembers lower upper))
    (low : Option.Rel IsBound lower bounds.lower) (high : Option.Rel IsBound upper bounds.upper) :
    Written (.object members) (.within bounds)

def boundOf (argument : BoundArgument) : Bound :=
  ⟨Value.ofJson argument.2, argument.1⟩

theorem isBound_iff {argument : BoundArgument} {bound : Bound} :
    IsBound argument bound ↔ bound = boundOf argument := by
  obtain ⟨value, inclusive⟩ := bound
  constructor
  · rintro ⟨rfl, operand⟩
    rw [boundOf, ← Json.operand_iff.mp operand]
  · intro same
    cases same
    exact ⟨rfl, Json.operand_iff.mpr rfl⟩

theorem rel_isBound_iff {argument : Option BoundArgument} {bound : Option Bound} :
    Option.Rel IsBound argument bound ↔ bound = argument.map boundOf := by
  constructor
  · intro related
    cases related with
    | none => rfl
    | some isBound => exact congrArg some (isBound_iff.mp isBound)
  · rintro rfl
    cases argument with
    | none => exact .none
    | some argument => exact .some (isBound_iff.mpr rfl)

end Condition

namespace Operators

open Condition

inductive Added (key : String) (argument : Json) (start : Operators) : Operators → Prop
  | lower (inclusive : Bool) (named : key = (lowerMember (inclusive, argument)).1)
    (free : start.bounds.lower = .none) :
    Added key argument start
      { start with bounds := { start.bounds with lower := some (boundOf (inclusive, argument)) } }
  | upper (inclusive : Bool) (named : key = (upperMember (inclusive, argument)).1)
    (free : start.bounds.upper = .none) :
    Added key argument start
      { start with bounds := { start.bounds with upper := some (boundOf (inclusive, argument)) } }
  | single {condition : Condition} (operator : Single key argument condition)
    (free : start.single = .none) :
    Added key argument start { start with single := some condition }

variable {field key : String} {argument : Json} {start stop : Operators}

theorem addLower_eq_ok {bounds : Bounds → Bounds} :
    start.addLower field bounds = .ok stop ↔
      start.bounds.lower = .none ∧ stop = { start with bounds := bounds start.bounds } := by
  unfold addLower
  cases start.bounds.lower <;> simp [eq_comm]

theorem addUpper_eq_ok {bounds : Bounds → Bounds} :
    start.addUpper field bounds = .ok stop ↔
      start.bounds.upper = .none ∧ stop = { start with bounds := bounds start.bounds } := by
  unfold addUpper
  cases start.bounds.upper <;> simp [eq_comm]

theorem addSingle_eq_ok {condition : Condition} :
    start.addSingle field condition = .ok stop ↔
      start.single = .none ∧ stop = { start with single := some condition } := by
  unfold addSingle
  cases start.single <;> simp [eq_comm]

theorem readValues_eq_ok {operator : String} {values : List Value} :
    readValues field operator argument = .ok values ↔
      ∃ items, argument = .array items ∧ values = items.map Value.ofJson := by
  cases argument <;> simp [readValues, eq_comm]

theorem add_lowerMember (bound : BoundArgument) (free : start.bounds.lower = .none) :
    start.add field (lowerMember bound) = .ok { start with
      bounds := { start.bounds with lower := some (boundOf bound) } } := by
  have member : start.add field (lowerMember bound) =
      start.addLower field fun bounds => { bounds with lower := some (boundOf bound) } := by
    obtain ⟨inclusive, argument⟩ := bound
    cases inclusive <;> rfl
  exact member.trans (addLower_eq_ok.mpr ⟨free, rfl⟩)

theorem add_upperMember (bound : BoundArgument) (free : start.bounds.upper = .none) :
    start.add field (upperMember bound) = .ok { start with
      bounds := { start.bounds with upper := some (boundOf bound) } } := by
  have member : start.add field (upperMember bound) =
      start.addUpper field fun bounds => { bounds with upper := some (boundOf bound) } := by
    obtain ⟨inclusive, argument⟩ := bound
    cases inclusive <;> rfl
  exact member.trans (addUpper_eq_ok.mpr ⟨free, rfl⟩)

theorem add_eq_ok : start.add field (key, argument) = .ok stop ↔ Added key argument start stop := by
  constructor
  · intro added
    unfold add at added
    dsimp only at added
    split at added
    · obtain ⟨free, rfl⟩ := addLower_eq_ok.mp added
      exact .lower false rfl free
    · obtain ⟨free, rfl⟩ := addLower_eq_ok.mp added
      exact .lower true rfl free
    · obtain ⟨free, rfl⟩ := addUpper_eq_ok.mp added
      exact .upper false rfl free
    · obtain ⟨free, rfl⟩ := addUpper_eq_ok.mp added
      exact .upper true rfl free
    · obtain ⟨free, rfl⟩ := addSingle_eq_ok.mp added
      exact .single (.like (Json.operand_iff.mpr rfl)) free
    · obtain ⟨free, rfl⟩ := addSingle_eq_ok.mp added
      exact .single (.identical (Json.operand_iff.mpr rfl)) free
    · split at added
      · obtain ⟨free, rfl⟩ := addSingle_eq_ok.mp added
        exact .single (.sql _) free
      · cases added
    · obtain ⟨values, read, added⟩ := bind_eq_ok.mp added
      obtain ⟨items, rfl, rfl⟩ := readValues_eq_ok.mp read
      obtain ⟨free, rfl⟩ := addSingle_eq_ok.mp added
      exact .single (.oneOf (Json.operands_iff.mpr rfl)) free
    · obtain ⟨values, read, added⟩ := bind_eq_ok.mp added
      obtain ⟨items, rfl, rfl⟩ := readValues_eq_ok.mp read
      obtain ⟨free, rfl⟩ := addSingle_eq_ok.mp added
      exact .single (.between (Json.operands_iff.mpr rfl)) free
    · cases added
  · intro added
    cases added with
    | lower inclusive named free =>
        subst named
        exact add_lowerMember (inclusive, argument) free
    | upper inclusive named free =>
        subst named
        exact add_upperMember (inclusive, argument) free
    | single operator free =>
        cases operator with
        | like operand | identical operand =>
            rw [Json.operand_iff.mp operand]
            exact addSingle_eq_ok.mpr ⟨free, rfl⟩
        | oneOf operands | between operands =>
            rw [Json.operands_iff.mp operands]
            exact addSingle_eq_ok.mpr ⟨free, rfl⟩
        | sql text => exact addSingle_eq_ok.mpr ⟨free, rfl⟩

/-- The members read so far are, in some order, the parts that the operators hold. -/
structure Holds (members : List (String × Json)) (operators : Operators)
    (lower upper : Option BoundArgument) (single : Option (String × Json)) : Prop where
  only : members.Perm (boundMembers lower upper ++ single.toList)
  bounds : operators.bounds = ⟨lower.map boundOf, upper.map boundOf⟩
  absent : single = .none → operators.single = .none
  present : ∀ member, single = some member →
    ∃ condition, operators.single = some condition ∧ Single member.1 member.2 condition

def Gathers (members : List (String × Json)) (operators : Operators) : Prop :=
  ∃ lower upper single, Holds members operators lower upper single

theorem gathers_none : Gathers [] none :=
  ⟨.none, .none, .none, ⟨.nil, rfl, fun _ => rfl, nofun⟩⟩

theorem Gathers.add {members : List (String × Json)} {member : String × Json}
    (gathers : Gathers members start) (added : start.add field member = .ok stop) :
    Gathers (members ++ [member]) stop := by
  obtain ⟨lower, upper, single, holds⟩ := gathers
  obtain ⟨key, argument⟩ := member
  have front : (members ++ [(key, argument)]).Perm ((key, argument) ::
      (boundMembers lower upper ++ single.toList)) :=
    List.perm_append_comm.trans (holds.only.cons _)
  cases add_eq_ok.mp added with
  | lower inclusive named free =>
      have unset : lower = .none := by simpa [holds.bounds] using free
      subst unset named
      refine ⟨some (inclusive, argument), upper, single, front, ?_, holds.absent, holds.present⟩
      simp [holds.bounds]
  | upper inclusive named free =>
      have unset : upper = .none := by simpa [holds.bounds] using free
      subst unset named
      have moved : (upperMember (inclusive, argument) ::
          (boundMembers lower .none ++ single.toList)).Perm
            (boundMembers lower (some (inclusive, argument)) ++ single.toList) := by
        simpa [boundMembers] using List.perm_middle.symm
      refine ⟨lower, some (inclusive, argument), single, front.trans moved, ?_, holds.absent,
        holds.present⟩
      simp [holds.bounds]
  | single operator free =>
      have unset : single = .none := by
        cases single with
        | none => rfl
        | some member =>
            obtain ⟨condition, present, _⟩ := holds.present member rfl
            rw [free] at present
            cases present
      subst unset
      have moved : ((key, argument) :: (boundMembers lower upper ++ [])).Perm
          (boundMembers lower upper ++ [(key, argument)]) := List.perm_middle.symm
      refine ⟨lower, upper, some (key, argument), front.trans moved, holds.bounds, nofun, ?_⟩
      intro member present
      cases present
      exact ⟨_, rfl, operator⟩

theorem Gathers.addAll {before members : List (String × Json)} (gathers : Gathers before start)
    (added : members.foldlM (Operators.add field) start = .ok stop) :
    Gathers (before ++ members) stop := by
  -- what was gathered before stays in front, so the start is general
  induction members generalizing before start with
  | nil =>
      cases added
      simpa using gathers
  | cons member members ih =>
      rw [List.foldlM_cons] at added
      obtain ⟨next, first, others⟩ := bind_eq_ok.mp added
      simpa using ih (gathers.add first) others

theorem toCondition_eq_ok {condition : Condition} :
    start.toCondition field = .ok condition ↔
      (start.single = some condition ∧ start.hasBound = false) ∨
      (start.single = .none ∧ start.hasBound = true ∧ condition = .within start.bounds) := by
  unfold toCondition
  cases start.single <;> cases start.hasBound <;> simp [eq_comm]

theorem written_of_gathers {members : List (String × Json)} {condition : Condition}
    (gathers : Gathers members start) (made : start.toCondition field = .ok condition) :
    Written (.object members) condition := by
  obtain ⟨lower, upper, single, holds⟩ := gathers
  rcases toCondition_eq_ok.mp made with ⟨found, unbounded⟩ | ⟨absent, bounded, rfl⟩
  · simp only [hasBound, holds.bounds, Option.isSome_map, Bool.or_eq_false_iff,
      Option.isSome_eq_false_iff, Option.isNone_iff_eq_none] at unbounded
    obtain ⟨rfl, rfl⟩ := unbounded
    cases single with
    | none =>
        rw [holds.absent rfl] at found
        cases found
    | some member =>
        obtain ⟨other, present, operator⟩ := holds.present member rfl
        rw [found] at present
        cases present
        have alone : members = [member] := List.perm_singleton.mp holds.only
        rw [alone]
        exact .single operator
  · cases single with
    | some member =>
        obtain ⟨other, present, _⟩ := holds.present member rfl
        rw [absent] at present
        cases present
    | none =>
        have only : members.Perm (boundMembers lower upper) := by simpa using holds.only
        rw [holds.bounds]
        refine .bounds ?_ only (rel_isBound_iff.mpr rfl) (rel_isBound_iff.mpr rfl)
        rintro rfl
        have none := List.nil_perm.mp only
        simp [hasBound, holds.bounds] at bounded
        cases lower <;> cases upper <;> simp_all [boundMembers]

theorem eq_or_eq_of_perm_pair {α : Type} {items : List α} {first second : α}
    (perm : items.Perm [first, second]) : items = [first, second] ∨ items = [second, first] := by
  match items, perm.length_eq with
  | [left, right], _ =>
      have member : left ∈ [first, second] := perm.subset (by simp)
      rcases List.mem_cons.mp member with rfl | last
      · have rest := List.perm_singleton.mp ((List.perm_cons left).mp perm)
        exact Or.inl (by rw [rest])
      · rw [List.mem_singleton] at last
        subst last
        have swapped := perm.trans (List.Perm.swap left first [])
        have rest := List.perm_singleton.mp ((List.perm_cons left).mp swapped)
        exact Or.inr (by rw [rest])

theorem foldlM_bounds (field : String) {members : List (String × Json)}
    {lower upper : Option BoundArgument} (only : members.Perm (boundMembers lower upper)) :
    members.foldlM (Operators.add field) none =
      .ok ⟨⟨lower.map boundOf, upper.map boundOf⟩, .none⟩ := by
  cases lower with
  | none =>
      cases upper with
      | none =>
          rw [List.perm_nil.mp only]
          rfl
      | some upper =>
          rw [List.perm_singleton.mp only]
          exact bind_eq_ok.mpr ⟨_, add_upperMember upper rfl, rfl⟩
  | some lower =>
      cases upper with
      | none =>
          rw [List.perm_singleton.mp only]
          exact bind_eq_ok.mpr ⟨_, add_lowerMember lower rfl, rfl⟩
      | some upper =>
          rcases eq_or_eq_of_perm_pair only with same | same
          · rw [same]
            exact bind_eq_ok.mpr ⟨_, add_lowerMember lower rfl,
              bind_eq_ok.mpr ⟨_, add_upperMember upper rfl, rfl⟩⟩
          · rw [same]
            exact bind_eq_ok.mpr ⟨_, add_upperMember upper rfl,
              bind_eq_ok.mpr ⟨_, add_lowerMember lower rfl, rfl⟩⟩

end Operators

open Operators in
theorem Condition.ofJson_eq_ok {field : String} {document : Json} {condition : Condition} :
    Condition.ofJson field document = .ok condition ↔ Written document condition := by
  constructor
  · intro made
    cases document with
    | null =>
        cases made
        exact .scalar .null
    | bool b =>
        cases made
        exact .scalar (.bool b)
    | number n =>
        cases made
        exact .scalar (Json.scalar_ofNumber n)
    | string s =>
        cases made
        exact .scalar (.text s)
    | array items => cases made
    | object members =>
        obtain ⟨stop, added, made⟩ := bind_eq_ok.mp made
        exact written_of_gathers (gathers_none.addAll added) made
  · intro written
    cases written with
    | scalar scalar =>
        rw [scalar.eq_ofJson]
        cases scalar <;> rfl
    | @single key argument _ operator =>
        have added : Operators.none.add field (key, argument) = .ok ⟨.none, some condition⟩ :=
          add_eq_ok.mpr (.single operator rfl)
        exact bind_eq_ok.mpr ⟨_, bind_eq_ok.mpr ⟨_, added, rfl⟩, rfl⟩
    | @bounds members lower upper bounds nonempty only low high =>
        obtain ⟨lowest, highest⟩ := bounds
        cases rel_isBound_iff.mp low
        cases rel_isBound_iff.mp high
        refine bind_eq_ok.mpr ⟨_, foldlM_bounds field only, ?_⟩
        refine toCondition_eq_ok.mpr (Or.inr ⟨rfl, ?_, rfl⟩)
        cases lower with
        | some lower => rfl
        | none =>
            cases upper with
            | some upper => rfl
            | none => exact absurd (List.perm_nil.mp only) nonempty

end SqlComposer
