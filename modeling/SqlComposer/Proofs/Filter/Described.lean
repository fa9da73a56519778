import SqlComposer.Proofs.Filter.Grammar
import SqlComposer.Proofs.Filter.Nodes

/-!
The filters that documents describe: SQL, conjunctions, and conditions over the values that JSON
has. Each of them is written as a document that is read as that filter, and no document is read
as any other.
-/

namespace SqlComposer

namespace Json

theorem settledItems_iff {items : List Json} :
    SettledItems items ↔ ∀ item ∈ items, item.Settled := by
  induction items with
  | nil => simp [SettledItems]
  | cons item items ih => simp [SettledItems, ih]

theorem settledMembers_iff {members : List (String × Json)} :
    SettledMembers members ↔ ∀ member ∈ members, member.2.Settled := by
  induction members with
  | nil => simp [SettledMembers]
  | cons member members ih =>
      obtain ⟨name, value⟩ := member
      simp [SettledMembers, ih]

theorem settled_single {name : String} {value : Json} (settled : value.Settled) :
    (object [(name, value)]).Settled :=
  ⟨by simp, settled, trivial⟩

end Json

namespace Value

/-- A number stands in one form only: unsigned where it is beyond the signed range, and real
where it is finite. -/
def IsScalar : Value → Prop
  | .null => True
  | .bool _ => True
  | .int _ => True
  | .uint n => 2 ^ 63 ≤ n.toNat
  | .float x => x.isFinite = true
  | .text _ => True
  | _ => False

def IsJson : Value → Prop
  | .json (.array items) => (Json.array items).Settled
  | .json (.object members) => (Json.object members).Settled
  | value => value.IsScalar

theorem IsScalar.isJson {value : Value} (scalar : value.IsScalar) : value.IsJson := by
  cases value with
  | json document => exact scalar.elim
  | _ => exact scalar

theorem isScalar_of_scalar {document : Json} {value : Value}
    (scalar : Json.Scalar document value) : value.IsScalar := by
  cases scalar with
  | null | bool | signed | text => trivial
  | unsigned large same =>
      rw [IsScalar]
      omega
  | real x finite => exact finite

theorem isJson_of_operand {document : Json} {value : Value} (settled : document.Settled)
    (operand : Json.Operand document value) : value.IsJson := by
  cases operand with
  | scalar scalar => exact (isScalar_of_scalar scalar).isJson
  | array | object => exact settled

theorem isJson_of_operands {items : List Json} {values : List Value}
    (settled : (Json.array items).Settled) (operands : List.Forall₂ Json.Operand items values) :
    ∀ value ∈ values, value.IsJson := by
  induction operands with
  | nil => simp
  | cons operand _ ih =>
      intro value member
      rcases List.mem_cons.mp member with rfl | later
      · exact isJson_of_operand settled.1 operand
      · exact ih settled.2 value later

theorem scalar_toJson {value : Value} (scalar : value.IsScalar) :
    Json.Scalar value.toJson value := by
  cases value with
  | null => exact .null
  | bool b => exact .bool b
  | int n => exact .signed rfl
  | uint n =>
      have large : 2 ^ 63 ≤ n.toNat := scalar
      exact .unsigned (by omega) rfl
  | float x =>
      have finite : x.isFinite = true := scalar
      have number : toJson (.float x) = .number (.real x finite) := dif_pos finite
      rw [number]
      exact .real x finite
  | text s => exact .text s
  | bytes | dateTime | date | uuid | json | raw => exact scalar.elim

theorem operand_toJson {value : Value} (isJson : value.IsJson) :
    Json.Operand value.toJson value := by
  cases value with
  | json document =>
      cases document with
      | array items => exact .array items
      | object members => exact .object members
      | _ => exact isJson.elim
  | _ => exact .scalar (scalar_toJson isJson)

theorem operands_toJson {values : List Value} (each : ∀ value ∈ values, value.IsJson) :
    List.Forall₂ Json.Operand (values.map toJson) values := by
  rw [List.forall₂_map_left_iff, List.forall₂_same]
  intro value member
  exact operand_toJson (each value member)

theorem settled_toJson {value : Value} (isJson : value.IsJson) : value.toJson.Settled := by
  cases value with
  | float x =>
      have finite : x.isFinite = true := isJson
      simp [toJson, Json.ofReal, finite, Json.Settled]
  | json document =>
      cases document with
      | array items => exact isJson
      | object members => exact isJson
      | _ => exact isJson.elim
  | bytes | dateTime | date | uuid | raw => exact isJson.elim
  | _ => trivial

def isForeign : Value → Bool
  | .bytes _ => true
  | .dateTime _ => true
  | .date _ => true
  | .uuid _ => true
  | .raw _ => true
  | _ => false

theorem IsJson.not_isForeign {value : Value} (isJson : value.IsJson) :
    value.isForeign = false := by
  cases value with
  | bytes | dateTime | date | uuid | raw => exact isJson.elim
  | _ => rfl

end Value

def Bound.argument (bound : Bound) : Condition.BoundArgument :=
  (bound.inclusive, bound.value.toJson)

namespace Condition

structure Describable (condition : Condition) : Prop where
  json : ∀ value ∈ condition.values, value.IsJson
  scalar : ∀ value, condition = .equals value → value.IsScalar
  bounded : condition ≠ .within .none

def toJson : Condition → Json
  | .equals value => value.toJson
  | .like pattern => .object [("$like", pattern.toJson)]
  | .sql text => .object [("$sql", .string text)]
  | .oneOf values => .object [("$in", .array (values.map Value.toJson))]
  | .between values => .object [("$between", .array (values.map Value.toJson))]
  | .within bounds =>
    .object (boundMembers (bounds.lower.map Bound.argument) (bounds.upper.map Bound.argument))
  | .identical value => .object [("$eq", value.toJson)]

theorem rel_isBound_argument {bound : Option Bound}
    (each : ∀ set ∈ bound.toList, set.value.IsJson) :
    Option.Rel IsBound (bound.map Bound.argument) bound := by
  cases bound with
  | none => exact .none
  | some set => exact .some ⟨rfl, Value.operand_toJson (each set (by simp))⟩

theorem boundMembers_eq_nil_iff {lower upper : Option BoundArgument} :
    boundMembers lower upper = [] ↔ lower = none ∧ upper = none := by
  cases lower <;> cases upper <;> simp [boundMembers]

theorem written_toJson {condition : Condition} (describable : condition.Describable) :
    Written condition.toJson condition := by
  obtain ⟨json, scalar, bounded⟩ := describable
  cases condition with
  | equals value => exact .scalar (Value.scalar_toJson (scalar value rfl))
  | sql text => exact .single (.sql text)
  | like pattern => exact .single (.like (Value.operand_toJson (json pattern (by simp [values]))))
  | identical value =>
      exact .single (.identical (Value.operand_toJson (json value (by simp [values]))))
  | oneOf values => exact .single (.oneOf (Value.operands_toJson json))
  | between values => exact .single (.between (Value.operands_toJson json))
  | within bounds =>
      refine .bounds ?_ (List.Perm.refl _) (rel_isBound_argument ?_) (rel_isBound_argument ?_)
      · intro empty
        obtain ⟨noLower, noUpper⟩ := boundMembers_eq_nil_iff.mp empty
        obtain ⟨low, high⟩ := bounds
        rw [Option.map_eq_none_iff] at noLower noUpper
        subst noLower noUpper
        exact bounded rfl
      · intro bound set
        exact json bound.value (mem_values_within.mpr ⟨bound, .inl (by simpa using set), rfl⟩)
      · intro bound set
        exact json bound.value (mem_values_within.mpr ⟨bound, .inr (by simpa using set), rfl⟩)

theorem settled_values {values : List Value} (each : ∀ value ∈ values, value.IsJson) :
    (Json.array (values.map Value.toJson)).Settled := by
  apply Json.settledItems_iff.mpr
  intro item member
  obtain ⟨value, present, rfl⟩ := List.mem_map.mp member
  exact Value.settled_toJson (each value present)

theorem nodup_boundMembers (lower upper : Option BoundArgument) :
    ((boundMembers lower upper).map Prod.fst).Nodup := by
  have apart : ∀ low high : BoundArgument, (lowerMember low).1 ≠ (upperMember high).1 := by
    rintro ⟨inclusive, low⟩ ⟨other, high⟩
    cases inclusive <;> cases other <;> simp [lowerMember, upperMember]
  cases lower with
  | none => cases upper <;> simp [boundMembers]
  | some low =>
      cases upper with
      | none => simp [boundMembers]
      | some high => simp [boundMembers, apart low high]

theorem settled_boundMembers {lower upper : Option Bound}
    (each : ∀ bound ∈ lower.toList ++ upper.toList, bound.value.IsJson) :
    (Json.object (boundMembers (lower.map Bound.argument) (upper.map Bound.argument))).Settled := by
  refine ⟨nodup_boundMembers _ _, Json.settledMembers_iff.mpr ?_⟩
  intro member present
  simp only [boundMembers, List.mem_append, Option.mem_toList, Option.map_eq_some_iff] at present
  rcases present with ⟨_, ⟨bound, set, rfl⟩, rfl⟩ | ⟨_, ⟨bound, set, rfl⟩, rfl⟩
  · exact Value.settled_toJson (each bound (by simp [set]))
  · exact Value.settled_toJson (each bound (by simp [set]))

theorem settled_toJson {condition : Condition} (describable : condition.Describable) :
    condition.toJson.Settled := by
  have json := describable.json
  cases condition with
  | equals value => exact Value.settled_toJson (json value (by simp [values]))
  | sql text => exact Json.settled_single trivial
  | like pattern =>
      exact Json.settled_single (Value.settled_toJson (json pattern (by simp [values])))
  | identical value =>
      exact Json.settled_single (Value.settled_toJson (json value (by simp [values])))
  | oneOf values => exact Json.settled_single (settled_values json)
  | between values => exact Json.settled_single (settled_values json)
  | within bounds =>
      apply settled_boundMembers
      intro bound set
      exact json bound.value (mem_values_within.mpr ⟨bound, by simpa using set, rfl⟩)

theorem describable_equals {value : Value} (scalar : value.IsScalar) :
    (equals value).Describable := by
  constructor
  · intro other member
    rw [values, List.mem_singleton] at member
    rw [member]
    exact scalar.isJson
  · intro other same
    cases same
    exact scalar
  · simp

theorem describable_of_single {key : String} {argument : Json} {condition : Condition}
    (settled : argument.Settled) (operator : Single key argument condition) :
    condition.Describable := by
  cases operator with
  | like operand | identical operand =>
      refine ⟨?_, by simp, by simp⟩
      simpa [values] using Value.isJson_of_operand settled operand
  | oneOf operands | between operands =>
      exact ⟨Value.isJson_of_operands settled operands, by simp, by simp⟩
  | sql text =>
      refine ⟨?_, by simp, by simp⟩
      simp [values]

theorem describable_of_bounds {members : List (String × Json)}
    {lower upper : Option BoundArgument} {bounds : Bounds}
    (settled : (Json.object members).Settled) (nonempty : members ≠ [])
    (only : members.Perm (boundMembers lower upper))
    (low : Option.Rel IsBound lower bounds.lower) (high : Option.Rel IsBound upper bounds.upper) :
    (within bounds).Describable := by
  obtain ⟨lowest, highest⟩ := bounds
  have each := Json.settledMembers_iff.mp settled.2
  refine ⟨?_, by simp, ?_⟩
  · intro value member
    obtain ⟨bound, set | set, rfl⟩ := mem_values_within.mp member
    · cases low with
      | none => cases set
      | @some argument _ isBound =>
          cases set
          have present : lowerMember argument ∈ members := only.mem_iff.mpr (by simp [boundMembers])
          exact Value.isJson_of_operand (each _ present) isBound.operand
    · cases high with
      | none => cases set
      | @some argument _ isBound =>
          cases set
          have present : upperMember argument ∈ members := only.mem_iff.mpr (by simp [boundMembers])
          exact Value.isJson_of_operand (each _ present) isBound.operand
  · intro same
    cases same
    cases low
    cases high
    exact nonempty (List.perm_nil.mp only)

theorem describable_of_written {document : Json} {condition : Condition}
    (settled : document.Settled) (written : Written document condition) :
    condition.Describable := by
  cases written with
  | scalar scalar => exact describable_equals (Value.isScalar_of_scalar scalar)
  | single operator => exact describable_of_single settled.2.1 operator
  | bounds nonempty only low high => exact describable_of_bounds settled nonempty only low high

end Condition

namespace Filter

inductive Describable : Filter → Prop
  | raw (sql : String) : Describable (.raw sql)
  | conjunction (connective : Connective) {terms : List Filter}
    (each : ∀ term ∈ terms, Describable term) : Describable (.conjunction connective terms)
  | fields {conditions : FieldMap} (named : ∀ entry ∈ conditions.entries,
      entry.1.toList.head? ≠ some '$' ∧ entry.2.Describable) :
    Describable (.fields conditions)

def membersOf (entries : List (String × Condition)) : List (String × Json) :=
  entries.map fun entry => (entry.1, entry.2.toJson)

mutual

def toJson : Filter → Json
  | .raw sql => .string sql
  | .predicate _ => .null
  | .conjunction connective terms => .object [(connective.key, .array (termsToJson terms))]
  | .fields conditions => .object (membersOf conditions.entries)

def termsToJson : List Filter → List Json
  | [] => []
  | term :: terms => term.toJson :: termsToJson terms

end

theorem fieldsWritten_membersOf {entries : List (String × Condition)}
    (named : ∀ entry ∈ entries, entry.1.toList.head? ≠ some '$' ∧ entry.2.Describable) :
    FieldsWritten (membersOf entries) entries := by
  induction entries with
  | nil => exact .nil
  | cons entry entries ih =>
      obtain ⟨name, condition⟩ := entry
      obtain ⟨field, describable⟩ := named (name, condition) (by simp)
      have others := ih fun other member => named other (by simp [member])
      exact .cons field (Condition.written_toJson describable) others

theorem settled_membersOf {conditions : FieldMap}
    (named : ∀ entry ∈ conditions.entries, entry.2.Describable) :
    (Json.object (membersOf conditions.entries)).Settled := by
  constructor
  · have names : (membersOf conditions.entries).map Prod.fst = conditions.entries.map Prod.fst := by
      simp [membersOf, Function.comp_def]
    rw [names]
    exact conditions.distinct
  · apply Json.settledMembers_iff.mpr
    intro member present
    obtain ⟨entry, set, rfl⟩ := List.mem_map.mp present
    exact Condition.settled_toJson (named entry set)

theorem allWritten_termsToJson {terms : List Filter}
    (each : ∀ term ∈ terms, Written term.toJson term) : AllWritten (termsToJson terms) terms := by
  induction terms with
  | nil => exact .nil
  | cons term terms ih =>
      have others := ih fun other member => each other (by simp [member])
      exact .cons (each term (by simp)) others

theorem settled_termsToJson {terms : List Filter} (each : ∀ term ∈ terms, term.toJson.Settled) :
    Json.SettledItems (termsToJson terms) := by
  induction terms with
  | nil => trivial
  | cons term terms ih =>
      exact ⟨each term (by simp), ih fun other member => each other (by simp [member])⟩

theorem Describable.written_toJson {filter : Filter} (describable : filter.Describable) :
    filter.toJson.Settled ∧ Written filter.toJson filter := by
  induction describable with
  | raw sql => exact ⟨trivial, .raw sql⟩
  | conjunction connective each ih =>
      have settled := settled_termsToJson fun term member => (ih term member).1
      have written := allWritten_termsToJson fun term member => (ih term member).2
      exact ⟨Json.settled_single settled, .conjunction connective written⟩
  | fields named =>
      exact ⟨settled_membersOf fun entry set => (named entry set).2,
        .fields (fieldsWritten_membersOf named)⟩

theorem FieldsWritten.describable {members : List (String × Json)}
    {entries : List (String × Condition)} (written : FieldsWritten members entries)
    (settled : Json.SettledMembers members) :
    ∀ entry ∈ entries, entry.1.toList.head? ≠ some '$' ∧ entry.2.Describable := by
  induction written with
  | nil => simp
  | cons field first others ih =>
      intro entry member
      rcases List.mem_cons.mp member with rfl | later
      · exact ⟨field, Condition.describable_of_written settled.1 first⟩
      · exact ih settled.2 entry later

theorem AllWritten.exists_item {items : List Json} {terms : List Filter}
    (written : AllWritten items terms) {term : Filter} (member : term ∈ terms) :
    ∃ item ∈ items, Written item term := by
  induction terms generalizing items with
  | nil => cases member
  | cons head rest ih =>
      cases written with
      | cons first others =>
          rcases List.mem_cons.mp member with rfl | later
          · exact ⟨_, List.mem_cons_self, first⟩
          · obtain ⟨item, present, found⟩ := ih others later
            exact ⟨item, List.mem_cons_of_mem _ present, found⟩

theorem describable_of_written {document : Json} {filter : Filter} (settled : document.Settled)
    (written : Written document filter) : filter.Describable := by
  induction filter generalizing document with
  | raw sql => exact .raw sql
  | predicate sql => cases written
  | conjunction connective terms ih =>
      cases written with
      | conjunction connective each =>
          apply Describable.conjunction
          intro term member
          obtain ⟨item, present, found⟩ := each.exists_item member
          exact ih term member (Json.settledItems_iff.mp settled.2.1 item present) found
  | fields conditions =>
      cases written with
      | fields written => exact .fields (written.describable settled.2)

theorem Describable.of_contains {filter node : Filter} (describable : filter.Describable)
    (inside : filter.Contains node) : node.Describable := by
  induction inside with
  | self filter => exact describable
  | term member inside ih =>
      cases describable with
      | conjunction connective each => exact ih (each _ member)

theorem read_eq_ok_iff_written {document : Json} {filter : Filter} (settled : document.Settled) :
    read document = .ok filter ↔ Written document filter := by
  rw [read, mapError_eq_ok, ofJson_eq_ok settled]

/--
The filters that are read from documents are exactly those that hold nothing but SQL, conjunctions
and conditions over JSON values, and each of them is read from the document that is written for it.
So no document brings in a caller's function, a value that JSON does not have, or a range without
bounds, however deep.
-/
theorem describable_iff_read (filter : Filter) :
    ((∃ document : Json, document.Settled ∧ read document = .ok filter) ↔ filter.Describable) ∧
    (filter.Describable → filter.toJson.Settled ∧ read filter.toJson = .ok filter) ∧
    ∀ document : Json, document.Settled → read document = .ok filter →
      ∀ node, filter.Contains node → (∀ sql, node ≠ .predicate sql) ∧
        ∀ conditions, node = .fields conditions → ∀ entry ∈ conditions.entries,
          entry.2 ≠ .within .none ∧ ∀ value ∈ entry.2.values, value.isForeign = false := by
  have reached : ∀ document : Json, document.Settled → read document = .ok filter →
      filter.Describable := by
    intro document settled made
    exact describable_of_written settled ((read_eq_ok_iff_written settled).mp made)
  have written : filter.Describable →
      filter.toJson.Settled ∧ read filter.toJson = .ok filter := by
    intro describable
    obtain ⟨settled, written⟩ := describable.written_toJson
    exact ⟨settled, (read_eq_ok_iff_written settled).mpr written⟩
  refine ⟨?_, written, ?_⟩
  · constructor
    · rintro ⟨document, settled, made⟩
      exact reached document settled made
    · intro describable
      exact ⟨filter.toJson, written describable⟩
  · intro document settled made node inside
    have describable := (reached document settled made).of_contains inside
    constructor
    · rintro sql rfl
      cases describable
    · rintro conditions rfl entry set
      cases describable with
      | fields named =>
          obtain ⟨_, condition⟩ := named entry set
          exact ⟨condition.bounded, fun value member => (condition.json value member).not_isForeign⟩

def searched : Filter :=
  .conjunction .or [.raw "vip", .conjunction .and [], .fields (.ofList
    [("age", .within (Bounds.none.atLeast (.int 18))),
      ("serial", .equals (.uint 18446744073709551615)),
      ("tags", .oneOf [.null, .json (.array [.string "new"])])])]

theorem describable_iff_read_searched :
    searched.Describable ∧
    (∃ document : Json, document.Settled ∧ read document = .ok searched) ∧
    searched.toJson.Settled ∧ read searched.toJson = .ok searched ∧
    ∀ node, searched.Contains node → ∀ sql, node ≠ .predicate sql := by
  have age : (Condition.within (Bounds.none.atLeast (.int 18))).Describable :=
    ⟨by simp [Condition.values, Bounds.atLeast, Bounds.none, Value.IsJson, Value.IsScalar], by simp,
      by simp [Bounds.atLeast, Bounds.none]⟩
  have serial : (Condition.equals (.uint 18446744073709551615)).Describable :=
    Condition.describable_equals (by decide +kernel : 2 ^ 63 ≤ _)
  have tags : (Condition.oneOf [.null, .json (.array [.string "new"])]).Describable :=
    ⟨by simp [Condition.values, Value.IsJson, Value.IsScalar, Json.Settled, Json.SettledItems],
      by simp, by simp⟩
  have describable : searched.Describable := by
    refine .conjunction .or ?_
    simp only [List.forall_mem_cons, List.not_mem_nil, false_implies, implies_true, and_true]
    refine ⟨.raw "vip", .conjunction .and (by simp), .fields ?_⟩
    simp [OrderedMap.entries_ofList, assignAll, assign, age, serial, tags]
  obtain ⟨settled, made⟩ := (describable_iff_read searched).2.1 describable
  exact ⟨describable, (describable_iff_read searched).1.mpr describable, settled, made,
    fun node inside => ((describable_iff_read searched).2.2 searched.toJson settled made node
      inside).1⟩

end Filter

end SqlComposer
