import SqlComposer.Proofs.Filter.Operators

/-!
The grammar of filter documents: SQL, an array under a connective alone, or fields that are no
operators with the conditions under them. The reader accepts exactly the documents of the grammar
and makes from each the filter it describes.
-/

namespace SqlComposer

namespace Connective

def key : Connective → String
  | .and => "$and"
  | .or => "$or"

theorem ofKey?_eq_some_iff {key : String} {connective : Connective} :
    ofKey? key = some connective ↔ key = connective.key := by
  constructor
  · intro found
    unfold ofKey? at found
    split at found <;> cases found <;> rfl
  · rintro rfl
    cases connective <;> rfl

end Connective

namespace Filter

inductive FieldsWritten : List (String × Json) → List (String × Condition) → Prop
  | nil : FieldsWritten [] []
  | cons {name : String} {value : Json} {condition : Condition} {members : List (String × Json)}
    {entries : List (String × Condition)} (field : name.toList.head? ≠ some '$')
    (first : Condition.Written value condition) (others : FieldsWritten members entries) :
    FieldsWritten ((name, value) :: members) ((name, condition) :: entries)

mutual

inductive Written : Json → Filter → Prop
  | raw (sql : String) : Written (.string sql) (.raw sql)
  | conjunction (connective : Connective) {items : List Json} {terms : List Filter}
    (each : AllWritten items terms) :
    Written (.object [(connective.key, .array items)]) (.conjunction connective terms)
  | fields {members : List (String × Json)} {conditions : FieldMap}
    (written : FieldsWritten members conditions.entries) :
    Written (.object members) (.fields conditions)

inductive AllWritten : List Json → List Filter → Prop
  | nil : AllWritten [] []
  | cons {item : Json} {term : Filter} {items : List Json} {terms : List Filter}
    (first : Written item term) (others : AllWritten items terms) :
    AllWritten (item :: items) (term :: terms)

end

end Filter

theorem FieldMap.addMember_eq_ok {name : String} {value : Json} {start stop : FieldMap} :
    start.addMember (name, value) = .ok stop ↔
      name.toList.head? ≠ some '$' ∧
        ∃ condition, Condition.Written value condition ∧ stop = start.set name condition := by
  unfold addMember
  by_cases operator : name.toList.head? = some '$'
  · simp [operator]
  · simp only [operator, if_false, not_false_eq_true, ne_eq, true_and]
    constructor
    · intro added
      obtain ⟨condition, made, same⟩ := bind_eq_ok.mp added
      exact ⟨condition, Condition.ofJson_eq_ok.mp made, (Except.ok.inj same).symm⟩
    · rintro ⟨condition, written, rfl⟩
      exact bind_eq_ok.mpr ⟨condition, Condition.ofJson_eq_ok.mpr written, rfl⟩

namespace Filter

theorem foldlM_addMember_eq_ok {members : List (String × Json)} {start stop : FieldMap}
    (distinct : (start.entries.map Prod.fst ++ members.map Prod.fst).Nodup) :
    members.foldlM FieldMap.addMember start = .ok stop ↔
      ∃ entries, FieldsWritten members entries ∧ stop.entries = start.entries ++ entries := by
  induction members generalizing start with
  | nil =>
      constructor
      · intro added
        cases added
        exact ⟨[], .nil, by simp⟩
      · rintro ⟨entries, written, same⟩
        cases written
        rw [List.append_nil] at same
        rw [OrderedMap.eq_of_entries same]
        rfl
  | cons member members ih =>
      obtain ⟨name, value⟩ := member
      have absent : name ∉ start.entries.map Prod.fst := by
        intro present
        exact (List.nodup_append.mp distinct).2.2 name present name (by simp) rfl
      have appended : ∀ condition, (start.set name condition).entries =
          start.entries ++ [(name, condition)] :=
        fun condition => assign_of_notMem condition absent
      have distinctAfter : ∀ condition, ((start.set name condition).entries.map Prod.fst ++
          members.map Prod.fst).Nodup := by
        intro condition
        simpa [appended condition] using distinct
      rw [List.foldlM_cons, bind_eq_ok]
      constructor
      · rintro ⟨next, first, others⟩
        obtain ⟨field, condition, written, rfl⟩ := FieldMap.addMember_eq_ok.mp first
        obtain ⟨entries, rest, same⟩ := (ih (distinctAfter condition)).mp others
        refine ⟨(name, condition) :: entries, .cons field written rest, ?_⟩
        rw [same, appended condition, List.append_assoc, List.singleton_append]
      · rintro ⟨entries, written, same⟩
        cases written with
        | @cons _ _ condition _ entries field first others =>
            refine ⟨start.set name condition,
              FieldMap.addMember_eq_ok.mpr ⟨field, condition, first, rfl⟩, ?_⟩
            refine (ih (distinctAfter condition)).mpr ⟨entries, others, ?_⟩
            rw [same, appended condition, List.append_assoc, List.singleton_append]

theorem fieldMap_ofMembers_eq_ok {members : List (String × Json)} {conditions : FieldMap}
    (distinct : (members.map Prod.fst).Nodup) :
    FieldMap.ofMembers members = .ok conditions ↔ FieldsWritten members conditions.entries := by
  unfold FieldMap.ofMembers
  rw [foldlM_addMember_eq_ok (by simpa [OrderedMap.empty] using distinct)]
  constructor
  · rintro ⟨entries, written, same⟩
    rw [same]
    exact written
  · intro written
    exact ⟨conditions.entries, written, rfl⟩

theorem FieldsWritten.head_ne {members : List (String × Json)}
    {entries : List (String × Condition)} (written : FieldsWritten members entries) :
    ∀ name ∈ members.map Prod.fst, name.toList.head? ≠ some '$' := by
  induction written with
  | nil => simp
  | cons field first others ih =>
      intro name member
      rcases List.mem_cons.mp member with rfl | later
      · exact field
      · exact ih name later

theorem ofMembers_eq_ok {members : List (String × Json)} {filter : Filter}
    (distinct : (members.map Prod.fst).Nodup) :
    ofMembers members = .ok filter ↔
      ∃ conditions : FieldMap, FieldsWritten members conditions.entries ∧
        filter = .fields conditions := by
  unfold ofMembers
  constructor
  · intro made
    split at made
    · cases made
    · split at made
      · cases made
      · obtain ⟨conditions, read, same⟩ := map_eq_ok.mp made
        exact ⟨conditions, (fieldMap_ofMembers_eq_ok distinct).mp read, same.symm⟩
  · rintro ⟨conditions, written, rfl⟩
    have absent : ∀ connective : Connective, connective.key ∉ members.map Prod.fst := by
      intro connective present
      apply written.head_ne _ present
      cases connective <;> rfl
    have noAnd : "$and" ∉ members.map Prod.fst := absent .and
    have noOr : "$or" ∉ members.map Prod.fst := absent .or
    rw [if_neg noAnd, if_neg noOr]
    exact map_eq_ok.mpr ⟨conditions, (fieldMap_ofMembers_eq_ok distinct).mpr written, rfl⟩

theorem not_fieldsWritten_of_connective {connective : Connective} {value : Json}
    {entries : List (String × Condition)} :
    ¬ FieldsWritten [(connective.key, value)] entries := by
  intro written
  apply written.head_ne connective.key (by simp)
  cases connective <;> rfl

theorem written_object_iff {members : List (String × Json)} {filter : Filter}
    (apart : ∀ connective items, members ≠ [(Connective.key connective, .array items)]) :
    Written (.object members) filter ↔
      ∃ conditions : FieldMap, FieldsWritten members conditions.entries ∧
        filter = .fields conditions := by
  constructor
  · intro written
    cases written with
    | conjunction connective each => exact absurd rfl (apart connective _)
    | fields written => exact ⟨_, written, rfl⟩
  · rintro ⟨conditions, written, rfl⟩
    exact .fields written

theorem ofJson_object {members : List (String × Json)}
    (apart : ∀ key value, members = [(key, value)] → Connective.ofKey? key = none) :
    ofJson (.object members) = ofMembers members := by
  match members with
  | [] => rfl
  | [(key, value)] =>
      rw [ofJson, apart key value rfl]
  | _ :: _ :: _ => rfl

theorem ofJson_conjunction (connective : Connective) (value : Json) :
    ofJson (.object [(connective.key, value)]) = match value with
      | .array items => (ofItems items).map (.conjunction connective)
      | _ => .error (.termsNotArray connective.key) := by
  have found : Connective.ofKey? connective.key = some connective :=
    Connective.ofKey?_eq_some_iff.mpr rfl
  cases value <;> simp [ofJson, found]

theorem ofJson_conjunction_eq_ok {connective : Connective} {items : List Json}
    (each : ∀ terms, ofItems items = .ok terms ↔ AllWritten items terms) {filter : Filter} :
    ofJson (.object [(connective.key, .array items)]) = .ok filter ↔
      Written (.object [(connective.key, .array items)]) filter := by
  rw [ofJson_conjunction]
  constructor
  · intro made
    obtain ⟨terms, read, rfl⟩ := map_eq_ok.mp made
    exact .conjunction connective ((each terms).mp read)
  · intro written
    generalize same : Json.object [(connective.key, .array items)] = document at written
    cases written with
    | raw sql => cases same
    | @conjunction other others terms written =>
        simp only [Json.object.injEq, List.cons.injEq, Prod.mk.injEq, Json.array.injEq] at same
        obtain ⟨⟨named, rfl⟩, _⟩ := same
        have found : Connective.ofKey? connective.key = some other :=
          Connective.ofKey?_eq_some_iff.mpr named
        rw [Connective.ofKey?_eq_some_iff.mpr rfl] at found
        cases found
        exact map_eq_ok.mpr ⟨terms, (each terms).mpr written, rfl⟩
    | fields written =>
        cases same
        exact absurd written not_fieldsWritten_of_connective

theorem ofJson_object_eq_ok {members : List (String × Json)}
    (distinct : (members.map Prod.fst).Nodup) {filter : Filter}
    (apart : ∀ connective items, members ≠ [(Connective.key connective, .array items)]) :
    ofJson (.object members) = .ok filter ↔ Written (.object members) filter := by
  rw [written_object_iff apart]
  by_cases joined : ∃ connective value, members = [(Connective.key connective, value)]
  · obtain ⟨connective, value, rfl⟩ := joined
    rw [ofJson_conjunction]
    constructor
    · intro made
      cases value with
      | array items => exact absurd rfl (apart connective items)
      | _ => cases made
    · rintro ⟨conditions, written, rfl⟩
      exact absurd written not_fieldsWritten_of_connective
  · rw [ofJson_object, ofMembers_eq_ok distinct]
    rintro key value rfl
    cases found : Connective.ofKey? key with
    | none => rfl
    | some connective =>
        have same := Connective.ofKey?_eq_some_iff.mp found
        exact absurd ⟨connective, value, by rw [same]⟩ joined

mutual

theorem ofJson_eq_ok {document : Json} (settled : document.Settled) {filter : Filter} :
    ofJson document = .ok filter ↔ Written document filter := by
  match document with
  | .null => exact ⟨nofun, nofun⟩
  | .bool _ => exact ⟨nofun, nofun⟩
  | .number _ => exact ⟨nofun, nofun⟩
  | .array _ => exact ⟨nofun, nofun⟩
  | .string sql =>
      constructor
      · intro made
        cases made
        exact .raw sql
      · intro written
        cases written
        rfl
  | .object [(key, .array items)] =>
      by_cases joined : ∃ connective, key = Connective.key connective
      · obtain ⟨connective, rfl⟩ := joined
        exact ofJson_conjunction_eq_ok fun terms => ofItems_eq_ok settled.2.1
      · refine ofJson_object_eq_ok settled.1 ?_
        intro connective others same
        cases same
        exact joined ⟨connective, rfl⟩
  | .object [] | .object [(_, .null)] | .object [(_, .bool _)] | .object [(_, .number _)]
  | .object [(_, .string _)] | .object [(_, .object _)] | .object (_ :: _ :: _) =>
      exact ofJson_object_eq_ok settled.1 nofun

theorem ofItems_eq_ok {items : List Json} (settled : Json.SettledItems items)
    {terms : List Filter} : ofItems items = .ok terms ↔ AllWritten items terms := by
  match items with
  | [] =>
      constructor
      · intro made
        cases made
        exact .nil
      · intro written
        cases written
        rfl
  | item :: items =>
      rw [ofItems, bind_eq_ok]
      constructor
      · rintro ⟨term, first, rest⟩
        obtain ⟨others, made, same⟩ := bind_eq_ok.mp rest
        cases same
        exact .cons ((ofJson_eq_ok settled.1).mp first) ((ofItems_eq_ok settled.2).mp made)
      · intro written
        cases written with
        | cons first others =>
            refine ⟨_, (ofJson_eq_ok settled.1).mpr first, ?_⟩
            exact bind_eq_ok.mpr ⟨_, (ofItems_eq_ok settled.2).mpr others, rfl⟩

end

/--
Of the documents without repeated names, exactly those of the grammar are read as filters, each as
the filter that it describes; a fault anywhere in any other makes the whole of it invalid input.
-/
theorem read_iff_written {document : Json} (settled : document.Settled) :
    (∀ filter, read document = .ok filter ↔ Written document filter) ∧
    ((∀ filter, ¬ Written document filter) →
      ∃ message, read document = .error (.validation message)) := by
  have accepted : ∀ filter, read document = .ok filter ↔ Written document filter := by
    intro filter
    rw [← ofJson_eq_ok settled, read]
    cases ofJson document with
    | error fault => simp [mapError_error]
    | ok found => simp [mapError_ok]
  refine ⟨accepted, ?_⟩
  intro unwritten
  cases made : ofJson document with
  | error fault => exact ⟨fault.message, by rw [read, made, mapError_error]⟩
  | ok found => exact absurd ((ofJson_eq_ok settled).mp made) (unwritten found)

def half : Binary64 :=
  ⟨0x3fe0000000000000⟩

theorem isFinite_half : half.isFinite = true := by
  decide

def nested : Json :=
  .object [("$or", .array [.string "a = 1", .object [("$and", .array [.object [
    ("age", .object [("$lte", .number (.integer 99 (by decide))),
      ("$gt", .number (.integer (-3) (by decide)))]),
    ("serial", .number (.integer 18446744073709551615 (by decide))),
    ("ratio", .object [("$in", .array [.number (.real half isFinite_half), .null])]),
    ("name", .string "x")]])]])]

def nestedFilter : Filter :=
  .conjunction .or [.raw "a = 1", .conjunction .and [.fields (.ofList
    [("age", .within ((Bounds.none.above (.int (-3))).atMost (.int 99))),
      ("serial", .equals (.uint 18446744073709551615)),
      ("ratio", .oneOf [.float half, .null]),
      ("name", .equals (.text "x"))])]]

def overbound : Json :=
  .object [("$or", .array [.string "a = 1", .object [("$and", .array [.object [
    ("age", .object [("$lte", .number (.integer 99 (by decide))), ("$gt", .null),
      ("$lt", .null)])]])]])]

theorem read_iff_written_nested :
    nested.Settled ∧
    (∀ filter, Written nested filter ↔ filter = nestedFilter) ∧
    overbound.Settled ∧ (∀ filter, ¬ Written overbound filter) ∧
    ∃ message, read overbound = .error (.validation message) := by
  have settled : nested.Settled := by
    simp [nested, Json.Settled, Json.SettledItems, Json.SettledMembers]
  have settledOver : overbound.Settled := by
    simp [overbound, Json.Settled, Json.SettledItems, Json.SettledMembers]
  have made : read nested = .ok nestedFilter := by rfl
  have unwritten : ∀ filter, ¬ Written overbound filter := by
    intro filter written
    cases ((read_iff_written settledOver).1 filter).mpr written
  refine ⟨settled, ?_, settledOver, unwritten, (read_iff_written settledOver).2 unwritten⟩
  intro filter
  rw [← (read_iff_written settled).1 filter, made, Except.ok.injEq, eq_comm]

end Filter

end SqlComposer
