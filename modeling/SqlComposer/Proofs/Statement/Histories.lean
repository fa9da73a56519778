import Mathlib.Data.List.Forall2
import SqlComposer.Proofs.Filter.Compiled
import SqlComposer.Proofs.Record.Settings
import SqlComposer.Proofs.Statement.Refusal

/-!
Documents and conditions on fields after any settings, and what is written of them: each column
and each field once, with its last value or condition.
-/

namespace SqlComposer

theorem mapM_eq_ok_iff_forall₂ {ε α β : Type} {make : α → Except ε β} {items : List α}
    {results : List β} :
    items.mapM make = .ok results ↔
      List.Forall₂ (fun item result => make item = .ok result) items results := by
  induction items generalizing results with
  | nil => simp [pure, Except.pure, eq_comm]
  | cons item items ih =>
      rw [mapM_cons_eq_ok, List.forall₂_cons_left_iff]
      simp only [ih]

theorem Filter.compile_fields_eq_ok {conditions : FieldMap} {dialect : Dialect} {sql : String} :
    (fields conditions).compile dialect = .ok sql ↔
      ∃ clauses, List.Forall₂ (fun entry clause => entry.2.compile dialect entry.1 = .ok clause)
        conditions.entries clauses ∧ " AND ".intercalate clauses = sql := by
  rw [compile, FieldMap.compile_eq_ok]
  simp only [mapM_eq_ok_iff_forall₂]

namespace Query

variable {query : Query} {document : Document} {dialect : Dialect} {sql : String}

theorem insertSql_eq_ok_iff :
    query.insertSql document dialect = .ok sql ↔
      Text.allBlank query.table = false ∧ document.entries ≠ [] ∧
        query.insertion document dialect ++ suffix dialect.returning? = sql := by
  by_cases made : Text.allBlank query.table = false ∧ document.entries ≠ []
  · obtain ⟨named, filled⟩ := made
    simp [insertSql_eq named filled, named, filled]
  · have refused : (query.insertSql document dialect).toOption = none := by
      rw [insertSql_eq_none_iff]
      grind
    constructor
    · intro inserted
      rw [inserted] at refused
      cases refused
    · rintro ⟨named, filled, _⟩
      exact absurd ⟨named, filled⟩ made

theorem updateSql_eq_ok_iff :
    query.updateSql document dialect = .ok sql ↔
      Text.allBlank query.table = false ∧ document.entries ≠ [] ∧
        ∃ clause, whereClause dialect query.filter = .ok clause ∧
          query.update document dialect ++ suffix clause = sql := by
  by_cases made : Text.allBlank query.table = false ∧ document.entries ≠ []
  · obtain ⟨named, filled⟩ := made
    simp [updateSql_eq named filled, named, filled, map_eq_ok]
  · have refused : (query.updateSql document dialect).toOption = none := by
      rw [updateSql_eq_none_iff, IsMalformed]
      grind
    constructor
    · intro updated
      rw [updated] at refused
      cases refused
    · rintro ⟨named, filled, _⟩
      exact absurd ⟨named, filled⟩ made

end Query

open OrderedMap

/--
However a map is built from settings, its entries are what the settings come to, and only such a
map is built from them; building it again from its entries leaves it as it is. A document of a
JSON object has the object's names. So insertions and updates write each column once, with the
value it was last set to, and the predicate of conditions on fields has one clause for each field,
made of its last condition.
-/
theorem histories_settle :
    (∀ (α : Type) (settings : List (String × α)) (map : OrderedMap α),
      BuiltFrom settings map ↔ Settles settings map.entries) ∧
    (∀ (α : Type) (map again : OrderedMap α), BuiltFrom map.entries again ↔ again = map) ∧
    (∀ members : List (String × Json), (members.map Prod.fst).Nodup →
      ∃ document, Document.ofJson (.object members) = .ok document ∧
        document.names = members.map Prod.fst ∧ document.size = members.length) ∧
    (∀ (settings : List (String × Value)) (document : Document), BuiltFrom settings document →
      ∀ query dialect sql,
        (Query.insertSql query document dialect = .ok sql ↔
          Text.allBlank query.table = false ∧ ∃ written, Settles settings written ∧ written ≠ [] ∧
            "INSERT INTO " ++ query.table ++ " (" ++ ",".intercalate (written.map Prod.fst) ++
              ") VALUES (" ++ renderList dialect (written.map Prod.snd) ++ ")" ++
              Query.suffix dialect.returning? = sql) ∧
        (Query.updateSql query document dialect = .ok sql ↔
          Text.allBlank query.table = false ∧ ∃ written, Settles settings written ∧ written ≠ [] ∧
            ∃ clause, Query.whereClause dialect query.filter = .ok clause ∧
              "UPDATE " ++ query.table ++ " SET " ++ ", ".intercalate (written.map fun entry =>
                entry.1 ++ " = " ++ entry.2.render dialect) ++ Query.suffix clause = sql)) ∧
    ∀ (settings : List (String × Condition)) (conditions : FieldMap),
      BuiltFrom settings conditions → ∀ dialect sql,
        (Filter.fields conditions).compile dialect = .ok sql ↔
          ∃ written clauses, Settles settings written ∧
            List.Forall₂ (fun entry clause => entry.2.compile dialect entry.1 = .ok clause)
              written clauses ∧ " AND ".intercalate clauses = sql := by
  refine ⟨fun _ _ _ => builtFrom_iff, fun _ _ _ => builtFrom_entries_iff, ?_, ?_, ?_⟩
  · intro members distinct
    have entries := Document.entries_ofMembers distinct
    refine ⟨_, rfl, ?_, ?_⟩
    · rw [names, entries, List.map_map]
      rfl
    · rw [size, entries, List.length_map]
  · intro settings document built query dialect sql
    constructor
    · rw [Query.insertSql_eq_ok_iff]
      simp only [built.settles_iff, exists_eq_left]
      rfl
    · rw [Query.updateSql_eq_ok_iff]
      simp only [built.settles_iff, exists_eq_left]
      rfl
  · intro settings conditions built dialect sql
    rw [Filter.compile_fields_eq_ok]
    simp only [built.settles_iff, exists_and_left, exists_eq_left]

theorem histories_settle_replaced :
    let first : List (String × Value) := [("name", .text "Ann"), ("age", .int 3)]
    let settings := first ++ [("name", .text "O'Neil")]
    let document : Document := (OrderedMap.ofList first).set "name" (.text "O'Neil")
    let young : Condition := .equals (.int 3)
    let grown : Condition := .within (Bounds.none.atLeast (.int 4))
    let conditions : FieldMap := (OrderedMap.empty.set "age" young).set "age" grown
    BuiltFrom settings document ∧
    Settles settings [("name", .text "O'Neil"), ("age", .int 3)] ∧
    (Query.ofTable "users").insertSql document .postgres =
      .ok "INSERT INTO users (name,age) VALUES ('O''Neil',3) RETURNING *" ∧
    (Query.ofTable "users").updateSql document .postgres =
      .ok "UPDATE users SET name = 'O''Neil', age = 3" ∧
    BuiltFrom [("age", young), ("age", grown)] conditions ∧
    (Filter.fields conditions).compile .postgres = .ok "age >= 4" ∧
    ([("b", Json.null), ("a", .array [])].map Prod.fst).Nodup ∧
    ∃ document, Document.ofJson (.object [("b", .null), ("a", .array [])]) = .ok document ∧
      document.names = ["b", "a"] ∧ document.size = 2 := by
  intro first settings document young grown conditions
  obtain ⟨built_iff, -, read, written, compiled⟩ := histories_settle
  have built : BuiltFrom settings document := .set (.collected first) "name" (.text "O'Neil")
  have fields : BuiltFrom [("age", young), ("age", grown)] conditions :=
    .set (.set .empty "age" young) "age" grown
  have settles := (built_iff Value settings document).mp built
  have query := written settings document built (Query.ofTable "users") .postgres
  have distinct : ([("b", Json.null), ("a", .array [])].map Prod.fst).Nodup := by decide
  refine ⟨built, settles, ?_, ?_, fields, ?_, distinct, read _ distinct⟩
  · exact (query _).1.mpr ⟨by decide, _, settles, nofun, by decide⟩
  · exact (query _).2.mpr ⟨by decide, _, settles, nofun, none, rfl, by decide⟩
  · have last := (built_iff Condition _ conditions).mp fields
    exact (compiled _ conditions fields .postgres _).mpr
      ⟨_, ["age >= 4"], last, .cons rfl .nil, rfl⟩

end SqlComposer
