import SqlComposer.Proofs.Session.Insertion

/-!
The two ways in which a server tells the identity of an inserted row, beside the result or in the
row itself. An insertion ends alike in both.
-/

namespace SqlComposer

/-- The forms in which a row may hold an identity: a number, or its numeral among blanks. -/
inductive Value.Spells : Value → UInt64 → Prop
  | unsigned (identity : UInt64) : Spells (.uint identity) identity
  | signed {n : Int64} {identity : UInt64} (fits : n.toInt = identity.toNat) :
    Spells (.int n) identity
  | numeral {before after : String} (blankBefore : Text.allBlank before = true)
    (blankAfter : Text.allBlank after = true) (identity : UInt64) :
    Spells (.text (before ++ identity.toNat.repr ++ after)) identity

theorem Value.Spells.identifies {value : Value} {identity : UInt64}
    (spells : value.Spells identity) : value.Identifies identity := by
  cases spells with
  | unsigned => exact .unsigned identity
  | signed fits => exact .signed fits
  | @numeral before after blankBefore blankAfter =>
      have digits : (identity.toNat : Int).repr = identity.toNat.repr := rfl
      have trimmed := @trim_repr before after identity.toNat blankBefore blankAfter
      rw [digits] at trimmed
      apply Identifies.numeral
      rw [trimmed, ← digits]
      exact IntegerType.isNumeral_repr (.inr (Int.natCast_nonneg _))

namespace Output

variable {idColumn : String} {row : Row}

theorem reports_of_spells {value : Value} {identity : UInt64} (others : List Row)
    (places : row.Places idColumn (some value)) (spells : value.Spells identity) :
    Reports idColumn (.rows (row :: others)) (some identity) := by
  apply Reports.number others places.mem
  rw [places.cell_eq]
  exact spells.identifies

theorem reports_of_unset {held : Option Value} (others : List Row)
    (places : row.Places idColumn held) (unset : held.getD .null = .null) :
    Reports idColumn (.rows (row :: others)) none :=
  .null others places.mem (places.cell_eq.trans unset)

end Output

namespace TableQuery

theorem insert_eq_ok {target : TableQuery} {document : Document} {sql : String} {output : Output}
    {identity : Option UInt64} {session : Session ScriptedPool}
    (made : target.query.insertSql document session.pool.dialect = .ok sql)
    (reaches : target.router.Reaches session.pool)
    (answered : target.router.answer session.pool = .ok output)
    (reports : output.Reports target.query.idColumn identity) :
    ((target.insert document).runIn session).1 = .ok identity := by
  have statement : (Operation.insert target document).statement? session.pool.dialect = some sql :=
    congrArg Except.toOption made
  exact (Operation.ends_of_answered statement reaches answered).1.trans reports.read

/--
An identity that is told beside the result and one that stands in the first returned row, at the
first place of the id column, come to the same, whatever else is in the row and behind it. No
identity beside the result comes to the same as no row, no such column and no value in it. An
insertion that makes no statement waits for no answer.
-/
theorem identities_alike (target : TableQuery) (document : Document)
    (session : Session ScriptedPool) :
    let ended := (target.insert document).runIn session
    (∀ fault, target.query.insertSql document session.pool.dialect = .error fault →
      ∃ message, ended = (.error (.validation message), session)) ∧
    ∀ sql output, target.query.insertSql document session.pool.dialect = .ok sql →
      target.router.Reaches session.pool → target.router.answer session.pool = .ok output →
      (∀ identity, ((∃ affected, output = .done affected (some identity)) ∨
          ∃ row others value, output = .rows (row :: others) ∧
            row.Places target.query.idColumn (some value) ∧ value.Spells identity) →
        ended.1 = .ok (some identity)) ∧
      (((∃ affected, output = .done affected none) ∨ output = .rows [] ∨
          ∃ row others, output = .rows (row :: others) ∧
            (target.query.idColumn ∉ row.columns ∨
              row.Places target.query.idColumn (some .null) ∨
              row.Places target.query.idColumn none)) →
        ended.1 = .ok none) := by
  intro ended
  constructor
  · intro fault unmade
    have statement : (Operation.insert target document).statement? session.pool.dialect = none :=
      congrArg Except.toOption unmade
    exact Operation.refuses_of_unmade statement
  · intro sql output made reaches answered
    constructor
    · intro identity told
      apply insert_eq_ok made reaches answered
      rcases told with ⟨affected, rfl⟩ | ⟨row, others, value, rfl, places, spells⟩
      · exact .done affected (some identity)
      · exact Output.reports_of_spells others places spells
    · intro untold
      apply insert_eq_ok made reaches answered
      rcases untold with ⟨affected, rfl⟩ | rfl | ⟨row, others, rfl, absent | null | ended⟩
      · exact .done affected none
      · exact .noRow
      · exact .noColumn others absent
      · exact Output.reports_of_unset others null rfl
      · exact Output.reports_of_unset others ended rfl

def answering (output : Output) : ScriptedPool :=
  (ScriptedPool.ofDialect .postgres).reply (.ok output)

theorem identities_alike_greatest :
    let greatest : UInt64 := 18446744073709551615
    let full : Row := ⟨["name", "id", "id"], [.text "Ann", .text "\t18446744073709551615 ", .int 7]⟩
    let short : Row := ⟨["name", "id"], [.text "Ann"]⟩
    ((joining.insert ann).runIn ⟨answering (.done 1 (some greatest)), []⟩).1 =
      .ok (some greatest) ∧
    ((joining.insert ann).runIn ⟨answering (.rows [full, short]), []⟩).1 = .ok (some greatest) ∧
    ((joining.insert ann).runIn ⟨answering (.rows [short, full]), []⟩).1 = .ok none := by
  intro greatest full short
  have made : joining.query.insertSql ann .postgres =
      .ok "INSERT INTO users (name) VALUES ('Ann') RETURNING *" := rfl
  have alike := fun output =>
    (identities_alike joining ann ⟨answering output, []⟩).2 _ output made ⟨rfl, nofun⟩ rfl
  have numeral : Value.Spells (.text "\t18446744073709551615 ") greatest := by
    have text : "\t" ++ greatest.toNat.repr ++ " " = "\t18446744073709551615 " := by decide
    rw [← text]
    exact .numeral (by decide) (by decide) greatest
  refine ⟨(alike _).1 greatest (.inl ⟨1, rfl⟩), (alike _).1 greatest (.inr ?_),
    (alike _).2 (.inr (.inr ?_))⟩
  · exact ⟨full, [short], _, rfl, ⟨["name"], ["id"], rfl, by decide, rfl⟩, numeral⟩
  · exact ⟨short, [full], rfl, .inr (.inr ⟨["name"], [], rfl, by decide, rfl⟩)⟩

end TableQuery

end SqlComposer
