import Mathlib.Data.List.Forall2
import SqlComposer.Cluster.Reply
import SqlComposer.Proofs.Outcome
import SqlComposer.Proofs.Record.Cells

/-!
Rows of a reply and the names they are put under. Messages are collected one by one; every row is
put under the names of the first, whichever names it was sent under itself.
-/

namespace SqlComposer

theorem Row.cells_eq_iff (left right : List String) (values : List Value) :
    (⟨left, values⟩ : Row).cells = (⟨right, values⟩ : Row).cells ↔ left = right := by
  constructor
  · intro cells
    have names := congrArg (List.map Prod.fst) cells
    rwa [Row.names_cells, Row.names_cells] at names
  · intro names
    rw [names]

namespace ResultMessage

def row? : ResultMessage → Option (List String × List (Option String))
  | .row columns cells => some (columns, cells)
  | _ => none

def count? : ResultMessage → Option UInt64
  | .complete count => some count
  | _ => none

def sentRow? (message : ResultMessage) : Option Row :=
  message.row?.map fun (columns, cells) => ⟨columns, cells.map cellValue⟩

def sentRows (messages : List ResultMessage) : List Row :=
  messages.filterMap sentRow?

def lastCount (messages : List ResultMessage) : UInt64 :=
  (messages.filterMap count?).getLast?.getD 0

def gathered (messages : List ResultMessage) : Output :=
  match messages.filterMap row? with
  | [] => .done (lastCount messages) none
  | (names, cells) :: rows =>
    .rows (((names, cells) :: rows).map fun row => ⟨names, row.2.map cellValue⟩)

theorem gathered_eq (messages : List ResultMessage) :
    gathered messages =
      match sentRows messages with
      | [] => .done (lastCount messages) none
      | first :: rest => .rows ((first :: rest).map fun row => ⟨first.columns, row.values⟩) := by
  have sent : sentRows messages = (messages.filterMap row?).map fun (columns, cells) =>
      ⟨columns, cells.map cellValue⟩ := (List.map_filterMap ..).symm
  rw [gathered, sent]
  cases messages.filterMap row? with
  | nil => rfl
  | cons first rest => simp

theorem sentRows_append_row (seen : List ResultMessage) (columns : List String)
    (cells : List (Option String)) :
    sentRows (seen ++ [.row columns cells]) =
      sentRows seen ++ [⟨columns, cells.map cellValue⟩] := by
  rw [sentRows, List.filterMap_append]
  rfl

theorem sentRows_append_of_row?_eq_none (seen : List ResultMessage) {message : ResultMessage}
    (none : message.row? = none) : sentRows (seen ++ [message]) = sentRows seen := by
  have unsent : message.sentRow? = Option.none := by rw [sentRow?, none, Option.map_none]
  rw [sentRows, List.filterMap_append, List.filterMap_cons_none unsent, List.filterMap_nil,
    List.append_nil, sentRows]

theorem lastCount_append_complete (seen : List ResultMessage) (count : UInt64) :
    lastCount (seen ++ [.complete count]) = count := by
  have counted : [complete count].filterMap count? = [count] := rfl
  rw [lastCount, List.filterMap_append, counted, List.getLast?_concat, Option.getD_some]

theorem lastCount_append_of_count?_eq_none (seen : List ResultMessage) {message : ResultMessage}
    (none : message.count? = none) : lastCount (seen ++ [message]) = lastCount seen := by
  rw [lastCount, List.filterMap_append, List.filterMap_cons_none none, List.filterMap_nil,
    List.append_nil, lastCount]

end ResultMessage

open ResultMessage

namespace Collection

/-- What a collection is of the messages seen so far. -/
structure Collected (seen : List ResultMessage) (collection : Collection) : Prop where
  names : collection.names = (sentRows seen).head?.map Row.columns
  rows : collection.rows = (sentRows seen).map fun row => ⟨collection.names.getD [], row.values⟩
  count : collection.count = lastCount seen

theorem collected_empty : Collected [] empty :=
  ⟨rfl, rfl, rfl⟩

theorem Collected.add {seen : List ResultMessage} {collection : Collection}
    (collected : Collected seen collection) (message : ResultMessage) :
    Collected (seen ++ [message]) (collection.add message) := by
  obtain ⟨names, rows, count⟩ := collected
  cases message with
  | other =>
      have sent := sentRows_append_of_row?_eq_none seen (rfl : other.row? = none)
      have counted := lastCount_append_of_count?_eq_none seen (rfl : other.count? = none)
      exact ⟨by rw [sent]; exact names, by rw [sent]; exact rows, by rw [counted]; exact count⟩
  | complete n =>
      have sent := sentRows_append_of_row?_eq_none seen (rfl : (complete n).row? = none)
      have counted := lastCount_append_complete seen n
      exact ⟨by rw [sent]; exact names, by rw [sent]; exact rows, counted.symm⟩
  | row columns cells =>
      have sent := sentRows_append_row seen columns cells
      have counted := lastCount_append_of_count?_eq_none seen
        (rfl : (row columns cells).count? = none)
      refine ⟨?_, ?_, by rw [counted]; exact count⟩
      · rw [sent]
        cases seenRows : sentRows seen with
        | nil => simp [Collection.add, names, seenRows]
        | cons first others => simp [Collection.add, names, seenRows]
      · rw [sent, List.map_append]
        cases seenRows : sentRows seen with
        | nil => simp [Collection.add, rows, seenRows]
        | cons first others => simp [Collection.add, rows, names, seenRows]

theorem Collected.foldl {seen : List ResultMessage} {collection : Collection}
    (collected : Collected seen collection) (messages : List ResultMessage) :
    Collected (seen ++ messages) (messages.foldl Collection.add collection) := by
  induction messages generalizing seen collection with
  | nil => simpa using collected
  | cons message messages ih => simpa using ih (collected.add message)

end Collection

theorem collectOutput_eq (messages : List ResultMessage) :
    collectOutput messages =
      match sentRows messages with
      | [] => .done (lastCount messages) none
      | first :: rest => .rows ((first :: rest).map fun row => ⟨first.columns, row.values⟩) := by
  obtain ⟨names, rows, count⟩ := Collection.collected_empty.foldl messages
  rw [List.nil_append] at names rows count
  rw [collectOutput, Collection.output]
  cases sent : sentRows messages with
  | nil => simp [rows, sent, count]
  | cons first rest => simp [rows, sent, names]

/-- Each row keeps its place and its values. It keeps its own names exactly if they are those of
the first row. -/
theorem collectOutput_rows (messages : List ResultMessage) :
    collectOutput messages = gathered messages ∧
    match sentRows messages with
    | [] => collectOutput messages = .done (lastCount messages) none
    | first :: rest => ∃ found, collectOutput messages = .rows found ∧
        List.Forall₂ (fun sent kept => kept.columns = first.columns ∧ kept.values = sent.values ∧
          (kept.cells = sent.cells ↔ sent.columns = first.columns)) (first :: rest) found := by
  have collected := collectOutput_eq messages
  refine ⟨collected.trans (gathered_eq messages).symm, ?_⟩
  cases sent : sentRows messages with
  | nil => rwa [sent] at collected
  | cons first rest =>
      rw [sent] at collected
      refine ⟨_, collected, ?_⟩
      rw [List.forall₂_map_right_iff, List.forall₂_same]
      intro row _
      exact ⟨rfl, rfl, (Row.cells_eq_iff first.columns row.columns row.values).trans eq_comm⟩

/-- Two statements in one reply: the row of the second is put under the names of the first. -/
theorem collectOutput_second_result :
    let reply : List NodeMessage := [.columns ["a"], .row [some "1"], .complete 1,
      .columns ["b"], .row [some "2"], .complete 1]
    ∃ messages, resultMessages none reply = .ok messages ∧
      sentRows messages = [⟨["a"], [.text "1"]⟩, ⟨["b"], [.text "2"]⟩] ∧
      collectOutput messages = .rows [⟨["a"], [.text "1"]⟩, ⟨["a"], [.text "2"]⟩] ∧
      (⟨["a"], [.text "2"]⟩ : Row).cells ≠ (⟨["b"], [.text "2"]⟩ : Row).cells := by
  refine ⟨_, rfl, rfl, rfl, ?_⟩
  intro same
  exact absurd ((Row.cells_eq_iff _ _ _).mp same) (by decide)

theorem announced_of_resultMessages {names : Option (List String)} {reply : List NodeMessage}
    {messages : List ResultMessage} (read : resultMessages names reply = .ok messages)
    {columns : List String} {cells : List (Option String)}
    (sent : row columns cells ∈ messages) :
    (names = some columns ∨ .columns columns ∈ reply) ∧ cells.length = columns.length := by
  induction reply generalizing names messages with
  | nil =>
      cases read
      cases sent
  | cons message reply ih =>
      have later {names} {others : List ResultMessage}
          (readOthers : resultMessages names reply = .ok others)
          (sentLater : row columns cells ∈ others) :
          (names = some columns ∨ .columns columns ∈ message :: reply) ∧
            cells.length = columns.length := by
        obtain ⟨announced, complete⟩ := ih readOthers sentLater
        exact ⟨announced.imp_right (List.mem_cons_of_mem message), complete⟩
      cases message with
      | failed | closed => cases read
      | complete | empty =>
          obtain ⟨others, readOthers, rfl⟩ := map_eq_ok.mp read
          have sentLater := List.mem_of_ne_of_mem (by simp) sent
          exact later readOthers sentLater
      | columns announced =>
          obtain ⟨others, readOthers, rfl⟩ := map_eq_ok.mp read
          obtain ⟨named, complete⟩ := later readOthers (List.mem_of_ne_of_mem (by simp) sent)
          refine ⟨.inr ?_, complete⟩
          rcases named with same | named
          · cases same
            exact List.mem_cons_self
          · exact named
      | row ownCells =>
          cases names with
          | none => cases read
          | some announced =>
              rw [resultMessages] at read
              by_cases complete : ownCells.length = announced.length
              · rw [if_pos complete] at read
                obtain ⟨others, readOthers, rfl⟩ := map_eq_ok.mp read
                rcases List.mem_cons.mp sent with same | sentLater
                · cases same
                  exact ⟨.inl rfl, complete⟩
                · exact later readOthers sentLater
              · rw [if_neg complete] at read
                cases read

/-- A reply that announces names only once keeps every row under its own names. -/
theorem collectOutput_of_announced_once {names : List String} {reply : List NodeMessage}
    {messages : List ResultMessage} (read : resultMessages none reply = .ok messages)
    (once : ∀ columns, NodeMessage.columns columns ∈ reply → columns = names)
    (found : sentRows messages ≠ []) : collectOutput messages = .rows (sentRows messages) := by
  have named : ∀ row ∈ sentRows messages, row.columns = names := by
    intro row sent
    obtain ⟨message, member, rowOf⟩ := List.mem_filterMap.mp sent
    cases message with
    | row columns cells =>
        cases rowOf
        rcases (announced_of_resultMessages read member).1 with none | announced
        · cases none
        · exact once columns announced
    | complete | other => cases rowOf
  rw [collectOutput_eq]
  cases sent : sentRows messages with
  | nil => exact absurd sent found
  | cons first rest =>
      rw [sent] at named
      have first_named := named first List.mem_cons_self
      have same : ∀ row ∈ first :: rest, (⟨first.columns, row.values⟩ : Row) = row := by
        intro row member
        rw [first_named, ← named row member]
      exact congrArg Output.rows ((List.map_congr_left same).trans (List.map_id' _))

end SqlComposer
