import SqlComposer.Session.Pool

/-!
Replies of a node. A node answers a statement with messages, which are collected into one
output. All rows of a reply have the column names of its first row.
-/

namespace SqlComposer

inductive NodeMessage where
  | columns (names : List String)
  | row (cells : List (Option String))
  | complete (count : UInt64)
  | empty
  | failed (state message : String)
  | closed
deriving DecidableEq, Repr

inductive ResultMessage where
  | row (columns : List String) (cells : List (Option String))
  | complete (count : UInt64)
  | other
deriving DecidableEq, Repr

inductive ReplyFault where
  | failed (state message : String)
  | closed
  | unexpected
  | malformed
deriving DecidableEq, Repr

def ReplyFault.message : ReplyFault → String
  | .failed state message => state ++ ": " ++ message
  | .closed => "connection closed"
  | .unexpected => "unexpected message from server"
  | .malformed => "error parsing response from server"

/-- The messages of a result, each row with the names that were announced last. A row has one cell
for each of them. What comes after a fault is lost. -/
def resultMessages (names : Option (List String)) :
    List NodeMessage → Except ReplyFault (List ResultMessage)
  | [] => .ok []
  | .failed state message :: _ => .error (.failed state message)
  | .closed :: _ => .error .closed
  | .columns names :: rest => (resultMessages (some names) rest).map (.other :: ·)
  | .row cells :: rest =>
    match names with
    | none => .error .unexpected
    | some columns =>
      if cells.length = columns.length then
        (resultMessages names rest).map (.row columns cells :: ·)
      else .error .malformed
  | .complete count :: rest => (resultMessages names rest).map (.complete count :: ·)
  | .empty :: rest => (resultMessages names rest).map (.complete 0 :: ·)

def cellValue : Option String → Value
  | none => .null
  | some s => .text s

structure Collection where
  names : Option (List String)
  rows : List Row
  count : UInt64

namespace Collection

def empty : Collection :=
  ⟨none, [], 0⟩

def add (collection : Collection) : ResultMessage → Collection
  | .row columns cells =>
    let names := collection.names.getD columns
    { collection with
      names := some names
      rows := collection.rows ++ [⟨names, cells.map cellValue⟩] }
  | .complete count => { collection with count := count }
  | .other => collection

def output (collection : Collection) : Output :=
  if collection.rows.isEmpty then .done collection.count none else .rows collection.rows

end Collection

def collectOutput (messages : List ResultMessage) : Output :=
  (messages.foldl Collection.add .empty).output

end SqlComposer
