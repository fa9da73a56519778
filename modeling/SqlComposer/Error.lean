import SqlComposer.Text.Outline

/-!
Errors of a session. Each tells how far a call got; one that comes from a statement keeps the
statement's text.
-/

namespace SqlComposer

structure DriverError where
  message : String
deriving DecidableEq, Repr

inductive SqlError where
  | connection (message : String)
  | databaseSelect (message sql : String)
  | validation (message : String)
  | query (message sql : String)
  | decode (column message : String)
deriving DecidableEq, Repr

namespace SqlError

def kind : SqlError → String
  | .connection _ => "Connection"
  | .databaseSelect _ _ => "DatabaseSelect"
  | .validation _ => "Validation"
  | .query _ _ => "Query"
  | .decode _ _ => "Decode"

def message : SqlError → String
  | .connection message => message
  | .databaseSelect message _ => message
  | .validation message => message
  | .query message _ => message
  | .decode _ message => message

def sql : SqlError → String
  | .databaseSelect _ sql => sql
  | .query _ sql => sql
  | _ => ""

def text : SqlError → String
  | .connection message => "Connection error: " ++ message
  | .databaseSelect message _ => "Select DB error: " ++ message
  | .validation message => "Validation error: " ++ message
  | .query message _ => "Query error: " ++ message
  | .decode column message => "Decode error on column '" ++ column ++ "': " ++ message

def isValidation : SqlError → Bool
  | .validation _ => true
  | _ => false

def isConnection : SqlError → Bool
  | .connection _ => true
  | _ => false

def outline (error : SqlError) : String :=
  match error with
  | .connection message => Outline.variant error.kind [Outline.text message]
  | .validation message => Outline.variant error.kind [Outline.text message]
  | .databaseSelect message sql =>
    Outline.record error.kind [("message", Outline.text message), ("sql", Outline.text sql)]
  | .query message sql =>
    Outline.record error.kind [("message", Outline.text message), ("sql", Outline.text sql)]
  | .decode column message =>
    Outline.record error.kind
      [("column", Outline.text column), ("message", Outline.text message)]

end SqlError

end SqlComposer
