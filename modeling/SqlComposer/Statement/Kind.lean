import SqlComposer.Text.Blank

/-!
The kind of a statement, told from its first word. Blanks, comments and opening parentheses in
front of the word are skipped.
-/

namespace SqlComposer

inductive StatementKind where
  | select
  | insert
  | update
  | delete
  | other
deriving DecidableEq, Repr

namespace StatementKind

def name : StatementKind → String
  | .select => "Select"
  | .insert => "Insert"
  | .update => "Update"
  | .delete => "Delete"
  | .other => "Other"

def afterLine : List Char → List Char
  | [] => []
  | c :: rest => if c = '\n' then rest else afterLine rest

def afterClose : List Char → List Char
  | [] => []
  | '*' :: '/' :: rest => rest
  | _ :: rest => afterClose rest

theorem length_afterLine_le (text : List Char) : (afterLine text).length ≤ text.length := by
  induction text with
  | nil => simp [afterLine]
  | cons c rest ih =>
      by_cases ends : c = '\n'
      · simp [afterLine, ends]
      · simp only [afterLine, ends, if_false, List.length_cons]
        omega

theorem length_afterClose_le (text : List Char) : (afterClose text).length ≤ text.length := by
  fun_induction afterClose text with
  | case1 => simp
  | case2 rest => simp only [List.length_cons]; omega
  | case3 c rest _ ih => simp only [List.length_cons]; omega

theorem length_trimStart_le (text : List Char) :
    (Text.trimStart text).length ≤ text.length :=
  List.Sublist.length_le (List.dropWhile_sublist _)

/--
What is left of a text without the first comment or parenthesis in front of its first word, if
there is one. The star that opens a block comment may also be the star that closes it.
-/
def peel? (text : List Char) : Option (List Char) :=
  match Text.trimStart text with
  | '-' :: '-' :: rest => some (afterLine rest)
  | '/' :: '*' :: rest => some (afterClose ('*' :: rest))
  | '(' :: rest => some rest
  | _ => none

theorem length_peel?_lt {text rest : List Char} (peeled : peel? text = some rest) :
    rest.length < text.length := by
  have shorter := length_trimStart_le text
  unfold peel? at peeled
  split at peeled <;> rename_i front
  all_goals simp only [Option.some.injEq, reduceCtorEq] at peeled
  all_goals simp only [front, List.length_cons] at shorter
  · have := length_afterLine_le ‹List Char›
    grind
  · have := length_afterClose_le ('*' :: ‹List Char›)
    grind
  · grind

def skipFront (text : List Char) : List Char :=
  match peeled : peel? text with
  | some rest =>
    have : rest.length < text.length := length_peel?_lt peeled
    skipFront rest
  | none => Text.trimStart text
termination_by text.length

def startsWith (word : String) (text : List Char) : Bool :=
  (text.take word.length).map Char.toUpper == word.toList

def ofSql (sql : String) : StatementKind :=
  let front := skipFront sql.toList
  if startsWith "SELECT" front || startsWith "WITH" front then .select
  else if startsWith "INSERT" front then .insert
  else if startsWith "UPDATE" front then .update
  else if startsWith "DELETE" front then .delete
  else .other

end StatementKind

end SqlComposer
