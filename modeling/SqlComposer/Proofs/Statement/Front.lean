import Mathlib.Data.List.Infix
import SqlComposer.Statement.Kind

/-!
What may stand in front of a statement without changing its kind: blanks, opening parentheses and
comments, but for a block comment that begins with a slash. There the star that opens the comment
and the slash are taken for its end.
-/

namespace SqlComposer.StatementKind

inductive FrontItem where
  | blanks (text : String) (blank : Text.allBlank text = true)
  | line (body : String) (single : '\n' ∉ body.toList)
  | block (body : String) (unclosed : ¬ ['*', '/'] <:+: body.toList)
  | paren

namespace FrontItem

def text : FrontItem → String
  | .blanks text _ => text
  | .line body _ => "--" ++ body ++ "\n"
  | .block body _ => "/*" ++ body ++ "*/"
  | .paren => "("

def ClosesEarly : FrontItem → Prop
  | .block body _ => body.toList.head? = some '/'
  | _ => False

end FrontItem

def front (items : List FrontItem) : String :=
  String.join (items.map FrontItem.text)

theorem afterLine_append {body : List Char} (single : '\n' ∉ body) (rest : List Char) :
    afterLine (body ++ '\n' :: rest) = rest := by
  induction body with
  | nil => simp [afterLine]
  | cons c body ih =>
      rw [List.mem_cons, not_or] at single
      simp [afterLine, Ne.symm single.1, ih single.2]

theorem afterClose_append {body : List Char} (unclosed : ¬ ['*', '/'] <:+: body)
    (rest : List Char) : afterClose (body ++ '*' :: '/' :: rest) = rest := by
  induction body with
  | nil => rfl
  | cons c body ih =>
      have later : ¬ ['*', '/'] <:+: body := fun found => unclosed (List.infix_cons found)
      have passed : afterClose (c :: (body ++ '*' :: '/' :: rest)) =
          afterClose (body ++ '*' :: '/' :: rest) := by
        rw [afterClose]
        intro next star slash
        cases body with
        | nil => simp at slash
        | cons d body =>
            obtain ⟨rfl, _⟩ := List.cons.inj slash
            subst star
            exact unclosed (List.prefix_append ['*', '/'] body).isInfix
      rw [List.cons_append, passed, ih later]

theorem skipFront_eq (text : List Char) :
    skipFront text = match peel? text with
      | some rest => skipFront rest
      | none => Text.trimStart text := by
  rw [skipFront]
  split
  · rename_i rest peeled
    simp only [peeled]
  · rename_i peeled
    simp only [peeled]

theorem skipFront_blanks {blanks : List Char} (blank : blanks.all Text.isBlank = true)
    (rest : List Char) : skipFront (blanks ++ rest) = skipFront rest := by
  have trimmed := Text.trimStart_append blank rest
  have peeled : peel? (blanks ++ rest) = peel? rest := by rw [peel?, peel?, trimmed]
  rw [skipFront_eq, skipFront_eq rest, peeled, trimmed]

theorem skipFront_line {body : List Char} (single : '\n' ∉ body) (rest : List Char) :
    skipFront ('-' :: '-' :: (body ++ '\n' :: rest)) = skipFront rest := by
  have solid := @Text.trimStart_eq_self '-' ('-' :: (body ++ '\n' :: rest)) (by decide)
  have peeled : peel? ('-' :: '-' :: (body ++ '\n' :: rest)) = some rest := by
    simp only [peel?, solid, afterLine_append single]
  rw [skipFront_eq, peeled]

theorem skipFront_paren (rest : List Char) : skipFront ('(' :: rest) = skipFront rest := by
  have solid := @Text.trimStart_eq_self '(' rest (by decide)
  have peeled : peel? ('(' :: rest) = some rest := by simp only [peel?, solid]
  rw [skipFront_eq, peeled]

/-- The end of a block comment is looked for from the star of its opening on. -/
theorem skipFront_block (text : List Char) :
    skipFront ('/' :: '*' :: text) = skipFront (afterClose ('*' :: text)) := by
  have solid := @Text.trimStart_eq_self '/' ('*' :: text) (by decide)
  have peeled : peel? ('/' :: '*' :: text) = some (afterClose ('*' :: text)) := by
    simp only [peel?, solid]
  rw [skipFront_eq, peeled]

theorem infix_star_iff {body : List Char} :
    ['*', '/'] <:+: '*' :: body ↔ body.head? = some '/' ∨ ['*', '/'] <:+: body := by
  rw [List.infix_cons_iff, List.cons_prefix_cons]
  cases body with
  | nil => simp
  | cons c body => simp [@eq_comm Char '/']

theorem afterClose_block {body : List Char} (unclosed : ¬ ['*', '/'] <:+: body)
    (late : body.head? ≠ some '/') (rest : List Char) :
    afterClose ('*' :: (body ++ '*' :: '/' :: rest)) = rest :=
  @afterClose_append ('*' :: body) (infix_star_iff.not.mpr (not_or.mpr ⟨late, unclosed⟩)) rest

theorem skipFront_block_slash (text : List Char) :
    skipFront ('/' :: '*' :: '/' :: text) = skipFront text :=
  skipFront_block ('/' :: text)

theorem FrontItem.skipFront_text {item : FrontItem} (late : ¬ item.ClosesEarly)
    (rest : List Char) : skipFront (item.text.toList ++ rest) = skipFront rest := by
  cases item with
  | blanks text blank => exact skipFront_blanks blank rest
  | line body single => simpa [text] using skipFront_line single rest
  | block body unclosed =>
      have closed := afterClose_block unclosed late rest
      simpa [text, closed] using skipFront_block (body.toList ++ '*' :: '/' :: rest)
  | paren => exact skipFront_paren rest

theorem skipFront_front {items : List FrontItem} (late : ∀ item ∈ items, ¬ item.ClosesEarly)
    (rest : List Char) : skipFront ((front items).toList ++ rest) = skipFront rest := by
  induction items with
  | nil => rfl
  | cons item items ih =>
      have others := ih fun other member => late other (by simp [member])
      have first := FrontItem.skipFront_text (late item (by simp)) ((front items).toList ++ rest)
      rw [← others, ← first]
      simp [front]

theorem ofSql_congr {sql other : String} (same : skipFront sql.toList = skipFront other.toList) :
    ofSql sql = ofSql other := by
  rw [ofSql, ofSql, same]

/--
Blanks, comments and opening parentheses in front of a statement do not change its kind, if no
block comment among them begins with a slash. The first that does is read as ended at that slash:
its text and all that follows it are what the kind is told from.
-/
theorem fronts_skipped (items : List FrontItem) (sql : String) :
    ((∀ item ∈ items, ¬ item.ClosesEarly) → ofSql (front items ++ sql) = ofSql sql) ∧
    ∀ before body unclosed after,
      items = before ++ .block ("/" ++ body) unclosed :: after →
      (∀ item ∈ before, ¬ item.ClosesEarly) →
      ofSql (front items ++ sql) = ofSql (body ++ "*/" ++ front after ++ sql) := by
  constructor
  · intro late
    apply ofSql_congr
    rw [String.toList_append]
    exact skipFront_front late sql.toList
  · intro before body unclosed after split late
    apply ofSql_congr
    have text : (front items ++ sql).toList = (front before).toList ++
        ('/' :: '*' :: '/' :: (body ++ "*/" ++ front after ++ sql).toList) := by
      simp [split, front, FrontItem.text]
    rw [text, skipFront_front late, skipFront_block_slash]

theorem fronts_skipped_hinted :
    let hint : FrontItem := .block "* (hint) -- *" (by decide)
    let items := [.paren, .line "/* (" (by decide), hint, .blanks "\u00a0\n" (by decide)]
    front items ++ "(update t" = "(--/* (\n/** (hint) -- **/\u00a0\n(update t" ∧
    (∀ item ∈ items, ¬ item.ClosesEarly) ∧
    ofSql (front items ++ "(update t") = .update := by
  intro hint items
  have late : ∀ item ∈ items, ¬ item.ClosesEarly := by
    simp [items, hint, FrontItem.ClosesEarly]
  have bare : ofSql "(update t" = .update := by decide +kernel
  exact ⟨by decide, late, ((fronts_skipped items "(update t").1 late).trans bare⟩

/-- The comment is read as ended at its second slash, so its text tells the kind. -/
theorem slash_in_comment_hides_kind :
    let hint : FrontItem := .block "/ hint " (by decide)
    front [hint] = "/*/ hint */" ∧
    ofSql (front [hint] ++ "SELECT 1") = .other ∧ ofSql "SELECT 1" = .select := by
  intro hint
  exact ⟨by decide, by decide +kernel, by decide +kernel⟩

end SqlComposer.StatementKind
