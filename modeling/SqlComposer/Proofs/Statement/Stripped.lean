import SqlComposer.Proofs.Statement.Front
import SqlComposer.Proofs.Text.Capital

/-!
What is left of a statement when all in front of its first word is skipped. The skipping ends, and
nothing is left that could be skipped. Letters may be in any case.
-/

namespace SqlComposer.StatementKind

inductive OpenComment where
  | line (body : String) (single : '\n' ∉ body.toList)
  | block (body : String) (unclosed : ¬ ['*', '/'] <:+: body.toList)

namespace OpenComment

def text : OpenComment → String
  | .line body _ => "--" ++ body
  | .block body _ => "/*" ++ body

def ClosesEarly : OpenComment → Prop
  | .block body _ => body.toList.head? = some '/'
  | _ => False

end OpenComment

/--
The second text is left of the first when so many things in front of it have been skipped. The
opening of a block comment with a slash behind it is such a thing by itself.
-/
inductive Skips : Nat → List Char → List Char → Prop
  | none (text : List Char) : Skips 0 text text
  | item {count : Nat} {rest left : List Char} (item : FrontItem) (late : ¬ item.ClosesEarly)
    (filled : item.text ≠ "") (others : Skips count rest left) :
    Skips (count + 1) (item.text.toList ++ rest) left
  | slash {count : Nat} {rest left : List Char} (others : Skips count rest left) :
    Skips (count + 1) ('/' :: '*' :: '/' :: rest) left
  | unended (comment : OpenComment) (late : ¬ comment.ClosesEarly) :
    Skips 1 comment.text.toList []

/-- Nothing stands in front of the first word. -/
structure IsBare (text : List Char) : Prop where
  solid : ∀ c ∈ text.head?, Text.isBlank c = false
  noParen : text.head? ≠ some '('
  noLine : ¬ ['-', '-'] <+: text
  noBlock : ¬ ['/', '*'] <+: text

section Unended

theorem afterLine_eq_nil {body : List Char} (single : '\n' ∉ body) : afterLine body = [] := by
  induction body with
  | nil => rfl
  | cons c body ih =>
      rw [List.mem_cons, not_or] at single
      rw [afterLine, if_neg (Ne.symm single.1), ih single.2]

theorem afterClose_eq_nil {body : List Char} (unclosed : ¬ ['*', '/'] <:+: body) :
    afterClose body = [] := by
  fun_induction afterClose body with
  | case1 => rfl
  | case2 rest => exact absurd (List.prefix_append ['*', '/'] rest).isInfix unclosed
  | case3 c rest _ ih => exact ih fun found => unclosed (List.infix_cons found)

theorem exists_line_of_mem {text : List Char} (ended : '\n' ∈ text) :
    ∃ body, '\n' ∉ body ∧ text = body ++ '\n' :: afterLine text := by
  obtain ⟨body, rest, rfl, single⟩ := List.eq_append_cons_of_mem ended
  exact ⟨body, single, by rw [afterLine_append single]⟩

theorem exists_block_of_infix {text : List Char} (closed : ['*', '/'] <:+: text) :
    ∃ body, ¬ ['*', '/'] <:+: body ∧ text = body ++ '*' :: '/' :: afterClose text := by
  fun_induction afterClose text with
  | case1 => simp at closed
  | case2 rest => exact ⟨[], by simp, rfl⟩
  | case3 c rest other ih =>
      have later : ['*', '/'] <:+: rest := by
        rcases List.infix_cons_iff.mp closed with ⟨behind, opening⟩ | later
        · cases opening
          exact absurd rfl (other behind rfl)
        · exact later
      obtain ⟨body, unclosed, text⟩ := ih later
      refine ⟨c :: body, ?_, congrArg (c :: ·) text⟩
      rw [List.infix_cons_iff]
      rintro (⟨behind, opening⟩ | inside)
      · -- an end that begins with the first character is the one that is found first
        cases body with
        | nil => cases opening
        | cons d body =>
            cases opening
            exact other _ rfl text
      · exact unclosed inside

end Unended

theorem skipFront_nil : skipFront [] = [] :=
  skipFront_eq []

theorem OpenComment.skipFront_text {comment : OpenComment} (late : ¬ comment.ClosesEarly) :
    skipFront comment.text.toList = [] := by
  cases comment with
  | line body single =>
      have solid := @Text.trimStart_eq_self '-' ('-' :: body.toList) (by decide)
      have peeled : peel? ('-' :: '-' :: body.toList) = some [] := by
        simp only [peel?, solid, afterLine_eq_nil single]
      have skipped := skipFront_eq ('-' :: '-' :: body.toList)
      rw [peeled] at skipped
      simpa [text, skipFront_nil] using skipped
  | block body unclosed =>
      have unended : ¬ ['*', '/'] <:+: '*' :: body.toList :=
        infix_star_iff.not.mpr (not_or.mpr ⟨late, unclosed⟩)
      have skipped := skipFront_block body.toList
      rw [afterClose_eq_nil unended, skipFront_nil] at skipped
      simpa [text] using skipped

namespace Skips

variable {count : Nat} {text rest left : List Char}

theorem length_le (skips : Skips count text left) : count + left.length ≤ text.length := by
  induction skips with
  | none text => simp
  | item item late filled others ih =>
      have some : 0 < item.text.toList.length := List.length_pos_iff.mpr (by simpa using filled)
      rw [List.length_append]
      omega
  | slash others ih =>
      simp only [List.length_cons]
      omega
  | unended comment late => cases comment <;> simp [OpenComment.text]

theorem isSuffix (skips : Skips count text left) : left <:+ text := by
  induction skips with
  | none text => exact List.suffix_refl text
  | item item late filled others ih => exact ih.trans (List.suffix_append item.text.toList _)
  | slash others ih => exact ih.trans (List.suffix_append ['/', '*', '/'] _)
  | unended comment late => exact List.nil_suffix

theorem skipFront_eq (skips : Skips count text left) : skipFront text = skipFront left := by
  induction skips with
  | none text => rfl
  | item item late filled others ih => rw [FrontItem.skipFront_text late, ih]
  | slash others ih => rw [skipFront_block_slash, ih]
  | unended comment late => rw [OpenComment.skipFront_text late, skipFront_nil]

theorem trimStart (skips : Skips count (Text.trimStart text) left) :
    ∃ count, Skips count text left := by
  have split : text.takeWhile Text.isBlank ++ Text.trimStart text = text :=
    List.takeWhile_append_dropWhile
  by_cases trimmed : text.takeWhile Text.isBlank = []
  · rw [trimmed, List.nil_append] at split
    exact ⟨count, split ▸ skips⟩
  · have blank : Text.allBlank (String.ofList (text.takeWhile Text.isBlank)) = true := by
      simp [Text.allBlank]
    have skipped := Skips.item (.blanks _ blank) id (by simpa [FrontItem.text] using trimmed) skips
    rw [FrontItem.text, String.toList_ofList, split] at skipped
    exact ⟨count + 1, skipped⟩

end Skips

section Passes

variable {count : Nat} {text rest left : List Char}

theorem skips_line (skips : Skips count (afterLine text) left) :
    ∃ count, Skips count ('-' :: '-' :: text) left := by
  by_cases ended : '\n' ∈ text
  · obtain ⟨body, single, split⟩ := exists_line_of_mem ended
    have line : '\n' ∉ (String.ofList body).toList := by simpa using single
    have skipped := Skips.item (.line _ line) id (by simp [FrontItem.text]) skips
    rw [split]
    exact ⟨count + 1, by simpa [FrontItem.text] using skipped⟩
  · have line : '\n' ∉ (String.ofList text).toList := by simpa using ended
    rw [afterLine_eq_nil ended] at skips
    obtain rfl : left = [] := List.eq_nil_of_suffix_nil skips.isSuffix
    exact ⟨1, by simpa [OpenComment.text] using Skips.unended (.line _ line) id⟩

theorem skips_block (skips : Skips count (afterClose ('*' :: text)) left) :
    ∃ count, Skips count ('/' :: '*' :: text) left := by
  by_cases closed : ['*', '/'] <:+: '*' :: text
  · obtain ⟨body, unclosed, split⟩ := exists_block_of_infix closed
    cases body with
    | nil =>
        rw [(List.cons.inj split).2]
        exact ⟨count + 1, skips.slash⟩
    | cons star body =>
        obtain ⟨rfl, split⟩ := List.cons.inj split
        rw [infix_star_iff, not_or] at unclosed
        obtain ⟨late, unclosed⟩ := unclosed
        have block : ¬ ['*', '/'] <:+: (String.ofList body).toList := by simpa using unclosed
        have skipped := Skips.item (.block _ block) (by simpa [FrontItem.ClosesEarly] using late)
          (by simp [FrontItem.text]) skips
        rw [split]
        exact ⟨count + 1, by simpa [FrontItem.text] using skipped⟩
  · rw [afterClose_eq_nil closed] at skips
    obtain rfl : left = [] := List.eq_nil_of_suffix_nil skips.isSuffix
    rw [infix_star_iff, not_or] at closed
    obtain ⟨late, unclosed⟩ := closed
    have block : ¬ ['*', '/'] <:+: (String.ofList text).toList := by simpa using unclosed
    have skipped := Skips.unended (.block _ block) (by simpa [OpenComment.ClosesEarly] using late)
    exact ⟨1, by simpa [OpenComment.text] using skipped⟩

theorem skips_peeled (peeled : peel? text = some rest) (skips : Skips count rest left) :
    ∃ count, Skips count text left := by
  suffices trimmed : ∃ count, Skips count (Text.trimStart text) left from
    trimmed.elim fun _ => Skips.trimStart
  unfold peel? at peeled
  split at peeled
  · rename_i after opening
    cases peeled
    rw [opening]
    exact skips_line skips
  · rename_i after opening
    cases peeled
    rw [opening]
    exact skips_block skips
  · rename_i after opening
    cases peeled
    rw [opening]
    exact ⟨count + 1, Skips.item .paren id (by decide) skips⟩
  · cases peeled

theorem exists_skips (text : List Char) : ∃ count, Skips count text (skipFront text) := by
  fun_induction skipFront text with
  | case1 text rest peeled _ ih =>
      obtain ⟨count, skips⟩ := ih
      exact skips_peeled peeled skips
  | case2 text _ => exact Skips.trimStart (Skips.none _)

end Passes

section Bare

variable {text : List Char}

theorem IsBare.trimStart (bare : IsBare text) : Text.trimStart text = text := by
  cases text with
  | nil => rfl
  | cons c rest => exact Text.trimStart_eq_self (bare.solid c rfl)

theorem IsBare.skipFront_eq (bare : IsBare text) : skipFront text = text := by
  have unpeeled : peel? text = none := by
    unfold peel?
    rw [bare.trimStart]
    split
    · exact absurd (List.prefix_append ['-', '-'] _) bare.noLine
    · exact absurd (List.prefix_append ['/', '*'] _) bare.noBlock
    · exact absurd rfl bare.noParen
    · rfl
  rw [StatementKind.skipFront_eq, unpeeled, bare.trimStart]

theorem isBare_trimStart (unpeeled : peel? text = none) : IsBare (Text.trimStart text) := by
  unfold peel? at unpeeled
  split at unpeeled
  · cases unpeeled
  · cases unpeeled
  · cases unpeeled
  · rename_i noLine noBlock noParen
    constructor
    · intro c first
      have kept := List.head?_dropWhile_not Text.isBlank text
      rw [← Text.trimStart, first] at kept
      simpa using kept
    · intro first
      obtain ⟨rest, opening⟩ := List.head?_eq_some_iff.mp first
      exact noParen rest opening
    · rintro ⟨rest, opening⟩
      exact noLine rest opening.symm
    · rintro ⟨rest, opening⟩
      exact noBlock rest opening.symm

theorem isBare_skipFront (text : List Char) : IsBare (skipFront text) := by
  fun_induction skipFront text with
  | case1 text rest _ _ ih => exact ih
  | case2 text unpeeled => exact isBare_trimStart unpeeled

end Bare

section Capital

theorem afterLine_map_toUpper (text : List Char) :
    afterLine (text.map Char.toUpper) = (afterLine text).map Char.toUpper := by
  induction text with
  | nil => rfl
  | cons c text ih =>
      have lineEnd : c.toUpper = '\n' ↔ c = '\n' := Text.toUpper_eq_iff (by decide)
      simp only [List.map_cons, afterLine, ih, lineEnd]
      split <;> rfl

theorem afterClose_map_toUpper (text : List Char) :
    afterClose (text.map Char.toUpper) = (afterClose text).map Char.toUpper := by
  fun_induction afterClose text with
  | case1 => rfl
  | case2 rest => rfl
  | case3 c rest other ih =>
      rw [← ih, List.map_cons, afterClose]
      rintro behind star slash
      have closes : ['*', '/'] <+: (c :: rest).map Char.toUpper :=
        ⟨behind, by rw [List.map_cons, star, slash]; rfl⟩
      obtain ⟨_, opening⟩ := (Text.prefix_map_toUpper_iff (by decide)).mp closes
      cases opening
      exact other _ rfl rfl

theorem peel?_map_toUpper (text : List Char) :
    peel? (text.map Char.toUpper) = (peel? text).map (List.map Char.toUpper) := by
  unfold peel?
  rw [Text.trimStart_map_toUpper]
  generalize Text.trimStart text = trimmed
  have kept (symbols : List Char) {rest : List Char}
      (noLetters : symbols.any Char.isAlpha = false)
      (opening : trimmed.map Char.toUpper = symbols ++ rest) : symbols <+: trimmed :=
    (Text.prefix_map_toUpper_iff noLetters).mp ⟨rest, opening.symm⟩
  split
  · rename_i rest opening
    obtain ⟨rest, rfl⟩ := kept ['-', '-'] (by decide) opening
    cases opening
    exact congrArg some (afterLine_map_toUpper rest)
  · rename_i rest opening
    obtain ⟨rest, rfl⟩ := kept ['/', '*'] (by decide) opening
    cases opening
    exact congrArg some (afterClose_map_toUpper ('*' :: rest))
  · rename_i rest opening
    obtain ⟨rest, rfl⟩ := kept ['('] (by decide) opening
    cases opening
    rfl
  · rename_i noLine noBlock noParen
    split
    · exact absurd rfl (noLine _)
    · exact absurd rfl (noBlock _)
    · exact absurd rfl (noParen _)
    · rfl

theorem skipFront_map_toUpper (text : List Char) :
    skipFront (text.map Char.toUpper) = (skipFront text).map Char.toUpper := by
  fun_induction skipFront text with
  | case1 text rest peeled _ ih =>
      rw [skipFront_eq, peel?_map_toUpper, peeled]
      exact ih
  | case2 text unpeeled =>
      rw [skipFront_eq, peel?_map_toUpper, unpeeled, Option.map_none, Text.trimStart_map_toUpper]

theorem ofSql_eq_of_toUpper_eq {sql other : String} (same : other.toUpper = sql.toUpper) :
    ofSql other = ofSql sql := by
  have fronts : (skipFront other.toList).map Char.toUpper =
      (skipFront sql.toList).map Char.toUpper := by
    have letters := congrArg String.toList same
    rw [String.toUpper, String.toUpper, String.toList_map, String.toList_map] at letters
    rw [← skipFront_map_toUpper, letters, skipFront_map_toUpper]
  have words (word : String) :
      startsWith word (skipFront other.toList) = startsWith word (skipFront sql.toList) := by
    rw [startsWith, startsWith, List.map_take, List.map_take, fronts]
  simp only [ofSql, words]

end Capital

theorem skipFront_eq_iff {text left : List Char} :
    skipFront text = left ↔ IsBare left ∧ ∃ count ≤ text.length, Skips count text left := by
  constructor
  · rintro rfl
    obtain ⟨count, skips⟩ := exists_skips text
    exact ⟨isBare_skipFront text, count, (Nat.le_add_right _ _).trans skips.length_le, skips⟩
  · rintro ⟨bare, count, -, skips⟩
    rw [skips.skipFront_eq, bare.skipFront_eq]

/--
Skipping ends after at most as many things as the statement has characters, with the end of the
statement that has nothing in front of its first word; there is one such end, and skipping does not
change it. Of a comment that has no end nothing is left, unless it or a comment before it is a block
comment that begins with a slash: what follows the slash of the first of these is then taken for
the statement. Statements that differ only in the case of letters are of one kind.
-/
theorem fronts_end (sql : String) :
    (∀ left, skipFront sql.toList = left ↔
      IsBare left ∧ ∃ count ≤ sql.toList.length, Skips count sql.toList left) ∧
    skipFront sql.toList <:+ sql.toList ∧
    skipFront (skipFront sql.toList) = skipFront sql.toList ∧
    (∀ items comment, sql = front items ++ OpenComment.text comment →
      (∀ item ∈ items, ¬ item.ClosesEarly) → ¬ comment.ClosesEarly →
      skipFront sql.toList = []) ∧
    (∀ items rest, sql = front items ++ "/*/" ++ rest → (∀ item ∈ items, ¬ item.ClosesEarly) →
      skipFront sql.toList = skipFront rest.toList) ∧
    ∀ other, other.toUpper = sql.toUpper → ofSql other = ofSql sql := by
  obtain ⟨count, skips⟩ := exists_skips sql.toList
  refine ⟨fun _ => skipFront_eq_iff, skips.isSuffix, (isBare_skipFront _).skipFront_eq, ?_, ?_,
    fun _ => ofSql_eq_of_toUpper_eq⟩
  · rintro items comment rfl late lateComment
    rw [String.toList_append, skipFront_front late, OpenComment.skipFront_text lateComment]
  · rintro items rest rfl late
    have text : (front items ++ "/*/" ++ rest).toList =
        (front items).toList ++ '/' :: '*' :: '/' :: rest.toList := by simp
    rw [text, skipFront_front late, skipFront_block_slash]

theorem fronts_end_mixed :
    let items : List FrontItem := [.paren, .line " (a" (by decide), .block "*b" (by decide)]
    let comment : OpenComment := .block " SELECT 1 -- *" (by decide)
    (∀ item ∈ items, ¬ item.ClosesEarly) ∧ ¬ comment.ClosesEarly ∧
    "(-- (a\n/**b*//* SELECT 1 -- *" = front items ++ comment.text ∧
    skipFront "(-- (a\n/**b*//* SELECT 1 -- *".toList = [] ∧
    "(-- (a\n/**b*//*/ \u00a0with" = front items ++ "/*/" ++ " \u00a0with" ∧
    skipFront "(-- (a\n/**b*//*/ \u00a0with".toList = "with".toList ∧
    ofSql "(-- (A\n/**B*//*/ \u00a0wItH" = .select := by
  intro items comment
  have late : ∀ item ∈ items, ¬ item.ClosesEarly := by simp [items, FrontItem.ClosesEarly]
  have lateComment : ¬ comment.ClosesEarly := by simp [comment, OpenComment.ClosesEarly]
  have split : "(-- (a\n/**b*//* SELECT 1 -- *" = front items ++ comment.text := by decide
  have unended := (fronts_end "(-- (a\n/**b*//* SELECT 1 -- *").2.2.2.1 items comment split late
    lateComment
  have splitHint : "(-- (a\n/**b*//*/ \u00a0with" = front items ++ "/*/" ++ " \u00a0with" := by
    decide
  obtain ⟨-, -, -, -, hinted, cased⟩ := fronts_end "(-- (a\n/**b*//*/ \u00a0with"
  have bare : skipFront " \u00a0with".toList = "with".toList := by decide +kernel
  have word : ofSql "(-- (a\n/**b*//*/ \u00a0with" = .select := by decide +kernel
  have letters : "(-- (A\n/**B*//*/ \u00a0wItH".toUpper =
      "(-- (a\n/**b*//*/ \u00a0with".toUpper := by
    apply String.toList_inj.mp
    simp only [String.toUpper, String.toList_map]
    decide
  exact ⟨late, lateComment, split, unended, splitHint,
    (hinted items " \u00a0with" splitHint late).trans bare, (cased _ letters).trans word⟩

/-- The comment has no end, and what stands behind its second slash is left. -/
theorem open_comment_shows_kind :
    let comment : OpenComment := .block "/SELECT 1" (by decide)
    comment.text = "/*/SELECT 1" ∧ skipFront comment.text.toList = "SELECT 1".toList ∧
      ofSql comment.text = .select ∧ ofSql "" = .other := by
  intro comment
  exact ⟨by decide, by decide +kernel, by decide +kernel, by decide +kernel⟩

end SqlComposer.StatementKind
