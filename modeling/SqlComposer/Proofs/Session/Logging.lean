import Mathlib.Data.List.Infix
import Mathlib.Data.String.Basic
import SqlComposer.Session.Event

/-!
How much of a statement is logged: as many whole characters from its front as the limit on bytes
admits, and a mark behind them where that is not all.
-/

namespace SqlComposer

variable {limit : Nat} {sql : String}

theorem utf8ByteSize_ofList_cons (c : Char) (text : List Char) :
    (String.ofList (c :: text)).utf8ByteSize = c.utf8Size + (String.ofList text).utf8ByteSize := by
  rw [String.ofList_cons, String.utf8ByteSize_append, String.utf8ByteSize_singleton]

theorem isValid_front (front rest : String) :
    (⟨front.utf8ByteSize⟩ : String.Pos.Raw).IsValid (front ++ rest) :=
  String.Pos.Raw.isValid_iff_exists_append.mpr ⟨front, rest, rfl, rfl⟩

theorem lastBoundary_le (sql : String) (limit : Nat) : lastBoundary sql limit ≤ limit := by
  induction limit with
  | zero => exact Nat.le_refl 0
  | succ limit ih =>
      rw [lastBoundary]
      split
      · exact Nat.le_refl _
      · exact ih.trans (Nat.le_succ limit)

theorem isValid_lastBoundary (sql : String) (limit : Nat) :
    (⟨lastBoundary sql limit⟩ : String.Pos.Raw).IsValid sql := by
  induction limit with
  | zero =>
      have start := isValid_front "" sql
      rwa [String.empty_append] at start
  | succ limit ih =>
      rw [lastBoundary]
      split
      · rename_i valid
        exact String.Pos.Raw.isValid_eq_true_iff.mp valid
      · exact ih

theorem le_lastBoundary {place : Nat} (valid : (⟨place⟩ : String.Pos.Raw).IsValid sql)
    (within : place ≤ limit) : place ≤ lastBoundary sql limit := by
  induction limit with
  | zero => exact within
  | succ limit ih =>
      rw [lastBoundary]
      split
      · exact within
      · rename_i other
        have before : place ≠ limit + 1 := by
          rintro rfl
          exact other (String.Pos.Raw.isValid_eq_true_iff.mpr valid)
        exact ih (by omega)

theorem extract_front (front rest : String) :
    String.Pos.Raw.extract (front ++ rest) 0 ⟨front.utf8ByteSize⟩ = front := by
  have taken := String.extract_of_valid [] front.toList rest.toList
  simpa [String.utf8Len_toList] using taken

/-- The front of a statement that has the most whole characters within a limit on bytes. -/
structure IsLongestFront (limit : Nat) (sql front : String) : Prop where
  fits : front.utf8ByteSize ≤ limit
  maximal : sql = front ∨ ∃ c rest, sql = front ++ String.singleton c ++ rest ∧
    limit < (front ++ String.singleton c).utf8ByteSize

namespace IsLongestFront

variable {front other : String}

theorem exists_append (longest : IsLongestFront limit sql front) : ∃ rest, sql = front ++ rest := by
  rcases longest.maximal with whole | ⟨c, rest, split, -⟩
  · exact ⟨"", by rw [whole, String.append_empty]⟩
  · exact ⟨_, by rw [split, String.append_assoc]⟩

theorem isValid (longest : IsLongestFront limit sql front) : front.rawEndPos.IsValid sql := by
  obtain ⟨rest, rfl⟩ := longest.exists_append
  exact isValid_front front rest

theorem exists_append_of_fits (longest : IsLongestFront limit sql front) {rest : String}
    (split : sql = other ++ rest) (fits : other.utf8ByteSize ≤ limit) :
    ∃ more, front = other ++ more := by
  rcases longest.maximal with whole | ⟨c, behind, next, beyond⟩
  · exact ⟨rest, whole ▸ split⟩
  · have same : front.toList ++ c :: behind.toList = other.toList ++ rest.toList := by
      rw [← String.toList_append, ← split, next]
      simp
    rcases List.append_eq_append_iff.mp same with ⟨more, longer, later⟩ | ⟨more, shorter, -⟩
    · cases more with
      | nil => exact ⟨"", String.toList_inj.mp (by simpa using longer.symm)⟩
      | cons d more =>
          obtain ⟨rfl, -⟩ := List.cons.inj later
          have text : other = front ++ String.singleton c ++ String.ofList more :=
            String.toList_inj.mp (by simpa using longer)
          rw [text, String.utf8ByteSize_append] at fits
          omega
    · exact ⟨String.ofList more, String.toList_inj.mp (by simpa using shorter)⟩

theorem le_of_isValid (longest : IsLongestFront limit sql front) {place : String.Pos.Raw}
    (valid : place.IsValid sql) (within : place.byteIdx ≤ limit) :
    place.byteIdx ≤ front.utf8ByteSize := by
  obtain ⟨other, rest, split, rfl⟩ := String.Pos.Raw.isValid_iff_exists_append.mp valid
  obtain ⟨more, rfl⟩ := longest.exists_append_of_fits split within
  rw [String.utf8ByteSize_append]
  exact Nat.le_add_right _ _

theorem unique (longest : IsLongestFront limit sql front)
    (longestToo : IsLongestFront limit sql other) : front = other := by
  obtain ⟨_, split⟩ := longest.exists_append
  obtain ⟨_, splitToo⟩ := longestToo.exists_append
  obtain ⟨more, longer⟩ := longest.exists_append_of_fits splitToo longestToo.fits
  obtain ⟨_, shorter⟩ := longestToo.exists_append_of_fits split longest.fits
  have bytes := congrArg String.utf8ByteSize shorter
  rw [longer, String.utf8ByteSize_append, String.utf8ByteSize_append] at bytes
  have none : more = "" := String.utf8ByteSize_eq_zero_iff.mp (by omega)
  rw [longer, none, String.append_empty]

theorem lt_add_four (longest : IsLongestFront limit sql front) (long : limit < sql.utf8ByteSize) :
    limit < front.utf8ByteSize + 4 := by
  rcases longest.maximal with rfl | ⟨c, _, -, beyond⟩
  · exact long.trans_le (Nat.le_add_right _ _)
  · have width := c.utf8Size_le_four
    rw [String.utf8ByteSize_append, String.utf8ByteSize_singleton] at beyond
    omega

end IsLongestFront

/-- The place behind the next character is a boundary too, so it is beyond the limit. -/
theorem limit_lt_of_lastBoundary_eq {front behind : String} {c : Char}
    (place : lastBoundary (front ++ String.singleton c ++ behind) limit = front.utf8ByteSize) :
    limit < (front ++ String.singleton c).utf8ByteSize := by
  have next := isValid_front (front ++ String.singleton c) behind
  by_contra fits
  have last := le_lastBoundary next (Nat.le_of_not_lt fits)
  have width := c.utf8Size_pos
  rw [place, String.utf8ByteSize_append, String.utf8ByteSize_singleton] at last
  omega

theorem isLongestFront_truncate (limit : Nat) (sql : String) :
    IsLongestFront limit sql (truncate limit sql) := by
  rw [truncate]
  split
  · rename_i short
    exact ⟨short, .inl rfl⟩
  · rename_i long
    obtain ⟨front, rest, rfl, place⟩ :=
      String.Pos.Raw.isValid_iff_exists_append.mp (isValid_lastBoundary sql limit)
    have bytes : lastBoundary (front ++ rest) limit = front.utf8ByteSize :=
      congrArg String.Pos.Raw.byteIdx place
    have within : front.utf8ByteSize ≤ limit := bytes ▸ lastBoundary_le (front ++ rest) limit
    rw [bytes, extract_front]
    refine ⟨within, .inr ?_⟩
    cases more : rest.toList with
    | nil =>
        have none : rest = "" := String.toList_inj.mp more
        rw [none, String.append_empty] at long
        exact absurd within long
    | cons c behind =>
        have split : front ++ rest = front ++ String.singleton c ++ String.ofList behind :=
          String.toList_inj.mp (by simp [more])
        exact ⟨c, String.ofList behind, split, limit_lt_of_lastBoundary_eq (split ▸ bytes)⟩

/--
The front that is kept of a statement is the longest one of whole characters within the limit: it
ends between two characters, and at the last such place that is not beyond the limit. A statement
of up to two hundred bytes is logged as it is, and of any other its longest front, which falls
short by three bytes at the most, with a mark behind it.
-/
theorem longest_front_logged (sql : String) :
    (∀ limit front, truncate limit sql = front ↔ IsLongestFront limit sql front) ∧
    (∀ limit front, IsLongestFront limit sql front → front.rawEndPos.IsValid sql ∧
      ∀ place : String.Pos.Raw, place.IsValid sql → place.byteIdx ≤ limit →
        place.byteIdx ≤ front.utf8ByteSize) ∧
    (sql.utf8ByteSize ≤ 200 ∧ loggedSql sql = sql ∨
      200 < sql.utf8ByteSize ∧ ∃ front, IsLongestFront 200 sql front ∧
        197 ≤ front.utf8ByteSize ∧ loggedSql sql = front ++ "...") := by
  refine ⟨?_, ?_, ?_⟩
  · intro limit front
    constructor
    · rintro rfl
      exact isLongestFront_truncate limit sql
    · exact (isLongestFront_truncate limit sql).unique
  · intro limit front longest
    exact ⟨longest.isValid, fun _ => longest.le_of_isValid⟩
  · by_cases long : loggedBytes < sql.utf8ByteSize
    · have longest := isLongestFront_truncate 200 sql
      have bound := longest.lt_add_four long
      exact .inr ⟨long, _, longest, by omega, if_pos long⟩
    · exact .inl ⟨Nat.le_of_not_lt long, if_neg long⟩

theorem longest_front_logged_cut :
    let sql := String.ofList ('x' :: List.replicate 50 '😀')
    let front := String.ofList ('x' :: List.replicate 49 '😀')
    IsLongestFront 200 sql front ∧ front.utf8ByteSize = 197 ∧
      (⟨197⟩ : String.Pos.Raw).IsValid sql ∧ ¬ (⟨200⟩ : String.Pos.Raw).IsValid sql ∧
      loggedSql sql = front ++ "..." := by
  intro sql front
  obtain ⟨-, places, logged⟩ := longest_front_logged sql
  have bytes : front.utf8ByteSize = 197 := by
    simp only [front, List.replicate, utf8ByteSize_ofList_cons]
    rfl
  have length : sql.utf8ByteSize = 201 := by
    simp only [sql, List.replicate, utf8ByteSize_ofList_cons]
    rfl
  have last : List.replicate 50 '😀' = List.replicate 49 '😀' ++ ['😀'] := List.replicate_succ'
  have split : sql = front ++ String.singleton '😀' ++ "" := by
    simp only [sql, last, front, String.append_empty]
    rw [← List.cons_append, String.ofList_append]
    rfl
  have longest : IsLongestFront 200 sql front := by
    refine ⟨by omega, .inr ⟨'😀', "", split, ?_⟩⟩
    rw [String.append_empty] at split
    rw [← split]
    omega
  obtain ⟨ends, furthest⟩ := places 200 front longest
  refine ⟨longest, bytes, bytes ▸ ends, ?_, ?_⟩
  · intro valid
    have beyond : 200 ≤ front.utf8ByteSize := furthest ⟨200⟩ valid (Nat.le_refl 200)
    omega
  · rcases logged with ⟨short, -⟩ | ⟨-, found, longestToo, -, text⟩
    · omega
    · rw [text, longestToo.unique longest]

end SqlComposer
