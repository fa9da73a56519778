import SqlComposer.Proofs.Reading.Spelling

/-!
Readers take a thing from the front of a list of tokens. A list of things with a separator between
them is read as that list if each of them is.
-/

namespace SqlComposer.Reading

abbrev Reader (α : Type) := List Token → Option (α × List Token)

def Token.isKeyword (keyword : String) : Token → Bool
  | .word letters => letters.map Char.toUpper == keyword.toList
  | _ => false

def Token.isMark (mark : Mark) (token : Token) : Bool :=
  token == .mark mark

def expect (kind : Token → Bool) : List Token → Option (List Token)
  | [] => none
  | token :: rest => if kind token then some rest else none

def readChain {α : Type} (separates : Token → Bool) (read : Reader α) : Nat → Reader (List α)
  | 0, _ => none
  | fuel + 1, tokens =>
    match read tokens with
    | none => none
    | some (first, []) => some ([first], [])
    | some (first, token :: rest) =>
      if separates token then
        (readChain separates read fuel rest).map fun (others, rest) => (first :: others, rest)
      else some ([first], token :: rest)

def readSeparated {α : Type} (separates : Token → Bool) (read : Reader α) : Reader (List α) :=
  fun tokens => readChain separates read (tokens.length + 1) tokens

def readParenthesized {α : Type} (read : Reader α) : Reader α := fun tokens => do
  let rest ← expect (Token.isMark .leftParen) tokens
  let (thing, rest) ← read rest
  let rest ← expect (Token.isMark .rightParen) rest
  return (thing, rest)

def readWhole {α : Type} (dialect : Dialect) (read : Reader α) (sql : String) : Option α := do
  let tokens ← tokenize dialect sql.toList
  match ← read tokens with
  | (thing, []) => return thing
  | _ => none

def Stops (kind : Token → Bool) (rest : List Token) : Prop :=
  ∀ token, rest.head? = some token → kind token = false

theorem stops_nil (kind : Token → Bool) : Stops kind [] := by
  intro token head
  simp at head

theorem stops_cons {kind : Token → Bool} {token : Token} (other : kind token = false)
    (rest : List Token) : Stops kind (token :: rest) := by
  intro first head
  cases head
  exact other

theorem stops_left {kind other : Token → Bool} {rest : List Token}
    (stops : Stops (fun token => kind token || other token) rest) : Stops kind rest := by
  intro token head
  exact (Bool.or_eq_false_iff.mp (stops token head)).1

theorem stops_right {kind other : Token → Bool} {rest : List Token}
    (stops : Stops (fun token => kind token || other token) rest) : Stops other rest := by
  intro token head
  exact (Bool.or_eq_false_iff.mp (stops token head)).2

/--
The text is read as a thing, whatever follows it but a token that would have the reader go on.
-/
def Reads {α : Type} (dialect : Dialect) (read : Reader α) (goesOn : Token → Bool)
    (text : List Char) (thing : α) : Prop :=
  ∃ tokens, Spells dialect text tokens ∧
    ∀ rest, Stops goesOn rest → read (tokens ++ rest) = some (thing, rest)

theorem Reads.readWhole {α : Type} {dialect : Dialect} {read : Reader α} {goesOn : Token → Bool}
    {sql : String} {thing : α} (reads : Reads dialect read goesOn sql.toList thing) :
    readWhole dialect read sql = some thing := by
  obtain ⟨tokens, spells, read⟩ := reads
  have whole := read [] (stops_nil _)
  rw [List.append_nil] at whole
  simp [Reading.readWhole, spells.tokenize_eq, whole]

theorem Reads.parenthesized {α : Type} {dialect : Dialect} {read : Reader α} {goesOn : Token → Bool}
    {text : List Char} {thing : α} (inner : Reads dialect read goesOn text thing)
    (closes : goesOn (.mark .rightParen) = false) (anything : Token → Bool) :
    Reads dialect (readParenthesized read) anything ('(' :: (text ++ [')'])) thing := by
  obtain ⟨tokens, spells, read⟩ := inner
  refine ⟨_, spells.paren, ?_⟩
  intro rest _
  have found := read (.mark .rightParen :: rest) (stops_cons closes rest)
  simp [readParenthesized, expect, Token.isMark, found]

section Chain

variable {α ι : Type} {separates goesOn : Token → Bool} {read : Reader α} {separator : Token}

theorem readChain_intercalate (separating : separates separator = true)
    (apart : goesOn separator = false) {tokens : ι → List Token} {thing : ι → α}
    {items : List ι} (nonempty : items ≠ [])
    (each : ∀ item ∈ items, ∀ rest, Stops goesOn rest →
      read (tokens item ++ rest) = some (thing item, rest))
    {fuel : Nat} (enough : items.length ≤ fuel) {rest : List Token} (stops : Stops goesOn rest)
    (ends : Stops separates rest) :
    readChain separates read fuel ([separator].intercalate (items.map tokens) ++ rest) =
      some (items.map thing, rest) := by
  induction items generalizing fuel with
  | nil => exact absurd rfl nonempty
  | cons item items ih =>
      have first := each item (by simp)
      obtain ⟨fuel, rfl⟩ : ∃ less, fuel = less + 1 :=
        Nat.exists_eq_succ_of_ne_zero (Nat.ne_of_gt (Nat.lt_of_lt_of_le (by simp) enough))
      cases items with
      | nil =>
          simp only [List.map_cons, List.map_nil, List.intercalate_singleton, readChain,
            first rest stops]
          cases rest with
          | nil => rfl
          | cons token rest => simp [ends token rfl]
      | cons next items =>
          have others := ih (by simp) (fun other member => each other (by simp [member]))
            (by simpa using enough)
          have front := first (separator :: ([separator].intercalate
            ((next :: items).map tokens) ++ rest)) (stops_cons apart _)
          simp only [List.map_cons] at front others
          simp only [List.map_cons, List.intercalate_cons_cons, List.append_assoc,
            List.cons_append, List.nil_append, readChain, front, separating, if_true, others,
            Option.map_some]

theorem length_le_length_intercalate (separator : Token) (parts : List (List Token)) :
    parts.length ≤ ([separator].intercalate parts).length + 1 := by
  induction parts with
  | nil => simp
  | cons part parts ih =>
      cases parts with
      | nil => simp
      | cons next parts =>
          simp only [List.intercalate_cons_cons, List.length_append, List.length_cons,
            List.length_nil] at ih ⊢
          omega

theorem readSeparated_intercalate (separating : separates separator = true)
    (apart : goesOn separator = false) {tokens : ι → List Token} {thing : ι → α}
    {items : List ι} (nonempty : items ≠ [])
    (each : ∀ item ∈ items, ∀ rest, Stops goesOn rest →
      read (tokens item ++ rest) = some (thing item, rest))
    {rest : List Token} (stops : Stops goesOn rest) (ends : Stops separates rest) :
    readSeparated separates read ([separator].intercalate (items.map tokens) ++ rest) =
      some (items.map thing, rest) := by
  have count := length_le_length_intercalate separator (items.map tokens)
  rw [List.length_map] at count
  refine readChain_intercalate separating apart nonempty each ?_ stops ends
  rw [List.length_append]
  omega

theorem exists_tokensOf {spelled : ι → List Token → Prop} {items : List ι}
    (each : ∀ item ∈ items, ∃ tokens, spelled item tokens) :
    ∃ tokensOf : ι → List Token, ∀ item ∈ items, spelled item (tokensOf item) := by
  have total : ∀ item, ∃ tokens, item ∈ items → spelled item tokens := by
    intro item
    by_cases member : item ∈ items
    · obtain ⟨tokens, found⟩ := each item member
      exact ⟨tokens, fun _ => found⟩
    · exact ⟨[], fun present => absurd present member⟩
  exact Classical.skolem.mp total

theorem Reads.separated {dialect : Dialect} {between : List Char}
    (glue : Glue dialect between [separator]) (separating : separates separator = true)
    (apart : goesOn separator = false) {text : ι → List Char} {thing : ι → α}
    {items : List ι} (nonempty : items ≠ [])
    (each : ∀ item ∈ items, Reads dialect read goesOn (text item) (thing item)) :
    Reads dialect (readSeparated separates read) (fun token => goesOn token || separates token)
      (between.intercalate (items.map text)) (items.map thing) := by
  obtain ⟨tokensOf, found⟩ := exists_tokensOf each
  refine ⟨[separator].intercalate (items.map tokensOf),
    Spells.intercalate glue fun item member => (found item member).1, ?_⟩
  intro rest stops
  exact readSeparated_intercalate separating apart nonempty
    (fun item member => (found item member).2) (stops_left stops) (stops_right stops)

end Chain

end SqlComposer.Reading
