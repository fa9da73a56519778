import SqlComposer.Proofs.Reading.Reader

/-!
Clauses that stand one after the other, each behind its opening keywords. A clause may be absent,
and one kind of clause may stand there many times: what follows is told from it by its first
keyword.
-/

namespace SqlComposer.Reading

def expectWords : List String → List Token → Option (List Token)
  | [], tokens => some tokens
  | word :: words, tokens => do expectWords words (← expect (Token.isKeyword word) tokens)

def readClause {α : Type} (opening : List String) (read : Reader α) : Reader (Option α) :=
  fun tokens =>
    match expectWords opening tokens with
    | none => some (none, tokens)
    | some rest => (read rest).map fun (thing, rest) => (some thing, rest)

def readEach {α : Type} (opening : List String) (read : Reader α) : Nat → Reader (List α)
  | 0, _ => none
  | fuel + 1, tokens => do
    match ← readClause opening read tokens with
    | (none, rest) => return ([], rest)
    | (some first, rest) =>
      let (others, rest) ← readEach opening read fuel rest
      return (first :: others, rest)

def readClauses {α : Type} (opening : List String) (read : Reader α) : Reader (List α) :=
  fun tokens => readEach opening read (tokens.length + 1) tokens

def AreKeywords (words : List String) : Prop :=
  ∀ word ∈ words, isWord word.toList = true ∧ Token.isKeyword word (.word word.toList) = true

instance (words : List String) : Decidable (AreKeywords words) :=
  inferInstanceAs (Decidable (∀ word ∈ words,
    isWord word.toList = true ∧ Token.isKeyword word (.word word.toList) = true))

def wordTokens (words : List String) : List Token :=
  words.map fun word => .word word.toList

def opened (words : List String) (text : List Char) : List Char :=
  words.foldr (fun word text => word.toList ++ ' ' :: text) text

variable {dialect : Dialect} {α ι : Type}

theorem expectWords_wordTokens {words : List String} (keywords : AreKeywords words)
    (rest : List Token) : expectWords words (wordTokens words ++ rest) = some rest := by
  induction words with
  | nil => rfl
  | cons word words ih =>
      have first := (keywords word (by simp)).2
      have others := ih fun other member => keywords other (by simp [member])
      simp only [wordTokens] at others
      simp [wordTokens, expectWords, expect, first, others]

theorem spells_opened {words : List String} (keywords : AreKeywords words) {text : List Char}
    {tokens : List Token} (spells : Spells dialect text tokens) :
    Spells dialect (opened words text) (wordTokens words ++ tokens) := by
  induction words with
  | nil => exact spells
  | cons word words ih =>
      have first : Spells dialect word.toList [.word word.toList] :=
        Spells.word (keywords word (by simp)).1
      have others := ih fun other member => keywords other (by simp [member])
      exact first.space others

/-- Text behind a finished part: it is empty or sets itself off from that part. -/
structure Follows (dialect : Dialect) (text : List Char) (tokens : List Token) : Prop where
  bounded : ∀ rest, Bounded rest → Bounded (text ++ rest)
  spells : Spells dialect text tokens

theorem Follows.nil (dialect : Dialect) : Follows dialect [] [] :=
  ⟨fun _ bounded => bounded, Spells.nil⟩

theorem Spells.follows {text : List Char} {tokens : List Token}
    (spells : Spells dialect text tokens) : Follows dialect (' ' :: text) tokens := by
  constructor
  · intro rest _
    exact bounded_cons (by decide) _
  · intro rest bounded
    have skipped := tokenize_blank dialect (by decide : Char.isWhitespace ' ' = true)
    rw [List.cons_append, skipped, spells rest bounded]

theorem Spells.append {front back : List Char} {frontTokens backTokens : List Token}
    (first : Spells dialect front frontTokens) (second : Follows dialect back backTokens) :
    Spells dialect (front ++ back) (frontTokens ++ backTokens) := by
  intro rest bounded
  rw [List.append_assoc, first _ (second.bounded rest bounded), second.spells rest bounded,
    Option.map_map]
  simp [Function.comp_def]

theorem Follows.append {front back : List Char} {frontTokens backTokens : List Token}
    (first : Follows dialect front frontTokens) (second : Follows dialect back backTokens) :
    Follows dialect (front ++ back) (frontTokens ++ backTokens) := by
  refine ⟨?_, first.spells.append second⟩
  intro rest bounded
  rw [List.append_assoc]
  exact first.bounded _ (second.bounded rest bounded)

theorem Follows.flatMap {text : ι → List Char} {tokens : ι → List Token} {items : List ι}
    (each : ∀ item ∈ items, Follows dialect (text item) (tokens item)) :
    Follows dialect (items.flatMap text) (items.flatMap tokens) := by
  induction items with
  | nil => exact Follows.nil dialect
  | cons item items ih =>
      have first := each item (by simp)
      exact first.append (ih fun other member => each other (by simp [member]))

def Opens (words : List String) (tokens : List Token) : Prop :=
  ∀ token, tokens.head? = some token → ∃ word ∈ words, token = .word word.toList

theorem Opens.append {words others : List String} {front back : List Token}
    (first : Opens words front) (second : Opens others back) :
    Opens (words ++ others) (front ++ back) := by
  intro token head
  cases front with
  | nil =>
      obtain ⟨word, member, same⟩ := second token head
      exact ⟨word, by simp [member], same⟩
  | cons leading front =>
      obtain ⟨word, member, same⟩ := first token head
      exact ⟨word, by simp [member], same⟩

theorem Opens.stops {words : List String} {tokens : List Token} (opens : Opens words tokens)
    {kind : Token → Bool} (apart : ∀ word ∈ words, kind (.word word.toList) = false) :
    Stops kind tokens := by
  intro token head
  obtain ⟨word, member, rfl⟩ := opens token head
  exact apart word member

/--
The text stands behind a finished part, begins with the word, and is read as a thing unless a
token follows that would have the reader go on.
-/
def ReadsBehind (dialect : Dialect) (read : Reader α) (word : String) (goesOn : Token → Bool)
    (text : List Char) (thing : α) : Prop :=
  ∃ tokens, Follows dialect text tokens ∧ Opens [word] tokens ∧
    ∀ rest, Stops goesOn rest → read (tokens ++ rest) = some (thing, rest)

section Clauses

variable {word : String} {words : List String} {read : Reader α} {goesOn : Token → Bool}

theorem ReadsBehind.readWhole {sql : String} {thing : α}
    (reads : ReadsBehind dialect read word goesOn sql.toList thing) :
    readWhole dialect read sql = some thing := by
  obtain ⟨tokens, follows, _, found⟩ := reads
  exact Reads.readWhole ⟨tokens, follows.spells, found⟩

theorem expectWords_of_stops {rest : List Token} (stops : Stops (Token.isKeyword word) rest) :
    expectWords (word :: words) rest = none := by
  cases rest with
  | nil => rfl
  | cons token rest => simp [expectWords, expect, stops token rfl]

theorem readClause_of_stops {rest : List Token} (stops : Stops (Token.isKeyword word) rest) :
    readClause (word :: words) read rest = some (none, rest) := by
  simp [readClause, expectWords_of_stops stops]

theorem readClause_wordTokens (keywords : AreKeywords words) {tokens rest : List Token}
    {thing : α} (found : read (tokens ++ rest) = some (thing, rest)) :
    readClause words read (wordTokens words ++ tokens ++ rest) = some (some thing, rest) := by
  rw [List.append_assoc, readClause, expectWords_wordTokens keywords]
  simp [found]

theorem reads_absent (word : String) (words : List String) (read : Reader α) :
    ReadsBehind dialect (readClause (word :: words) read) word
      (fun token => token.isKeyword word || goesOn token) [] none := by
  refine ⟨[], Follows.nil dialect, ?_, ?_⟩
  · intro token head
    cases head
  · intro rest stops
    exact readClause_of_stops (stops_left stops)

theorem reads_present (keywords : AreKeywords (word :: words)) {text : List Char} {thing : α}
    (reads : Reads dialect read goesOn text thing) :
    ReadsBehind dialect (readClause (word :: words) read) word
      (fun token => token.isKeyword word || goesOn token)
      (' ' :: opened (word :: words) text) (some thing) := by
  obtain ⟨tokens, spells, found⟩ := reads
  refine ⟨_, (spells_opened keywords spells).follows, ?_, ?_⟩
  · intro token head
    cases head
    exact ⟨word, by simp, rfl⟩
  · intro rest stops
    exact readClause_wordTokens keywords (found rest (stops_right stops))

theorem readEach_flatMap (keywords : AreKeywords (word :: words)) {tokens : ι → List Token}
    {thing : ι → α} {items : List ι}
    (each : ∀ item ∈ items, ∀ rest, read (tokens item ++ rest) = some (thing item, rest))
    {fuel : Nat} (enough : items.length < fuel) {rest : List Token}
    (stops : Stops (Token.isKeyword word) rest) :
    readEach (word :: words) read fuel
        (items.flatMap (fun item => wordTokens (word :: words) ++ tokens item) ++ rest) =
      some (items.map thing, rest) := by
  induction items generalizing fuel with
  | nil =>
      cases fuel with
      | zero => exact absurd enough (Nat.not_lt_zero _)
      | succ fuel => simp [readEach, readClause_of_stops stops]
  | cons item items ih =>
      cases fuel with
      | zero => exact absurd enough (Nat.not_lt_zero _)
      | succ fuel =>
          have room : items.length < fuel := by
            rw [List.length_cons] at enough
            omega
          have others := ih (fun other member => each other (by simp [member])) room
          have found := each item (by simp) (items.flatMap
            (fun item => wordTokens (word :: words) ++ tokens item) ++ rest)
          have first := readClause_wordTokens keywords found
          rw [List.flatMap_cons, List.append_assoc, readEach, first]
          simp [others]

theorem length_le_length_flatMap (keywords : List Token) (nonempty : keywords ≠ [])
    (tokens : ι → List Token) (items : List ι) :
    items.length ≤ (items.flatMap fun item => keywords ++ tokens item).length := by
  induction items with
  | nil => simp
  | cons item items ih =>
      have some := List.length_pos_iff.mpr nonempty
      simp only [List.flatMap_cons, List.length_append, List.length_cons]
      omega

theorem reads_each (keywords : AreKeywords (word :: words)) {text : ι → List Char}
    {thing : ι → α} {items : List ι}
    (each : ∀ item ∈ items, Reads dialect read (fun _ => false) (text item) (thing item)) :
    ReadsBehind dialect (readClauses (word :: words) read) word (Token.isKeyword word)
      (items.flatMap fun item => ' ' :: opened (word :: words) (text item))
      (items.map thing) := by
  obtain ⟨tokensOf, found⟩ := exists_tokensOf each
  refine ⟨items.flatMap fun item => wordTokens (word :: words) ++ tokensOf item, ?_, ?_, ?_⟩
  · exact Follows.flatMap fun item member => (spells_opened keywords (found item member).1).follows
  · intro token head
    cases items with
    | nil => cases head
    | cons item items =>
        cases head
        exact ⟨word, by simp, rfl⟩
  · intro rest stops
    have count := length_le_length_flatMap (wordTokens (word :: words)) nofun tokensOf items
    refine readEach_flatMap keywords ?_ ?_ stops
    · intro item member rest
      exact (found item member).2 rest fun _ _ => rfl
    · rw [List.length_append]
      omega

end Clauses

end SqlComposer.Reading
