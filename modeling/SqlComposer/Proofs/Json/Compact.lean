import SqlComposer.Proofs.Json.Depth
import SqlComposer.Proofs.Json.Scalar

/-!
The compact text of a document reads back as the document. That holds where it has no real
numbers and names no member twice, and exactly as deep as a reader goes.
-/

namespace SqlComposer.Json

mutual

def RealFree : Json → Prop
  | .number (.real _ _) => False
  | .array items => RealFreeItems items
  | .object members => RealFreeMembers members
  | _ => True

def RealFreeItems : List Json → Prop
  | [] => True
  | item :: items => RealFree item ∧ RealFreeItems items

def RealFreeMembers : List (String × Json) → Prop
  | [] => True
  | (_, value) :: members => RealFree value ∧ RealFreeMembers members

end

def writeMember (member : String × Json) : List Char :=
  writeText member.1 ++ ':' :: member.2.write

theorem writeItems_cons (item : Json) (items : List Json) :
    writeItems (item :: items) = item.write ++ items.flatMap fun item => ',' :: item.write := by
  induction items generalizing item with
  | nil => simp [writeItems]
  | cons next items ih =>
      rw [writeItems, ih next, List.flatMap_cons]
      · rfl
      · simp

theorem writeMembers_cons (member : String × Json) (members : List (String × Json)) :
    writeMembers (member :: members) =
      writeMember member ++ members.flatMap fun member => ',' :: writeMember member := by
  induction members generalizing member with
  | nil => simp [writeMembers, writeMember]
  | cons next members ih =>
      rw [writeMembers, ih next, List.flatMap_cons]
      · simp [writeMember]
      · simp

theorem skipSpace_of_not_isSpace {c : Char} (visible : isSpace c = false) (text : List Char) :
    skipSpace (c :: text) = c :: text := by
  simp [skipSpace, visible]

theorem endsNumeral_nil : EndsNumeral [] := by
  intro c head
  simp at head

theorem endsNumeral_cons {c : Char} (mark : c ∈ [',', ']', '\x7d']) (rest : List Char) :
    EndsNumeral (c :: rest) := by
  intro first head
  cases head
  simp only [List.mem_cons, List.not_mem_nil, or_false] at mark
  rcases mark with rfl | rfl | rfl <;> decide

theorem not_isSpace_of_isDigit {c : Char} (digit : c.isDigit = true) : isSpace c = false := by
  cases space : isSpace c with
  | false => rfl
  | true =>
      simp only [isSpace, Bool.or_eq_true, beq_iff_eq] at space
      rcases space with ((rfl | rfl) | rfl) | rfl <;> cases digit

theorem readValue_digit {c : Char} (digit : c.isDigit = true) (fuel depth : Nat)
    (text : List Char) : readValue (fuel + 1) depth (c :: text) =
      (readNumeral false (c :: text) >>= fun (numeral, rest) => pure (.number numeral, rest)) := by
  have front := skipSpace_of_not_isSpace (not_isSpace_of_isDigit digit) text
  have apart : ∀ other : Char, other.isDigit = false → c ≠ other := by
    rintro other noDigit rfl
    rw [digit] at noDigit
    cases noDigit
  simp [readValue, front, digit, apart 'n' rfl, apart 't' rfl, apart 'f' rfl, apart '"' rfl,
    apart '-' rfl, apart '[' rfl, apart '\x7b' rfl]

theorem readValue_integer {n : Int} (range : -2 ^ 63 ≤ n ∧ n < 2 ^ 64) (fuel depth : Nat)
    {rest : List Char} (ends : EndsNumeral rest) :
    readValue (fuel + 1) depth (n.repr.toList ++ rest) =
      .ok (.number (.integer n range), rest) := by
  rw [Int.repr_eq_if]
  split
  · rename_i positive
    have value : (n.toNat : Int) = n := Int.toNat_of_nonneg positive
    have read := readNumeral_toDigits false (by omega : n.toNat < 2 ^ 64) ends
    have number : wholeNumber false n.toNat rest = .ok (.integer n range, rest) :=
      wholeNumber_eq ((if_neg Bool.false_ne_true).trans value) (by simp) range rest
    rw [number] at read
    rw [Nat.repr_eq_ofList_toDigits, String.toList_ofList]
    obtain ⟨c, others, digits, all⟩ := exists_toDigits_eq_cons n.toNat
    rw [digits, List.cons_append] at read ⊢
    rw [readValue_digit (all c (by simp)), read]
    rfl
  · rename_i negative
    have value : -((-n).toNat : Int) = n := by omega
    have nonzero : (-n).toNat ≠ 0 := by omega
    have read := readNumeral_toDigits true (by omega : (-n).toNat < 2 ^ 64) ends
    have number : wholeNumber true (-n).toNat rest = .ok (.integer n range, rest) :=
      wholeNumber_eq ((if_pos rfl).trans value) (by simpa using nonzero) range rest
    rw [number] at read
    have front : ("-" ++ (-n).toNat.repr).toList = '-' :: Nat.toDigits 10 (-n).toNat := by simp
    have visible : isSpace '-' = false := by decide
    rw [front, List.cons_append, readValue, skipSpace_of_not_isSpace visible]
    simp only [read]
    rfl

theorem exists_write_eq_cons {document : Json} (whole : document.RealFree) :
    ∃ c text, document.write = c :: text ∧ isSpace c = false ∧ c ≠ ']' := by
  match document with
  | .null => exact ⟨_, _, rfl, by decide, by decide⟩
  | .bool true => exact ⟨_, _, rfl, by decide, by decide⟩
  | .bool false => exact ⟨_, _, rfl, by decide, by decide⟩
  | .string s => exact ⟨_, _, rfl, by decide, by decide⟩
  | .array items => exact ⟨_, _, by rw [write], by decide, by decide⟩
  | .object members => exact ⟨_, _, by rw [write], by decide, by decide⟩
  | .number (.real x _) => exact absurd whole (by simp [RealFree])
  | .number (.integer n _) =>
      rw [write, JsonNumber.write, Int.repr_eq_if]
      split
      · rw [Nat.repr_eq_ofList_toDigits, String.toList_ofList]
        obtain ⟨c, others, digits, all⟩ := exists_toDigits_eq_cons n.toNat
        have digit := all c (by simp)
        refine ⟨c, others, digits, not_isSpace_of_isDigit digit, ?_⟩
        rintro rfl
        cases digit
      · exact ⟨'-', Nat.toDigits 10 (-n).toNat, by simp, by decide, by decide⟩

section Lists

variable {fuel depth : Nat} {text rest after : List Char}

theorem readItems_first {item : Json} {items : List Json} {c : Char}
    (visible : isSpace c = false) (opens : c ≠ ']')
    (first : readValue fuel depth (c :: text) = .ok (item, rest))
    (others : readItems fuel depth false rest = .ok (items, after)) :
    readItems (fuel + 1) depth true (c :: text) = .ok (item :: items, after) := by
  simp [readItems, skipSpace_of_not_isSpace visible, first, others, bind, Except.bind, pure,
    Except.pure]

theorem readItems_next {item : Json} {items : List Json} {c : Char}
    (visible : isSpace c = false) (opens : c ≠ ']')
    (first : readValue fuel depth (c :: text) = .ok (item, rest))
    (others : readItems fuel depth false rest = .ok (items, after)) :
    readItems (fuel + 1) depth false (',' :: c :: text) = .ok (item :: items, after) := by
  have comma := skipSpace_of_not_isSpace (by decide : isSpace ',' = false) (c :: text)
  simp [readItems, comma, skipSpace_of_not_isSpace visible, opens, first, others, bind,
    Except.bind, pure, Except.pure]

theorem readMembers_first {name : String} {value : Json} {members : List (String × Json)}
    (first : readValue fuel depth text = .ok (value, rest))
    (others : readMembers fuel depth false rest = .ok (members, after)) :
    readMembers (fuel + 1) depth true (writeText name ++ ':' :: text) =
      .ok ((name, value) :: members, after) := by
  have quote := skipSpace_of_not_isSpace (by decide : isSpace '"' = false)
    (name.toList.flatMap writeChar ++ '"' :: ':' :: text)
  have colon := skipSpace_of_not_isSpace (by decide : isSpace ':' = false) text
  have named := readText_write name (':' :: text)
  have written : writeText name ++ ':' :: text =
      '"' :: (name.toList.flatMap writeChar ++ '"' :: ':' :: text) := by simp [writeText]
  rw [written]
  simp [readMembers, quote, named, colon, first, others, bind, Except.bind, pure, Except.pure]

theorem readMembers_next {name : String} {value : Json} {members : List (String × Json)}
    (first : readValue fuel depth text = .ok (value, rest))
    (others : readMembers fuel depth false rest = .ok (members, after)) :
    readMembers (fuel + 1) depth false (',' :: (writeText name ++ ':' :: text)) =
      .ok ((name, value) :: members, after) := by
  have comma := skipSpace_of_not_isSpace (by decide : isSpace ',' = false)
    (writeText name ++ ':' :: text)
  have quote := skipSpace_of_not_isSpace (by decide : isSpace '"' = false)
    (name.toList.flatMap writeChar ++ '"' :: ':' :: text)
  have colon := skipSpace_of_not_isSpace (by decide : isSpace ':' = false) text
  have named := readText_write name (':' :: text)
  have written : writeText name ++ ':' :: text =
      '"' :: (name.toList.flatMap writeChar ++ '"' :: ':' :: text) := by simp [writeText]
  rw [written] at comma ⊢
  simp [readMembers, comma, quote, named, colon, first, others, bind, Except.bind, pure,
    Except.pure]

end Lists

theorem length_write_pos {document : Json} (whole : document.RealFree) :
    0 < document.write.length := by
  obtain ⟨c, text, written, _⟩ := exists_write_eq_cons whole
  simp [written]

theorem endsNumeral_otherItems (items : List Json) (rest : List Char) :
    EndsNumeral ((items.flatMap fun item => ',' :: item.write) ++ ']' :: rest) := by
  cases items with
  | nil => exact endsNumeral_cons (by simp) rest
  | cons item items => exact endsNumeral_cons (by simp) _

theorem endsNumeral_otherMembers (members : List (String × Json)) (rest : List Char) :
    EndsNumeral ((members.flatMap fun member => ',' :: writeMember member) ++ '\x7d' :: rest) := by
  cases members with
  | nil => exact endsNumeral_cons (by simp) rest
  | cons member members => exact endsNumeral_cons (by simp) _

mutual

/-- Each character that is read takes at most two steps, and each level of nesting one level. -/
theorem readValue_write {document : Json} (whole : document.RealFree) {fuel levels : Nat}
    {rest : List Char} (enough : 2 * document.write.length ≤ fuel)
    (shallow : document.depth < levels) (ends : EndsNumeral rest) :
    readValue fuel levels (document.write ++ rest) = .ok (document, rest) := by
  have written := length_write_pos whole
  obtain ⟨fuel, rfl⟩ := Nat.exists_eq_succ_of_ne_zero (by omega : fuel ≠ 0)
  match document with
  | .null => rfl
  | .bool true => rfl
  | .bool false => rfl
  | .number (.real x _) => exact absurd whole (by simp [RealFree])
  | .number (.integer n range) => exact readValue_integer range fuel levels ends
  | .string s =>
      have read := readText_write s rest
      have quote := skipSpace_of_not_isSpace (by decide : isSpace '"' = false)
        (s.toList.flatMap writeChar ++ '"' :: rest)
      have front : (Json.string s).write ++ rest =
          '"' :: (s.toList.flatMap writeChar ++ '"' :: rest) := by simp [write, writeText]
      rw [front]
      simp [readValue, quote, read, bind, Except.bind, pure, Except.pure]
  | .array items =>
      have bracket := skipSpace_of_not_isSpace (by decide : isSpace '[' = false)
        (writeItems items ++ ']' :: rest)
      have front : (Json.array items).write ++ rest = '[' :: (writeItems items ++ ']' :: rest) := by
        simp [write]
      simp only [write, List.length_cons, List.length_append, List.length_nil] at enough
      simp only [depth] at shallow
      have nested : ¬ levels ≤ 1 := by omega
      have inside := readItems_write whole (by omega : 2 * (writeItems items).length < fuel)
        (by omega : depthItems items < levels - 1) rest
      rw [front]
      simp [readValue, bracket, nested, inside, bind, Except.bind, pure, Except.pure]
  | .object members =>
      have brace := skipSpace_of_not_isSpace (by decide : isSpace '\x7b' = false)
        (writeMembers members ++ '\x7d' :: rest)
      have front : (Json.object members).write ++ rest =
          '\x7b' :: (writeMembers members ++ '\x7d' :: rest) := by simp [write]
      simp only [write, List.length_cons, List.length_append, List.length_nil] at enough
      simp only [depth] at shallow
      have nested : ¬ levels ≤ 1 := by omega
      have inside := readMembers_write whole (by omega : 2 * (writeMembers members).length < fuel)
        (by omega : depthMembers members < levels - 1) rest
      rw [front]
      simp [readValue, brace, nested, inside, bind, Except.bind, pure, Except.pure]

theorem readItems_write {items : List Json} (whole : RealFreeItems items) {fuel levels : Nat}
    (enough : 2 * (writeItems items).length < fuel) (shallow : depthItems items < levels)
    (rest : List Char) :
    readItems fuel levels true (writeItems items ++ ']' :: rest) = .ok (items, rest) := by
  obtain ⟨fuel, rfl⟩ := Nat.exists_eq_succ_of_ne_zero (by omega : fuel ≠ 0)
  match items with
  | [] => rfl
  | item :: items =>
      have written := length_write_pos whole.1
      rw [writeItems_cons] at enough ⊢
      simp only [List.length_append] at enough
      simp only [depthItems] at shallow
      have others := readOtherItems_write whole.2
        (by omega : 2 * (items.flatMap fun item => ',' :: item.write).length < fuel)
        (by omega : depthItems items < levels) rest
      have first := readValue_write whole.1 (by omega : 2 * item.write.length ≤ fuel)
        (by omega : item.depth < levels) (endsNumeral_otherItems items rest)
      obtain ⟨c, text, opening, visible, opens⟩ := exists_write_eq_cons whole.1
      rw [opening, List.cons_append] at first
      rw [opening, List.append_assoc, List.cons_append]
      exact readItems_first visible opens first others

theorem readOtherItems_write {items : List Json} (whole : RealFreeItems items) {fuel levels : Nat}
    (enough : 2 * (items.flatMap fun item => ',' :: item.write).length < fuel)
    (shallow : depthItems items < levels) (rest : List Char) :
    readItems fuel levels false ((items.flatMap fun item => ',' :: item.write) ++ ']' :: rest) =
      .ok (items, rest) := by
  obtain ⟨fuel, rfl⟩ := Nat.exists_eq_succ_of_ne_zero (by omega : fuel ≠ 0)
  match items with
  | [] => rfl
  | item :: items =>
      have written := length_write_pos whole.1
      rw [List.flatMap_cons] at enough ⊢
      simp only [List.length_append, List.length_cons] at enough
      simp only [depthItems] at shallow
      have others := readOtherItems_write whole.2
        (by omega : 2 * (items.flatMap fun item => ',' :: item.write).length < fuel)
        (by omega : depthItems items < levels) rest
      have first := readValue_write whole.1 (by omega : 2 * item.write.length ≤ fuel)
        (by omega : item.depth < levels) (endsNumeral_otherItems items rest)
      obtain ⟨c, text, opening, visible, opens⟩ := exists_write_eq_cons whole.1
      rw [opening, List.cons_append] at first
      rw [opening, List.append_assoc, List.cons_append, List.cons_append]
      exact readItems_next visible opens first others

theorem readMembers_write {members : List (String × Json)} (whole : RealFreeMembers members)
    {fuel levels : Nat} (enough : 2 * (writeMembers members).length < fuel)
    (shallow : depthMembers members < levels) (rest : List Char) :
    readMembers fuel levels true (writeMembers members ++ '\x7d' :: rest) =
      .ok (members, rest) := by
  obtain ⟨fuel, rfl⟩ := Nat.exists_eq_succ_of_ne_zero (by omega : fuel ≠ 0)
  match members with
  | [] => rfl
  | (name, value) :: members =>
      rw [writeMembers_cons, writeMember] at enough ⊢
      simp only [List.length_append, List.length_cons] at enough
      simp only [depthMembers] at shallow
      have others := readOtherMembers_write whole.2
        (by omega : 2 * (members.flatMap fun member => ',' :: writeMember member).length < fuel)
        (by omega : depthMembers members < levels) rest
      have first := readValue_write whole.1 (by omega : 2 * value.write.length ≤ fuel)
        (by omega : value.depth < levels) (endsNumeral_otherMembers members rest)
      rw [List.append_assoc, List.append_assoc, List.cons_append]
      exact readMembers_first first others

theorem readOtherMembers_write {members : List (String × Json)} (whole : RealFreeMembers members)
    {fuel levels : Nat}
    (enough : 2 * (members.flatMap fun member => ',' :: writeMember member).length < fuel)
    (shallow : depthMembers members < levels) (rest : List Char) :
    readMembers fuel levels false
      ((members.flatMap fun member => ',' :: writeMember member) ++ '\x7d' :: rest) =
        .ok (members, rest) := by
  obtain ⟨fuel, rfl⟩ := Nat.exists_eq_succ_of_ne_zero (by omega : fuel ≠ 0)
  match members with
  | [] => rfl
  | (name, value) :: members =>
      rw [List.flatMap_cons, writeMember] at enough ⊢
      simp only [List.length_append, List.length_cons] at enough
      simp only [depthMembers] at shallow
      have others := readOtherMembers_write whole.2
        (by omega : 2 * (members.flatMap fun member => ',' :: writeMember member).length < fuel)
        (by omega : depthMembers members < levels) rest
      have first := readValue_write whole.1 (by omega : 2 * value.write.length ≤ fuel)
        (by omega : value.depth < levels) (endsNumeral_otherMembers members rest)
      rw [List.append_assoc, List.cons_append, List.append_assoc, List.cons_append]
      exact readMembers_next first others

end

mutual

theorem settle_eq_self {document : Json} (settled : document.Settled) :
    document.settle = document := by
  match document with
  | .null | .bool _ | .number _ | .string _ => rfl
  | .array items => rw [settle, settleItems_eq_self settled]
  | .object members =>
      rw [settle, settleMembers_eq_self settled.2, assignAll_eq_self settled.1]

theorem settleItems_eq_self {items : List Json} (settled : SettledItems items) :
    settleItems items = items := by
  match items with
  | [] => rfl
  | item :: items =>
      rw [settleItems, settle_eq_self settled.1, settleItems_eq_self settled.2]

theorem settleMembers_eq_self {members : List (String × Json)}
    (settled : SettledMembers members) : settleMembers members = members := by
  match members with
  | [] => rfl
  | (name, value) :: members =>
      rw [settleMembers, settle_eq_self settled.1, settleMembers_eq_self settled.2]

end

theorem parse_compact {document : Json} (whole : document.RealFree)
    (shallow : document.depth < depthLimit) : parse document.compact = .ok document := by
  have value : readValue (2 * document.write.length + 2) depthLimit document.write =
      .ok (document, []) := by
    have read := readValue_write whole
      (by omega : 2 * document.write.length ≤ 2 * document.write.length + 2) shallow
      endsNumeral_nil
    rwa [List.append_nil] at read
  rw [parse, compact, String.toList_ofList, mapError_eq_ok]
  exact bind_eq_ok.mpr ⟨_, value, rfl⟩

theorem read_compact_iff {document : Json} (whole : document.RealFree)
    (settled : document.Settled) :
    read document.compact = .ok document ↔ document.depth < depthLimit := by
  constructor
  · exact depth_of_read
  · intro shallow
    rw [read, parse_compact whole shallow]
    exact congrArg Except.ok (settle_eq_self settled)

end SqlComposer.Json
