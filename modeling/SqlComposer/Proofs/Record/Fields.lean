import SqlComposer.Proofs.Outcome
import SqlComposer.Proofs.Record.Cells
import SqlComposer.Record.Samples

/-!
Records decoded from rows. A record looks at the columns it names and at no others, each of which
it takes once; where they stand in the row makes no difference.
-/

namespace SqlComposer

variable {α : Type}

section Field

variable {shape : Shape α} {name : String} {cells : List (String × Value)}

def passField (shape : Shape α) (name : String) (field : Option α) (cell : String × Value) :
    Except ShapeFault (Option α) :=
  if cell.1 = name then fillField name field (shape.ofColumn cell.2) else .ok field

def cellsOf (name : String) (cells : List (String × Value)) : List (String × Value) :=
  cells.filter (·.1 = name)

/-- The field is open where no cell has its name, and filled by a cell that alone has it. -/
def Filled (shape : Shape α) (name : String) (cells : List (String × Value)) : Option α → Prop
  | none => cellsOf name cells = []
  | some value => ∃ cell, cellsOf name cells = [cell] ∧ shape.ofColumn cell.2 = .ok value

theorem foldlM_passField_some {value : α} {field : Option α} :
    cells.foldlM (passField shape name) (some value) = .ok field ↔
      cellsOf name cells = [] ∧ field = some value := by
  induction cells with
  | nil => simp [cellsOf, pure, Except.pure, eq_comm]
  | cons cell cells ih =>
      rw [List.foldlM_cons, bind_eq_ok]
      by_cases named : cell.1 = name
      · simp [passField, named, fillField, cellsOf]
      · simpa [passField, named, cellsOf] using ih

theorem foldlM_passField_eq_ok {field : Option α} :
    cells.foldlM (passField shape name) none = .ok field ↔ Filled shape name cells field := by
  induction cells with
  | nil => cases field <;> simp [Filled, cellsOf, pure, Except.pure]
  | cons cell cells ih =>
      rw [List.foldlM_cons, bind_eq_ok]
      by_cases named : cell.1 = name
      · -- the first cell of the name fills the field, and another one would be refused
        have taken : cellsOf name (cell :: cells) = cell :: cellsOf name cells := by
          simp [cellsOf, named]
        constructor
        · rintro ⟨before, filled, rest⟩
          obtain ⟨value, decoded, rfl⟩ : ∃ value, shape.ofColumn cell.2 = .ok value ∧
              some value = before := by
            simpa [passField, named, fillField, map_eq_ok] using filled
          obtain ⟨alone, rfl⟩ := foldlM_passField_some.mp rest
          exact ⟨cell, by rw [taken, alone], decoded⟩
        · intro filled
          cases field with
          | none => simp [Filled, taken] at filled
          | some value =>
              obtain ⟨only, found, decoded⟩ := filled
              rw [taken, List.cons.injEq] at found
              obtain ⟨rfl, alone⟩ := found
              refine ⟨some value, ?_, foldlM_passField_some.mpr ⟨alone, rfl⟩⟩
              simp [passField, named, fillField, decoded, Except.map]
      · have passed : cellsOf name (cell :: cells) = cellsOf name cells := by
          simp [cellsOf, named]
        have same : Filled shape name (cell :: cells) field ↔ Filled shape name cells field := by
          cases field <;> simp [Filled, passed]
        rw [same, ← ih]
        simp [passField, named]

theorem Filled.of_perm {others : List (String × Value)} {names : List String}
    (member : name ∈ names)
    (perm : (cells.filter (·.1 ∈ names)).Perm (others.filter (·.1 ∈ names))) {field : Option α}
    (filled : Filled shape name cells field) : Filled shape name others field := by
  have among : ∀ cells : List (String × Value),
      cellsOf name (cells.filter (·.1 ∈ names)) = cellsOf name cells := by
    intro cells
    simp only [cellsOf, List.filter_filter]
    congr 1
    funext cell
    by_cases named : cell.1 = name
    · simp [named, member]
    · simp [named]
  have permuted : (cellsOf name cells).Perm (cellsOf name others) := by
    rw [← among cells, ← among others]
    exact perm.filter _
  cases field with
  | none =>
      rw [Filled] at filled ⊢
      rw [filled] at permuted
      exact List.nil_perm.mp permuted
  | some value =>
      obtain ⟨cell, found, decoded⟩ := filled
      rw [found] at permuted
      exact ⟨cell, (List.singleton_perm.mp permuted).symm, decoded⟩

theorem requireField_eq_ok {field : Option α} {value : α} :
    requireField name field = .ok value ↔ field = some value := by
  cases field <;> simp [requireField]

end Field

@[simp]
theorem Shape.ofColumn_ignored (value : Value) : ignored.ofColumn value = .ok () :=
  rfl

theorem User.Draft.add_eq_ok {draft after : Draft} {cell : String × Value} :
    draft.add cell = .ok after ↔
      passField (.integer .int64) "id" draft.id cell = .ok after.id ∧
      passField .text "name" draft.name cell = .ok after.name := by
  obtain ⟨id, name⟩ := draft
  obtain ⟨afterId, afterName⟩ := after
  unfold add
  split
  case h_3 => simp_all [passField, Except.map]
  all_goals
    rename_i named
    simp [passField, named, bind_eq_ok, pure, Except.pure, and_comm]

theorem Account.Draft.add_eq_ok {draft after : Draft} {cell : String × Value} :
    draft.add cell = .ok after ↔
      passField (.integer .int64) "id" draft.id cell = .ok after.id ∧
      passField .bool "active" draft.active cell = .ok after.active ∧
      passField .real "balance" draft.balance cell = .ok after.balance ∧
      passField .text "code" draft.code cell = .ok after.code ∧
      passField (.optional .text) "note" draft.note cell = .ok after.note ∧
      passField (.list .text) "tags" draft.tags cell = .ok after.tags := by
  obtain ⟨id, active, balance, code, note, tags⟩ := draft
  obtain ⟨afterId, afterActive, afterBalance, afterCode, afterNote, afterTags⟩ := after
  unfold add
  split
  case h_7 => simp_all [passField, Except.map]
  all_goals
    rename_i named
    simp [passField, named, bind_eq_ok, pure, Except.pure, and_assoc, and_comm, and_left_comm]

theorem User.foldlM_add_eq_ok {cells : List (String × Value)} {draft after : Draft} :
    cells.foldlM Draft.add draft = .ok after ↔
      cells.foldlM (passField (.integer .int64) "id") draft.id = .ok after.id ∧
      cells.foldlM (passField .text "name") draft.name = .ok after.name := by
  induction cells generalizing draft with
  | nil => cases draft; cases after; simp [pure, Except.pure]
  | cons cell cells ih =>
      simp only [List.foldlM_cons, bind_eq_ok, ih, Draft.add_eq_ok]
      constructor
      · rintro ⟨between, ⟨id, name⟩, restId, restName⟩
        exact ⟨⟨_, id, restId⟩, _, name, restName⟩
      · rintro ⟨⟨_, id, restId⟩, _, name, restName⟩
        exact ⟨⟨_, _⟩, ⟨id, name⟩, restId, restName⟩

theorem Account.foldlM_add_eq_ok {cells : List (String × Value)} {draft after : Draft} :
    cells.foldlM Draft.add draft = .ok after ↔
      cells.foldlM (passField (.integer .int64) "id") draft.id = .ok after.id ∧
      cells.foldlM (passField .bool "active") draft.active = .ok after.active ∧
      cells.foldlM (passField .real "balance") draft.balance = .ok after.balance ∧
      cells.foldlM (passField .text "code") draft.code = .ok after.code ∧
      cells.foldlM (passField (.optional .text) "note") draft.note = .ok after.note ∧
      cells.foldlM (passField (.list .text) "tags") draft.tags = .ok after.tags := by
  induction cells generalizing draft with
  | nil => cases draft; cases after; simp [pure, Except.pure]
  | cons cell cells ih =>
      simp only [List.foldlM_cons, bind_eq_ok, ih, Draft.add_eq_ok]
      constructor
      · rintro ⟨_, ⟨id, active, balance, code, note, tags⟩, restId, restActive, restBalance,
          restCode, restNote, restTags⟩
        exact ⟨⟨_, id, restId⟩, ⟨_, active, restActive⟩, ⟨_, balance, restBalance⟩,
          ⟨_, code, restCode⟩, ⟨_, note, restNote⟩, ⟨_, tags, restTags⟩⟩
      · rintro ⟨⟨_, id, restId⟩, ⟨_, active, restActive⟩, ⟨_, balance, restBalance⟩,
          ⟨_, code, restCode⟩, ⟨_, note, restNote⟩, ⟨_, tags, restTags⟩⟩
        exact ⟨⟨_, _, _, _, _, _⟩, ⟨id, active, balance, code, note, tags⟩, restId, restActive,
          restBalance, restCode, restNote, restTags⟩

theorem User.ofCells_eq_ok {cells : List (String × Value)} {user : User} :
    ofCells cells = .ok user ↔
      Filled (.integer .int64) "id" cells (some user.id) ∧
      Filled .text "name" cells (some user.name) := by
  have finish : ∀ draft : Draft, draft.finish = .ok user ↔
      draft.id = some user.id ∧ draft.name = some user.name := by
    intro draft
    obtain ⟨id, name⟩ := user
    simp [Draft.finish, bind_eq_ok, requireField_eq_ok, pure, Except.pure, and_comm]
  rw [ofCells, bind_eq_ok]
  simp only [finish, foldlM_add_eq_ok]
  constructor
  · rintro ⟨draft, ⟨id, name⟩, foundId, foundName⟩
    rw [foldlM_passField_eq_ok, foundId] at id
    rw [foldlM_passField_eq_ok, foundName] at name
    exact ⟨id, name⟩
  · rintro ⟨id, name⟩
    exact ⟨⟨some user.id, some user.name⟩,
      ⟨foldlM_passField_eq_ok.mpr id, foldlM_passField_eq_ok.mpr name⟩, rfl, rfl⟩

theorem Account.ofCells_eq_ok {cells : List (String × Value)} {account : Account} :
    ofCells cells = .ok account ↔
      Filled (.integer .int64) "id" cells (some account.id) ∧
      Filled .bool "active" cells (some account.active) ∧
      Filled .real "balance" cells (some account.balance) ∧
      Filled .text "code" cells (some account.code) ∧
      (∃ note, Filled (.optional .text) "note" cells note ∧ note.join = account.note) ∧
      Filled (.list .text) "tags" cells (some account.tags) := by
  have finish : ∀ draft : Draft, draft.finish = .ok account ↔
      draft.id = some account.id ∧ draft.active = some account.active ∧
      draft.balance = some account.balance ∧ draft.code = some account.code ∧
      draft.note.join = account.note ∧ draft.tags = some account.tags := by
    intro draft
    obtain ⟨id, active, balance, code, note, tags⟩ := account
    simp [Draft.finish, bind_eq_ok, requireField_eq_ok, pure, Except.pure, and_comm,
      and_left_comm, and_assoc]
  rw [ofCells, bind_eq_ok]
  simp only [finish, foldlM_add_eq_ok, foldlM_passField_eq_ok]
  constructor
  · rintro ⟨⟨_, _, _, _, note, _⟩, ⟨id, active, balance, code, noted, tags⟩, rfl, rfl, rfl, rfl,
      joined, rfl⟩
    exact ⟨id, active, balance, code, ⟨note, noted, joined⟩, tags⟩
  · rintro ⟨id, active, balance, code, ⟨note, noted, joined⟩, tags⟩
    exact ⟨⟨_, _, _, _, note, _⟩, ⟨id, active, balance, code, noted, tags⟩, rfl, rfl, rfl, rfl,
      joined, rfl⟩

namespace Row

variable {row : Row} {shape : Shape α} {column : String}

theorem length_cellsOf (row : Row) (column : String) :
    (cellsOf column row.cells).length = row.columns.count column := by
  rw [← names_cells row, List.count_eq_countP, List.countP_map, List.countP_eq_length_filter,
    cellsOf]
  congr 1

theorem lookup_eq_head? (column : String) (cells : List (String × Value)) :
    cells.lookup column = (cellsOf column cells).head?.map Prod.snd := by
  induction cells with
  | nil => rfl
  | cons cell cells ih =>
      obtain ⟨name, value⟩ := cell
      by_cases named : name = column
      · simp [cellsOf, named]
      · have apart : (column == name) = false := beq_false_of_ne (Ne.symm named)
        simpa [List.lookup_cons, cellsOf, named, apart] using ih

def Shows (row : Row) (shape : Shape α) (column : String) (value : α) : Prop :=
  row.columns.count column = 1 ∧ shape.ofColumn (row.cell column) = .ok value

/-- A column that may be absent, and has no value then and where it is null. -/
inductive MayShow (row : Row) (shape : Shape α) (column : String) : Option α → Prop
  | absent (absent : column ∉ row.columns) : MayShow row shape column none
  | null (once : row.columns.count column = 1) (null : row.cell column = .null) :
    MayShow row shape column none
  | present {value : α} (shows : row.Shows shape column value)
    (set : row.cell column ≠ .null) : MayShow row shape column (some value)

theorem filled_none_iff : Filled shape column row.cells none ↔ column ∉ row.columns := by
  rw [Filled, ← List.length_eq_zero_iff, length_cellsOf, List.count_eq_zero]

theorem filled_some_iff {value : α} :
    Filled shape column row.cells (some value) ↔ row.Shows shape column value := by
  have found : ∀ cell, cellsOf column row.cells = [cell] → row.cell column = cell.2 := by
    intro cell alone
    have present : column ∈ row.columns := by
      rw [← List.count_pos_iff, ← length_cellsOf, alone]
      exact Nat.one_pos
    have got := row.lookup_cells column
    rw [if_pos present, lookup_eq_head?, alone] at got
    exact (Option.some.inj got).symm
  constructor
  · rintro ⟨cell, alone, decoded⟩
    rw [Shows, found cell alone, ← length_cellsOf, alone]
    exact ⟨rfl, decoded⟩
  · rintro ⟨once, decoded⟩
    rw [← length_cellsOf, List.length_eq_one_iff] at once
    obtain ⟨cell, alone⟩ := once
    rw [found cell alone] at decoded
    exact ⟨cell, alone, decoded⟩

theorem optional_ofColumn_set {value : Value} (set : value ≠ .null) :
    (Shape.optional shape).ofColumn value = (shape.ofColumn value).map some := by
  cases value with
  | null => exact absurd rfl set
  | _ => rfl

theorem filled_optional_iff {value : Option α} :
    (∃ field, Filled (.optional shape) column row.cells field ∧ field.join = value) ↔
      row.MayShow shape column value := by
  constructor
  · rintro ⟨field, filled, rfl⟩
    cases field with
    | none => exact .absent (filled_none_iff.mp filled)
    | some value =>
        obtain ⟨once, decoded⟩ := filled_some_iff.mp filled
        by_cases null : row.cell column = .null
        · rw [null] at decoded
          cases decoded
          exact .null once null
        · rw [optional_ofColumn_set null, map_eq_ok] at decoded
          obtain ⟨inner, decoded, rfl⟩ := decoded
          exact .present ⟨once, decoded⟩ null
  · intro shown
    cases shown with
    | absent absent => exact ⟨none, filled_none_iff.mpr absent, rfl⟩
    | null once null =>
        have decoded : (Shape.optional shape).ofColumn (row.cell column) = .ok none := by
          rw [null]
          rfl
        exact ⟨some none, filled_some_iff.mpr ⟨once, decoded⟩, rfl⟩
    | @present inner shows set =>
        have decoded : (Shape.optional shape).ofColumn (row.cell column) = .ok (some inner) := by
          rw [optional_ofColumn_set set, shows.2]
          rfl
        exact ⟨some (some inner), filled_some_iff.mpr ⟨shows.1, decoded⟩, rfl⟩

end Row

structure User.DecodedFrom (row : Row) (user : User) : Prop where
  id : row.Shows (.integer .int64) "id" user.id
  name : row.Shows .text "name" user.name

structure Account.DecodedFrom (row : Row) (account : Account) : Prop where
  id : row.Shows (.integer .int64) "id" account.id
  active : row.Shows .bool "active" account.active
  balance : row.Shows .real "balance" account.balance
  code : row.Shows .text "code" account.code
  note : row.MayShow .text "note" account.note
  tags : row.Shows (.list .text) "tags" account.tags

def User.columns : List String :=
  ["id", "name"]

def Account.columns : List String :=
  ["id", "active", "balance", "code", "note", "tags"]

namespace Row

variable {row other : Row}

def AgreesOn (names : List String) (row other : Row) : Prop :=
  (row.cells.filter (·.1 ∈ names)).Perm (other.cells.filter (·.1 ∈ names))

theorem decode_user_iff (user : User) :
    row.decode User.ofCells = .ok user ↔ user.DecodedFrom row := by
  rw [decode, mapError_eq_ok, User.ofCells_eq_ok, filled_some_iff, filled_some_iff]
  exact ⟨fun ⟨id, name⟩ => ⟨id, name⟩, fun ⟨id, name⟩ => ⟨id, name⟩⟩

theorem decode_account_iff (account : Account) :
    row.decode Account.ofCells = .ok account ↔ account.DecodedFrom row := by
  rw [decode, mapError_eq_ok, Account.ofCells_eq_ok]
  simp only [filled_some_iff, filled_optional_iff]
  exact ⟨fun ⟨id, active, balance, code, note, tags⟩ => ⟨id, active, balance, code, note, tags⟩,
    fun ⟨id, active, balance, code, note, tags⟩ => ⟨id, active, balance, code, note, tags⟩⟩

theorem decode_user_of_agreesOn (agrees : row.AgreesOn User.columns other) {user : User}
    (decoded : row.decode User.ofCells = .ok user) : other.decode User.ofCells = .ok user := by
  rw [decode, mapError_eq_ok, User.ofCells_eq_ok] at decoded ⊢
  obtain ⟨id, name⟩ := decoded
  exact ⟨id.of_perm (by decide) agrees, name.of_perm (by decide) agrees⟩

theorem decode_account_of_agreesOn (agrees : row.AgreesOn Account.columns other)
    {account : Account} (decoded : row.decode Account.ofCells = .ok account) :
    other.decode Account.ofCells = .ok account := by
  rw [decode, mapError_eq_ok, Account.ofCells_eq_ok] at decoded ⊢
  obtain ⟨id, active, balance, code, ⟨field, note, joined⟩, tags⟩ := decoded
  exact ⟨id.of_perm (by decide) agrees, active.of_perm (by decide) agrees,
    balance.of_perm (by decide) agrees, code.of_perm (by decide) agrees,
    ⟨field, note.of_perm (by decide) agrees, joined⟩, tags.of_perm (by decide) agrees⟩

/--
A row decodes into a user or an account just if each column that the record names is in the row
once, or not at all in the case of the note, and its value decodes as the field's type; then the
record has these values. So rows with the same cells under the record's names, in any order and
among any others, decode alike.
-/
theorem records_take_own_columns (row : Row) :
    (∀ user, row.decode User.ofCells = .ok user ↔ user.DecodedFrom row) ∧
    (∀ account, row.decode Account.ofCells = .ok account ↔ account.DecodedFrom row) ∧
    (∀ other, row.AgreesOn User.columns other → ∀ user,
      row.decode User.ofCells = .ok user ↔ other.decode User.ofCells = .ok user) ∧
    ∀ other, row.AgreesOn Account.columns other → ∀ account,
      row.decode Account.ofCells = .ok account ↔ other.decode Account.ofCells = .ok account := by
  refine ⟨decode_user_iff, decode_account_iff, ?_, ?_⟩
  · intro other agrees user
    exact ⟨decode_user_of_agreesOn agrees, decode_user_of_agreesOn agrees.symm⟩
  · intro other agrees account
    exact ⟨decode_account_of_agreesOn agrees, decode_account_of_agreesOn agrees.symm⟩

theorem records_take_own_columns_scattered :
    let tags : Value := .json (.array [.string "a"])
    let scattered : Row := ⟨["at", "tags", "id", "at", "code", "balance", "active", "note"],
      [.bytes [1], tags, .text " 7", .null, .text "007", .int 2, .text "t"]⟩
    let plain := ofCells [("id", .text " 7"), ("active", .text "t"), ("balance", .int 2),
      ("code", .text "007"), ("note", .null), ("tags", tags)]
    let account : Account := ⟨7, true, .ofInt 2, "007", none, ["a"]⟩
    scattered.AgreesOn Account.columns plain ∧
    plain.decode Account.ofCells = .ok account ∧
    scattered.decode Account.ofCells = .ok account ∧
    ∀ user, (Row.mk ["id", "name", "id"] [.int 7, .text "Ann"]).decode User.ofCells ≠
      .ok user := by
  intro tags scattered plain account
  have agrees : scattered.AgreesOn Account.columns plain := by
    rw [AgreesOn]
    decide
  have decoded : plain.decode Account.ofCells = .ok account := rfl
  have same := (records_take_own_columns scattered).2.2.2 plain agrees account
  refine ⟨agrees, decoded, same.mpr decoded, ?_⟩
  intro user decoded
  have twice := ((records_take_own_columns _).1 user).mp decoded
  exact absurd twice.id.1 (by decide)

end Row

end SqlComposer
