import SqlComposer.Proofs.Filter.Nodes
import SqlComposer.Proofs.Statement.Scope
import SqlComposer.Session.Scripted
import SqlComposer.Session.TableQuery

/-!
Why a filter does not compile. Its nodes are checked in the order in which they are visited, and
the first check that fails makes the fault, in either dialect.
-/

namespace SqlComposer

section Outcome

variable {ε α β : Type}

def faultOf : Except ε α → Option ε
  | .error fault => some fault
  | .ok _ => none

theorem faultOf_eq_some {result : Except ε α} {fault : ε} :
    faultOf result = some fault ↔ result = .error fault := by
  cases result with
  | error other => simp [faultOf]
  | ok value => simp [faultOf]

theorem faultOf_map (result : Except ε α) (change : α → β) :
    faultOf (result.map change) = faultOf result := by
  cases result <;> rfl

theorem faultOf_bind_pure (result : Except ε α) (change : α → β) :
    faultOf (result >>= fun value => pure (change value)) = faultOf result := by
  cases result <;> rfl

theorem faultOf_mapM (make : α → Except ε β) (items : List α) :
    faultOf (items.mapM make) = items.findSome? (faultOf ∘ make) := by
  induction items with
  | nil => rfl
  | cons item items ih =>
      rw [List.mapM_cons, List.findSome?_cons, Function.comp_apply]
      cases make item with
      | error fault => rfl
      | ok value =>
          have rest := faultOf_bind_pure (items.mapM make) (value :: ·)
          exact rest.trans ih

end Outcome

variable {dialect : Dialect}

theorem Bounds.comparisons_eq_nil_iff {bounds : Bounds} {field : String} :
    bounds.comparisons dialect field = [] ↔ bounds = .none := by
  obtain ⟨lower, upper⟩ := bounds
  cases lower <;> cases upper <;> simp [comparisons, none]

def Condition.fault? (field : String) : Condition → Option FilterFault
  | .between values =>
    if values.length = 2 then none else some (.boundCount field values.length)
  | .within bounds => if bounds = .none then some (.noBounds field) else none
  | _ => none

theorem Condition.faultOf_compile (condition : Condition) (field : String) :
    faultOf (condition.compile dialect field) = condition.fault? field := by
  cases condition with
  | equals value => rfl
  | like pattern => rfl
  | sql text => rfl
  | oneOf values => rfl
  | identical value => rfl
  | between values =>
      match values with
      | [] => rfl
      | [_] => rfl
      | [_, _] => rfl
      | _ :: _ :: _ :: _ => simp [compile, fault?, faultOf]
  | within bounds =>
      simp only [compile, fault?]
      by_cases unbounded : bounds = .none
      · rw [Bounds.comparisons_eq_nil_iff.mpr unbounded, if_pos unbounded]
        rfl
      · rw [if_neg unbounded]
        split
        next empty => exact absurd (Bounds.comparisons_eq_nil_iff.mp empty) unbounded
        next => rfl

namespace Filter

inductive Check where
  | hasTerm (terms : List Filter)
  | speaks (term : Filter)
  | complete (field : String) (condition : Condition)

def Check.fault? : Check → Option FilterFault
  | .hasTerm terms => if terms.isEmpty then some .noTerms else none
  | .speaks term => if term.saysNothing then some .blankTerm else none
  | .complete field condition => condition.fault? field

mutual

/-- The checks in the order in which they are made: a term says something once it compiles. -/
def checks : Filter → List Check
  | .raw _ => []
  | .predicate _ => []
  | .conjunction _ terms => .hasTerm terms :: termChecks terms
  | .fields conditions => conditions.entries.map fun entry => .complete entry.1 entry.2

def termChecks : List Filter → List Check
  | [] => []
  | term :: terms => checks term ++ .speaks term :: termChecks terms

end

theorem faultOf_compileTerms {terms : List Filter}
    (each : ∀ term ∈ terms,
      faultOf (term.compile dialect) = term.checks.findSome? Check.fault?) :
    faultOf (compileTerms dialect terms) = (termChecks terms).findSome? Check.fault? := by
  induction terms with
  | nil => rfl
  | cons term terms ih =>
      have first := each term (by simp)
      have others := ih fun other member => each other (by simp [member])
      rw [compileTerms, termChecks, List.findSome?_append, ← first]
      cases compiled : term.compile dialect with
      | error fault => rfl
      | ok sql =>
          -- whether the text is blank is the same in both dialects, though the text is not
          have blank := allBlank_compile compiled
          rw [List.findSome?_cons]
          cases silent : term.saysNothing with
          | true =>
              rw [silent] at blank
              simp [bind, Except.bind, blank, faultOf, Check.fault?, silent, throw, throwThe,
                MonadExceptOf.throw]
          | false =>
              rw [silent] at blank
              simpa [bind, Except.bind, blank, faultOf, Check.fault?, silent] using
                (faultOf_bind_pure (compileTerms dialect terms) _).trans others

theorem faultOf_compile (filter : Filter) :
    faultOf (filter.compile dialect) = filter.checks.findSome? Check.fault? := by
  induction filter with
  | raw sql => rfl
  | predicate sql => rfl
  | conjunction connective terms ih =>
      cases terms with
      | nil => rfl
      | cons term terms =>
          have each := faultOf_compileTerms ih
          rw [compile, faultOf_map, each, checks]
          · rfl
          · simp
  | fields conditions =>
      have same : (faultOf ∘ fun (entry : String × Condition) =>
          entry.2.compile dialect entry.1) = fun entry => entry.2.fault? entry.1 :=
        funext fun entry => entry.2.faultOf_compile entry.1
      rw [compile, FieldMap.compile, faultOf_map, faultOf_mapM, same, checks, List.findSome?_map]
      rfl

def ownChecks : Filter → List Check
  | .raw _ => []
  | .predicate _ => []
  | .conjunction _ terms => .hasTerm terms :: terms.map .speaks
  | .fields conditions => conditions.entries.map fun entry => .complete entry.1 entry.2

theorem mem_termChecks_iff {check : Check} {terms : List Filter} :
    check ∈ termChecks terms ↔ ∃ term ∈ terms, check ∈ term.checks ∨ check = .speaks term := by
  induction terms with
  | nil => simp [termChecks]
  | cons term terms ih => simp [termChecks, ih, or_assoc]

theorem mem_checks_of_own {check : Check} {node : Filter} (own : check ∈ node.ownChecks) :
    check ∈ node.checks := by
  cases node with
  | raw sql => cases own
  | predicate sql => cases own
  | fields conditions => exact own
  | conjunction connective terms =>
      rw [checks]
      rcases List.mem_cons.mp own with rfl | speaks
      · exact List.mem_cons_self
      · obtain ⟨term, member, rfl⟩ := List.mem_map.mp speaks
        exact List.mem_cons_of_mem _ (mem_termChecks_iff.mpr ⟨term, member, Or.inr rfl⟩)

theorem mem_checks_iff {check : Check} {filter : Filter} :
    check ∈ filter.checks ↔ ∃ node, filter.Contains node ∧ check ∈ node.ownChecks := by
  constructor
  · -- the checks follow the filter, the node that makes one is found on the way
    intro made
    induction filter with
    | raw sql => cases made
    | predicate sql => cases made
    | fields conditions => exact ⟨_, .self _, made⟩
    | conjunction connective terms ih =>
        rw [checks] at made
        rcases List.mem_cons.mp made with rfl | later
        · exact ⟨_, .self _, List.mem_cons_self⟩
        · obtain ⟨term, member, inside | rfl⟩ := mem_termChecks_iff.mp later
          · obtain ⟨node, contains, own⟩ := ih term member inside
            exact ⟨node, .term member contains, own⟩
          · exact ⟨_, .self _, List.mem_cons_of_mem _ (List.mem_map_of_mem member)⟩
  · rintro ⟨node, contains, own⟩
    induction contains with
    | self filter => exact mem_checks_of_own own
    | term member inside ih =>
        rw [checks]
        exact List.mem_cons_of_mem _ (mem_termChecks_iff.mpr ⟨_, member, Or.inl (ih own)⟩)

/-- A node that no predicate can be made of, whatever else the filter holds. -/
inductive IllFormed : Filter → Prop
  | noTerms (connective : Connective) : IllFormed (.conjunction connective [])
  | blankTerm (connective : Connective) {terms : List Filter} {term : Filter}
    (member : term ∈ terms) (silent : term.saysNothing = true) :
    IllFormed (.conjunction connective terms)
  | boundCount {conditions : FieldMap} {field : String} {values : List Value}
    (member : (field, .between values) ∈ conditions.entries) (count : values.length ≠ 2) :
    IllFormed (.fields conditions)
  | noBounds {conditions : FieldMap} {field : String}
    (member : (field, .within .none) ∈ conditions.entries) : IllFormed (.fields conditions)

theorem IllFormed.exists_check {node : Filter} (illFormed : node.IllFormed) :
    ∃ check ∈ node.ownChecks, ∃ fault, check.fault? = some fault := by
  cases illFormed with
  | noTerms connective => exact ⟨.hasTerm [], List.mem_cons_self, .noTerms, rfl⟩
  | @blankTerm connective terms term member silent =>
      refine ⟨.speaks term, List.mem_cons_of_mem _ (List.mem_map_of_mem member), .blankTerm, ?_⟩
      simp [Check.fault?, silent]
  | @boundCount conditions field values member count =>
      refine ⟨.complete field (.between values), List.mem_map_of_mem member, ?_⟩
      simp [Check.fault?, Condition.fault?, count]
  | @noBounds conditions field member =>
      exact ⟨.complete field (.within .none), List.mem_map_of_mem member, .noBounds field, rfl⟩

theorem IllFormed.of_check {node : Filter} {check : Check} {fault : FilterFault}
    (own : check ∈ node.ownChecks) (failed : check.fault? = some fault) : node.IllFormed := by
  cases node with
  | raw sql => cases own
  | predicate sql => cases own
  | conjunction connective terms =>
      rcases List.mem_cons.mp own with rfl | speaks
      · cases terms with
        | nil => exact .noTerms connective
        | cons term terms => simp [Check.fault?] at failed
      · obtain ⟨term, member, rfl⟩ := List.mem_map.mp speaks
        simp only [Check.fault?] at failed
        split at failed
        next silent => exact .blankTerm connective member silent
        next => cases failed
  | fields conditions =>
      obtain ⟨⟨field, condition⟩, member, rfl⟩ := List.mem_map.mp own
      cases condition with
      | between values =>
          refine .boundCount member fun two => ?_
          simp [Check.fault?, Condition.fault?, two] at failed
      | within bounds =>
          by_cases unbounded : bounds = .none
          · subst unbounded
            exact .noBounds member
          · simp [Check.fault?, Condition.fault?, unbounded] at failed
      | _ => simp [Check.fault?, Condition.fault?] at failed

theorem compile_eq_error_iff {filter : Filter} {fault : FilterFault} :
    filter.compile dialect = .error fault ↔ ∃ earlier check later,
      filter.checks = earlier ++ check :: later ∧ check.fault? = some fault ∧
        ∀ passed ∈ earlier, passed.fault? = none := by
  rw [← faultOf_eq_some, faultOf_compile, List.findSome?_eq_some_iff]

theorem exists_fault_iff {filter : Filter} :
    (∃ fault, filter.compile dialect = .error fault) ↔
      ∃ node, filter.Contains node ∧ node.IllFormed := by
  constructor
  · rintro ⟨fault, failed⟩
    rw [← faultOf_eq_some, faultOf_compile] at failed
    obtain ⟨check, made, same⟩ := List.exists_of_findSome?_eq_some failed
    obtain ⟨node, contains, own⟩ := mem_checks_iff.mp made
    exact ⟨node, contains, .of_check own same⟩
  · rintro ⟨node, contains, illFormed⟩
    obtain ⟨check, own, fault, failed⟩ := illFormed.exists_check
    have made := mem_checks_iff.mpr ⟨node, contains, own⟩
    have found : (filter.checks.findSome? Check.fault?).isSome :=
      List.findSome?_isSome_iff.mpr ⟨check, made, by simp [failed]⟩
    obtain ⟨first, same⟩ := Option.isSome_iff_exists.mp found
    rw [← faultOf_compile] at same
    exact ⟨first, faultOf_eq_some.mp same⟩

end Filter

theorem TableQuery.statements_refuse {σ κ : Type} [Pool σ κ] {target : TableQuery}
    {document : Document} {session : Session σ} {filter : Filter} {fault : FilterFault}
    (named : Text.allBlank target.query.table = false) (filled : document.entries ≠ [])
    (set : target.query.filter = some filter)
    (failed : filter.compile (Pool.dialect session.pool) = .error fault) :
    ∀ call ∈ [target.selectSql, target.updateSql document, target.deleteSql],
      Call.runIn session call = (.error (.validation fault.message), session) := by
  have refused : ∀ statement : Dialect → Except StatementFault String,
      statement (Pool.dialect session.pool) = .error (.filter fault) →
      Call.runIn session (TableQuery.compile statement) =
        (.error (.validation fault.message), session) := by
    intro statement fails
    have ran : Call.runIn session (TableQuery.compile statement) =
        ((statement (Pool.dialect session.pool)).mapError fun fault => .validation fault.message,
          session) := rfl
    rw [ran, fails]
    rfl
  obtain ⟨deletes, updates, selects⟩ := Query.statements_fail named filled set failed
  simp only [List.forall_mem_cons, List.not_mem_nil, false_implies, implies_true, and_true]
  exact ⟨refused _ (selects none), refused _ updates, refused _ deletes⟩

namespace Filter

/--
A filter fails to compile exactly when one of its nodes is ill-formed. The fault is that of the
first check that fails as terms and fields are visited, the checks inside a term before the one
that the term says something, so it is the same in both dialects. Every statement of a query with
the filter is refused with it before anything is run.
-/
theorem compile_fails_first (filter : Filter) :
    (∀ dialect, (∃ fault, filter.compile dialect = .error fault) ↔
      ∃ node, filter.Contains node ∧ node.IllFormed) ∧
    (∀ dialect fault, filter.compile dialect = .error fault ↔ ∃ earlier check later,
      filter.checks = earlier ++ check :: later ∧ check.fault? = some fault ∧
        ∀ passed ∈ earlier, passed.fault? = none) ∧
    (∀ check, check ∈ filter.checks ↔ ∃ node, filter.Contains node ∧ check ∈ node.ownChecks) ∧
    (∀ fault, filter.compile .mysql = .error fault ↔ filter.compile .postgres = .error fault) ∧
    ∀ {σ κ : Type} [Pool σ κ] (target : TableQuery) (document : Document) (session : Session σ),
      target.query.filter = some filter → Text.allBlank target.query.table = false →
      document.entries ≠ [] → ∀ fault,
      filter.compile (Pool.dialect session.pool) = .error fault →
        ∀ call ∈ [target.selectSql, target.updateSql document, target.deleteSql],
          Call.runIn session call = (.error (.validation fault.message), session) := by
  refine ⟨fun dialect => exists_fault_iff, fun dialect fault => compile_eq_error_iff,
    fun check => mem_checks_iff, ?_, ?_⟩
  · intro fault
    rw [compile_eq_error_iff, compile_eq_error_iff]
  · intro σ κ pool target document session set named filled fault failed
    exact TableQuery.statements_refuse named filled set failed

def ragged : Filter :=
  .conjunction .or
    [.conjunction .and [.raw "vip", .fields (.ofList [("age", .between [.int 18])])],
      .raw " ", .conjunction .and []]

theorem compile_fails_first_ragged :
    let target : TableQuery := ⟨⟨.replicas, none⟩, { Query.ofTable "users" with filter := ragged }⟩
    let session : Session ScriptedPool := ⟨.ofDialect .postgres, []⟩
    (∃ node, ragged.Contains node ∧ node.IllFormed) ∧
    ragged.compile .mysql = .error (.boundCount "age" 1) ∧
    ∀ call ∈ [target.selectSql, target.updateSql (.ofList [("vip", .bool true)]), target.deleteSql],
      Call.runIn session call =
        (.error (.validation "BETWEEN on `age` needs exactly 2 bounds, got 1"), session) := by
  intro target session
  obtain ⟨located, _, _, alike, refused⟩ := compile_fails_first ragged
  have failed : ragged.compile .postgres = .error (.boundCount "age" 1) := rfl
  exact ⟨(located .postgres).mp ⟨_, failed⟩, (alike _).mpr failed,
    refused target (.ofList [("vip", .bool true)]) session rfl (by decide) nofun _ failed⟩

end Filter

end SqlComposer
