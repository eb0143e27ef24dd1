import SingleTerminalLogin.Lib.Process
import SingleTerminalLogin.Sql.Tables

/-!
# `SqlApi`

The class of `mylib/mylib_sql` the login manager reaches the database through.
An object of it holds the connection and `_mysqlResult`, the rows of the last
select; `select` appends to these rows and `getResult` hands them out and clears
them.  The rows are pointers into a result that `select` frees before it returns.

* `Clean` — nothing is left of an earlier select;
* `Same`, `Missed` — what a select does: the tables stay as they are, and the
  statement went through or failed;
* `ends_fetch`, `insert_ends`, `update_ends` — one rule for each kind of statement.
-/

namespace SingleTerminalLogin

open ByteText CProgram Proc

/-- The connection `_mysql` stands for: the tables behind it, how many statements
have been sent, and how many of them failed. -/
structure Connection where
  db : Db
  queries : Nat := 0
  failures : Nat := 0

/-- `mysql_result_t`.  A row is what is read through its pointer. -/
structure MysqlResult where
  mysqlRowVec : List (List Text) := []
  rowsCount : Nat := 0
  fieldsCount : Nat := 0

/-- An object of the class. -/
structure SqlApi where
  connection : Connection
  mysqlResult : MysqlResult := {}

namespace SqlApi

/-- The tables behind the connection. -/
abbrev db (s : SqlApi) : Db := s.connection.db

/-- `mysql_query`, with the rows `mysql_store_result` fetches. -/
def mysqlQuery (m : Mysql) (stmt : Stmt) : Proc SqlApi Answer := fun s =>
  let r := m.query s.connection.queries stmt s.db
  (.ok r.1, { s with connection :=
    { db := r.2, queries := s.connection.queries + 1,
      failures := s.connection.failures + if r.1 = .failed then 1 else 0 } })

/-- `mysql_fetch_row` and `push_back`, until there is no row. -/
def storeResult (fieldsCount : Nat) (rows : List (List Text)) : Proc SqlApi Unit := fun s =>
  (.ok (), { s with mysqlResult :=
    { mysqlRowVec := s.mysqlResult.mysqlRowVec ++ rows, rowsCount := rows.length,
      fieldsCount := fieldsCount } })

/-- `mysql_free_result`: the pointers to the rows of the last statement are kept, and what
is read through them from now on is up to the client library. -/
def freeResult (m : Mysql) (rowsCount : Nat) : Proc SqlApi Unit := fun s =>
  let rows := s.mysqlResult.mysqlRowVec
  let before := rows.length - rowsCount
  (.ok (), { s with mysqlResult := { s.mysqlResult with
    mysqlRowVec := rows.take before ++ (rows.drop before).mapIdx (m.freed (s.connection.queries - 1)) } })

/-- `SqlApi::select`. -/
def select (m : Mysql) (stmt : Stmt) : Proc SqlApi Int := do
  match ← mysqlQuery m stmt with
  | .failed => pure (-1)
  | .done fieldsCount rows =>
    storeResult fieldsCount rows
    freeResult m rows.length
    pure 0

/-- `SqlApi::getResult`, with `cleanResult`. -/
def getResult : Proc SqlApi MysqlResult := fun s => (.ok s.mysqlResult, { s with mysqlResult := {} })

/-- `SqlApi::insert`. -/
def insert (m : Mysql) (stmt : Stmt) : Proc SqlApi Int := do
  match ← mysqlQuery m stmt with
  | .failed => pure (-1)
  | .done _ _ => pure 0

/-- `SqlApi::update`. -/
def update (m : Mysql) (stmt : Stmt) : Proc SqlApi Int := do
  match ← mysqlQuery m stmt with
  | .failed => pure (-1)
  | .done _ _ => pure 0

/-- `time(NULL)`, as the statement that is sent next sees it. -/
def time (m : Mysql) : Proc SqlApi Int := fun s => (.ok (m.time s.connection.queries), s)

/-- `mysqlRowVec[i][j]`. -/
def field (result : MysqlResult) (i j : Nat) : Proc SqlApi Text :=
  match (result.mysqlRowVec[i]?).bind (·[j]?) with
  | some t => pure t
  | none => lift (.error .memory)

/-! ## What the statements do -/

/-- Nothing is left of an earlier select. -/
def Clean (s : SqlApi) : Prop := s.mysqlResult.mysqlRowVec = []

/-- The tables are as they were and no statement failed on the way. -/
structure Same (s s' : SqlApi) : Prop where
  db : s'.db = s.db
  failures : s'.connection.failures = s.connection.failures
  clean : Clean s'

/-- The tables are as they were and a statement failed on the way. -/
structure Missed (s s' : SqlApi) : Prop where
  db : s'.db = s.db
  failures : s.connection.failures < s'.connection.failures
  clean : Clean s'

theorem Same.trans {s s' s'' : SqlApi} (h : Same s s') (h' : Same s' s'') : Same s s'' :=
  ⟨h'.db.trans h.db, h'.failures.trans h.failures, h'.clean⟩

theorem Same.missed {s s' s'' : SqlApi} (h : Same s s') (h' : Missed s' s'') : Missed s s'' :=
  ⟨h'.db.trans h.db, h.failures ▸ h'.failures, h'.clean⟩

section

variable {torn : Prop} {P : Text → Prop} {m : Mysql} {s : SqlApi} {stmt : Stmt}

/-- A select with the answer as it is read, `mysql_query` and `mysql_free_result` in one. -/
def ask (m : Mysql) (stmt : Stmt) : Proc SqlApi Answer := fun s =>
  (.ok (m.answer s.connection.queries stmt s.db), (mysqlQuery m stmt s).2)

/-- The rows are stored as they are read. -/
theorem select_eq (m : Mysql) (stmt : Stmt) : select m stmt = (do
    match ← ask m stmt with
    | .failed => pure (-1)
    | .done fieldsCount rows =>
      storeResult fieldsCount rows
      pure 0) := by
  funext s
  have hquery : mysqlQuery m stmt s =
      (.ok (m.query s.connection.queries stmt s.db).1, (mysqlQuery m stmt s).2) := rfl
  have hask : ask m stmt s = (.ok (m.answer s.connection.queries stmt s.db), (mysqlQuery m stmt s).2) := rfl
  rw [select, bind_run_ok hquery, bind_run_ok hask, Mysql.answer]
  cases (m.query s.connection.queries stmt s.db).1 with
  | failed => rfl
  | done fieldsCount rows =>
    show (Except.ok (0 : Int), SqlApi.mk _ ⟨_, _, _⟩) = (Except.ok (0 : Int), SqlApi.mk _ ⟨_, _, _⟩)
    simp [mysqlQuery]

/-- What is read of a statement, and what it leaves. -/
theorem ask_ends : Ends (ask m stmt) s fun r s' => ∃ a, r = .ok a ∧
    s'.mysqlResult = s.mysqlResult ∧ s'.db = (m.query s.connection.queries stmt s.db).2 ∧
    s'.connection.failures = s.connection.failures + (if a = .failed then 1 else 0) ∧
    s'.connection.queries = s.connection.queries + 1 ∧
    a = m.answer s.connection.queries stmt s.db := by
  refine ⟨_, rfl, rfl, rfl, ?_, rfl, rfl⟩
  show _ + (if (m.query s.connection.queries stmt s.db).1 = .failed then 1 else 0) = _
  have hfailed : m.answer s.connection.queries stmt s.db = .failed ↔
      (m.query s.connection.queries stmt s.db).1 = .failed := Mysql.answer_eq_failed
  simp only [hfailed]

/-- What `mysql_query` leaves. -/
theorem mysqlQuery_ends : Ends (mysqlQuery m stmt) s fun r s' => ∃ a, r = .ok a ∧
    s'.mysqlResult = s.mysqlResult ∧ s'.db = (m.query s.connection.queries stmt s.db).2 ∧
    s'.connection.failures = s.connection.failures + (if a = .failed then 1 else 0) ∧
    s'.connection.queries = s.connection.queries + 1 ∧
    a = (m.query s.connection.queries stmt s.db).1 := ⟨_, rfl, rfl, rfl, rfl, rfl, rfl⟩

/-- A select whose rows are fetched at once: `select` and `getResult`. -/
theorem select_ends (hm : ServedBy torn P m) (hP : ∀ n ∈ stmt.names, P n)
    (hselect : ∀ db', stmt.Effect s.db db' → db' = s.db) (hs : Clean s) :
    Ends (select m stmt) s fun r s' =>
      (r = .ok (-1) ∧ Missed s s') ∨
      (r = .ok 0 ∧ ∃ rows, rows.Perm (stmt.rows s.db) ∧
        s'.mysqlResult = ⟨rows, rows.length, stmt.fieldsCount⟩ ∧
        s'.db = s.db ∧ s'.connection.failures = s.connection.failures) := by
  have hex := hm.answers s.connection.queries stmt s.db hP
  rw [select_eq]
  refine ends_bind_ok ask_ends ?_
  rintro a s' ⟨hres, hdb, hfail, -, ha⟩
  rw [← ha, ← hdb] at hex
  cases a with
  | failed =>
    refine ends_pure (Or.inl ⟨rfl, ?_, ?_, ?_⟩)
    · rcases hex with h | ⟨-, h⟩
      · exact h
      · exact hselect _ h
    · rw [hfail, if_pos rfl]
      exact Nat.lt_succ_self _
    · rw [Clean, hres]
      exact hs
  | done fieldsCount rows =>
    obtain ⟨heffect, hcount, hrows⟩ := hex
    refine ends_bind_ok (R := fun _ s'' => s'' = { s' with mysqlResult :=
      ⟨s'.mysqlResult.mysqlRowVec ++ rows, rows.length, fieldsCount⟩ }) ⟨(), rfl, rfl⟩ ?_
    rintro - s'' rfl
    refine ends_pure (Or.inr ⟨rfl, rows, hrows, ?_,
      hselect _ heffect, ?_⟩)
    · simp only [hres, hcount]
      rw [show s.mysqlResult.mysqlRowVec = [] from hs, List.nil_append]
    · exact hfail

/-- Every reader of the tables is built this way: `select`, give up if it failed,
`getResult`. -/
theorem ends_fetch {β : Type} {bad : Proc SqlApi β} {k : MysqlResult → Proc SqlApi β}
    {Q : C β → SqlApi → Prop} (hm : ServedBy torn P m) (hP : ∀ n ∈ stmt.names, P n)
    (hselect : ∀ db', stmt.Effect s.db db' → db' = s.db) (hs : Clean s)
    (hbad : ∀ s', Missed s s' → Ends bad s' Q)
    (hk : ∀ rows s', rows.Perm (stmt.rows s.db) → Same s s' →
      Ends (k ⟨rows, rows.length, stmt.fieldsCount⟩) s' Q) :
    Ends (do
      let ret ← select m stmt
      if ret ≠ 0 then bad
      else do
        let r ← getResult
        k r) s Q := by
  refine ends_bind (select_ends hm hP hselect hs) ?_ ?_
  · rintro ret s' (⟨hret, hmiss⟩ | ⟨hret, rows, hrows, hres, hdb, hfail⟩)
    · cases hret
      rw [if_pos (by decide)]
      exact hbad s' hmiss
    · cases hret
      rw [if_neg (by decide)]
      refine ends_bind_ok (R := fun r s'' => r = s'.mysqlResult ∧ s'' = { s' with mysqlResult := {} })
        ⟨_, rfl, rfl, rfl⟩ ?_
      rintro r s'' ⟨rfl, rfl⟩
      rw [hres]
      exact hk rows _ hrows ⟨hdb, hfail, rfl⟩
  · rintro e s' (⟨he, -⟩ | ⟨he, -⟩) <;> cases he

/-- An insert or an update: it happened, or it failed and may have happened. -/
def Wrote (torn : Prop) (stmt : Stmt) (s : SqlApi) (ret : Int) (s' : SqlApi) : Prop :=
  Clean s' ∧
    ((ret = 0 ∧ stmt.Effect s.db s'.db ∧ s'.connection.failures = s.connection.failures) ∨
      (ret = -1 ∧ (s'.db = s.db ∨ torn ∧ stmt.Effect s.db s'.db) ∧
        s.connection.failures < s'.connection.failures))

theorem insert_ends (hm : ServedBy torn P m) (hP : ∀ n ∈ stmt.names, P n) (hs : Clean s) :
    Ends (insert m stmt) s fun r s' => ∃ ret, r = .ok ret ∧ Wrote torn stmt s ret s' := by
  have hex := hm.executes s.connection.queries stmt s.db hP
  refine ends_bind_ok mysqlQuery_ends ?_
  rintro a s' ⟨hres, hdb, hfail, -, ha⟩
  rw [← ha, ← hdb] at hex
  have hclean : Clean s' := by rw [Clean, hres]; exact hs
  cases a with
  | failed =>
    refine ends_pure ⟨_, rfl, hclean, Or.inr ⟨rfl, hex, ?_⟩⟩
    rw [hfail, if_pos rfl]
    exact Nat.lt_succ_self _
  | done fieldsCount rows =>
    exact ends_pure ⟨_, rfl, hclean, Or.inl ⟨rfl, hex.1, hfail⟩⟩

theorem update_ends (hm : ServedBy torn P m) (hP : ∀ n ∈ stmt.names, P n) (hs : Clean s) :
    Ends (update m stmt) s fun r s' => ∃ ret, r = .ok ret ∧ Wrote torn stmt s ret s' :=
  insert_ends hm hP hs

end

end SqlApi

end SingleTerminalLogin
