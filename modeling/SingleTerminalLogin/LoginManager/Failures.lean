import SingleTerminalLogin.LoginManager.Atomicity
import SingleTerminalLogin.LoginManager.Sessions

/-!
# Operations whose statements fail

Any statement an operation sends may fail.  The tables are any here, and of the server
only the reads matter (`Reading`): what a write does, and whether one that failed has
happened, is left open.

* `Asked` — one statement was sent, and nothing is left of its rows;
* `LoginEnd`, `LogoutEnd`, `RegistEnd` — how an operation ends, by which of its
  statements fail;
* `failures_reported_iff` — an operation with a failing statement returns `-1` with an
  error code, and no assertion ends it, but for a login that takes a failed count for
  a session.
-/

namespace SingleTerminalLogin

open ByteText CProgram Proc SqlApi Loginer Register

/-- A read whose names satisfy `P` is answered with the rows it asks for, or fails, and
the freed rows of the answer are read as they were. -/
structure Reading (P : Text → Prop) (m : Mysql) : Prop where
  executes : ∀ t stmt db, stmt.reads = true → (∀ n ∈ stmt.names, P n) →
    Executes False stmt db (m.query t stmt db).1 (m.query t stmt db).2
  keepsFreed : m.KeepsFreed

/-- What is read of the answer is what was asked for. -/
theorem Reading.answers {P : Text → Prop} {m : Mysql} (hm : Reading P m) (t : Nat) (stmt : Stmt) (db : Db)
    (hreads : stmt.reads = true) (hP : ∀ n ∈ stmt.names, P n) :
    Executes False stmt db (m.answer t stmt db) (m.query t stmt db).2 := by
  rw [hm.keepsFreed.answer]
  exact hm.executes t stmt db hreads hP

theorem ServedBy.reading {torn : Prop} {P : Text → Prop} {m : Mysql} (hm : ServedBy torn P m) :
    Reading P m := by
  refine ⟨fun t stmt db hreads hP => ?_, hm.keepsFreed⟩
  have hex := hm.executes t stmt db hP
  cases ha : (m.query t stmt db).1 with
  | failed =>
    rw [ha] at hex
    exact Or.inl (hex.elim id fun h => h.2.eq_of_reads hreads)
  | done fieldsCount rows =>
    rw [ha] at hex
    exact hex

/-- The connection when the statement has been sent. -/
def Connection.after (m : Mysql) (stmt : Stmt) (c : Connection) : Connection where
  db := (m.query c.queries stmt c.db).2
  queries := c.queries + 1
  failures := c.failures + if m.Fails c.queries stmt c.db then 1 else 0

namespace Connection

variable {m : Mysql} {stmt : Stmt} {c : Connection}

theorem after_queries : (c.after m stmt).queries = c.queries + 1 := rfl

theorem after_failures_of (h : m.Fails c.queries stmt c.db) : c.failures < (c.after m stmt).failures := by
  unfold after
  rw [if_pos h]
  exact Nat.lt_succ_self _

theorem after_failures_of_not (h : ¬ m.Fails c.queries stmt c.db) :
    (c.after m stmt).failures = c.failures := by
  unfold after
  rw [if_neg h]
  rfl

theorem failures_le_after : c.failures ≤ (c.after m stmt).failures := Nat.le_add_right _ _

theorem failures_lt_after_iff :
    c.failures < (c.after m stmt).failures ↔ m.Fails c.queries stmt c.db := by
  refine ⟨fun h => ?_, after_failures_of⟩
  by_contra hnot
  exact absurd (after_failures_of_not hnot) h.ne'

/-- A read leaves the tables alone. -/
theorem after_db {P : Text → Prop} (hm : Reading P m) (hreads : stmt.reads = true)
    (hP : ∀ n ∈ stmt.names, P n) : (c.after m stmt).db = c.db := by
  have hex := hm.executes c.queries stmt c.db hreads hP
  show (m.query c.queries stmt c.db).2 = c.db
  cases ha : (m.query c.queries stmt c.db).1 with
  | failed =>
    rw [ha] at hex
    exact hex.elim id fun h => h.1.elim
  | done fieldsCount rows =>
    rw [ha] at hex
    exact hex.1.eq_of_reads hreads

end Connection

/-! ## One statement -/

namespace SqlApi

/-- The statement was sent, and nothing is left of its rows. -/
structure Asked (m : Mysql) (stmt : Stmt) (s s' : SqlApi) : Prop where
  connection : s'.connection = s.connection.after m stmt
  clean : Clean s'

section

variable {P : Text → Prop} {m : Mysql} {s : SqlApi} {stmt : Stmt}

theorem mysqlQuery_run : mysqlQuery m stmt s =
    (.ok (m.query s.connection.queries stmt s.db).1, { s with connection := s.connection.after m stmt }) := rfl

theorem ask_run : ask m stmt s = (.ok (m.answer s.connection.queries stmt s.db),
    { s with connection := s.connection.after m stmt }) := rfl

theorem not_fails_of_done {t fieldsCount : Nat} {db : Db} {rows : List (List Text)}
    (h : m.answer t stmt db = .done fieldsCount rows) : ¬ m.Fails t stmt db := by
  rw [← Mysql.answer_eq_failed, h]
  exact Answer.noConfusion

/-- A read whose rows are fetched at once. -/
theorem ends_asked {β : Type} {bad : Proc SqlApi β} {k : MysqlResult → Proc SqlApi β}
    {Q : C β → SqlApi → Prop} (hm : Reading P m) (hreads : stmt.reads = true)
    (hP : ∀ n ∈ stmt.names, P n) (hs : Clean s)
    (hbad : ∀ s', m.Fails s.connection.queries stmt s.db → Asked m stmt s s' → Ends bad s' Q)
    (hk : ∀ rows s', m.answer s.connection.queries stmt s.db = .done stmt.fieldsCount rows →
      rows.Perm (stmt.rows s.db) → Asked m stmt s s' →
      Ends (k ⟨rows, rows.length, stmt.fieldsCount⟩) s' Q) :
    Ends (do
      let ret ← select m stmt
      if ret ≠ 0 then bad
      else do
        let r ← getResult
        k r) s Q := by
  have hex := hm.answers s.connection.queries stmt s.db hreads hP
  cases ha : m.answer s.connection.queries stmt s.db with
  | failed =>
    have hrun : select m stmt s = (.ok (-1), { s with connection := s.connection.after m stmt }) := by
      rw [select_eq, bind_run_ok ask_run, ha]
      rfl
    rw [Ends, bind_run_ok hrun, if_pos (by decide)]
    exact hbad _ (Mysql.answer_eq_failed.1 ha) ⟨rfl, hs⟩
  | done fieldsCount rows =>
    rw [ha] at hex
    obtain ⟨-, rfl, hperm⟩ := hex
    have hrows : s.mysqlResult.mysqlRowVec = [] := hs
    have hrun : select m stmt s = (.ok 0,
        ⟨s.connection.after m stmt, ⟨rows, rows.length, stmt.fieldsCount⟩⟩) := by
      rw [select_eq, bind_run_ok ask_run, ha]
      show (_, SqlApi.mk _ ⟨s.mysqlResult.mysqlRowVec ++ rows, _, _⟩) = _
      rw [hrows, List.nil_append]
    rw [Ends, bind_run_ok hrun, if_neg (by decide)]
    exact hk rows { connection := s.connection.after m stmt } ha hperm ⟨rfl, rfl⟩

/-- A `select count(1)`. -/
theorem ends_asked_count {β : Type} {bad : Proc SqlApi β} {k : Text → Proc SqlApi β}
    {Q : C β → SqlApi → Prop} {n : Nat} (hm : Reading P m) (hreads : stmt.reads = true)
    (hP : ∀ n ∈ stmt.names, P n) (hs : Clean s) (hrows : stmt.rows s.db = [[natText n]])
    (hfields : stmt.fieldsCount = 1)
    (hbad : ∀ s', m.Fails s.connection.queries stmt s.db → Asked m stmt s s' → Ends bad s' Q)
    (hk : ∀ s', ¬ m.Fails s.connection.queries stmt s.db → Asked m stmt s s' →
      Ends (k (natText n)) s' Q) :
    Ends (do
      let ret ← select m stmt
      if ret ≠ 0 then bad
      else do
        let mysqlResult ← getResult
        lift (assert (mysqlResult.rowsCount = 1))
        lift (assert (mysqlResult.fieldsCount = 1))
        let count ← field mysqlResult 0 0
        k count) s Q := by
  refine ends_asked hm hreads hP hs hbad fun rows s' hdone hperm hasked => ?_
  rw [hrows, List.perm_singleton] at hperm
  subst hperm
  refine ends_assert (fun _ => ?_) (fun h => absurd rfl h)
  refine ends_assert (fun _ => ?_) (fun h => absurd hfields h)
  exact hk s' (not_fails_of_done hdone) hasked

/-- A write. -/
theorem insert_asked (hs : Clean s) :
    Ends (insert m stmt) s fun r s' => ∃ ret, r = .ok ret ∧ Asked m stmt s s' ∧
      (m.Fails s.connection.queries stmt s.db ∧ ret = -1 ∨
        ¬ m.Fails s.connection.queries stmt s.db ∧ ret = 0) := by
  refine ends_bind_ok (R := fun a s' => a = (m.query s.connection.queries stmt s.db).1 ∧
    s' = { s with connection := s.connection.after m stmt }) ⟨_, rfl, rfl, rfl⟩ ?_
  rintro a s' ⟨ha, rfl⟩
  cases a with
  | failed => exact ends_pure ⟨_, rfl, ⟨rfl, hs⟩, Or.inl ⟨ha.symm, rfl⟩⟩
  | done fieldsCount rows =>
    refine ends_pure ⟨_, rfl, ⟨rfl, hs⟩, Or.inr ⟨?_, rfl⟩⟩
    rw [Mysql.Fails, ← ha]
    exact Answer.noConfusion

theorem update_asked (hs : Clean s) :
    Ends (update m stmt) s fun r s' => ∃ ret, r = .ok ret ∧ Asked m stmt s s' ∧
      (m.Fails s.connection.queries stmt s.db ∧ ret = -1 ∨
        ¬ m.Fails s.connection.queries stmt s.db ∧ ret = 0) :=
  insert_asked hs

end

end SqlApi

/-! ## How a login ends -/

namespace Loginer

section

variable (m : Mysql) (c : Connection) (u p : Text) (fd : Int)

/-- The password was looked up and found. -/
structure Checked : Prop where
  answered : ¬ m.Fails c.queries (.countPassword u p) c.db
  valid : counted (c.db.passwordRows u p).length = true

/-- The statement that asks for a session fails. -/
def CountFails : Prop := m.Fails (c.queries + 1) (.countLogined u) c.db

/-- The user is taken to be logged in. -/
def TakenLogined : Prop := CountFails m c u ∨ counted (c.db.active u).length = true

/-- How a login ends, by which of its statements fail. -/
inductive LoginEnd (c' : Connection) : C LoginReply → Prop where
  /-- The password could not be looked up. -/
  | unchecked (h : m.Fails c.queries (.countPassword u p) c.db) (hf : c.failures < c'.failures) :
      LoginEnd c' (.ok ⟨⟨-1, .SYSTEM_ERROR, ascii "select DB data failed!"⟩, -1⟩)
  /-- The password is wrong. -/
  | invalid (h : ¬ m.Fails c.queries (.countPassword u p) c.db)
      (hv : counted (c.db.passwordRows u p).length = false) (hf : c'.failures = c.failures) :
      LoginEnd c' (.ok ⟨⟨-1, .USERNAME_OR_PASSWD_ERROR, ascii "userName or passWord error!"⟩, -1⟩)
  /-- A first login. -/
  | first (h : Checked m c u p) (hl : ¬ TakenLogined m c u)
      (hi : ¬ m.Fails (c.queries + 2) (enter m u p fd (c.queries + 2)) c.db)
      (hf : c'.failures = c.failures) :
      LoginEnd c' (.ok ⟨⟨0, .SUCCESS, ascii "login success!"⟩, -1⟩)
  /-- A first login whose insert failed. -/
  | firstFailed (h : Checked m c u p) (hl : ¬ TakenLogined m c u)
      (hi : m.Fails (c.queries + 2) (enter m u p fd (c.queries + 2)) c.db)
      (hf : c.failures < c'.failures) :
      LoginEnd c' (.ok ⟨⟨-1, .DB_OP_FAILED, ascii "system error: insert data into DB failed!"⟩, -1⟩)
  /-- The recorded descriptor could not be looked up. -/
  | unlocated (h : Checked m c u p) (hl : TakenLogined m c u)
      (hs : m.Fails (c.queries + 2) (.selectLogined u) c.db) (hf : c.failures < c'.failures) :
      LoginEnd c'
        (.ok ⟨⟨-1, .SYSTEM_ERROR, ascii "system error: Get already logined client fd failed!"⟩, -1⟩)
  /-- The assertion that there is one active row. -/
  | aborted (h : Checked m c u p) (hl : TakenLogined m c u)
      (hs : ¬ m.Fails (c.queries + 2) (.selectLogined u) c.db) (ha : (c.db.active u).length ≠ 1) :
      LoginEnd c' (.error .assertFailed)
  /-- The earlier session is replaced. -/
  | displaced (row : LoginRow) (h : Checked m c u p)
      (hs : ¬ m.Fails (c.queries + 2) (.selectLogined u) c.db) (ha : c.db.active u = [row])
      (hend : ¬ EndFails m c (readId row)) (henter : ¬ EnterFails m c u p fd (readId row))
      (hf : c.failures < c'.failures ↔ CountFails m c u) :
      LoginEnd c' (.ok ⟨⟨0, .SUCCESS, ascii "login success!"⟩, readFd row⟩)
  /-- The earlier session could not be ended, or the new one not be entered. -/
  | displaceFailed (row : LoginRow) (h : Checked m c u p)
      (hs : ¬ m.Fails (c.queries + 2) (.selectLogined u) c.db) (ha : c.db.active u = [row])
      (hw : EndFails m c (readId row) ∨ EnterFails m c u p fd (readId row))
      (hf : c.failures < c'.failures) :
      LoginEnd c' (.ok ⟨⟨-1, .SYSTEM_ERROR, ascii "system error: update DB data failed!"⟩, readFd row⟩)

end

section

variable {P : Text → Prop} {m : Mysql} {s : SqlApi} {u p : Text}

theorem isValidUserNameAndPassWord_asked (hm : Reading P m) (hu : P u) (hp : P p) (hs : Clean s) :
    Ends (isValidUserNameAndPassWord m u p) s fun r s' => ∃ a, r = .ok a ∧
      Asked m (.countPassword u p) s s' ∧
        (m.Fails s.connection.queries (.countPassword u p) s.db ∧ a.1 = -1 ∨
          ¬ m.Fails s.connection.queries (.countPassword u p) s.db ∧ a.1 = 0 ∧
            a.2 = counted (s.db.passwordRows u p).length) := by
  have hnames : ∀ n ∈ (Stmt.countPassword u p).names, P n := by simpa [Stmt.names] using ⟨hu, hp⟩
  refine ends_asked_count hm rfl hnames hs rfl rfl ?_ ?_
  · exact fun s' hfails hasked => ends_pure ⟨_, rfl, hasked, Or.inl ⟨hfails, rfl⟩⟩
  · intro s' hnot hasked
    refine ends_pure ⟨_, rfl, hasked, Or.inr ⟨hnot, rfl, ?_⟩⟩
    simp only [counted]

theorem isAlreadyLogined_asked (hm : Reading P m) (hu : P u) (hs : Clean s) :
    Ends (isAlreadyLogined m u) s fun r s' => ∃ b, r = .ok b ∧ Asked m (.countLogined u) s s' ∧
      (b = true ↔ m.Fails s.connection.queries (.countLogined u) s.db ∨
        counted (s.db.active u).length = true) := by
  have hnames : ∀ n ∈ (Stmt.countLogined u).names, P n := by simpa [Stmt.names] using hu
  refine ends_asked_count hm rfl hnames hs rfl rfl ?_ ?_
  · exact fun s' hfails hasked => ends_pure ⟨_, rfl, hasked, iff_of_true rfl (Or.inl hfails)⟩
  · intro s' hnot hasked
    refine ends_pure ⟨_, rfl, hasked, ?_⟩
    rw [or_iff_right hnot, counted]

theorem getAlreadyLoginedClientFd_asked (hm : Reading P m) (hu : P u) (hs : Clean s) :
    Ends (getAlreadyLoginedClientFd m u) s fun r s' => Asked m (.selectLogined u) s s' ∧
      (m.Fails s.connection.queries (.selectLogined u) s.db ∧ r = .ok (-1, 0, 0) ∨
        ¬ m.Fails s.connection.queries (.selectLogined u) s.db ∧
          ((∃ row, s.db.active u = [row] ∧ r = .ok (0, readFd row, readId row)) ∨
            (s.db.active u).length ≠ 1 ∧ r = .error .assertFailed)) := by
  have hnames : ∀ n ∈ (Stmt.selectLogined u).names, P n := by simpa [Stmt.names] using hu
  refine ends_asked hm rfl hnames hs ?_ fun rows s' hdone hperm hasked => ?_
  · exact fun s' hfails hasked => ends_pure ⟨hasked, Or.inl ⟨hfails, rfl⟩⟩
  have hnot := not_fails_of_done hdone
  have hlen : rows.length = (s.db.active u).length := by
    rw [hperm.length_eq, Stmt.rows, List.length_map]
  refine ends_assert (fun h => ?_) fun h => ⟨hasked, Or.inr ⟨hnot, Or.inr ⟨hlen ▸ h, rfl⟩⟩⟩
  refine ends_assert (fun _ => ?_) (fun h => absurd rfl h)
  obtain ⟨row, hrow⟩ := List.length_eq_one_iff.1 (hlen ▸ h)
  rw [Stmt.rows, hrow, List.map_cons, List.map_nil, List.perm_singleton] at hperm
  subst hperm
  exact ⟨hasked, Or.inr ⟨hnot, Or.inl ⟨row, hrow, rfl⟩⟩⟩

theorem login_asked (hs : Clean s) (fd : Int) :
    Ends (login m u p fd) s fun r s' => ∃ ret, r = .ok ret ∧
      Asked m (enter m u p fd s.connection.queries) s s' ∧
        (m.Fails s.connection.queries (enter m u p fd s.connection.queries) s.db ∧ ret = -1 ∨
          ¬ m.Fails s.connection.queries (enter m u p fd s.connection.queries) s.db ∧ ret = 0) := by
  refine ends_bind_ok (R := fun t s' => t = m.time s.connection.queries ∧ s' = s) ⟨_, rfl, rfl, rfl⟩ ?_
  rintro time s' ⟨rfl, rfl⟩
  refine ends_bind_ok (insert_asked hs) ?_
  rintro ret s'' ⟨hasked, ⟨h, rfl⟩ | ⟨h, rfl⟩⟩
  · rw [if_pos (by decide)]
    exact ends_pure ⟨_, rfl, hasked, Or.inl ⟨h, rfl⟩⟩
  · rw [if_neg (by decide)]
    exact ends_pure ⟨_, rfl, hasked, Or.inr ⟨h, rfl⟩⟩

/-- Both statements of the displacement, when three have been sent before. -/
theorem setLogoutStatusThenLogin_asked {c : Connection} (hq : s.connection.queries = c.queries + 3)
    (hdb : s.db = c.db) (hs : Clean s) (id : Nat) (fd : Int) :
    Ends (setLogoutStatusThenLogin m id u p fd) s fun r s' => ∃ ret, r = .ok ret ∧
      ((EndFails m c id ∨ EnterFails m c u p fd id) ∧ ret = -1 ∧
          s.connection.failures < s'.connection.failures ∨
        ¬ EndFails m c id ∧ ¬ EnterFails m c u p fd id ∧ ret = 0 ∧
          s'.connection.failures = s.connection.failures) := by
  have hend : EndFails m c id ↔ m.Fails s.connection.queries (.updateStatus id) s.db := by
    rw [hq, hdb]
    exact Iff.rfl
  rw [hend]
  refine ends_bind_ok (update_asked hs) ?_
  rintro ret s₁ ⟨hasked, ⟨h, rfl⟩ | ⟨h, rfl⟩⟩
  · rw [if_pos (by decide)]
    refine ends_pure ⟨_, rfl, Or.inl ⟨Or.inl h, rfl, ?_⟩⟩
    rw [hasked.connection]
    exact Connection.after_failures_of h
  · rw [if_neg (by decide)]
    have hf₁ : s₁.connection.failures = s.connection.failures := by
      rw [hasked.connection, Connection.after_failures_of_not h]
    have hq₁ : s₁.connection.queries = c.queries + 4 := by
      rw [hasked.connection, Connection.after_queries, hq]
    have hdb₁ : s₁.db = endedDb m c id := by
      rw [SqlApi.db, hasked.connection, endedDb, ← hq, ← hdb]
      rfl
    have hlogin := login_asked (m := m) (u := u) (p := p) hasked.clean fd
    rw [hq₁, hdb₁] at hlogin
    refine hlogin.imp ?_
    rintro r s₂ ⟨ret, rfl, hasked₂, ⟨henter, rfl⟩ | ⟨henter, rfl⟩⟩
    · refine ⟨_, rfl, Or.inl ⟨Or.inr henter, rfl, ?_⟩⟩
      rw [hasked₂.connection, ← hf₁]
      refine Connection.after_failures_of ?_
      rw [hq₁, show s₁.connection.db = endedDb m c id from hdb₁]
      exact henter
    · refine ⟨_, rfl, Or.inr ⟨h, henter, rfl, ?_⟩⟩
      rw [hasked₂.connection, ← hf₁]
      refine Connection.after_failures_of_not ?_
      rw [hq₁, show s₁.connection.db = endedDb m c id from hdb₁]
      exact henter

/-- The second half of `processLogin`, for a user who is taken to be logged in. -/
theorem displace_asked (hm : Reading P m) (hu : P u) (fd : Int) {c : Connection} {s₂ : SqlApi}
    (hq : s₂.connection.queries = c.queries + 2) (hdb : s₂.db = c.db) (hclean : Clean s₂)
    (hle : c.failures ≤ s₂.connection.failures)
    (hf : c.failures < s₂.connection.failures ↔ CountFails m c u)
    (h : Checked m c u p) (hl : TakenLogined m c u) :
    Ends (do
      let r ← getAlreadyLoginedClientFd m u
      if r.1 ≠ 0 then
        pure ⟨⟨-1, .SYSTEM_ERROR, ascii "system error: Get already logined client fd failed!"⟩, -1⟩
      else do
        let logoutFd := r.2.1
        let ret ← setLogoutStatusThenLogin m r.2.2 u p fd
        if ret ≠ 0 then
          pure ⟨⟨-1, .SYSTEM_ERROR, ascii "system error: update DB data failed!"⟩, logoutFd⟩
        else pure ⟨⟨0, .SUCCESS, ascii "login success!"⟩, logoutFd⟩) s₂
      fun r s' => LoginEnd m c u p fd s'.connection r := by
  have hnames : ∀ n ∈ (Stmt.selectLogined u).names, P n := by simpa [Stmt.names] using hu
  have hget := getAlreadyLoginedClientFd_asked hm hu hclean
  rw [hq, hdb] at hget
  refine ends_bind hget ?_ ?_
  · rintro a s₃ ⟨hasked, ⟨hs, ha⟩ | ⟨hs, ⟨row, hrow, ha⟩ | ⟨-, ha⟩⟩⟩
    · cases ha
      rw [if_pos (by decide)]
      refine ends_pure (.unlocated h hl hs ?_)
      rw [hasked.connection]
      refine lt_of_le_of_lt hle (Connection.after_failures_of ?_)
      rw [hq, show s₂.connection.db = c.db from hdb]
      exact hs
    · cases ha
      have hf₃ : s₃.connection.failures = s₂.connection.failures := by
        rw [hasked.connection]
        refine Connection.after_failures_of_not ?_
        rw [hq, show s₂.connection.db = c.db from hdb]
        exact hs
      have hdb₃ : s₃.db = c.db := by
        rw [SqlApi.db, hasked.connection, Connection.after_db hm rfl hnames]
        exact hdb
      have hq₃ : s₃.connection.queries = c.queries + 3 := by
        rw [hasked.connection, Connection.after_queries, hq]
      simp only [ne_eq, not_true_eq_false, if_false]
      refine ends_bind_ok (setLogoutStatusThenLogin_asked hq₃ hdb₃ hasked.clean (readId row) fd) ?_
      rw [hf₃]
      rintro ret s₄ (⟨hw, rfl, hf₄⟩ | ⟨hend, henter, rfl, hf₄⟩)
      · rw [if_pos (by decide)]
        exact ends_pure (.displaceFailed row h hs hrow hw (lt_of_le_of_lt hle hf₄))
      · rw [if_neg (by decide)]
        refine ends_pure (.displaced row h hs hrow hend henter ?_)
        rw [hf₄]
        exact hf
    · cases ha
  · rintro e s₃ ⟨hasked, ⟨-, ha⟩ | ⟨hs, ⟨row, -, ha⟩ | ⟨hlen, ha⟩⟩⟩
    · cases ha
    · cases ha
    · cases ha
      exact .aborted h hl hs hlen

/-- A login ends in one of the ways `LoginEnd` lists. -/
theorem processLogin_asked (hm : Reading P m) (hu : P u) (hp : P p) (hs : Clean s) (fd : Int) :
    Ends (processLogin m u p fd) s fun r s' => LoginEnd m s.connection u p fd s'.connection r := by
  have hup : ∀ n ∈ (Stmt.countPassword u p).names, P n := by simpa [Stmt.names] using ⟨hu, hp⟩
  have hun : ∀ n ∈ (Stmt.countLogined u).names, P n := by simpa [Stmt.names] using hu
  refine ends_bind_ok (isValidUserNameAndPassWord_asked hm hu hp hs) ?_
  rintro a s₁ ⟨hasked, ⟨hfails, hret⟩ | ⟨hnot, hret, hvalid⟩⟩
  · rw [if_pos (by rw [hret]; decide)]
    refine ends_pure (.unchecked hfails ?_)
    rw [hasked.connection]
    exact Connection.after_failures_of hfails
  rw [if_neg (by rw [hret]; decide), hvalid]
  have hf₁ : s₁.connection.failures = s.connection.failures := by
    rw [hasked.connection, Connection.after_failures_of_not hnot]
  have hdb₁ : s₁.db = s.db := by
    rw [SqlApi.db, hasked.connection, Connection.after_db hm rfl hup]
  have hq₁ : s₁.connection.queries = s.connection.queries + 1 := by
    rw [hasked.connection, Connection.after_queries]
  cases hv : counted (s.db.passwordRows u p).length with
  | false => exact ends_pure (.invalid hnot hv hf₁)
  | true =>
    have hchecked : Checked m s.connection u p := ⟨hnot, hv⟩
    have hlogined := isAlreadyLogined_asked hm hu hasked.clean
    rw [hq₁, hdb₁] at hlogined
    refine ends_bind_ok hlogined ?_
    rintro b s₂ ⟨hasked₂, hb⟩
    have hdb₂ : s₂.db = s.db := by
      rw [SqlApi.db, hasked₂.connection, Connection.after_db hm rfl hun]
      exact hdb₁
    have hq₂ : s₂.connection.queries = s.connection.queries + 2 := by
      rw [hasked₂.connection, Connection.after_queries, hq₁]
    have hf₂ : s.connection.failures < s₂.connection.failures ↔ CountFails m s.connection u := by
      rw [hasked₂.connection, ← hf₁, CountFails, ← hq₁, ← show s₁.connection.db = s.connection.db from hdb₁]
      exact Connection.failures_lt_after_iff
    have hle₂ : s.connection.failures ≤ s₂.connection.failures := by
      rw [hasked₂.connection, ← hf₁]
      exact Connection.failures_le_after
    cases b with
    | true =>
      rw [if_neg (by decide)]
      exact displace_asked hm hu fd hq₂ hdb₂ hasked₂.clean hle₂ hf₂ hchecked (hb.1 rfl)
    | false =>
      rw [if_pos (by decide)]
      have hl : ¬ TakenLogined m s.connection u := fun h => Bool.noConfusion (hb.2 h)
      have heq : s₂.connection.failures = s.connection.failures :=
        le_antisymm (not_lt.1 fun h => hl (Or.inl (hf₂.1 h))) hle₂
      have hlogin := login_asked (m := m) (u := u) (p := p) hasked₂.clean fd
      rw [hq₂, hdb₂] at hlogin
      refine ends_bind_ok hlogin ?_
      rintro ret s₃ ⟨hasked₃, ⟨hi, rfl⟩ | ⟨hi, rfl⟩⟩
      · rw [if_pos (by decide)]
        refine ends_pure (.firstFailed hchecked hl hi ?_)
        rw [hasked₃.connection, ← heq]
        refine Connection.after_failures_of ?_
        rw [hq₂, show s₂.connection.db = s.connection.db from hdb₂]
        exact hi
      · rw [if_neg (by decide)]
        refine ends_pure (.first hchecked hl hi ?_)
        rw [hasked₃.connection, ← heq]
        refine Connection.after_failures_of_not ?_
        rw [hq₂, show s₂.connection.db = s.connection.db from hdb₂]
        exact hi

end

/-! ## How a logout and a registration end -/

section

variable (m : Mysql) (c : Connection) (u : Text)

/-- The row a logout is answered with first, which is the one it ends. -/
def FirstLogined (row : LoginRow) : Prop :=
  row ∈ c.db.active u ∧
    ∃ rest, m.answer c.queries (.selectLoginedId u) c.db = .done 1 ([natText row.fuiId] :: rest)

/-- The statement a logout sends for that row. -/
def endRow (row : LoginRow) : Stmt := .updateStatus (readInt (natText row.fuiId))

/-- How a logout ends, by which of its statements fail. -/
inductive LogoutEnd (c' : Connection) : C Reply → Prop where
  /-- The rows could not be looked up. -/
  | unlocated (h : m.Fails c.queries (.selectLoginedId u) c.db) (hf : c.failures < c'.failures) :
      LogoutEnd c' (.ok ⟨-1, .DB_OP_FAILED, ascii "SYSTEM ERROR: select data from DB failed!"⟩)
  /-- There is no active row. -/
  | absent (h : ¬ m.Fails c.queries (.selectLoginedId u) c.db) (ha : c.db.active u = [])
      (hf : c'.failures = c.failures) :
      LogoutEnd c' (.ok ⟨0, .SUCCESS, ascii "logout success!"⟩)
  /-- An active row ends. -/
  | ended (row : LoginRow) (h : FirstLogined m c u row)
      (hend : ¬ m.Fails (c.queries + 1) (endRow row) c.db) (hf : c'.failures = c.failures) :
      LogoutEnd c' (.ok ⟨0, .SUCCESS, ascii "logout success!"⟩)
  /-- The update failed. -/
  | endFailed (row : LoginRow) (h : FirstLogined m c u row)
      (hend : m.Fails (c.queries + 1) (endRow row) c.db) (hf : c.failures < c'.failures) :
      LogoutEnd c' (.ok ⟨-1, .DB_OP_FAILED, ascii "SYSTEM ERROR: update data to DB failed!"⟩)

end

/-- A logout ends in one of the ways `LogoutEnd` lists. -/
theorem processLogout_asked {P : Text → Prop} {m : Mysql} {s : SqlApi} {u : Text} (hm : Reading P m)
    (hu : P u) (hs : Clean s) :
    Ends (processLogout m u) s fun r s' => LogoutEnd m s.connection u s'.connection r := by
  have hnames : ∀ n ∈ (Stmt.selectLoginedId u).names, P n := by simpa [Stmt.names] using hu
  refine ends_asked hm rfl hnames hs ?_ fun rows s₁ hdone hperm hasked => ?_
  · intro s' hfails hasked
    refine ends_pure (.unlocated hfails ?_)
    rw [hasked.connection]
    exact Connection.after_failures_of hfails
  have hnot := not_fails_of_done hdone
  have hf₁ : s₁.connection.failures = s.connection.failures := by
    rw [hasked.connection, Connection.after_failures_of_not hnot]
  have hdb₁ : s₁.connection.db = s.connection.db := by
    rw [hasked.connection, Connection.after_db hm rfl hnames]
  have hq₁ : s₁.connection.queries = s.connection.queries + 1 := by
    rw [hasked.connection, Connection.after_queries]
  change rows.Perm ((s.db.active u).map fun r => [natText r.fuiId]) at hperm
  cases rows with
  | nil =>
    rw [if_pos (show [].length ≤ 0 from le_rfl)]
    exact ends_pure (.absent hnot (List.map_eq_nil_iff.1 hperm.nil_eq.symm) hf₁)
  | cons first rest =>
    rw [if_neg (by simp)]
    refine ends_assert (fun _ => ?_) (fun h => absurd rfl h)
    obtain ⟨row, hrow, rfl⟩ := List.mem_map.1 (hperm.mem_iff.1 List.mem_cons_self)
    have hfirst : FirstLogined m s.connection u row := ⟨hrow, rest, hdone⟩
    refine ends_bind_ok (R := fun a s'' => a = natText row.fuiId ∧ s'' = s₁) ⟨_, rfl, rfl, rfl⟩ ?_
    rintro id s'' ⟨rfl, rfl⟩
    refine ends_bind_ok (update_asked hasked.clean) ?_
    rw [hq₁, SqlApi.db, hdb₁]
    rintro ret s₂ ⟨hasked₂, ⟨hend, rfl⟩ | ⟨hend, rfl⟩⟩
    · rw [if_pos (by decide)]
      refine ends_pure (.endFailed row hfirst hend ?_)
      rw [hasked₂.connection, ← hf₁]
      refine Connection.after_failures_of ?_
      rw [hq₁, hdb₁]
      exact hend
    · rw [if_neg (by decide)]
      refine ends_pure (.ended row hfirst hend ?_)
      rw [hasked₂.connection, ← hf₁]
      refine Connection.after_failures_of_not ?_
      rw [hq₁, hdb₁]
      exact hend

end Loginer

namespace Register

/-- The statement that enters a name, the one of that number. -/
def enter (m : Mysql) (u p : Text) (n : Nat) : Stmt := .insertPassword u p (m.time n)

/-- How a registration ends, by which of its statements fail. -/
inductive RegistEnd (m : Mysql) (c : Connection) (u p msg : Text) (c' : Connection) : C Reply → Prop where
  /-- The name could not be looked up. -/
  | unchecked (h : m.Fails c.queries (.countRegist u) c.db) (hf : c.failures < c'.failures) :
      RegistEnd m c u p msg c' (.ok ⟨-1, .DB_OP_FAILED, ascii "system error: insert data into DB failed!"⟩)
  /-- The name is taken. -/
  | taken (h : ¬ m.Fails c.queries (.countRegist u) c.db)
      (hv : counted (c.db.registRows u).length = true) (hf : c'.failures = c.failures) :
      RegistEnd m c u p msg c' (.ok ⟨0, .ALREADY_REGIST, u ++ ascii " already regist!"⟩)
  /-- The name is entered. -/
  | entered (h : ¬ m.Fails c.queries (.countRegist u) c.db)
      (hv : counted (c.db.registRows u).length = false)
      (hi : ¬ m.Fails (c.queries + 1) (enter m u p (c.queries + 1)) c.db)
      (hf : c'.failures = c.failures) :
      RegistEnd m c u p msg c' (.ok ⟨0, .SUCCESS, msg ++ ascii "regist success!"⟩)
  /-- The insert failed. -/
  | enterFailed (h : ¬ m.Fails c.queries (.countRegist u) c.db)
      (hv : counted (c.db.registRows u).length = false)
      (hi : m.Fails (c.queries + 1) (enter m u p (c.queries + 1)) c.db)
      (hf : c.failures < c'.failures) :
      RegistEnd m c u p msg c' (.ok ⟨-1, .DB_OP_FAILED, ascii "system error: insert data into DB failed!"⟩)

section

variable {P : Text → Prop} {m : Mysql} {s : SqlApi} {u p : Text}

theorem isAlreadyRegist_asked (hm : Reading P m) (hu : P u) (hs : Clean s) :
    Ends (isAlreadyRegist m u) s fun r s' => ∃ a, r = .ok a ∧ Asked m (.countRegist u) s s' ∧
      (m.Fails s.connection.queries (.countRegist u) s.db ∧ a.1 = -1 ∨
        ¬ m.Fails s.connection.queries (.countRegist u) s.db ∧ a.1 = 0 ∧
          a.2 = counted (s.db.registRows u).length) := by
  have hnames : ∀ n ∈ (Stmt.countRegist u).names, P n := by simpa [Stmt.names] using hu
  refine ends_asked_count hm rfl hnames hs rfl rfl ?_ ?_
  · exact fun s' hfails hasked => ends_pure ⟨_, rfl, hasked, Or.inl ⟨hfails, rfl⟩⟩
  · intro s' hnot hasked
    refine ends_pure ⟨_, rfl, hasked, Or.inr ⟨hnot, rfl, ?_⟩⟩
    simp only [counted]

theorem regist_asked (hs : Clean s) :
    Ends (regist m u p) s fun r s' => ∃ ret, r = .ok ret ∧
      Asked m (enter m u p s.connection.queries) s s' ∧
        (m.Fails s.connection.queries (enter m u p s.connection.queries) s.db ∧ ret = -1 ∨
          ¬ m.Fails s.connection.queries (enter m u p s.connection.queries) s.db ∧ ret = 0) := by
  refine ends_bind_ok (R := fun t s' => t = m.time s.connection.queries ∧ s' = s) ⟨_, rfl, rfl, rfl⟩ ?_
  rintro time s' ⟨rfl, rfl⟩
  refine ends_bind_ok (insert_asked hs) ?_
  rintro ret s'' ⟨hasked, ⟨h, rfl⟩ | ⟨h, rfl⟩⟩
  · rw [if_pos (by decide)]
    exact ends_pure ⟨_, rfl, hasked, Or.inl ⟨h, rfl⟩⟩
  · rw [if_neg (by decide)]
    exact ends_pure ⟨_, rfl, hasked, Or.inr ⟨h, rfl⟩⟩

/-- A registration ends in one of the ways `RegistEnd` lists. -/
theorem processRegist_asked (hm : Reading P m) (hu : P u) (hs : Clean s) (msg : Text) :
    Ends (processRegist m u p msg) s fun r s' => RegistEnd m s.connection u p msg s'.connection r := by
  have hnames : ∀ n ∈ (Stmt.countRegist u).names, P n := by simpa [Stmt.names] using hu
  refine ends_bind_ok (isAlreadyRegist_asked hm hu hs) ?_
  rintro a s₁ ⟨hasked, ⟨hfails, hret⟩ | ⟨hnot, hret, hflag⟩⟩
  · rw [if_pos (by rw [hret]; decide)]
    refine ends_pure (.unchecked hfails ?_)
    rw [hasked.connection]
    exact Connection.after_failures_of hfails
  rw [if_neg (by rw [hret]; decide), hflag]
  have hf₁ : s₁.connection.failures = s.connection.failures := by
    rw [hasked.connection, Connection.after_failures_of_not hnot]
  have hdb₁ : s₁.connection.db = s.connection.db := by
    rw [hasked.connection, Connection.after_db hm rfl hnames]
  have hq₁ : s₁.connection.queries = s.connection.queries + 1 := by
    rw [hasked.connection, Connection.after_queries]
  cases hv : counted (s.db.registRows u).length with
  | true =>
    rw [if_pos rfl]
    exact ends_pure (.taken hnot hv hf₁)
  | false =>
    rw [if_neg (by decide)]
    refine ends_bind_ok (regist_asked hasked.clean) ?_
    rw [hq₁, SqlApi.db, hdb₁]
    rintro ret s₂ ⟨hasked₂, ⟨hi, rfl⟩ | ⟨hi, rfl⟩⟩
    · rw [if_pos (by decide)]
      refine ends_pure (.enterFailed hnot hv hi ?_)
      rw [hasked₂.connection, ← hf₁]
      refine Connection.after_failures_of ?_
      rw [hq₁, hdb₁]
      exact hi
    · rw [if_neg (by decide)]
      refine ends_pure (.entered hnot hv hi ?_)
      rw [hasked₂.connection, ← hf₁]
      refine Connection.after_failures_of_not ?_
      rw [hq₁, hdb₁]
      exact hi

end

end Register

/-! ## What the caller is told -/

/-- What the caller of every operation gets. -/
def CallEnd.reply : CallEnd → C Reply
  | .regist r => r
  | .login r => r.map LoginReply.toReply
  | .logout r => r

/-- No assertion ends the operation, and where one of its statements has failed it returns
`-1` with an error code. -/
def FailuresReported (c c' : Connection) (r : C Reply) : Prop :=
  r ≠ .error .assertFailed ∧
    (c.failures < c'.failures → ∃ a, r = .ok a ∧ a.ret = -1 ∧ a.code ≠ .SUCCESS)

/-- The login takes the failed count for a session, and no statement fails after that. -/
structure CountMissed (m : Mysql) (c : Connection) (u p : Text) (fd : Int) : Prop where
  checked : Checked m c u p
  missed : CountFails m c u
  located : ¬ m.Fails (c.queries + 2) (.selectLogined u) c.db
  replaced : ∀ row, c.db.active u = [row] →
    ¬ EndFails m c (readId row) ∧ ¬ EnterFails m c u p fd (readId row)

/-- The only operation that does so. -/
def Call.CountMissed (m : Mysql) (c : Connection) : Call → Prop
  | .login u p fd => SingleTerminalLogin.CountMissed m c u p fd
  | _ => False

section

variable {m : Mysql} {c c' : Connection} {u p msg : Text} {fd : Int}

/-- An operation that returns and in which nothing has failed has nothing to report. -/
theorem failuresReported_of_le {a : Reply} (h : c'.failures ≤ c.failures) :
    FailuresReported c c' (.ok a) :=
  ⟨nofun, fun hlt => absurd hlt (not_lt.2 h)⟩

/-- An operation that returns `-1` with an error code has reported everything. -/
theorem failuresReported_of_code {a : Reply} (hret : a.ret = -1) (hcode : a.code ≠ .SUCCESS) :
    FailuresReported c c' (.ok a) :=
  ⟨nofun, fun _ => ⟨a, rfl, hret, hcode⟩⟩

theorem Loginer.LoginEnd.reported_iff {r : C LoginReply} (h : LoginEnd m c u p fd c' r)
    (hone : (c.db.active u).length ≤ 1) :
    FailuresReported c c' (r.map LoginReply.toReply) ↔ ¬ CountMissed m c u p fd := by
  cases h with
  | unchecked h hf =>
    refine iff_of_true (failuresReported_of_code rfl ?_) fun hmissed => hmissed.checked.answered h
    exact RegistLoginCode.noConfusion
  | invalid h hv hf =>
    refine iff_of_true (failuresReported_of_le hf.le) fun hmissed => ?_
    exact Bool.noConfusion (hv.symm.trans hmissed.checked.valid)
  | first h hl hi hf =>
    exact iff_of_true (failuresReported_of_le hf.le) fun hmissed => hl (Or.inl hmissed.missed)
  | firstFailed h hl hi hf =>
    refine iff_of_true (failuresReported_of_code rfl ?_) fun hmissed => hl (Or.inl hmissed.missed)
    exact RegistLoginCode.noConfusion
  | unlocated h hl hs hf =>
    refine iff_of_true (failuresReported_of_code rfl ?_) fun hmissed => hmissed.located hs
    exact RegistLoginCode.noConfusion
  | aborted h hl hs ha =>
    refine iff_of_false (fun hreported => hreported.1 rfl) (not_not_intro ?_)
    -- no active row: only the failed count has led here
    have hnil : (c.db.active u).length = 0 := by omega
    refine ⟨h, hl.resolve_right fun hcounted => ?_, hs, fun row hrow => ?_⟩
    · rw [hnil] at hcounted
      exact absurd hcounted (by decide)
    · rw [hrow] at hnil
      cases hnil
  | displaced row h hs ha hend henter hf =>
    have hmissed : CountMissed m c u p fd ↔ CountFails m c u := by
      refine ⟨fun hmissed => hmissed.missed, fun hfails => ⟨h, hfails, hs, fun row' hrow' => ?_⟩⟩
      rw [ha] at hrow'
      cases hrow'
      exact ⟨hend, henter⟩
    rw [hmissed, ← hf, not_lt]
    constructor
    · rintro ⟨-, hreported⟩
      refine not_lt.1 fun hlt => ?_
      obtain ⟨a, ha, hret, -⟩ := hreported hlt
      cases ha
      cases hret
    · exact failuresReported_of_le
  | displaceFailed row h hs ha hw hf =>
    refine iff_of_true (failuresReported_of_code rfl RegistLoginCode.noConfusion) fun hmissed => ?_
    obtain ⟨hend, henter⟩ := hmissed.replaced row ha
    exact hw.elim hend henter

theorem Loginer.LogoutEnd.reported {r : C Reply} (h : LogoutEnd m c u c' r) : FailuresReported c c' r := by
  cases h with
  | unlocated h hf => exact failuresReported_of_code rfl RegistLoginCode.noConfusion
  | absent h ha hf => exact failuresReported_of_le hf.le
  | ended row h hend hf => exact failuresReported_of_le hf.le
  | endFailed row h hend hf => exact failuresReported_of_code rfl RegistLoginCode.noConfusion

theorem Register.RegistEnd.reported {r : C Reply} (h : RegistEnd m c u p msg c' r) :
    FailuresReported c c' r := by
  cases h with
  | unchecked h hf => exact failuresReported_of_code rfl RegistLoginCode.noConfusion
  | taken h hv hf => exact failuresReported_of_le hf.le
  | entered h hv hi hf => exact failuresReported_of_le hf.le
  | enterFailed h hv hi hf => exact failuresReported_of_code rfl RegistLoginCode.noConfusion

end

/-- Whatever statements fail, no assertion of the login manager does and the caller is told
`-1` and an error code, exactly when the operation is not a login that takes a failed count
for a session and meets no failing statement after that. -/
theorem failures_reported_iff (P : Text → Prop) (m : Mysql) (hm : Reading P m) (call : Call)
    (hP : ∀ n ∈ call.names, P n) (c : Connection) (hone : ∀ u, (c.db.active u).length ≤ 1) :
    FailuresReported c (loginManager m call c).2 (loginManager m call c).1.reply ↔
      ¬ call.CountMissed m c := by
  cases call with
  | regist u p =>
    have hend := processRegist_asked (u := u) (p := p) (s := { connection := c }) hm
      (hP u (by simp [Call.names])) rfl []
    exact iff_of_true hend.reported id
  | login u p fd =>
    have hend := processLogin_asked (u := u) (p := p) (s := { connection := c }) hm
      (hP u (by simp [Call.names])) (hP p (by simp [Call.names])) rfl fd
    exact hend.reported_iff (hone u)
  | logout u =>
    have hend := processLogout_asked (u := u) (s := { connection := c }) hm
      (hP u (by simp [Call.names])) rfl
    exact iff_of_true hend.reported id

/-- One registered user who is not logged in. -/
def registered : Db where
  t_user_password := [⟨ascii "u", ascii "p", 0⟩]

theorem active_registered_le (u : Text) : (registered.active u).length ≤ 1 := Nat.zero_le 1

/-- A login of a user who is logged in, whose update fails: the caller is told. -/
theorem failures_reported_iff_loggedIn :
    FailuresReported { db := loggedIn }
        (loginManager (memoryServer.failingAt 3) (.login (ascii "u") (ascii "p") 7) { db := loggedIn }).2
        (loginManager (memoryServer.failingAt 3) (.login (ascii "u") (ascii "p") 7)
          { db := loggedIn }).1.reply := by
  have hm : Reading (fun _ => True) (memoryServer.failingAt 3) :=
    ((servedBy_memoryServer True _).failingAt 3).reading
  refine (failures_reported_iff _ _ hm (.login (ascii "u") (ascii "p") 7) (fun _ _ => trivial)
    { db := loggedIn } (fun u => ?_)).2 fun hmissed => ?_
  · exact List.length_filter_le _ loggedIn.t_user_login
  · exact Answer.noConfusion (show Answer.done 1 [[natText 1]] = .failed from hmissed.missed)

/-- The count fails for a user who is not logged in: the login aborts. -/
theorem count_aborts_login :
    ¬ ∀ (m : Mysql) (call : Call) (c : Connection), Reading (fun _ => True) m →
      (∀ u, (c.db.active u).length ≤ 1) →
      FailuresReported c (loginManager m call c).2 (loginManager m call c).1.reply := by
  intro hall
  have hm : Reading (fun _ => True) (memoryServer.failingAt 1) :=
    ((servedBy_memoryServer True _).failingAt 1).reading
  have hreported := hall (memoryServer.failingAt 1) (.login (ascii "u") (ascii "p") 7)
    { db := registered } hm active_registered_le
  exact hreported.1 (by decide)

end SingleTerminalLogin
