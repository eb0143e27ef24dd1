import SingleTerminalLogin.LoginManager.Failures
import SingleTerminalLogin.Services.Logged

/-!
# Which lines an operation leaves in the log

What an operation on names writes to the log depends on the rows of these names.

* `Register.lines`, `Loginer.loginLines`, `Loginer.logoutLines` — the lines, by the tables;
* `ends_read`, `ends_written`, `ends_line`, `ends_print` — the rules for statements that do not fail and for
  lines in between;
* `processRegist_writes`, `processLogin_writes`, `processLogout_writes` — an operation in which no statement
  fails returns exactly when its lines fit.
-/

namespace SingleTerminalLogin

open ByteText CProgram Proc SqlApi

namespace Logged

/-! ## Statements that do not fail -/

section

variable {log : Log} {P : Text → Prop} {m : Mysql} {s : SqlApi} {stmt : Stmt}

theorem failed_run {x : Proc SqlApi Int} {line : C Unit} {s' : SqlApi} (h : x s = (.ok 0, s')) :
    (do
      let ret ← x
      if ret ≠ 0 then do
        lift line
        pure ret
      else pure ret : Proc SqlApi Int) s = (.ok 0, s') := by
  rw [bind_run_ok h, if_neg (by decide)]
  rfl

theorem select_run (h : ¬ m.Fails s.connection.queries stmt s.db) :
    select log m stmt s = SqlApi.select m stmt s := by
  have hrun : ∃ s', SqlApi.select m stmt s = (.ok 0, s') := by
    cases ha : m.answer s.connection.queries stmt s.db with
    | failed => exact absurd (Mysql.answer_eq_failed.1 ha) h
    | done fieldsCount rows =>
      rw [select_eq, bind_run_ok ask_run, ha]
      exact ⟨_, rfl⟩
  obtain ⟨s', hrun⟩ := hrun
  exact (failed_run hrun).trans hrun.symm

/-- A write that does not fail. -/
theorem ends_written {x : Proc SqlApi Int} {line : C Unit}
    (hx : Ends x s fun r s' => ∃ ret, r = .ok ret ∧ Asked m stmt s s' ∧
      (m.Fails s.connection.queries stmt s.db ∧ ret = -1 ∨
        ¬ m.Fails s.connection.queries stmt s.db ∧ ret = 0))
    (h : ¬ m.Fails s.connection.queries stmt s.db) :
    Ends (do
      let ret ← x
      if ret ≠ 0 then do
        lift line
        pure ret
      else pure ret) s fun r s' => r = .ok 0 ∧ Asked m stmt s s' := by
  obtain ⟨ret, hret, hasked, ⟨hfails, -⟩ | ⟨-, rfl⟩⟩ := hx
  · exact absurd hfails h
  · rw [Ends, failed_run (Prod.ext hret rfl)]
    exact ⟨rfl, hasked⟩

theorem bind_run_congr {σ α β : Type} {x y : Proc σ α} {f : α → Proc σ β} {s : σ} (h : x s = y s) :
    (x >>= f) s = (y >>= f) s := by
  cases hy : y s with
  | mk r s' =>
    rw [hy] at h
    cases r with
    | ok a => rw [bind_run_ok h, bind_run_ok hy]
    | error e => rw [bind_run_error h, bind_run_error hy]

/-- A read that does not fail. -/
theorem ends_read {β : Type} {bad : Proc SqlApi β} {k : MysqlResult → Proc SqlApi β}
    {Q : C β → SqlApi → Prop} (hm : Reading P m) (hreads : stmt.reads = true)
    (hP : ∀ n ∈ stmt.names, P n) (hs : Clean s) (h : ¬ m.Fails s.connection.queries stmt s.db)
    (hk : ∀ rows s', m.answer s.connection.queries stmt s.db = .done stmt.fieldsCount rows →
      rows.Perm (stmt.rows s.db) → Asked m stmt s s' →
      Ends (k ⟨rows, rows.length, stmt.fieldsCount⟩) s' Q) :
    Ends (do
      let ret ← select log m stmt
      if ret ≠ 0 then bad
      else do
        let r ← getResult
        k r) s Q := by
  rw [Ends, bind_run_congr (select_run h)]
  exact ends_asked hm hreads hP hs (fun _ hfails => absurd hfails h) hk

/-- A read leaves the tables as they are. -/
theorem asked_read {s' : SqlApi} (hm : Reading P m) (hreads : stmt.reads = true)
    (hP : ∀ n ∈ stmt.names, P n) (hasked : Asked m stmt s s') :
    s'.db = s.db ∧ s'.connection.queries = s.connection.queries + 1 := by
  rw [SqlApi.db, hasked.connection, Connection.after_db hm hreads hP, Connection.after_queries]
  exact ⟨rfl, rfl⟩

/-- A value behind a line. -/
theorem print_pure_run {α : Type} {x : C Unit} {a : α} :
    (do
      lift x
      pure a : Proc SqlApi α) s = (x >>= fun _ => .ok a, s) := by
  cases x <;> rfl

/-- A count that does not fail, with the line for what is read. -/
theorem ends_read_count {α : Type} {bad : Proc SqlApi α} {l : Text → Line} {a : Text → α} {n : Nat}
    (hm : Reading P m) (hreads : stmt.reads = true) (hP : ∀ n ∈ stmt.names, P n) (hs : Clean s)
    (hrows : stmt.rows s.db = [[natText n]]) (hfields : stmt.fieldsCount = 1)
    (h : ¬ m.Fails s.connection.queries stmt s.db) :
    Ends (do
      let ret ← select log m stmt
      if ret ≠ 0 then bad
      else do
        let mysqlResult ← getResult
        lift (assert (mysqlResult.rowsCount = 1))
        lift (assert (mysqlResult.fieldsCount = 1))
        let count ← field mysqlResult 0 0
        lift (log.print (l count))
        pure (a count)) s
      fun r s' => r = (log.print (l (natText n)) >>= fun _ => .ok (a (natText n))) ∧
        Asked m stmt s s' := by
  refine ends_read hm hreads hP hs h fun rows s' _ hperm hasked => ?_
  rw [hrows, List.perm_singleton] at hperm
  subst hperm
  refine ends_assert (fun _ => ?_) (fun h => absurd rfl h)
  refine ends_assert (fun _ => ?_) (fun h => absurd hfields h)
  refine ends_bind_ok (R := fun a s'' => a = natText n ∧ s'' = s') ⟨_, rfl, rfl, rfl⟩ ?_
  rintro count s'' ⟨rfl, rfl⟩
  rw [Ends, print_pure_run]
  exact ⟨rfl, hasked⟩

/-- A line in front. -/
theorem ends_print {σ α : Type} {s : σ} {l : Line} {f : Unit → Proc σ α} {A : Prop}
    (hf : Ends (f ()) s fun r _ => Returns r ↔ A) :
    Ends (lift (log.print l) >>= f) s fun r _ => Returns r ↔ log.Fits l ∧ A := by
  refine ends_bind (ends_lift (Q := fun r s' => r = log.print l ∧ s' = s) ⟨rfl, rfl⟩) ?_ ?_
  · rintro u s' ⟨hu, rfl⟩
    have hfits : log.Fits l := Log.print_returns_iff.1 ⟨u, hu.symm⟩
    exact hf.imp fun r s'' hr => by rw [hr, and_iff_right hfits]
  · rintro e s' ⟨he, -⟩
    refine iff_of_false (not_returns_error e) fun h => ?_
    rw [Log.print_of_fits h.1] at he
    cases he

/-- A line in front of the value. -/
theorem ends_print_pure {σ α : Type} {s : σ} {l : Line} (a : α) :
    Ends (do
      lift (log.print l)
      pure a) s fun r _ => Returns r ↔ log.Fits l := by
  rw [← and_true (log.Fits l)]
  exact ends_print (ends_pure (iff_true_intro (returns_ok a)))

/-- A call that writes one line and returns, and what comes after it. -/
theorem ends_line {α β : Type} {x : Proc SqlApi α} {l : Line} {a : α} {R : SqlApi → Prop}
    {f : α → Proc SqlApi β} {A : Prop}
    (hx : Ends x s fun r s' => r = (log.print l >>= fun _ => .ok a) ∧ R s')
    (hf : ∀ s', R s' → Ends (f a) s' fun r _ => Returns r ↔ A) :
    Ends (x >>= f) s fun r _ => Returns r ↔ log.Fits l ∧ A := by
  refine ends_bind (R := fun r s' => r = (log.print l >>= fun _ => .ok a) ∧ R s') hx ?_ ?_
  · rintro b s' ⟨hr, hs'⟩
    obtain ⟨u, hu, hb⟩ := bind_eq_ok.1 hr.symm
    cases hb
    have hfits : log.Fits l := Log.print_returns_iff.1 ⟨u, hu⟩
    exact (hf s' hs').imp fun r s'' hr => by rw [hr, and_iff_right hfits]
  · rintro e s' ⟨hr, -⟩
    refine iff_of_false (not_returns_error e) fun h => ?_
    rw [Log.print_of_fits h.1, ok_bind] at hr
    cases hr

end

/-! ## The operations -/

namespace Register

/-- The line for the rows of a name. -/
def countLine (u : Text) (n : Nat) : Line := ⟨.register, 70, [.str u, .int (readInt (natText n))], .refl true⟩

/-- The lines of a registration. -/
def lines (db : Db) (u : Text) : List Line :=
  countLine u (db.registRows u).length ::
    if Loginer.counted (db.registRows u).length then [⟨.register, 30, [.str u], .refl true⟩] else []

section

variable {log : Log} {P : Text → Prop} {m : Mysql} {s : SqlApi} {u p : Text}

theorem isAlreadyRegist_run (hm : Reading P m) (hu : P u) (hs : Clean s)
    (h : ¬ m.Fails s.connection.queries (.countRegist u) s.db) :
    Ends (isAlreadyRegist log m u) s fun r s' =>
      r = (log.print (countLine u (s.db.registRows u).length) >>=
        fun _ => .ok (0, SingleTerminalLogin.Loginer.counted (s.db.registRows u).length)) ∧
      Asked m (.countRegist u) s s' := by
  have hnames : ∀ n ∈ (Stmt.countRegist u).names, P n := by simpa [Stmt.names] using hu
  exact ends_read_count (l := fun count => ⟨.register, 70, [.str u, .int (readInt count)], rfl⟩)
    (a := fun count => (0, decide (readInt count ≠ 0))) hm rfl hnames hs rfl rfl h

theorem regist_run (hs : Clean s)
    (h : ¬ m.Fails s.connection.queries (SingleTerminalLogin.Register.enter m u p s.connection.queries) s.db) :
    Ends (regist log m u p) s fun r _ => ∃ ret, r = .ok ret ∧ ret = 0 := by
  refine ends_bind_ok (R := fun t s' => t = m.time s.connection.queries ∧ s' = s) ⟨_, rfl, rfl, rfl⟩ ?_
  rintro time s' ⟨rfl, rfl⟩
  refine ends_bind_ok (R := fun ret _ => ret = 0) ?_ ?_
  · exact (ends_written (insert_asked hs) h).imp fun r s'' hr => ⟨0, hr.1, rfl⟩
  rintro ret s'' rfl
  exact ends_pure ⟨0, rfl, rfl⟩

variable (log) in
/-- A registration in which no statement fails. -/
theorem processRegist_writes (hm : Reading P m) (hu : P u) (hs : Clean s) {msg : Text}
    (hok : (SingleTerminalLogin.Register.processRegist m u p msg s).2.connection.failures =
      s.connection.failures) :
    Ends (processRegist log m u p msg) s fun r _ => Returns r ↔ ∀ l ∈ lines s.db u, log.Fits l := by
  have hnames : ∀ n ∈ (Stmt.countRegist u).names, P n := by simpa [Stmt.names] using hu
  have hend := SingleTerminalLogin.Register.processRegist_asked (p := p) hm hu hs msg
  rw [Ends] at hend
  simp only [lines, List.forall_mem_cons]
  generalize SingleTerminalLogin.Register.processRegist m u p msg s = r at hok hend
  obtain ⟨r, s'⟩ := r
  cases hend with
  | unchecked h hf => exact absurd hok hf.ne'
  | enterFailed h hv hi hf => exact absurd hok hf.ne'
  | taken h hv hf =>
    have htrue : Loginer.counted (s.db.registRows u).length = true := hv
    refine ends_line (isAlreadyRegist_run hm hu hs h) fun s' hasked => ?_
    rw [if_neg (not_not_intro rfl), if_pos htrue, if_pos htrue, List.forall_mem_singleton]
    exact ends_print_pure _
  | entered h hv hi hf =>
    have hfalse : Loginer.counted (s.db.registRows u).length = false := hv
    refine ends_line (isAlreadyRegist_run hm hu hs h) fun s' hasked => ?_
    obtain ⟨hdb, hq⟩ := asked_read hm rfl hnames hasked
    have hnot : ¬ m.Fails s'.connection.queries
        (SingleTerminalLogin.Register.enter m u p s'.connection.queries) s'.db := by
      rw [hq, hdb]
      exact hi
    rw [if_neg (not_not_intro rfl), hfalse, if_neg Bool.false_ne_true, if_neg Bool.false_ne_true]
    refine ends_bind_ok (regist_run hasked.clean hnot) ?_
    rintro ret s'' rfl
    rw [if_neg (not_not_intro rfl)]
    exact ends_pure (iff_of_true (returns_ok _) fun l hl => absurd hl List.not_mem_nil)

end

end Register

namespace Loginer

/-- The line for the rows of a name with a password. -/
def validLine (u p : Text) (n : Nat) : Line :=
  ⟨.loginer, 161, [.str u, .str p, .int (if readInt (natText n) ≠ 0 then 1 else 0)], .refl true⟩

/-- The line for the active rows of a name. -/
def activeLine (u : Text) (n : Nat) : Line := ⟨.loginer, 186, [.str u, .int (readInt (natText n))], .refl true⟩

/-- The lines of a login that replaces the session of that row, once it is found. -/
def displacedLines (u p : Text) (row : LoginRow) : List Line :=
  [⟨.loginer, 55, [.str u], .refl true⟩,
    ⟨.loginer, 232, [.str u, .int (readId row), .int (SingleTerminalLogin.Loginer.readFd row)], .refl true⟩,
    ⟨.loginer, 84, [.str u, .str p], .refl true⟩]

/-- The lines of a login. -/
def loginLines (db : Db) (u p : Text) : List Line :=
  validLine u p (db.passwordRows u p).length ::
    if SingleTerminalLogin.Loginer.counted (db.passwordRows u p).length then
      activeLine u (db.active u).length ::
        match db.active u with
        | [] => [⟨.loginer, 84, [.str u, .str p], .refl true⟩]
        | row :: _ => displacedLines u p row
    else [⟨.loginer, 34, [.str u, .str p], .refl true⟩]

/-- The lines of a logout. -/
def logoutLines (db : Db) (u : Text) : List Line :=
  match db.active u with
  | [] => [⟨.loginer, 112, [], .refl true⟩]
  | _ :: _ => [⟨.loginer, 134, [], .refl true⟩]

section

variable {log : Log} {P : Text → Prop} {m : Mysql} {s : SqlApi} {u p : Text}

theorem isValidUserNameAndPassWord_run (hm : Reading P m) (hu : P u) (hp : P p) (hs : Clean s)
    (h : ¬ m.Fails s.connection.queries (.countPassword u p) s.db) :
    Ends (isValidUserNameAndPassWord log m u p) s fun r s' =>
      r = (log.print (validLine u p (s.db.passwordRows u p).length) >>=
        fun _ => .ok (0, SingleTerminalLogin.Loginer.counted (s.db.passwordRows u p).length)) ∧
      Asked m (.countPassword u p) s s' := by
  have hnames : ∀ n ∈ (Stmt.countPassword u p).names, P n := by simpa [Stmt.names] using ⟨hu, hp⟩
  exact ends_read_count
    (l := fun count =>
      ⟨.loginer, 161, [.str u, .str p, .int (if readInt count ≠ 0 then 1 else 0)], rfl⟩)
    (a := fun count => (0, decide (readInt count ≠ 0))) hm rfl hnames hs rfl rfl h

theorem isAlreadyLogined_run (hm : Reading P m) (hu : P u) (hs : Clean s)
    (h : ¬ m.Fails s.connection.queries (.countLogined u) s.db) :
    Ends (isAlreadyLogined log m u) s fun r s' =>
      r = (log.print (activeLine u (s.db.active u).length) >>=
        fun _ => .ok (SingleTerminalLogin.Loginer.counted (s.db.active u).length)) ∧
      Asked m (.countLogined u) s s' := by
  have hnames : ∀ n ∈ (Stmt.countLogined u).names, P n := by simpa [Stmt.names] using hu
  exact ends_read_count (l := fun count => ⟨.loginer, 186, [.str u, .int (readInt count)], rfl⟩)
    (a := fun count => decide (readInt count ≠ 0)) hm rfl hnames hs rfl rfl h

theorem login_run (hs : Clean s) (fd : Int)
    (h : ¬ m.Fails s.connection.queries
      (SingleTerminalLogin.Loginer.enter m u p fd s.connection.queries) s.db) :
    Ends (login log m u p fd) s fun r _ => ∃ ret, r = .ok ret ∧ ret = 0 := by
  refine ends_bind_ok (R := fun t s' => t = m.time s.connection.queries ∧ s' = s) ⟨_, rfl, rfl, rfl⟩ ?_
  rintro time s' ⟨rfl, rfl⟩
  refine ends_bind_ok (R := fun ret _ => ret = 0) ?_ ?_
  · exact (ends_written (insert_asked hs) h).imp fun r s'' hr => ⟨0, hr.1, rfl⟩
  rintro ret s'' rfl
  exact ends_pure ⟨0, rfl, rfl⟩

theorem getAlreadyLoginedClientFd_run (hm : Reading P m) (hu : P u) (hs : Clean s)
    (h : ¬ m.Fails s.connection.queries (.selectLogined u) s.db) {row : LoginRow}
    (hrow : s.db.active u = [row]) :
    Ends (getAlreadyLoginedClientFd log m u) s fun r s' =>
      r = (log.print ⟨.loginer, 232,
          [.str u, .int (readId row), .int (SingleTerminalLogin.Loginer.readFd row)], rfl⟩ >>=
        fun _ => .ok (0, SingleTerminalLogin.Loginer.readFd row, readId row)) ∧
      Asked m (.selectLogined u) s s' := by
  have hnames : ∀ n ∈ (Stmt.selectLogined u).names, P n := by simpa [Stmt.names] using hu
  refine ends_read hm rfl hnames hs h fun rows s' _ hperm hasked => ?_
  rw [Stmt.rows, hrow, List.map_cons, List.map_nil, List.perm_singleton] at hperm
  subst hperm
  refine ends_assert (fun _ => ?_) (fun h => absurd rfl h)
  refine ends_assert (fun _ => ?_) (fun h => absurd rfl h)
  refine ends_bind_ok (R := fun a s'' => a = natText row.fuiId ∧ s'' = s') ⟨_, rfl, rfl, rfl⟩ ?_
  rintro id s'' ⟨rfl, rfl⟩
  refine ends_bind_ok (R := fun a s' => a = intText row.fuiFd ∧ s' = s'') ⟨_, rfl, rfl, rfl⟩ ?_
  rintro fd s' ⟨rfl, rfl⟩
  rw [Ends, print_pure_run]
  exact ⟨rfl, hasked⟩

/-- Both statements of a displacement, when three have been sent before. -/
theorem setLogoutStatusThenLogin_run {c : Connection} (hq : s.connection.queries = c.queries + 3)
    (hdb : s.db = c.db) (hs : Clean s) {id : Nat} {fd : Int} (hend : ¬ SingleTerminalLogin.Loginer.EndFails m c id)
    (henter : ¬ SingleTerminalLogin.Loginer.EnterFails m c u p fd id) :
    Ends (setLogoutStatusThenLogin log m id u p fd) s fun r _ => ∃ ret, r = .ok ret ∧ ret = 0 := by
  have hnot : ¬ m.Fails s.connection.queries (.updateStatus id) s.db := by
    rw [hq, hdb]
    exact hend
  refine ends_bind_ok (R := fun ret s' => ret = 0 ∧ Asked m (.updateStatus id) s s') ?_ ?_
  · exact (ends_written (update_asked hs) hnot).imp fun r s' hr => ⟨0, hr.1, rfl, hr.2⟩
  rintro ret s' ⟨rfl, hasked⟩
  rw [if_neg (not_not_intro rfl)]
  have hq' : s'.connection.queries = c.queries + 4 := by
    rw [hasked.connection, Connection.after_queries, hq]
  have hdb' : s'.db = SingleTerminalLogin.Loginer.endedDb m c id := by
    rw [SqlApi.db, hasked.connection, SingleTerminalLogin.Loginer.endedDb, ← hq, ← hdb]
    rfl
  refine login_run hasked.clean fd ?_
  rw [hq', hdb']
  exact henter

/-- The second half of a login that replaces a session, when two statements have been sent before. -/
theorem displace_writes (hm : Reading P m) (hu : P u) {c : Connection} (hq : s.connection.queries = c.queries + 2)
    (hdb : s.db = c.db) (hs : Clean s) {fd : Int} {row : LoginRow} (hrow : c.db.active u = [row])
    (hselect : ¬ m.Fails (c.queries + 2) (.selectLogined u) c.db)
    (hend : ¬ SingleTerminalLogin.Loginer.EndFails m c (readId row))
    (henter : ¬ SingleTerminalLogin.Loginer.EnterFails m c u p fd (readId row)) :
    Ends (do
      lift (log.print ⟨.loginer, 55, [.str u], rfl⟩)
      let r ← getAlreadyLoginedClientFd log m u
      if r.1 ≠ 0 then do
        lift (log.print ⟨.loginer, 63, [.str u], rfl⟩)
        pure ⟨⟨-1, .SYSTEM_ERROR, ascii "system error: Get already logined client fd failed!"⟩, -1⟩
      else do
        let logoutFd := r.2.1
        let ret ← setLogoutStatusThenLogin log m r.2.2 u p fd
        if ret ≠ 0 then do
          lift (log.print ⟨.loginer, 76, [.str u, .int r.2.2], rfl⟩)
          pure ⟨⟨-1, .SYSTEM_ERROR, ascii "system error: update DB data failed!"⟩, logoutFd⟩
        else do
          lift (log.print ⟨.loginer, 84, [.str u, .str p], rfl⟩)
          pure ⟨⟨0, .SUCCESS, ascii "login success!"⟩, logoutFd⟩ : Proc SqlApi LoginReply) s
      fun r _ => Returns r ↔ ∀ l ∈ displacedLines u p row, log.Fits l := by
  have hnames : ∀ n ∈ (Stmt.selectLogined u).names, P n := by simpa [Stmt.names] using hu
  have hselect : ¬ m.Fails s.connection.queries (.selectLogined u) s.db := by
    rw [hq, hdb]
    exact hselect
  rw [displacedLines, List.forall_mem_cons, List.forall_mem_cons, List.forall_mem_singleton]
  refine ends_print (ends_line (getAlreadyLoginedClientFd_run hm hu hs hselect (hdb.symm ▸ hrow)) ?_)
  intro s₁ (hasked : Asked m (.selectLogined u) s s₁)
  rw [if_neg (not_not_intro rfl)]
  dsimp only
  have hafter : s₁.db = s.db ∧ s₁.connection.queries = s.connection.queries + 1 :=
    asked_read hm rfl hnames hasked
  have hdb₁ : s₁.db = c.db := hafter.1.trans hdb
  have hq₁ : s₁.connection.queries = c.queries + 3 := by rw [hafter.2, hq]
  refine ends_bind_ok (setLogoutStatusThenLogin_run hq₁ hdb₁ hasked.clean hend henter) ?_
  rintro ret s₂ rfl
  rw [if_neg (not_not_intro rfl)]
  exact ends_print_pure _

variable (log) in
/-- A login in which no statement fails and no assertion. -/
theorem processLogin_writes (hm : Reading P m) (hu : P u) (hp : P p) (hs : Clean s) {fd : Int}
    (hone : (s.db.active u).length ≤ 1)
    (hreturns : Returns (SingleTerminalLogin.Loginer.processLogin m u p fd s).1)
    (hok : (SingleTerminalLogin.Loginer.processLogin m u p fd s).2.connection.failures =
      s.connection.failures) :
    Ends (processLogin log m u p fd) s fun r _ => Returns r ↔ ∀ l ∈ loginLines s.db u p, log.Fits l := by
  have hup : ∀ n ∈ (Stmt.countPassword u p).names, P n := by simpa [Stmt.names] using ⟨hu, hp⟩
  have hun : ∀ n ∈ (Stmt.countLogined u).names, P n := by simpa [Stmt.names] using hu
  have hend := SingleTerminalLogin.Loginer.processLogin_asked hm hu hp hs fd
  rw [Ends] at hend
  simp only [loginLines, List.forall_mem_cons]
  generalize SingleTerminalLogin.Loginer.processLogin m u p fd s = r at hok hreturns hend
  obtain ⟨r, c'⟩ := r
  -- the state after both counts
  have hsecond : ∀ {s₁ s₂ : SqlApi}, Asked m (.countPassword u p) s s₁ → Asked m (.countLogined u) s₁ s₂ →
      s₂.db = s.db ∧ s₂.connection.queries = s.connection.queries + 2 := by
    intro s₁ s₂ hasked hasked'
    obtain ⟨hdb, hq⟩ := asked_read hm rfl hup hasked
    obtain ⟨hdb', hq'⟩ := asked_read hm rfl hun hasked'
    exact ⟨hdb'.trans hdb, hq'.trans (congrArg (· + 1) hq)⟩
  -- the count of the sessions does not fail, either
  have hcount : ∀ {s₁ : SqlApi}, Asked m (.countPassword u p) s s₁ →
      ¬ SingleTerminalLogin.Loginer.CountFails m s.connection u →
      Ends (isAlreadyLogined log m u) s₁ fun r s' =>
        r = (log.print (activeLine u (s.db.active u).length) >>=
          fun _ => .ok (SingleTerminalLogin.Loginer.counted (s.db.active u).length)) ∧
        Asked m (.countLogined u) s₁ s' := by
    intro s₁ hasked hnot
    obtain ⟨hdb, hq⟩ := asked_read hm rfl hup hasked
    rw [← hdb]
    refine isAlreadyLogined_run hm hu hasked.clean ?_
    rw [hq, hdb]
    exact hnot
  cases hend with
  | unchecked h hf => exact absurd hok hf.ne'
  | firstFailed h hl hi hf => exact absurd hok hf.ne'
  | unlocated h hl hs hf => exact absurd hok hf.ne'
  | displaceFailed row h hs ha hw hf => exact absurd hok hf.ne'
  | aborted h hl hs ha => exact absurd hreturns (not_returns_error _)
  | invalid h hv hf =>
    have hfalse : SingleTerminalLogin.Loginer.counted (s.db.passwordRows u p).length = false := hv
    refine ends_line (isValidUserNameAndPassWord_run hm hu hp hs h) fun s₁ hasked => ?_
    rw [if_neg (lt_irrefl _), hfalse, if_pos (show (!((0 : Int), false).2) = true from rfl),
      if_neg Bool.false_ne_true, List.forall_mem_singleton]
    exact ends_print_pure _
  | first h hl hi hf =>
    have htrue : SingleTerminalLogin.Loginer.counted (s.db.passwordRows u p).length = true := h.valid
    have hnone : s.db.active u = [] := by
      have hcounted : SingleTerminalLogin.Loginer.counted (s.db.active u).length ≠ true := fun h => hl (Or.inr h)
      rw [SingleTerminalLogin.Loginer.counted_eq (by omega), ne_eq, decide_eq_true_iff, not_not] at hcounted
      exact List.length_eq_zero_iff.1 hcounted
    rw [hnone] at hcount ⊢
    refine ends_line (isValidUserNameAndPassWord_run hm hu hp hs h.answered) fun s₁ hasked => ?_
    rw [if_neg (lt_irrefl _), htrue, if_neg (show ¬ (!((0 : Int), true).2) = true from Bool.false_ne_true),
      if_pos rfl, List.forall_mem_cons]
    refine ends_line (hcount hasked fun h => hl (Or.inl h)) fun s₂ hasked₂ => ?_
    obtain ⟨hdb₂, hq₂⟩ := hsecond hasked hasked₂
    have henter : ¬ m.Fails s₂.connection.queries
        (SingleTerminalLogin.Loginer.enter m u p fd s₂.connection.queries) s₂.db := by
      rw [hq₂, hdb₂]
      exact hi
    rw [SingleTerminalLogin.Loginer.counted_eq (show ([] : List LoginRow).length < 2 ^ 31 by decide),
      if_pos (show (!decide (([] : List LoginRow).length ≠ 0)) = true from rfl)]
    refine ends_bind_ok (login_run hasked₂.clean fd henter) ?_
    rintro ret s₃ rfl
    rw [if_neg (not_not_intro rfl), List.forall_mem_singleton]
    exact ends_print_pure _
  | displaced row h hsel ha hend henter hf =>
    have htrue : SingleTerminalLogin.Loginer.counted (s.db.passwordRows u p).length = true := h.valid
    have hrow : s.db.active u = [row] := ha
    rw [hrow] at hcount ⊢
    refine ends_line (isValidUserNameAndPassWord_run hm hu hp hs h.answered) fun s₁ hasked => ?_
    rw [if_neg (lt_irrefl _), htrue, if_neg (show ¬ (!((0 : Int), true).2) = true from Bool.false_ne_true),
      if_pos rfl, List.forall_mem_cons]
    refine ends_line (hcount hasked fun hfails => absurd hok (hf.2 hfails).ne') fun s₂ hasked₂ => ?_
    obtain ⟨hdb₂, hq₂⟩ := hsecond hasked hasked₂
    rw [SingleTerminalLogin.Loginer.counted_eq (show [row].length < 2 ^ 31 by rw [List.length_singleton]; decide),
      if_neg (show ¬ (!decide ([row].length ≠ 0)) = true from Bool.false_ne_true)]
    exact displace_writes hm hu hq₂ hdb₂ hasked₂.clean ha hsel hend henter

variable (log) in
/-- A logout in which no statement fails. -/
theorem processLogout_writes (hm : Reading P m) (hu : P u) (hs : Clean s)
    (hok : (SingleTerminalLogin.Loginer.processLogout m u s).2.connection.failures = s.connection.failures) :
    Ends (processLogout log m u) s fun r _ => Returns r ↔ ∀ l ∈ logoutLines s.db u, log.Fits l := by
  have hnames : ∀ n ∈ (Stmt.selectLoginedId u).names, P n := by simpa [Stmt.names] using hu
  have hend := SingleTerminalLogin.Loginer.processLogout_asked hm hu hs
  rw [Ends] at hend
  generalize SingleTerminalLogin.Loginer.processLogout m u s = r at hok hend
  obtain ⟨r, s'⟩ := r
  cases hend with
  | unlocated h hf => exact absurd hok hf.ne'
  | endFailed row h hend hf => exact absurd hok hf.ne'
  | absent h ha hf =>
    have hnone : s.db.active u = [] := ha
    simp only [logoutLines, hnone, List.forall_mem_singleton]
    refine ends_read hm rfl hnames hs h fun rows s₁ _ hperm _ => ?_
    rw [Stmt.rows, hnone, List.map_nil, List.perm_nil] at hperm
    subst hperm
    rw [if_pos (show [].length ≤ 0 from le_rfl)]
    exact ends_print_pure _
  | ended row hfirst hend hf =>
    obtain ⟨hrow, rest, hanswer⟩ := hfirst
    have hnot : ¬ m.Fails s.connection.queries (.selectLoginedId u) s.db := not_fails_of_done hanswer
    have hlines : logoutLines s.db u = [⟨.loginer, 134, [], rfl⟩] := by
      rw [logoutLines]
      cases hactive : s.db.active u with
      | nil => exact absurd hrow (by rw [show s.connection.db.active u = [] from hactive]; exact List.not_mem_nil)
      | cons first others => rfl
    rw [hlines, List.forall_mem_singleton]
    refine ends_read hm rfl hnames hs hnot fun rows s₁ hdone _ hasked => ?_
    cases hdone.symm.trans hanswer
    obtain ⟨hdb₁, hq₁⟩ := asked_read hm rfl hnames hasked
    have hupdate : ¬ m.Fails s₁.connection.queries
        (.updateStatus (readInt (natText row.fuiId))) s₁.db := by
      rw [hq₁, hdb₁]
      exact hend
    rw [if_neg (by simp)]
    refine ends_assert (fun _ => ?_) (fun h => absurd rfl h)
    refine ends_bind_ok (R := fun a s'' => a = natText row.fuiId ∧ s'' = s₁) ⟨_, rfl, rfl, rfl⟩ ?_
    rintro id s'' ⟨rfl, rfl⟩
    refine ends_bind_ok (R := fun ret _ => ret = 0) ?_ ?_
    · exact (ends_written (update_asked hasked.clean) hupdate).imp fun r s'' hr => ⟨0, hr.1, rfl⟩
    rintro ret s₂ rfl
    rw [if_neg (not_not_intro rfl)]
    exact ends_print_pure _

end

end Loginer

end Logged

end SingleTerminalLogin
