import SingleTerminalLogin.LoginManager.Register

/-!
# Operations that fail half way

A login that takes the place of another session is two writes without a
transaction.  Nothing is assumed here of the server but that a statement that
failed, or that only reads, leaves the tables as they were (`Undone`).

* `Displaces` — what the server answers to a login that gets as far as the two
  writes;
* `LoginCourse`, `processLogin_course` — what a login answers and leaves, by how
  far it got;
* `failed_changes_nothing_iff` — an operation that fails has changed nothing,
  but for a login whose first write goes through and whose second does not.
-/

namespace SingleTerminalLogin

open ByteText CProgram Proc SqlApi Loginer Register

/-- The statement only reads. -/
def Stmt.reads : Stmt → Bool
  | .countPassword _ _ | .countLogined _ | .selectLogined _ | .selectLoginedId _ | .countRegist _ => true
  | .insertLogin _ _ _ _ | .updateStatus _ | .insertPassword _ _ _ => false

/-- A statement whose names satisfy `P` leaves the tables as they were when it only
reads and when it fails. -/
def Undone (P : Text → Prop) (m : Mysql) : Prop :=
  ∀ t stmt db, (∀ n ∈ stmt.names, P n) → stmt.reads = true ∨ m.Fails t stmt db →
    (m.query t stmt db).2 = db

theorem Stmt.Effect.eq_of_reads {stmt : Stmt} {db db' : Db} (h : stmt.Effect db db')
    (hreads : stmt.reads = true) : db' = db := by
  cases stmt with
  | insertLogin u p fd time => cases hreads
  | updateStatus id => cases hreads
  | insertPassword u p time => cases hreads
  | countPassword u p => exact h
  | countLogined u => exact h
  | selectLogined u => exact h
  | selectLoginedId u => exact h
  | countRegist u => exact h

/-- A server that executes statements as they are meant is one of these, if its
failed statements did not happen. -/
theorem ServedBy.undone {P : Text → Prop} {m : Mysql} (hm : ServedBy False P m) : Undone P m := by
  intro t stmt db hP h
  have hex := hm.executes t stmt db hP
  cases ha : (m.query t stmt db).1 with
  | failed =>
    rw [ha] at hex
    rcases hex with hex | ⟨hex, -⟩
    · exact hex
    · exact hex.elim
  | done fieldsCount rows =>
    rw [ha] at hex
    rcases h with h | h
    · exact hex.1.eq_of_reads h
    · rw [Mysql.Fails, ha] at h
      cases h

/-! ## Statements, whatever the server answers -/

namespace SqlApi

/-- The statement was the next one sent. -/
structure Sent (m : Mysql) (stmt : Stmt) (s s' : SqlApi) : Prop where
  queries : s'.connection.queries = s.connection.queries + 1
  db : s'.db = (m.query s.connection.queries stmt s.db).2
  clean : Clean s'

section

variable {m : Mysql} {s : SqlApi} {stmt : Stmt}

theorem select_sent (hs : Clean s) :
    Ends (select m stmt) s fun r s' =>
      (r = .ok (-1) ∧ m.Fails s.connection.queries stmt s.db ∧ Sent m stmt s s') ∨
      (∃ fieldsCount rows, r = .ok 0 ∧
        m.answer s.connection.queries stmt s.db = .done fieldsCount rows ∧
        s'.mysqlResult = ⟨rows, rows.length, fieldsCount⟩ ∧
        Sent m stmt s { s' with mysqlResult := {} }) := by
  rw [select_eq]
  refine ends_bind_ok ask_ends ?_
  rintro a s' ⟨hres, hdb, -, hqueries, ha⟩
  cases a with
  | failed =>
    refine ends_pure (Or.inl ⟨rfl, Mysql.answer_eq_failed.1 ha.symm, hqueries, hdb, ?_⟩)
    rw [Clean, hres]
    exact hs
  | done fieldsCount rows =>
    refine ends_bind_ok (R := fun _ s'' => s'' = { s' with mysqlResult :=
      ⟨s'.mysqlResult.mysqlRowVec ++ rows, rows.length, fieldsCount⟩ }) ⟨(), rfl, rfl⟩ ?_
    rintro - s'' rfl
    refine ends_pure (Or.inr ⟨fieldsCount, rows, rfl, ha.symm, ?_, hqueries, hdb, rfl⟩)
    simp only [hres]
    rw [show s.mysqlResult.mysqlRowVec = [] from hs, List.nil_append]

/-- A read, whose answer is whatever the server says. -/
theorem ends_answer {β : Type} {bad : Proc SqlApi β} {k : MysqlResult → Proc SqlApi β}
    {Q : C β → SqlApi → Prop} (hs : Clean s)
    (hbad : ∀ s', m.Fails s.connection.queries stmt s.db → Sent m stmt s s' → Ends bad s' Q)
    (hk : ∀ fieldsCount rows s',
      m.answer s.connection.queries stmt s.db = .done fieldsCount rows → Sent m stmt s s' →
      Ends (k ⟨rows, rows.length, fieldsCount⟩) s' Q) :
    Ends (do
      let ret ← select m stmt
      if ret ≠ 0 then bad
      else do
        let r ← getResult
        k r) s Q := by
  refine ends_bind (select_sent hs) ?_ ?_
  · rintro ret s' (⟨hret, hfails, hsent⟩ | ⟨fieldsCount, rows, hret, hdone, hres, hsent⟩)
    · cases hret
      rw [if_pos (by decide)]
      exact hbad s' hfails hsent
    · cases hret
      rw [if_neg (by decide)]
      refine ends_bind_ok (R := fun r s'' => r = s'.mysqlResult ∧ s'' = { s' with mysqlResult := {} })
        ⟨_, rfl, rfl, rfl⟩ ?_
      rintro r s'' ⟨rfl, rfl⟩
      rw [hres]
      exact hk fieldsCount rows _ hdone hsent
  · rintro e s' (⟨he, -⟩ | ⟨-, -, he, -⟩)
    · cases he
    · cases he

/-- A write, which fails or goes through. -/
theorem insert_sent (hs : Clean s) :
    Ends (insert m stmt) s fun r s' => ∃ ret, r = .ok ret ∧ Sent m stmt s s' ∧
      (ret = -1 ∧ m.Fails s.connection.queries stmt s.db ∨
        ret = 0 ∧ ¬ m.Fails s.connection.queries stmt s.db) := by
  refine ends_bind_ok mysqlQuery_ends ?_
  rintro a s' ⟨hres, hdb, -, hqueries, ha⟩
  have hsent : Sent m stmt s s' := ⟨hqueries, hdb, by rw [Clean, hres]; exact hs⟩
  cases a with
  | failed => exact ends_pure ⟨_, rfl, hsent, Or.inl ⟨rfl, ha.symm⟩⟩
  | done fieldsCount rows =>
    refine ends_pure ⟨_, rfl, hsent, Or.inr ⟨rfl, ?_⟩⟩
    rw [Mysql.Fails, ← ha]
    exact Answer.noConfusion

theorem update_sent (hs : Clean s) :
    Ends (update m stmt) s fun r s' => ∃ ret, r = .ok ret ∧ Sent m stmt s s' ∧
      (ret = -1 ∧ m.Fails s.connection.queries stmt s.db ∨
        ret = 0 ∧ ¬ m.Fails s.connection.queries stmt s.db) :=
  insert_sent hs

/-- `mysqlRowVec[0][0]` of an answer that has to be one row with one column. -/
theorem ends_single {β : Type} {k : Text → Proc SqlApi β} {Q : C β → SqlApi → Prop}
    {fieldsCount : Nat} {rows : List (List Text)}
    (hk : ∀ t rest, fieldsCount = 1 → rows = [t :: rest] → Ends (k t) s Q)
    (hbad : ∀ e, (∀ t rest, fieldsCount = 1 → rows ≠ [t :: rest]) → Q (.error e) s) :
    Ends (do
      lift (assert ((⟨rows, rows.length, fieldsCount⟩ : MysqlResult).rowsCount = 1))
      lift (assert ((⟨rows, rows.length, fieldsCount⟩ : MysqlResult).fieldsCount = 1))
      let count ← field ⟨rows, rows.length, fieldsCount⟩ 0 0
      k count) s Q := by
  refine ends_assert (fun hlen => ?_) fun hlen => hbad _ fun t rest _ h => hlen ?_
  · refine ends_assert (fun hfields => ?_) fun hfields => hbad _ fun t rest h => absurd h hfields
    obtain ⟨row, rfl⟩ := List.length_eq_one_iff.1 hlen
    cases row with
    | nil =>
      refine hbad _ fun t rest _ h => ?_
      cases h
    | cons t rest => exact hk t rest hfields rfl
  · rw [h]
    rfl

end

end SqlApi

/-! ## How far a login gets -/

/-- The answer is a count. -/
def Answer.Counts (a : Answer) (t : Text) : Prop := ∃ rest, a = .done 1 [t :: rest]

/-- The answer is one session, with that number and that descriptor. -/
def Answer.Locates (a : Answer) (id : Nat) (d : Int) : Prop :=
  ∃ i f rest, a = .done 2 [i :: f :: rest] ∧ id = (readInt i % 2 ^ 64).toNat ∧ d = readInt f

theorem Answer.Counts.ne_failed {a : Answer} {t : Text} (h : a.Counts t) : a ≠ .failed := by
  obtain ⟨rest, rfl⟩ := h
  exact Answer.noConfusion

/-- A statement with such an answer does not fail. -/
theorem Answer.Counts.not_fails {m : Mysql} {number : Nat} {stmt : Stmt} {db : Db} {t : Text}
    (h : (m.answer number stmt db).Counts t) : ¬ m.Fails number stmt db :=
  fun hfails => h.ne_failed (Mysql.answer_eq_failed.2 hfails)

theorem Answer.Locates.not_fails {m : Mysql} {number : Nat} {stmt : Stmt} {db : Db} {id : Nat} {d : Int}
    (h : (m.answer number stmt db).Locates id d) : ¬ m.Fails number stmt db := by
  obtain ⟨i, f, rest, h, -⟩ := h
  rw [← Mysql.answer_eq_failed, h]
  exact Answer.noConfusion

theorem Answer.Counts.eq {a : Answer} {t t' : Text} (h : a.Counts t) (h' : a.Counts t') : t = t' := by
  obtain ⟨rest, rfl⟩ := h
  obtain ⟨rest', h'⟩ := h'
  cases h'
  rfl

namespace Loginer

section

variable (m : Mysql) (c : Connection) (u p : Text) (fd : Int)

/-- What the server answers to the first three statements of a login that goes on to
replace the session with the number `id`, on the descriptor `d`. -/
structure Displaces (id : Nat) (d : Int) : Prop where
  valid : ∃ t, (m.answer c.queries (.countPassword u p) c.db).Counts t ∧ readInt t ≠ 0
  /-- A select that fails counts as a session. -/
  logined : m.Fails (c.queries + 1) (.countLogined u) c.db ∨
    ∃ t, (m.answer (c.queries + 1) (.countLogined u) c.db).Counts t ∧ readInt t ≠ 0
  located : (m.answer (c.queries + 2) (.selectLogined u) c.db).Locates id d

/-- The update that ends the earlier session fails. -/
def EndFails (id : Nat) : Prop := m.Fails (c.queries + 3) (.updateStatus id) c.db

/-- The tables after this update. -/
def endedDb (id : Nat) : Db := (m.query (c.queries + 3) (.updateStatus id) c.db).2

/-- The statement that enters the session, the one of that number. -/
def enter (n : Nat) : Stmt := .insertLogin u p fd (m.time n)

/-- The insert after this update fails. -/
def EnterFails (id : Nat) : Prop :=
  m.Fails (c.queries + 4) (enter m u p fd (c.queries + 4)) (endedDb m c id)

/-- What a login answers, and the tables it leaves. -/
inductive LoginCourse : C LoginReply → Db → Prop where
  /-- It writes nothing. -/
  | stayed (r : C LoginReply) (h : ∀ id d, ¬ Displaces m c u p id d)
      (ha : ∀ a, r = .ok a → a.logoutFd = -1) : LoginCourse r c.db
  /-- A first session. -/
  | entered (h : ∀ id d, ¬ Displaces m c u p id d)
      (henter : ¬ m.Fails (c.queries + 2) (enter m u p fd (c.queries + 2)) c.db) :
      LoginCourse (.ok ⟨⟨0, .SUCCESS, ascii "login success!"⟩, -1⟩)
        (m.query (c.queries + 2) (enter m u p fd (c.queries + 2)) c.db).2
  /-- The earlier session is replaced. -/
  | displaced (id : Nat) (d : Int) (h : Displaces m c u p id d) (hend : ¬ EndFails m c id)
      (henter : ¬ EnterFails m c u p fd id) :
      LoginCourse (.ok ⟨⟨0, .SUCCESS, ascii "login success!"⟩, d⟩)
        (m.query (c.queries + 4) (enter m u p fd (c.queries + 4)) (endedDb m c id)).2
  /-- It could not be ended. -/
  | endFailed (id : Nat) (d : Int) (h : Displaces m c u p id d) (hend : EndFails m c id) :
      LoginCourse (.ok ⟨⟨-1, .SYSTEM_ERROR, ascii "system error: update DB data failed!"⟩, d⟩) c.db
  /-- It is ended, and the new one could not be entered. -/
  | enterFailed (id : Nat) (d : Int) (h : Displaces m c u p id d) (hend : ¬ EndFails m c id)
      (henter : EnterFails m c u p fd id) :
      LoginCourse (.ok ⟨⟨-1, .SYSTEM_ERROR, ascii "system error: update DB data failed!"⟩, d⟩)
        (endedDb m c id)

end

section

variable {P : Text → Prop} {m : Mysql} {s : SqlApi} {u p : Text}

theorem isValidUserNameAndPassWord_sent (hs : Clean s) :
    Ends (isValidUserNameAndPassWord m u p) s fun r s' => Sent m (.countPassword u p) s s' ∧
      ((∃ e, r = .error e ∧ ∀ t, ¬ (m.answer s.connection.queries (.countPassword u p) s.db).Counts t) ∨
        (r = .ok (-1, false) ∧ m.Fails s.connection.queries (.countPassword u p) s.db) ∨
        (∃ t, (m.answer s.connection.queries (.countPassword u p) s.db).Counts t ∧
          r = .ok (0, decide (readInt t ≠ 0)))) := by
  refine ends_answer hs ?_ fun fieldsCount rows s' hdone hsent => ends_single ?_ ?_
  · exact fun s' hfails hsent => ends_pure ⟨hsent, Or.inr (Or.inl ⟨rfl, hfails⟩)⟩
  · rintro t rest rfl rfl
    exact ends_pure ⟨hsent, Or.inr (Or.inr ⟨t, ⟨rest, hdone⟩, rfl⟩)⟩
  · refine fun e hno => ⟨hsent, Or.inl ⟨e, rfl, ?_⟩⟩
    rintro t ⟨rest, h⟩
    rw [hdone] at h
    cases h
    exact hno t rest rfl rfl

theorem isAlreadyLogined_sent (hs : Clean s) :
    Ends (isAlreadyLogined m u) s fun r s' => Sent m (.countLogined u) s s' ∧
      ((∃ e, r = .error e ∧ ¬ m.Fails s.connection.queries (.countLogined u) s.db ∧
          ∀ t, ¬ (m.answer s.connection.queries (.countLogined u) s.db).Counts t) ∨
        (r = .ok true ∧ m.Fails s.connection.queries (.countLogined u) s.db) ∨
        (∃ t, (m.answer s.connection.queries (.countLogined u) s.db).Counts t ∧
          r = .ok (decide (readInt t ≠ 0)))) := by
  refine ends_answer hs ?_ fun fieldsCount rows s' hdone hsent => ends_single ?_ ?_
  · exact fun s' hfails hsent => ends_pure ⟨hsent, Or.inr (Or.inl ⟨rfl, hfails⟩)⟩
  · rintro t rest rfl rfl
    exact ends_pure ⟨hsent, Or.inr (Or.inr ⟨t, ⟨rest, hdone⟩, rfl⟩)⟩
  · refine fun e hno => ⟨hsent, Or.inl ⟨e, rfl, ?_, ?_⟩⟩
    · rw [← Mysql.answer_eq_failed, hdone]
      exact Answer.noConfusion
    · rintro t ⟨rest, h⟩
      rw [hdone] at h
      cases h
      exact hno t rest rfl rfl

theorem getAlreadyLoginedClientFd_sent (hs : Clean s) :
    Ends (getAlreadyLoginedClientFd m u) s fun r s' => Sent m (.selectLogined u) s s' ∧
      (((∃ e, r = .error e) ∧
          ∀ id d, ¬ (m.answer s.connection.queries (.selectLogined u) s.db).Locates id d) ∨
        (r = .ok (-1, 0, 0) ∧ m.Fails s.connection.queries (.selectLogined u) s.db) ∨
        (∃ id d, (m.answer s.connection.queries (.selectLogined u) s.db).Locates id d ∧
          r = .ok (0, d, id))) := by
  refine ends_answer hs ?_ fun fieldsCount rows s' hdone hsent => ?_
  · exact fun s' hfails hsent => ends_pure ⟨hsent, Or.inr (Or.inl ⟨rfl, hfails⟩)⟩
  have hbad : ∀ e : Fault, (∀ i f rest, fieldsCount = 2 → rows ≠ [i :: f :: rest]) →
      Sent m (.selectLogined u) s s' ∧
      (((∃ e', (.error e : C (Int × Int × Nat)) = .error e') ∧
          ∀ id d, ¬ (m.answer s.connection.queries (.selectLogined u) s.db).Locates id d) ∨
        ((.error e : C (Int × Int × Nat)) = .ok (-1, 0, 0) ∧
          m.Fails s.connection.queries (.selectLogined u) s.db) ∨
        (∃ id d, (m.answer s.connection.queries (.selectLogined u) s.db).Locates id d ∧
          (.error e : C (Int × Int × Nat)) = .ok (0, d, id))) := by
    refine fun e hno => ⟨hsent, Or.inl ⟨⟨e, rfl⟩, ?_⟩⟩
    rintro id d ⟨i, f, rest, h, -⟩
    rw [hdone] at h
    cases h
    exact hno i f rest rfl rfl
  refine ends_assert (fun hlen => ?_) fun hlen => hbad _ fun i f rest _ h => hlen ?_
  · refine ends_assert (fun hfields => ?_) fun hfields => hbad _ fun i f rest h => absurd h hfields
    obtain ⟨row, rfl⟩ := List.length_eq_one_iff.1 hlen
    cases row with
    | nil => exact hbad .memory fun i f rest _ h => by cases h
    | cons i row =>
      cases row with
      | nil => exact hbad .memory fun i' f rest _ h => by cases h
      | cons f rest =>
        have hlocates : (m.answer s.connection.queries (.selectLogined u) s.db).Locates
            (readInt i % 2 ^ 64).toNat (readInt f) := by
          refine ⟨i, f, rest, ?_, rfl, rfl⟩
          rw [hdone]
          exact congrArg (Answer.done · _) hfields
        exact ends_pure ⟨hsent, Or.inr (Or.inr ⟨_, _, hlocates, rfl⟩)⟩
  · rw [h]
    rfl

theorem login_sent (hs : Clean s) (fd : Int) :
    Ends (login m u p fd) s fun r s' => ∃ ret, r = .ok ret ∧
      Sent m (enter m u p fd s.connection.queries) s s' ∧
      (ret = -1 ∧ m.Fails s.connection.queries (enter m u p fd s.connection.queries) s.db ∨
        ret = 0 ∧ ¬ m.Fails s.connection.queries (enter m u p fd s.connection.queries) s.db) := by
  refine ends_bind_ok (R := fun t s' => t = m.time s.connection.queries ∧ s' = s) ⟨_, rfl, rfl, rfl⟩ ?_
  rintro time s' ⟨rfl, rfl⟩
  refine ends_bind_ok (insert_sent hs) ?_
  rintro ret s'' ⟨hsent, ⟨rfl, h⟩ | ⟨rfl, h⟩⟩
  · rw [if_pos (by decide)]
    exact ends_pure ⟨_, rfl, hsent, Or.inl ⟨rfl, h⟩⟩
  · rw [if_neg (by decide)]
    exact ends_pure ⟨_, rfl, hsent, Or.inr ⟨rfl, h⟩⟩

theorem setLogoutStatusThenLogin_sent (hs : Clean s) (id : Nat) (fd : Int) :
    Ends (setLogoutStatusThenLogin m id u p fd) s fun r s' => ∃ ret, r = .ok ret ∧
      ((ret = -1 ∧ m.Fails s.connection.queries (.updateStatus id) s.db ∧
          Sent m (.updateStatus id) s s') ∨
        ¬ m.Fails s.connection.queries (.updateStatus id) s.db ∧
          ∃ s₁, Sent m (.updateStatus id) s s₁ ∧ Sent m (enter m u p fd s₁.connection.queries) s₁ s' ∧
            (ret = -1 ∧ m.Fails s₁.connection.queries (enter m u p fd s₁.connection.queries) s₁.db ∨
              ret = 0 ∧
                ¬ m.Fails s₁.connection.queries (enter m u p fd s₁.connection.queries) s₁.db)) := by
  refine ends_bind_ok (update_sent hs) ?_
  rintro ret s₁ ⟨hsent, ⟨rfl, h⟩ | ⟨rfl, h⟩⟩
  · rw [if_pos (by decide)]
    exact ends_pure ⟨_, rfl, Or.inl ⟨rfl, h, hsent⟩⟩
  · rw [if_neg (by decide)]
    refine (login_sent hsent.clean fd).imp ?_
    rintro r s' ⟨ret, rfl, hsent', h'⟩
    exact ⟨ret, rfl, Or.inr ⟨h, s₁, hsent, hsent', h'⟩⟩

/-- The end of `processLogin` for a session that was found: it is ended, and the login entered. -/
theorem replace_course (hm : Undone P m) (hu : P u) (hp : P p) (fd : Int) {id : Nat} {d : Int} {s₃ : SqlApi}
    (hdis : Displaces m s.connection u p id d) (hq₃ : s₃.connection.queries = s.connection.queries + 3)
    (hdb₃ : s₃.db = s.db) (hclean : Clean s₃) :
    Ends (do
      let ret ← setLogoutStatusThenLogin m id u p fd
      if ret ≠ 0 then
        pure ⟨⟨-1, .SYSTEM_ERROR, ascii "system error: update DB data failed!"⟩, d⟩
      else pure ⟨⟨0, .SUCCESS, ascii "login success!"⟩, d⟩) s₃
      fun r s' => LoginCourse m s.connection u p fd r s'.db := by
  refine ends_bind_ok (setLogoutStatusThenLogin_sent hclean id fd) ?_
  rw [hq₃, hdb₃]
  rintro ret s₅ (⟨rfl, hend, hsent₅⟩ | ⟨hend, s₄, hsent₄, hsent₅, hret⟩)
  · rw [if_pos (by decide)]
    refine ends_pure ?_
    rw [hsent₅.db, hq₃, hdb₃, hm _ _ _ (fun n hn => by cases hn) (Or.inr hend)]
    exact .endFailed id d hdis hend
  have hq₄ : s₄.connection.queries = s.connection.queries + 4 := by
    rw [hsent₄.queries, hq₃]
  have hdb₄ : s₄.db = endedDb m s.connection id := by
    rw [hsent₄.db, hq₃, hdb₃]
    rfl
  rw [hq₄, hdb₄] at hret
  have hdb₅ := hsent₅.db
  rw [hq₄, hdb₄] at hdb₅
  rcases hret with ⟨rfl, henter⟩ | ⟨rfl, henter⟩
  · rw [if_pos (by decide)]
    refine ends_pure ?_
    have hnames : ∀ n ∈ (enter m u p fd (s.connection.queries + 4)).names, P n := by
      simpa [enter, Stmt.names] using ⟨hu, hp⟩
    rw [hdb₅, hm _ _ _ hnames (Or.inr henter)]
    exact .enterFailed id d hdis hend henter
  · rw [if_neg (by decide)]
    refine ends_pure ?_
    rw [hdb₅]
    exact .displaced id d hdis hend henter

/-- The second half of `processLogin`, for a user who counts as logged in. -/
theorem displace_course (hm : Undone P m) (hu : P u) (hp : P p) (fd : Int) {s₂ : SqlApi}
    (hq : s₂.connection.queries = s.connection.queries + 2) (hdb : s₂.db = s.db) (hclean : Clean s₂)
    (hvalid : ∃ t, (m.answer s.connection.queries (.countPassword u p) s.db).Counts t ∧
      readInt t ≠ 0)
    (hlogined : m.Fails (s.connection.queries + 1) (.countLogined u) s.db ∨
      ∃ t, (m.answer (s.connection.queries + 1) (.countLogined u) s.db).Counts t ∧
        readInt t ≠ 0) :
    Ends (do
      let r ← getAlreadyLoginedClientFd m u
      if r.1 ≠ 0 then
        pure ⟨⟨-1, .SYSTEM_ERROR, ascii "system error: Get already logined client fd failed!"⟩, -1⟩
      else do
        let logoutFd := r.2.1
        let ret ← setLogoutStatusThenLogin m r.2.2 u p fd
        if ret ≠ 0 then
          pure ⟨⟨-1, .SYSTEM_ERROR, ascii "system error: update DB data failed!"⟩, logoutFd⟩
        else pure ⟨⟨0, .SUCCESS, ascii "login success!"⟩, logoutFd⟩) s₂
      fun r s' => LoginCourse m s.connection u p fd r s'.db := by
  have hstay : ∀ (s₃ : SqlApi), Sent m (.selectLogined u) s₂ s₃ → s₃.db = s.db := by
    intro s₃ hsent
    rw [hsent.db, hm _ _ _ (by simpa [Stmt.names] using hu) (Or.inl rfl), hdb]
  have hno : (∀ id d, ¬ (m.answer s₂.connection.queries (.selectLogined u) s₂.db).Locates id d) →
      ∀ id d, ¬ Displaces m s.connection u p id d := by
    intro h id d hdis
    apply h id d
    rw [hq, hdb]
    exact hdis.located
  refine ends_bind (getAlreadyLoginedClientFd_sent hclean) ?_ ?_
  · rintro a s₃ ⟨hsent, ⟨⟨e, he⟩, -⟩ | ⟨ha, hfails⟩ | ⟨id, d, hlocates, ha⟩⟩
    · cases he
    · cases ha
      rw [if_pos (by decide)]
      refine ends_pure ?_
      rw [hstay s₃ hsent]
      refine .stayed _ (hno fun id d h => ?_) (fun a ha => ?_)
      · exact absurd hfails h.not_fails
      · cases ha
        rfl
    · cases ha
      rw [hq, hdb] at hlocates
      have hdis : Displaces m s.connection u p id d := ⟨hvalid, hlogined, hlocates⟩
      have hq₃ : s₃.connection.queries = s.connection.queries + 3 := by
        rw [hsent.queries, hq]
      have hdb₃ := hstay s₃ hsent
      rw [if_neg (not_not_intro rfl)]
      exact replace_course hm hu hp fd hdis hq₃ hdb₃ hsent.clean
  · rintro e s₃ ⟨hsent, ⟨-, hlocates⟩ | ⟨ha, -⟩ | ⟨id, d, -, ha⟩⟩
    · rw [hstay s₃ hsent]
      exact .stayed _ (hno hlocates) (fun a ha => by cases ha)
    · cases ha
    · cases ha

/-- A login goes on to replace a session only when its password was counted, and not as zero. -/
theorem Displaces.checked {c : Connection} {id : Nat} {d : Int} (h : Displaces m c u p id d) :
    ¬ m.Fails c.queries (.countPassword u p) c.db ∧
      ∀ t, (m.answer c.queries (.countPassword u p) c.db).Counts t → readInt t ≠ 0 := by
  obtain ⟨t, ht, hcount⟩ := h.valid
  exact ⟨ht.not_fails, fun t' ht' => ht.eq ht' ▸ hcount⟩

/-- And only when its sessions were not counted as zero. -/
theorem Displaces.logined_of_counts {c : Connection} {id : Nat} {d : Int} {t : Text} (h : Displaces m c u p id d)
    (ht : (m.answer (c.queries + 1) (.countLogined u) c.db).Counts t) : readInt t ≠ 0 := by
  rcases h.logined with hfails | ⟨t', ht', hcount⟩
  · exact absurd hfails ht.not_fails
  · exact ht'.eq ht ▸ hcount

/-- The end of `processLogin` for a user who does not count as logged in: the login is entered. -/
theorem enter_course (hm : Undone P m) (hu : P u) (hp : P p) (fd : Int) {s₂ : SqlApi}
    (hq₂ : s₂.connection.queries = s.connection.queries + 2) (hdb₂ : s₂.db = s.db) (hclean : Clean s₂)
    (hno : ∀ id d, ¬ Displaces m s.connection u p id d) :
    Ends (do
      let ret ← login m u p fd
      if ret ≠ 0 then
        pure ⟨⟨-1, .DB_OP_FAILED, ascii "system error: insert data into DB failed!"⟩, -1⟩
      else pure ⟨⟨0, .SUCCESS, ascii "login success!"⟩, -1⟩) s₂
      fun r s' => LoginCourse m s.connection u p fd r s'.db := by
  refine ends_bind_ok (login_sent hclean fd) fun ret s₃ h => ?_
  rw [hq₂, hdb₂] at h
  obtain ⟨hsent₃, ⟨rfl, henter⟩ | ⟨rfl, henter⟩⟩ := h
  · rw [if_pos (by decide)]
    refine ends_pure ?_
    have hnames : ∀ n ∈ (enter m u p fd (s.connection.queries + 2)).names, P n := by
      simpa [enter, Stmt.names] using ⟨hu, hp⟩
    rw [hsent₃.db, hq₂, hdb₂, hm _ _ _ hnames (Or.inr henter)]
    exact .stayed _ hno (fun a ha => by cases ha; rfl)
  · rw [if_neg (by decide)]
    refine ends_pure ?_
    rw [hsent₃.db, hq₂, hdb₂]
    exact .entered hno henter

/-- A login answers and leaves what `LoginCourse` says. -/
theorem processLogin_course (hm : Undone P m) (hu : P u) (hp : P p) (hs : Clean s) (fd : Int) :
    Ends (processLogin m u p fd) s fun r s' => LoginCourse m s.connection u p fd r s'.db := by
  have hkeep : ∀ t stmt, stmt.reads = true → (∀ n ∈ stmt.names, P n) →
      (m.query t stmt s.db).2 = s.db := fun t stmt hreads hnames => hm t stmt s.db hnames (Or.inl hreads)
  refine ends_bind (isValidUserNameAndPassWord_sent hs) ?_ ?_
  swap
  · rintro e s₁ ⟨hsent, ⟨e', he, hno⟩ | ⟨he, -⟩ | ⟨t, -, he⟩⟩
    · rw [hsent.db, hkeep _ _ rfl (by simpa [Stmt.names] using ⟨hu, hp⟩)]
      refine .stayed _ (fun id d h => ?_) (fun a ha => by cases ha)
      obtain ⟨t, ht, -⟩ := h.valid
      exact hno t ht
    · cases he
    · cases he
  rintro a s₁ ⟨hsent, ha⟩
  have hdb₁ : s₁.db = s.db := by
    rw [hsent.db, hkeep _ _ rfl (by simpa [Stmt.names] using ⟨hu, hp⟩)]
  rcases ha with ⟨e, he, -⟩ | ⟨ha, hfails⟩ | ⟨t, ht, ha⟩
  · cases he
  · cases ha
    rw [if_pos (by decide)]
    refine ends_pure ?_
    rw [hdb₁]
    exact .stayed _ (fun id d h => h.checked.1 hfails) (fun a ha => by cases ha; rfl)
  cases ha
  rw [if_neg (show ¬ ((0 : Int) < 0) by decide)]
  by_cases hcount : readInt t ≠ 0
  swap
  · rw [decide_eq_false hcount, if_pos (by decide)]
    refine ends_pure ?_
    rw [hdb₁]
    exact .stayed _ (fun id d h => hcount (h.checked.2 t ht)) (fun a ha => by cases ha; rfl)
  rw [decide_eq_true hcount, if_neg (by decide)]
  have hvalid : ∃ t, (m.answer s.connection.queries (.countPassword u p) s.db).Counts t ∧
      readInt t ≠ 0 := ⟨t, ht, hcount⟩
  refine ends_bind (isAlreadyLogined_sent hsent.clean) ?_ ?_
  swap
  · rintro e s₂ ⟨hsent₂, ⟨e', he, hfails, hno⟩ | ⟨he, -⟩ | ⟨t, -, he⟩⟩
    · rw [hsent₂.db, hdb₁, hkeep _ _ rfl (by simpa [Stmt.names] using hu)]
      rw [hsent.queries, hdb₁] at hfails hno
      refine .stayed _ (fun id d h => ?_) (fun a ha => by cases ha)
      rcases h.logined with h | ⟨t, h, -⟩
      · exact hfails h
      · exact hno t h
    · cases he
    · cases he
  rintro b s₂ ⟨hsent₂, hb⟩
  rw [hsent.queries, hdb₁] at hb
  have hdb₂ : s₂.db = s.db := by
    rw [hsent₂.db, hdb₁, hkeep _ _ rfl (by simpa [Stmt.names] using hu)]
  have hq₂ : s₂.connection.queries = s.connection.queries + 2 := by
    rw [hsent₂.queries, hsent.queries]
  rcases hb with ⟨e, he, -⟩ | ⟨hb, hfails⟩ | ⟨t', ht', hb⟩
  · cases he
  · cases hb
    rw [if_neg (by decide)]
    exact displace_course hm hu hp fd hq₂ hdb₂ hsent₂.clean hvalid (Or.inl hfails)
  by_cases hcount' : readInt t' ≠ 0
  · rw [decide_eq_true hcount'] at hb
    cases hb
    rw [if_neg (by decide)]
    exact displace_course hm hu hp fd hq₂ hdb₂ hsent₂.clean hvalid (Or.inr ⟨t', ht', hcount'⟩)
  rw [decide_eq_false hcount'] at hb
  cases hb
  rw [if_pos (by decide)]
  have hno : ∀ id d, ¬ Displaces m s.connection u p id d := fun id d h => hcount' (h.logined_of_counts ht')
  exact enter_course hm hu hp fd hq₂ hdb₂ hsent₂.clean hno

/-- A logout that fails has written nothing. -/
theorem processLogout_sent (hm : Undone P m) (hu : P u) (hs : Clean s) :
    Ends (processLogout m u) s fun r s' => ∀ a, r = .ok a → a.ret ≠ 0 → s'.db = s.db := by
  have hkeep : ∀ s', Sent m (.selectLoginedId u) s s' → s'.db = s.db := by
    intro s' hsent
    rw [hsent.db, hm _ _ _ (by simpa [Stmt.names] using hu) (Or.inl rfl)]
  refine ends_answer hs (fun s' _ hsent => ends_pure fun a _ _ => hkeep s' hsent)
    fun fieldsCount rows s₁ hdone hsent => ?_
  cases rows with
  | nil =>
    rw [if_pos (show [].length ≤ 0 from le_rfl)]
    exact ends_pure fun a _ _ => hkeep s₁ hsent
  | cons row rows =>
    rw [if_neg (by simp)]
    refine ends_assert (fun _ => ?_) fun _ a ha => by cases ha
    cases row with
    | nil => exact fun a ha => by cases ha
    | cons i row =>
      refine ends_bind_ok (R := fun a s'' => a = i ∧ s'' = s₁) ⟨_, rfl, rfl, rfl⟩ ?_
      rintro id s'' ⟨rfl, rfl⟩
      refine ends_bind_ok (update_sent hsent.clean) ?_
      rintro ret s₂ ⟨hsent₂, ⟨rfl, hfails⟩ | ⟨rfl, -⟩⟩
      · rw [if_pos (by decide)]
        refine ends_pure fun a _ _ => ?_
        rw [hsent₂.db, hm _ _ _ (fun n hn => by cases hn) (Or.inr hfails)]
        exact hkeep s'' hsent
      · rw [if_neg (by decide)]
        refine ends_pure fun a ha hret => ?_
        cases ha
        exact absurd rfl hret

end

end Loginer

namespace Register

variable {P : Text → Prop} {m : Mysql} {s : SqlApi} {u p : Text}

/-- A registration that fails has written nothing. -/
theorem processRegist_sent (hm : Undone P m) (hu : P u) (hp : P p) (hs : Clean s) (msg : Text) :
    Ends (processRegist m u p msg) s fun r s' => ∀ a, r = .ok a → a.ret ≠ 0 → s'.db = s.db := by
  have hread : Ends (isAlreadyRegist m u) s fun _ s' => Clean s' ∧ s'.db = s.db := by
    have hkeep : ∀ s', Sent m (.countRegist u) s s' → Clean s' ∧ s'.db = s.db := by
      intro s' hsent
      rw [hsent.db, hm _ _ _ (by simpa [Stmt.names] using hu) (Or.inl rfl)]
      exact ⟨hsent.clean, rfl⟩
    refine ends_answer hs (fun s' _ hsent => ends_pure (hkeep s' hsent))
      fun fieldsCount rows s' _ hsent => ends_single ?_ fun _ _ => hkeep s' hsent
    exact fun t rest _ _ => ends_pure (hkeep s' hsent)
  refine ends_bind hread ?_ fun e s' _ a ha => by cases ha
  rintro r s₁ ⟨hclean, hdb⟩
  split
  · exact ends_pure fun a _ _ => hdb
  split
  · exact ends_pure fun a _ _ => hdb
  have hwrite : Ends (regist m u p) s₁ fun r s' => ∃ ret, r = .ok ret ∧ (ret ≠ 0 → s'.db = s.db) := by
    refine ends_bind_ok (R := fun _ s' => s' = s₁) ⟨_, rfl, rfl⟩ ?_
    rintro time s' rfl
    refine ends_bind_ok (insert_sent hclean) ?_
    rintro ret s₂ ⟨hsent, ⟨rfl, hfails⟩ | ⟨rfl, -⟩⟩
    · rw [if_pos (by decide)]
      refine ends_pure ⟨_, rfl, fun _ => ?_⟩
      rw [hsent.db, hm _ _ _ (by simpa [Stmt.names] using ⟨hu, hp⟩) (Or.inr hfails), hdb]
    · rw [if_neg (by decide)]
      exact ends_pure ⟨_, rfl, fun h => absurd rfl h⟩
  refine ends_bind_ok hwrite ?_
  intro ret s₂ h
  by_cases hret : ret ≠ 0
  · rw [if_pos hret]
    exact ends_pure fun a _ _ => h hret
  · rw [if_neg hret]
    refine ends_pure fun a ha hne => ?_
    cases ha
    exact absurd rfl hne

end Register

/-! ## What a failed operation leaves -/

/-- Where the call returns a value that is not zero, the tables are as before. -/
def FailsUnchanged {α : Type} (ret : α → Int) (x : Proc SqlApi α) (c : Connection) : Prop :=
  ∀ a s', x { connection := c } = (.ok a, s') → ret a ≠ 0 → s'.db = c.db

/-- The login of a user who is logged in ends the earlier session and cannot enter the
new one. -/
def HalfDone (m : Mysql) (c : Connection) (u p : Text) (fd : Int) : Prop :=
  ∃ id d, Displaces m c u p id d ∧ ¬ EndFails m c id ∧ EnterFails m c u p fd id ∧
    endedDb m c id ≠ c.db

section

variable {P : Text → Prop} {m : Mysql} {c : Connection} {u p : Text} {fd : Int}

theorem Answer.Locates.eq {a : Answer} {id id' : Nat} {d d' : Int} (h : a.Locates id d)
    (h' : a.Locates id' d') : id = id' ∧ d = d' := by
  obtain ⟨i, f, rest, ha, hid, hd⟩ := h
  obtain ⟨i', f', rest', ha', hid', hd'⟩ := h'
  rw [ha] at ha'
  cases ha'
  exact ⟨hid.trans hid'.symm, hd.trans hd'.symm⟩

/-- A login that displaces a session takes one of three courses. -/
theorem Loginer.Displaces.course {id : Nat} {d : Int} {r : C LoginReply} {db' : Db}
    (h : Displaces m c u p id d) (hcourse : LoginCourse m c u p fd r db') :
    (r = .ok ⟨⟨0, .SUCCESS, ascii "login success!"⟩, d⟩ ∧ ¬ EndFails m c id ∧
        ¬ EnterFails m c u p fd id ∧
        db' = (m.query (c.queries + 4) (enter m u p fd (c.queries + 4)) (endedDb m c id)).2) ∨
      (r = .ok ⟨⟨-1, .SYSTEM_ERROR, ascii "system error: update DB data failed!"⟩, d⟩ ∧
        (EndFails m c id ∧ db' = c.db ∨
          ¬ EndFails m c id ∧ EnterFails m c u p fd id ∧ db' = endedDb m c id)) := by
  cases hcourse with
  | stayed r hno => exact absurd h (hno id d)
  | entered hno => exact absurd h (hno id d)
  | displaced id' d' h' hend henter =>
    obtain ⟨rfl, rfl⟩ := h.located.eq h'.located
    exact Or.inl ⟨rfl, hend, henter, rfl⟩
  | endFailed id' d' h' hend =>
    obtain ⟨rfl, rfl⟩ := h.located.eq h'.located
    exact Or.inr ⟨rfl, Or.inl ⟨hend, rfl⟩⟩
  | enterFailed id' d' h' hend henter =>
    obtain ⟨rfl, rfl⟩ := h.located.eq h'.located
    exact Or.inr ⟨rfl, Or.inr ⟨hend, henter, rfl⟩⟩

theorem HalfDone.changes (hm : Undone P m) (hu : P u) (hp : P p) (h : HalfDone m c u p fd) :
    ¬ FailsUnchanged (·.ret) (processLogin m u p fd) c := by
  obtain ⟨id, d, hdis, hend, henter, hne⟩ := h
  have hcourse := processLogin_course hm hu hp (s := { connection := c }) rfl fd
  cases hrun : processLogin m u p fd { connection := c } with
  | mk r s' =>
    rw [Ends, hrun] at hcourse
    rcases hdis.course hcourse with ⟨-, -, h, -⟩ | ⟨rfl, ⟨h, -⟩ | ⟨-, -, hdb⟩⟩
    · exact absurd henter h
    · exact absurd h hend
    · intro hunchanged
      refine hne (hdb.symm.trans (hunchanged _ s' hrun ?_))
      show (-1 : Int) ≠ 0
      decide

theorem failsUnchanged_of_not_halfDone (hm : Undone P m) (hu : P u) (hp : P p)
    (h : ¬ HalfDone m c u p fd) : FailsUnchanged (·.ret) (processLogin m u p fd) c := by
  intro a s' hrun hret
  have hcourse := processLogin_course hm hu hp (s := { connection := c }) rfl fd
  rw [Ends, hrun] at hcourse
  revert hcourse
  generalize hr : (Except.ok a : C LoginReply) = r
  generalize s'.db = db'
  intro hcourse
  cases hcourse with
  | stayed r hno ha => rfl
  | entered hno henter =>
    cases hr
    exact absurd rfl hret
  | displaced id d hdis hend henter =>
    cases hr
    exact absurd rfl hret
  | endFailed id d hdis hend => rfl
  | enterFailed id d hdis hend henter =>
    by_contra hne
    exact h ⟨id, d, hdis, hend, henter, hne⟩

end

/-- A registration or a logout that fails has changed nothing, whatever statements
fail.  A login has changed nothing exactly when it is not a half done one. -/
theorem failed_changes_nothing_iff (m : Mysql) (c : Connection) (u p msg : Text) (fd : Int)
    (hm : Undone (fun _ => True) m) :
    (FailsUnchanged (·.ret) (processLogin m u p fd) c ↔ ¬ HalfDone m c u p fd) ∧
      FailsUnchanged (·.ret) (processLogout m u) c ∧
      FailsUnchanged (·.ret) (processRegist m u p msg) c := by
  refine ⟨⟨fun h hhalf => hhalf.changes hm trivial trivial h,
    failsUnchanged_of_not_halfDone hm trivial trivial⟩, ?_, ?_⟩
  · intro a s' hrun
    have h := processLogout_sent hm (u := u) trivial (s := { connection := c }) rfl
    rw [Ends, hrun] at h
    exact h a rfl
  · intro a s' hrun
    have h := processRegist_sent hm (u := u) (p := p) trivial trivial (s := { connection := c }) rfl msg
    rw [Ends, hrun] at h
    exact h a rfl

/-- The same server, but the statement with that number fails. -/
def Mysql.failingAt (m : Mysql) (number : Nat) : Mysql where
  time := m.time
  freed := m.freed
  query t stmt db := if t = number then (.failed, db) else m.query t stmt db

theorem ServedBy.failingAt {torn : Prop} {P : Text → Prop} {m : Mysql} (hm : ServedBy torn P m)
    (number : Nat) : ServedBy torn P (m.failingAt number) := by
  refine ⟨fun t stmt db hP => ?_, hm.keepsFreed⟩
  unfold Mysql.failingAt
  dsimp only
  split
  · exact Or.inl rfl
  · exact hm.executes t stmt db hP

/-- One registered user, logged in on descriptor 6. -/
def loggedIn : Db where
  t_user_login := [⟨1, ascii "u", ascii "p", 6, 1, 0⟩]
  t_user_password := [⟨ascii "u", ascii "p", 0⟩]

theorem halfDone_loggedIn :
    HalfDone (memoryServer.failingAt 4) { db := loggedIn } (ascii "u") (ascii "p") 7 := by
  refine ⟨1, 6, ⟨?_, Or.inr ?_, ?_⟩, ?_, ?_, ?_⟩
  · exact ⟨natText 1, ⟨[], rfl⟩, by decide⟩
  · exact ⟨natText 1, ⟨[], rfl⟩, by decide⟩
  · exact ⟨natText 1, intText 6, [], rfl, by decide, by decide⟩
  · exact Answer.noConfusion
  · exact rfl
  · decide

theorem failed_changes_nothing_iff_loggedIn :
    ¬ FailsUnchanged (·.ret) (processLogin (memoryServer.failingAt 4) (ascii "u") (ascii "p") 7)
        { db := loggedIn } ∧
      FailsUnchanged (·.ret) (processLogout (memoryServer.failingAt 4) (ascii "u")) { db := loggedIn } ∧
      FailsUnchanged (·.ret) (processRegist (memoryServer.failingAt 4) (ascii "u") (ascii "p") [])
        { db := loggedIn } := by
  obtain ⟨hlogin, hlogout, hregist⟩ := failed_changes_nothing_iff (memoryServer.failingAt 4)
    { db := loggedIn } (ascii "u") (ascii "p") [] 7 ((servedBy_memoryServer _ _).failingAt 4).undone
  exact ⟨fun h => hlogin.1 h halfDone_loggedIn, hlogout, hregist⟩

/-- A user logs in again, the update goes through and the insert fails: the login
fails, and the user is logged in nowhere. -/
theorem login_half_done :
    ¬ ∀ (m : Mysql) (c : Connection) (u p msg : Text) (fd : Int), Undone (fun _ => True) m →
      FailsUnchanged (·.ret) (processLogin m u p fd) c ∧
        FailsUnchanged (·.ret) (processLogout m u) c ∧
        FailsUnchanged (·.ret) (processRegist m u p msg) c := by
  intro h
  have hm : Undone (fun _ => True) (memoryServer.failingAt 4) :=
    ((servedBy_memoryServer _ _).failingAt 4).undone
  exact halfDone_loggedIn.changes hm trivial trivial (h _ _ _ _ [] _ hm).1

end SingleTerminalLogin
