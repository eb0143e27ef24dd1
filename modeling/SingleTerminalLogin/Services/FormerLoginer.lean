import SingleTerminalLogin.LoginManager.Failures

/-!
# The former `Loginer`

`service/messageReceiver` still has the class from before the login manager was split off.  It sends
the notice to the other device itself, in the middle of a login, where the login manager hands the
descriptor back.

* `MessageReceiver.Loginer` — the functions of that file;
* `decision` — a login up to where the two part, with `processLogin_eq` for both;
* `logins_agree` — when the notice can be written, both answer the same and do the same.
-/

namespace SingleTerminalLogin

open ByteText CProgram Proc SqlApi

/-! ## The former class -/

namespace MessageReceiver

/-- What the class works on: its `SqlApi`, and what it has written to descriptors. -/
structure Desk where
  sqlApi : SqlApi
  written : List (Int × Text) := []

/-- A call that uses the database only: what it writes to descriptors is nothing. -/
def onSqlApi {α : Type} (x : Proc SqlApi α) : Proc Desk α := fun d =>
  let r := x d.sqlApi
  (r.1, { d with sqlApi := r.2 })

/-- `write(fd, message, strlen(message))`: what it returns is what `writes` says, unless a signal
ends the process. -/
def write (writes : Int → Text → C Int) (fd : Int) (message : Text) : Proc Desk Int := fun d =>
  match writes fd message with
  | .error e => (.error e, d)
  | .ok ret => (.ok ret, if ret < 0 then d else { d with written := d.written ++ [(fd, message)] })

namespace Loginer

section

variable (m : Mysql)

/-- `Loginer::isValidUserNameAndPassWord`. -/
def isValidUserNameAndPassWord (userName passWord : Text) : Proc SqlApi (Int × Bool) := do
  let ret ← select m (.countPassword userName passWord)
  if ret ≠ 0 then pure (-1, false)
  else do
    let mysqlResult ← getResult
    lift (assert (mysqlResult.rowsCount = 1))
    lift (assert (mysqlResult.fieldsCount = 1))
    let count ← field mysqlResult 0 0
    pure (0, readInt count ≠ 0)

/-- `Loginer::isAlreadyLogined`. -/
def isAlreadyLogined (userName : Text) : Proc SqlApi Bool := do
  let ret ← select m (.countLogined userName)
  if ret ≠ 0 then pure true
  else do
    let mysqlResult ← getResult
    lift (assert (mysqlResult.rowsCount = 1))
    lift (assert (mysqlResult.fieldsCount = 1))
    let count ← field mysqlResult 0 0
    pure (readInt count ≠ 0)

/-- `Loginer::login`. -/
def login (userName passWord : Text) (sendToClientFd : Int) : Proc SqlApi Int := do
  let time ← time m
  let ret ← insert m (.insertLogin userName passWord sendToClientFd time)
  if ret ≠ 0 then pure (-1) else pure 0

/-- `Loginer::getAlreadyLoginedClientFd`. -/
def getAlreadyLoginedClientFd (userName : Text) : Proc SqlApi (Int × Int × Nat) := do
  let ret ← select m (.selectLogined userName)
  if ret ≠ 0 then pure (-1, 0, 0)
  else do
    let mysqlResult ← getResult
    lift (assert (mysqlResult.rowsCount = 1))
    lift (assert (mysqlResult.fieldsCount = 2))
    let id ← field mysqlResult 0 0
    let fd ← field mysqlResult 0 1
    pure (0, readInt fd, (readInt id % 2 ^ 64).toNat)

/-- `Loginer::setLogoutStatusThenLogin`. -/
def setLogoutStatusThenLogin (fuiId : Nat) (userName passWord : Text) (sendToClientFd : Int) :
    Proc SqlApi Int := do
  let ret ← update m (.updateStatus fuiId)
  if ret ≠ 0 then pure (-1)
  else login m userName passWord sendToClientFd

end

/-- `Loginer::noticeLogout`. -/
def noticeLogout (writes : Int → Text → C Int) (fd : Int) : Proc Desk Int := do
  let ret ← write writes fd (ascii "logout")
  if ret < 0 then pure (-1) else pure 0

/-- `Loginer::processLogin`.  `code` and `msg` are those of a success only at the end.  The log line
about a notice that could not be written takes the descriptor for the address of a text. -/
def processLogin (m : Mysql) (writes : Int → Text → C Int) (userName passWord : Text) (sendToClientFd : Int) :
    Proc Desk Reply := do
  let r ← onSqlApi (isValidUserNameAndPassWord m userName passWord)
  if r.1 < 0 then pure ⟨-1, .SYSTEM_ERROR, ascii "select DB data failed!"⟩
  else if !r.2 then pure ⟨-1, .USERNAME_OR_PASSWD_ERROR, ascii "userName or passWord error!"⟩
  else do
    let logined ← onSqlApi (isAlreadyLogined m userName)
    if !logined then do
      let ret ← onSqlApi (login m userName passWord sendToClientFd)
      if ret ≠ 0 then pure ⟨-1, .DB_OP_FAILED, ascii "system error: insert data into DB failed!"⟩
      else pure ⟨0, .SUCCESS, ascii "login success!"⟩
    else do
      let r ← onSqlApi (getAlreadyLoginedClientFd m userName)
      if r.1 ≠ 0 then pure ⟨-1, .SYSTEM_ERROR, ascii "system error: Get already logined client fd failed!"⟩
      else do
        let ret ← noticeLogout writes r.2.1
        if ret ≠ 0 then lift (.error .memory)
        else do
          let ret ← onSqlApi (setLogoutStatusThenLogin m r.2.2 userName passWord sendToClientFd)
          if ret ≠ 0 then pure ⟨-1, .SYSTEM_ERROR, ascii "system error: update DB data failed!"⟩
          else pure ⟨0, .SUCCESS, ascii "login success!"⟩

/-! The functions that are the same in both files. -/

theorem isValidUserNameAndPassWord_eq :
    isValidUserNameAndPassWord = SingleTerminalLogin.Loginer.isValidUserNameAndPassWord := rfl

theorem isAlreadyLogined_eq : isAlreadyLogined = SingleTerminalLogin.Loginer.isAlreadyLogined := rfl

theorem login_eq : login = SingleTerminalLogin.Loginer.login := rfl

theorem getAlreadyLoginedClientFd_eq :
    getAlreadyLoginedClientFd = SingleTerminalLogin.Loginer.getAlreadyLoginedClientFd := rfl

theorem setLogoutStatusThenLogin_eq :
    setLogoutStatusThenLogin = SingleTerminalLogin.Loginer.setLogoutStatusThenLogin := rfl

end Loginer

end MessageReceiver

/-! ## Where the two part -/

/-- What a login does, once it is known who is logged in. -/
inductive Decision where
  /-- It is turned away, or the tables could not be read. -/
  | rejected (reply : Reply)
  /-- The user is not logged in. -/
  | first
  /-- The user is logged in on this descriptor, in the row of this id. -/
  | displace (alreadyLoginedClientFd : Int) (fuiId : Nat)

namespace Loginer

section

variable (m : Mysql) (userName passWord : Text) (sendToClientFd : Int)

/-- `Loginer::processLogin` up to there. -/
def decision : Proc SqlApi Decision := do
  let r ← isValidUserNameAndPassWord m userName passWord
  if r.1 < 0 then pure (.rejected ⟨-1, .SYSTEM_ERROR, ascii "select DB data failed!"⟩)
  else if !r.2 then pure (.rejected ⟨-1, .USERNAME_OR_PASSWD_ERROR, ascii "userName or passWord error!"⟩)
  else do
    let logined ← isAlreadyLogined m userName
    if !logined then pure .first
    else do
      let r ← getAlreadyLoginedClientFd m userName
      if r.1 ≠ 0 then
        pure (.rejected ⟨-1, .SYSTEM_ERROR, ascii "system error: Get already logined client fd failed!"⟩)
      else pure (.displace r.2.1 r.2.2)

/-- The rest of a login in the login manager. -/
def perform : Decision → Proc SqlApi LoginReply
  | .rejected reply => pure ⟨reply, -1⟩
  | .first => do
    let ret ← login m userName passWord sendToClientFd
    if ret ≠ 0 then pure ⟨⟨-1, .DB_OP_FAILED, ascii "system error: insert data into DB failed!"⟩, -1⟩
    else pure ⟨⟨0, .SUCCESS, ascii "login success!"⟩, -1⟩
  | .displace alreadyLoginedClientFd fuiId => do
    let ret ← setLogoutStatusThenLogin m fuiId userName passWord sendToClientFd
    if ret ≠ 0 then
      pure ⟨⟨-1, .SYSTEM_ERROR, ascii "system error: update DB data failed!"⟩, alreadyLoginedClientFd⟩
    else pure ⟨⟨0, .SUCCESS, ascii "login success!"⟩, alreadyLoginedClientFd⟩

theorem processLogin_eq :
    processLogin m userName passWord sendToClientFd =
      decision m userName passWord >>= perform m userName passWord sendToClientFd := by
  simp only [decision, bind_bind, ite_bind, pure_bind_eq]
  rfl

end

end Loginer

namespace MessageReceiver

section

variable {α β : Type}

theorem onSqlApi_pure (a : α) : onSqlApi (pure a) = pure a := rfl

theorem onSqlApi_bind (x : Proc SqlApi α) (f : α → Proc SqlApi β) :
    onSqlApi (x >>= f) = onSqlApi x >>= fun a => onSqlApi (f a) := by
  funext d
  cases hr : x d.sqlApi with
  | mk r s' =>
    have hx : onSqlApi x d = (r, { d with sqlApi := s' }) := by rw [onSqlApi, hr]
    cases r with
    | ok a => rw [bind_run_ok hx, onSqlApi, bind_run_ok hr]; rfl
    | error e => rw [bind_run_error hx, onSqlApi, bind_run_error hr]

theorem onSqlApi_ite {p : Prop} [Decidable p] (x y : Proc SqlApi α) :
    onSqlApi (if p then x else y) = if p then onSqlApi x else onSqlApi y := apply_ite onSqlApi p x y

end

namespace Loginer

section

variable (m : Mysql) (writes : Int → Text → C Int) (userName passWord : Text) (sendToClientFd : Int)

/-- The rest of a login in the former class. -/
def perform : Decision → Proc Desk Reply
  | .rejected reply => pure reply
  | .first => do
    let ret ← onSqlApi (login m userName passWord sendToClientFd)
    if ret ≠ 0 then pure ⟨-1, .DB_OP_FAILED, ascii "system error: insert data into DB failed!"⟩
    else pure ⟨0, .SUCCESS, ascii "login success!"⟩
  | .displace alreadyLoginedClientFd fuiId => do
    let ret ← noticeLogout writes alreadyLoginedClientFd
    if ret ≠ 0 then lift (.error .memory)
    else do
      let ret ← onSqlApi (setLogoutStatusThenLogin m fuiId userName passWord sendToClientFd)
      if ret ≠ 0 then pure ⟨-1, .SYSTEM_ERROR, ascii "system error: update DB data failed!"⟩
      else pure ⟨0, .SUCCESS, ascii "login success!"⟩

/-- The former class gets to where the two part as the login manager does. -/
theorem processLogin_eq :
    processLogin m writes userName passWord sendToClientFd =
      onSqlApi (SingleTerminalLogin.Loginer.decision m userName passWord) >>=
        perform m writes userName passWord sendToClientFd := by
  simp only [SingleTerminalLogin.Loginer.decision, onSqlApi_bind, onSqlApi_ite, onSqlApi_pure, bind_bind, ite_bind,
    pure_bind_eq]
  rfl

end

end Loginer

end MessageReceiver

/-! ## Two servers at two times -/

/-- The same tables but for the times of the logins. -/
structure Db.SameButTime (db db' : Db) : Prop where
  passwords : db'.t_user_password = db.t_user_password
  logins : (db'.t_user_login.map fun r => { r with fuiCreateTime := 0 }) =
    db.t_user_login.map fun r => { r with fuiCreateTime := 0 }

/-- The same statements fail, and a login is entered with the time of either clock. -/
structure Mysql.Alike (m m' : Mysql) : Prop where
  freed : m'.freed = m.freed
  query : ∀ t stmt db, (∀ u p fd time, stmt ≠ .insertLogin u p fd time) → m'.query t stmt db = m.query t stmt db
  enter : ∀ t u p fd db,
    (m'.query t (.insertLogin u p fd (m'.time t)) db).1 = (m.query t (.insertLogin u p fd (m.time t)) db).1 ∧
      (m.query t (.insertLogin u p fd (m.time t)) db).2.SameButTime
        (m'.query t (.insertLogin u p fd (m'.time t)) db).2

theorem Db.SameButTime.refl (db : Db) : db.SameButTime db := ⟨rfl, rfl⟩

/-- At the same time every server is like itself. -/
theorem Mysql.Alike.refl (m : Mysql) : m.Alike m := ⟨rfl, fun _ _ _ _ => rfl, fun _ _ _ _ _ => ⟨rfl, .refl _⟩⟩

section

variable {m m' : Mysql} {u p : Text} {fd : Int} {s : SqlApi}

theorem Mysql.Alike.mysqlQuery (hm : m.Alike m') {stmt : Stmt} (h : ∀ u p fd time, stmt ≠ .insertLogin u p fd time) :
    SqlApi.mysqlQuery m' stmt = SqlApi.mysqlQuery m stmt := by
  funext s
  simp only [SqlApi.mysqlQuery, hm.query _ _ _ h]

theorem Mysql.Alike.select (hm : m.Alike m') {stmt : Stmt} (hreads : stmt.reads = true) :
    SqlApi.select m' stmt = SqlApi.select m stmt := by
  have hother : ∀ u p fd time, stmt ≠ .insertLogin u p fd time := by
    rintro u p fd time rfl
    cases hreads
  have hfree : SqlApi.freeResult m' = SqlApi.freeResult m := by
    funext rowsCount s
    simp only [SqlApi.freeResult, hm.freed]
  rw [SqlApi.select, hm.mysqlQuery hother, hfree, SqlApi.select]

/-- Both get to where they part in the same way. -/
theorem Mysql.Alike.decision (hm : m.Alike m') : Loginer.decision m' u p = Loginer.decision m u p := by
  have hvalid : Loginer.isValidUserNameAndPassWord m' u p = Loginer.isValidUserNameAndPassWord m u p := by
    simp only [Loginer.isValidUserNameAndPassWord, @Mysql.Alike.select m m' hm (.countPassword u p) rfl]
  have hlogined : Loginer.isAlreadyLogined m' u = Loginer.isAlreadyLogined m u := by
    simp only [Loginer.isAlreadyLogined, @Mysql.Alike.select m m' hm (.countLogined u) rfl]
  have hlocated : Loginer.getAlreadyLoginedClientFd m' u = Loginer.getAlreadyLoginedClientFd m u := by
    simp only [Loginer.getAlreadyLoginedClientFd, @Mysql.Alike.select m m' hm (.selectLogined u) rfl]
  simp only [Loginer.decision, hvalid, hlogined, hlocated]

/-- A write, whatever comes of it. -/
theorem insert_run (m : Mysql) (stmt : Stmt) (s : SqlApi) :
    SqlApi.insert m stmt s =
      (.ok (if m.Fails s.connection.queries stmt s.db then -1 else 0),
        { s with connection := s.connection.after m stmt }) := by
  rw [SqlApi.insert, bind_run_ok mysqlQuery_run]
  by_cases hfails : m.Fails s.connection.queries stmt s.db
  · have ha : (m.query s.connection.queries stmt s.db).1 = .failed := hfails
    rw [if_pos hfails, ha]
    rfl
  · rw [if_neg hfails]
    cases ha : (m.query s.connection.queries stmt s.db).1 with
    | failed => exact absurd ha hfails
    | done fieldsCount rows => rfl

theorem login_run (m : Mysql) (u p : Text) (fd : Int) (s : SqlApi) :
    Loginer.login m u p fd s =
      (.ok (if m.Fails s.connection.queries (.insertLogin u p fd (m.time s.connection.queries)) s.db then -1 else 0),
        { s with connection := s.connection.after m (.insertLogin u p fd (m.time s.connection.queries)) }) := by
  have htime : SqlApi.time m s = (.ok (m.time s.connection.queries), s) := rfl
  rw [Loginer.login, bind_run_ok htime, bind_run_ok (insert_run m _ s)]
  by_cases hfails : m.Fails s.connection.queries (.insertLogin u p fd (m.time s.connection.queries)) s.db
  · rw [if_pos hfails]
    rfl
  · rw [if_neg hfails]
    rfl

/-- Two calls that end with the same value, on tables that differ by the times of the logins only. -/
def EndAlike {α : Type} (r r' : C α × SqlApi) : Prop :=
  (∃ a, r.1 = .ok a ∧ r'.1 = .ok a) ∧ r.2.db.SameButTime r'.2.db

theorem Mysql.Alike.login (hm : m.Alike m') : EndAlike (Loginer.login m u p fd s) (Loginer.login m' u p fd s) := by
  obtain ⟨hanswer, hdb⟩ := hm.enter s.connection.queries u p fd s.db
  have hfails : m'.Fails s.connection.queries (.insertLogin u p fd (m'.time s.connection.queries)) s.db ↔
      m.Fails s.connection.queries (.insertLogin u p fd (m.time s.connection.queries)) s.db := by
    rw [Mysql.Fails, Mysql.Fails, hanswer]
  rw [login_run, login_run]
  exact ⟨⟨_, rfl, by simp only [hfails]⟩, hdb⟩

theorem Mysql.Alike.setLogoutStatusThenLogin (hm : m.Alike m') (id : Nat) :
    EndAlike (Loginer.setLogoutStatusThenLogin m id u p fd s) (Loginer.setLogoutStatusThenLogin m' id u p fd s) := by
  have hupdate : SqlApi.update m' (.updateStatus id) = SqlApi.update m (.updateStatus id) := by
    have hother : ∀ u p fd time, Stmt.updateStatus id ≠ .insertLogin u p fd time := fun _ _ _ _ => Stmt.noConfusion
    rw [SqlApi.update, hm.mysqlQuery hother, SqlApi.update]
  have hrun : SqlApi.update m (.updateStatus id) s = _ := insert_run m (.updateStatus id) s
  rw [Loginer.setLogoutStatusThenLogin, Loginer.setLogoutStatusThenLogin, hupdate, bind_run_ok hrun, bind_run_ok hrun]
  by_cases hfails : m.Fails s.connection.queries (.updateStatus id) s.db
  · rw [if_pos hfails]
    exact ⟨⟨-1, rfl, rfl⟩, .refl _⟩
  · rw [if_neg hfails]
    exact hm.login

end

/-! ## Both together -/

section

variable (m m' : Mysql) (writes : Int → Text → C Int) (u p : Text) (fd : Int) (s : SqlApi)

/-- The branch of a user who is logged in already sets `logoutFd`, and it is left. -/
def LeavesLogoutFd (d : Int) : Prop :=
  (∃ fuiId, (Loginer.decision m u p s).1 = .ok (.displace d fuiId)) ∧
    ∃ reply, (Loginer.processLogin m u p fd s).1 = .ok reply ∧ reply.logoutFd = d

/-- The notice of a login can be written. -/
def NoticeWritten : Prop :=
  ∀ d fuiId, (Loginer.decision m u p s).1 = .ok (.displace d fuiId) →
    ∃ ret, writes d (ascii "logout") = .ok ret ∧ 0 ≤ ret

/-- Both classes answer the same or die of the same, leave the same tables but for the times, and the
one writes to what the other hands back. -/
structure LoginsAgree : Prop where
  reply : (MessageReceiver.Loginer.processLogin m' writes u p fd { sqlApi := s }).1 =
    (Loginer.processLogin m u p fd s).1.map LoginReply.toReply
  tables : (Loginer.processLogin m u p fd s).2.db.SameButTime
    (MessageReceiver.Loginer.processLogin m' writes u p fd { sqlApi := s }).2.sqlApi.db
  notice : ∀ d message,
    (d, message) ∈ (MessageReceiver.Loginer.processLogin m' writes u p fd { sqlApi := s }).2.written ↔
      message = ascii "logout" ∧ LeavesLogoutFd m u p fd s d

end

section

variable {m m' : Mysql} {writes : Int → Text → C Int} {u p : Text} {fd : Int} {s s' : SqlApi}

theorem loginsAgree_of {x : C LoginReply} {s₁ s₁' : SqlApi} {written : List (Int × Text)}
    (hnew : Loginer.processLogin m u p fd s = (x, s₁))
    (hold : MessageReceiver.Loginer.processLogin m' writes u p fd { sqlApi := s } =
      (x.map LoginReply.toReply, ⟨s₁', written⟩))
    (hdb : s₁.db.SameButTime s₁'.db)
    (hwritten : ∀ d message, (d, message) ∈ written ↔ message = ascii "logout" ∧ LeavesLogoutFd m u p fd s d) :
    LoginsAgree m m' writes u p fd s := by
  refine ⟨by rw [hnew, hold], ?_, fun d message => ?_⟩
  · rw [hnew, hold]
    exact hdb
  · rw [hold]
    exact hwritten d message

/-- Without that branch nothing is written, and no descriptor is left. -/
theorem written_nil (h : ∀ d fuiId, (Loginer.decision m u p s).1 ≠ .ok (.displace d fuiId)) (d : Int) (message : Text) :
    (d, message) ∈ ([] : List (Int × Text)) ↔ message = ascii "logout" ∧ LeavesLogoutFd m u p fd s d := by
  refine iff_of_false List.not_mem_nil ?_
  rintro ⟨-, ⟨fuiId, hdisplace⟩, -⟩
  exact h d fuiId hdisplace

/-- Where nothing is decided, both die of the same. -/
theorem loginsAgree_error (hm : m.Alike m') {e : Fault} (h : Loginer.decision m u p s = (.error e, s')) :
    LoginsAgree m m' writes u p fd s := by
  have hlift : MessageReceiver.onSqlApi (Loginer.decision m' u p) { sqlApi := s } = (.error e, { sqlApi := s' }) := by
    rw [hm.decision, MessageReceiver.onSqlApi, h]
  have hnew : Loginer.processLogin m u p fd s = (.error e, s') := by
    rw [Loginer.processLogin_eq, bind_run_error h]
  have hold : MessageReceiver.Loginer.processLogin m' writes u p fd { sqlApi := s } = (.error e, { sqlApi := s' }) := by
    rw [MessageReceiver.Loginer.processLogin_eq, bind_run_error hlift]
  refine loginsAgree_of hnew hold (.refl _) (written_nil ?_)
  rw [h]
  exact fun d fuiId => nofun

section

variable {decided : Decision}

theorem Loginer.processLogin_run (h : Loginer.decision m u p s = (.ok decided, s')) :
    Loginer.processLogin m u p fd s = Loginer.perform m u p fd decided s' := by
  rw [Loginer.processLogin_eq, bind_run_ok h]

theorem MessageReceiver.Loginer.processLogin_run (hm : m.Alike m') (h : Loginer.decision m u p s = (.ok decided, s')) :
    MessageReceiver.Loginer.processLogin m' writes u p fd { sqlApi := s } =
      MessageReceiver.Loginer.perform m' writes u p fd decided { sqlApi := s' } := by
  have hlift : MessageReceiver.onSqlApi (Loginer.decision m' u p) { sqlApi := s } = (.ok decided, { sqlApi := s' }) := by
    rw [hm.decision, MessageReceiver.onSqlApi, h]
  rw [MessageReceiver.Loginer.processLogin_eq, bind_run_ok hlift]

end

/-- A call on the tables, seen from the desk. -/
theorem onSqlApi_run {α : Type} {x : Proc SqlApi α} {a : α} {written : List (Int × Text)} (h : (x s).1 = .ok a) :
    MessageReceiver.onSqlApi x ⟨s, written⟩ = (.ok a, ⟨(x s).2, written⟩) := Prod.ext h rfl

/-- The user was not logged in: both enter the login. -/
theorem loginsAgree_first (hm : m.Alike m') (h : Loginer.decision m u p s = (.ok .first, s')) :
    LoginsAgree m m' writes u p fd s := by
  obtain ⟨⟨ret, hret, hret'⟩, hdb⟩ := @Mysql.Alike.login m m' u p fd s' hm
  have hlogin : Loginer.login m u p fd s' = (.ok ret, (Loginer.login m u p fd s').2) := Prod.ext hret rfl
  have hnothing := @written_nil m u p fd s (by rw [h]; exact fun d fuiId => nofun)
  have hnew := (@Loginer.processLogin_run m u p fd s s' _ h).trans (bind_run_ok hlogin)
  have hold := (@MessageReceiver.Loginer.processLogin_run m m' writes u p fd s s' _ hm h).trans
    (bind_run_ok (onSqlApi_run hret'))
  by_cases hfailed : ret ≠ 0
  · rw [if_pos hfailed] at hnew hold
    exact loginsAgree_of hnew hold hdb hnothing
  · rw [if_neg hfailed] at hnew hold
    exact loginsAgree_of hnew hold hdb hnothing

theorem noticeLogout_run {d ret : Int} (hret : writes d (ascii "logout") = .ok ret) (hw : 0 ≤ ret) :
    MessageReceiver.Loginer.noticeLogout writes d { sqlApi := s } = (.ok 0, ⟨s, [(d, ascii "logout")]⟩) := by
  have hwrite : MessageReceiver.write writes d (ascii "logout") { sqlApi := s } =
      (.ok ret, ⟨s, [(d, ascii "logout")]⟩) := by
    simp only [MessageReceiver.write, hret, if_neg (not_lt.2 hw), List.nil_append]
  rw [MessageReceiver.Loginer.noticeLogout, bind_run_ok hwrite, if_neg (not_lt.2 hw)]
  rfl

/-- The descriptor that was decided on is the one that is left. -/
theorem written_one {d : Int} {fuiId : Nat} {reply : LoginReply} {s₁ : SqlApi}
    (h : Loginer.decision m u p s = (.ok (.displace d fuiId), s'))
    (hnew : Loginer.processLogin m u p fd s = (.ok reply, s₁)) (hfd : reply.logoutFd = d) (d' : Int) (message : Text) :
    (d', message) ∈ [(d, ascii "logout")] ↔ message = ascii "logout" ∧ LeavesLogoutFd m u p fd s d' := by
  rw [List.mem_singleton, Prod.mk.injEq]
  constructor
  · rintro ⟨rfl, rfl⟩
    exact ⟨rfl, ⟨fuiId, congrArg Prod.fst h⟩, reply, congrArg Prod.fst hnew, hfd⟩
  · rintro ⟨rfl, -, reply', hreply', rfl⟩
    rw [hnew] at hreply'
    cases hreply'
    exact ⟨hfd, rfl⟩

/-- The user was logged in: both end that session and enter the login, after the notice or before. -/
theorem loginsAgree_displace (hm : m.Alike m') {d : Int} {fuiId : Nat}
    (hw : ∃ ret, writes d (ascii "logout") = .ok ret ∧ 0 ≤ ret)
    (h : Loginer.decision m u p s = (.ok (.displace d fuiId), s')) : LoginsAgree m m' writes u p fd s := by
  obtain ⟨_, hnoticed, hdone⟩ := hw
  obtain ⟨⟨ret, hret, hret'⟩, hdb⟩ := @Mysql.Alike.setLogoutStatusThenLogin m m' u p fd s' hm fuiId
  have hset : Loginer.setLogoutStatusThenLogin m fuiId u p fd s' =
      (.ok ret, (Loginer.setLogoutStatusThenLogin m fuiId u p fd s').2) := Prod.ext hret rfl
  have hnew := (@Loginer.processLogin_run m u p fd s s' _ h).trans (bind_run_ok hset)
  have hnotice := (@MessageReceiver.Loginer.processLogin_run m m' writes u p fd s s' _ hm h).trans
    (bind_run_ok (noticeLogout_run hnoticed hdone))
  rw [if_neg (not_not.2 rfl)] at hnotice
  have hold := hnotice.trans (bind_run_ok (onSqlApi_run hret'))
  by_cases hfailed : ret ≠ 0
  · rw [if_pos hfailed] at hnew hold
    exact loginsAgree_of hnew hold hdb (written_one h hnew rfl)
  · rw [if_neg hfailed] at hnew hold
    exact loginsAgree_of hnew hold hdb (written_one h hnew rfl)

/-- **The old login and the new one agree** as long as the notice can be written: at any two times, on
any tables and whatever statements fail. -/
theorem logins_agree (m m' : Mysql) (hm : m.Alike m') (writes : Int → Text → C Int) (u p : Text) (fd : Int)
    (s : SqlApi) (hw : NoticeWritten m writes u p s) : LoginsAgree m m' writes u p fd s := by
  cases h : Loginer.decision m u p s with
  | mk r s' =>
    cases r with
    | error e => exact loginsAgree_error hm h
    | ok decided =>
      cases decided with
      | rejected reply =>
        refine loginsAgree_of (Loginer.processLogin_run h) (MessageReceiver.Loginer.processLogin_run hm h) (.refl _) ?_
        refine written_nil ?_
        rw [h]
        exact fun d fuiId => nofun
      | first => exact loginsAgree_first hm h
      | displace d fuiId => exact loginsAgree_displace hm (hw d fuiId (congrArg Prod.fst h)) h

end

/-- The server in memory, at any two times. -/
theorem alike_memoryServer (time : Nat → Int) : memoryServer.Alike { memoryServer with time := time } := by
  refine ⟨rfl, fun _ _ _ _ => rfl, fun t u p fd db => ?_⟩
  simp only [memoryServer]
  split
  · refine ⟨rfl, rfl, ?_⟩
    simp only [Db.insertLogin, List.map_append, List.map_cons, List.map_nil]
  · exact ⟨rfl, .refl _⟩

/-- A login in place of another one, with the clocks apart. -/
theorem logins_agree_displaced :
    (6, ascii "logout") ∈ (MessageReceiver.Loginer.processLogin { memoryServer with time := fun _ => 9 } (fun _ _ => .ok 6)
        (ascii "u") (ascii "p") 8 { sqlApi := { connection := { db := loggedIn } } }).2.written ∧
      LoginsAgree memoryServer { memoryServer with time := fun _ => 9 } (fun _ _ => .ok 6) (ascii "u") (ascii "p") 8
        { connection := { db := loggedIn } } :=
  ⟨by decide, logins_agree memoryServer { memoryServer with time := fun _ => 9 } (alike_memoryServer fun _ => 9)
    (fun _ _ => .ok 6) (ascii "u") (ascii "p") 8 { connection := { db := loggedIn } } fun _ _ _ =>
      ⟨6, rfl, by decide⟩⟩

end SingleTerminalLogin
