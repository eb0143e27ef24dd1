import SingleTerminalLogin.LoginManager.Failures
import SingleTerminalLogin.Lib.Script

/-!
# The operations as scripts

`Loginer` and `Register` reach the database through the methods of their `SqlApi` only.  Written as
scripts over these methods, they can be watched: which method is called when, on what statement, and
with what result.

* `MysqlClient`, `select` — the client library, whose `mysql_query` and `mysql_store_result` fail
  each on its own, and `SqlApi::select` over it;
* `SqlEvent`, `sqlApi` — what is seen of a method, and the object as a device;
* `Scripts` — the functions of `Loginer` and `Register` once more, as scripts;
* `run_processLogin`, `run_processLogout`, `run_processRegist` — they run as the functions do.
-/

namespace SingleTerminalLogin

open ByteText CProgram Proc SqlApi

deriving instance DecidableEq for Stmt, MysqlResult

/-! ## The client library -/

/-- What `mysql_store_result` returns: `mysql_num_rows` is the number of the rows that
`mysql_fetch_row` delivers from it. -/
structure MysqlRes where
  rows : List (List Text)
  num_fields : Nat
  deriving DecidableEq

/-- What `getResult` would hand out for it, if it were not freed. -/
def MysqlRes.result (res : MysqlRes) : MysqlResult := ⟨res.rows, res.rows.length, res.num_fields⟩

/-- A result whose rows were fetched, and what is read through the pointers to them when it has been
freed. -/
structure Fetched where
  got : MysqlRes
  left : List (List Text)
  deriving DecidableEq

/-- What `getResult` hands out for it. -/
def Fetched.result (res : Fetched) : MysqlResult := ⟨res.left, res.got.rows.length, res.got.num_fields⟩

/-- The calls of the client library for the statement of a number.  Any of them may fail. -/
structure MysqlClient where
  mysql_query : Nat → Stmt → Db → Int
  mysql_store_result : Nat → Stmt → Db → Option MysqlRes
  /-- What `mysql_free_result` makes of the row of that index. -/
  freed : Nat → Nat → List Text → List Text
  /-- The tables after `mysql_query`. -/
  executed : Nat → Stmt → Db → Db
  time : Nat → Int

namespace MysqlClient

/-- The rows a select gets, unless one of the two calls fails. -/
def delivers (client : MysqlClient) (t : Nat) (stmt : Stmt) (db : Db) : Option MysqlRes :=
  if client.mysql_query t stmt db ≠ 0 then none else client.mysql_store_result t stmt db

/-- What `SqlApi::select` is left with. -/
def fetches (client : MysqlClient) (t : Nat) (stmt : Stmt) (db : Db) : Option Fetched :=
  (client.delivers t stmt db).map fun res => ⟨res, res.rows.mapIdx (client.freed t)⟩

/-- The server as it is seen through the client library. -/
def server (client : MysqlClient) : Mysql where
  time := client.time
  freed := client.freed
  query t stmt db :=
    let answer :=
      if stmt.reads then
        match client.delivers t stmt db with
        | none => .failed
        | some res => .done res.num_fields res.rows
      else if client.mysql_query t stmt db ≠ 0 then .failed
      else .done 0 []
    (answer, client.executed t stmt db)

/-- The client library in front of a server none of whose results is lost on the way. -/
def ofServer (m : Mysql) : MysqlClient where
  time := m.time
  freed := m.freed
  mysql_query t stmt db := if m.Fails t stmt db then 1 else 0
  mysql_store_result t stmt db :=
    match (m.query t stmt db).1 with
    | .failed => none
    | .done fieldsCount rows => some ⟨rows, fieldsCount⟩
  executed t stmt db := (m.query t stmt db).2

end MysqlClient

namespace SqlApi

/-- What becomes of `_mysqlResult` when the rows of a result are fetched and the result is freed.  The
rows from before keep their pointers. -/
def fetched (freed : Nat → List Text → List Text) (r : MysqlResult) (res : MysqlRes) : MysqlResult where
  mysqlRowVec := r.mysqlRowVec ++ res.rows.mapIdx freed
  rowsCount := res.rows.length
  fieldsCount := res.num_fields

/-- The connection after a statement. -/
def sent (client : MysqlClient) (stmt : Stmt) (s : SqlApi) : SqlApi :=
  { s with connection := s.connection.after client.server stmt }

/-- `SqlApi::select`. -/
def selectBy (client : MysqlClient) (stmt : Stmt) (s : SqlApi) : Int × SqlApi :=
  if client.mysql_query s.connection.queries stmt s.db ≠ 0 then (-1, s.sent client stmt)
  else
    match client.mysql_store_result s.connection.queries stmt s.db with
    | none => (-1, s.sent client stmt)
    | some res => (0, { s.sent client stmt with
        mysqlResult := fetched (client.freed s.connection.queries) s.mysqlResult res })

/-- `SqlApi::insert` and `SqlApi::update`. -/
def writeBy (client : MysqlClient) (stmt : Stmt) (s : SqlApi) : Int × SqlApi :=
  if client.mysql_query s.connection.queries stmt s.db ≠ 0 then (-1, s.sent client stmt)
  else (0, s.sent client stmt)

/-- The methods, and `time(NULL)`. -/
inductive Method where
  | select (stmt : Stmt)
  | getResult
  | insert (stmt : Stmt)
  | update (stmt : Stmt)
  | time

/-- What a method returns, or hands out by reference. -/
def Method.Ans : Method → Type
  | select _ => Int
  | getResult => MysqlResult
  | insert _ => Int
  | update _ => Int
  | time => Int

end SqlApi

/-- What is seen of a method: of a select, the rows it gets and what is left of them. -/
inductive SqlEvent where
  | select (stmt : Stmt) (res : Option Fetched)
  | getResult (mysqlResult : MysqlResult)
  | insert (stmt : Stmt)
  | update (stmt : Stmt)
  | time
  deriving DecidableEq

/-- An object of the class as a device. -/
def sqlApi (client : MysqlClient) : Device Method Method.Ans SqlApi SqlEvent where
  answer
    | .select stmt, s => s.selectBy client stmt
    | .getResult, s => (s.mysqlResult, { s with mysqlResult := {} })
    | .insert stmt, s => s.writeBy client stmt
    | .update stmt, s => s.writeBy client stmt
    | .time, s => (client.time s.connection.queries, s)
  seen
    | .select stmt, s => .select stmt (client.fetches s.connection.queries stmt s.db)
    | .getResult, s => .getResult s.mysqlResult
    | .insert stmt, _ => .insert stmt
    | .update stmt, _ => .update stmt
    | .time, _ => .time

/-! ## The scripts -/

/-- A program that reaches the database through `SqlApi` only. -/
abbrev SqlScript (α : Type) := Script Method Method.Ans α

namespace Scripts

def select (stmt : Stmt) : SqlScript Int := @Script.perform Method Method.Ans (.select stmt)

def getResult : SqlScript MysqlResult := @Script.perform Method Method.Ans .getResult

def insert (stmt : Stmt) : SqlScript Int := @Script.perform Method Method.Ans (.insert stmt)

def update (stmt : Stmt) : SqlScript Int := @Script.perform Method Method.Ans (.update stmt)

def time : SqlScript Int := @Script.perform Method Method.Ans .time

/-- `mysqlRowVec[i][j]`. -/
def cell (result : MysqlResult) (i j : Nat) : C Text :=
  match (result.mysqlRowVec[i]?).bind (·[j]?) with
  | some t => .ok t
  | none => .error .memory

namespace Loginer

/-- `Loginer::isValidUserNameAndPassWord`. -/
def isValidUserNameAndPassWord (userName passWord : Text) : SqlScript (Int × Bool) := do
  let ret ← select (.countPassword userName passWord)
  if ret ≠ 0 then pure (-1, false)
  else do
    let mysqlResult ← getResult
    Script.lift (assert (mysqlResult.rowsCount = 1))
    Script.lift (assert (mysqlResult.fieldsCount = 1))
    let count ← Script.lift (cell mysqlResult 0 0)
    pure (0, readInt count ≠ 0)

/-- `Loginer::isAlreadyLogined`. -/
def isAlreadyLogined (userName : Text) : SqlScript Bool := do
  let ret ← select (.countLogined userName)
  if ret ≠ 0 then pure true
  else do
    let mysqlResult ← getResult
    Script.lift (assert (mysqlResult.rowsCount = 1))
    Script.lift (assert (mysqlResult.fieldsCount = 1))
    let count ← Script.lift (cell mysqlResult 0 0)
    pure (readInt count ≠ 0)

/-- `Loginer::login`. -/
def login (userName passWord : Text) (sendToClientFd : Int) : SqlScript Int := do
  let time ← time
  let ret ← insert (.insertLogin userName passWord sendToClientFd time)
  if ret ≠ 0 then pure (-1) else pure 0

/-- `Loginer::getAlreadyLoginedClientFd`. -/
def getAlreadyLoginedClientFd (userName : Text) : SqlScript (Int × Int × Nat) := do
  let ret ← select (.selectLogined userName)
  if ret ≠ 0 then pure (-1, 0, 0)
  else do
    let mysqlResult ← getResult
    Script.lift (assert (mysqlResult.rowsCount = 1))
    Script.lift (assert (mysqlResult.fieldsCount = 2))
    let id ← Script.lift (cell mysqlResult 0 0)
    let fd ← Script.lift (cell mysqlResult 0 1)
    pure (0, readInt fd, (readInt id % 2 ^ 64).toNat)

/-- `Loginer::setLogoutStatusThenLogin`. -/
def setLogoutStatusThenLogin (fuiId : Nat) (userName passWord : Text) (sendToClientFd : Int) :
    SqlScript Int := do
  let ret ← update (.updateStatus fuiId)
  if ret ≠ 0 then pure (-1)
  else login userName passWord sendToClientFd

/-- `Loginer::processLogin` for a user who is logged in already. -/
def displace (userName passWord : Text) (sendToClientFd : Int) : SqlScript LoginReply := do
  let r ← getAlreadyLoginedClientFd userName
  if r.1 ≠ 0 then
    pure ⟨⟨-1, .SYSTEM_ERROR, ascii "system error: Get already logined client fd failed!"⟩, -1⟩
  else do
    let logoutFd := r.2.1
    let ret ← setLogoutStatusThenLogin r.2.2 userName passWord sendToClientFd
    if ret ≠ 0 then
      pure ⟨⟨-1, .SYSTEM_ERROR, ascii "system error: update DB data failed!"⟩, logoutFd⟩
    else pure ⟨⟨0, .SUCCESS, ascii "login success!"⟩, logoutFd⟩

/-- `Loginer::processLogin` with a name and a password that are valid. -/
def letIn (userName passWord : Text) (sendToClientFd : Int) : SqlScript LoginReply := do
  let logined ← isAlreadyLogined userName
  if !logined then do
    let ret ← login userName passWord sendToClientFd
    if ret ≠ 0 then
      pure ⟨⟨-1, .DB_OP_FAILED, ascii "system error: insert data into DB failed!"⟩, -1⟩
    else pure ⟨⟨0, .SUCCESS, ascii "login success!"⟩, -1⟩
  else displace userName passWord sendToClientFd

/-- `Loginer::processLogin`. -/
def processLogin (userName passWord : Text) (sendToClientFd : Int) : SqlScript LoginReply := do
  let r ← isValidUserNameAndPassWord userName passWord
  if r.1 < 0 then
    pure ⟨⟨-1, .SYSTEM_ERROR, ascii "select DB data failed!"⟩, -1⟩
  else if !r.2 then
    pure ⟨⟨-1, .USERNAME_OR_PASSWD_ERROR, ascii "userName or passWord error!"⟩, -1⟩
  else letIn userName passWord sendToClientFd

/-- `Loginer::processLogout`. -/
def processLogout (userName : Text) : SqlScript Reply := do
  let ret ← select (.selectLoginedId userName)
  if ret ≠ 0 then
    pure ⟨-1, .DB_OP_FAILED, ascii "SYSTEM ERROR: select data from DB failed!"⟩
  else do
    let mysqlResult ← getResult
    if mysqlResult.rowsCount ≤ 0 then pure ⟨0, .SUCCESS, ascii "logout success!"⟩
    else do
      Script.lift (assert (mysqlResult.fieldsCount = 1))
      let id ← Script.lift (cell mysqlResult 0 0)
      let ret ← update (.updateStatus (readInt id))
      if ret ≠ 0 then
        pure ⟨-1, .DB_OP_FAILED, ascii "SYSTEM ERROR: update data to DB failed!"⟩
      else pure ⟨0, .SUCCESS, ascii "logout success!"⟩

end Loginer

namespace Register

/-- `Register::isAlreadyRegist`. -/
def isAlreadyRegist (userName : Text) : SqlScript (Int × Bool) := do
  let ret ← select (.countRegist userName)
  if ret ≠ 0 then pure (-1, false)
  else do
    let mysqlResult ← getResult
    Script.lift (assert (mysqlResult.rowsCount = 1))
    Script.lift (assert (mysqlResult.fieldsCount = 1))
    let count ← Script.lift (cell mysqlResult 0 0)
    pure (0, readInt count ≠ 0)

/-- `Register::regist`. -/
def regist (userName passWord : Text) : SqlScript Int := do
  let time ← time
  let ret ← insert (.insertPassword userName passWord time)
  if ret ≠ 0 then pure (-1) else pure 0

/-- `Register::processRegist`. -/
def processRegist (userName passWord : Text) (msg : Text) : SqlScript Reply := do
  let r ← isAlreadyRegist userName
  if r.1 ≠ 0 then
    pure ⟨-1, .DB_OP_FAILED, ascii "system error: insert data into DB failed!"⟩
  else if r.2 then pure ⟨0, .ALREADY_REGIST, userName ++ ascii " already regist!"⟩
  else do
    let ret ← regist userName passWord
    if ret ≠ 0 then
      pure ⟨-1, .DB_OP_FAILED, ascii "system error: insert data into DB failed!"⟩
    else pure ⟨0, .SUCCESS, msg ++ ascii "regist success!"⟩

end Register

end Scripts

/-! ## They run as the functions do -/

section

variable {client : MysqlClient} {stmt : Stmt} {s : SqlApi}

/-- A select one of whose two calls fails. -/
theorem selectBy_of_none (h : client.delivers s.connection.queries stmt s.db = none) :
    s.selectBy client stmt = (-1, s.sent client stmt) := by
  unfold SqlApi.selectBy
  unfold MysqlClient.delivers at h
  by_cases hq : client.mysql_query s.connection.queries stmt s.db ≠ 0
  · rw [if_pos hq]
  · rw [if_neg hq] at h ⊢
    rw [h]

/-- A select that gets its rows. -/
theorem selectBy_of_some {res : MysqlRes} (h : client.delivers s.connection.queries stmt s.db = some res) :
    s.selectBy client stmt = (0, { s.sent client stmt with
      mysqlResult := fetched (client.freed s.connection.queries) s.mysqlResult res }) := by
  unfold SqlApi.selectBy
  unfold MysqlClient.delivers at h
  by_cases hq : client.mysql_query s.connection.queries stmt s.db ≠ 0
  · rw [if_pos hq] at h
    cases h
  · rw [if_neg hq] at h ⊢
    rw [h]

/-- A select that fails, and what follows it. -/
theorem tells_select_none {β : Type} {bad : SqlScript β} {k : MysqlResult → SqlScript β}
    {Q : List SqlEvent → C β → SqlApi → Prop} (h : client.fetches s.connection.queries stmt s.db = none)
    (hbad : Script.Tells (sqlApi client) bad (s.sent client stmt) fun t => Q (.select stmt none :: t)) :
    Script.Tells (sqlApi client) (do
      let ret ← Scripts.select stmt
      if ret ≠ 0 then bad
      else do
        let r ← Scripts.getResult
        k r) s Q := by
  refine Script.tells_perform_bind ?_
  show Script.Tells (sqlApi client) (if (s.selectBy client stmt).1 ≠ 0 then bad else _) (s.selectBy client stmt).2
    fun t => Q (.select stmt (client.fetches s.connection.queries stmt s.db) :: t)
  rw [selectBy_of_none (Option.map_eq_none_iff.1 h), h, if_pos (show (-1 : Int) ≠ 0 by decide)]
  exact hbad

/-- A select whose rows are fetched at once, from an object without rows. -/
theorem tells_select_some {β : Type} {bad : SqlScript β} {k : MysqlResult → SqlScript β} {res : Fetched}
    {Q : List SqlEvent → C β → SqlApi → Prop} (hs : Clean s)
    (h : client.fetches s.connection.queries stmt s.db = some res)
    (hk : Script.Tells (sqlApi client) (k res.result) { s.sent client stmt with mysqlResult := {} } fun t =>
      Q (.select stmt (some res) :: .getResult res.result :: t)) :
    Script.Tells (sqlApi client) (do
      let ret ← Scripts.select stmt
      if ret ≠ 0 then bad
      else do
        let r ← Scripts.getResult
        k r) s Q := by
  obtain ⟨got, hgot, rfl⟩ := Option.map_eq_some_iff.1 h
  have hfetched : fetched (client.freed s.connection.queries) s.mysqlResult got =
      ⟨got.rows.mapIdx (client.freed s.connection.queries), got.rows.length, got.num_fields⟩ := by
    rw [fetched, show s.mysqlResult.mysqlRowVec = [] from hs]
    rfl
  refine Script.tells_perform_bind ?_
  show Script.Tells (sqlApi client) (if (s.selectBy client stmt).1 ≠ 0 then bad else _) (s.selectBy client stmt).2
    fun t => Q (.select stmt (client.fetches s.connection.queries stmt s.db) :: t)
  rw [selectBy_of_some hgot, h, if_neg (not_not.2 rfl), hfetched]
  exact Script.tells_perform_bind hk

theorem run_select (hreads : stmt.reads = true) :
    (Scripts.select stmt).run (sqlApi client) = SqlApi.select client.server stmt := by
  funext s
  show (.ok (s.selectBy client stmt).1, (s.selectBy client stmt).2) = SqlApi.select client.server stmt s
  rw [select_eq, bind_run_ok ask_run]
  cases hd : client.delivers s.connection.queries stmt s.db with
  | none =>
    have ha : client.server.answer s.connection.queries stmt s.db = .failed := by
      simp only [Mysql.answer, MysqlClient.server, hreads, if_true, hd]
    rw [ha, selectBy_of_none hd]
    rfl
  | some res =>
    have ha : client.server.answer s.connection.queries stmt s.db =
        .done res.num_fields (res.rows.mapIdx (client.freed s.connection.queries)) := by
      simp only [Mysql.answer, MysqlClient.server, hreads, if_true, hd]
    rw [ha, selectBy_of_some hd]
    simp only [fetched]
    show _ = (Except.ok (0 : Int), SqlApi.mk _ ⟨_, _, _⟩)
    rw [List.length_mapIdx]
    rfl

/-- An insert and an update are the same to the client library. -/
theorem writeBy_run (hreads : stmt.reads = false) :
    (.ok (s.writeBy client stmt).1, (s.writeBy client stmt).2) = SqlApi.insert client.server stmt s := by
  rw [SqlApi.insert, bind_run_ok mysqlQuery_run, writeBy]
  by_cases hq : client.mysql_query s.connection.queries stmt s.db ≠ 0
  · have ha : (client.server.query s.connection.queries stmt s.db).1 = .failed := by
      simp only [MysqlClient.server, hreads, Bool.false_eq_true, if_false, if_pos hq]
    rw [ha, if_pos hq]
    rfl
  · have ha : (client.server.query s.connection.queries stmt s.db).1 = .done 0 [] := by
      simp only [MysqlClient.server, hreads, Bool.false_eq_true, if_false, if_neg hq]
    rw [ha, if_neg hq]
    rfl

theorem run_insert (hreads : stmt.reads = false) :
    (Scripts.insert stmt).run (sqlApi client) = SqlApi.insert client.server stmt :=
  funext fun _ => writeBy_run hreads

theorem run_update (hreads : stmt.reads = false) :
    (Scripts.update stmt).run (sqlApi client) = SqlApi.update client.server stmt :=
  funext fun _ => writeBy_run hreads

theorem run_getResult : Scripts.getResult.run (sqlApi client) = SqlApi.getResult := rfl

theorem run_time : Scripts.time.run (sqlApi client) = SqlApi.time client.server := rfl

theorem lift_cell (result : MysqlResult) (i j : Nat) :
    (Proc.lift (Scripts.cell result i j) : Proc SqlApi Text) = SqlApi.field result i j := by
  unfold Scripts.cell SqlApi.field
  cases (result.mysqlRowVec[i]?).bind (·[j]?) with
  | some t => rfl
  | none => rfl

end

section

variable (client : MysqlClient) (u p : Text) (fd : Int)

open Script

theorem run_isValidUserNameAndPassWord :
    (Scripts.Loginer.isValidUserNameAndPassWord u p).run (sqlApi client) =
      Loginer.isValidUserNameAndPassWord client.server u p := by
  simp only [Scripts.Loginer.isValidUserNameAndPassWord, run_bind, @run_select client (.countPassword u p) rfl, run_ite, run_getResult, run_lift,
    lift_cell, run_pure]
  rfl

theorem run_isAlreadyLogined :
    (Scripts.Loginer.isAlreadyLogined u).run (sqlApi client) = Loginer.isAlreadyLogined client.server u := by
  simp only [Scripts.Loginer.isAlreadyLogined, run_bind, @run_select client (.countLogined u) rfl, run_ite, run_getResult, run_lift,
    lift_cell, run_pure]
  rfl

theorem run_login : (Scripts.Loginer.login u p fd).run (sqlApi client) = Loginer.login client.server u p fd := by
  simp only [Scripts.Loginer.login, run_bind, run_time, fun t => @run_insert client (.insertLogin u p fd t) rfl, run_ite, run_pure]
  rfl

theorem run_getAlreadyLoginedClientFd :
    (Scripts.Loginer.getAlreadyLoginedClientFd u).run (sqlApi client) =
      Loginer.getAlreadyLoginedClientFd client.server u := by
  simp only [Scripts.Loginer.getAlreadyLoginedClientFd, run_bind, @run_select client (.selectLogined u) rfl, run_ite, run_getResult, run_lift,
    lift_cell, run_pure]
  rfl

theorem run_setLogoutStatusThenLogin (id : Nat) :
    (Scripts.Loginer.setLogoutStatusThenLogin id u p fd).run (sqlApi client) =
      Loginer.setLogoutStatusThenLogin client.server id u p fd := by
  simp only [Scripts.Loginer.setLogoutStatusThenLogin, run_bind, @run_update client (.updateStatus id) rfl, run_ite, run_login, run_pure]
  rfl

/-- The script of a login runs as `Loginer::processLogin`. -/
theorem run_processLogin :
    (Scripts.Loginer.processLogin u p fd).run (sqlApi client) = Loginer.processLogin client.server u p fd := by
  simp only [Scripts.Loginer.processLogin, Scripts.Loginer.letIn, Scripts.Loginer.displace, run_bind, run_isValidUserNameAndPassWord,
    run_isAlreadyLogined, run_login, run_getAlreadyLoginedClientFd, run_setLogoutStatusThenLogin, run_ite, run_pure]
  rfl

theorem run_processLogout :
    (Scripts.Loginer.processLogout u).run (sqlApi client) = Loginer.processLogout client.server u := by
  simp only [Scripts.Loginer.processLogout, run_bind, @run_select client (.selectLoginedId u) rfl, run_ite, run_getResult, run_lift, lift_cell,
    fun id => @run_update client (.updateStatus id) rfl, run_pure]
  rfl

theorem run_isAlreadyRegist :
    (Scripts.Register.isAlreadyRegist u).run (sqlApi client) = Register.isAlreadyRegist client.server u := by
  simp only [Scripts.Register.isAlreadyRegist, run_bind, @run_select client (.countRegist u) rfl, run_ite, run_getResult, run_lift,
    lift_cell, run_pure]
  rfl

theorem run_regist : (Scripts.Register.regist u p).run (sqlApi client) = Register.regist client.server u p := by
  simp only [Scripts.Register.regist, run_bind, run_time, fun t => @run_insert client (.insertPassword u p t) rfl, run_ite, run_pure]
  rfl

theorem run_processRegist (msg : Text) :
    (Scripts.Register.processRegist u p msg).run (sqlApi client) =
      Register.processRegist client.server u p msg := by
  simp only [Scripts.Register.processRegist, run_bind, run_isAlreadyRegist, run_regist, run_ite, run_pure]
  rfl

end

end SingleTerminalLogin
