import SingleTerminalLogin.Lib.ByteText

/-!
# The two tables and the statements sent to them

`user.t_user_password` holds who is registered, `user.t_user_login` one row for
every login there ever was.  `Stmt` lists the statements the login manager
builds; `Stmt.text` is the text it sends for each.

The database server is not part of the repository.  `Mysql` is any server, and
`LiteralOn P` says what is relied on: a statement whose names all satisfy `P`
works on exactly the rows its where clause names, with the names taken as values.
Any statement may fail, and a failed insert or update may have happened all the
same.  Where that would break a result, `ServedBy False P` excludes it.

Nor is the client library, whose results the login manager frees before it reads
them.  What it reads then is any; `KeepsFreed` says that it is what was there before,
which the library does not promise.
-/

namespace SingleTerminalLogin

open ByteText

/-! ## Tables -/

/-- A row of `user.t_user_login`. -/
structure LoginRow where
  fuiId : Nat
  fstrUserName : Text
  fstrPassWord : Text
  fuiFd : Int
  fuiStatus : Nat
  fuiCreateTime : Int
  deriving DecidableEq

/-- A row of `user.t_user_password`. -/
structure PasswordRow where
  fstrUserName : Text
  fstrPassWord : Text
  fuiCreateTime : Int
  deriving DecidableEq

/-- The database `user`. -/
structure Db where
  t_user_login : List LoginRow := []
  t_user_password : List PasswordRow := []
  deriving DecidableEq

/-- Is this an active row of the user, `FstrUserName = u and FuiStatus = 1`? -/
def LoginRow.activeOf (userName : Text) (r : LoginRow) : Bool :=
  r.fstrUserName = userName && r.fuiStatus = 1

namespace Db

/-- The active rows of a user. -/
def active (db : Db) (userName : Text) : List LoginRow :=
  db.t_user_login.filter (LoginRow.activeOf userName)

/-- The rows `FstrUserName = u and FstrPassWord = p` of `t_user_password`. -/
def passwordRows (db : Db) (userName passWord : Text) : List PasswordRow :=
  db.t_user_password.filter fun r => r.fstrUserName = userName && r.fstrPassWord = passWord

/-- The rows `FstrUserName = u` of `t_user_password`. -/
def registRows (db : Db) (userName : Text) : List PasswordRow :=
  db.t_user_password.filter fun r => r.fstrUserName = userName

/-- What an insert into `t_user_login` adds. -/
def insertLogin (db : Db) (r : LoginRow) : Db := { db with t_user_login := db.t_user_login ++ [r] }

/-- What an insert into `t_user_password` adds. -/
def insertPassword (db : Db) (r : PasswordRow) : Db :=
  { db with t_user_password := db.t_user_password ++ [r] }

/-- `update user.t_user_login set FuiStatus = 2 where FuiId = id`. -/
def logoutRow (db : Db) (id : Int) : Db :=
  { db with t_user_login :=
      db.t_user_login.map fun r => if (r.fuiId : Int) = id then { r with fuiStatus := 2 } else r }

/-- What is assumed of `FuiId`: unique, positive, and it fits an `int`. -/
structure IdsFit (db : Db) : Prop where
  unique : (db.t_user_login.map LoginRow.fuiId).Nodup
  positive : ∀ r ∈ db.t_user_login, 0 < r.fuiId
  fits : ∀ r ∈ db.t_user_login, r.fuiId < 2 ^ 31

end Db

/-! ## Statements -/

/-- The statements the login manager builds. -/
inductive Stmt where
  /-- `Loginer::isValidUserNameAndPassWord`. -/
  | countPassword (userName passWord : Text)
  /-- `Loginer::isAlreadyLogined`. -/
  | countLogined (userName : Text)
  /-- `Loginer::login`. -/
  | insertLogin (userName passWord : Text) (sendToClientFd time : Int)
  /-- `Loginer::getAlreadyLoginedClientFd`. -/
  | selectLogined (userName : Text)
  /-- `Loginer::setLogoutStatusThenLogin` and `Loginer::processLogout`. -/
  | updateStatus (fuiId : Int)
  /-- `Loginer::processLogout`. -/
  | selectLoginedId (userName : Text)
  /-- `Register::isAlreadyRegist`. -/
  | countRegist (userName : Text)
  /-- `Register::regist`. -/
  | insertPassword (userName passWord : Text) (time : Int)

namespace Stmt

/-- The text sent to the server. -/
def text : Stmt → Text
  | countPassword u p =>
    ascii "select count(1) from user.t_user_password where FstrUserName = '" ++ u ++
      ascii "' and FstrPassWord = '" ++ p ++ ascii "'"
  | countLogined u =>
    ascii "select count(1) from user.t_user_login where FstrUserName = '" ++ u ++
      ascii "' and FuiStatus = 1"
  | insertLogin u p fd time =>
    ascii "insert into user.t_user_login (FstrUserName,FstrPassWord,FuiFd,FuiStatus,FuiCreateTime) values ('" ++
      u ++ ascii "', '" ++ p ++ ascii "', " ++ intText fd ++ ascii ", 1, " ++ intText time ++ ascii ")"
  | selectLogined u =>
    ascii "select FuiId,FuiFd from user.t_user_login where FstrUserName = '" ++ u ++
      ascii "' and FuiStatus = 1"
  | updateStatus id =>
    ascii "update user.t_user_login set FuiStatus = 2 where FuiId = " ++ intText id
  | selectLoginedId u =>
    ascii "select FuiId from user.t_user_login where FstrUserName = '" ++ u ++
      ascii "' and FuiStatus = 1"
  | countRegist u =>
    ascii "select count(1) from user.t_user_password where FstrUserName = '" ++ u ++ ascii "'"
  | insertPassword u p time =>
    ascii "insert into user.t_user_password (FstrUserName, FstrPassWord, FuiCreateTime) values ('" ++
      u ++ ascii "' ,'" ++ p ++ ascii "', " ++ intText time ++ ascii ")"

/-- The user names and passwords written into the text. -/
def names : Stmt → List Text
  | countPassword u p => [u, p]
  | countLogined u => [u]
  | insertLogin u p _ _ => [u, p]
  | selectLogined u => [u]
  | updateStatus _ => []
  | selectLoginedId u => [u]
  | countRegist u => [u]
  | insertPassword u p _ => [u, p]

/-- How many columns the answer has. -/
def fieldsCount : Stmt → Nat
  | selectLogined _ => 2
  | _ => 1

/-- The rows of the answer, as text. -/
def rows (db : Db) : Stmt → List (List Text)
  | countPassword u p => [[natText (db.passwordRows u p).length]]
  | countLogined u => [[natText (db.active u).length]]
  | selectLogined u => (db.active u).map fun r => [natText r.fuiId, intText r.fuiFd]
  | selectLoginedId u => (db.active u).map fun r => [natText r.fuiId]
  | countRegist u => [[natText (db.registRows u).length]]
  | _ => []

/-- What the statement does to the tables when it happens. -/
def Effect (db db' : Db) : Stmt → Prop
  | insertLogin u p fd time =>
    ∃ id, 0 < id ∧ id < 2 ^ 31 ∧ (∀ r ∈ db.t_user_login, r.fuiId ≠ id) ∧
      db' = db.insertLogin ⟨id, u, p, fd, 1, time⟩
  | insertPassword u p time => db' = db.insertPassword ⟨u, p, time⟩
  | updateStatus id => db' = db.logoutRow id
  | _ => db' = db

end Stmt

/-! ## The server -/

/-- What the server answers. -/
inductive Answer where
  | failed
  | done (fieldsCount : Nat) (rows : List (List Text))
  deriving DecidableEq

/-- Any server with its client library, and the clock of the machine.  All may behave
differently at every statement, so the statements are numbered. -/
structure Mysql where
  query : Nat → Stmt → Db → Answer × Db
  /-- What is read through the pointer to a row, the one of that index in the result of
  the statement of that number, when `mysql_free_result` has freed it. -/
  freed : Nat → Nat → List Text → List Text
  /-- `time(NULL)` when the statement of that number is built. -/
  time : Nat → Int

/-- The statement fails, if it is the one of that number. -/
def Mysql.Fails (m : Mysql) (number : Nat) (stmt : Stmt) (db : Db) : Prop :=
  (m.query number stmt db).1 = .failed

instance (m : Mysql) (number : Nat) (stmt : Stmt) (db : Db) : Decidable (m.Fails number stmt db) :=
  inferInstanceAs (Decidable (_ = _))

/-- The answer as it is read by who looks at its rows when they have been freed. -/
def Mysql.answer (m : Mysql) (number : Nat) (stmt : Stmt) (db : Db) : Answer :=
  match (m.query number stmt db).1 with
  | .failed => .failed
  | .done fieldsCount rows => .done fieldsCount (rows.mapIdx (m.freed number))

theorem Mysql.answer_eq_failed {m : Mysql} {number : Nat} {stmt : Stmt} {db : Db} :
    m.answer number stmt db = .failed ↔ m.Fails number stmt db := by
  unfold answer Fails
  cases (m.query number stmt db).1 with
  | failed => exact iff_of_true rfl rfl
  | done fieldsCount rows => exact iff_of_false Answer.noConfusion Answer.noConfusion

/-- Freed rows are read as they were. -/
def Mysql.KeepsFreed (m : Mysql) : Prop := ∀ number i row, m.freed number i row = row

/-- Then it makes no difference that they were freed. -/
theorem Mysql.KeepsFreed.answer {m : Mysql} (h : m.KeepsFreed) (number : Nat) (stmt : Stmt) (db : Db) :
    m.answer number stmt db = (m.query number stmt db).1 := by
  unfold Mysql.answer
  cases (m.query number stmt db).1 with
  | failed => rfl
  | done fieldsCount rows =>
    have hrows : rows.mapIdx (m.freed number) = rows :=
      List.ext_getElem List.length_mapIdx fun i _ _ => by rw [List.getElem_mapIdx, h]
    simp only [hrows]

/-- A statement that is executed as it is meant, or fails.  Whether a failed one may
have happened is `torn`. -/
def Executes (torn : Prop) (stmt : Stmt) (db : Db) : Answer → Db → Prop
  | .failed, db' => db' = db ∨ torn ∧ stmt.Effect db db'
  | .done fieldsCount rows, db' =>
    stmt.Effect db db' ∧ fieldsCount = stmt.fieldsCount ∧ rows.Perm (stmt.rows db)

/-- The server executes every statement as it is meant whose names satisfy `P`, and the
freed rows of its answers are read as they were. -/
structure ServedBy (torn : Prop) (P : Text → Prop) (m : Mysql) : Prop where
  executes : ∀ t stmt db, (∀ n ∈ stmt.names, P n) →
    Executes torn stmt db (m.query t stmt db).1 (m.query t stmt db).2
  keepsFreed : m.KeepsFreed

/-- What is read of the answer is what was asked for. -/
theorem ServedBy.answers {torn : Prop} {P : Text → Prop} {m : Mysql} (hm : ServedBy torn P m) (t : Nat)
    (stmt : Stmt) (db : Db) (hP : ∀ n ∈ stmt.names, P n) :
    Executes torn stmt db (m.answer t stmt db) (m.query t stmt db).2 := by
  rw [hm.keepsFreed.answer]
  exact hm.executes t stmt db hP

/-- The same, when a failed statement may have happened. -/
def LiteralOn (P : Text → Prop) (m : Mysql) : Prop := ServedBy True P m

/-- The server takes every name as a value. -/
def Literal (m : Mysql) : Prop := LiteralOn (fun _ => True) m

/-- A server that keeps the tables in memory and fails only when it runs out of
ids. -/
def memoryServer : Mysql where
  time _ := 0
  freed _ _ row := row
  query _ stmt db :=
    match stmt with
    | .insertLogin u p fd time =>
      let id := (db.t_user_login.map LoginRow.fuiId).foldl max 0 + 1
      if id < 2 ^ 31 then (.done 1 [], db.insertLogin ⟨id, u, p, fd, 1, time⟩) else (.failed, db)
    | .insertPassword u p time => (.done 1 [], db.insertPassword ⟨u, p, time⟩)
    | .updateStatus id => (.done 1 [], db.logoutRow id)
    | stmt => (.done stmt.fieldsCount (stmt.rows db), db)

theorem le_foldl_max (ids : List Nat) (a : Nat) : a ≤ ids.foldl max a ∧ ∀ n ∈ ids, n ≤ ids.foldl max a := by
  induction ids generalizing a with
  | nil => exact ⟨le_rfl, fun n hn => by cases hn⟩
  | cons b ids ih =>
    obtain ⟨h1, h2⟩ := ih (max a b)
    refine ⟨le_trans (le_max_left a b) h1, fun n hn => ?_⟩
    rcases List.mem_cons.1 hn with rfl | hn
    · exact le_trans (le_max_right a n) h1
    · exact h2 n hn

theorem servedBy_memoryServer (torn : Prop) (P : Text → Prop) : ServedBy torn P memoryServer := by
  refine ⟨fun t stmt db _ => ?_, fun _ _ _ => rfl⟩
  cases stmt with
  | insertLogin u p fd time =>
    simp only [memoryServer]
    split
    · rename_i h
      refine ⟨⟨_, Nat.succ_pos _, h, fun r hr => ?_, rfl⟩, rfl, List.Perm.refl _⟩
      have := (le_foldl_max (db.t_user_login.map LoginRow.fuiId) 0).2 r.fuiId (List.mem_map_of_mem hr)
      omega
    · exact Or.inl rfl
  | insertPassword u p time => exact ⟨rfl, rfl, List.Perm.refl _⟩
  | updateStatus id => exact ⟨rfl, rfl, List.Perm.refl _⟩
  | countPassword u p => exact ⟨rfl, rfl, List.Perm.refl _⟩
  | countLogined u => exact ⟨rfl, rfl, List.Perm.refl _⟩
  | selectLogined u => exact ⟨rfl, rfl, List.Perm.refl _⟩
  | selectLoginedId u => exact ⟨rfl, rfl, List.Perm.refl _⟩
  | countRegist u => exact ⟨rfl, rfl, List.Perm.refl _⟩

theorem literal_memoryServer : Literal memoryServer := servedBy_memoryServer _ _

end SingleTerminalLogin
