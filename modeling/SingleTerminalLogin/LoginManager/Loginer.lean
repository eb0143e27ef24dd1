import SingleTerminalLogin.Sql.SqlApi

/-!
# `Loginer`

Login and logout, `loginManager/login/loginer.cpp`.  A login is up to five
statements sent one after the other without a transaction, and each of them may
fail.

* `processLogin`, `processLogout` and the functions they call, as the source has
  them;
* `LoginOutcome`, `LogoutOutcome` — everything a call can do to the tables,
  together with what it answers then;
* `processLogin_ends`, `processLogout_ends` — a call does one of these things.
-/

namespace SingleTerminalLogin

open ByteText CProgram Proc

/-- `REGIST_LOGIN_CODE`. -/
inductive RegistLoginCode where
  | SUCCESS
  | SYSTEM_ERROR
  | DB_OP_FAILED
  | ALREADY_REGIST
  | ALREADY_LOGINED
  | USERNAME_OR_PASSWD_ERROR
  deriving DecidableEq, Repr

/-- The numbers of `code.h`. -/
def RegistLoginCode.value : RegistLoginCode → Int
  | SUCCESS => 0
  | SYSTEM_ERROR => -1
  | DB_OP_FAILED => -2
  | ALREADY_REGIST => -3
  | ALREADY_LOGINED => -4
  | USERNAME_OR_PASSWD_ERROR => -5

/-- The return value of a call and its `code` and `msg` parameters. -/
structure Reply where
  ret : Int
  code : RegistLoginCode
  msg : Text
  deriving DecidableEq

/-- The same for `processLogin`, which also sets `logoutFd`. -/
structure LoginReply extends Reply where
  logoutFd : Int
  deriving DecidableEq

/-- `int n = strtoull(text, NULL, 0)`. -/
def readInt (t : Text) : Int := wrap32 (strtoull t)

/-- The number the login manager reads out of a row. -/
def readId (row : LoginRow) : Nat := (readInt (natText row.fuiId) % 2 ^ 64).toNat

namespace Loginer

open SqlApi

variable (m : Mysql)

/-- `Loginer::isValidUserNameAndPassWord`: the return value and `isValid`. -/
def isValidUserNameAndPassWord (userName passWord : Text) : Proc SqlApi (Int × Bool) := do
  let ret ← select m (.countPassword userName passWord)
  if ret ≠ 0 then pure (-1, false)
  else do
    let mysqlResult ← getResult
    lift (assert (mysqlResult.rowsCount = 1))
    lift (assert (mysqlResult.fieldsCount = 1))
    let count ← field mysqlResult 0 0
    pure (0, readInt count ≠ 0)

/-- `Loginer::isAlreadyLogined`.  When the select fails it returns `-1`, which is
`true`. -/
def isAlreadyLogined (userName : Text) : Proc SqlApi Bool := do
  let ret ← select m (.countLogined userName)
  if ret ≠ 0 then pure true
  else do
    let mysqlResult ← getResult
    lift (assert (mysqlResult.rowsCount = 1))
    lift (assert (mysqlResult.fieldsCount = 1))
    let count ← field mysqlResult 0 0
    pure (readInt count ≠ 0)

/-- `Loginer::login`. -/
def login (userName passWord : Text) (sendToClientFd : Int) : Proc SqlApi Int := do
  let time ← time m
  let ret ← insert m (.insertLogin userName passWord sendToClientFd time)
  if ret ≠ 0 then pure (-1) else pure 0

/-- `Loginer::getAlreadyLoginedClientFd`: the return value, `sendToClientFd` and
`fuiId`.  Both numbers go through an `int`. -/
def getAlreadyLoginedClientFd (userName : Text) : Proc SqlApi (Int × Int × Nat) := do
  let ret ← select m (.selectLogined userName)
  if ret ≠ 0 then pure (-1, 0, 0)
  else do
    let mysqlResult ← getResult
    lift (assert (mysqlResult.rowsCount = 1))
    lift (assert (mysqlResult.fieldsCount = 2))
    let id ← field mysqlResult 0 0
    let fd ← field mysqlResult 0 1
    pure (0, readInt fd, (readInt id % 2 ^ 64).toNat)

/-- `Loginer::setLogoutStatusThenLogin`. -/
def setLogoutStatusThenLogin (fuiId : Nat) (userName passWord : Text) (sendToClientFd : Int) :
    Proc SqlApi Int := do
  let ret ← update m (.updateStatus fuiId)
  if ret ≠ 0 then pure (-1)
  else login m userName passWord sendToClientFd

/-- `Loginer::processLogin`. -/
def processLogin (userName passWord : Text) (sendToClientFd : Int) : Proc SqlApi LoginReply := do
  let r ← isValidUserNameAndPassWord m userName passWord
  if r.1 < 0 then
    pure ⟨⟨-1, .SYSTEM_ERROR, ascii "select DB data failed!"⟩, -1⟩
  else if !r.2 then
    pure ⟨⟨-1, .USERNAME_OR_PASSWD_ERROR, ascii "userName or passWord error!"⟩, -1⟩
  else do
    let logined ← isAlreadyLogined m userName
    if !logined then do
      let ret ← login m userName passWord sendToClientFd
      if ret ≠ 0 then
        pure ⟨⟨-1, .DB_OP_FAILED, ascii "system error: insert data into DB failed!"⟩, -1⟩
      else pure ⟨⟨0, .SUCCESS, ascii "login success!"⟩, -1⟩
    else do
      let r ← getAlreadyLoginedClientFd m userName
      if r.1 ≠ 0 then
        pure ⟨⟨-1, .SYSTEM_ERROR, ascii "system error: Get already logined client fd failed!"⟩, -1⟩
      else do
        -- the descriptor to send the notice to is set before the tables change
        let logoutFd := r.2.1
        let ret ← setLogoutStatusThenLogin m r.2.2 userName passWord sendToClientFd
        if ret ≠ 0 then
          pure ⟨⟨-1, .SYSTEM_ERROR, ascii "system error: update DB data failed!"⟩, logoutFd⟩
        else pure ⟨⟨0, .SUCCESS, ascii "login success!"⟩, logoutFd⟩

/-- `Loginer::processLogout`. -/
def processLogout (userName : Text) : Proc SqlApi Reply := do
  let ret ← select m (.selectLoginedId userName)
  if ret ≠ 0 then
    pure ⟨-1, .DB_OP_FAILED, ascii "SYSTEM ERROR: select data from DB failed!"⟩
  else do
    let mysqlResult ← getResult
    if mysqlResult.rowsCount ≤ 0 then pure ⟨0, .SUCCESS, ascii "logout success!"⟩
    else do
      lift (assert (mysqlResult.fieldsCount = 1))
      let id ← field mysqlResult 0 0
      let ret ← update m (.updateStatus (readInt id))
      if ret ≠ 0 then
        pure ⟨-1, .DB_OP_FAILED, ascii "SYSTEM ERROR: update data to DB failed!"⟩
      else pure ⟨0, .SUCCESS, ascii "logout success!"⟩

/-! ## What the functions do -/

/-- What `int count = strtoul(..)` makes of a number of rows: is there any? -/
def counted (n : Nat) : Bool := readInt (natText n) ≠ 0

theorem readInt_natText {n : Nat} (h : n < 2 ^ 31) : readInt (natText n) = n := by
  rw [readInt, strtoull_natText (by omega)]
  exact wrap32_eq_self (by omega) (by omega)

theorem readInt_intText {n : Int} (h0 : 0 ≤ n) (h : n < 2 ^ 31) : readInt (intText n) = n := by
  rw [intText, if_neg (by omega), readInt_natText (by omega)]
  exact Int.toNat_of_nonneg h0

theorem counted_eq {n : Nat} (h : n < 2 ^ 31) : counted n = decide (n ≠ 0) := by
  unfold counted
  rw [readInt_natText h]
  simp

section

variable {torn : Prop} {m : Mysql} {P : Text → Prop} {s : SqlApi} {u p : Text}

/-- A `select count(1)`: one row with one column, whatever the tables hold. -/
theorem ends_count {β : Type} {stmt : Stmt} {bad : Proc SqlApi β} {k : Text → Proc SqlApi β}
    {Q : C β → SqlApi → Prop} {n : Nat} (hm : ServedBy torn P m) (hP : ∀ x ∈ stmt.names, P x)
    (hselect : ∀ db', stmt.Effect s.db db' → db' = s.db) (hs : Clean s)
    (hrows : stmt.rows s.db = [[natText n]]) (hfields : stmt.fieldsCount = 1)
    (hbad : ∀ s', Missed s s' → Ends bad s' Q)
    (hk : ∀ s', Same s s' → Ends (k (natText n)) s' Q) :
    Ends (do
      let ret ← select m stmt
      if ret ≠ 0 then bad
      else do
        let mysqlResult ← getResult
        lift (assert (mysqlResult.rowsCount = 1))
        lift (assert (mysqlResult.fieldsCount = 1))
        let count ← field mysqlResult 0 0
        k count) s Q := by
  refine ends_fetch hm hP hselect hs hbad fun rows s' hperm hsame => ?_
  rw [hrows, List.perm_singleton] at hperm
  subst hperm
  refine ends_assert (fun _ => ?_) (fun h => absurd rfl h)
  refine ends_assert (fun _ => ?_) (fun h => absurd hfields h)
  exact hk s' hsame

theorem isValidUserNameAndPassWord_ends (hm : ServedBy torn P m) (hu : P u) (hp : P p) (hs : Clean s) :
    Ends (isValidUserNameAndPassWord m u p) s fun r s' => ∃ a, r = .ok a ∧
      ((a.1 = -1 ∧ Missed s s') ∨
        (a.1 = 0 ∧ a.2 = counted (s.db.passwordRows u p).length ∧ Same s s')) := by
  refine ends_count hm ?_ (fun _ h => h) hs rfl rfl ?_ ?_
  · simpa [Stmt.names] using ⟨hu, hp⟩
  · exact fun s' h => ends_pure ⟨_, rfl, Or.inl ⟨rfl, h⟩⟩
  · intro s' h
    refine ends_pure ⟨_, rfl, Or.inr ⟨rfl, ?_, h⟩⟩
    simp only [counted]

theorem isAlreadyLogined_ends (hm : ServedBy torn P m) (hu : P u) (hs : Clean s) :
    Ends (isAlreadyLogined m u) s fun r s' => ∃ b, r = .ok b ∧
      ((b = true ∧ Missed s s') ∨ (b = counted (s.db.active u).length ∧ Same s s')) := by
  refine ends_count hm ?_ (fun _ h => h) hs rfl rfl ?_ ?_
  · simpa [Stmt.names] using hu
  · exact fun s' h => ends_pure ⟨_, rfl, Or.inl ⟨rfl, h⟩⟩
  · exact fun s' h => ends_pure ⟨_, rfl, Or.inr ⟨rfl, h⟩⟩

/-- The tables after a row for this login was inserted. -/
def Logined (u p : Text) (fd : Int) (db db' : Db) : Prop :=
  ∃ time, (Stmt.insertLogin u p fd time).Effect db db'

/-- What `Loginer::login` does: the row is there, or the insert failed. -/
def Inserted (torn : Prop) (u p : Text) (fd : Int) (s : SqlApi) (ret : Int) (s' : SqlApi) : Prop :=
  (ret = 0 ∧ Logined u p fd s.db s'.db ∧ s'.connection.failures = s.connection.failures) ∨
    (ret = -1 ∧ (s'.db = s.db ∨ torn ∧ Logined u p fd s.db s'.db) ∧
      s.connection.failures < s'.connection.failures)

theorem login_ends (hm : ServedBy torn P m) (hu : P u) (hp : P p) (hs : Clean s) (fd : Int) :
    Ends (login m u p fd) s fun r s' => ∃ ret, r = .ok ret ∧
      Inserted torn u p fd s ret s' := by
  refine ends_bind_ok (R := fun t s' => t = m.time s.connection.queries ∧ s' = s) ⟨_, rfl, rfl, rfl⟩ ?_
  rintro time s' ⟨rfl, rfl⟩
  have hnames : ∀ n ∈ (Stmt.insertLogin u p fd (m.time s'.connection.queries)).names, P n := by
    simpa [Stmt.names] using ⟨hu, hp⟩
  refine ends_bind_ok (insert_ends hm hnames hs) ?_
  rintro ret s'' ⟨-, ⟨rfl, heffect, hfail⟩ | ⟨rfl, heffect, hfail⟩⟩
  · rw [if_neg (by decide)]
    exact ends_pure ⟨_, rfl, Or.inl ⟨rfl, ⟨_, heffect⟩, hfail⟩⟩
  · rw [if_pos (by decide)]
    exact ends_pure ⟨_, rfl,
      Or.inr ⟨rfl, heffect.imp_right fun h => ⟨h.1, _, h.2⟩, hfail⟩⟩

/-- The descriptor the login manager reads out of a row. -/
def readFd (row : LoginRow) : Int := readInt (intText row.fuiFd)

theorem getAlreadyLoginedClientFd_ends (hm : ServedBy torn P m) (hu : P u) (hs : Clean s)
    (hids : s.db.IdsFit) :
    Ends (getAlreadyLoginedClientFd m u) s fun r s' =>
      (∃ a, r = .ok a ∧ a.1 = -1 ∧ Missed s s') ∨
      (∃ row, s.db.active u = [row] ∧ r = .ok (0, readFd row, row.fuiId) ∧ Same s s') ∨
      (r = .error .assertFailed ∧ (s.db.active u).length ≠ 1 ∧ Same s s') := by
  refine ends_fetch hm ?_ (fun _ h => h) hs ?_ fun rows s' hperm hsame => ?_
  · simpa [Stmt.names] using hu
  · exact fun s' h => ends_pure (Or.inl ⟨_, rfl, rfl, h⟩)
  have hlen : rows.length = (s.db.active u).length := by
    rw [hperm.length_eq, Stmt.rows, List.length_map]
  refine ends_assert (fun h => ?_) (fun h => Or.inr (Or.inr ⟨rfl, ?_, hsame⟩))
  · refine ends_assert (fun _ => ?_) (fun h => absurd rfl h)
    obtain ⟨row, hrow⟩ := List.length_eq_one_iff.1 (hlen ▸ h)
    rw [Stmt.rows, hrow, List.map_cons, List.map_nil, List.perm_singleton] at hperm
    subst hperm
    refine ends_bind_ok (R := fun a s'' => a = natText row.fuiId ∧ s'' = s') ⟨_, rfl, rfl, rfl⟩ ?_
    rintro id s'' ⟨rfl, rfl⟩
    refine ends_bind_ok (R := fun a s' => a = intText row.fuiFd ∧ s' = s'') ⟨_, rfl, rfl, rfl⟩ ?_
    rintro fd s' ⟨rfl, rfl⟩
    have hmem : row ∈ s.db.t_user_login := by
      have : row ∈ s.db.active u := by rw [hrow]; exact List.mem_singleton_self row
      exact (List.mem_filter.1 this).1
    have hfit := hids.fits row hmem
    have hid : (readInt (natText row.fuiId) % 2 ^ 64).toNat = row.fuiId := by
      rw [readInt_natText hfit]
      omega
    rw [hid]
    exact ends_pure (Or.inr (Or.inl ⟨row, hrow, rfl, hsame⟩))
  · rw [← hlen]
    exact h

/-- Both statements of the displacement go through, or one of them fails. -/
theorem setLogoutStatusThenLogin_ends (hm : ServedBy torn P m) (hu : P u) (hp : P p) (hs : Clean s)
    (id : Nat) (fd : Int) :
    Ends (setLogoutStatusThenLogin m id u p fd) s fun r s' => ∃ ret, r = .ok ret ∧
      ((ret = 0 ∧ Logined u p fd (s.db.logoutRow id) s'.db ∧
          s'.connection.failures = s.connection.failures) ∨
        (ret = -1 ∧ (s'.db = s.db ∨ s'.db = s.db.logoutRow id ∨
          torn ∧ Logined u p fd (s.db.logoutRow id) s'.db) ∧
          s.connection.failures < s'.connection.failures)) := by
  have hnames : ∀ n ∈ (Stmt.updateStatus id).names, P n := by
    intro n hn
    cases hn
  refine ends_bind_ok (update_ends hm hnames hs) ?_
  rintro ret s' ⟨hclean, ⟨rfl, heffect, hfail⟩ | ⟨rfl, heffect, hfail⟩⟩
  · rw [if_neg (by decide)]
    have hdb : s'.db = s.db.logoutRow id := heffect
    refine (login_ends hm hu hp hclean fd).imp ?_
    rintro r s'' ⟨ret, rfl, ⟨rfl, hin, hf⟩ | ⟨rfl, hin, hf⟩⟩
    · exact ⟨_, rfl, Or.inl ⟨rfl, hdb ▸ hin, hf.trans hfail⟩⟩
    · exact ⟨_, rfl, Or.inr ⟨rfl, Or.inr (hdb ▸ hin), hfail ▸ hf⟩⟩
  · rw [if_pos (by decide)]
    exact ends_pure ⟨_, rfl, Or.inr ⟨rfl, heffect.imp_right fun h => Or.inl h.2, hfail⟩⟩

end

/-! ## Login and logout -/

/-- Everything a login of `u` with password `p` from `fd` can do, and what it
answers then. -/
inductive LoginOutcome (torn : Prop) (u p : Text) (fd : Int) (s s' : SqlApi) : C LoginReply → Prop where
  /-- The password could not be looked up. -/
  | unchecked (h : Missed s s') : LoginOutcome torn u p fd s s'
      (.ok ⟨⟨-1, .SYSTEM_ERROR, ascii "select DB data failed!"⟩, -1⟩)
  /-- The password is wrong. -/
  | invalid (hv : counted (s.db.passwordRows u p).length = false) (h : Same s s') :
      LoginOutcome torn u p fd s s'
        (.ok ⟨⟨-1, .USERNAME_OR_PASSWD_ERROR, ascii "userName or passWord error!"⟩, -1⟩)
  /-- A first login. -/
  | first (hv : counted (s.db.passwordRows u p).length = true)
      (ha : counted (s.db.active u).length = false) (hd : Logined u p fd s.db s'.db)
      (hf : s'.connection.failures = s.connection.failures) :
      LoginOutcome torn u p fd s s' (.ok ⟨⟨0, .SUCCESS, ascii "login success!"⟩, -1⟩)
  /-- A first login whose insert failed. -/
  | firstFailed (hv : counted (s.db.passwordRows u p).length = true)
      (ha : counted (s.db.active u).length = false) (hd : s'.db = s.db ∨ torn ∧ Logined u p fd s.db s'.db)
      (hf : s.connection.failures < s'.connection.failures) :
      LoginOutcome torn u p fd s s'
        (.ok ⟨⟨-1, .DB_OP_FAILED, ascii "system error: insert data into DB failed!"⟩, -1⟩)
  /-- The recorded descriptor could not be looked up. -/
  | unlocated (hv : counted (s.db.passwordRows u p).length = true) (h : Missed s s') :
      LoginOutcome torn u p fd s s'
        (.ok ⟨⟨-1, .SYSTEM_ERROR, ascii "system error: Get already logined client fd failed!"⟩, -1⟩)
  /-- The assertion that there is one active row. -/
  | aborted (hv : counted (s.db.passwordRows u p).length = true)
      (ha : (s.db.active u).length ≠ 1) (hd : s'.db = s.db)
      (hle : s.connection.failures ≤ s'.connection.failures)
      (hf : counted (s.db.active u).length = true ∨
        s.connection.failures < s'.connection.failures) :
      LoginOutcome torn u p fd s s' (.error .assertFailed)
  /-- The earlier session is replaced. -/
  | displaced (row : LoginRow) (hv : counted (s.db.passwordRows u p).length = true)
      (ha : s.db.active u = [row]) (hd : Logined u p fd (s.db.logoutRow row.fuiId) s'.db)
      (hf : s.connection.failures ≤ s'.connection.failures) :
      LoginOutcome torn u p fd s s' (.ok ⟨⟨0, .SUCCESS, ascii "login success!"⟩, readFd row⟩)
  /-- The earlier session could not be ended, or the new one not be entered. -/
  | displaceFailed (row : LoginRow) (hv : counted (s.db.passwordRows u p).length = true)
      (ha : s.db.active u = [row])
      (hd : s'.db = s.db ∨ s'.db = s.db.logoutRow row.fuiId ∨
        torn ∧ Logined u p fd (s.db.logoutRow row.fuiId) s'.db)
      (hf : s.connection.failures < s'.connection.failures) :
      LoginOutcome torn u p fd s s'
        (.ok ⟨⟨-1, .SYSTEM_ERROR, ascii "system error: update DB data failed!"⟩, readFd row⟩)

section

variable {torn : Prop} {m : Mysql} {P : Text → Prop} {s : SqlApi} {u p : Text}

/-- The second half of `processLogin`, for a user who counts as logged in. -/
theorem displace_ends (hm : ServedBy torn P m) (hu : P u) (hp : P p) (fd : Int) {s₁ : SqlApi}
    (hids : s.db.IdsFit) (hdb : s₁.db = s.db) (hclean : Clean s₁)
    (hle : s.connection.failures ≤ s₁.connection.failures)
    (hv : counted (s.db.passwordRows u p).length = true)
    (hf : counted (s.db.active u).length = true ∨
      s.connection.failures < s₁.connection.failures) :
    Ends (do
      let r ← getAlreadyLoginedClientFd m u
      if r.1 ≠ 0 then
        pure ⟨⟨-1, .SYSTEM_ERROR, ascii "system error: Get already logined client fd failed!"⟩, -1⟩
      else do
        let logoutFd := r.2.1
        let ret ← setLogoutStatusThenLogin m r.2.2 u p fd
        if ret ≠ 0 then
          pure ⟨⟨-1, .SYSTEM_ERROR, ascii "system error: update DB data failed!"⟩, logoutFd⟩
        else pure ⟨⟨0, .SUCCESS, ascii "login success!"⟩, logoutFd⟩) s₁
      fun r s' => LoginOutcome torn u p fd s s' r := by
  refine ends_bind (getAlreadyLoginedClientFd_ends hm hu hclean (hdb ▸ hids)) ?_ ?_
  · rintro a s₂ (⟨b, hb, hret, hmiss⟩ | ⟨row, hrow, hb, hsame⟩ | ⟨hb, -⟩)
    · cases hb
      rw [if_pos (by rw [hret]; decide)]
      refine ends_pure (.unlocated hv ⟨hmiss.db.trans hdb, ?_, hmiss.clean⟩)
      exact lt_of_le_of_lt hle hmiss.failures
    · cases hb
      simp only [ne_eq, not_true_eq_false, if_false]
      refine ends_bind_ok (setLogoutStatusThenLogin_ends hm hu hp hsame.clean row.fuiId fd) ?_
      have hdb₂ : s₂.db = s.db := hsame.db.trans hdb
      rw [hdb] at hrow
      rw [hdb₂, hsame.failures]
      rintro ret s₃ (⟨rfl, hin, hf₃⟩ | ⟨rfl, hin, hf₃⟩)
      · rw [if_neg (by decide)]
        exact ends_pure (.displaced row hv hrow hin (hf₃ ▸ hle))
      · rw [if_pos (by decide)]
        exact ends_pure (.displaceFailed row hv hrow hin (lt_of_le_of_lt hle hf₃))
    · cases hb
  · rintro e s₂ (⟨b, hb, -⟩ | ⟨row, -, hb, -⟩ | ⟨hb, hlen, hsame⟩)
    · cases hb
    · cases hb
    · cases hb
      rw [hdb] at hlen
      refine .aborted hv hlen (hsame.db.trans hdb) ?_ ?_
      · rw [hsame.failures]
        exact hle
      · rw [hsame.failures]
        exact hf

/-- A login does one of the things `LoginOutcome` lists. -/
theorem processLogin_ends (hm : ServedBy torn P m) (hu : P u) (hp : P p) (hs : Clean s)
    (hids : s.db.IdsFit) (fd : Int) :
    Ends (processLogin m u p fd) s fun r s' => LoginOutcome torn u p fd s s' r := by
  refine ends_bind_ok (isValidUserNameAndPassWord_ends hm hu hp hs) ?_
  rintro a s₁ (⟨hret, hmiss⟩ | ⟨hret, hvalid, hsame⟩)
  · rw [if_pos (by rw [hret]; decide)]
    exact ends_pure (.unchecked hmiss)
  rw [if_neg (by rw [hret]; decide)]
  cases hv : counted (s.db.passwordRows u p).length with
  | false =>
    rw [hvalid, hv]
    exact ends_pure (.invalid hv hsame)
  | true =>
    rw [hvalid, hv]
    refine ends_bind_ok (isAlreadyLogined_ends hm hu hsame.clean) ?_
    rintro b s₂ (⟨rfl, hmiss⟩ | ⟨hb, hsame₂⟩)
    · have hmiss₂ := hsame.missed hmiss
      exact displace_ends hm hu hp fd hids hmiss₂.db hmiss₂.clean hmiss₂.failures.le hv
        (Or.inr hmiss₂.failures)
    rw [hsame.db] at hb
    have hsame₂ := hsame.trans hsame₂
    cases ha : counted (s.db.active u).length with
    | true =>
      rw [hb, ha]
      exact displace_ends hm hu hp fd hids hsame₂.db hsame₂.clean hsame₂.failures.ge hv (Or.inl ha)
    | false =>
      rw [hb, ha]
      refine ends_bind_ok (login_ends hm hu hp hsame₂.clean fd) ?_
      rintro ret s₃ (⟨rfl, hin, hf⟩ | ⟨rfl, hin, hf⟩)
      · rw [if_neg (by decide)]
        exact ends_pure (.first hv ha (hsame₂.db ▸ hin) (hf.trans hsame₂.failures))
      · rw [if_pos (by decide)]
        rw [hsame₂.db] at hin
        exact ends_pure (.firstFailed hv ha hin (hsame₂.failures ▸ hf))

/-- Everything a logout of `u` can do, and what it answers then. -/
inductive LogoutOutcome (torn : Prop) (u : Text) (s s' : SqlApi) : C Reply → Prop where
  /-- The rows could not be looked up. -/
  | unlocated (h : Missed s s') : LogoutOutcome torn u s s'
      (.ok ⟨-1, .DB_OP_FAILED, ascii "SYSTEM ERROR: select data from DB failed!"⟩)
  /-- There is no active row. -/
  | absent (ha : s.db.active u = []) (h : Same s s') :
      LogoutOutcome torn u s s' (.ok ⟨0, .SUCCESS, ascii "logout success!"⟩)
  /-- An active row ends. -/
  | ended (row : LoginRow) (ha : row ∈ s.db.active u) (hd : s'.db = s.db.logoutRow row.fuiId)
      (hf : s'.connection.failures = s.connection.failures) :
      LogoutOutcome torn u s s' (.ok ⟨0, .SUCCESS, ascii "logout success!"⟩)
  /-- The update failed. -/
  | endFailed (row : LoginRow) (ha : row ∈ s.db.active u)
      (hd : s'.db = s.db ∨ torn ∧ s'.db = s.db.logoutRow row.fuiId)
      (hf : s.connection.failures < s'.connection.failures) :
      LogoutOutcome torn u s s' (.ok ⟨-1, .DB_OP_FAILED, ascii "SYSTEM ERROR: update data to DB failed!"⟩)

/-- A logout does one of the things `LogoutOutcome` lists. -/
theorem processLogout_ends (hm : ServedBy torn P m) (hu : P u) (hs : Clean s) (hids : s.db.IdsFit) :
    Ends (processLogout m u) s fun r s' => LogoutOutcome torn u s s' r := by
  refine ends_fetch hm ?_ (fun _ h => h) hs ?_ fun rows s₁ hperm hsame => ?_
  · simpa [Stmt.names] using hu
  · exact fun s' h => ends_pure (.unlocated h)
  change rows.Perm ((s.db.active u).map fun r => [natText r.fuiId]) at hperm
  cases rows with
  | nil =>
    rw [if_pos (show [].length ≤ 0 from le_rfl)]
    exact ends_pure (.absent (List.map_eq_nil_iff.1 hperm.nil_eq.symm) hsame)
  | cons first rest =>
    rw [if_neg (by simp)]
    refine ends_assert (fun _ => ?_) (fun h => absurd rfl h)
    obtain ⟨row, hrow, hfirst⟩ := List.mem_map.1 (hperm.mem_iff.1 List.mem_cons_self)
    subst hfirst
    refine ends_bind_ok (R := fun a s'' => a = natText row.fuiId ∧ s'' = s₁) ⟨_, rfl, rfl, rfl⟩ ?_
    rintro id s'' ⟨rfl, rfl⟩
    rw [readInt_natText (hids.fits row (List.mem_filter.1 hrow).1)]
    have hnames : ∀ n ∈ (Stmt.updateStatus row.fuiId).names, P n := by
      intro n hn
      cases hn
    refine ends_bind_ok (update_ends hm hnames hsame.clean) ?_
    rintro ret s₂ ⟨-, ⟨rfl, heffect, hf⟩ | ⟨rfl, heffect, hf⟩⟩
    · rw [if_neg (by decide)]
      refine ends_pure (.ended row hrow ?_ (hf.trans hsame.failures))
      rw [← hsame.db]
      exact heffect
    · rw [if_pos (by decide)]
      refine ends_pure (.endFailed row hrow ?_ (hsame.failures ▸ hf))
      rw [← hsame.db]
      exact heffect

end

end Loginer

end SingleTerminalLogin
