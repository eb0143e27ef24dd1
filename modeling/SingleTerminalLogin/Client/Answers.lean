import SingleTerminalLogin.Client.Requests

/-!
# What a request does

The outcomes of a call, as far as clients notice them: which sessions there are
afterwards, and what the receiver is told.

* `LoginDone`, `LogoutDone`, `RegistDone` — everything a request can do;
* `Request.done` — a request does one of these things;
* `Request.Done.active_mem`, `Request.Done.logoutFd` — where the rows and the
  descriptors to notify come from.
-/

namespace SingleTerminalLogin

open ByteText CProgram SqlLex SqlApi Loginer Register

def loginSuccess : Text := ascii "login success!"

def loginError : Text := ascii "SYSTEM ERROR: process login occur unexpect error!"

def logoutSuccess : Text := ascii "logout success!"

def logoutError : Text := ascii "SYSTEM ERROR: process logout occur unexpect error!"

theorem loginError_ne : loginError ≠ loginSuccess := by decide +kernel

/-- What a login does to the tables, and `logoutFd` and `msg` of its answer. -/
inductive LoginDone (torn : Prop) (u p : Text) (fd : Int) (c c' : Connection) :
    Option (Int × Text) → Prop where
  /-- Nothing is entered and nobody has to be told. -/
  | refused (a : Option (Int × Text)) (hd : c'.db = c.db)
      (hv : counted (c.db.passwordRows u p).length = false ∨ c.failures < c'.failures)
      (ha : a = none ∨ a = some (-1, loginError)) : LoginDone torn u p fd c c' a
  /-- The first session. -/
  | entered (ha : c.db.active u = []) (hd : Logined u p fd c.db c'.db) :
      LoginDone torn u p fd c c' (some (-1, loginSuccess))
  /-- There was none, and its insert failed. -/
  | enterFailed (ha : c.db.active u = []) (hd : c'.db = c.db ∨ torn ∧ Logined u p fd c.db c'.db)
      (hf : c.failures < c'.failures) : LoginDone torn u p fd c c' (some (-1, loginError))
  /-- The session takes the place of another one. -/
  | replaced (row : LoginRow) (hv : counted (c.db.passwordRows u p).length = true)
      (ha : c.db.active u = [row])
      (hd : Logined u p fd (c.db.logoutRow row.fuiId) c'.db) :
      LoginDone torn u p fd c c' (some (readFd row, loginSuccess))
  /-- It does not, but the other one is to be told all the same. -/
  | replaceFailed (row : LoginRow) (ha : c.db.active u = [row])
      (hd : c'.db = c.db ∨ c'.db = c.db.logoutRow row.fuiId ∨
        torn ∧ Logined u p fd (c.db.logoutRow row.fuiId) c'.db)
      (hf : c.failures < c'.failures) : LoginDone torn u p fd c c' (some (readFd row, loginError))

/-- The same for a logout. -/
inductive LogoutDone (torn : Prop) (u : Text) (db db' : Db) : Option (Int × Text) → Prop where
  | absent (ha : db.active u = []) (hd : db' = db) : LogoutDone torn u db db' (some (-1, logoutSuccess))
  | ended (row : LoginRow) (ha : db.active u = [row]) (hd : db' = db.logoutRow row.fuiId) :
      LogoutDone torn u db db' (some (-1, logoutSuccess))
  | failed (hd : db' = db ∨ torn ∧ ∃ row, db.active u = [row] ∧ db' = db.logoutRow row.fuiId) :
      LogoutDone torn u db db' (some (-1, logoutError))

/-- The same for a registration: it does not touch the sessions. -/
def RegistDone (db db' : Db) (a : Option (Int × Text)) : Prop :=
  db'.t_user_login = db.t_user_login ∧ ∃ msg, a = some (-1, msg)

/-- The same for any request. -/
def Request.Done (torn : Prop) (fd : Int) (c c' : Connection) (a : Option (Int × Text)) :
    Request → Prop
  | .regist _ _ => RegistDone c.db c'.db a
  | .login u p => LoginDone torn u.text p.text fd c c' a
  | .logout u => LogoutDone torn u.text c.db c'.db a

/-! ## A request does one of these things -/

theorem answer_login_error {r : LoginReply} (h : r.ret = -1) :
    (CallEnd.login (.ok r)).answer = some (r.logoutFd, loginError) := by
  simp only [CallEnd.answer, CallEnd.operation, Except.map, h, UserLoginImpl.unexpected]
  rfl

theorem answer_login_success {r : LoginReply} (h : r.ret = 0) :
    (CallEnd.login (.ok r)).answer = some (r.logoutFd, r.msg) := by
  simp only [CallEnd.answer, CallEnd.operation, Except.map, h, UserLoginImpl.unexpected]
  rfl

section

variable {torn : Prop} {u p : Text} {fd : Int} {c c' : Connection}

theorem Loginer.LoginOutcome.done {r : C LoginReply} (hs : c.db.Sane)
    (h : LoginOutcome torn u p fd { connection := c } { connection := c' } r) :
    LoginDone torn u p fd c c' (CallEnd.login r).answer := by
  cases h with
  | unchecked h => exact .refused _ h.db (Or.inr h.failures) (Or.inr (answer_login_error rfl))
  | invalid hv h => exact .refused _ h.db (Or.inl hv) (Or.inr (answer_login_error rfl))
  | first hv ha hd hf =>
    rw [answer_login_success rfl]
    dsimp only
    exact .entered ((hs.counted_active u).1 ha) hd
  | firstFailed hv ha hd hf =>
    rw [answer_login_error rfl]
    dsimp only
    exact .enterFailed ((hs.counted_active u).1 ha) hd hf
  | unlocated hv h => exact .refused _ h.db (Or.inr h.failures) (Or.inr (answer_login_error rfl))
  | aborted hv ha hd hle hf =>
    refine .refused _ hd (Or.inr ?_) (Or.inl rfl)
    rcases hf with hf | hf
    · exact absurd (hs.length_of_counted hf) ha
    · exact hf
  | displaced row hv ha hd hf =>
    rw [answer_login_success rfl]
    dsimp only
    exact .replaced row hv ha hd
  | displaceFailed row hv ha hd hf =>
    rw [answer_login_error rfl]
    dsimp only
    exact .replaceFailed row ha hd hf

theorem Loginer.LogoutOutcome.done {r : C Reply} (hs : c.db.Sane)
    (h : LogoutOutcome torn u { connection := c } { connection := c' } r) :
    LogoutDone torn u c.db c'.db (CallEnd.logout r).answer := by
  cases h with
  | unlocated h => exact .failed (Or.inl h.db)
  | absent ha h => exact .absent ha h.db
  | ended row ha hd hf => exact .ended row (hs.active_eq ha) hd
  | endFailed row ha hd hf =>
    exact .failed (hd.imp_right fun hd => ⟨hd.1, row, hs.active_eq ha, hd.2⟩)

theorem Register.RegistOutcome.done {r : C Reply}
    (h : RegistOutcome torn u p [] { connection := c } { connection := c' } r) :
    RegistDone c.db c'.db (CallEnd.regist r).answer := by
  have hin : Registed u p c.db c'.db → c'.db.t_user_login = c.db.t_user_login := by
    rintro ⟨time, h⟩
    rw [h]
    rfl
  cases h with
  | unchecked h => exact ⟨congrArg Db.t_user_login h.db, _, rfl⟩
  | taken hv h => exact ⟨congrArg Db.t_user_login h.db, _, rfl⟩
  | entered hv hd hf => exact ⟨hin hd, _, rfl⟩
  | enterFailed hv hd hf =>
    refine ⟨?_, _, rfl⟩
    rcases hd with hd | ⟨-, hd⟩
    · exact congrArg Db.t_user_login hd
    · exact hin hd

/-- A request with plain names does one of the things `Request.Done` lists. -/
theorem Request.done {m : Mysql} (hm : ServedBy torn Plain m) {r : Request}
    (hplain : ∀ n ∈ (r.call fd).names, Plain n) (hs : c.db.Sane) :
    r.Done torn fd c (loginManager m (r.call fd) c).2 (loginManager m (r.call fd) c).1.answer := by
  have hout := loginManager_outcome hm hplain hs.ids
  cases r with
  | regist u p => exact RegistOutcome.done hout
  | login u p => exact LoginOutcome.done hs hout
  | logout u => exact LogoutOutcome.done hs hout

end

/-! ## Which sessions there are afterwards -/

section

variable {torn : Prop} {u p v : Text} {fd : Int} {db db' : Db} {row : LoginRow}

/-- The rows of a user who has none, after a row was entered for them. -/
theorem Loginer.Logined.active_eq (h : Logined u p fd db db') (hu : db.active u = []) :
    ∃ row, db'.active u = [row] ∧ row.fuiFd = fd ∧ ∀ r ∈ db.t_user_login, r.fuiId ≠ row.fuiId := by
  obtain ⟨time, id, -, -, hnew, rfl⟩ := h
  refine ⟨⟨id, u, p, fd, 1, time⟩, ?_, rfl, hnew⟩
  rw [Db.active_insertLogin, hu, if_pos (by simp [LoginRow.activeOf])]
  rfl

theorem Loginer.Logined.active_other (h : Logined u p fd db db') (hv : v ≠ u) :
    db'.active v = db.active v := by
  obtain ⟨time, id, -, -, -, rfl⟩ := h
  rw [Db.active_insertLogin, if_neg (by simp [LoginRow.activeOf, hv.symm]), List.append_nil]

theorem Loginer.Logined.active_mem (h : Logined u p fd db db') (hrow : row ∈ db'.active v) :
    row ∈ db.active v ∨ row.fuiFd = fd ∧ ∀ r ∈ db.t_user_login, r.fuiId ≠ row.fuiId := by
  obtain ⟨time, id, -, -, hnew, rfl⟩ := h
  rw [Db.active_insertLogin] at hrow
  rcases List.mem_append.1 hrow with hrow | hrow
  · exact Or.inl hrow
  · right
    split at hrow
    · rw [List.mem_singleton.1 hrow]
      exact ⟨rfl, hnew⟩
    · cases hrow

theorem Db.active_logoutRow_mem {id : Int} (h : row ∈ (db.logoutRow id).active v) :
    row ∈ db.active v := by
  rw [Db.active_logoutRow] at h
  exact (List.mem_filter.1 h).1

/-- The ids of the rows stay what they are. -/
theorem Db.id_mem_logoutRow (id : Int) {r : LoginRow} (h : r ∈ db.t_user_login) :
    ∃ r' ∈ (db.logoutRow id).t_user_login, r'.fuiId = r.fuiId := by
  refine ⟨_, List.mem_map_of_mem h, ?_⟩
  split <;> rfl

/-- A row entered after another one was ended. -/
theorem Loginer.Logined.active_mem_logoutRow {id : Int} (h : Logined u p fd (db.logoutRow id) db')
    (hrow : row ∈ db'.active v) :
    row ∈ db.active v ∨ row.fuiFd = fd ∧ ∀ r ∈ db.t_user_login, r.fuiId ≠ row.fuiId := by
  rcases h.active_mem hrow with hrow | ⟨hfd, hnew⟩
  · exact Or.inl (Db.active_logoutRow_mem hrow)
  · refine Or.inr ⟨hfd, ?_⟩
    intro r hr
    obtain ⟨r', hr', hid⟩ := Db.id_mem_logoutRow id hr
    exact hid ▸ hnew r' hr'

end

section

variable {torn : Prop} {r : Request} {fd : Int} {c c' : Connection} {a : Option (Int × Text)}
  {v : Text} {row : LoginRow}

/-- Every session is an old one, or a new one on the descriptor of the request. -/
theorem Request.Done.active_mem (h : r.Done torn fd c c' a) (hrow : row ∈ c'.db.active v) :
    row ∈ c.db.active v ∨ row.fuiFd = fd ∧ ∀ r ∈ c.db.t_user_login, r.fuiId ≠ row.fuiId := by
  cases r with
  | regist u p =>
    have hlogin : c'.db.t_user_login = c.db.t_user_login := h.1
    rw [Db.active, hlogin] at hrow
    exact Or.inl hrow
  | login u p =>
    cases h with
    | refused a hd hv ha => exact Or.inl (hd ▸ hrow)
    | entered ha hd => exact hd.active_mem hrow
    | enterFailed ha hd hf =>
      rcases hd with hd | ⟨-, hd⟩
      · exact Or.inl (hd ▸ hrow)
      · exact hd.active_mem hrow
    | replaced row hv ha hd => exact hd.active_mem_logoutRow hrow
    | replaceFailed row ha hd hf =>
      rcases hd with hd | hd | ⟨-, hd⟩
      · exact Or.inl (hd ▸ hrow)
      · rw [hd] at hrow
        exact Or.inl (Db.active_logoutRow_mem hrow)
      · exact hd.active_mem_logoutRow hrow
  | logout u =>
    cases h with
    | absent ha hd => exact Or.inl (hd ▸ hrow)
    | ended row ha hd =>
      rw [hd] at hrow
      exact Or.inl (Db.active_logoutRow_mem hrow)
    | failed hd =>
      rcases hd with hd | ⟨-, row, -, hd⟩
      · exact Or.inl (hd ▸ hrow)
      · rw [hd] at hrow
        exact Or.inl (Db.active_logoutRow_mem hrow)

/-- A request for one user leaves the sessions of every other user alone. -/
theorem Request.Done.active_other (h : r.Done torn fd c c' a) (hids : c.db.IdsFit)
    (hv : ∀ n ∈ (r.call fd).names.head?, v ≠ n) : c'.db.active v = c.db.active v := by
  cases r with
  | regist u p =>
    have hlogin : c'.db.t_user_login = c.db.t_user_login := h.1
    rw [Db.active, hlogin, Db.active]
  | login u p =>
    have hv : v ≠ u.text := hv _ rfl
    cases h with
    | refused a hd hv ha => rw [hd]
    | entered ha hd => exact hd.active_other hv
    | enterFailed ha hd hf =>
      rcases hd with hd | ⟨-, hd⟩
      · rw [hd]
      · exact hd.active_other hv
    | replaced row hvalid ha hd =>
      exact (hd.active_other hv).trans
        (Db.active_logoutRow_other hids (ha ▸ List.mem_singleton_self row) hv)
    | replaceFailed row ha hd hf =>
      have hother := Db.active_logoutRow_other hids (ha ▸ List.mem_singleton_self row) hv
      rcases hd with hd | hd | ⟨-, hd⟩
      · rw [hd]
      · exact hd ▸ hother
      · exact (hd.active_other hv).trans hother
  | logout u =>
    have hv : v ≠ u.text := hv _ rfl
    cases h with
    | absent ha hd => rw [hd]
    | ended row ha hd =>
      exact hd ▸ Db.active_logoutRow_other hids (ha ▸ List.mem_singleton_self row) hv
    | failed hd =>
      rcases hd with hd | ⟨-, row, ha, hd⟩
      · rw [hd]
      · exact hd ▸ Db.active_logoutRow_other hids (ha ▸ List.mem_singleton_self row) hv

/-- A login that was answered with success has entered the client's own descriptor. -/
theorem Request.Done.entered {u p : Argument} {logoutFd : Int}
    (h : (Request.login u p).Done torn fd c c' a) (ha : a = some (logoutFd, loginSuccess)) :
    ∃ row, c'.db.active u.text = [row] ∧ row.fuiFd = fd ∧
      ∀ r ∈ c.db.t_user_login, r.fuiId ≠ row.fuiId := by
  have herror : ∀ fd, a ≠ some (fd, loginError) := by
    intro fd hfd
    rw [hfd, Option.some.injEq, Prod.mk.injEq] at ha
    exact loginError_ne ha.2
  cases h with
  | refused a hd hv hrefused =>
    rcases hrefused with hrefused | hrefused
    · rw [hrefused] at ha
      cases ha
    · exact absurd hrefused (herror _)
  | entered hnone hd => exact hd.active_eq hnone
  | enterFailed _ hd hf => exact absurd rfl (herror _)
  | replaced row hv hrow hd =>
    obtain ⟨new, hnew, hfd, hids⟩ := hd.active_eq (Db.active_logoutRow_single hrow)
    refine ⟨new, hnew, hfd, ?_⟩
    intro r hr
    obtain ⟨r', hr', hid⟩ := Db.id_mem_logoutRow row.fuiId hr
    exact hid ▸ hids r' hr'
  | replaceFailed row _ hd hf => exact absurd rfl (herror _)

/-- A login that has nobody told who is in the user's session leaves that session. -/
theorem LoginDone.active_kept {u p : Text} {row : LoginRow} (h : LoginDone torn u p fd c c' a)
    (hrow : c.db.active u = [row]) (hnotified : ∀ msg, a ≠ some (readFd row, msg)) : c'.db.active u = [row] := by
  cases h with
  | refused a hd hv ha => exact hd ▸ hrow
  | entered hnone hd =>
    rw [hrow] at hnone
    cases hnone
  | enterFailed hnone hd hf =>
    rw [hrow] at hnone
    cases hnone
  | replaced row' hv hrow' hd =>
    rw [hrow] at hrow'
    cases hrow'
    exact absurd rfl (hnotified loginSuccess)
  | replaceFailed row' hrow' hd hf =>
    rw [hrow] at hrow'
    cases hrow'
    exact absurd rfl (hnotified loginError)

/-- A logout that is not answered with success leaves the session. -/
theorem LogoutDone.active_kept {u : Text} {db db' : Db} {row : LoginRow} (h : LogoutDone False u db db' a)
    (hrow : db.active u = [row]) (hanswer : a ≠ some (-1, logoutSuccess)) : db'.active u = [row] := by
  cases h with
  | absent hnone hd => exact absurd rfl hanswer
  | ended row' hrow' hd => exact absurd rfl hanswer
  | failed hd =>
    rcases hd with hd | ⟨hfalse, -⟩
    · exact hd ▸ hrow
    · exact hfalse.elim

/-- The descriptor to notify is the one of the user's session. -/
theorem Request.Done.logoutFd (h : r.Done torn fd c c' a) {logoutFd : Int} {msg : Text}
    (ha : a = some (logoutFd, msg)) (hpos : 0 < logoutFd) :
    ∃ u p row, r = .login u p ∧ c.db.active u.text = [row] ∧ logoutFd = readFd row := by
  have hnone : ∀ t, a ≠ some (-1, t) := by
    intro t ht
    rw [ht, Option.some.injEq, Prod.mk.injEq] at ha
    omega
  cases r with
  | regist u p =>
    obtain ⟨-, msg, hmsg⟩ := h
    exact absurd hmsg (hnone msg)
  | login u p =>
    cases h with
    | refused a hd hv hrefused =>
      rcases hrefused with hrefused | hrefused
      · rw [hrefused] at ha
        cases ha
      · exact absurd hrefused (hnone _)
    | entered _ hd => exact absurd rfl (hnone _)
    | enterFailed _ hd hf => exact absurd rfl (hnone _)
    | replaced row hv hrow hd =>
      rw [Option.some.injEq, Prod.mk.injEq] at ha
      exact ⟨u, p, row, rfl, hrow, ha.1.symm⟩
    | replaceFailed row hrow hd hf =>
      rw [Option.some.injEq, Prod.mk.injEq] at ha
      exact ⟨u, p, row, rfl, hrow, ha.1.symm⟩
  | logout u =>
    cases h with
    | absent _ hd => exact absurd rfl (hnone _)
    | ended row _ hd => exact absurd rfl (hnone _)
    | failed hd => exact absurd rfl (hnone _)

end

end SingleTerminalLogin
