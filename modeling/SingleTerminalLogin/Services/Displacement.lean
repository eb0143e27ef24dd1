import SingleTerminalLogin.LoginManager.Atomicity
import SingleTerminalLogin.Services.Robustness

/-!
# Whom a login has logged out

A login that replaces a session sets `logoutFd` before it touches the tables, and
`logoutFd` stays in the response whatever happens afterwards.

* `Carries` — the descriptor in the response of a login;
* `SessionEnded` — what happened to the rows of the user;
* `logoutFd_tells_ended_iff` — when the one says the other.
-/

namespace SingleTerminalLogin

open ByteText Binary64 CProgram CJson Proc SqlApi Loginer UserLoginImpl

/-- A login of `u` with the password `p`, for the client on `fd`, whose response can be
put together. -/
structure LoginRequest (t u p : Text) (fd : Int) : Prop where
  operateType : getOperateType t = .ok (0, MessageType.LOGIN.value)
  parameters : loginParameters t = .ok (some (u, p, fd))
  /-- The `extendInfo` goes into the response with everything behind it. -/
  printable : ∀ c, parse t = .ok (some c) → ∀ d ∈ itemFrom c (ascii "extendInfo"), printable d = true

/-- A row of the user with that descriptor was active, and has ended. -/
def SessionEnded (u : Text) (d : Int) (db db' : Db) : Prop :=
  ∃ row ∈ db.active u, row.fuiFd = d ∧
    ∃ row' ∈ db'.t_user_login, row'.fuiId = row.fuiId ∧ row'.fuiStatus = 2

/-! ## Rows that have ended -/

section

variable {u : Text} {d : Int} {db db' db'' : Db}

theorem mem_active {row : LoginRow} :
    row ∈ db.active u ↔ row ∈ db.t_user_login ∧ row.fstrUserName = u ∧ row.fuiStatus = 1 := by
  simp [Db.active, LoginRow.activeOf]

/-- Nothing has ended where nothing has changed. -/
theorem not_sessionEnded_self (hids : (db.t_user_login.map LoginRow.fuiId).Nodup) :
    ¬ SessionEnded u d db db := by
  rintro ⟨row, hrow, -, row', hrow', hid, hstatus⟩
  obtain ⟨hmem, -, hactive⟩ := mem_active.1 hrow
  have heq : row' = row := List.inj_on_of_nodup_map hids hrow' hmem hid
  rw [heq, hactive] at hstatus
  cases hstatus

/-- A login that is entered ends nothing. -/
theorem sessionEnded_logined {v p : Text} {fd : Int} (h : Logined v p fd db' db'') :
    SessionEnded u d db db'' ↔ SessionEnded u d db db' := by
  obtain ⟨time, id, -, -, -, rfl⟩ := h
  have hmem : ∀ row' : LoginRow, row'.fuiStatus = 2 →
      (row' ∈ (db'.insertLogin ⟨id, v, p, fd, 1, time⟩).t_user_login ↔ row' ∈ db'.t_user_login) := by
    intro row' hstatus
    unfold Db.insertLogin
    rw [List.mem_append, List.mem_singleton, or_iff_left]
    rintro rfl
    cases hstatus
  constructor
  · rintro ⟨row, hrow, hd, row', hrow', hid, hstatus⟩
    exact ⟨row, hrow, hd, row', (hmem row' hstatus).1 hrow', hid, hstatus⟩
  · rintro ⟨row, hrow, hd, row', hrow', hid, hstatus⟩
    exact ⟨row, hrow, hd, row', (hmem row' hstatus).2 hrow', hid, hstatus⟩

/-- The update ends the row with its number. -/
theorem sessionEnded_logoutRow (hids : (db.t_user_login.map LoginRow.fuiId).Nodup) {id : Int} :
    SessionEnded u d db (db.logoutRow id) ↔ ∃ row ∈ db.active u, row.fuiFd = d ∧ (row.fuiId : Int) = id := by
  constructor
  · rintro ⟨row, hrow, hd, row', hrow', hid, hstatus⟩
    refine ⟨row, hrow, hd, ?_⟩
    obtain ⟨hmem, -, hactive⟩ := mem_active.1 hrow
    obtain ⟨row₀, hmem₀, hrow₀⟩ := List.mem_map.1 hrow'
    by_cases hrid : (row₀.fuiId : Int) = id
    · rw [if_pos hrid] at hrow₀
      rw [← hrid, ← hid, ← hrow₀]
    · rw [if_neg hrid] at hrow₀
      subst hrow₀
      have heq : row₀ = row := List.inj_on_of_nodup_map hids hmem₀ hmem hid
      rw [heq, hactive] at hstatus
      cases hstatus
  · rintro ⟨row, hrow, hd, hid⟩
    refine ⟨row, hrow, hd, { row with fuiStatus := 2 }, ?_, rfl, rfl⟩
    refine List.mem_map.2 ⟨row, (mem_active.1 hrow).1, ?_⟩
    rw [if_pos hid]

end

/-! ## Which logins replace a session -/

/-- The login gets as far as to end the session of that row, the only one there is. -/
structure Displacing (m : Mysql) (c : Connection) (u p : Text) (row : LoginRow) : Prop where
  checked : ¬ m.Fails c.queries (.countPassword u p) c.db
  valid : counted (c.db.passwordRows u p).length = true
  single : c.db.active u = [row]
  located : ¬ m.Fails (c.queries + 2) (.selectLogined u) c.db

section

variable {torn : Prop} {P : Text → Prop} {m : Mysql} {c : Connection} {u p : Text}

/-- A statement that does not fail is answered. -/
theorem ServedBy.done (hm : ServedBy torn P m) {t : Nat} {stmt : Stmt} {db : Db}
    (hP : ∀ n ∈ stmt.names, P n) (h : ¬ m.Fails t stmt db) :
    stmt.Effect db (m.query t stmt db).2 ∧
      ∃ rows, m.answer t stmt db = .done stmt.fieldsCount rows ∧ rows.Perm (stmt.rows db) := by
  have hex := hm.answers t stmt db hP
  cases ha : m.answer t stmt db with
  | failed => exact absurd (Mysql.answer_eq_failed.1 ha) h
  | done fieldsCount rows =>
    rw [ha] at hex
    obtain ⟨heffect, rfl, hrows⟩ := hex
    exact ⟨heffect, rows, rfl, hrows⟩

/-- A count, when it does not fail. -/
theorem ServedBy.counts (hm : ServedBy torn P m) {t n : Nat} {stmt : Stmt} {db : Db}
    (hP : ∀ n ∈ stmt.names, P n) (hfields : stmt.fieldsCount = 1) (hrows : stmt.rows db = [[natText n]])
    (h : ¬ m.Fails t stmt db) {text : Text} :
    (m.answer t stmt db).Counts text ↔ text = natText n := by
  obtain ⟨-, rows, ha, hperm⟩ := hm.done hP h
  rw [hrows, List.perm_singleton] at hperm
  rw [hperm, hfields] at ha
  unfold Answer.Counts
  rw [ha]
  constructor
  · rintro ⟨rest, h⟩
    cases h
    rfl
  · rintro rfl
    exact ⟨[], rfl⟩

/-- The one active row, when it can be looked up. -/
theorem ServedBy.locates (hm : ServedBy torn P m) (hu : P u) {t : Nat} {db : Db}
    (h : ¬ m.Fails t (.selectLogined u) db) {id : Nat} {d : Int} :
    (m.answer t (.selectLogined u) db).Locates id d ↔
      ∃ row, db.active u = [row] ∧ id = readId row ∧ d = readFd row := by
  obtain ⟨-, rows, ha, hperm⟩ := hm.done (by simpa [Stmt.names] using hu) h
  unfold Answer.Locates
  rw [ha]
  constructor
  · rintro ⟨i, f, rest, h, hid, hd⟩
    rw [hid, hd]
    cases h
    obtain ⟨row, hrow, hcells⟩ := List.map_eq_singleton_iff.1 (List.perm_singleton.1 hperm.symm)
    simp only [List.cons.injEq] at hcells
    obtain ⟨hi, hf, -⟩ := hcells
    exact ⟨row, hrow, by rw [readId, hi], by rw [readFd, hf]⟩
  · rintro ⟨row, hrow, hid, hd⟩
    rw [Stmt.rows, hrow, List.map_cons, List.map_nil, List.perm_singleton] at hperm
    exact ⟨natText row.fuiId, intText row.fuiFd, [], by rw [hperm]; rfl, hid, hd⟩

theorem displaces_iff (hm : ServedBy torn P m) (hu : P u) (hp : P p) {id : Nat} {d : Int} :
    Displaces m c u p id d ↔ ∃ row, Displacing m c u p row ∧ id = readId row ∧ d = readFd row := by
  have hup : ∀ n ∈ (Stmt.countPassword u p).names, P n := by simpa [Stmt.names] using ⟨hu, hp⟩
  have hun : ∀ n ∈ (Stmt.countLogined u).names, P n := by simpa [Stmt.names] using hu
  constructor
  · rintro ⟨⟨text, htext, hvalid⟩, -, hlocated⟩
    have hlocates : ¬ m.Fails (c.queries + 2) (.selectLogined u) c.db := hlocated.not_fails
    obtain ⟨row, hrow, hid, hd⟩ := (hm.locates hu hlocates).1 hlocated
    have hchecked := htext.not_fails
    rw [hm.counts hup rfl rfl hchecked] at htext
    subst htext
    exact ⟨row, ⟨hchecked, decide_eq_true hvalid, hrow, hlocates⟩, hid, hd⟩
  · rintro ⟨row, ⟨hchecked, hvalid, hrow, hlocates⟩, hid, hd⟩
    refine ⟨⟨_, (hm.counts hup rfl rfl hchecked).2 rfl, of_decide_eq_true hvalid⟩, ?_,
      (hm.locates hu hlocates).2 ⟨row, hrow, hid, hd⟩⟩
    by_cases hfails : m.Fails (c.queries + 1) (.countLogined u) c.db
    · exact Or.inl hfails
    · refine Or.inr ⟨_, (hm.counts hun rfl rfl hfails).2 rfl, ?_⟩
      rw [hrow, List.length_singleton, readInt_natText (by decide)]
      decide

end

/-! ## The response -/

/-- The first part of `UserLoginImpl::dealClientMessage`, up to the label
`sendMessage`. -/
def performed (m : Mysql) (receivedMessage : Text) : Proc Connection Operation := do
  let r ← lift (getOperateType receivedMessage)
  if r.1 ≠ 0 then pure { ret := -1, errmsg := ascii "SYSTEM ERROR:Message format error!" }
  else operate m receivedMessage r.2

/-- What `dealClientMessage` writes is the response to what was performed. -/
theorem dealClientMessage_run {m : Mysql} {t text : Text} {c c' : Connection} {op : Operation}
    (hop : performed m t c = (.ok op, c'))
    (hresponse : getResponseMessage t op.logoutFd op.errcode.value op.errmsg = .ok (0, text)) :
    UserLoginImpl.dealClientMessage m t c = (.ok text, c') := by
  rw [UserLoginImpl.dealClientMessage]
  cases htype : getOperateType t with
  | error e =>
    rw [performed, htype] at hop
    cases hop
  | ok r =>
    rw [performed, htype, lift_bind_run_ok rfl] at hop
    rw [lift_bind_run_ok rfl]
    by_cases hret : r.1 ≠ 0
    · rw [if_pos hret] at hop ⊢
      rw [bind_run_ok hop]
      exact lift_bind_run_ok hresponse
    · rw [if_neg hret] at hop ⊢
      rw [bind_run_ok hop]
      exact lift_bind_run_ok hresponse

/-- The tables are what was performed left. -/
theorem dealClientMessage_snd (m : Mysql) (t : Text) (c : Connection) :
    (UserLoginImpl.dealClientMessage m t c).2 = (performed m t c).2 := by
  have hrespond : ∀ (x : Proc Connection Operation), ((do
      let op ← x
      let response ← lift (getResponseMessage t op.logoutFd op.errcode.value op.errmsg)
      pure response.2) c).2 = (x c).2 := by
    intro x
    cases hx : x c with
    | mk r c' =>
      cases r with
      | error e => rw [bind_run_error hx]
      | ok op =>
        rw [bind_run_ok hx]
        cases hresponse : getResponseMessage t op.logoutFd op.errcode.value op.errmsg with
        | error e => rw [bind_run_error (lift_run _ c')]
        | ok response => rw [lift_bind_run_ok rfl, pure_run]
  rw [UserLoginImpl.dealClientMessage, performed]
  cases htype : getOperateType t with
  | error e => rfl
  | ok r =>
    rw [lift_bind_run_ok rfl, lift_bind_run_ok rfl]
    by_cases hret : r.1 ≠ 0
    · rw [if_pos hret, if_pos hret]
      exact hrespond _
    · rw [if_neg hret, if_neg hret]
      exact hrespond _

/-- The response that `dealClientMessage` builds is the one with `d` as its
`logoutFd`. -/
def Carries (m : Mysql) (t : Text) (c : Connection) (d : Int) : Prop :=
  ∃ op c' text, performed m t c = (.ok op, c') ∧ op.logoutFd = d ∧
    getResponseMessage t d op.errcode.value op.errmsg = .ok (0, text) ∧
    UserLoginImpl.dealClientMessage m t c = (.ok text, c')

section

variable {P : Text → Prop} {m : Mysql} {t u p : Text} {fd : Int} {c : Connection}

theorem fitsInt_errcode (code : RegistLoginCode) : FitsInt code.value := by
  unfold FitsInt
  cases code <;> decide

/-- A response that is put together is put together of the `extendInfo`. -/
theorem LoginRequest.response (h : LoginRequest t u p fd) {d code : Int} (hd : FitsInt d)
    (hcode : FitsInt code) (msg : Text) : ∃ text, getResponseMessage t d code msg = .ok (0, text) := by
  obtain ⟨j, e, x, hparse, -, -, he, -⟩ := loginParameters_eq_ok h.parameters
  cases hitem : itemFrom j (ascii "extendInfo") with
  | nil =>
    rw [getObjectItem, hitem] at he
    cases he
  | cons item next =>
    have hprint : ∀ d ∈ item :: next, CJson.printable d = true := hitem ▸ h.printable j hparse
    obtain ⟨text, htext⟩ := (print_returns_iff _).2 (printable_responseJson msg hd hcode hprint)
    refine ⟨text, ?_⟩
    rw [responseJson] at htext
    rw [getResponseMessage, hparse]
    simp only [ok_bind, deref_some, hitem, htext]

/-- A login is performed by `Loginer::processLogin`. -/
theorem LoginRequest.performed_run (h : LoginRequest t u p fd) {r : C LoginReply} {s' : SqlApi}
    (hrun : Loginer.processLogin m u p fd { connection := c } = (r, s')) :
    (performed m t c).2 = s'.connection ∧
      ((∃ e, r = .error e ∧ (performed m t c).1 = .error e) ∨
        ∃ a op, r = .ok a ∧ (performed m t c).1 = .ok op ∧ op.logoutFd = a.logoutFd) := by
  have honCopy : onCopy (Loginer.processLogin m u p fd) c = (r, s'.connection) := by
    rw [onCopy, hrun]
  rw [performed, lift_bind_run_ok h.operateType, if_neg (not_not_intro rfl), operate,
    MessageType.ofInt_value]
  dsimp only
  cases r with
  | error e =>
    have hlogin : UserLoginImpl.processLogin m t c = (.error e, s'.connection) := by
      rw [UserLoginImpl.processLogin, lift_bind_run_ok h.parameters]
      exact bind_run_error honCopy
    rw [bind_run_error hlogin]
    exact ⟨rfl, Or.inl ⟨e, rfl, rfl⟩⟩
  | ok a =>
    have hlogin : UserLoginImpl.processLogin m t c = (.ok { ret := if a.ret ≠ 0 then -1 else 0
                                                            logoutFd := a.logoutFd
                                                            errcode := a.code
                                                            errmsg := a.msg }, s'.connection) := by
      rw [UserLoginImpl.processLogin, lift_bind_run_ok h.parameters]
      exact bind_run_ok honCopy
    rw [bind_run_ok hlogin]
    refine ⟨rfl, Or.inr ⟨a, _, rfl, rfl, ?_⟩⟩
    unfold unexpected
    split <;> rfl

/-- What a login tells and what it ends, after `Loginer::processLogin` has run. -/
theorem LoginRequest.carries_iff (h : LoginRequest t u p fd) {r : C LoginReply} {s' : SqlApi}
    (hrun : Loginer.processLogin m u p fd { connection := c } = (r, s'))
    (hfits : ∀ a, r = .ok a → FitsInt a.logoutFd) (d : Int) :
    Carries m t c d ↔ ∃ a, r = .ok a ∧ a.logoutFd = d := by
  obtain ⟨hstate, hresult⟩ := h.performed_run hrun
  constructor
  · rintro ⟨op, c', text, hop, hd, -, -⟩
    rcases hresult with ⟨e, -, he⟩ | ⟨a, op', ha, hop', hfd⟩
    · rw [hop] at he
      cases he
    · rw [hop] at hop'
      cases hop'
      exact ⟨a, ha, hfd.symm.trans hd⟩
  · rintro ⟨a, rfl, rfl⟩
    rcases hresult with ⟨e, he, -⟩ | ⟨a', op, ha, hop, hfd⟩
    · cases he
    · cases ha
      obtain ⟨text, htext⟩ := h.response (hfits a rfl) (fitsInt_errcode op.errcode) op.errmsg
      have hperformed : performed m t c = (.ok op, s'.connection) := Prod.ext hop hstate
      refine ⟨op, _, text, hperformed, hfd, htext, dealClientMessage_run hperformed ?_⟩
      rw [hfd]
      exact htext

end

/-! ## What the response tells -/

/-- The update that is sent for the row ends it. -/
def EndsRow (m : Mysql) (c : Connection) (row : LoginRow) : Prop :=
  ¬ EndFails m c (readId row) ∧ readId row = row.fuiId

/-- The descriptor that is read out of the row is its own if the row ends, and none
that is told if it does not. -/
def TellsEnded (m : Mysql) (c : Connection) (row : LoginRow) : Prop :=
  (EndsRow m c row ∧ (readFd row = row.fuiFd ∨ readFd row ≤ 0 ∧ row.fuiFd ≤ 0)) ∨
    (¬ EndsRow m c row ∧ readFd row ≤ 0)

section

variable {P : Text → Prop} {m : Mysql} {u p : Text} {fd : Int} {c : Connection}

theorem tellsEnded_iff {row : LoginRow} :
    TellsEnded m c row ↔ ∀ d, 0 < d → (readFd row = d ↔ EndsRow m c row ∧ row.fuiFd = d) := by
  unfold TellsEnded
  by_cases hends : EndsRow m c row
  · simp only [hends, true_and, not_true_eq_false, false_and, or_false]
    constructor
    · rintro h d hd
      omega
    · intro h
      by_cases h0 : 0 < readFd row
      · exact Or.inl ((h _ h0).1 rfl).symm
      · by_cases h1 : 0 < row.fuiFd
        · exact Or.inl ((h _ h1).2 rfl)
        · omega
  · simp only [hends, false_and, false_or, not_false_eq_true, true_and, iff_false]
    constructor
    · rintro h d hd rfl
      omega
    · intro h
      by_contra h0
      exact h (readFd row) (by omega) rfl

/-- A login that replaces the session of a row tells its descriptor, and ends the
session if the update goes through. -/
theorem displacing_course (hm : ServedBy False P m) (hu : P u) (hp : P p)
    (hids : (c.db.t_user_login.map LoginRow.fuiId).Nodup) {row : LoginRow}
    (h : Displacing m c u p row) {r : C LoginReply} {db' : Db}
    (hcourse : LoginCourse m c u p fd r db') :
    (∃ a, r = .ok a ∧ a.logoutFd = readFd row) ∧
      ∀ d, SessionEnded u d c.db db' ↔ EndsRow m c row ∧ row.fuiFd = d := by
  have hdis : Displaces m c u p (readId row) (readFd row) := (displaces_iff hm hu hp).2 ⟨row, h, rfl, rfl⟩
  have hupdate : ¬ EndFails m c (readId row) → endedDb m c (readId row) = c.db.logoutRow (readId row) :=
    fun hend => (hm.done (fun n hn => by cases hn) hend).1
  have hended : ¬ EndFails m c (readId row) → ∀ d,
      SessionEnded u d c.db (c.db.logoutRow (readId row)) ↔ EndsRow m c row ∧ row.fuiFd = d := by
    intro hend d
    rw [sessionEnded_logoutRow hids, h.single]
    simp only [List.mem_singleton, exists_eq_left, EndsRow, hend, not_false_eq_true, true_and,
      Nat.cast_inj]
    constructor
    · rintro ⟨hd, hid⟩
      exact ⟨hid.symm, hd⟩
    · rintro ⟨hid, hd⟩
      exact ⟨hd, hid.symm⟩
  rcases hdis.course hcourse with ⟨rfl, hend, henter, rfl⟩ | ⟨rfl, ⟨hend, rfl⟩ | ⟨hend, -, rfl⟩⟩
  · refine ⟨⟨_, rfl, by dsimp only⟩, fun d => ?_⟩
    have hnames : ∀ n ∈ (enter m u p fd (c.queries + 4)).names, P n := by
      simpa [enter, Stmt.names] using ⟨hu, hp⟩
    rw [sessionEnded_logined ⟨_, (hm.done hnames henter).1⟩, hupdate hend]
    exact hended hend d
  · refine ⟨⟨_, rfl, by dsimp only⟩, fun d => ?_⟩
    simp only [not_sessionEnded_self hids, EndsRow, hend, not_true_eq_false, false_and]
  · refine ⟨⟨_, rfl, by dsimp only⟩, fun d => ?_⟩
    rw [hupdate hend]
    exact hended hend d

/-- The response to a login that replaces the session of a row. -/
theorem LoginRequest.displacing (hm : ServedBy False P m) (hu : P u) (hp : P p)
    (hids : (c.db.t_user_login.map LoginRow.fuiId).Nodup) {t : Text} (h : LoginRequest t u p fd)
    {row : LoginRow} (hrow : Displacing m c u p row) (d : Int) :
    (Carries m t c d ↔ readFd row = d) ∧
      (SessionEnded u d c.db (UserLoginImpl.dealClientMessage m t c).2.db ↔
        EndsRow m c row ∧ row.fuiFd = d) := by
  have hcourse := processLogin_course hm.undone hu hp (s := { connection := c }) rfl fd
  cases hrun : Loginer.processLogin m u p fd { connection := c } with
  | mk r s' =>
    rw [Ends, hrun] at hcourse
    obtain ⟨⟨a, hr, ha⟩, hended⟩ := displacing_course hm hu hp hids hrow hcourse
    replace hr : r = .ok a := hr
    have hfits : ∀ a', r = .ok a' → FitsInt a'.logoutFd := by
      intro a' hr'
      rw [← Except.ok.inj (hr.symm.trans hr'), ha]
      exact fitsInt_wrap32 (strtoull (intText row.fuiFd))
    rw [dealClientMessage_snd, (h.performed_run hrun).1, h.carries_iff hrun hfits]
    refine ⟨?_, hended d⟩
    simp only [hr, Except.ok.injEq, exists_eq_left', ha]

/-- A login that replaces no session tells none and ends none. -/
theorem not_displacing_course (hm : ServedBy False P m) (hu : P u) (hp : P p)
    (hids : (c.db.t_user_login.map LoginRow.fuiId).Nodup) (h : ∀ row, ¬ Displacing m c u p row)
    {r : C LoginReply} {db' : Db} (hcourse : LoginCourse m c u p fd r db') :
    (∀ a, r = .ok a → a.logoutFd = -1) ∧ ∀ d, ¬ SessionEnded u d c.db db' := by
  have hno : ∀ id d, ¬ Displaces m c u p id d := by
    intro id d hdis
    obtain ⟨row, hrow, -⟩ := (displaces_iff hm hu hp).1 hdis
    exact h row hrow
  cases hcourse with
  | stayed r _ ha => exact ⟨ha, fun d => not_sessionEnded_self hids⟩
  | entered _ henter =>
    refine ⟨fun a ha => ?_, fun d => ?_⟩
    · cases ha
      rfl
    · have hnames : ∀ n ∈ (enter m u p fd (c.queries + 2)).names, P n := by
        simpa [enter, Stmt.names] using ⟨hu, hp⟩
      rw [sessionEnded_logined ⟨_, (hm.done hnames henter).1⟩]
      exact not_sessionEnded_self hids
  | displaced id d hdis => exact absurd hdis (hno id d)
  | endFailed id d hdis => exact absurd hdis (hno id d)
  | enterFailed id d hdis => exact absurd hdis (hno id d)

/-- The response to a login that replaces no session. -/
theorem LoginRequest.not_displacing (hm : ServedBy False P m) (hu : P u) (hp : P p)
    (hids : (c.db.t_user_login.map LoginRow.fuiId).Nodup) {t : Text} (h : LoginRequest t u p fd)
    (hno : ∀ row, ¬ Displacing m c u p row) {d : Int} (hd : 0 < d) :
    ¬ Carries m t c d ∧ ¬ SessionEnded u d c.db (UserLoginImpl.dealClientMessage m t c).2.db := by
  have hcourse := processLogin_course hm.undone hu hp (s := { connection := c }) rfl fd
  cases hrun : Loginer.processLogin m u p fd { connection := c } with
  | mk r s' =>
    rw [Ends, hrun] at hcourse
    obtain ⟨ha, hended⟩ := not_displacing_course hm hu hp hids hno hcourse
    have hfits : ∀ a, r = .ok a → FitsInt a.logoutFd := by
      intro a hr
      rw [ha a hr]
      unfold FitsInt
      decide
    rw [dealClientMessage_snd, (h.performed_run hrun).1, h.carries_iff hrun hfits]
    refine ⟨?_, hended d⟩
    rintro ⟨a, hr, rfl⟩
    rw [ha a hr] at hd
    omega

end

/-- The response to a login carries the descriptor of a session that this login has
ended, and only that, exactly when the update of a login that replaces a session goes
through, and the row is read back as it is. -/
theorem logoutFd_tells_ended_iff {P : Text → Prop} (m : Mysql) (t u p : Text) (fd : Int)
    (c : Connection) (hm : ServedBy False P m) (hu : P u) (hp : P p)
    (hids : (c.db.t_user_login.map LoginRow.fuiId).Nodup) (h : LoginRequest t u p fd) :
    (∀ d, 0 < d → (Carries m t c d ↔
      SessionEnded u d c.db (UserLoginImpl.dealClientMessage m t c).2.db)) ↔
        ∀ row, Displacing m c u p row → TellsEnded m c row := by
  by_cases hdis : ∃ row, Displacing m c u p row
  · obtain ⟨row, hrow⟩ := hdis
    have honly : ∀ row', Displacing m c u p row' → row' = row := by
      intro row' hrow'
      have heq := hrow'.single.symm.trans hrow.single
      cases heq
      rfl
    have hall : (∀ row', Displacing m c u p row' → TellsEnded m c row') ↔ TellsEnded m c row :=
      ⟨fun htells => htells row hrow, fun htells row' hrow' => honly row' hrow' ▸ htells⟩
    rw [hall, tellsEnded_iff]
    refine forall_congr' fun d => imp_congr_right fun _ => ?_
    obtain ⟨hcarries, hended⟩ := h.displacing hm hu hp hids hrow d
    rw [hcarries, hended]
  · push Not at hdis
    refine iff_of_true (fun d hd => ?_) fun row hrow => absurd hrow (hdis row)
    obtain ⟨hcarries, hended⟩ := h.not_displacing hm hu hp hids hdis hd
    exact iff_of_false hcarries hended

/-- The request of `u` as the login manager gets it. -/
def managerLogin : Text :=
  ascii "\x7b\"message\":\x7b\"userName\":\"u\",\"passWord\":\"p\"\x7d,\"extendInfo\":\x7b\"clientFd\":7\x7d,\"operateType\":2\x7d"

theorem loginRequest_managerLogin : LoginRequest managerLogin (ascii "u") (ascii "p") 7 := by
  refine ⟨by decide +kernel, by decide +kernel, fun c hparse => ?_⟩
  have h : (do
      let c ← parse managerLogin
      .ok (c.map fun c => (itemFrom c (ascii "extendInfo")).all printable)) = .ok (some true) := by
    decide +kernel
  rw [hparse] at h
  simpa using h

theorem displacing_loggedIn (m : Mysql) (hchecked : ¬ m.Fails 0 (.countPassword (ascii "u") (ascii "p")) loggedIn)
    (hlocated : ¬ m.Fails 2 (.selectLogined (ascii "u")) loggedIn) :
    Displacing m { db := loggedIn } (ascii "u") (ascii "p") ⟨1, ascii "u", ascii "p", 6, 1, 0⟩ :=
  ⟨hchecked, by decide, by decide, hlocated⟩

theorem logoutFd_tells_ended_iff_loggedIn :
    Carries memoryServer managerLogin { db := loggedIn } 6 ↔ SessionEnded (ascii "u") 6 loggedIn
      (UserLoginImpl.dealClientMessage memoryServer managerLogin { db := loggedIn }).2.db := by
  refine (logoutFd_tells_ended_iff memoryServer managerLogin (ascii "u") (ascii "p") 7
    { db := loggedIn } (servedBy_memoryServer _ (fun _ => True)) trivial trivial (by decide)
    loginRequest_managerLogin).2 (fun row hrow => ?_) 6 (by decide)
  have hactive : loggedIn.active (ascii "u") = [⟨1, ascii "u", ascii "p", 6, 1, 0⟩] := by decide
  cases hrow.single.symm.trans hactive
  exact Or.inl ⟨⟨Answer.noConfusion, by decide⟩, Or.inl (by decide)⟩

/-- The update fails: the session goes on, and its client is told to log out. -/
theorem told_but_not_ended :
    ¬ ∀ (m : Mysql) (t u p : Text) (fd : Int) (c : Connection), ServedBy False (fun _ => True) m →
      (c.db.t_user_login.map LoginRow.fuiId).Nodup → (∀ v, (c.db.active v).length ≤ 1) →
      LoginRequest t u p fd → ∀ d, 0 < d → (Carries m t c d ↔
        SessionEnded u d c.db (UserLoginImpl.dealClientMessage m t c).2.db) := by
  intro h
  have hm := (servedBy_memoryServer False (fun _ => True)).failingAt 3
  have hids : (loggedIn.t_user_login.map LoginRow.fuiId).Nodup := by decide
  have hsingle : ∀ v, (loggedIn.active v).length ≤ 1 := fun v => List.length_filter_le _ _
  have hiff := h _ managerLogin (ascii "u") (ascii "p") 7 { db := loggedIn } hm hids hsingle
    loginRequest_managerLogin 6 (by decide)
  obtain ⟨hcarries, hended⟩ := loginRequest_managerLogin.displacing hm trivial trivial hids
    (displacing_loggedIn _ Answer.noConfusion Answer.noConfusion) 6
  rw [hcarries, hended] at hiff
  have hends := (hiff.1 (by decide)).1.1
  exact hends rfl

end SingleTerminalLogin
