import SingleTerminalLogin.LoginManager.Scripts

/-!
# Which results are stale

`SqlApi::select` appends to a vector it never clears, and frees the rows before anybody looks at them.
The first does no harm, because every caller fetches the rows of a select that went through at once,
and the copies an operation works on begin without rows.  The second does, unless the client library
leaves freed rows as they were.

* `InOrder` — a result comes right behind a select that got its rows, and an update names an id that
  was read out of the result right in front of it;
* `Settles` — a script that does everything in this order and leaves the object without rows;
* `Watched`, `watched` — the operations one after the other, each on a copy of one object;
* `results_fresh_iff` — every result holds the rows of the select in front of it, and whether a login
  is valid is read out of its own select, exactly when no freed result that is handed out was touched.
-/

namespace SingleTerminalLogin

open ByteText CProgram Proc SqlApi

/-! ## The order of the methods -/

/-- The last method was a select that got the rows of `r`. -/
def Answered (pre : List SqlEvent) (r : MysqlResult) : Prop :=
  ∃ pre' stmt res, pre = pre' ++ [.select stmt (some res)] ∧ r = res.result

/-- The last methods were a select and its result, and the statement ends the row whose id is in the
first field. -/
def ReadsId (read : Text → Int) (pre : List SqlEvent) (stmt : Stmt) : Prop :=
  ∃ pre' stmt' res id, pre = pre' ++ [.select stmt' (some res), .getResult res.result] ∧
    Scripts.cell res.result 0 0 = .ok id ∧ stmt = .updateStatus (read id)

/-- What a method needs in front of it.  `read` is what becomes of the text of an id. -/
def InOrder (read : Text → Int) (e : SqlEvent) (pre : List SqlEvent) : Prop :=
  (∀ r, e = .getResult r → Answered pre r) ∧ (∀ stmt, e = .update stmt → ReadsId read pre stmt)

variable {read : Text → Int}

theorem inOrder_behind (l : List SqlEvent) (e : SqlEvent) (pre : List SqlEvent) (h : InOrder read e pre) :
    InOrder read e (l ++ pre) := by
  constructor
  · intro r hr
    obtain ⟨pre', stmt, res, rfl, hres⟩ := h.1 r hr
    exact ⟨l ++ pre', stmt, res, (List.append_assoc l pre' _).symm, hres⟩
  · intro stmt hstmt
    obtain ⟨pre', stmt', res, id, rfl, hid⟩ := h.2 stmt hstmt
    exact ⟨l ++ pre', stmt', res, id, (List.append_assoc l pre' _).symm, hid⟩

/-- Most methods need nothing. -/
theorem inOrder_free {e : SqlEvent} (hresult : ∀ r, e ≠ .getResult r) (hupdate : ∀ stmt, e ≠ .update stmt)
    (pre : List SqlEvent) : InOrder read e pre :=
  ⟨fun r hr => absurd hr (hresult r), fun stmt hstmt => absurd hstmt (hupdate stmt)⟩

theorem inOrder_select (stmt : Stmt) (res : Option Fetched) (pre : List SqlEvent) :
    InOrder read (.select stmt res) pre :=
  inOrder_free (fun _ => SqlEvent.noConfusion) (fun _ => SqlEvent.noConfusion) pre

/-- A result behind its select. -/
theorem inOrder_getResult (stmt : Stmt) (res : Fetched) :
    InOrder read (.getResult res.result) [.select stmt (some res)] := by
  refine ⟨fun r hr => ⟨[], stmt, res, rfl, ?_⟩, fun _ h => SqlEvent.noConfusion h⟩
  exact (SqlEvent.getResult.inj hr).symm

/-- An update behind the result its id is read from. -/
theorem inOrder_update {stmt : Stmt} {res : Fetched} {id : Text} (hid : Scripts.cell res.result 0 0 = .ok id) :
    InOrder read (.update (.updateStatus (read id))) [.select stmt (some res), .getResult res.result] := by
  refine ⟨fun _ h => SqlEvent.noConfusion h, fun stmt' hstmt => ⟨[], stmt, res, id, rfl, hid, ?_⟩⟩
  exact (SqlEvent.update.inj hstmt).symm

/-! ## Scripts that settle -/

/-- From an object without rows the script does everything in order, and leaves it without rows. -/
abbrev Settles {α : Type} (client : MysqlClient) (read : Text → Int) (x : SqlScript α) : Prop :=
  Script.Keeps (sqlApi client) (InOrder read) Clean x

open Script

section

variable {α β : Type} {client : MysqlClient}

theorem settles_bind {x : SqlScript α} {f : α → SqlScript β} (hx : Settles client read x)
    (hf : ∀ a, Settles client read (f a)) : Settles client read (x >>= f) := keeps_bind inOrder_behind hx hf

theorem writeBy_clean {stmt : Stmt} {s : SqlApi} (hs : Clean s) : Clean (s.writeBy client stmt).2 := by
  unfold writeBy
  split
  · exact hs
  · exact hs

theorem settles_insert (stmt : Stmt) : Settles client read (Scripts.insert stmt) := by
  refine keeps_perform (fun s => ?_) fun s => writeBy_clean
  exact inOrder_free (fun _ => SqlEvent.noConfusion) (fun _ => SqlEvent.noConfusion) []

theorem settles_time : Settles client read Scripts.time := by
  refine keeps_perform (fun s => ?_) fun s hs => hs
  exact inOrder_free (fun _ => SqlEvent.noConfusion) (fun _ => SqlEvent.noConfusion) []

/-- The way every reader of the tables is built: what follows the result may make use of it. -/
theorem settles_select_result {stmt : Stmt} {bad : SqlScript α} {k : MysqlResult → SqlScript α}
    (hbad : Settles client read bad)
    (hk : ∀ res s, Clean s → Tells (sqlApi client) (k res.result) s fun t _ s' =>
      Preceded (InOrder read) [] ([.select stmt (some res), .getResult res.result] ++ t) ∧ Clean s') :
    Settles client read (do
      let ret ← Scripts.select stmt
      if ret ≠ 0 then bad
      else do
        let r ← Scripts.getResult
        k r) := by
  intro s hs
  cases hd : client.fetches s.connection.queries stmt s.db with
  | none =>
    have hsent : Clean (s.sent client stmt) := hs
    have hmissed : Preceded (InOrder read) [] [.select stmt none] := ⟨inOrder_select stmt none [], trivial⟩
    exact tells_select_none hd (hbad.behind inOrder_behind hmissed hsent)
  | some res => exact tells_select_some hs hd (hk res _ rfl)

/-- A select and its result are in order. -/
theorem preceded_result (stmt : Stmt) (res : Fetched) :
    Preceded (InOrder read) [] [.select stmt (some res), .getResult res.result] :=
  ⟨inOrder_select stmt (some res) [], inOrder_getResult stmt res, trivial⟩

theorem settles_select {stmt : Stmt} {bad : SqlScript α} {k : MysqlResult → SqlScript α}
    (hbad : Settles client read bad) (hk : ∀ r, Settles client read (k r)) :
    Settles client read (do
      let ret ← Scripts.select stmt
      if ret ≠ 0 then bad
      else do
        let r ← Scripts.getResult
        k r) :=
  settles_select_result hbad fun res _ hs => (hk res.result).behind inOrder_behind (preceded_result stmt res) hs

/-- A select of a count: the two assertions, the first field, and the rest. -/
theorem settles_count {stmt : Stmt} {bad : SqlScript α} {k : Text → SqlScript α}
    (hbad : Settles client read bad) (hk : ∀ t, Settles client read (k t)) :
    Settles client read (do
      let ret ← Scripts.select stmt
      if ret ≠ 0 then bad
      else do
        let r ← Scripts.getResult
        lift (assert (r.rowsCount = 1))
        lift (assert (r.fieldsCount = 1))
        let t ← lift (Scripts.cell r 0 0)
        k t) := by
  refine settles_select hbad fun r => settles_bind (keeps_lift _) fun _ => ?_
  exact settles_bind (keeps_lift _) fun _ => settles_bind (keeps_lift _) hk

end

/-! ### The operations -/

/-- What a login makes of the text of an id. -/
def loginId (t : Text) : Int := ((readInt t % 2 ^ 64).toNat : Int)

section

variable (client : MysqlClient) (u p : Text) (fd : Int)

theorem settles_login : Settles client read (Scripts.Loginer.login u p fd) := by
  refine settles_bind settles_time fun t => settles_bind (settles_insert _) fun ret => ?_
  exact keeps_ite (keeps_pure _) (keeps_pure _)

/-- An update behind the result its id is read from, and the rest. -/
theorem tells_update {α : Type} {stmt : Stmt} {res : Fetched} {id : Text} {s : SqlApi} {k : Int → SqlScript α}
    (hid : Scripts.cell res.result 0 0 = .ok id) (hs : Clean s) (hk : ∀ ret, Settles client read (k ret)) :
    Tells (sqlApi client) (Scripts.update (.updateStatus (read id)) >>= k) s fun t _ s' =>
      Preceded (InOrder read) [] ([.select stmt (some res), .getResult res.result] ++ t) ∧ Clean s' := by
  refine tells_perform_bind ?_
  have hdone : Preceded (InOrder read) []
      [.select stmt (some res), .getResult res.result, .update (.updateStatus (read id))] :=
    ⟨inOrder_select stmt (some res) [], inOrder_getResult stmt res, inOrder_update hid, trivial⟩
  exact (hk _).behind inOrder_behind hdone (writeBy_clean hs)

/-- The row of the session: nothing but one select and its result, and the id is the one in its first
field. -/
theorem getAlreadyLoginedClientFd_tells {s : SqlApi} (hs : Clean s) :
    Tells (sqlApi client) (Scripts.Loginer.getAlreadyLoginedClientFd u) s fun t r s' => Clean s' ∧
      ((t = [.select (.selectLogined u) none] ∧ r = .ok (-1, 0, 0)) ∨
        ∃ res, t = [.select (.selectLogined u) (some res), .getResult res.result] ∧ ∀ a, r = .ok a →
          ∃ id, Scripts.cell res.result 0 0 = .ok id ∧ a.1 = 0 ∧ (a.2.2 : Int) = loginId id) := by
  cases hd : client.fetches s.connection.queries (.selectLogined u) s.db with
  | none => exact tells_select_none hd (tells_pure ⟨hs, Or.inl ⟨rfl, rfl⟩⟩)
  | some res =>
    refine tells_select_some hs hd ?_
    refine tells_lift_bind (fun _ _ => ?_) fun e _ => ⟨rfl, Or.inr ⟨res, rfl, nofun⟩⟩
    refine tells_lift_bind (fun _ _ => ?_) fun e _ => ⟨rfl, Or.inr ⟨res, rfl, nofun⟩⟩
    refine tells_lift_bind (fun id hid => ?_) fun e _ => ⟨rfl, Or.inr ⟨res, rfl, nofun⟩⟩
    refine tells_lift_bind (fun fd _ => ?_) fun e _ => ⟨rfl, Or.inr ⟨res, rfl, nofun⟩⟩
    refine tells_pure ⟨rfl, Or.inr ⟨res, rfl, fun a ha => ?_⟩⟩
    cases ha
    exact ⟨id, hid, rfl, by rw [loginId]⟩

theorem settles_displace : Settles client loginId (Scripts.Loginer.displace u p fd) := by
  intro s hs
  refine tells_bind (getAlreadyLoginedClientFd_tells client u hs) ?_ ?_
  · rintro t a s' ⟨hs', ⟨rfl, ha⟩ | ⟨res, rfl, ha⟩⟩
    · cases ha
      exact tells_pure ⟨⟨inOrder_select _ none [], trivial⟩, hs'⟩
    · obtain ⟨id, hid, hret, hread⟩ := ha a rfl
      rw [if_neg (not_not.2 hret)]
      have hset : Tells (sqlApi client) (Scripts.Loginer.setLogoutStatusThenLogin a.2.2 u p fd) s' fun t _ s'' =>
          Preceded (InOrder loginId) [] ([.select (.selectLogined u) (some res), .getResult res.result] ++ t) ∧
            Clean s'' := by
        rw [Scripts.Loginer.setLogoutStatusThenLogin, hread]
        exact tells_update client hid hs' fun ret => keeps_ite (keeps_pure _) (settles_login client u p fd)
      refine tells_bind hset (fun t ret s'' h => ?_) fun t e s'' h => h
      refine Keeps.behind inOrder_behind ?_ h.1 h.2
      exact keeps_ite (keeps_pure _) (keeps_pure _)
  · rintro t e s' ⟨hs', ⟨rfl, he⟩ | ⟨res, rfl, -⟩⟩
    · cases he
    · exact ⟨preceded_result _ res, hs'⟩

theorem settles_letIn : Settles client loginId (Scripts.Loginer.letIn u p fd) := by
  refine settles_bind (settles_count (keeps_pure _) fun t => keeps_pure _) fun logined => keeps_ite ?_ ?_
  · exact settles_bind (settles_login client u p fd) fun ret => keeps_ite (keeps_pure _) (keeps_pure _)
  · exact settles_displace client u p fd

theorem settles_processLogin : Settles client loginId (Scripts.Loginer.processLogin u p fd) := by
  refine settles_bind (settles_count (keeps_pure _) fun t => keeps_pure _) fun r => ?_
  exact keeps_ite (keeps_pure _) (keeps_ite (keeps_pure _) (settles_letIn client u p fd))

theorem settles_processLogout : Settles client readInt (Scripts.Loginer.processLogout u) := by
  refine settles_select_result (keeps_pure _) fun res s hs => ?_
  have hresult := @preceded_result readInt (.selectLoginedId u) res
  split
  · exact tells_pure ⟨hresult, hs⟩
  · refine tells_lift_bind (fun _ _ => ?_) fun e _ => ⟨hresult, hs⟩
    refine tells_lift_bind (fun id hid => ?_) fun e _ => ⟨hresult, hs⟩
    exact tells_update client hid hs fun ret => keeps_ite (keeps_pure _) (keeps_pure _)

theorem settles_processRegist (msg : Text) : Settles client read (Scripts.Register.processRegist u p msg) := by
  refine settles_bind (settles_count (keeps_pure _) fun t => keeps_pure _) fun r => ?_
  refine keeps_ite (keeps_pure _) (keeps_ite (keeps_pure _) ?_)
  refine settles_bind ?_ fun ret => keeps_ite (keeps_pure _) (keeps_pure _)
  refine settles_bind settles_time fun t => settles_bind (settles_insert _) fun ret => ?_
  exact keeps_ite (keeps_pure _) (keeps_pure _)

end

/-! ## The check of the password -/

/-- What `isValidUserNameAndPassWord` makes of the rows it gets. -/
def MysqlResult.valid (r : MysqlResult) : C Bool := do
  assert (r.rowsCount = 1)
  assert (r.fieldsCount = 1)
  let count ← Scripts.cell r 0 0
  .ok (readInt count ≠ 0)

/-- The login is turned away for its name or its password. -/
def Rejected (r : C LoginReply) : Prop := ∃ a, r = .ok a ∧ a.code = .USERNAME_OR_PASSWD_ERROR

section

variable {α : Type} {client : MysqlClient} {s : SqlApi} {u p : Text}

theorem rejected_ok {a : LoginReply} : Rejected (.ok a) ↔ a.code = .USERNAME_OR_PASSWD_ERROR := by
  constructor
  · rintro ⟨b, hb, hcode⟩
    cases hb
    exact hcode
  · exact fun h => ⟨a, rfl, h⟩

theorem not_rejected_error (e : Fault) : ¬ Rejected (.error e) := by
  rintro ⟨a, ha, -⟩
  cases ha

theorem isValid_missed (h : client.fetches s.connection.queries (.countPassword u p) s.db = none) :
    Script.Tells (sqlApi client) (Scripts.Loginer.isValidUserNameAndPassWord u p) s fun t r _ =>
      t = [.select (.countPassword u p) none] ∧ r = .ok (-1, false) :=
  tells_select_none h (Script.tells_pure ⟨rfl, rfl⟩)

/-- The count is the one of the select that was sent for it. -/
theorem isValid_fetched {res : Fetched} (hs : Clean s)
    (h : client.fetches s.connection.queries (.countPassword u p) s.db = some res) :
    Script.Tells (sqlApi client) (Scripts.Loginer.isValidUserNameAndPassWord u p) s fun t r _ =>
      t = [.select (.countPassword u p) (some res), .getResult res.result] ∧ r = res.result.valid.map fun b => (0, b) := by
  refine tells_select_some hs h ?_
  have hlift : ∀ x : C Text, (Script.lift x >>= fun count => pure (0, decide (readInt count ≠ 0)) :
      SqlScript (Int × Bool)) = Script.lift (x >>= fun count => .ok (0, decide (readInt count ≠ 0))) :=
    fun x => Script.lift_bind_lift x _
  simp only [hlift, Script.lift_bind_lift]
  refine Script.tells_lift ⟨rfl, ?_⟩
  unfold MysqlResult.valid
  cases assert (res.result.rowsCount = 1) with
  | error e => rfl
  | ok a =>
    cases assert (res.result.fieldsCount = 1) with
    | error e => rfl
    | ok a =>
      cases Scripts.cell res.result 0 0 with
      | error e => rfl
      | ok count => rfl

/-- Whatever comes first, the login is not turned away in what comes then. -/
theorem not_rejected_bind {x : SqlScript α} {f : α → SqlScript LoginReply}
    (hf : ∀ a s, Script.Tells (sqlApi client) (f a) s fun _ r _ => ¬ Rejected r) (s : SqlApi) :
    Script.Tells (sqlApi client) (x >>= f) s fun _ r _ => ¬ Rejected r := by
  refine @Script.tells_bind _ _ _ _ _ _ _ _ _ _ (fun _ _ _ => True) _ trivial ?_ ?_
  · exact fun _ a s' _ => hf a s'
  · exact fun _ e _ _ => not_rejected_error e

theorem not_rejected_pure {a : LoginReply} (h : a.code ≠ .USERNAME_OR_PASSWD_ERROR) (s : SqlApi) :
    Script.Tells (sqlApi client) (pure a) s fun _ r _ => ¬ Rejected r :=
  Script.tells_pure fun hr => h (rejected_ok.1 hr)

theorem not_rejected_ite {c : Prop} [Decidable c] {x y : SqlScript LoginReply}
    (hx : ∀ s, Script.Tells (sqlApi client) x s fun _ r _ => ¬ Rejected r)
    (hy : ∀ s, Script.Tells (sqlApi client) y s fun _ r _ => ¬ Rejected r) (s : SqlApi) :
    Script.Tells (sqlApi client) (if c then x else y) s fun _ r _ => ¬ Rejected r := by
  split
  · exact hx s
  · exact hy s

theorem not_rejected_displace (fd : Int) (s : SqlApi) :
    Script.Tells (sqlApi client) (Scripts.Loginer.displace u p fd) s fun _ r _ => ¬ Rejected r := by
  refine not_rejected_bind (fun r => not_rejected_ite (not_rejected_pure RegistLoginCode.noConfusion) ?_) s
  refine not_rejected_bind fun ret => not_rejected_ite ?_ ?_
  · exact not_rejected_pure RegistLoginCode.noConfusion
  · exact not_rejected_pure RegistLoginCode.noConfusion

theorem not_rejected_letIn (fd : Int) (s : SqlApi) :
    Script.Tells (sqlApi client) (Scripts.Loginer.letIn u p fd) s fun _ r _ => ¬ Rejected r := by
  refine not_rejected_bind (fun logined => not_rejected_ite ?_ (not_rejected_displace fd)) s
  refine not_rejected_bind fun ret => not_rejected_ite ?_ ?_
  · exact not_rejected_pure RegistLoginCode.noConfusion
  · exact not_rejected_pure RegistLoginCode.noConfusion

/-- A login begins with the select of its own name and password, and is turned away exactly when the
count in what that got is zero. -/
theorem processLogin_rejected (hs : Clean s) (fd : Int) :
    Script.Tells (sqlApi client) (Scripts.Loginer.processLogin u p fd) s fun t r _ =>
      ∃ res rest, t = .select (.countPassword u p) res :: rest ∧
        (∀ found, res = some found → ∃ rest', rest = .getResult found.result :: rest') ∧
        (Rejected r ↔ ∃ found, res = some found ∧ found.result.valid = .ok false) := by
  cases hd : client.fetches s.connection.queries (.countPassword u p) s.db with
  | none =>
    refine Script.tells_bind (isValid_missed hd) ?_ ?_
    · rintro t a s' ⟨rfl, ha⟩
      cases ha
      refine Script.tells_pure ⟨none, [], rfl, nofun, ?_⟩
      exact iff_of_false (fun h => RegistLoginCode.noConfusion (rejected_ok.1 h)) nofun
    · rintro t e s' ⟨-, he⟩
      cases he
  | some res =>
    have hbehind : ∀ t : List SqlEvent, ∀ found, some res = some found →
        ∃ rest', .getResult res.result :: t = .getResult found.result :: rest' := by
      rintro t found hfound
      cases hfound
      exact ⟨t, rfl⟩
    refine Script.tells_bind (isValid_fetched hs hd) ?_ ?_
    · rintro t a s' ⟨rfl, ha⟩
      cases hvalid : res.result.valid with
      | error e =>
        rw [hvalid] at ha
        cases ha
      | ok b =>
        rw [hvalid] at ha
        cases ha
        cases b with
        | false =>
          refine Script.tells_pure ⟨some res, [.getResult res.result], rfl, hbehind [], ?_⟩
          exact iff_of_true (rejected_ok.2 rfl) ⟨res, rfl, hvalid⟩
        | true =>
          refine (not_rejected_letIn fd s').imp fun t r _ hr => ⟨some res, _, rfl, hbehind t, iff_of_false hr ?_⟩
          rintro ⟨found, hfound, hfalse⟩
          cases hfound
          rw [hvalid] at hfalse
          cases hfalse
    · rintro t e s' ⟨rfl, he⟩
      refine ⟨some res, [.getResult res.result], rfl, hbehind [], iff_of_false (not_rejected_error e) ?_⟩
      rintro ⟨found, hfound, hfalse⟩
      cases hfound
      rw [hfalse] at he
      cases he

end

/-! ## Runs -/

/-- An operation, what is seen of it, and what it ends with. -/
structure Watched where
  call : Call
  events : List SqlEvent
  ended : CallEnd

/-- The operations on copies of one object.  A copy is gone with its operation; the connection is the
same for all. -/
def watched (client : MysqlClient) : Machine Call Watched SqlApi
  | .regist u p, s =>
    let r := Register.processRegist client.server u p [] s
    (⟨.regist u p, (Scripts.Register.processRegist u p []).trace (sqlApi client) s, .regist r.1⟩,
      { s with connection := r.2.connection })
  | .login u p fd, s =>
    let r := Loginer.processLogin client.server u p fd s
    (⟨.login u p fd, (Scripts.Loginer.processLogin u p fd).trace (sqlApi client) s, .login r.1⟩,
      { s with connection := r.2.connection })
  | .logout u, s =>
    let r := Loginer.processLogout client.server u s
    (⟨.logout u, (Scripts.Loginer.processLogout u).trace (sqlApi client) s, .logout r.1⟩,
      { s with connection := r.2.connection })

/-- What is watched is the login manager. -/
theorem watched_loginManager (client : MysqlClient) (call : Call) (c : Connection) :
    ((watched client call { connection := c }).1.ended, (watched client call { connection := c }).2.connection) =
      loginManager client.server call c := by
  cases call <;> rfl

/-- What the operation makes of the text of an id. -/
def Call.readsId : Call → Text → Int
  | .regist _ _ => readInt
  | .login _ _ _ => loginId
  | .logout _ => readInt

/-- A login that was seen to begin with the check of its password, and to end by what it read then. -/
def Watched.ChecksRead (w : Watched) : Prop :=
  ∀ u p fd, w.call = .login u p fd → ∃ res rest r, w.events = .select (.countPassword u p) res :: rest ∧
    (∀ found, res = some found → ∃ rest', rest = .getResult found.result :: rest') ∧
    w.ended = .login r ∧ (Rejected r ↔ ∃ found, res = some found ∧ found.result.valid = .ok false)

/-- A login that ends by what its own select has got. -/
def Watched.ChecksOwn (w : Watched) : Prop :=
  ∀ u p fd, w.call = .login u p fd → ∃ res rest r, w.events = .select (.countPassword u p) res :: rest ∧
    w.ended = .login r ∧ (Rejected r ↔ ∃ found, res = some found ∧ found.got.result.valid = .ok false)

/-- Everything an operation does is in order. -/
theorem watched_step (client : MysqlClient) (call : Call) (s : SqlApi) (hs : Clean s) :
    (Preceded (InOrder (watched client call s).1.call.readsId) [] (watched client call s).1.events ∧
      (watched client call s).1.ChecksRead) ∧ Clean (watched client call s).2 := by
  cases call with
  | regist u p => exact ⟨⟨(settles_processRegist client u p [] s hs).1, nofun⟩, hs⟩
  | logout u => exact ⟨⟨(settles_processLogout client u s hs).1, nofun⟩, hs⟩
  | login u p fd =>
    refine ⟨⟨(settles_processLogin client u p fd s hs).1, ?_⟩, hs⟩
    rintro u' p' fd' hcall
    cases hcall
    obtain ⟨res, rest, hevents, hbehind, hrejected⟩ := @processLogin_rejected client s u p hs fd
    rw [run_processLogin] at hrejected
    exact ⟨res, rest, _, hevents, hbehind, rfl, hrejected⟩

/-- Every result holds the rows of the select right in front of it, in their order and with their
number, and a login goes by its own select. -/
def Watched.UpToDate (w : Watched) : Prop :=
  (∀ pre r post, w.events = pre ++ .getResult r :: post → ∃ pre' stmt res,
    pre = pre' ++ [.select stmt (some res)] ∧ r.mysqlRowVec = res.got.rows ∧ r.rowsCount = r.mysqlRowVec.length) ∧
  w.ChecksOwn

/-- The client library has left the rows of every freed result that is handed out as they were. -/
def Watched.Untouched (w : Watched) : Prop :=
  ∀ pre stmt res r post, w.events = pre ++ .select stmt (some res) :: .getResult r :: post →
    res.left = res.got.rows

section

variable {w : Watched}

/-- The select a result is read from is the one in front of it. -/
theorem result_of_preceded {pre post : List SqlEvent} {stmt : Stmt} {res : Fetched} {r : MysqlResult}
    (h : Preceded (InOrder read) [] w.events)
    (hevents : w.events = pre ++ .select stmt (some res) :: .getResult r :: post) : r = res.result := by
  rw [List.append_cons] at hevents
  obtain ⟨pre', stmt', res', hpre, rfl⟩ := (h.at hevents).1 r rfl
  cases (List.append_singleton_inj.1 hpre).2
  rfl

/-- A login that goes by what it read goes by its own select, if that was not touched. -/
theorem Watched.ChecksRead.own (h : w.ChecksRead) (hw : w.Untouched) : w.ChecksOwn := by
  intro u p fd hcall
  obtain ⟨res, rest, r, hevents, hbehind, hended, hrejected⟩ := h u p fd hcall
  refine ⟨res, rest, r, hevents, hended, hrejected.trans ?_⟩
  have hresult : ∀ found, res = some found → found.result = found.got.result := by
    rintro found rfl
    obtain ⟨rest', rfl⟩ := hbehind found rfl
    rw [Fetched.result, hw [] _ found _ rest' hevents, MysqlRes.result]
  constructor
  · rintro ⟨found, hfound, hvalid⟩
    exact ⟨found, hfound, hresult found hfound ▸ hvalid⟩
  · rintro ⟨found, hfound, hvalid⟩
    exact ⟨found, hfound, (hresult found hfound).symm ▸ hvalid⟩

/-- An operation that is in order has up-to-date results when none of them was touched, and only then. -/
theorem Watched.upToDate_iff (hseen : Preceded (InOrder read) [] w.events) (hread : w.ChecksRead) :
    w.UpToDate ↔ w.Untouched := by
  constructor
  · rintro ⟨h, -⟩ pre stmt res r post hevents
    obtain ⟨pre', stmt', res', hpre, hrows, -⟩ := h (pre ++ [.select stmt (some res)]) r post
      (by rw [hevents, List.append_cons])
    cases (List.append_singleton_inj.1 hpre).2
    rw [result_of_preceded hseen hevents] at hrows
    exact hrows
  · intro h
    refine ⟨fun pre r post hevents => ?_, hread.own h⟩
    obtain ⟨pre', stmt, res, rfl, rfl⟩ := (hseen.at hevents).1 r rfl
    have hleft : res.left = res.got.rows :=
      h pre' stmt res res.result post (by rw [hevents, List.append_assoc, List.singleton_append])
    exact ⟨pre', stmt, res, rfl, hleft, by rw [Fetched.result, hleft]⟩

end

/-- **No result is stale, exactly when no freed result was touched**, whatever operations are run, and
whichever calls of `mysql_query` and `mysql_store_result` fail. -/
theorem results_fresh_iff (client : MysqlClient) (c : Connection) (rowsCount fieldsCount : Nat)
    (calls : List Call) :
    (∀ w ∈ ((watched client).run calls ⟨c, ⟨[], rowsCount, fieldsCount⟩⟩).1, w.UpToDate) ↔
      ∀ w ∈ ((watched client).run calls ⟨c, ⟨[], rowsCount, fieldsCount⟩⟩).1, w.Untouched := by
  have hstart : Clean ⟨c, ⟨[], rowsCount, fieldsCount⟩⟩ := rfl
  refine forall₂_congr fun w hw => ?_
  obtain ⟨hseen, hread⟩ := @Machine.forall_output _ _ _ (watched client) Clean
    (fun w => Preceded (InOrder w.call.readsId) [] w.events ∧ w.ChecksRead) (watched_step client) _ _ hstart w hw
  exact Watched.upToDate_iff hseen hread

/-- A client library whose freed rows are read as empty texts, in front of a server. -/
def MysqlClient.wiping (m : Mysql) : MysqlClient :=
  { MysqlClient.ofServer m with freed := fun _ _ row => row.map fun _ => [] }

/-- A login with the right password, on such a library: the count of its row is read when it has been
freed. -/
theorem wiped_login :
    (watched (.wiping memoryServer) (.login (ascii "u") (ascii "p") 6) ⟨{ db := loggedIn }, {}⟩).1 =
      ⟨.login (ascii "u") (ascii "p") 6,
        [.select (.countPassword (ascii "u") (ascii "p")) (some ⟨⟨[[natText 1]], 1⟩, [[[]]]⟩),
          .getResult ⟨[[[]]], 1, 1⟩],
        .login (.ok ⟨⟨-1, .USERNAME_OR_PASSWD_ERROR, ascii "userName or passWord error!"⟩, -1⟩)⟩ := rfl

/-- It is turned away. -/
theorem freed_count_rejects_login :
    ¬ ∀ (client : MysqlClient) (c : Connection) (rowsCount fieldsCount : Nat) (calls : List Call),
      ∀ w ∈ ((watched client).run calls ⟨c, ⟨[], rowsCount, fieldsCount⟩⟩).1, w.UpToDate := by
  intro hall
  have h := hall (.wiping memoryServer) { db := loggedIn } 0 0 [.login (ascii "u") (ascii "p") 6] _
    List.mem_cons_self
  rw [wiped_login] at h
  obtain ⟨res, rest, r, hevents, hended, hrejected⟩ := h.2 (ascii "u") (ascii "p") 6 rfl
  cases hevents
  cases hended
  obtain ⟨found, hfound, hvalid⟩ := hrejected.1 ⟨_, rfl, rfl⟩
  cases hfound
  exact absurd hvalid (by decide)

end SingleTerminalLogin
