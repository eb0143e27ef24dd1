import SingleTerminalLogin.Services.Chain
import SingleTerminalLogin.Services.Displacement

/-!
# Who ends a session

The text a client sends names the user it is about, and a logout brings no
password along.

* `requestCall` — what the login manager is asked to do by a text that comes in
  on a descriptor, and `dealClientMessage_snd_eq` — that this is all that is done;
* `Call.Outcome.ends_own` — the operations that end a session;
* `session_ended_by_owner` — a session ends by a login of its user or by its own
  client, as long as nobody logs out a user whose session is another client's.
-/

namespace SingleTerminalLogin

open ByteText CProgram Proc SqlApi Loginer Register MessageReceiver MessageDispatcher UserLoginImpl

/-! ## What a text asks for -/

/-- The operation a message makes `UserLoginImpl::dealClientMessage` call. -/
def messageCall (receivedMessage : Text) : Option Call :=
  match getOperateType receivedMessage with
  | .error _ => none
  | .ok (ret, operateType) =>
    if ret ≠ 0 then none
    else
      match MessageType.ofInt operateType with
      | none => none
      | some .REGIST =>
        match registParameters receivedMessage with
        | .ok (some (u, p)) => some (.regist u p)
        | _ => none
      | some .LOGIN =>
        match loginParameters receivedMessage with
        | .ok (some (u, p, fd)) => some (.login u p fd)
        | _ => none
      | some .LOGOUT =>
        match logoutParameters receivedMessage with
        | .ok (some u) => some (.logout u)
        | _ => none

/-- The operation a client's text leads to, when it comes in on that descriptor. -/
def requestCall (message : Text) (sendToClientFd : Int) : Option Call :=
  match getNeedSendMessage message sendToClientFd with
  | .error _ => none
  | .ok needSendMessage =>
    match getServiceFdAndMessage needSendMessage with
    | .error _ => none
    | .ok (ret, needSendMessage) => if ret ≠ 0 then none else messageCall needSendMessage

/-- The connection after a call, if there is one. -/
def after (m : Mysql) (c : Connection) : Option Call → Connection
  | none => c
  | some call => (loginManager m call c).2

/-- What the login manager makes of the end of a call: the operation its response is put
together from. -/
def CallEnd.operation : CallEnd → C Operation
  | .regist r => r.map fun (r : Reply) =>
      unexpected { ret := if r.ret ≠ 0 then -1 else 0, errcode := r.code, errmsg := r.msg }
        (ascii "SYSTEM ERROR: process regist occur unexpect error!")
  | .login r => r.map fun (r : LoginReply) =>
      unexpected { ret := if r.ret ≠ 0 then -1 else 0, logoutFd := r.logoutFd, errcode := r.code,
                   errmsg := r.msg }
        (ascii "SYSTEM ERROR: process login occur unexpect error!")
  | .logout r => r.map fun (r : Reply) =>
      unexpected { ret := if r.ret ≠ 0 then -1 else 0, errcode := r.code, errmsg := r.msg }
        (ascii "SYSTEM ERROR: process logout occur unexpect error!")

section

variable {m : Mysql} {c : Connection} {t : Text} {u p : Text} {fd : Int}

/-- A registration whose parameters can be read is one call. -/
theorem operate_regist (h : registParameters t = .ok (some (u, p))) :
    operate m t MessageType.REGIST.value c =
      ((loginManager m (.regist u p) c).1.operation, (loginManager m (.regist u p) c).2) := by
  rw [operate]
  simp only [MessageType.ofInt_value]
  rw [bind_pure_run, UserLoginImpl.processRegist, lift_bind_run_ok h]
  simp only
  rw [bind_pure_run]
  exact Prod.ext (outcome_map_map _ _ _) rfl

theorem operate_login (h : loginParameters t = .ok (some (u, p, fd))) :
    operate m t MessageType.LOGIN.value c =
      ((loginManager m (.login u p fd) c).1.operation, (loginManager m (.login u p fd) c).2) := by
  rw [operate]
  simp only [MessageType.ofInt_value]
  rw [bind_pure_run, UserLoginImpl.processLogin, lift_bind_run_ok h]
  simp only
  rw [bind_pure_run]
  exact Prod.ext (outcome_map_map _ _ _) rfl

theorem operate_logout (h : logoutParameters t = .ok (some u)) :
    operate m t MessageType.LOGOUT.value c =
      ((loginManager m (.logout u) c).1.operation, (loginManager m (.logout u) c).2) := by
  rw [operate]
  simp only [MessageType.ofInt_value]
  rw [bind_pure_run, UserLoginImpl.processLogout, lift_bind_run_ok h]
  simp only
  rw [bind_pure_run]
  exact Prod.ext (outcome_map_map _ _ _) rfl

theorem processRegist_snd : (UserLoginImpl.processRegist m t c).2 =
    after m c (match registParameters t with
      | .ok (some (u, p)) => some (.regist u p)
      | _ => none) := by
  cases h : registParameters t with
  | error e => rw [UserLoginImpl.processRegist, h, bind_run_error (lift_run _ c)]; rfl
  | ok a =>
    rw [UserLoginImpl.processRegist, lift_bind_run_ok h]
    cases a with
    | none => rfl
    | some a =>
      obtain ⟨u, p⟩ := a
      dsimp only
      rw [bind_pure_run]
      rfl

theorem processLogin_snd : (UserLoginImpl.processLogin m t c).2 =
    after m c (match loginParameters t with
      | .ok (some (u, p, fd)) => some (.login u p fd)
      | _ => none) := by
  cases h : loginParameters t with
  | error e => rw [UserLoginImpl.processLogin, h, bind_run_error (lift_run _ c)]; rfl
  | ok a =>
    rw [UserLoginImpl.processLogin, lift_bind_run_ok h]
    cases a with
    | none => rfl
    | some a =>
      obtain ⟨u, p, fd⟩ := a
      dsimp only
      rw [bind_pure_run]
      rfl

theorem processLogout_snd : (UserLoginImpl.processLogout m t c).2 =
    after m c (match logoutParameters t with
      | .ok (some u) => some (.logout u)
      | _ => none) := by
  cases h : logoutParameters t with
  | error e => rw [UserLoginImpl.processLogout, h, bind_run_error (lift_run _ c)]; rfl
  | ok a =>
    rw [UserLoginImpl.processLogout, lift_bind_run_ok h]
    cases a with
    | none => rfl
    | some u =>
      dsimp only
      rw [bind_pure_run]
      rfl

/-- What the login manager does for a message is the call it asks for. -/
theorem performed_snd : (performed m t c).2 = after m c (messageCall t) := by
  unfold messageCall
  cases htype : getOperateType t with
  | error e => rw [performed, htype, bind_run_error (lift_run _ c)]; rfl
  | ok r =>
    obtain ⟨ret, operateType⟩ := r
    rw [performed, lift_bind_run_ok htype]
    dsimp only
    by_cases hret : ret ≠ 0
    · rw [if_pos hret, if_pos hret]
      rfl
    rw [if_neg hret, if_neg hret, operate]
    cases MessageType.ofInt operateType with
    | none => rfl
    | some type =>
      cases type with
      | REGIST =>
        dsimp only
        rw [bind_pure_run]
        exact processRegist_snd
      | LOGIN =>
        dsimp only
        rw [bind_pure_run]
        exact processLogin_snd
      | LOGOUT =>
        dsimp only
        rw [bind_pure_run]
        exact processLogout_snd

/-- What a text does to the tables is the call it leads to, whatever becomes of the
response. -/
theorem dealClientMessage_snd_eq (write : Nat → Int → WriteOutcome) (fd : Int) :
    (MessageReceiver.dealClientMessage m write fd t c).2 = after m c (requestCall t fd) := by
  unfold requestCall MessageReceiver.dealClientMessage
  cases getNeedSendMessage t fd with
  | error e => rfl
  | ok m₁ =>
    have hdispatcher : (MessageDispatcher.dealClientMessage m m₁ c).2 =
        after m c (match getServiceFdAndMessage m₁ with
          | .error _ => none
          | .ok (ret, m₂) => if ret ≠ 0 then none else messageCall m₂) := by
      unfold MessageDispatcher.dealClientMessage
      cases getServiceFdAndMessage m₁ with
      | error e => rfl
      | ok r =>
        obtain ⟨ret, m₂⟩ := r
        dsimp only
        by_cases hret : ret ≠ 0
        · rw [if_pos hret, if_pos hret]
          rfl
        rw [if_neg hret, if_neg hret, ← performed_snd, ← dealClientMessage_snd]
        cases UserLoginImpl.dealClientMessage m m₂ c with
        | mk r c' =>
          cases r with
          | error e => rfl
          | ok response => rfl
    dsimp only
    rw [← hdispatcher]
    cases MessageDispatcher.dealClientMessage m m₁ c with
    | mk r c' =>
      cases r with
      | none => rfl
      | some response =>
        dsimp only
        cases dealServiceResponse write fd response with
        | error e => rfl
        | ok s => rfl

end

/-! ## Which calls end a session -/

section

variable {torn : Prop} {u v p : Text} {fd : Int} {row : LoginRow}

/-- A login that is entered ends nothing. -/
theorem Loginer.Logined.active_mono {db db' : Db} (h : Logined u p fd db db')
    (hrow : row ∈ db.active v) : row ∈ db'.active v := by
  obtain ⟨time, id, -, -, -, rfl⟩ := h
  rw [Db.active_insertLogin]
  exact List.mem_append_left _ hrow

/-- A login ends the session of its own user, and only with a valid password. -/
theorem Loginer.LoginOutcome.ends_own {s s' : SqlApi} {r : C LoginReply}
    (h : LoginOutcome torn u p fd s s' r) (hids : s.db.IdsFit) (hrow : row ∈ s.db.active v)
    (hgone : row ∉ s'.db.active v) : v = u ∧ counted (s.db.passwordRows u p).length = true := by
  have hother : ∀ {row₀ : LoginRow}, s.db.active u = [row₀] → v ≠ u →
      row ∈ (s.db.logoutRow row₀.fuiId).active v := by
    intro row₀ ha hv
    rw [Db.active_logoutRow_other hids (ha ▸ List.mem_singleton_self row₀) hv]
    exact hrow
  cases h with
  | unchecked h => exact absurd (h.db ▸ hrow) hgone
  | invalid hv h => exact absurd (h.db ▸ hrow) hgone
  | first hv ha hd hf => exact absurd (hd.active_mono hrow) hgone
  | firstFailed hv ha hd hf =>
    rcases hd with hd | ⟨-, hd⟩
    · exact absurd (hd ▸ hrow) hgone
    · exact absurd (hd.active_mono hrow) hgone
  | unlocated hv h => exact absurd (h.db ▸ hrow) hgone
  | aborted hv ha hd hle hf => exact absurd (hd ▸ hrow) hgone
  | displaced row₀ hvalid ha hd hf =>
    refine ⟨?_, hvalid⟩
    by_contra hv
    exact hgone (hd.active_mono (hother ha hv))
  | displaceFailed row₀ hvalid ha hd hf =>
    refine ⟨?_, hvalid⟩
    by_contra hv
    rcases hd with hd | hd | ⟨-, hd⟩
    · exact hgone (hd ▸ hrow)
    · exact hgone (hd ▸ hother ha hv)
    · exact hgone (hd.active_mono (hother ha hv))

/-- A logout ends the session of the user it names. -/
theorem Loginer.LogoutOutcome.ends_own {s s' : SqlApi} {r : C Reply} (h : LogoutOutcome torn u s s' r)
    (hids : s.db.IdsFit) (hrow : row ∈ s.db.active v) (hgone : row ∉ s'.db.active v) : v = u := by
  by_contra hv
  cases h with
  | unlocated h => exact hgone (h.db ▸ hrow)
  | absent ha h => exact hgone (h.db ▸ hrow)
  | ended row₀ ha hd hf =>
    rw [hd, Db.active_logoutRow_other hids ha hv] at hgone
    exact hgone hrow
  | endFailed row₀ ha hd hf =>
    rcases hd with hd | ⟨-, hd⟩
    · exact hgone (hd ▸ hrow)
    · rw [hd, Db.active_logoutRow_other hids ha hv] at hgone
      exact hgone hrow

theorem Register.RegistOutcome.active {msg : Text} {s s' : SqlApi} {r : C Reply}
    (h : RegistOutcome torn u p msg s s' r) : s'.db.active v = s.db.active v := by
  have hin : Registed u p s.db s'.db → s'.db.active v = s.db.active v := by
    rintro ⟨time, h⟩
    rw [h, Db.active_insertPassword]
  cases h with
  | unchecked h => rw [h.db]
  | taken hv h => rw [h.db]
  | entered hv hd hf => exact hin hd
  | enterFailed hv hd hf =>
    rcases hd with hd | ⟨-, hd⟩
    · rw [hd]
    · exact hin hd

/-- A session ends by a valid login of its user, or by a logout of them. -/
theorem Call.Outcome.ends_own {call : Call} {e : CallEnd} {c c' : Connection}
    (h : call.Outcome torn c c' e) (hids : c.db.IdsFit) (hrow : row ∈ c.db.active v)
    (hgone : row ∉ c'.db.active v) :
    (∃ p fd, call = .login v p fd ∧ counted (c.db.passwordRows v p).length = true) ∨
      call = .logout v := by
  cases call with
  | regist u p =>
    cases e with
    | regist r =>
      have hactive : c'.db.active v = c.db.active v := RegistOutcome.active h
      rw [hactive] at hgone
      exact absurd hrow hgone
    | login r => exact h.elim
    | logout r => exact h.elim
  | login u p fd =>
    cases e with
    | regist r => exact h.elim
    | login r =>
      obtain ⟨rfl, hvalid⟩ := LoginOutcome.ends_own h hids hrow hgone
      exact Or.inl ⟨p, fd, rfl, hvalid⟩
    | logout r => exact h.elim
  | logout u =>
    cases e with
    | regist r => exact h.elim
    | login r => exact h.elim
    | logout r =>
      obtain rfl := LogoutOutcome.ends_own h hids hrow hgone
      exact Or.inr rfl

/-- A logout that meets no failure leaves its user without a session. -/
theorem Loginer.LogoutOutcome.active_nil {s s' : SqlApi} {r : C Reply}
    (h : LogoutOutcome torn u s s' r) (hs : s.db.Sane)
    (hfail : s'.connection.failures = s.connection.failures) : s'.db.active u = [] := by
  cases h with
  | unlocated h => exact absurd hfail h.failures.ne'
  | absent ha h => rw [h.db, ha]
  | ended row ha hd hf =>
    rw [hd]
    exact Db.active_logoutRow_single (hs.active_eq ha)
  | endFailed row ha hd hf => exact absurd hfail hf.ne'

end

/-! ## The owner of a session -/

/-- The text is a valid login of the user. -/
def ValidLogin (t : Text) (fd : Int) (db : Db) (u : Text) : Prop :=
  ∃ p fd', requestCall t fd = some (.login u p fd') ∧ db.passwordRows u p ≠ []

/-- Every session that ends is ended by a valid login of its user, or from its own
descriptor. -/
def EndedByOwner (t : Text) (fd : Int) (db db' : Db) : Prop :=
  ∀ u row, row ∈ db.active u → row ∉ db'.active u → ValidLogin t fd db u ∨ row.fuiFd = fd

/-- The text logs out a user whose session is another client's. -/
def LogsOutOther (t : Text) (fd : Int) (db : Db) : Prop :=
  ∃ u row, requestCall t fd = some (.logout u) ∧ row ∈ db.active u ∧ row.fuiFd ≠ fd

section

variable {torn : Prop} {P : Text → Prop} {m : Mysql} {c : Connection} {t : Text} {fd : Int}

theorem endedByOwner_of_not_logsOutOther (hm : ServedBy torn P m) (hs : c.db.Sane)
    (hP : ∀ call ∈ requestCall t fd, ∀ n ∈ call.names, P n) (h : ¬ LogsOutOther t fd c.db) :
    EndedByOwner t fd c.db (after m c (requestCall t fd)).db := by
  intro u row hrow hgone
  cases hcall : requestCall t fd with
  | none =>
    rw [hcall] at hgone
    exact absurd hrow hgone
  | some call =>
    rw [hcall] at hgone
    have hout := loginManager_outcome hm (hP call hcall) hs.ids
    rcases hout.ends_own hs.ids hrow hgone with ⟨p, fd', rfl, hvalid⟩ | rfl
    · refine Or.inl ⟨p, fd', hcall, fun hnil => ?_⟩
      rw [hnil, List.length_nil, counted_zero] at hvalid
      cases hvalid
    · right
      by_contra hfd
      exact h ⟨u, row, hcall, hrow, hfd⟩

theorem not_endedByOwner_of_logsOutOther (hm : ServedBy torn P m) (hs : c.db.Sane)
    (hP : ∀ call ∈ requestCall t fd, ∀ n ∈ call.names, P n)
    (hfail : (after m c (requestCall t fd)).failures = c.failures) (h : LogsOutOther t fd c.db) :
    ¬ EndedByOwner t fd c.db (after m c (requestCall t fd)).db := by
  obtain ⟨u, row, hcall, hrow, hfd⟩ := h
  intro howner
  have hout := loginManager_outcome hm (hP _ hcall) hs.ids
  rw [hcall] at hfail howner
  have hlogout : LogoutOutcome torn u { connection := c } { connection := after m c (some (.logout u)) }
      (onCopy (processLogout m u) c).1 := hout
  have hnil : (after m c (some (.logout u))).db.active u = [] := hlogout.active_nil hs hfail
  have hgone : row ∉ (after m c (some (.logout u))).db.active u := by
    rw [hnil]
    exact List.not_mem_nil
  rcases howner u row hrow hgone with ⟨p, fd', hlogin, -⟩ | hown
  · rw [hcall] at hlogin
    cases hlogin
  · exact hfd hown

end

/-- The tables stay sane.  A session that ends is ended by its owner, whatever
statements fail, unless the text logs out a user whose session is another client's;
and then it is not, when no statement fails. -/
theorem session_ended_by_owner {torn : Prop} {P : Text → Prop} (m : Mysql) (hm : ServedBy torn P m)
    (c : Connection) (hs : c.db.Sane) (write : Nat → Int → WriteOutcome) (t : Text) (fd : Int)
    (hP : ∀ call ∈ requestCall t fd, ∀ n ∈ call.names, P n) (c' : Connection)
    (hc' : (MessageReceiver.dealClientMessage m write fd t c).2 = c') :
    c'.db.Sane ∧ (¬ LogsOutOther t fd c.db → EndedByOwner t fd c.db c'.db) ∧
      (c'.failures = c.failures → EndedByOwner t fd c.db c'.db → ¬ LogsOutOther t fd c.db) := by
  rw [dealClientMessage_snd_eq] at hc'
  subst hc'
  refine ⟨?_, endedByOwner_of_not_logsOutOther hm hs hP, ?_⟩
  · cases hcall : requestCall t fd with
    | none => exact hs
    | some call => exact (loginManager_outcome hm (hP call hcall) hs.ids).sane hs
  · exact fun hfail howner h => not_endedByOwner_of_logsOutOther hm hs hP hfail h howner

/-- A client on descriptor 9 sends a logout of `u`, who is logged in on 6. -/
def logoutOfU : Text :=
  ascii "\x7b\"messageType\":3,\"message\":\x7b\"userName\":\"u\"\x7d\x7d"

theorem requestCall_logoutOfU : requestCall logoutOfU 9 = some (.logout (ascii "u")) := by
  decide +kernel

theorem session_ended_by_owner_login :
    ∃ c', (MessageReceiver.dealClientMessage memoryServer (fun _ _ => .done) 9 plainLogin
        { db := loggedIn }).2 = c' ∧ c'.db.Sane ∧ EndedByOwner plainLogin 9 loggedIn c'.db := by
  have hcall : requestCall plainLogin 9 = some (.login (ascii "u") (ascii "p") 9) := by decide +kernel
  have hsane : loggedIn.Sane := by
    refine ⟨⟨by decide, ?_, ?_⟩, fun v => List.length_filter_le _ _⟩
    · intro r hr
      rw [List.mem_singleton.1 hr]
      decide
    · intro r hr
      rw [List.mem_singleton.1 hr]
      decide
  refine ⟨_, rfl, ?_⟩
  obtain ⟨hsane', howner, -⟩ := session_ended_by_owner memoryServer (literal_memoryServer) { db := loggedIn }
    hsane (fun _ _ => .done) plainLogin 9 (fun _ _ _ _ => trivial) _ rfl
  refine ⟨hsane', howner ?_⟩
  rintro ⟨u, row, h, -⟩
  rw [hcall] at h
  cases h

/-- Any client ends anyone's session: it is enough to know the name. -/
theorem logged_out_by_other :
    ¬ ∀ (m : Mysql) (calls : List Call) (write : Nat → Int → WriteOutcome) (t : Text) (fd : Int),
      Literal m → EndedByOwner t fd ((loginManager m).run calls { db := {} }).2.db
        (MessageReceiver.dealClientMessage m write fd t
          ((loginManager m).run calls { db := {} }).2).2.db := by
  intro h
  have howner := h memoryServer [.regist (ascii "u") (ascii "p"), .login (ascii "u") (ascii "p") 6]
    (fun _ _ => .done) logoutOfU 9 literal_memoryServer
  rw [dealClientMessage_snd_eq] at howner
  refine not_endedByOwner_of_logsOutOther literal_memoryServer ?_ (fun _ _ _ _ => trivial) ?_ ?_ howner
  · exact sane_run literal_memoryServer (fun _ _ _ _ => trivial) Db.Sane.empty
  · rw [requestCall_logoutOfU]
    decide
  · refine ⟨ascii "u", ⟨1, ascii "u", ascii "p", 6, 1, 0⟩, requestCall_logoutOfU, ?_, by decide⟩
    decide

end SingleTerminalLogin
