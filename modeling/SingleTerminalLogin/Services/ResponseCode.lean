import SingleTerminalLogin.LoginManager.Failures
import SingleTerminalLogin.Services.Ownership

/-!
# What the code of a response tells

The code passes through three layers: the operation sets one, `dealClientMessage` keeps or
replaces it, `getResponseMessage` prints it.  Only the second of them loses anything.

* `responseCode_eq` — the code that is printed is the code that is read;
* `performed_of_call`, `performed_of_none` — the code `dealClientMessage` ends up with;
* `response_code_tells_iff` — it tells the outcome exactly when the message names an
  operation and the operation does not fail with a code of its own.
-/

namespace SingleTerminalLogin

open ByteText Binary64 CProgram CJson Proc SqlApi Loginer Register UserLoginImpl

/-- The code a response carries. -/
def responseCode (d : CJson) : Option Int :=
  (getObjectItem d (ascii "code")).map fun item => wrap32 item.valueint

/-! ## Printing the code -/

section

variable {t out msg : Text} {d : CJson} {logoutFd code : Int}

/-- Whatever the request is, the first member named `code` is the one that was added. -/
theorem getObjectItem_code {e : CJson} {next : List CJson} :
    getObjectItem (responseJson logoutFd code msg e next) (ascii "code") =
      some { createNumber (ofInt code) with string := some (ascii "code") } := by
  have hcode : getObjectItem (addNumberToObject createObject (ascii "code") code) (ascii "code") =
      some { createNumber (ofInt code) with string := some (ascii "code") } :=
    getObjectItem_append (by decide) []
  exact getObjectItem_addItemToObject_some (getObjectItem_addItemToObject_some hcode []) next

theorem responseCode_eq (hcode : FitsInt code) (hmsg : NoNul msg)
    (h : getResponseMessage t logoutFd code msg = .ok (0, out)) (hd : parse out = .ok (some d)) :
    responseCode d = some code := by
  obtain ⟨c, e, next, hparse, hitem, hprint⟩ := getResponseMessage_eq_ok h
  obtain ⟨-, -, hchain⟩ := itemFrom_parsed hparse hitem
  have hsound : Sound (responseJson logoutFd code msg e next) := by
    apply sound_responseJson _ hmsg
    · exact fun d hd => (hchain d (List.mem_cons_of_mem e hd)).1
    · exact fun d hd => (hchain d (List.mem_cons_of_mem e hd)).2
    · exact (hchain e List.mem_cons_self).1
  obtain ⟨rfl, -⟩ := eq_relay_of_parse hsound rfl rfl hprint hd
  rw [responseCode, getObjectItem_relay rfl, getObjectItem_code, Option.map_some, Option.map_some]
  exact congrArg some (wrap32_relay hcode.1 hcode.2 _)

/-- A response that is JSON was put together. -/
theorem getResponseMessage_ret {r : Int × Text} (h : getResponseMessage t logoutFd code msg = .ok r)
    (hd : parse r.2 = .ok (some d)) : r.1 = 0 := by
  obtain ⟨json, -, h⟩ := bind_eq_ok.1 h
  obtain ⟨c, -, h⟩ := bind_eq_ok.1 h
  cases hitem : itemFrom c (ascii "extendInfo") with
  | nil =>
    simp only [hitem] at h
    obtain ⟨-, -, h⟩ := bind_eq_ok.1 h
    cases h
    cases hd
  | cons e next =>
    simp only [hitem] at h
    obtain ⟨text, -, h⟩ := bind_eq_ok.1 h
    cases h
    rfl

end

/-! ## Replacing the code -/

/-- What `dealClientMessage` makes of the code of an operation that returned. -/
def Reply.passedOn (a : Reply) : RegistLoginCode := if a.ret ≠ 0 then .SYSTEM_ERROR else a.code

/-- The operation a response is put together from has the code and a message of the
reply, or those of an unexpected error. -/
theorem CallEnd.operation_eq_ok {e : CallEnd} {op : Operation} (h : e.operation = .ok op) :
    ∃ a, e.reply = .ok a ∧ op.errcode = a.passedOn ∧ (NoNul a.msg → NoNul op.errmsg) := by
  have hunexpected : ∀ (a : Reply) (logoutFd : Int) (text : Text), NoNul text →
      (unexpected { ret := if a.ret ≠ 0 then -1 else 0, logoutFd := logoutFd, errcode := a.code,
                    errmsg := a.msg } text).errcode = a.passedOn ∧
        (NoNul a.msg → NoNul (unexpected { ret := if a.ret ≠ 0 then -1 else 0, logoutFd := logoutFd,
                                           errcode := a.code, errmsg := a.msg } text).errmsg) := by
    intro a logoutFd text htext
    by_cases hret : a.ret ≠ 0
    · simp only [unexpected, Reply.passedOn, if_pos hret]
      exact ⟨rfl, fun _ => htext⟩
    · simp only [unexpected, Reply.passedOn, if_neg hret]
      exact ⟨rfl, id⟩
  cases e with
  | regist r =>
    cases r with
    | error e => cases h
    | ok a =>
      cases h
      exact ⟨a, rfl, hunexpected a (-1) _ (noNul_of_notMem (by decide))⟩
  | login r =>
    cases r with
    | error e => cases h
    | ok a =>
      cases h
      exact ⟨a.toReply, rfl, hunexpected a.toReply a.logoutFd _ (noNul_of_notMem (by decide))⟩
  | logout r =>
    cases r with
    | error e => cases h
    | ok a =>
      cases h
      exact ⟨a, rfl, hunexpected a (-1) _ (noNul_of_notMem (by decide))⟩

section

variable {m : Mysql} {t out : Text} {c c' : Connection} {op : Operation} {call : Call}

/-- What is written is the response to what was performed. -/
theorem dealClientMessage_eq_ok (h : UserLoginImpl.dealClientMessage m t c = (.ok out, c')) :
    ∃ op r, performed m t c = (.ok op, c') ∧
      getResponseMessage t op.logoutFd op.errcode.value op.errmsg = .ok r ∧ r.2 = out := by
  have hrespond : ∀ (x : Proc Connection Operation), (do
      let op ← x
      let response ← lift (getResponseMessage t op.logoutFd op.errcode.value op.errmsg)
      pure response.2) c = (.ok out, c') →
      ∃ op r, x c = (.ok op, c') ∧
        getResponseMessage t op.logoutFd op.errcode.value op.errmsg = .ok r ∧ r.2 = out := by
    intro x hx
    obtain ⟨op, c₁, hop, hx₁⟩ := bind_run_eq_ok.1 (congrArg Prod.fst hx)
    rw [bind_run_ok hop] at hx
    cases hresponse : getResponseMessage t op.logoutFd op.errcode.value op.errmsg with
    | error e =>
      rw [hresponse] at hx
      cases hx
    | ok r =>
      rw [hresponse] at hx
      cases hx
      exact ⟨op, r, hop, hresponse, rfl⟩
  rw [UserLoginImpl.dealClientMessage] at h
  cases htype : getOperateType t with
  | error e =>
    rw [htype] at h
    cases h
  | ok r =>
    rw [performed, lift_bind_run_ok htype]
    rw [lift_bind_run_ok htype] at h
    by_cases hret : r.1 ≠ 0
    · rw [if_pos hret] at h ⊢
      exact hrespond _ h
    · rw [if_neg hret] at h ⊢
      exact hrespond _ h

/-- A message that asks for a call is that call. -/
theorem performed_of_call (h : messageCall t = some call) :
    performed m t c = ((loginManager m call c).1.operation, (loginManager m call c).2) := by
  unfold messageCall at h
  cases htype : getOperateType t with
  | error e =>
    rw [htype] at h
    cases h
  | ok r =>
    obtain ⟨ret, operateType⟩ := r
    rw [htype] at h
    dsimp only at h
    rw [performed, lift_bind_run_ok htype]
    by_cases hret : ret ≠ 0
    · rw [if_pos hret] at h
      cases h
    rw [if_neg hret] at h ⊢
    cases hof : MessageType.ofInt operateType with
    | none =>
      rw [hof] at h
      cases h
    | some type =>
      have hvalue := MessageType.ofInt_eq_some hof
      rw [hof] at h
      subst hvalue
      cases type with
      | REGIST =>
        dsimp only at h
        split at h
        · rename_i u p hparameters
          cases h
          exact operate_regist hparameters
        · cases h
      | LOGIN =>
        dsimp only at h
        split at h
        · rename_i u p fd hparameters
          cases h
          exact operate_login hparameters
        · cases h
      | LOGOUT =>
        dsimp only at h
        split at h
        · rename_i u hparameters
          cases h
          exact operate_logout hparameters
        · cases h

/-- An operation whose parameters are not all there ends with an unexpected error. -/
theorem ended_of_unread {α : Type} {parameters : C (Option α)} {text : Text}
    {f : Option α → Proc Connection Operation} (hf : f none = pure { ret := -1 })
    (hparameters : ∀ a, parameters ≠ .ok (some a)) (htext : NoNul text)
    (hop : ((lift parameters >>= f) >>= fun op => pure (unexpected op text)) c = (.ok op, c')) :
    NoNul op.errmsg ∧ op.errcode = .SYSTEM_ERROR := by
  cases parameters with
  | error e => cases hop
  | ok r =>
    cases r with
    | none =>
      have hnone : (f none >>= fun op => pure (unexpected op text)) c = (.ok op, c') := hop
      rw [hf] at hnone
      cases hnone
      exact ⟨htext, rfl⟩
    | some a => exact absurd rfl (hparameters a)

/-- A message that asks for no call is answered with the code of an error, unless its
operation could not be read: then the code is still the one it began with. -/
theorem performed_of_none (h : messageCall t = none) (hop : performed m t c = (.ok op, c')) :
    NoNul op.errmsg ∧ ((∃ n, getOperateType t = .ok (0, n)) ∧ op.errcode = .SYSTEM_ERROR ∨
      (¬ ∃ n, getOperateType t = .ok (0, n)) ∧ op.errcode = .SUCCESS) := by
  unfold messageCall at h
  cases htype : getOperateType t with
  | error e =>
    rw [performed, htype] at hop
    cases hop
  | ok r =>
    obtain ⟨ret, operateType⟩ := r
    rw [htype] at h
    dsimp only at h
    rw [performed, lift_bind_run_ok htype] at hop
    by_cases hret : ret ≠ 0
    · rw [if_pos hret] at hop
      cases hop
      refine ⟨noNul_of_notMem (by decide), Or.inr ⟨?_, rfl⟩⟩
      rintro ⟨n, hn⟩
      cases hn
      exact hret rfl
    obtain rfl := not_not.1 hret
    rw [if_neg hret] at h hop
    suffices hnot : NoNul op.errmsg ∧ op.errcode = .SYSTEM_ERROR from
      ⟨hnot.1, Or.inl ⟨⟨operateType, rfl⟩, hnot.2⟩⟩
    rw [operate] at hop
    cases hof : MessageType.ofInt operateType with
    | none =>
      rw [hof] at hop
      cases hop
      exact ⟨noNul_of_notMem (by decide), rfl⟩
    | some type =>
      rw [hof] at h hop
      cases type with
      | REGIST =>
        dsimp only at h hop
        exact ended_of_unread rfl (fun a ha => by rw [ha] at h; cases h) (noNul_of_notMem (by decide)) hop
      | LOGIN =>
        dsimp only at h hop
        exact ended_of_unread rfl (fun a ha => by rw [ha] at h; cases h) (noNul_of_notMem (by decide)) hop
      | LOGOUT =>
        dsimp only at h hop
        exact ended_of_unread rfl (fun a ha => by rw [ha] at h; cases h) (noNul_of_notMem (by decide)) hop

/-- A message that asks for a call names an operation. -/
theorem getOperateType_of_call (h : messageCall t = some call) : ∃ n, getOperateType t = .ok (0, n) := by
  unfold messageCall at h
  cases htype : getOperateType t with
  | error e =>
    rw [htype] at h
    cases h
  | ok r =>
    obtain ⟨ret, operateType⟩ := r
    rw [htype] at h
    dsimp only at h
    by_cases hret : ret ≠ 0
    · rw [if_pos hret] at h
      cases h
    · obtain rfl := not_not.1 hret
      exact ⟨operateType, rfl⟩

theorem registParameters_of_call {u p : Text} (h : messageCall t = some (.regist u p)) :
    registParameters t = .ok (some (u, p)) := by
  unfold messageCall at h
  split at h
  · cases h
  · split_ifs at h
    split at h
    · cases h
    · split at h
      · rename_i hparameters
        cases h
        exact hparameters
      · cases h
    · split at h <;> cases h
    · split at h <;> cases h

/-- The names of a registration have passed the assertions, so they are C strings. -/
theorem registParameters_noNul {u p : Text} (h : registParameters t = .ok (some (u, p))) : NoNul u := by
  rw [registParameters] at h
  obtain ⟨json, hparse, h⟩ := bind_eq_ok.1 h
  obtain ⟨item, hitem, h⟩ := bind_eq_ok.1 h
  obtain ⟨d, hd, hitem⟩ := bind_eq_ok.1 hitem
  cases json with
  | none => cases hd
  | some d =>
    cases hd
    cases item with
    | none =>
      obtain ⟨-, -, h⟩ := bind_eq_ok.1 h
      cases h
    | some message =>
      obtain ⟨_, hobj, h⟩ := bind_eq_ok.1 h
      split at h
      · rename_i user pass huser hpass
        obtain ⟨_, hstr, h⟩ := bind_eq_ok.1 h
        obtain ⟨-, -, h⟩ := bind_eq_ok.1 h
        obtain ⟨name, hname, h⟩ := bind_eq_ok.1 h
        obtain ⟨word, -, h⟩ := bind_eq_ok.1 h
        cases h
        have hmessage := (sound_item hparse (Except.ok.inj hitem)).child (Or.inl (assert_eq_ok.1 hobj))
        have hsound := hmessage user (getObjectItem_mem huser)
        obtain ⟨text, htext, hnul⟩ := hsound.valuestring (assert_eq_ok.1 hstr)
        rw [htext] at hname
        cases hname
        exact hnul
      · obtain ⟨-, -, h⟩ := bind_eq_ok.1 h
        cases h

end

/-! ## Codes that are lost -/

section

variable (m : Mysql) (c : Connection)

/-- The password is wrong, or a first login cannot be entered. -/
def LoginCodeLost (u p : Text) (fd : Int) : Prop :=
  ¬ m.Fails c.queries (.countPassword u p) c.db ∧ counted (c.db.passwordRows u p).length = false ∨
    Checked m c u p ∧ ¬ TakenLogined m c u ∧
      m.Fails (c.queries + 2) (Loginer.enter m u p fd (c.queries + 2)) c.db

/-- A statement of the logout fails. -/
def LogoutCodeLost (u : Text) : Prop :=
  m.Fails c.queries (.selectLoginedId u) c.db ∨
    ∃ row, FirstLogined m c u row ∧ m.Fails (c.queries + 1) (endRow row) c.db

/-- A statement of the registration fails. -/
def RegistCodeLost (u p : Text) : Prop :=
  m.Fails c.queries (.countRegist u) c.db ∨
    counted (c.db.registRows u).length = false ∧
      m.Fails (c.queries + 1) (Register.enter m u p (c.queries + 1)) c.db

/-- The operation fails with a code other than `SYSTEM_ERROR`. -/
def Call.CodeLost : Call → Prop
  | .login u p fd => LoginCodeLost m c u p fd
  | .logout u => LogoutCodeLost m c u
  | .regist u p => RegistCodeLost m c u p

end

/-- A reply whose message can be printed, and whose code is passed on unless it is lost. -/
structure Reply.PassedUnless (lost : Prop) (a : Reply) : Prop where
  noNul : NoNul a.msg
  passedOn_iff : a.passedOn = a.code ↔ ¬ lost

section

variable {m : Mysql} {c c' : Connection} {u p msg : Text} {fd : Int}

theorem Loginer.LoginEnd.passedUnless {r : LoginReply} (h : LoginEnd m c u p fd c' (.ok r)) :
    r.toReply.PassedUnless (LoginCodeLost m c u p fd) := by
  have hkept (hv : Checked m c u p)
      (h : TakenLogined m c u ∨
        ¬ m.Fails (c.queries + 2) (Loginer.enter m u p fd (c.queries + 2)) c.db) :
      ¬ LoginCodeLost m c u p fd := by
    rintro (⟨-, hwrong⟩ | ⟨-, hl, hi⟩)
    · exact Bool.noConfusion (hwrong.symm.trans hv.valid)
    · exact h.elim hl (not_not_intro hi)
  have htaken (row : LoginRow) (ha : c.db.active u = [row]) : TakenLogined m c u := by
    refine Or.inr ?_
    rw [ha]
    exact (by decide : counted 1 = true)
  cases h with
  | unchecked h hf =>
    refine ⟨noNul_of_notMem (by decide), iff_of_true rfl ?_⟩
    rintro (⟨hnot, -⟩ | ⟨hv, -⟩)
    · exact hnot h
    · exact hv.answered h
  | invalid h hv hf =>
    exact ⟨noNul_of_notMem (by decide), iff_of_false (by decide) (not_not_intro (Or.inl ⟨h, hv⟩))⟩
  | first h hl hi hf =>
    exact ⟨noNul_of_notMem (by decide), iff_of_true rfl (hkept h (Or.inr hi))⟩
  | firstFailed h hl hi hf =>
    exact ⟨noNul_of_notMem (by decide), iff_of_false (by decide) (not_not_intro (Or.inr ⟨h, hl, hi⟩))⟩
  | unlocated h hl hs hf =>
    exact ⟨noNul_of_notMem (by decide), iff_of_true rfl (hkept h (Or.inl hl))⟩
  | displaced row h hs ha hend henter hf =>
    have hmsg : NoNul (ascii "login success!") := noNul_of_notMem (by decide)
    exact ⟨hmsg, iff_of_true rfl (hkept h (Or.inl (htaken row ha)))⟩
  | displaceFailed row h hs ha hw hf =>
    have hmsg : NoNul (ascii "system error: update DB data failed!") := noNul_of_notMem (by decide)
    exact ⟨hmsg, iff_of_true rfl (hkept h (Or.inl (htaken row ha)))⟩

/-- All answers begin with the same row. -/
theorem Loginer.FirstLogined.endRow_eq {row row' : LoginRow} (h : FirstLogined m c u row)
    (h' : FirstLogined m c u row') : endRow row = endRow row' := by
  obtain ⟨-, rest, hrest⟩ := h
  obtain ⟨-, rest', hrest'⟩ := h'
  rw [hrest] at hrest'
  injection hrest' with _ hrows
  injection hrows with hfirst _
  injection hfirst with hid _
  rw [endRow, endRow, hid]

theorem Loginer.LogoutEnd.passedUnless {a : Reply} (h : LogoutEnd m c u c' (.ok a)) :
    a.PassedUnless (LogoutCodeLost m c u) := by
  cases h with
  | unlocated h hf =>
    exact ⟨noNul_of_notMem (by decide), iff_of_false (by decide) (not_not_intro (Or.inl h))⟩
  | absent h ha hf =>
    refine ⟨noNul_of_notMem (by decide), iff_of_true rfl ?_⟩
    rintro (hfails | ⟨row, hrow, -⟩)
    · exact h hfails
    · rw [FirstLogined, ha] at hrow
      cases hrow.1
  | ended row h hend hf =>
    refine ⟨noNul_of_notMem (by decide), iff_of_true rfl ?_⟩
    rintro (hfails | ⟨row', hrow', hfails⟩)
    · obtain ⟨-, rest, hrest⟩ := h
      exact SqlApi.not_fails_of_done hrest hfails
    · rw [hrow'.endRow_eq h] at hfails
      exact hend hfails
  | endFailed row h hend hf =>
    exact ⟨noNul_of_notMem (by decide),
      iff_of_false (by decide) (not_not_intro (Or.inr ⟨row, h, hend⟩))⟩

theorem Register.RegistEnd.passedUnless {a : Reply} (hu : NoNul u) (hmsg : NoNul msg)
    (h : RegistEnd m c u p msg c' (.ok a)) : a.PassedUnless (RegistCodeLost m c u p) := by
  cases h with
  | unchecked h hf =>
    exact ⟨noNul_of_notMem (by decide), iff_of_false (by decide) (not_not_intro (Or.inl h))⟩
  | taken h hv hf =>
    refine ⟨noNul_append hu (noNul_of_notMem (by decide)), iff_of_true rfl ?_⟩
    rintro (hfails | ⟨hnot, -⟩)
    · exact h hfails
    · exact Bool.noConfusion (hnot.symm.trans hv)
  | entered h hv hi hf =>
    refine ⟨noNul_append hmsg (noNul_of_notMem (by decide)), iff_of_true rfl ?_⟩
    rintro (hfails | ⟨-, hfails⟩)
    · exact h hfails
    · exact hi hfails
  | enterFailed h hv hi hf =>
    exact ⟨noNul_of_notMem (by decide), iff_of_false (by decide) (not_not_intro (Or.inr ⟨hv, hi⟩))⟩

end

/-! ## What the code tells -/

/-- The code in a response tells the outcome: of the operation the message asks for it is
the code, and `SUCCESS` stands for an operation that succeeded. -/
structure CodeTells (m : Mysql) (t : Text) (c : Connection) (d : CJson) : Prop where
  success : responseCode d = some RegistLoginCode.SUCCESS.value ↔
    ∃ call, messageCall t = some call ∧ ∃ a, (loginManager m call c).1.reply = .ok a ∧ a.code = .SUCCESS
  called : ∀ call a, messageCall t = some call → (loginManager m call c).1.reply = .ok a →
    responseCode d = some a.code.value

theorem RegistLoginCode.value_injective : Function.Injective RegistLoginCode.value := by
  intro a b h
  cases a <;> cases b <;> first | rfl | cases h

/-- What an operation that returned leaves behind. -/
theorem loginManager_passedUnless {P : Text → Prop} {m : Mysql} {t : Text} {call : Call}
    {c : Connection} {a : Reply} (hm : Reading P m) (h : messageCall t = some call)
    (hP : ∀ n ∈ call.names, P n) (hreply : (loginManager m call c).1.reply = .ok a) :
    a.PassedUnless (call.CodeLost m c) := by
  cases call with
  | regist u p =>
    have hend := processRegist_asked (u := u) (p := p) (s := { connection := c }) hm
      (hP u (by simp [Call.names])) rfl []
    rw [Ends, show (Register.processRegist m u p [] { connection := c }).1 = .ok a from hreply] at hend
    exact hend.passedUnless (registParameters_noNul (registParameters_of_call h))
      (noNul_of_notMem List.not_mem_nil)
  | login u p fd =>
    have hend := processLogin_asked (u := u) (p := p) (s := { connection := c }) hm
      (hP u (by simp [Call.names])) (hP p (by simp [Call.names])) rfl fd
    cases hr : (Loginer.processLogin m u p fd { connection := c }).1 with
    | error e =>
      rw [show (loginManager m (.login u p fd) c).1.reply =
        (Loginer.processLogin m u p fd { connection := c }).1.map LoginReply.toReply from rfl, hr] at hreply
      cases hreply
    | ok r =>
      rw [show (loginManager m (.login u p fd) c).1.reply =
        (Loginer.processLogin m u p fd { connection := c }).1.map LoginReply.toReply from rfl, hr] at hreply
      cases hreply
      rw [Ends, hr] at hend
      exact hend.passedUnless
  | logout u =>
    have hend := processLogout_asked (u := u) (s := { connection := c }) hm
      (hP u (by simp [Call.names])) rfl
    rw [Ends, show (Loginer.processLogout m u { connection := c }).1 = .ok a from hreply] at hend
    exact hend.passedUnless

/-- Whatever the message, the tables and the failing statements are, the code in a response
tells the outcome exactly when the message has an `operateType` and asks for no operation
that fails with a code other than `SYSTEM_ERROR`. -/
theorem response_code_tells_iff (P : Text → Prop) (m : Mysql) (hm : Reading P m) (t out : Text)
    (hP : ∀ call, messageCall t = some call → ∀ n ∈ call.names, P n) (c c' : Connection)
    (h : UserLoginImpl.dealClientMessage m t c = (.ok out, c')) (d : CJson)
    (hd : parse out = .ok (some d)) :
    CodeTells m t c d ↔
      (∃ n, getOperateType t = .ok (0, n)) ∧
        ∀ call, messageCall t = some call → ¬ call.CodeLost m c := by
  obtain ⟨op, ⟨ret, out⟩, hop, hresponse, rfl⟩ := dealClientMessage_eq_ok h
  obtain rfl : ret = 0 := getResponseMessage_ret hresponse hd
  have hcode (hmsg : NoNul op.errmsg) : responseCode d = some op.errcode.value :=
    responseCode_eq (fitsInt_errcode op.errcode) hmsg hresponse hd
  cases hcall : messageCall t with
  | none =>
    obtain ⟨hmsg, ⟨hn, herr⟩ | ⟨hn, herr⟩⟩ := performed_of_none hcall hop
    · have hdcode := hcode hmsg
      rw [herr] at hdcode
      refine iff_of_true ⟨iff_of_false ?_ ?_, ?_⟩ ⟨hn, nofun⟩
      · rw [hdcode]
        decide
      · rintro ⟨call, hsome, -⟩
        rw [hcall] at hsome
        cases hsome
      · intro call a hsome
        rw [hcall] at hsome
        cases hsome
    · have hdcode := hcode hmsg
      rw [herr] at hdcode
      refine iff_of_false (fun htells => ?_) fun hlost => hn hlost.1
      obtain ⟨call, hsome, -⟩ := htells.success.1 hdcode
      rw [hcall] at hsome
      cases hsome
  | some call =>
    rw [performed_of_call hcall, Prod.mk.injEq] at hop
    obtain ⟨a, hreply, herr, hmsg⟩ := CallEnd.operation_eq_ok hop.1
    have hpassed := loginManager_passedUnless hm hcall (hP call hcall) hreply
    have hdcode := hcode (hmsg hpassed.noNul)
    rw [herr] at hdcode
    have honly : (∀ call', some call = some call' → ¬ call'.CodeLost m c) ↔ a.passedOn = a.code := by
      rw [hpassed.passedOn_iff]
      exact ⟨fun hall => hall call rfl, fun hnot call' hsome => Option.some.inj hsome ▸ hnot⟩
    rw [honly, and_iff_right (getOperateType_of_call hcall)]
    constructor
    · intro htells
      have hsame := htells.called call a hcall hreply
      rw [hdcode] at hsame
      exact RegistLoginCode.value_injective (Option.some.inj hsame)
    · intro hkept
      rw [hkept] at hdcode
      refine ⟨?_, fun call' a' hsome hreply' => ?_⟩
      · rw [hdcode, Option.some.injEq, RegistLoginCode.value_injective.eq_iff]
        refine ⟨fun hsuccess => ⟨call, hcall, a, hreply, hsuccess⟩, ?_⟩
        rintro ⟨call', hsome, a', hreply', hsuccess⟩
        cases hcall.symm.trans hsome
        cases hreply.symm.trans hreply'
        exact hsuccess
      · cases hcall.symm.trans hsome
        cases hreply.symm.trans hreply'
        exact hdcode

/-- A text that is JSON to a computation that looks is parsed. -/
theorem parse_of_isSome (h : (parse out).map Option.isSome = .ok true) : ∃ d, parse out = .ok (some d) := by
  cases hparse : parse out with
  | error e =>
    rw [hparse] at h
    cases h
  | ok json =>
    cases json with
    | none =>
      rw [hparse] at h
      cases h
    | some d => exact ⟨d, rfl⟩

/-- The response to a first login. -/
def loginAnswered : Text :=
  ascii "\x7b\"code\":0,\"msg\":\"login success!\",\"extendInfo\":\x7b\"clientFd\":7,\"logoutFd\":-1\x7d,\"operateType\":2\x7d"

/-- A first login: the code in the response is that of the login. -/
theorem response_code_tells_iff_registered :
    ∃ d, parse loginAnswered = .ok (some d) ∧ CodeTells memoryServer managerLogin { db := registered } d := by
  have hm : Reading (fun _ => True) memoryServer := (servedBy_memoryServer True _).reading
  have hrun : (UserLoginImpl.dealClientMessage memoryServer managerLogin { db := registered }).1 =
      .ok loginAnswered := by decide +kernel
  have hcall : messageCall managerLogin = some (.login (ascii "u") (ascii "p") 7) := by decide +kernel
  obtain ⟨d, hd⟩ : ∃ d, parse loginAnswered = .ok (some d) := parse_of_isSome (by decide +kernel)
  refine ⟨d, hd, (response_code_tells_iff _ memoryServer hm managerLogin loginAnswered
    (fun _ _ _ _ => trivial) { db := registered } _ (Prod.ext hrun rfl) d hd).2 ⟨?_, ?_⟩⟩
  · exact getOperateType_of_call hcall
  · intro call hsome
    cases hcall.symm.trans hsome
    rintro (⟨-, hwrong⟩ | ⟨-, -, hfails⟩)
    · exact absurd hwrong (by decide)
    · cases hfails

/-- A request without an `operateType`. -/
def bareRequest : Text := ascii "\x7b\"extendInfo\":\x7b\x7d\x7d"

/-- The response to it. -/
def bareAnswered : Text :=
  ascii "\x7b\"code\":0,\"msg\":\"SYSTEM ERROR:Message format error!\",\"extendInfo\":\x7b\"logoutFd\":-1\x7d\x7d"

/-- A request without an `operateType` is answered with the code of a success. -/
theorem bareRequest_answered_success :
    ¬ ∀ (m : Mysql) (t out : Text) (c c' : Connection) (d : CJson), Reading (fun _ => True) m →
      UserLoginImpl.dealClientMessage m t c = (.ok out, c') → parse out = .ok (some d) →
      CodeTells m t c d := by
  intro hall
  have hrun : (UserLoginImpl.dealClientMessage memoryServer bareRequest { db := registered }).1 =
      .ok bareAnswered := by decide +kernel
  have hcall : messageCall bareRequest = none := by decide +kernel
  obtain ⟨d, hd⟩ : ∃ d, parse bareAnswered = .ok (some d) := parse_of_isSome (by decide +kernel)
  have hcode : (parse bareAnswered).map (Option.map responseCode) = .ok (some (some 0)) := by decide +kernel
  rw [hd] at hcode
  have htells := hall memoryServer bareRequest bareAnswered { db := registered } _ d
    (servedBy_memoryServer True _).reading (Prod.ext hrun rfl) hd
  obtain ⟨call, hsome, -⟩ := htells.success.1 (Option.some.inj (Except.ok.inj hcode))
  rw [hcall] at hsome
  cases hsome

end SingleTerminalLogin
