import SingleTerminalLogin.Services.Answering
import SingleTerminalLogin.Services.Produced
import SingleTerminalLogin.Services.ResponseCode

/-!
# Which messages the services survive, with their log lines

A message that is accepted still ends a service when a line about it is too long for the array it is
put together in, or when the receiver writes to a client that is gone.

* `Delivers`, `dealServiceResponse_returns_iff` — what the receiver needs to pass a response on;
* `ServicesReturn` — every function that handles a message returns;
* `services_return_iff_accepted` — what a message has to be for that.
-/

namespace SingleTerminalLogin

open ByteText Binary64 CProgram CJson Proc SqlApi SqlLex UserLoginImpl

/-! ## The receiver -/

namespace Logged

section

variable (log : Log) (fdName : Int → Option Text) (write : Nat → Int → WriteOutcome)

/-- What a write of the receiver needs: its lines fit, and the other end is there. -/
structure Sends (n : Nat) (fd : Int) (message : Text) (line failed : Int)
    (takes : ∀ name, Source.messageReceiver.takes line [.str name, .str message] = true)
    (takesError : Source.messageReceiver.takes failed [.int log.errno, .str log.strerror] = true) : Prop where
  name : fdName fd = none → log.Fits ⟨.daemon, 56, [.int fd], rfl⟩
  line : log.Fits ⟨.messageReceiver, line, [.str ((fdName fd).getD []), .str message], takes _⟩
  peer : write n fd ≠ .killed
  failed : write n fd = .failed → log.Fits ⟨.messageReceiver, failed, [.int log.errno, .str log.strerror], takesError⟩

/-- What the receiver needs to pass a response on: the notice, if there is to be one, and the answer
behind a notice that has been written. -/
structure Delivers (sendToClientFd : Int) (msg : Text) (logoutFd : Int) : Prop where
  notice : 0 < logoutFd →
    Sends log fdName write 0 logoutFd (ascii "logout") 131 135 (fun _ => rfl) rfl
  answer : (0 < logoutFd → write 0 logoutFd = .done) →
    Sends log fdName write 1 sendToClientFd msg 141 145 (fun _ => rfl) rfl

end

section

variable {log : Log} {fdName : Int → Option Text} {write : Nat → Int → WriteOutcome}

theorem getFdName_returns_iff {fd : Int} {α : Type} {f : Text → C α} :
    Returns (getFdName log fdName fd >>= f) ↔
      (fdName fd = none → log.Fits ⟨.daemon, 56, [.int fd], rfl⟩) ∧ Returns (f ((fdName fd).getD [])) := by
  rw [getFdName]
  cases fdName fd with
  | none =>
    dsimp only
    rw [bind_assoc, returns_print_bind]
    simp
  | some name => simp

theorem send_returns_iff {n : Nat} {fd line failed : Int} {message : Text}
    {takes : ∀ name, Source.messageReceiver.takes line [.str name, .str message] = true}
    {takesError : Source.messageReceiver.takes failed [.int log.errno, .str log.strerror] = true} :
    Returns (send log fdName write n fd message line failed takes takesError) ↔
      Sends log fdName write n fd message line failed takes takesError := by
  have hrest : Returns ((write n fd).ret >>= fun ret =>
      if ret < 0 then do
        log.print ⟨.messageReceiver, failed, [.int log.errno, .str log.strerror], takesError⟩
        .ok (-1)
      else (.ok 0 : C Int)) ↔ write n fd ≠ .killed ∧ (write n fd = .failed →
        log.Fits ⟨.messageReceiver, failed, [.int log.errno, .str log.strerror], takesError⟩) := by
    cases write n fd with
    | done => simp [WriteOutcome.ret]
    | failed =>
      rw [WriteOutcome.ret, ok_bind, if_pos (by decide), returns_print_bind]
      simp
    | killed => simp [WriteOutcome.ret]
  rw [send, getFdName_returns_iff, returns_print_bind, hrest]
  constructor
  · rintro ⟨hname, hline, hpeer, hfailed⟩
    exact ⟨hname, hline, hpeer, hfailed⟩
  · intro h
    exact ⟨h.name, h.line, h.peer, h.failed⟩

theorem sendResponse_returns_iff {fd logoutFd : Int} {msg : Text} :
    Returns (sendResponse log fdName write fd msg logoutFd) ↔ Delivers log fdName write fd msg logoutFd := by
  rw [sendResponse, sendNotice]
  by_cases hpos : 0 < logoutFd
  · rw [if_pos hpos, returns_bind_iff]
    constructor
    · rintro ⟨ret, hnotice, h⟩
      refine ⟨fun _ => send_returns_iff.1 ⟨ret, hnotice⟩, fun hdone => ?_⟩
      rcases send_eq_ok log hnotice with ⟨-, rfl⟩ | ⟨hfailed, rfl⟩
      · rw [if_neg (by decide)] at h
        exact send_returns_iff.1 h
      · rw [hdone hpos] at hfailed
        cases hfailed
    · intro h
      obtain ⟨ret, hnotice⟩ := send_returns_iff.2 (h.notice hpos)
      refine ⟨ret, hnotice, ?_⟩
      rcases send_eq_ok log hnotice with ⟨hdone, rfl⟩ | ⟨hfailed, rfl⟩
      · rw [if_neg (by decide)]
        exact send_returns_iff.2 (h.answer fun _ => hdone)
      · rw [if_pos (by decide)]
        exact returns_ok _
  · rw [if_neg hpos, ok_bind, if_neg (by decide)]
    refine send_returns_iff.trans ?_
    exact ⟨fun h => ⟨fun hlt => absurd hlt hpos, fun _ => h⟩, fun h => h.answer fun hlt => absurd hlt hpos⟩

/-- The log is not written to where the members are there. -/
theorem responseMembers_some {out : Text} {r : Text × Int}
    (h : MessageReceiver.responseMembers out = .ok (some r)) : responseMembers log out = .ok (some r) := by
  obtain ⟨json, hparse, h⟩ := bind_eq_ok.1 h
  obtain ⟨m, hm, h⟩ := bind_eq_ok.1 h
  obtain ⟨e, he, h⟩ := bind_eq_ok.1 h
  rw [responseMembers, hparse, ok_bind, hm, ok_bind, he, ok_bind]
  cases m with
  | none =>
    obtain ⟨-, -, h⟩ := bind_eq_ok.1 h
    cases h
  | some m =>
    cases e with
    | none =>
      obtain ⟨-, -, h⟩ := bind_eq_ok.1 h
      cases h
    | some e =>
      obtain ⟨_, hstring, h⟩ := bind_eq_ok.1 h
      obtain ⟨_, hobject, h⟩ := bind_eq_ok.1 h
      dsimp only
      rw [hstring, ok_bind, hobject, ok_bind]
      cases hd : getObjectItem e (ascii "logoutFd") with
      | none =>
        rw [hd] at h
        obtain ⟨-, -, h⟩ := bind_eq_ok.1 h
        cases h
      | some d =>
        rw [hd] at h
        exact h

/-- The descriptor the receiver reads out of a response: one that the request has brought along comes
first. -/
def toldFd (e : CJson) (logoutFd : Int) : Int :=
  match getObjectItem e (ascii "logoutFd") with
  | some d => wrap32 (relay d).valueint
  | none => logoutFd

theorem responseMembers_eq {e : CJson} {next : List CJson} {logoutFd code : Int} {msg out : Text}
    (hlogoutFd : FitsInt logoutFd) (hcode : FitsInt code) (hsound : Sound (responseJson logoutFd code msg e next))
    (hprint : print (responseJson logoutFd code msg e next) = .ok out) (h : Relayable e next) :
    MessageReceiver.responseMembers out = .ok (some (msg, toldFd e logoutFd)) := by
  obtain ⟨r, hr⟩ := (responseMembers_returns_iff hlogoutFd hcode hsound hprint).2 h
  have hfin := (allFinite_responseJson e msg next hlogoutFd hcode).trans h.finite
  have htold : toldFd e logoutFd = wrap32 (relay ((getObjectItem e (ascii "logoutFd")).getD
      { createNumber (ofInt logoutFd) with string := some (ascii "logoutFd") })).valueint := by
    unfold toldFd
    cases getObjectItem e (ascii "logoutFd") with
    | none => exact (wrap32_relay hlogoutFd.1 hlogoutFd.2 _).symm
    | some d => rfl
  have hmembers : MessageReceiver.HasMembers out msg (toldFd e logoutFd) :=
    ⟨_, _, _, _, parse_print hsound rfl hprint hfin, getObjectItem_relay_msg, rfl,
      getObjectItem_relay_extendInfo, @getObjectItem_relay_logoutFd e logoutFd h.object, htold⟩
  rw [hr, (MessageReceiver.responseMembers_ok_iff hr).2 hmembers]

variable {c e : CJson} {next : List CJson} {t out msg : Text} {logoutFd code fd : Int}

/-- The receiver survives the response to a request exactly when its `extendInfo` is of the kind it
asserts, and what it has to pass on can be. -/
theorem dealServiceResponse_returns_iff (hparse : parse t = .ok (some c))
    (hitem : itemFrom c (ascii "extendInfo") = e :: next) (hlogoutFd : FitsInt logoutFd) (hcode : FitsInt code)
    (hmsg : NoNul msg) (hout : UserLoginImpl.getResponseMessage t logoutFd code msg = .ok (0, out)) :
    Returns (dealServiceResponse log fdName write fd out) ↔
      Relayable e next ∧ Delivers log fdName write fd msg (toldFd e logoutFd) := by
  obtain ⟨c', e', next', hparse', hitem', hprint⟩ := getResponseMessage_eq_ok hout
  cases Option.some.inj (Except.ok.inj (hparse.symm.trans hparse'))
  cases hitem.symm.trans hitem'
  obtain ⟨-, -, hchain⟩ := itemFrom_parsed hparse hitem
  have hsound : Sound (responseJson logoutFd code msg e next) := by
    apply sound_responseJson _ hmsg
    · exact fun d hd => (hchain d (List.mem_cons_of_mem e hd)).1
    · exact fun d hd => (hchain d (List.mem_cons_of_mem e hd)).2
    · exact (hchain e List.mem_cons_self).1
  rw [dealServiceResponse, returns_bind_iff, ← sendResponse_returns_iff]
  constructor
  · rintro ⟨r, hr, h⟩
    have hr' := responseMembers_cutShort log out r hr
    have hrelayable := (responseMembers_returns_iff hlogoutFd hcode hsound hprint).1 ⟨r, hr'⟩
    rw [responseMembers_eq hlogoutFd hcode hsound hprint hrelayable] at hr'
    cases hr'
    exact ⟨hrelayable, h⟩
  · rintro ⟨hrelayable, h⟩
    exact ⟨_, responseMembers_some (responseMembers_eq hlogoutFd hcode hsound hprint hrelayable), h⟩

end

/-! ## All of them -/

/-- Every function that handles this message runs to a return value, and so does the receiver on every
response the login manager gives to it, whatever server it asks.  `write` is what comes of the writes of
the receiver, and `fdName` is its `_fdName`. -/
structure ServicesReturn (log : Log) (fdName : Int → Option Text) (write : Nat → Int → WriteOutcome)
    (m : Mysql) (conn : Connection) (t : Text) (fd : Int) : Prop where
  getNeedSendMessage : Returns (MessageReceiver.getNeedSendMessage t fd)
  getServiceFdAndMessage : Returns (getServiceFdAndMessage log t)
  getOperateType : Returns (getOperateType log t)
  processRegist : Returns (processRegist log m t conn).1
  processLogin : Returns (processLogin log m t conn).1
  processLogout : Returns (processLogout log m t conn).1
  getResponseMessage : ∀ logoutFd code msg, FitsInt logoutFd → FitsInt code → NoNul msg →
    Returns (getResponseMessage log t logoutFd code msg)
  dealServiceResponse : ∀ m' conn' conn'' out,
    UserLoginImpl.dealClientMessage m' t conn' = (.ok out, conn'') → out ≠ [] →
      Returns (dealServiceResponse log fdName write fd out)

/-- The lines about a message. -/
def messageLines (db : Db) (c : CJson) (text : Text) : List Line :=
  dispatcherLines c text ++ operateTypeLines c text ++ responseLines c text ++
    registLines db c text ++ loginLines db c text ++ logoutLines db c text

theorem forall_messageLines {db : Db} {c : CJson} {text : Text} {P : Line → Prop} :
    (∀ l ∈ messageLines db c text, P l) ↔
      (∀ l ∈ dispatcherLines c text, P l) ∧ (∀ l ∈ operateTypeLines c text, P l) ∧
        (∀ l ∈ responseLines c text, P l) ∧ (∀ l ∈ registLines db c text, P l) ∧
          (∀ l ∈ loginLines db c text, P l) ∧ ∀ l ∈ logoutLines db c text, P l := by
  simp only [messageLines, List.forall_mem_append, and_assoc]

/-- Every line about the message is short enough, and what the receiver may have to pass on for it can
be. -/
structure Fitting (log : Log) (fdName : Int → Option Text) (write : Nat → Int → WriteOutcome) (db : Db)
    (c : CJson) (text : Text) (fd : Int) : Prop where
  lines : ∀ l ∈ messageLines db c text, log.Fits l
  responses : ∀ e next n msg, itemFrom c (ascii "extendInfo") = e :: next → CanAnswer c n msg →
    Delivers log fdName write fd msg (toldFd e n)

section

variable {log : Log} {fdName : Int → Option Text} {write : Nat → Int → WriteOutcome} {m : Mysql}
  {conn conn' : Connection} {c e : CJson} {next : List CJson} {t text out msg : Text} {op : Operation} {n fd : Int}

/-- With a failing database there is an answer to every message. -/
theorem performed_fails (hoperate : Returns (UserLoginImpl.getOperateType t))
    (hregist : Returns (UserLoginImpl.registParameters t)) (hlogin : Returns (UserLoginImpl.loginParameters t))
    (hlogout : Returns (UserLoginImpl.logoutParameters t)) :
    ∃ conn' op, performed (memoryServer.failingAt 0) t { db := {} } = (.ok op, conn') ∧ op.logoutFd = -1 ∧
      NoNul op.errmsg := by
  obtain ⟨r, hr⟩ := hoperate
  rw [performed, lift_bind_run_ok hr]
  by_cases hret : r.1 ≠ 0
  · rw [if_pos hret]
    exact ⟨_, _, rfl, rfl, noNul_of_notMem (by decide)⟩
  rw [if_neg hret, operate]
  have hanswer : ∀ {x : Proc Connection Operation} {errmsg : Text}, NoNul errmsg →
      (∃ conn' op, x { db := {} } = (.ok op, conn') ∧ op.ret ≠ 0 ∧ op.logoutFd = -1) →
      ∃ conn' op, (x >>= fun op => pure (unexpected op errmsg)) { db := {} } = (.ok op, conn') ∧
        op.logoutFd = -1 ∧ NoNul op.errmsg := by
    rintro x errmsg hnul ⟨conn', op, hop, hret, hfd⟩
    obtain ⟨hmsg, hlogoutFd⟩ := @unexpected_of_failed errmsg op hret
    exact ⟨conn', _, bind_run_ok hop, hlogoutFd.trans hfd, hmsg.symm ▸ hnul⟩
  rcases MessageType.ofInt r.2 with _ | (_ | _ | _)
  · exact ⟨_, _, rfl, rfl, noNul_of_notMem (by decide)⟩
  · exact hanswer (noNul_of_notMem (by decide)) (processRegist_fails hregist)
  · exact hanswer (noNul_of_notMem (by decide)) (processLogin_fails hlogin)
  · exact hanswer (noNul_of_notMem (by decide)) (processLogout_fails hlogout)

/-- What is performed for a message with an `extendInfo` is answered. -/
theorem answered (hparse : parse t = .ok (some c)) (hp : printable c = true)
    (hitem : itemFrom c (ascii "extendInfo") = e :: next) (hop : performed m t conn = (.ok op, conn'))
    (hfits : FitsInt op.logoutFd) :
    ∃ out, UserLoginImpl.getResponseMessage t op.logoutFd op.errcode.value op.errmsg = .ok (0, out) ∧
      UserLoginImpl.dealClientMessage m t conn = (.ok out, conn') ∧ out ≠ [] := by
  obtain ⟨⟨ret, out⟩, hr⟩ : Returns (UserLoginImpl.getResponseMessage t op.logoutFd op.errcode.value op.errmsg) :=
    getResponseMessage_returns hparse hp hfits (fitsInt_errcode op.errcode)
  have hret : ret = 0 := by
    rw [UserLoginImpl.getResponseMessage, hparse] at hr
    simp only [ok_bind, deref_some, hitem] at hr
    obtain ⟨text, -, hr⟩ := bind_eq_ok.1 hr
    cases hr
    rfl
  subst hret
  obtain ⟨hfound, -, -⟩ := itemFrom_parsed hparse hitem
  exact ⟨out, hr, dealClientMessage_run hop hr, (getResponseMessage_ne_nil_iff hr).2 ⟨c, e, hparse, hfound⟩⟩

theorem ServicesReturn.accepted (h : ServicesReturn log fdName write m conn t fd) (hfd : FitsInt fd) :
    ∃ c, parse t = .ok (some c) ∧ Accepted c := by
  obtain ⟨c, hparse, hp⟩ := (getNeedSendMessage_returns_iff hfd).1 h.getNeedSendMessage
  have htype := (getServiceFdAndMessage_cutShort log t).returns h.getServiceFdAndMessage
  have hoperate := (getOperateType_cutShort log t).returns h.getOperateType
  have hregist := (registParameters_cutShort log t).returns (returns_of_lift_bind h.processRegist)
  have hlogin := (loginParameters_cutShort log t).returns (returns_of_lift_bind h.processLogin)
  have hlogout := (logoutParameters_cutShort log t).returns (returns_of_lift_bind h.processLogout)
  refine ⟨c, hparse, accepted_of_returns hparse hp htype hoperate hregist hlogin hlogout ?_⟩
  -- whatever it asks for, there is a response to a message with an `extendInfo`
  intro e next hitem
  obtain ⟨conn', op, hop, hopfd, hnul⟩ := performed_fails hoperate hregist hlogin hlogout
  have hfits : FitsInt op.logoutFd := (canAnswer_of_performed hparse hop).fits
  obtain ⟨out, hout, hdeal, hne⟩ := answered hparse hp hitem hop hfits
  have hreturns := h.dealServiceResponse _ _ _ out hdeal hne
  exact ((dealServiceResponse_returns_iff hparse hitem hfits (fitsInt_errcode _) hnul hout).1 hreturns).1

variable (hm : LiteralOn Plain m) (hs : conn.db.Sane) (hok : NoStatementFails m conn)
  (hparse : parse t = .ok (some c)) (hprint : print c = .ok text) (hplain : PlainNames c) (hc : Accepted c)

include hm hs hok hparse hprint hplain hc

theorem ServicesReturn.fitting (h : ServicesReturn log fdName write m conn t fd) :
    Fitting log fdName write conn.db c text fd := by
  refine ⟨forall_messageLines.2 ⟨?_, ?_, ?_, ?_, ?_, ?_⟩, fun e next n msg hitem hanswer => ?_⟩
  · exact ((getServiceFdAndMessage_writes hparse hprint).1 h.getServiceFdAndMessage).2
  · exact ((getOperateType_writes hparse hprint).1 h.getOperateType).2
  · have hnone : FitsInt (-1) := by
      unfold FitsInt
      decide
    have hresponse := h.getResponseMessage (-1) (-1) [] hnone hnone (noNul_of_notMem (by decide))
    exact ((getResponseMessage_writes hparse hprint _ _ _).1 hresponse).2
  · exact (processRegist_returns_iff hm hs hok hparse hprint hplain (hc.registParameters hparse)).1
      h.processRegist
  · exact (processLogin_returns_iff hm hs hok hparse hprint hplain (hc.loginParameters hparse)).1
      h.processLogin
  · exact (processLogout_returns_iff hm hs hok hparse hprint hplain (hc.logoutParameters hparse)).1
      h.processLogout
  · obtain ⟨m', conn', conn'', op, hop, rfl, rfl⟩ := (produces_iff hparse hc).2 hanswer
    obtain ⟨out, hout, hdeal, hne⟩ := answered hparse hc.printable hitem hop hanswer.fits
    have hreturns := h.dealServiceResponse _ _ _ out hdeal hne
    exact ((dealServiceResponse_returns_iff hparse hitem hanswer.fits (fitsInt_errcode _)
      (hanswer.noNul hparse hc) hout).1 hreturns).2

theorem servicesReturn_of_fitting (hfd : FitsInt fd) (h : Fitting log fdName write conn.db c text fd) :
    ServicesReturn log fdName write m conn t fd := by
  have hp := hc.printable
  obtain ⟨hdispatcher, hoperate, hresponse, hregist, hlogin, hlogout⟩ := forall_messageLines.1 h.lines
  refine ⟨(getNeedSendMessage_returns_iff hfd).2 ⟨c, hparse, hp⟩, ?_, ?_, ?_, ?_, ?_, ?_, ?_⟩
  · have htype := (SingleTerminalLogin.getServiceFdAndMessage_returns_iff hparse hp).2 hc.messageType
    exact (getServiceFdAndMessage_writes hparse hprint).2 ⟨htype, hdispatcher⟩
  · have htype := (SingleTerminalLogin.getOperateType_returns_iff hparse hp).2 hc.operateType
    exact (getOperateType_writes hparse hprint).2 ⟨htype, hoperate⟩
  · exact (processRegist_returns_iff hm hs hok hparse hprint hplain (hc.registParameters hparse)).2 hregist
  · exact (processLogin_returns_iff hm hs hok hparse hprint hplain (hc.loginParameters hparse)).2 hlogin
  · exact (processLogout_returns_iff hm hs hok hparse hprint hplain (hc.logoutParameters hparse)).2 hlogout
  · intro logoutFd code msg hlogoutFd hcode _
    refine (getResponseMessage_writes hparse hprint _ _ _).2 ⟨?_, hresponse⟩
    exact SingleTerminalLogin.getResponseMessage_returns hparse hp hlogoutFd hcode
  · intro m' conn' conn'' out hdeal hne
    obtain ⟨op, r, hop, hr, rfl⟩ := dealClientMessage_eq_ok hdeal
    have hanswer := canAnswer_of_performed hparse hop
    obtain ⟨c', e, hparse', he⟩ := (getResponseMessage_ne_nil_iff hr).1 hne
    cases Option.some.inj (Except.ok.inj (hparse.symm.trans hparse'))
    obtain ⟨next, hitem⟩ := List.head?_eq_some_iff.1 he
    obtain ⟨out, hout, -⟩ := answered hparse hp hitem hop hanswer.fits
    cases Except.ok.inj (hr.symm.trans hout)
    exact (dealServiceResponse_returns_iff hparse hitem hanswer.fits (fitsInt_errcode _)
      (hanswer.noNul hparse hc) hout).2 ⟨hc.extendInfo e next hitem, h.responses e next _ _ hitem hanswer⟩

end

/-- What the log calls of a receiver compiled in its own directory are made with. -/
def shortLog : Log := { now := ascii "2024.01.01 00:00:00", file := fun _ => ascii "main.cpp" }

end Logged

end SingleTerminalLogin
