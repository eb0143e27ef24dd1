import SingleTerminalLogin.Services.Ownership

/-!
# The requests of the client program

`client/processCommandLine`: the messages the commands `regist`, `login` and
`logout` write, and what becomes of them.

* `Request.at_manager` — what the login manager reads out of such a message is what
  the user has typed, with the descriptor of the connection;
* `dealClientMessage_request` — a request is one call of the login manager, and its
  answer comes back unchanged.
-/

namespace SingleTerminalLogin

open ByteText Binary64 CProgram CJson Proc SqlLex

/-! ## The messages -/

/-- An argument of the command line: a C string. -/
structure Argument where
  text : Text
  noNul : NoNul text
  deriving DecidableEq

/-- `messageItem` with a user name. -/
def userNameItem (userName : Argument) : CJson :=
  addItemToObject createObject (ascii "userName") (createString userName.text) []

/-- `messageItem` with a user name and a password. -/
def passWordItem (userName passWord : Argument) : CJson :=
  addItemToObject (userNameItem userName) (ascii "passWord") (createString passWord.text) []

/-- The tree all commands build. -/
def requestJson (messageType : MessageType) (messageItem : CJson) : CJson :=
  addItemToObject (addItemToObject createObject (ascii "messageType")
    (createNumber (ofInt messageType.value)) []) (ascii "message") messageItem []

/-- `RegistCmd::getJsonStringFromParams`. -/
def RegistCmd.getJsonStringFromParams (userName passWord : Argument) : C Text :=
  print (requestJson .REGIST (passWordItem userName passWord))

/-- `Login::getJsonStringFromParams`. -/
def Login.getJsonStringFromParams (userName passWord : Argument) : C Text :=
  print (requestJson .LOGIN (passWordItem userName passWord))

/-- `LogoutCmd::getJsonStringFromParams`. -/
def LogoutCmd.getJsonStringFromParams (userName : Argument) : C Text :=
  print (requestJson .LOGOUT (userNameItem userName))

/-- `Exiter::getJsonStringFromParams`. -/
def Exiter.getJsonStringFromParams (userName : Argument) : C Text :=
  print (requestJson .LOGOUT (userNameItem userName))

/-- A command with its arguments. -/
inductive Request where
  | regist (userName passWord : Argument)
  | login (userName passWord : Argument)
  | logout (userName : Argument)
  deriving DecidableEq

namespace Request

/-- `getJsonStringFromParams` of the command's class. -/
def getJsonStringFromParams : Request → C Text
  | regist u p => RegistCmd.getJsonStringFromParams u p
  | login u p => Login.getJsonStringFromParams u p
  | logout u => LogoutCmd.getJsonStringFromParams u

def messageType : Request → MessageType
  | regist _ _ => .REGIST
  | login _ _ => .LOGIN
  | logout _ => .LOGOUT

def messageItem : Request → CJson
  | regist u p => passWordItem u p
  | login u p => passWordItem u p
  | logout u => userNameItem u

/-- The call of the login manager that is asked for. -/
def call (sendToClientFd : Int) : Request → Call
  | regist u p => .regist u.text p.text
  | login u p => .login u.text p.text sendToClientFd
  | logout u => .logout u.text

theorem getJsonStringFromParams_eq (r : Request) :
    r.getJsonStringFromParams = print (requestJson r.messageType r.messageItem) := by
  cases r <;> rfl

end Request

/-! ## On their way -/

theorem settled_userNameItem (u : Argument) : Settled (userNameItem u) :=
  settled_createObject.addStringToObject rfl (noNul_of_notMem (by decide)) u.noNul

theorem settled_passWordItem (u p : Argument) : Settled (passWordItem u p) :=
  (settled_userNameItem u).addStringToObject rfl (noNul_of_notMem (by decide)) p.noNul

theorem settled_messageItem (r : Request) : Settled r.messageItem := by
  cases r with
  | regist u p => exact settled_passWordItem u p
  | login u p => exact settled_passWordItem u p
  | logout u => exact settled_userNameItem u

theorem settled_requestJson (t : MessageType) {item : CJson} (h : Settled item) :
    Settled (requestJson t item) := by
  have hroot : Settled (addNumberToObject createObject (ascii "messageType") t.value) :=
    settled_createObject.addNumberToObject rfl (noNul_of_notMem (by decide)) t.fits.1 t.fits.2
  exact hroot.addItem rfl h (noNul_of_notMem (by decide))

/-- The tree the login manager gets. -/
def managerJson (r : Request) (sendToClientFd : Int) : CJson :=
  addNumberToObject (addItemToObject (requestJson r.messageType r.messageItem) (ascii "extendInfo")
    (MessageReceiver.extendInfo sendToClientFd) []) (ascii "operateType") r.messageType.value

section

variable {fd : Int} (r : Request)

theorem settled_extendInfo (hfd : FitsInt fd) : Settled (MessageReceiver.extendInfo fd) :=
  settled_createObject.addNumberToObject rfl (noNul_of_notMem (by decide)) hfd.1 hfd.2

theorem settled_stamped (hfd : FitsInt fd) :
    Settled (addItemToObject (requestJson r.messageType r.messageItem) (ascii "extendInfo")
      (MessageReceiver.extendInfo fd) []) :=
  (settled_requestJson _ (settled_messageItem r)).addItem rfl (settled_extendInfo hfd)
    (noNul_of_notMem (by decide))

theorem settled_managerJson (hfd : FitsInt fd) : Settled (managerJson r fd) :=
  (settled_stamped r hfd).addNumberToObject rfl (noNul_of_notMem (by decide))
    r.messageType.fits.1 r.messageType.fits.2

theorem type_createNumber (x : Double) : (createNumber x).type = .Number := rfl

theorem valueint_createNumber {n : Int} (h1 : -2 ^ 31 ≤ n) (h2 : n < 2 ^ 31) :
    wrap32 (createNumber (ofInt n)).valueint = n := by
  rw [createNumber_ofInt (by omega)]
  exact wrap32_eq_self h1 h2

/-- Every command's message passes the receiver and the dispatcher, and arrives. -/
theorem Request.at_manager (hfd : FitsInt fd) :
    ∃ t m₁ m₂, r.getJsonStringFromParams = .ok t ∧
      MessageReceiver.getNeedSendMessage t fd = .ok m₁ ∧
      MessageDispatcher.getServiceFdAndMessage m₁ = .ok (0, m₂) ∧
      parse m₂ = .ok (some (managerJson r fd)) := by
  obtain ⟨t, hprint, hparse⟩ := (settled_requestJson _ (settled_messageItem r)).arrives rfl
  obtain ⟨m₁, hprint₁, hparse₁⟩ := (settled_stamped r hfd).arrives rfl
  obtain ⟨m₂, hprint₂, hparse₂⟩ := (settled_managerJson r hfd).arrives rfl
  refine ⟨t, m₁, m₂, r.getJsonStringFromParams_eq.trans hprint, ?_, ?_, hparse₂⟩
  · rw [MessageReceiver.getNeedSendMessage, hparse]
    exact hprint₁
  · have hitem : getObjectItem (addItemToObject (requestJson r.messageType r.messageItem)
        (ascii "extendInfo") (MessageReceiver.extendInfo fd) []) (ascii "messageType") =
        some { createNumber (ofInt r.messageType.value) with
          string := some (ascii "messageType") } := rfl
    have hvalue := valueint_createNumber r.messageType.fits.1 r.messageType.fits.2
    rw [MessageDispatcher.getServiceFdAndMessage, hparse₁]
    simp only [ok_bind, getItem, deref_some, hitem, hvalue, MessageType.ofInt_value]
    rw [assert_of (type_createNumber _), ok_bind, MessageDispatcher.dealLogin]
    rw [managerJson] at hprint₂
    rw [hprint₂]
    rfl

end

/-! ## What the login manager reads -/

section

variable {r : Request} {fd : Int} {t : Text} (hparse : parse t = .ok (some (managerJson r fd)))

include hparse

theorem getOperateType_request :
    UserLoginImpl.getOperateType t = .ok (0, r.messageType.value) := by
  have hitem : getObjectItem (managerJson r fd) (ascii "operateType") =
      some { createNumber (ofInt r.messageType.value) with
        string := some (ascii "operateType") } := rfl
  rw [UserLoginImpl.getOperateType, hparse]
  simp only [ok_bind, getItem, deref_some, hitem,
    valueint_createNumber r.messageType.fits.1 r.messageType.fits.2]
  rw [assert_of (type_createNumber _)]
  rfl

end

theorem loginParameters_request {u p : Argument} {fd : Int} {t : Text} (hfd : FitsInt fd)
    (hparse : parse t = .ok (some (managerJson (.login u p) fd))) :
    UserLoginImpl.loginParameters t = .ok (some (u.text, p.text, fd)) := by
  have hmessage : getObjectItem (managerJson (.login u p) fd) (ascii "message") =
      some { passWordItem u p with string := some (ascii "message") } := rfl
  have hinfo : getObjectItem (managerJson (.login u p) fd) (ascii "extendInfo") =
      some { MessageReceiver.extendInfo fd with string := some (ascii "extendInfo") } := rfl
  have hname : getObjectItem { passWordItem u p with string := some (ascii "message") }
      (ascii "userName") =
      some { createString u.text with string := some (ascii "userName") } := rfl
  have hword : getObjectItem { passWordItem u p with string := some (ascii "message") }
      (ascii "passWord") =
      some { createString p.text with string := some (ascii "passWord") } := rfl
  have hclient : getObjectItem { MessageReceiver.extendInfo fd with
      string := some (ascii "extendInfo") } (ascii "clientFd") =
      some { createNumber (ofInt fd) with string := some (ascii "clientFd") } := rfl
  rw [UserLoginImpl.loginParameters, hparse]
  simp only [ok_bind, getItem, deref_some, hmessage, hinfo, hname, hword, hclient,
    valueint_createNumber hfd.1 hfd.2]
  rfl

theorem logoutParameters_request {u : Argument} {fd : Int} {t : Text}
    (hparse : parse t = .ok (some (managerJson (.logout u) fd))) :
    UserLoginImpl.logoutParameters t = .ok (some u.text) := by
  have hmessage : getObjectItem (managerJson (.logout u) fd) (ascii "message") =
      some { userNameItem u with string := some (ascii "message") } := rfl
  have hname : getObjectItem { userNameItem u with string := some (ascii "message") }
      (ascii "userName") =
      some { createString u.text with string := some (ascii "userName") } := rfl
  rw [UserLoginImpl.logoutParameters, hparse]
  simp only [ok_bind, getItem, deref_some, hmessage, hname]
  rfl

theorem registParameters_request {u p : Argument} {fd : Int} {t : Text}
    (hparse : parse t = .ok (some (managerJson (.regist u p) fd))) :
    UserLoginImpl.registParameters t = .ok (some (u.text, p.text)) := by
  have hmessage : getObjectItem (managerJson (.regist u p) fd) (ascii "message") =
      some { passWordItem u p with string := some (ascii "message") } := rfl
  have hname : getObjectItem { passWordItem u p with string := some (ascii "message") }
      (ascii "userName") =
      some { createString u.text with string := some (ascii "userName") } := rfl
  have hword : getObjectItem { passWordItem u p with string := some (ascii "message") }
      (ascii "passWord") =
      some { createString p.text with string := some (ascii "passWord") } := rfl
  rw [UserLoginImpl.registParameters, hparse]
  simp only [ok_bind, getItem, deref_some, hmessage, hname, hword]
  rfl

/-! ## The answer -/

section

variable {m : Mysql} {conn : Connection} {r : Request} {fd : Int} {t : Text}

variable (m conn) in
/-- A request is one call of the login manager. -/
theorem operate_request (hfd : FitsInt fd) (hparse : parse t = .ok (some (managerJson r fd))) :
    UserLoginImpl.operate m t r.messageType.value conn =
      ((loginManager m (r.call fd) conn).1.operation, (loginManager m (r.call fd) conn).2) := by
  cases r with
  | regist u p => exact operate_regist (registParameters_request hparse)
  | login u p => exact operate_login (loginParameters_request hfd hparse)
  | logout u => exact operate_logout (logoutParameters_request hparse)

/-- The chain from `extendInfo` on, in the tree the login manager gets. -/
theorem itemFrom_managerJson :
    itemFrom (managerJson r fd) (ascii "extendInfo") =
      [{ MessageReceiver.extendInfo fd with string := some (ascii "extendInfo") },
        { createNumber (ofInt r.messageType.value) with string := some (ascii "operateType") }] :=
  rfl

theorem settled_responseJson {logoutFd code : Int} {msg : Text} (hfd : FitsInt fd)
    (hlogoutFd : FitsInt logoutFd) (hcode : FitsInt code) (hmsg : NoNul msg) :
    Settled (responseJson logoutFd code msg
      { MessageReceiver.extendInfo fd with string := some (ascii "extendInfo") }
      [{ createNumber (ofInt r.messageType.value) with string := some (ascii "operateType") }]) := by
  have hroot : Settled (addStringToObject (addNumberToObject createObject (ascii "code") code)
      (ascii "msg") msg) := by
    have hwithCode : Settled (addNumberToObject createObject (ascii "code") code) :=
      settled_createObject.addNumberToObject rfl (noNul_of_notMem (by decide)) hcode.1 hcode.2
    exact hwithCode.addStringToObject rfl (noNul_of_notMem (by decide)) hmsg
  have hinfo : Settled (addNumberToObject
      { MessageReceiver.extendInfo fd with string := some (ascii "extendInfo") } (ascii "logoutFd")
      logoutFd) :=
    ((settled_extendInfo hfd).rename _).addNumberToObject rfl (noNul_of_notMem (by decide))
      hlogoutFd.1 hlogoutFd.2
  refine hroot.addItemToObject rfl hinfo (noNul_of_notMem (by decide)) ?_ ?_
  · intro d hd
    rw [List.mem_singleton.1 hd]
    exact settled_number r.messageType.fits.1 r.messageType.fits.2 _
  · intro d hd
    rw [List.mem_singleton.1 hd]
    exact ⟨ascii "operateType", rfl, noNul_of_notMem (by decide)⟩

/-- The answer to a request comes back to the receiver as it was given. -/
theorem response_request {logoutFd code : Int} {msg : Text} (hfd : FitsInt fd)
    (hparse : parse t = .ok (some (managerJson r fd))) (hlogoutFd : FitsInt logoutFd)
    (hcode : FitsInt code) (hmsg : NoNul msg) :
    ∃ out, out ≠ [] ∧ UserLoginImpl.getResponseMessage t logoutFd code msg = .ok (0, out) ∧
      MessageReceiver.responseMembers out = .ok (some (msg, logoutFd)) := by
  have hsettled := settled_responseJson (r := r) hfd hlogoutFd hcode hmsg
  obtain ⟨out, hprint, hparse'⟩ := hsettled.arrives rfl
  refine ⟨out, ?_, ?_, ?_⟩
  · rintro rfl
    cases hparse'
  · rw [UserLoginImpl.getResponseMessage, hparse]
    simp only [ok_bind, deref_some, itemFrom_managerJson]
    rw [responseJson] at hprint
    rw [hprint]
    rfl
  · have hmsgItem : getObjectItem (responseJson logoutFd code msg
        { MessageReceiver.extendInfo fd with string := some (ascii "extendInfo") }
        [{ createNumber (ofInt r.messageType.value) with string := some (ascii "operateType") }])
        (ascii "msg") = some { createString msg with string := some (ascii "msg") } := rfl
    have hlogout : getObjectItem { addNumberToObject
        { MessageReceiver.extendInfo fd with string := some (ascii "extendInfo") } (ascii "logoutFd")
        logoutFd with string := some (ascii "extendInfo") } (ascii "logoutFd") =
        some { createNumber (ofInt logoutFd) with string := some (ascii "logoutFd") } := rfl
    rw [MessageReceiver.responseMembers, hparse']
    simp only [ok_bind, getItem, deref_some, hmsgItem, getObjectItem_responseJson, hlogout,
      valueint_createNumber hlogoutFd.1 hlogoutFd.2]
    rfl

end

theorem RegistLoginCode.fits (c : RegistLoginCode) : FitsInt c.value := by
  unfold FitsInt
  cases c <;> decide

/-- An operation whose answer can be sent. -/
structure UserLoginImpl.Operation.Sendable (op : UserLoginImpl.Operation) : Prop where
  logoutFd : FitsInt op.logoutFd
  errmsg : NoNul op.errmsg

theorem UserLoginImpl.Operation.Sendable.unexpected {op : UserLoginImpl.Operation} {errmsg : Text}
    (h : op.Sendable) (hmsg : NoNul errmsg) : (UserLoginImpl.unexpected op errmsg).Sendable := by
  unfold UserLoginImpl.unexpected
  split
  · exact ⟨h.logoutFd, hmsg⟩
  · exact h

section

variable {torn : Prop} {u p : Text} {fd : Int} {s s' : SqlApi}

theorem fitsInt_none : FitsInt (-1) := by
  unfold FitsInt
  decide

theorem fitsInt_readFd (row : LoginRow) : FitsInt (Loginer.readFd row) := by
  rw [Loginer.readFd, readInt]
  exact fitsInt_wrap32 _

theorem Loginer.LoginOutcome.sendable {r : LoginReply} (h : LoginOutcome torn u p fd s s' (.ok r)) :
    FitsInt r.logoutFd ∧ NoNul r.msg := by
  cases h with
  | displaced row hv ha hd hf =>
    dsimp only
    exact ⟨fitsInt_readFd row, noNul_of_notMem (by decide)⟩
  | displaceFailed row hv ha hd hf =>
    dsimp only
    exact ⟨fitsInt_readFd row, noNul_of_notMem (by decide)⟩
  | _ => exact ⟨fitsInt_none, noNul_of_notMem (by decide)⟩

theorem Loginer.LogoutOutcome.sendable {r : Reply} (h : LogoutOutcome torn u s s' (.ok r)) :
    NoNul r.msg := by
  cases h <;> exact noNul_of_notMem (by decide)

theorem Register.RegistOutcome.sendable {r : Reply} (h : RegistOutcome torn u p [] s s' (.ok r))
    (hu : NoNul u) : NoNul r.msg := by
  cases h with
  | taken hv h => exact noNul_append hu (noNul_of_notMem (by decide))
  | _ => exact noNul_of_notMem (by decide)

end

/-- Every answer to a call can be sent, if the names of the call can. -/
theorem Call.Outcome.sendable {torn : Prop} {call : Call} {e : CallEnd} {c c' : Connection}
    (h : call.Outcome torn c c' e) (hnames : ∀ n ∈ call.names, NoNul n) {op : UserLoginImpl.Operation}
    (hop : e.operation = .ok op) : op.Sendable := by
  cases call with
  | regist u p =>
    cases e with
    | regist r =>
      cases r with
      | error e => cases hop
      | ok r =>
        cases hop
        have hmsg := Register.RegistOutcome.sendable h (hnames u List.mem_cons_self)
        exact .unexpected ⟨fitsInt_none, hmsg⟩ (noNul_of_notMem (by decide))
    | login r => exact h.elim
    | logout r => exact h.elim
  | login u p fd =>
    cases e with
    | regist r => exact h.elim
    | login r =>
      cases r with
      | error e => cases hop
      | ok r =>
        cases hop
        have hr := Loginer.LoginOutcome.sendable h
        exact .unexpected ⟨hr.1, hr.2⟩ (noNul_of_notMem (by decide))
    | logout r => exact h.elim
  | logout u =>
    cases e with
    | regist r => exact h.elim
    | login r => exact h.elim
    | logout r =>
      cases r with
      | error e => cases hop
      | ok r =>
        cases hop
        have hmsg := Loginer.LogoutOutcome.sendable h
        exact .unexpected ⟨fitsInt_none, hmsg⟩ (noNul_of_notMem (by decide))

theorem Request.names_noNul (r : Request) (fd : Int) : ∀ n ∈ (r.call fd).names, NoNul n := by
  intro n hn
  cases r with
  | regist u p =>
    simp only [Request.call, Call.names, List.mem_cons, List.not_mem_nil, or_false] at hn
    rcases hn with rfl | rfl
    · exact u.noNul
    · exact p.noNul
  | login u p =>
    simp only [Request.call, Call.names, List.mem_cons, List.not_mem_nil, or_false] at hn
    rcases hn with rfl | rfl
    · exact u.noNul
    · exact p.noNul
  | logout u =>
    rw [Request.call, Call.names, List.mem_singleton] at hn
    exact hn ▸ u.noNul

/-- What the receiver is told in the end: `logoutFd` and `msg`, unless the login manager
died. -/
def CallEnd.answer (e : CallEnd) : Option (Int × Text) :=
  match e.operation with
  | .ok op => some (op.logoutFd, op.errmsg)
  | .error _ => none

/-- What the receiver does with an answer. -/
def MessageReceiver.Dealt.ofAnswer (write : Nat → Int → WriteOutcome) (sendToClientFd : Int) :
    Option (Int × Text) → MessageReceiver.Dealt
  | none => .waits
  | some (logoutFd, msg) =>
    .responded (MessageReceiver.sendResponse write sendToClientFd msg logoutFd)

section

variable {torn : Prop} {m : Mysql} {conn : Connection} {r : Request} {fd : Int}

/-- A command's message, from the receiver to the login manager and back: one call,
and its answer. -/
theorem dealClientMessage_request (hm : ServedBy torn Plain m)
    (hplain : ∀ n ∈ (r.call fd).names, Plain n) (hids : conn.db.IdsFit) (hfd : FitsInt fd) :
    ∃ t, r.getJsonStringFromParams = .ok t ∧ ∀ write,
      MessageReceiver.dealClientMessage m write fd t conn =
        (.ofAnswer write fd (loginManager m (r.call fd) conn).1.answer,
          (loginManager m (r.call fd) conn).2) := by
  obtain ⟨t, m₁, m₂, ht, h₁, h₂, hparse⟩ := r.at_manager hfd
  refine ⟨t, ht, fun write => ?_⟩
  have hout := loginManager_outcome hm hplain hids
  have hoperate := operate_request m conn hfd hparse
  cases hop : (loginManager m (r.call fd) conn).1.operation with
  | error e =>
    have hmanager : UserLoginImpl.dealClientMessage m m₂ conn =
        (.error e, (loginManager m (r.call fd) conn).2) := by
      rw [UserLoginImpl.dealClientMessage, lift_bind_run_ok (getOperateType_request hparse)]
      rw [hop] at hoperate
      exact bind_run_error hoperate
    rw [CallEnd.answer, hop, MessageReceiver.dealClientMessage, h₁]
    simp only [MessageDispatcher.dealClientMessage, h₂, hmanager]
    rfl
  | ok op =>
    obtain ⟨hlogoutFd, hmsg⟩ := hout.sendable (r.names_noNul fd) hop
    obtain ⟨out, hne, hresponse, hmembers⟩ :=
      response_request hfd hparse hlogoutFd op.errcode.fits hmsg
    have hmanager : UserLoginImpl.dealClientMessage m m₂ conn =
        (.ok out, (loginManager m (r.call fd) conn).2) := by
      rw [UserLoginImpl.dealClientMessage, lift_bind_run_ok (getOperateType_request hparse)]
      rw [hop] at hoperate
      exact (bind_run_ok hoperate).trans (lift_bind_run_ok hresponse)
    rw [CallEnd.answer, hop, MessageReceiver.dealClientMessage, h₁]
    simp only [MessageDispatcher.dealClientMessage, h₂, hmanager, ne_eq, not_true_eq_false, if_false,
      if_neg hne]
    rw [MessageReceiver.dealServiceResponse, hmembers]
    rfl

end

end SingleTerminalLogin
