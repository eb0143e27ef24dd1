import SingleTerminalLogin.LoginManager.Register
import SingleTerminalLogin.Services.MessageDispatcher

/-!
# `UserLoginImpl`

The login manager's side of the protocol, `service/loginManager/main/userLoginImpl.cpp`:
it reads the operation and its parameters out of a message, has it done by a
`Loginer` or a `Register`, and puts the response together.

`processLogin`, `processRegist` and `processLogout` come in two parts here: the
parameters they read out of the message, and the call they make with them.
-/

namespace SingleTerminalLogin

open ByteText Binary64 CProgram CJson Proc

/-- `Loginer loginer(_sqlApi)`: the object works on a copy of `SqlApi` whose rows
are empty, over the same connection. -/
def onCopy {α : Type} (x : Proc SqlApi α) : Proc Connection α := fun c =>
  let r := x { connection := c }
  (r.1, r.2.connection)

namespace UserLoginImpl

/-- `UserLoginImpl::getResponseMessage`: the return value and `needSendmessage`.
The item `extendInfo` is linked into the new tree with everything chained behind
it in the old one. -/
def getResponseMessage (receivedMessage : Text) (logoutFd code : Int) (msg : Text) :
    C (Int × Text) := do
  let root := addNumberToObject createObject (ascii "code") code
  let root := addStringToObject root (ascii "msg") msg
  let receivedMessageJson ← parse receivedMessage
  let json ← deref receivedMessageJson
  match itemFrom json (ascii "extendInfo") with
  | [] =>
    logJson receivedMessageJson
    .ok (-1, [])
  | extendInfoItem :: next =>
    let extendInfoItem := addNumberToObject extendInfoItem (ascii "logoutFd") logoutFd
    let root := addItemToObject root (ascii "extendInfo") extendInfoItem next
    let text ← print root
    .ok (0, text)

/-- `UserLoginImpl::getOperateType`: the return value and `operateType`. -/
def getOperateType (receivedMessage : Text) : C (Int × Int) := do
  let receivedMessageJson ← parse receivedMessage
  match ← getItem receivedMessageJson (ascii "operateType") with
  | none =>
    logJson receivedMessageJson
    .ok (-1, 0)
  | some messageTypeItem =>
    assert (messageTypeItem.type = .Number)
    .ok (0, wrap32 messageTypeItem.valueint)

/-- The parameters of a login: `userName`, `passWord` and `clientFd`. -/
def loginParameters (receivedMessage : Text) : C (Option (Text × Text × Int)) := do
  let receivedMessageJson ← parse receivedMessage
  let messageItem ← getItem receivedMessageJson (ascii "message")
  let extendInfoItem ← getItem receivedMessageJson (ascii "extendInfo")
  match messageItem, extendInfoItem with
  | some messageItem, some extendInfoItem =>
    assert (messageItem.type = .Object)
    assert (extendInfoItem.type = .Object)
    match getObjectItem messageItem (ascii "userName"), getObjectItem messageItem (ascii "passWord"),
        getObjectItem extendInfoItem (ascii "clientFd") with
    | some userNameItem, some passWordItem, some clientFdItem =>
      assert (userNameItem.type = .String)
      assert (passWordItem.type = .String)
      assert (clientFdItem.type = .Number)
      let userName ← deref userNameItem.valuestring
      let passWord ← deref passWordItem.valuestring
      .ok (some (userName, passWord, wrap32 clientFdItem.valueint))
    | _, _, _ =>
      logJson receivedMessageJson
      .ok none
  | _, _ =>
    logJson receivedMessageJson
    .ok none

/-- The parameter of a logout. -/
def logoutParameters (receivedMessage : Text) : C (Option Text) := do
  let receivedMessageJson ← parse receivedMessage
  match ← getItem receivedMessageJson (ascii "message") with
  | none =>
    logJson receivedMessageJson
    .ok none
  | some messageItem =>
    assert (messageItem.type = .Object)
    match getObjectItem messageItem (ascii "userName") with
    | none =>
      logJson receivedMessageJson
      .ok none
    | some userNameItem =>
      assert (userNameItem.type = .String)
      let userName ← deref userNameItem.valuestring
      .ok (some userName)

/-- The parameters of a registration. -/
def registParameters (receivedMessage : Text) : C (Option (Text × Text)) := do
  let receivedMessageJson ← parse receivedMessage
  match ← getItem receivedMessageJson (ascii "message") with
  | none =>
    logJson receivedMessageJson
    .ok none
  | some messageItem =>
    assert (messageItem.type = .Object)
    match getObjectItem messageItem (ascii "userName"), getObjectItem messageItem (ascii "passWord") with
    | some userNameItem, some passWordItem =>
      assert (userNameItem.type = .String)
      assert (passWordItem.type = .String)
      let userName ← deref userNameItem.valuestring
      let passWord ← deref passWordItem.valuestring
      .ok (some (userName, passWord))
    | _, _ =>
      logJson receivedMessageJson
      .ok none

/-- What an operation leaves behind: its return value, `logoutFd`, `errcode` and
`errmsg`. -/
structure Operation where
  ret : Int
  logoutFd : Int := -1
  errcode : RegistLoginCode := .SUCCESS
  errmsg : Text := []

section

variable (m : Mysql)

/-- `UserLoginImpl::processLogin`. -/
def processLogin (receivedMessage : Text) : Proc Connection Operation := do
  match ← lift (loginParameters receivedMessage) with
  | none => pure { ret := -1 }
  | some (userName, passWord, clientFd) =>
    let r ← onCopy (Loginer.processLogin m userName passWord clientFd)
    pure { ret := if r.ret ≠ 0 then -1 else 0, logoutFd := r.logoutFd, errcode := r.code,
           errmsg := r.msg }

/-- `UserLoginImpl::processLogout`. -/
def processLogout (receivedMessage : Text) : Proc Connection Operation := do
  match ← lift (logoutParameters receivedMessage) with
  | none => pure { ret := -1 }
  | some userName =>
    let r ← onCopy (Loginer.processLogout m userName)
    pure { ret := if r.ret ≠ 0 then -1 else 0, errcode := r.code, errmsg := r.msg }

/-- `UserLoginImpl::processRegist`. -/
def processRegist (receivedMessage : Text) : Proc Connection Operation := do
  match ← lift (registParameters receivedMessage) with
  | none => pure { ret := -1 }
  | some (userName, passWord) =>
    let r ← onCopy (Register.processRegist m userName passWord [])
    pure { ret := if r.ret ≠ 0 then -1 else 0, errcode := r.code, errmsg := r.msg }

/-- What `dealClientMessage` does with an operation that failed: the code and the
message are replaced, `logoutFd` stays. -/
def unexpected (op : Operation) (errmsg : Text) : Operation :=
  if op.ret ≠ 0 then { op with errcode := .SYSTEM_ERROR, errmsg := errmsg } else op

/-- The `switch` of `UserLoginImpl::dealClientMessage`. -/
def operate (receivedMessage : Text) (operateType : Int) : Proc Connection Operation := do
  match MessageType.ofInt operateType with
  | some .REGIST =>
    let op ← processRegist m receivedMessage
    pure (unexpected op (ascii "SYSTEM ERROR: process regist occur unexpect error!"))
  | some .LOGIN =>
    let op ← processLogin m receivedMessage
    pure (unexpected op (ascii "SYSTEM ERROR: process login occur unexpect error!"))
  | some .LOGOUT =>
    let op ← processLogout m receivedMessage
    pure (unexpected op (ascii "SYSTEM ERROR: process logout occur unexpect error!"))
  | none =>
    pure { ret := -1, errcode := .SYSTEM_ERROR, errmsg := ascii "SYSTEM ERROR: operateType is illegal!" }

/-- `UserLoginImpl::dealClientMessage`, up to the write: what is written to the
dispatcher, which is empty when the response could not be put together. -/
def dealClientMessage (receivedMessage : Text) : Proc Connection Text := do
  let r ← lift (getOperateType receivedMessage)
  let op ← if r.1 ≠ 0 then
      pure { ret := -1, errmsg := ascii "SYSTEM ERROR:Message format error!" }
    else operate m receivedMessage r.2
  let response ← lift (getResponseMessage receivedMessage op.logoutFd op.errcode.value op.errmsg)
  pure response.2

end

end UserLoginImpl

end SingleTerminalLogin
