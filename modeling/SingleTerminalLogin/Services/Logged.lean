import SingleTerminalLogin.Daemon.LogRecord
import SingleTerminalLogin.Lib.CutShort
import SingleTerminalLogin.Services.UserLoginImpl

/-!
# The log calls on the way of a message

The functions that handle a message write to the log while they do, and a line that is too long for
its array ends the process.  Here they are once more, with every log call in its place.

* `Line`, `Log` — a log call by its file and line number, and what else it is made with;
* `Log.print_returns_iff` — when a line fits;
* `Logged` — the functions with their log calls;
* `Logged.processLogin_cutShort` and its like — they do what the functions without them do, as far as
  they get.
-/

namespace SingleTerminalLogin

open ByteText Binary64 CProgram CJson Proc Printf

/-! ## Lines -/

/-- The files with the log calls. -/
inductive Source where
  | daemon
  | messageReceiver
  | messageDispatcher
  | userLoginImpl
  | loginer
  | register
  | sqlApi
  deriving DecidableEq

/-- The log calls of a file. -/
def Source.logs : Source → List LogSite
  | daemon => DaemonBase.logs
  | messageReceiver => MessageReceiver.logs
  | messageDispatcher => MessageDispatcher.logs
  | userLoginImpl => UserLoginImpl.logs
  | loginer => Loginer.logs
  | register => Register.logs
  | sqlApi => SqlApi.logs

/-- The log call in a line of a file. -/
def Source.site (source : Source) (line : Int) : LogSite :=
  (source.logs.find? fun site => site.line = line).getD ⟨line, .NOLOG, []⟩

/-- There is such a log call, and it asks for these arguments. -/
def Source.takes (source : Source) (line : Int) (args : List Arg) : Bool :=
  (source.site line).level ≠ .NOLOG && Takes (pieces (source.site line).fmt) args

/-- A log call with its arguments. -/
structure Line where
  source : Source
  line : Int
  args : List Arg
  takes : source.takes line args = true

/-- What log calls are made with besides: the time, the names of the files as they were compiled,
whether the log file can be opened, and the errors of system calls and of the client library. -/
structure Log where
  now : Text
  file : Source → Text
  opened : Bool := true
  errno : Int := 0
  strerror : Text := []
  /-- A select that fails does so when its result is stored. -/
  unstored : Bool := false

/-- `LR_LOG(__FILE__, __LINE__, …)`. -/
def Log.print (log : Log) (l : Line) : C Unit := do
  let site := l.source.site l.line
  let _ ← LR_LOG log.now log.opened (log.file l.source) site.line site.level site.fmt l.args
  .ok ()

/-- The line is short enough for its array. -/
def Log.Fits (log : Log) (l : Line) : Prop :=
  (cstr log.now).length + (cstr (log.file l.source)).length +
    (intText (wrap32 (l.source.site l.line).line)).length + (l.source.site l.line).level.name.length +
      (litLength (pieces (l.source.site l.line).fmt) + argLength l.args) + 11 < LR_MAX_STRING_LEN

instance (log : Log) (l : Line) : Decidable (log.Fits l) := inferInstanceAs (Decidable (_ < _))

theorem Log.print_returns_iff {log : Log} {l : Line} : Returns (log.print l) ↔ log.Fits l := by
  have htakes := l.takes
  rw [Source.takes, Bool.and_eq_true, decide_eq_true_eq] at htakes
  obtain ⟨message, hmessage, hlength⟩ := vformat_length htakes.2
  have hline : Returns (LR_LOG log.now log.opened (log.file l.source) (l.source.site l.line).line
      (l.source.site l.line).level (l.source.site l.line).fmt l.args) ↔ log.Fits l := by
    rw [LR_LOG, if_neg htakes.1, returns_LR_Error_Core_iff hmessage, hlength]
    rfl
  rw [← hline, Log.print, returns_bind_iff]
  refine exists_congr fun r => and_iff_left_of_imp fun _ => ?_
  exact returns_ok _

theorem Log.print_of_fits {log : Log} {l : Line} (h : log.Fits l) : log.print l = .ok () := by
  obtain ⟨⟨⟩, h⟩ := Log.print_returns_iff.2 h
  exact h

/-! ## The functions -/

namespace Logged

section

variable (log : Log)

/-- `LOG_ERROR("…", cJSON_PrintUnformatted(json))`. -/
def printJson (source : Source) (line : Int) (takes : ∀ t, source.takes line [.str t] = true)
    (json : Option CJson) : C Unit := do
  let json ← deref json
  let text ← print json
  log.print ⟨source, line, [.str text], takes text⟩

/-- `MessageDispatcher::getServiceFdAndMessage`. -/
def getServiceFdAndMessage (receivedMessage : Text) : C (Int × Text) := do
  let receivedMessageJson ← parse receivedMessage
  match ← getItem receivedMessageJson (ascii "messageType") with
  | none =>
    printJson log .messageDispatcher 108 (fun _ => rfl) receivedMessageJson
    .ok (-1, [])
  | some messageTypeItem =>
    assert (messageTypeItem.type = .Number)
    let messageType := wrap32 messageTypeItem.valueint
    match MessageType.ofInt messageType with
    | some _ =>
      -- the login service is always found, so this call never fails
      let json ← deref receivedMessageJson
      let message ← MessageDispatcher.dealLogin json messageType
      .ok (0, message)
    | none =>
      printJson log .messageDispatcher 130 (fun _ => rfl) receivedMessageJson
      .ok (-1, [])

/-- `UserLoginImpl::getResponseMessage`. -/
def getResponseMessage (receivedMessage : Text) (logoutFd code : Int) (msg : Text) : C (Int × Text) := do
  let root := addNumberToObject createObject (ascii "code") code
  let root := addStringToObject root (ascii "msg") msg
  let receivedMessageJson ← parse receivedMessage
  let json ← deref receivedMessageJson
  match itemFrom json (ascii "extendInfo") with
  | [] =>
    printJson log .userLoginImpl 110 (fun _ => rfl) receivedMessageJson
    .ok (-1, [])
  | extendInfoItem :: next =>
    let extendInfoItem := addNumberToObject extendInfoItem (ascii "logoutFd") logoutFd
    let root := addItemToObject root (ascii "extendInfo") extendInfoItem next
    let text ← CJson.print root
    .ok (0, text)

/-- `UserLoginImpl::getOperateType`. -/
def getOperateType (receivedMessage : Text) : C (Int × Int) := do
  let receivedMessageJson ← parse receivedMessage
  match ← getItem receivedMessageJson (ascii "operateType") with
  | none =>
    printJson log .userLoginImpl 132 (fun _ => rfl) receivedMessageJson
    .ok (-1, 0)
  | some messageTypeItem =>
    assert (messageTypeItem.type = .Number)
    .ok (0, wrap32 messageTypeItem.valueint)

/-- The parameters of a login. -/
def loginParameters (receivedMessage : Text) : C (Option (Text × Text × Int)) := do
  let receivedMessageJson ← parse receivedMessage
  let messageItem ← getItem receivedMessageJson (ascii "message")
  let extendInfoItem ← getItem receivedMessageJson (ascii "extendInfo")
  match messageItem, extendInfoItem with
  | some messageItem, some extendInfoItem =>
    assert (messageItem.type = .Object)
    assert (extendInfoItem.type = .Object)
    match getObjectItem messageItem (ascii "userName"), getObjectItem messageItem (ascii "passWord"),
        getObjectItem extendInfoItem (ascii "clientFd") with
    | some userNameItem, some passWordItem, some clientFdItem =>
      assert (userNameItem.type = .String)
      assert (passWordItem.type = .String)
      assert (clientFdItem.type = .Number)
      let userName ← deref userNameItem.valuestring
      let passWord ← deref passWordItem.valuestring
      .ok (some (userName, passWord, wrap32 clientFdItem.valueint))
    | _, _, _ =>
      printJson log .userLoginImpl 161 (fun _ => rfl) receivedMessageJson
      .ok none
  | _, _ =>
    printJson log .userLoginImpl 149 (fun _ => rfl) receivedMessageJson
    .ok none

/-- The parameter of a logout. -/
def logoutParameters (receivedMessage : Text) : C (Option Text) := do
  let receivedMessageJson ← parse receivedMessage
  match ← getItem receivedMessageJson (ascii "message") with
  | none =>
    printJson log .userLoginImpl 189 (fun _ => rfl) receivedMessageJson
    .ok none
  | some messageItem =>
    assert (messageItem.type = .Object)
    match getObjectItem messageItem (ascii "userName") with
    | none =>
      printJson log .userLoginImpl 197 (fun _ => rfl) receivedMessageJson
      .ok none
    | some userNameItem =>
      assert (userNameItem.type = .String)
      let userName ← deref userNameItem.valuestring
      .ok (some userName)

/-- The parameters of a registration. -/
def registParameters (receivedMessage : Text) : C (Option (Text × Text)) := do
  log.print ⟨.userLoginImpl, 217, [], rfl⟩
  let receivedMessageJson ← parse receivedMessage
  match ← getItem receivedMessageJson (ascii "message") with
  | none =>
    printJson log .userLoginImpl 222 (fun _ => rfl) receivedMessageJson
    .ok none
  | some messageItem =>
    assert (messageItem.type = .Object)
    match getObjectItem messageItem (ascii "userName"), getObjectItem messageItem (ascii "passWord") with
    | some userNameItem, some passWordItem =>
      assert (userNameItem.type = .String)
      assert (passWordItem.type = .String)
      let userName ← deref userNameItem.valuestring
      let passWord ← deref passWordItem.valuestring
      .ok (some (userName, passWord))
    | _, _ =>
      printJson log .userLoginImpl 231 (fun _ => rfl) receivedMessageJson
      .ok none

variable (m : Mysql)

/-- `SqlApi::select`. -/
def select (stmt : Stmt) : Proc SqlApi Int := do
  let ret ← SqlApi.select m stmt
  if ret ≠ 0 then do
    lift (if log.unstored then
      log.print ⟨.sqlApi, 69, [.int log.errno, .str log.strerror, .str stmt.text], rfl⟩
    else log.print ⟨.sqlApi, 61, [.int log.errno, .str log.strerror, .str stmt.text], rfl⟩)
    pure ret
  else pure ret

/-- `SqlApi::insert`. -/
def insert (stmt : Stmt) : Proc SqlApi Int := do
  let ret ← SqlApi.insert m stmt
  if ret ≠ 0 then do
    lift (log.print ⟨.sqlApi, 91, [.int log.errno, .str log.strerror, .str stmt.text], rfl⟩)
    pure ret
  else pure ret

/-- `SqlApi::update`. -/
def update (stmt : Stmt) : Proc SqlApi Int := do
  let ret ← SqlApi.update m stmt
  if ret ≠ 0 then do
    lift (log.print ⟨.sqlApi, 102, [.int log.errno, .str log.strerror, .str stmt.text], rfl⟩)
    pure ret
  else pure ret

namespace Register

/-- `Register::isAlreadyRegist`. -/
def isAlreadyRegist (userName : Text) : Proc SqlApi (Int × Bool) := do
  let ret ← select log m (.countRegist userName)
  if ret ≠ 0 then do
    lift (log.print ⟨.register, 60, [.str (Stmt.countRegist userName).text], rfl⟩)
    pure (-1, false)
  else do
    let mysqlResult ← SqlApi.getResult
    lift (assert (mysqlResult.rowsCount = 1))
    lift (assert (mysqlResult.fieldsCount = 1))
    let count ← SqlApi.field mysqlResult 0 0
    lift (log.print ⟨.register, 70, [.str userName, .int (readInt count)], rfl⟩)
    pure (0, readInt count ≠ 0)

/-- `Register::regist`. -/
def regist (userName passWord : Text) : Proc SqlApi Int := do
  let time ← SqlApi.time m
  let ret ← insert log m (.insertPassword userName passWord time)
  if ret ≠ 0 then do
    lift (log.print ⟨.register, 83, [.str (Stmt.insertPassword userName passWord time).text], rfl⟩)
    pure (-1)
  else pure 0

/-- `Register::processRegist`. -/
def processRegist (userName passWord : Text) (msg : Text) : Proc SqlApi Reply := do
  let r ← isAlreadyRegist log m userName
  if r.1 ≠ 0 then do
    lift (log.print ⟨.register, 22, [.str userName], rfl⟩)
    pure ⟨-1, .DB_OP_FAILED, ascii "system error: insert data into DB failed!"⟩
  else if r.2 then do
    lift (log.print ⟨.register, 30, [.str userName], rfl⟩)
    pure ⟨0, .ALREADY_REGIST, userName ++ ascii " already regist!"⟩
  else do
    let ret ← regist log m userName passWord
    if ret ≠ 0 then
      pure ⟨-1, .DB_OP_FAILED, ascii "system error: insert data into DB failed!"⟩
    else pure ⟨0, .SUCCESS, msg ++ ascii "regist success!"⟩

end Register

namespace Loginer

/-- `Loginer::isValidUserNameAndPassWord`. -/
def isValidUserNameAndPassWord (userName passWord : Text) : Proc SqlApi (Int × Bool) := do
  let ret ← select log m (.countPassword userName passWord)
  if ret ≠ 0 then do
    lift (log.print ⟨.loginer, 147, [.str (Stmt.countPassword userName passWord).text], rfl⟩)
    pure (-1, false)
  else do
    let mysqlResult ← SqlApi.getResult
    lift (assert (mysqlResult.rowsCount = 1))
    lift (assert (mysqlResult.fieldsCount = 1))
    let count ← SqlApi.field mysqlResult 0 0
    lift (log.print ⟨.loginer, 161,
      [.str userName, .str passWord, .int (if readInt count ≠ 0 then 1 else 0)], rfl⟩)
    pure (0, readInt count ≠ 0)

/-- `Loginer::isAlreadyLogined`. -/
def isAlreadyLogined (userName : Text) : Proc SqlApi Bool := do
  let ret ← select log m (.countLogined userName)
  if ret ≠ 0 then do
    lift (log.print ⟨.loginer, 174, [.str (Stmt.countLogined userName).text], rfl⟩)
    pure true
  else do
    let mysqlResult ← SqlApi.getResult
    lift (assert (mysqlResult.rowsCount = 1))
    lift (assert (mysqlResult.fieldsCount = 1))
    let count ← SqlApi.field mysqlResult 0 0
    lift (log.print ⟨.loginer, 186, [.str userName, .int (readInt count)], rfl⟩)
    pure (readInt count ≠ 0)

/-- `Loginer::login`. -/
def login (userName passWord : Text) (sendToClientFd : Int) : Proc SqlApi Int := do
  let time ← SqlApi.time m
  let ret ← insert log m (.insertLogin userName passWord sendToClientFd time)
  if ret ≠ 0 then do
    lift (log.print ⟨.loginer, 199, [.str (Stmt.insertLogin userName passWord sendToClientFd time).text], rfl⟩)
    pure (-1)
  else pure 0

/-- `Loginer::getAlreadyLoginedClientFd`.  `%d` takes the lower half of `fuiId`. -/
def getAlreadyLoginedClientFd (userName : Text) : Proc SqlApi (Int × Int × Nat) := do
  let ret ← select log m (.selectLogined userName)
  if ret ≠ 0 then do
    lift (log.print ⟨.loginer, 216, [.str (Stmt.selectLogined userName).text], rfl⟩)
    pure (-1, 0, 0)
  else do
    let mysqlResult ← SqlApi.getResult
    lift (assert (mysqlResult.rowsCount = 1))
    lift (assert (mysqlResult.fieldsCount = 2))
    let id ← SqlApi.field mysqlResult 0 0
    let fd ← SqlApi.field mysqlResult 0 1
    let fuiId : Nat := (readInt id % 2 ^ 64).toNat
    lift (log.print ⟨.loginer, 232, [.str userName, .int fuiId, .int (readInt fd)], rfl⟩)
    pure (0, readInt fd, fuiId)

/-- `Loginer::setLogoutStatusThenLogin`. -/
def setLogoutStatusThenLogin (fuiId : Nat) (userName passWord : Text) (sendToClientFd : Int) :
    Proc SqlApi Int := do
  let ret ← update log m (.updateStatus fuiId)
  if ret ≠ 0 then do
    lift (log.print ⟨.loginer, 260, [.str (Stmt.updateStatus fuiId).text], rfl⟩)
    pure (-1)
  else login log m userName passWord sendToClientFd

/-- `Loginer::processLogin`. -/
def processLogin (userName passWord : Text) (sendToClientFd : Int) : Proc SqlApi LoginReply := do
  let r ← isValidUserNameAndPassWord log m userName passWord
  if r.1 < 0 then do
    lift (log.print ⟨.loginer, 26, [.str userName, .str passWord], rfl⟩)
    pure ⟨⟨-1, .SYSTEM_ERROR, ascii "select DB data failed!"⟩, -1⟩
  else if !r.2 then do
    lift (log.print ⟨.loginer, 34, [.str userName, .str passWord], rfl⟩)
    pure ⟨⟨-1, .USERNAME_OR_PASSWD_ERROR, ascii "userName or passWord error!"⟩, -1⟩
  else do
    let logined ← isAlreadyLogined log m userName
    if !logined then do
      let ret ← login log m userName passWord sendToClientFd
      if ret ≠ 0 then do
        lift (log.print ⟨.loginer, 46, [.str userName, .str passWord, .int sendToClientFd], rfl⟩)
        pure ⟨⟨-1, .DB_OP_FAILED, ascii "system error: insert data into DB failed!"⟩, -1⟩
      else do
        lift (log.print ⟨.loginer, 84, [.str userName, .str passWord], rfl⟩)
        pure ⟨⟨0, .SUCCESS, ascii "login success!"⟩, -1⟩
    else do
      lift (log.print ⟨.loginer, 55, [.str userName], rfl⟩)
      let r ← getAlreadyLoginedClientFd log m userName
      if r.1 ≠ 0 then do
        lift (log.print ⟨.loginer, 63, [.str userName], rfl⟩)
        pure ⟨⟨-1, .SYSTEM_ERROR, ascii "system error: Get already logined client fd failed!"⟩, -1⟩
      else do
        let logoutFd := r.2.1
        let ret ← setLogoutStatusThenLogin log m r.2.2 userName passWord sendToClientFd
        if ret ≠ 0 then do
          lift (log.print ⟨.loginer, 76, [.str userName, .int r.2.2], rfl⟩)
          pure ⟨⟨-1, .SYSTEM_ERROR, ascii "system error: update DB data failed!"⟩, logoutFd⟩
        else do
          lift (log.print ⟨.loginer, 84, [.str userName, .str passWord], rfl⟩)
          pure ⟨⟨0, .SUCCESS, ascii "login success!"⟩, logoutFd⟩

/-- `Loginer::processLogout`. -/
def processLogout (userName : Text) : Proc SqlApi Reply := do
  let ret ← select log m (.selectLoginedId userName)
  if ret ≠ 0 then do
    lift (log.print ⟨.loginer, 99, [.str (Stmt.selectLoginedId userName).text], rfl⟩)
    pure ⟨-1, .DB_OP_FAILED, ascii "SYSTEM ERROR: select data from DB failed!"⟩
  else do
    let mysqlResult ← SqlApi.getResult
    if mysqlResult.rowsCount ≤ 0 then do
      lift (log.print ⟨.loginer, 112, [], rfl⟩)
      pure ⟨0, .SUCCESS, ascii "logout success!"⟩
    else do
      lift (assert (mysqlResult.fieldsCount = 1))
      let id ← SqlApi.field mysqlResult 0 0
      let ret ← update log m (.updateStatus (readInt id))
      if ret ≠ 0 then do
        lift (log.print ⟨.loginer, 128, [.str (Stmt.updateStatus (readInt id)).text], rfl⟩)
        pure ⟨-1, .DB_OP_FAILED, ascii "SYSTEM ERROR: update data to DB failed!"⟩
      else do
        lift (log.print ⟨.loginer, 134, [], rfl⟩)
        pure ⟨0, .SUCCESS, ascii "logout success!"⟩

end Loginer

/-- `UserLoginImpl::processLogin`. -/
def processLogin (receivedMessage : Text) : Proc Connection UserLoginImpl.Operation := do
  match ← lift (loginParameters log receivedMessage) with
  | none => pure { ret := -1 }
  | some (userName, passWord, clientFd) =>
    let r ← onCopy (Loginer.processLogin log m userName passWord clientFd)
    if r.ret ≠ 0 then do
      lift (log.print ⟨.userLoginImpl, 176, [], rfl⟩)
      pure { ret := -1, logoutFd := r.logoutFd, errcode := r.code, errmsg := r.msg }
    else pure { ret := 0, logoutFd := r.logoutFd, errcode := r.code, errmsg := r.msg }

/-- `UserLoginImpl::processLogout`. -/
def processLogout (receivedMessage : Text) : Proc Connection UserLoginImpl.Operation := do
  match ← lift (logoutParameters log receivedMessage) with
  | none => pure { ret := -1 }
  | some userName =>
    let r ← onCopy (Loginer.processLogout log m userName)
    if r.ret ≠ 0 then do
      lift (log.print ⟨.userLoginImpl, 208, [], rfl⟩)
      pure { ret := -1, errcode := r.code, errmsg := r.msg }
    else pure { ret := 0, errcode := r.code, errmsg := r.msg }

/-- `UserLoginImpl::processRegist`. -/
def processRegist (receivedMessage : Text) : Proc Connection UserLoginImpl.Operation := do
  match ← lift (registParameters log receivedMessage) with
  | none => pure { ret := -1 }
  | some (userName, passWord) =>
    let r ← onCopy (Register.processRegist log m userName passWord [])
    if r.ret ≠ 0 then do
      lift (log.print ⟨.userLoginImpl, 244, [], rfl⟩)
      pure { ret := -1, errcode := r.code, errmsg := r.msg }
    else pure { ret := 0, errcode := r.code, errmsg := r.msg }

end

/-! ### The receiver -/

section

variable (log : Log) (fdName : Int → Option Text) (write : Nat → Int → WriteOutcome)

/-- `DaemonBase::getFdName`, with `_fdName`. -/
def getFdName (fd : Int) : C Text :=
  match fdName fd with
  | none => do
    log.print ⟨.daemon, 56, [.int fd], rfl⟩
    .ok []
  | some name => .ok name

/-- The first half of `MessageReceiver::dealServiceResponse`. -/
def responseMembers (response : Text) : C (Option (Text × Int)) := do
  let responseJson ← parse response
  let msgItem ← getItem responseJson (ascii "msg")
  let extendInfoItem ← getItem responseJson (ascii "extendInfo")
  match msgItem, extendInfoItem with
  | some msgItem, some extendInfoItem =>
    assert (msgItem.type = .String)
    assert (extendInfoItem.type = .Object)
    match getObjectItem extendInfoItem (ascii "logoutFd") with
    | none =>
      printJson log .messageReceiver 119 (fun _ => rfl) responseJson
      .ok none
    | some logoutFdItem =>
      assert (logoutFdItem.type = .Number)
      let msg ← deref msgItem.valuestring
      .ok (some (msg, wrap32 logoutFdItem.valueint))
  | _, _ =>
    printJson log .messageReceiver 109 (fun _ => rfl) responseJson
    .ok none

/-- A write of the second half, with the line in front of it and the one for its failure: what it
returns. -/
def send (n : Nat) (fd : Int) (message : Text) (line failed : Int)
    (takes : ∀ name, Source.messageReceiver.takes line [.str name, .str message] = true)
    (takesError : Source.messageReceiver.takes failed [.int log.errno, .str log.strerror] = true) : C Int := do
  let name ← getFdName log fdName fd
  log.print ⟨.messageReceiver, line, [.str name, .str message], takes name⟩
  let ret ← (write n fd).ret
  if ret < 0 then do
    log.print ⟨.messageReceiver, failed, [.int log.errno, .str log.strerror], takesError⟩
    .ok (-1)
  else .ok 0

/-- The notice, if there is to be one. -/
def sendNotice (logoutFd : Int) : C Int :=
  if 0 < logoutFd then send log fdName write 0 logoutFd (ascii "logout") 131 135 (fun _ => rfl) rfl
  else .ok 0

/-- The second half: the notice, then the answer. -/
def sendResponse (sendToClientFd : Int) (msg : Text) (logoutFd : Int) : C Int := do
  let noticed ← sendNotice log fdName write logoutFd
  if noticed < 0 then .ok (-1)
  else send log fdName write 1 sendToClientFd msg 141 145 (fun _ => rfl) rfl

/-- `MessageReceiver::dealServiceResponse`. -/
def dealServiceResponse (sendToClientFd : Int) (response : Text) : C Int := do
  match ← responseMembers log response with
  | none => .ok (-1)
  | some (msg, logoutFd) => sendResponse log fdName write sendToClientFd msg logoutFd

end

/-! ## As far as they get -/

section

variable (log : Log)

theorem printJson_cutShort {source : Source} {line : Int} {takes : ∀ t, source.takes line [.str t] = true}
    {json : Option CJson} : CProgram.CutShort (printJson log source line takes json) (logJson json) := by
  rintro ⟨⟩ h
  obtain ⟨c, hc, h⟩ := bind_eq_ok.1 h
  obtain ⟨text, htext, -⟩ := bind_eq_ok.1 h
  rw [logJson, hc, ok_bind, htext]
  rfl

theorem getServiceFdAndMessage_cutShort (t : Text) :
    CProgram.CutShort (getServiceFdAndMessage log t) (MessageDispatcher.getServiceFdAndMessage t) := by
  refine .bind (.refl _) fun json => .bind (.refl _) fun item => ?_
  cases item with
  | none => exact .bind (printJson_cutShort log) fun _ => .refl _
  | some item =>
    refine .bind (.refl _) fun _ => ?_
    dsimp only
    cases MessageType.ofInt (wrap32 item.valueint) with
    | none => exact .bind (printJson_cutShort log) fun _ => .refl _
    | some type => exact .refl _

theorem getResponseMessage_cutShort (t : Text) (logoutFd code : Int) (msg : Text) :
    CProgram.CutShort (getResponseMessage log t logoutFd code msg)
      (UserLoginImpl.getResponseMessage t logoutFd code msg) := by
  refine .bind (.refl _) fun json => .bind (.refl _) fun c => ?_
  cases itemFrom c (ascii "extendInfo") with
  | nil => exact .bind (printJson_cutShort log) fun _ => .refl _
  | cons e next => exact .refl _

theorem getOperateType_cutShort (t : Text) :
    CProgram.CutShort (getOperateType log t) (UserLoginImpl.getOperateType t) := by
  refine .bind (.refl _) fun json => .bind (.refl _) fun item => ?_
  cases item with
  | none => exact .bind (printJson_cutShort log) fun _ => .refl _
  | some item => exact .refl _

theorem loginParameters_cutShort (t : Text) :
    CProgram.CutShort (loginParameters log t) (UserLoginImpl.loginParameters t) := by
  refine .bind (.refl _) fun json => .bind (.refl _) fun message => .bind (.refl _) fun e => ?_
  cases message with
  | none => exact .bind (printJson_cutShort log) fun _ => .refl _
  | some message =>
    cases e with
    | none => exact .bind (printJson_cutShort log) fun _ => .refl _
    | some e =>
      refine .bind (.refl _) fun _ => .bind (.refl _) fun _ => ?_
      cases getObjectItem message (ascii "userName") with
      | none => exact .bind (printJson_cutShort log) fun _ => .refl _
      | some user =>
        cases getObjectItem message (ascii "passWord") with
        | none => exact .bind (printJson_cutShort log) fun _ => .refl _
        | some pass =>
          cases getObjectItem e (ascii "clientFd") with
          | none => exact .bind (printJson_cutShort log) fun _ => .refl _
          | some fd => exact .refl _

theorem logoutParameters_cutShort (t : Text) :
    CProgram.CutShort (logoutParameters log t) (UserLoginImpl.logoutParameters t) := by
  refine .bind (.refl _) fun json => .bind (.refl _) fun message => ?_
  cases message with
  | none => exact .bind (printJson_cutShort log) fun _ => .refl _
  | some message =>
    refine .bind (.refl _) fun _ => ?_
    cases getObjectItem message (ascii "userName") with
    | none => exact .bind (printJson_cutShort log) fun _ => .refl _
    | some user => exact .refl _

theorem registParameters_cutShort (t : Text) :
    CProgram.CutShort (registParameters log t) (UserLoginImpl.registParameters t) := by
  refine .step (.bind (.refl _) fun json => .bind (.refl _) fun message => ?_)
  cases message with
  | none => exact .bind (printJson_cutShort log) fun _ => .refl _
  | some message =>
    refine .bind (.refl _) fun _ => ?_
    cases getObjectItem message (ascii "userName") with
    | none => exact .bind (printJson_cutShort log) fun _ => .refl _
    | some user =>
      cases getObjectItem message (ascii "passWord") with
      | none => exact .bind (printJson_cutShort log) fun _ => .refl _
      | some pass => exact .refl _

variable (m : Mysql)

/-- A statement whose failure is written to the log. -/
theorem failed_cutShort {x : Proc SqlApi Int} {line : C Unit} :
    Proc.CutShort (do
      let ret ← x
      if ret ≠ 0 then do
        lift line
        pure ret
      else pure ret) x := by
  intro s hreturns
  obtain ⟨ret, s', hx, hreturns⟩ := returns_bind_run_iff.1 hreturns
  rw [bind_run_ok hx, hx]
  by_cases hret : ret ≠ 0
  · rw [if_pos hret] at hreturns ⊢
    exact (Proc.CutShort.step (.refl _)) s' hreturns
  · rw [if_neg hret]
    rfl

theorem select_cutShort (stmt : Stmt) : Proc.CutShort (select log m stmt) (SqlApi.select m stmt) :=
  failed_cutShort

theorem insert_cutShort (stmt : Stmt) : Proc.CutShort (insert log m stmt) (SqlApi.insert m stmt) :=
  failed_cutShort

theorem update_cutShort (stmt : Stmt) : Proc.CutShort (update log m stmt) (SqlApi.update m stmt) :=
  failed_cutShort

/-- A count, with the lines for what is read and for a select that fails. -/
theorem count_cutShort {β : Type} {stmt : Stmt} {bad bad' : Proc SqlApi β} {k k' : Text → Proc SqlApi β}
    (hbad : Proc.CutShort bad bad') (hk : ∀ count, Proc.CutShort (k count) (k' count)) :
    Proc.CutShort (do
      let ret ← select log m stmt
      if ret ≠ 0 then bad
      else do
        let mysqlResult ← SqlApi.getResult
        lift (assert (mysqlResult.rowsCount = 1))
        lift (assert (mysqlResult.fieldsCount = 1))
        let count ← SqlApi.field mysqlResult 0 0
        k count)
      (do
      let ret ← SqlApi.select m stmt
      if ret ≠ 0 then bad'
      else do
        let mysqlResult ← SqlApi.getResult
        lift (assert (mysqlResult.rowsCount = 1))
        lift (assert (mysqlResult.fieldsCount = 1))
        let count ← SqlApi.field mysqlResult 0 0
        k' count) := by
  refine .bind (select_cutShort log m stmt) fun ret => .ite hbad (.bind (.refl _) fun r => ?_)
  exact .bind (.refl _) fun _ => .bind (.refl _) fun _ => .bind (.refl _) hk

namespace Register

theorem isAlreadyRegist_cutShort (u : Text) :
    Proc.CutShort (isAlreadyRegist log m u) (SingleTerminalLogin.Register.isAlreadyRegist m u) :=
  count_cutShort log m (.step (.refl _)) fun _ => .step (.refl _)

theorem regist_cutShort (u p : Text) :
    Proc.CutShort (regist log m u p) (SingleTerminalLogin.Register.regist m u p) :=
  .bind (.refl _) fun _ => .bind (insert_cutShort log m _) fun _ => .ite (.step (.refl _)) (.refl _)

theorem processRegist_cutShort (u p msg : Text) :
    Proc.CutShort (processRegist log m u p msg) (SingleTerminalLogin.Register.processRegist m u p msg) := by
  refine .bind (isAlreadyRegist_cutShort log m u) fun r => .ite (.step (.refl _)) ?_
  refine .ite (.step (.refl _)) (.bind (regist_cutShort log m u p) fun ret => ?_)
  exact .ite (.refl _) (.refl _)

end Register

namespace Loginer

theorem isValidUserNameAndPassWord_cutShort (u p : Text) :
    Proc.CutShort (isValidUserNameAndPassWord log m u p)
      (SingleTerminalLogin.Loginer.isValidUserNameAndPassWord m u p) :=
  count_cutShort log m (.step (.refl _)) fun _ => .step (.refl _)

theorem isAlreadyLogined_cutShort (u : Text) :
    Proc.CutShort (isAlreadyLogined log m u) (SingleTerminalLogin.Loginer.isAlreadyLogined m u) :=
  count_cutShort log m (.step (.refl _)) fun _ => .step (.refl _)

theorem login_cutShort (u p : Text) (fd : Int) :
    Proc.CutShort (login log m u p fd) (SingleTerminalLogin.Loginer.login m u p fd) :=
  .bind (.refl _) fun _ => .bind (insert_cutShort log m _) fun _ => .ite (.step (.refl _)) (.refl _)

theorem getAlreadyLoginedClientFd_cutShort (u : Text) :
    Proc.CutShort (getAlreadyLoginedClientFd log m u)
      (SingleTerminalLogin.Loginer.getAlreadyLoginedClientFd m u) := by
  refine .bind (select_cutShort log m _) fun ret => .ite (.step (.refl _)) (.bind (.refl _) fun r => ?_)
  refine .bind (.refl _) fun _ => .bind (.refl _) fun _ => .bind (.refl _) fun id => .bind (.refl _) fun fd => ?_
  exact .step (.refl _)

theorem setLogoutStatusThenLogin_cutShort (id : Nat) (u p : Text) (fd : Int) :
    Proc.CutShort (setLogoutStatusThenLogin log m id u p fd)
      (SingleTerminalLogin.Loginer.setLogoutStatusThenLogin m id u p fd) :=
  .bind (update_cutShort log m _) fun _ => .ite (.step (.refl _)) (login_cutShort log m u p fd)

theorem processLogin_cutShort (u p : Text) (fd : Int) :
    Proc.CutShort (processLogin log m u p fd) (SingleTerminalLogin.Loginer.processLogin m u p fd) := by
  refine .bind (isValidUserNameAndPassWord_cutShort log m u p) fun r => .ite (.step (.refl _)) ?_
  refine .ite (.step (.refl _)) (.bind (isAlreadyLogined_cutShort log m u) fun logined => .ite ?_ (.step ?_))
  · refine .bind (login_cutShort log m u p fd) fun ret => ?_
    exact .ite (.step (.refl _)) (.step (.refl _))
  · refine .bind (getAlreadyLoginedClientFd_cutShort log m u) fun r => .ite (.step (.refl _)) ?_
    refine .bind (setLogoutStatusThenLogin_cutShort log m _ u p fd) fun ret => ?_
    exact .ite (.step (.refl _)) (.step (.refl _))

theorem processLogout_cutShort (u : Text) :
    Proc.CutShort (processLogout log m u) (SingleTerminalLogin.Loginer.processLogout m u) := by
  refine .bind (select_cutShort log m _) fun ret => .ite (.step (.refl _)) (.bind (.refl _) fun r => ?_)
  refine .ite (.step (.refl _)) (.bind (.refl _) fun _ => .bind (.refl _) fun id => ?_)
  exact .bind (update_cutShort log m _) fun ret => .ite (.step (.refl _)) (.step (.refl _))

end Loginer

theorem onCopy_cutShort {α : Type} {x y : Proc SqlApi α} (h : Proc.CutShort x y) :
    Proc.CutShort (onCopy x) (onCopy y) := by
  intro conn hreturns
  show ((y { connection := conn }).1, (y { connection := conn }).2.connection) = _
  rw [h _ hreturns]
  rfl

theorem processLogin_cutShort (t : Text) :
    Proc.CutShort (processLogin log m t) (UserLoginImpl.processLogin m t) := by
  refine .bind (.lift (loginParameters_cutShort log t)) fun a => ?_
  rcases a with _ | ⟨u, p, fd⟩
  · exact .refl _
  · refine .bind (onCopy_cutShort (Loginer.processLogin_cutShort log m u p fd)) fun r => ?_
    by_cases hret : r.ret ≠ 0
    · simp only [if_pos hret]
      exact .step (.refl _)
    · simp only [if_neg hret]
      exact .refl _

theorem processLogout_cutShort (t : Text) :
    Proc.CutShort (processLogout log m t) (UserLoginImpl.processLogout m t) := by
  refine .bind (.lift (logoutParameters_cutShort log t)) fun a => ?_
  cases a with
  | none => exact .refl _
  | some u =>
    refine .bind (onCopy_cutShort (Loginer.processLogout_cutShort log m u)) fun r => ?_
    by_cases hret : r.ret ≠ 0
    · simp only [if_pos hret]
      exact .step (.refl _)
    · simp only [if_neg hret]
      exact .refl _

theorem processRegist_cutShort (t : Text) :
    Proc.CutShort (processRegist log m t) (UserLoginImpl.processRegist m t) := by
  refine .bind (.lift (registParameters_cutShort log t)) fun a => ?_
  rcases a with _ | ⟨u, p⟩
  · exact .refl _
  · refine .bind (onCopy_cutShort (Register.processRegist_cutShort log m u p [])) fun r => ?_
    by_cases hret : r.ret ≠ 0
    · simp only [if_pos hret]
      exact .step (.refl _)
    · simp only [if_neg hret]
      exact .refl _

theorem responseMembers_cutShort (response : Text) :
    CProgram.CutShort (responseMembers log response) (MessageReceiver.responseMembers response) := by
  refine .bind (.refl _) fun json => .bind (.refl _) fun msg => .bind (.refl _) fun e => ?_
  cases msg with
  | none => exact .bind (printJson_cutShort log) fun _ => .refl _
  | some msg =>
    cases e with
    | none => exact .bind (printJson_cutShort log) fun _ => .refl _
    | some e =>
      refine .bind (.refl _) fun _ => .bind (.refl _) fun _ => ?_
      cases getObjectItem e (ascii "logoutFd") with
      | none => exact .bind (printJson_cutShort log) fun _ => .refl _
      | some d => exact .refl _

variable (fdName : Int → Option Text) (write : Nat → Int → WriteOutcome)

variable {fdName write} in
theorem send_eq_ok {n : Nat} {fd line failed ret : Int} {message : Text}
    {takes : ∀ name, Source.messageReceiver.takes line [.str name, .str message] = true}
    {takesError : Source.messageReceiver.takes failed [.int log.errno, .str log.strerror] = true}
    (h : send log fdName write n fd message line failed takes takesError = .ok ret) :
    write n fd = .done ∧ ret = 0 ∨ write n fd = .failed ∧ ret = -1 := by
  obtain ⟨name, -, h⟩ := bind_eq_ok.1 h
  obtain ⟨-, -, h⟩ := bind_eq_ok.1 h
  obtain ⟨written, hwrite, h⟩ := bind_eq_ok.1 h
  cases houtcome : write n fd with
  | done =>
    rw [houtcome] at hwrite
    cases hwrite
    rw [if_neg (by decide)] at h
    cases h
    exact Or.inl ⟨rfl, rfl⟩
  | failed =>
    rw [houtcome] at hwrite
    cases hwrite
    rw [if_pos (by decide)] at h
    obtain ⟨-, -, h⟩ := bind_eq_ok.1 h
    cases h
    exact Or.inr ⟨rfl, rfl⟩
  | killed =>
    rw [houtcome] at hwrite
    cases hwrite

theorem sendResponse_cutShort (fd : Int) (msg : Text) (logoutFd : Int) :
    CProgram.CutShort (sendResponse log fdName write fd msg logoutFd)
      (MessageReceiver.sendResponse write fd msg logoutFd).ret := by
  intro ret h
  obtain ⟨noticed, hnotice, h⟩ := bind_eq_ok.1 h
  have hanswer : ∀ notice, noticed = 0 → (if write 1 fd = .done then (⟨.ok 0, notice, some msg⟩ : MessageReceiver.Sent)
      else ⟨(write 1 fd).ret, notice, none⟩).ret = .ok ret := by
    rintro notice rfl
    rw [if_neg (by decide)] at h
    rcases send_eq_ok log h with ⟨hwrite, rfl⟩ | ⟨hwrite, rfl⟩ <;> rw [hwrite] <;> rfl
  unfold MessageReceiver.sendResponse
  unfold sendNotice at hnotice
  by_cases hpos : 0 < logoutFd
  · rw [if_pos hpos] at hnotice ⊢
    rcases send_eq_ok log hnotice with ⟨hwrite, rfl⟩ | ⟨hwrite, rfl⟩
    · rw [if_pos hwrite]
      exact hanswer (some logoutFd) rfl
    · rw [if_pos (by decide)] at h
      cases h
      rw [if_neg (by rw [hwrite]; exact WriteOutcome.noConfusion), hwrite]
      rfl
  · rw [if_neg hpos] at hnotice ⊢
    cases hnotice
    exact hanswer none rfl

theorem dealServiceResponse_cutShort (fd : Int) (response : Text) :
    CProgram.CutShort (dealServiceResponse log fdName write fd response)
      (MessageReceiver.dealServiceResponse write fd response >>= MessageReceiver.Sent.ret) := by
  rw [MessageReceiver.dealServiceResponse, bind_assoc]
  refine .bind (responseMembers_cutShort log response) fun members => ?_
  cases members with
  | none => exact .refl _
  | some members => exact sendResponse_cutShort log fdName write fd members.1 members.2

end

end Logged

end SingleTerminalLogin
