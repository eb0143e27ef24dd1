import SingleTerminalLogin.Daemon.EventLoop
import SingleTerminalLogin.Lib.Printf

/-!
# The log

Every log call puts its line together in an array on the stack,
`mylib/mylib_log/logrecord.c`, with `sprintf` and `vsprintf` at the end of what is there.

* `LR_Error_Core`, `LR_LOG` — a log call, as the source has it;
* `LogSite`, `LogCall` — the log calls on the way of a received message through the event
  loop and the three services;
* `LR_Error_Core_writes` — the line that is written when it fits;
* `log_line_fits_iff` — it fits exactly when its parts are short enough together.
-/

namespace SingleTerminalLogin

open ByteText CProgram Printf

def LR_MAX_STRING_LEN : Nat := 10240

/-- The levels, with the names of `LRLevelName`. -/
inductive LRLevel where
  | NOLOG
  | DEBUG
  | INFO
  | WARNING
  | ERROR
  deriving DecidableEq

def LRLevel.name : LRLevel → Text
  | NOLOG => ascii "NOLOG"
  | DEBUG => ascii "DEBUG"
  | INFO => ascii "INFO"
  | WARNING => ascii "WARNING"
  | ERROR => ascii "ERROR"

/-- `LR_Error_Core`: what is written to the log file, which may fail to open.  `now` is the
time `LR_Error_GetCurTime` has put into `tmpStr`. -/
def LR_Error_Core (now : Text) (opened : Bool) (file : Text) (line : Int) (level : LRLevel) (fmt : Text)
    (args : List Arg) : C (Option Text) := do
  let str := CArray.fill LR_MAX_STRING_LEN 0
  let (str, tmpStrLen) ← sprintf str 0 (ascii "[%s]") [.str now]
  let strLen := tmpStrLen
  let (str, tmpStrLen) ← sprintf str strLen (ascii "[%s") [.str file]
  let strLen := strLen + tmpStrLen
  let (str, tmpStrLen) ← sprintf str strLen (ascii " :%d]") [.int line]
  let strLen := strLen + tmpStrLen
  let (str, tmpStrLen) ← sprintf str strLen (ascii "[%s]: ") [.str level.name]
  let strLen := strLen + tmpStrLen
  let (str, tmpStrLen) ← sprintf str strLen fmt args
  let strLen := strLen + tmpStrLen
  let (str, tmpStrLen) ← sprintf str strLen (ascii "\n") []
  let strLen := strLen + tmpStrLen
  if opened then .ok (some (str.elems.take strLen)) else .ok none

/-- `LR_LOG`. -/
def LR_LOG (now : Text) (opened : Bool) (file : Text) (line : Int) (level : LRLevel) (fmt : Text)
    (args : List Arg) : C (Option Text) :=
  if level = .NOLOG then .ok none else LR_Error_Core now opened file line level fmt args

/-! ## The line -/

section

variable {now file fmt message : Text} {opened : Bool} {line : Int} {level : LRLevel} {args : List Arg}

/-- The formats of a line, with their arguments. -/
def lineCalls (now file : Text) (line : Int) (level : LRLevel) (fmt : Text) (args : List Arg) :
    List (Text × List Arg) :=
  [(ascii "[%s]", [.str now]), (ascii "[%s", [.str file]), (ascii " :%d]", [.int line]),
    (ascii "[%s]: ", [.str level.name]), (fmt, args), (ascii "\n", [])]

/-- Their texts. -/
def lineTexts (now file : Text) (line : Int) (level : LRLevel) (message : Text) : List Text :=
  [ascii "[" ++ (cstr now ++ ascii "]"), ascii "[" ++ cstr file,
    ascii " :" ++ (intText (wrap32 line) ++ ascii "]"), ascii "[" ++ (level.name ++ ascii "]: "), message,
    ascii "\n"]

theorem cstr_name (level : LRLevel) : cstr level.name = level.name := by
  cases level <;> rfl

theorem lineCalls_texts (h : vformat fmt args = .ok message) :
    List.Forall₂ (fun call t => vformat call.1 call.2 = .ok t) (lineCalls now file line level fmt args)
      (lineTexts now file line level message) := by
  have hfile : vformat (ascii "[%s") [.str file] = .ok (ascii "[" ++ cstr file) := by
    show Except.ok (ascii "[" ++ (cstr file ++ [])) = _
    rw [List.append_nil]
  have hname : vformat (ascii "[%s]: ") [.str level.name] = .ok (ascii "[" ++ (level.name ++ ascii "]: ")) := by
    show Except.ok (ascii "[" ++ (cstr level.name ++ ascii "]: ")) = _
    rw [cstr_name]
  exact .cons rfl (.cons hfile (.cons rfl (.cons hname (.cons h (.cons rfl .nil)))))

theorem LR_Error_Core_eq : LR_Error_Core now opened file line level fmt args =
    sprintfs (CArray.fill LR_MAX_STRING_LEN 0) 0 (lineCalls now file line level fmt args) >>= fun r =>
      if opened then .ok (some (r.1.elems.take r.2)) else .ok none := by
  simp only [LR_Error_Core, lineCalls, sprintfs, Nat.zero_add, bind_assoc, ok_bind]

/-- The length of a line. -/
theorem lineTexts_length : (lineTexts now file line level message).flatten.length =
    (cstr now).length + (cstr file).length + (intText (wrap32 line)).length + level.name.length +
      message.length + 11 := by
  simp only [lineTexts, List.flatten_cons, List.flatten_nil, List.length_append, List.length_nil]
  have h1 : (ascii "[").length = 1 := rfl
  have h2 : (ascii "]").length = 1 := rfl
  have h3 : (ascii " :").length = 2 := rfl
  have h4 : (ascii "]: ").length = 3 := rfl
  have h5 : (ascii "\n").length = 1 := rfl
  omega

theorem returns_LR_Error_Core_iff (h : vformat fmt args = .ok message) :
    Returns (LR_Error_Core now opened file line level fmt args) ↔
      (cstr now).length + (cstr file).length + (intText (wrap32 line)).length + level.name.length +
        message.length + 11 < LR_MAX_STRING_LEN := by
  have hfits : Returns (sprintfs (CArray.fill LR_MAX_STRING_LEN 0) 0 (lineCalls now file line level fmt args)) ↔
      0 + (lineTexts now file line level message).flatten.length + 1 ≤ LR_MAX_STRING_LEN :=
    returns_sprintfs_iff (lineCalls_texts h) (List.cons_ne_nil _ _)
  rw [lineTexts_length, Nat.zero_add] at hfits
  rw [LR_Error_Core_eq, returns_bind_iff, ← Nat.succ_le_iff, ← hfits]
  constructor
  · rintro ⟨r, hr, -⟩
    exact ⟨r, hr⟩
  · rintro ⟨r, hr⟩
    refine ⟨r, hr, ?_⟩
    cases opened <;> exact returns_ok _

/-- The line that is written. -/
theorem LR_Error_Core_writes (h : vformat fmt args = .ok message)
    (hfits : (lineTexts now file line level message).flatten.length < LR_MAX_STRING_LEN) :
    LR_Error_Core now true file line level fmt args =
      .ok (some (lineTexts now file line level message).flatten) := by
  have hroom : 0 + (lineTexts now file line level message).flatten.length + 1 ≤ LR_MAX_STRING_LEN := by
    rw [Nat.zero_add]
    exact hfits
  obtain ⟨b, hb, hline⟩ := @sprintfs_fits _ (CArray.fill LR_MAX_STRING_LEN 0) 0 _ _
    (@lineCalls_texts now file fmt message line level args h) hroom
  rw [LR_Error_Core_eq, hb, ok_bind, if_pos rfl, hline]
  rfl

end

/-! ## The log calls -/

/-- A log call in the source: its line, its level and its format. -/
structure LogSite where
  line : Int
  level : LRLevel
  fmt : Text
  deriving DecidableEq

/-- `mylib_daemon/daemon.cpp`. -/
def DaemonBase.logs : List LogSite :=
  [⟨56, .ERROR, ascii "not found fd! fd:%d"⟩,
    ⟨141, .ERROR, ascii "epoll_ctl failed! errno:%d, errmsg:%s"⟩,
    ⟨193, .ERROR, ascii "read failed! ret:%d, errno:%d, errmsg:%s"⟩,
    ⟨205, .ERROR, ascii "epoll_ctl failed! ret:%d, errno:%d, errmsg:%s"⟩,
    ⟨216, .INFO, ascii "remote:%s, recv message:%s"⟩,
    ⟨225, .ERROR, ascii "epoll_ctl failed! ret:%d, errno:%d, errmsg:%s"⟩,
    ⟨244, .ERROR, ascii "dealClientMessage failed! ret:%d"⟩,
    ⟨257, .ERROR, ascii "epollCtl failed! errno:%d, errmsg:%s"⟩]

/-- `messageReceiver.cpp`. -/
def MessageReceiver.logs : List LogSite :=
  [⟨50, .INFO, ascii "sendTo:%s, code:%d, needSendMessage:%s"⟩,
    ⟨56, .ERROR, ascii "write failed! errno:%d, errmsg:%s"⟩,
    ⟨65, .ERROR, ascii "read failed! errno:%d, errmsg:%s"⟩,
    ⟨71, .INFO, ascii "response:%s"⟩,
    ⟨76, .ERROR, ascii "dealServiceResponse failed!"⟩,
    ⟨109, .ERROR, ascii "not found msg or extendInfo item from json! json:%s"⟩,
    ⟨119, .ERROR, ascii "not found logoutFdItem item from json! json:%s"⟩,
    ⟨131, .INFO, ascii "sendTo:%s, message:%s"⟩,
    ⟨135, .ERROR, ascii "write failed! errno:%d, errmsg:%s"⟩,
    ⟨141, .INFO, ascii "sendTo:%s, message:%s"⟩,
    ⟨145, .ERROR, ascii "write failed! errno:%d, errmsg:%s"⟩]

/-- `messageDispatcher.cpp`. -/
def MessageDispatcher.logs : List LogSite :=
  [⟨63, .ERROR, ascii "getServiceFdAndMessage failed"⟩,
    ⟨67, .INFO, ascii "request:%s"⟩,
    ⟨71, .ERROR, ascii "write failed! errno:%d, errmsg:%s"⟩,
    ⟨80, .ERROR, ascii "read failed! errno:%d, errmsg:%s"⟩,
    ⟨86, .INFO, ascii "response:%s"⟩,
    ⟨88, .INFO, ascii "sendTo:%s, message:%s"⟩,
    ⟨92, .ERROR, ascii "write failed! errno:%d, errmsg:%s"⟩,
    ⟨108, .ERROR, ascii "not found messageType item from json! json:%s"⟩,
    ⟨122, .ERROR, ascii "dealLogin failed"⟩,
    ⟨130, .ERROR, ascii "messageType in json is illegal! json:%s"⟩,
    ⟨143, .ERROR, ascii "not found fd! service enum:%d"⟩]

/-- `userLoginImpl.cpp`. -/
def UserLoginImpl.logs : List LogSite :=
  [⟨22, .INFO, ascii "receivedMessage:%s"⟩,
    ⟨32, .ERROR, ascii "getOperateType failed!"⟩,
    ⟨67, .ERROR, ascii "operateType is illegal! operateType:%d"⟩,
    ⟨82, .INFO, ascii "need send message:%s"⟩,
    ⟨86, .ERROR, ascii "write failed! errno:%d, errmsg:%s"⟩,
    ⟨110, .ERROR, ascii "not found extendInfo item from json! json:%s"⟩,
    ⟨132, .ERROR, ascii "not found operateType item from json! json:%s"⟩,
    ⟨149, .ERROR, ascii "not found message or extendInfo item from json! json:%s"⟩,
    ⟨161, .ERROR, ascii "not found userName or passWord or clientFd item from json! json:%s"⟩,
    ⟨176, .ERROR, ascii "loginer.processLogin failed!"⟩,
    ⟨189, .ERROR, ascii "not found message item from json! json:%s"⟩,
    ⟨197, .ERROR, ascii "not found userName item from json! json:%s"⟩,
    ⟨208, .ERROR, ascii "loginer.processLogout failed!"⟩,
    ⟨217, .INFO, ascii "get in processRegist............."⟩,
    ⟨222, .ERROR, ascii "not found message item from json! json:%s"⟩,
    ⟨231, .ERROR, ascii "not found userName or passWord item from json! json:%s"⟩,
    ⟨244, .ERROR, ascii "myRegister.processRegist failed!"⟩]

/-- `loginManager/login/loginer.cpp`, without `noticeLogout`, which nothing calls. -/
def Loginer.logs : List LogSite :=
  [⟨26, .ERROR, ascii "isValidUserNameAndPassWord failed! userName:%s, passWord:%s"⟩,
    ⟨34, .ERROR, ascii "userName or passWord error! userName:%s, passWord:%s"⟩,
    ⟨46, .ERROR, ascii "login failed! userName:%s, passWord:%s, sendToClientFd:%d"⟩,
    ⟨55, .INFO, ascii "userName already logined! Force other logged in devices to exit, and then log in to the device! userName:%s"⟩,
    ⟨63, .ERROR, ascii "getAlreadyLoginedClientFd failed! userName:%s"⟩,
    ⟨76, .ERROR, ascii "setLogoutStatusThenLogin failed! userName:%s, FuiId:%d"⟩,
    ⟨84, .INFO, ascii "userName:%s, passWord:%s login success!"⟩,
    ⟨99, .ERROR, ascii "select failed! select string:%s"⟩,
    ⟨112, .INFO, ascii "already logout! just return success."⟩,
    ⟨128, .ERROR, ascii "update failed! update string:%s"⟩,
    ⟨134, .INFO, ascii "logout success!"⟩,
    ⟨147, .ERROR, ascii "select failed! select string:%s"⟩,
    ⟨161, .INFO, ascii "userName:%s, passWord:%s, isValid:%d"⟩,
    ⟨174, .ERROR, ascii "select failed! select string:%s"⟩,
    ⟨186, .INFO, ascii "userName:%s, status =1 count:%d"⟩,
    ⟨199, .ERROR, ascii "insert failed! insert string:%s"⟩,
    ⟨216, .ERROR, ascii "select failed! select string:%s"⟩,
    ⟨232, .INFO, ascii "userName:%s, FuiId:%d, send to client fd:%d"⟩,
    ⟨260, .ERROR, ascii "update failed! update string:%s"⟩]

/-- `loginManager/regist/register.cpp`. -/
def Register.logs : List LogSite :=
  [⟨22, .INFO, ascii "isAlreadyRegist failed! userName:%s"⟩,
    ⟨30, .INFO, ascii "[%s] already regist!"⟩,
    ⟨60, .ERROR, ascii "select failed! select string:%s"⟩,
    ⟨70, .INFO, ascii "userName:%s, count(1):%d"⟩,
    ⟨83, .ERROR, ascii "insert failed! insert string:%s"⟩]

/-- `mylib_sql/sqlApi.cpp`, once it is connected. -/
def SqlApi.logs : List LogSite :=
  [⟨61, .ERROR, ascii "mysql_query failed! errno:%d, errmsg:%s, selectString:%s"⟩,
    ⟨69, .ERROR, ascii "mysql_store_result failed! errno:%d, errmsg:%s, selectString:%s"⟩,
    ⟨91, .ERROR, ascii "mysql_query failed! errno:%d, errmsg:%s, insertString:%s"⟩,
    ⟨102, .ERROR, ascii "mysql_query failed! errno:%d, errmsg:%s, updateString:%s"⟩]

/-- The log calls between a `read` of a service and the end of the handling of what it
returned. -/
def logSites : List LogSite :=
  DaemonBase.logs ++ MessageReceiver.logs ++ MessageDispatcher.logs ++ UserLoginImpl.logs ++
    Loginer.logs ++ Register.logs ++ SqlApi.logs

/-- One of them, with the name of its file as it was compiled and the arguments it asks
for. -/
structure LogCall where
  site : LogSite
  known : site ∈ logSites
  file : Text
  args : List Arg
  takes : Takes (pieces site.fmt) args = true

namespace LogCall

/-- The call, at a time and with a log file that can be opened or not. -/
def run (call : LogCall) (now : Text) (opened : Bool) : C (Option Text) :=
  LR_LOG now opened call.file call.site.line call.site.level call.site.fmt call.args

/-- The bytes of the format and those of the arguments. -/
def messageLength (call : LogCall) : Nat := litLength (pieces call.site.fmt) + argLength call.args

end LogCall

theorem level_of_mem_logSites {site : LogSite} (h : site ∈ logSites) : site.level ≠ .NOLOG := by
  revert site
  decide

/-- Every log call on the way of a message stays inside the array its line is put together
in, exactly when the time, the file name, the line number, the level, the bytes of the
format and the arguments are short enough together. -/
theorem log_line_fits_iff (call : LogCall) (now : Text) (opened : Bool) :
    Returns (call.run now opened) ↔
      (cstr now).length + (cstr call.file).length + (intText (wrap32 call.site.line)).length +
        call.site.level.name.length + call.messageLength + 11 < LR_MAX_STRING_LEN := by
  obtain ⟨message, hmessage, hlength⟩ := vformat_length call.takes
  rw [LogCall.run, LR_LOG, if_neg (level_of_mem_logSites call.known), returns_LR_Error_Core_iff hmessage,
    hlength]
  rfl

/-- The log call of `DaemonBase::dealReadEvent` for what it has read. -/
def DaemonBase.recvMessage (file name message : Text) : LogCall where
  site := ⟨216, .INFO, ascii "remote:%s, recv message:%s"⟩
  known := by decide
  file := file
  args := [.str name, .str message]
  takes := rfl

/-- A message that fits the buffer it is read into may be too long for its log line. -/
theorem recvMessage_fits_iff {file name message now : Text} {opened : Bool} :
    Returns ((DaemonBase.recvMessage file name message).run now opened) ↔
      (cstr now).length + (cstr file).length + (cstr name).length + (cstr message).length + 40 <
        LR_MAX_STRING_LEN := by
  obtain ⟨text, htext, hlength⟩ := vformat_length (DaemonBase.recvMessage file name message).takes
  have hlit : litLength (pieces (ascii "remote:%s, recv message:%s")) = 22 := by decide
  have hline : (intText (wrap32 216)).length = 3 := by decide
  have hlevel : LRLevel.INFO.name.length = 4 := by decide
  have hargs : argLength [.str name, .str message] = (cstr name).length + (cstr message).length := by
    simp [argLength, Arg.text]
  rw [LogCall.run, LR_LOG, if_neg (level_of_mem_logSites (DaemonBase.recvMessage file name message).known),
    returns_LR_Error_Core_iff htext, hlength]
  simp only [DaemonBase.recvMessage, hlit, hline, hlevel, hargs]
  constructor <;> intro h <;> omega

/-- A message of 10239 bytes. -/
theorem recvMessage_overruns : ¬ ∀ (call : LogCall) (now : Text) (opened : Bool), Returns (call.run now opened) := by
  intro hall
  have hnul : NoNul (List.replicate 10239 97) := by
    intro c hc
    rw [List.eq_of_mem_replicate hc]
    decide
  have hfits := recvMessage_fits_iff.1
    (hall (DaemonBase.recvMessage (ascii "daemon.cpp") (ascii "CLIENT 1") (List.replicate 10239 97))
      (ascii "2024.01.01 00:00:00") true)
  rw [cstr_eq_self hnul, List.length_replicate, LR_MAX_STRING_LEN] at hfits
  omega

end SingleTerminalLogin
