import SingleTerminalLogin.CJson.Print

/-!
# `MessageReceiver`

The front of the system, `service/messageReceiver/messageReceiver.cpp`: it adds
the client's descriptor to a request before it passes it on, and it turns the
response of the login manager into writes.

A `LOG_ERROR` that prints a tree is kept: the printing can fail.
-/

namespace SingleTerminalLogin

open ByteText Binary64 CProgram CJson

/-- `cJSON_GetObjectItem` on a pointer that may be null. -/
def getItem (object : Option CJson) (string : Text) : C (Option CJson) := do
  let object ← deref object
  .ok (getObjectItem object string)

/-- `LOG_ERROR("…", cJSON_PrintUnformatted(json))`. -/
def logJson (json : Option CJson) : C Unit := do
  let json ← deref json
  let _ ← print json
  .ok ()

/-- What comes of a `write` to a socket. -/
inductive WriteOutcome where
  | done
  /-- The call returns -1. -/
  | failed
  /-- The other end is closed: `SIGPIPE`, which no service handles. -/
  | killed
  deriving DecidableEq

/-- What the function that wrote last returns. -/
def WriteOutcome.ret : WriteOutcome → C Int
  | .done => .ok 0
  | .failed => .ok (-1)
  | .killed => .error .killed

namespace MessageReceiver

/-- `extendInfo` with the descriptor of the client in it. -/
def extendInfo (sendToClientFd : Int) : CJson :=
  addNumberToObject createObject (ascii "clientFd") sendToClientFd

/-- `MessageReceiver::getNeedSendMessage`. -/
def getNeedSendMessage (receivedMessage : Text) (sendToClientFd : Int) : C Text := do
  let messageJson ← deref (← parse receivedMessage)
  print (addItemToObject messageJson (ascii "extendInfo") (extendInfo sendToClientFd) [])

/-- The first half of `MessageReceiver::dealServiceResponse`: `msg` and `logoutFd`
out of a response, or nothing when a member is missing. -/
def responseMembers (response : Text) : C (Option (Text × Int)) := do
  let responseJson ← parse response
  let msgItem ← getItem responseJson (ascii "msg")
  let extendInfoItem ← getItem responseJson (ascii "extendInfo")
  match msgItem, extendInfoItem with
  | some msgItem, some extendInfoItem =>
    assert (msgItem.type = .String)
    assert (extendInfoItem.type = .Object)
    match getObjectItem extendInfoItem (ascii "logoutFd") with
    | none =>
      logJson responseJson
      .ok none
    | some logoutFdItem =>
      assert (logoutFdItem.type = .Number)
      let msg ← deref msgItem.valuestring
      .ok (some (msg, wrap32 logoutFdItem.valueint))
  | _, _ =>
    logJson responseJson
    .ok none

/-- What came of a response: the return value, the descriptor `logout` was written
to and the text that was written to the client. -/
structure Sent where
  ret : C Int
  notice : Option Int
  answer : Option Text
  deriving DecidableEq

/-- The second half: the notice, then the answer.  `write n fd` is what comes of the
write of that number, the notice or the answer, on that descriptor. -/
def sendResponse (write : Nat → Int → WriteOutcome) (sendToClientFd : Int) (msg : Text)
    (logoutFd : Int) : Sent :=
  if 0 < logoutFd then
    if write 0 logoutFd = .done then
      if write 1 sendToClientFd = .done then ⟨.ok 0, some logoutFd, some msg⟩
      else ⟨(write 1 sendToClientFd).ret, some logoutFd, none⟩
    else ⟨(write 0 logoutFd).ret, none, none⟩
  else if write 1 sendToClientFd = .done then ⟨.ok 0, none, some msg⟩
  else ⟨(write 1 sendToClientFd).ret, none, none⟩

/-- `MessageReceiver::dealServiceResponse`. -/
def dealServiceResponse (write : Nat → Int → WriteOutcome) (sendToClientFd : Int) (response : Text) :
    C Sent := do
  match ← responseMembers response with
  | none => .ok ⟨.ok (-1), none, none⟩
  | some (msg, logoutFd) => .ok (sendResponse write sendToClientFd msg logoutFd)

/-! ## The members of a response -/

/-- What the first half returns: the members, or nothing when one of them is missing. -/
theorem responseMembers_cases {response : Text} {r : Option (Text × Int)}
    (h : responseMembers response = .ok r) :
    ∃ c, parse response = .ok (some c) ∧
      ((r = none ∧ ∀ m e, getObjectItem c (ascii "msg") = some m →
          getObjectItem c (ascii "extendInfo") = some e → getObjectItem e (ascii "logoutFd") = none) ∨
        ∃ m e n msg, getObjectItem c (ascii "msg") = some m ∧
          getObjectItem c (ascii "extendInfo") = some e ∧ e.type = .Object ∧
          getObjectItem e (ascii "logoutFd") = some n ∧ m.valuestring = some msg ∧
          r = some (msg, wrap32 n.valueint)) := by
  obtain ⟨json, hparse, h⟩ := bind_eq_ok.1 h
  obtain ⟨msgItem, hmsg, h⟩ := bind_eq_ok.1 h
  obtain ⟨info, hinfo, h⟩ := bind_eq_ok.1 h
  cases json with
  | none => cases hmsg
  | some c =>
    cases hmsg
    cases hinfo
    refine ⟨c, hparse, ?_⟩
    cases hm : getObjectItem c (ascii "msg") with
    | none =>
      simp only [hm] at h
      obtain ⟨-, -, h⟩ := bind_eq_ok.1 h
      cases h
      exact Or.inl ⟨rfl, fun m e hm' => by cases hm'⟩
    | some m =>
      cases he : getObjectItem c (ascii "extendInfo") with
      | none =>
        simp only [hm, he] at h
        obtain ⟨-, -, h⟩ := bind_eq_ok.1 h
        cases h
        exact Or.inl ⟨rfl, fun m e _ he' => by cases he'⟩
      | some e =>
        simp only [hm, he] at h
        obtain ⟨-, -, h⟩ := bind_eq_ok.1 h
        obtain ⟨_, hobj, h⟩ := bind_eq_ok.1 h
        cases hn : getObjectItem e (ascii "logoutFd") with
        | none =>
          simp only [hn] at h
          obtain ⟨-, -, h⟩ := bind_eq_ok.1 h
          cases h
          refine Or.inl ⟨rfl, fun m' e' _ he' => ?_⟩
          cases he'
          exact hn
        | some n =>
          simp only [hn] at h
          obtain ⟨-, -, h⟩ := bind_eq_ok.1 h
          obtain ⟨msg, hmsg, h⟩ := bind_eq_ok.1 h
          cases h
          exact Or.inr ⟨m, e, n, msg, rfl, rfl, assert_eq_ok.1 hobj, hn, deref_eq_ok.1 hmsg, rfl⟩

/-! ## The writes -/

/-- A notice goes to the descriptor that was read out of the response. -/
theorem sendResponse_notice {write : Nat → Int → WriteOutcome} {sendToClientFd logoutFd d : Int}
    {msg : Text} (h : (sendResponse write sendToClientFd msg logoutFd).notice = some d) :
    d = logoutFd ∧ 0 < d := by
  unfold sendResponse at h
  split_ifs at h with hpos h0 h1 <;> cases h
  · exact ⟨rfl, hpos⟩
  · exact ⟨rfl, hpos⟩

theorem dealServiceResponse_notice {write : Nat → Int → WriteOutcome} {sendToClientFd d : Int}
    {response : Text} {s : Sent} (h : dealServiceResponse write sendToClientFd response = .ok s)
    (hd : s.notice = some d) : ∃ msg, responseMembers response = .ok (some (msg, d)) := by
  unfold dealServiceResponse at h
  obtain ⟨r, hr, h⟩ := bind_eq_ok.1 h
  cases r with
  | none =>
    cases h
    cases hd
  | some p =>
    cases h
    obtain ⟨rfl, -⟩ := sendResponse_notice hd
    exact ⟨p.1, hr⟩

end MessageReceiver

end SingleTerminalLogin
