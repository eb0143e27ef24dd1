import SingleTerminalLogin.Daemon.EventLoop
import SingleTerminalLogin.Services.Chain
import SingleTerminalLogin.Services.Robustness

/-!
# One answer for each request

Whoever sends a request to a service waits for one read of its response, so every way
out of `dealClientMessage` ought to write one.

* `Upstream` — what the system calls on the descriptor of the service behind return;
* `dealWriteEventBy` — a request the event loop takes up, and what is written for it;
* `Answers`, `AnswersOnce` — a response is written; nothing else is written to the
  descriptor the request came from;
* `request_answered_iff` — when a call that returns has done so, in each of the three
  services.
-/

namespace SingleTerminalLogin

open ByteText CProgram CJson Proc

/-- `MESSAGE_MAX_LEN`. -/
def MESSAGE_MAX_LEN : Nat := 10240

/-- What `write` and `read` on the descriptor of the service behind come to: is the
request taken, and what does one `read` of the response return, if it does not fail? -/
structure Upstream where
  accepts : WriteOutcome
  response : Option Text

/-- The `response` a `dealClientMessage` goes on with, if neither call fails.  It is ended
behind its last byte, so one that fills the array is ended behind the array. -/
def Upstream.exchange (u : Upstream) : C (Option Text) :=
  match u.accepts with
  | .done =>
    match u.response with
    | none => .ok none
    | some response =>
      if MESSAGE_MAX_LEN ≤ response.length then .error .memory else .ok (some (cstr response))
  | .failed => .ok none
  | .killed => .error .killed

/-- Whatever comes of it: there is a response to go on with exactly when the request was
taken and a response was read. -/
theorem Upstream.exchange_eq_ok {u : Upstream} {r : Option Text} (h : u.exchange = .ok r) :
    (r = none ∧ ¬ (u.accepts = .done ∧ ∃ response, u.response = some response)) ∨
      ∃ response, u.accepts = .done ∧ u.response = some response ∧ r = some (cstr response) := by
  unfold Upstream.exchange at h
  cases haccepts : u.accepts with
  | done =>
    cases hresponse : u.response with
    | none =>
      simp only [haccepts, hresponse] at h
      cases h
      refine Or.inl ⟨rfl, ?_⟩
      rintro ⟨-, response, hsome⟩
      cases hsome
    | some response =>
      simp only [haccepts, hresponse] at h
      by_cases hlong : MESSAGE_MAX_LEN ≤ response.length
      · rw [if_pos hlong] at h
        cases h
      · rw [if_neg hlong] at h
        cases h
        exact Or.inr ⟨response, rfl, rfl, rfl⟩
  | failed =>
    simp only [haccepts] at h
    cases h
    refine Or.inl ⟨rfl, ?_⟩
    rintro ⟨hdone, -⟩
    cases hdone
  | killed =>
    simp only [haccepts] at h
    cases h

/-- `MessageReceiver::dealClientMessage`, where the dispatcher behaves like that. -/
def MessageReceiver.dealClientMessageOver (u : Upstream) (write : Nat → Int → WriteOutcome)
    (sendToClientFd : Int) (message : Text) : C Sent := do
  let _ ← getNeedSendMessage message sendToClientFd
  match ← u.exchange with
  | none => .ok ⟨.ok (-1), none, none⟩
  | some response =>
    let sent ← dealServiceResponse write sendToClientFd response
    .ok { sent with ret := sent.ret.map fun ret => if ret < 0 then -1 else 0 }

/-- The receiver of the whole chain is this one, with the response of the dispatcher. -/
theorem MessageReceiver.dealClientMessage_eq_over {m : Mysql} {write : Nat → Int → WriteOutcome}
    {sendToClientFd : Int} {message needSendMessage response : Text} {conn conn' : Connection}
    {sent : Sent} (hneed : getNeedSendMessage message sendToClientFd = .ok needSendMessage)
    (hresponse : MessageDispatcher.dealClientMessage m needSendMessage conn = (some response, conn'))
    (hshort : response.length < MESSAGE_MAX_LEN) (hnul : NoNul response)
    (h : dealClientMessageOver ⟨.done, some response⟩ write sendToClientFd message = .ok sent) :
    ∃ ret, dealClientMessage m write sendToClientFd message conn =
      (.responded { sent with ret := ret }, conn') := by
  rw [dealClientMessageOver, hneed, Upstream.exchange] at h
  simp only [ok_bind, if_neg (Nat.not_le.2 hshort), cstr_eq_self hnul] at h
  obtain ⟨dealt, hdealt, h⟩ := bind_eq_ok.1 h
  cases h
  refine ⟨dealt.ret, ?_⟩
  simp only [dealClientMessage, hneed, hresponse, hdealt]

/-- The last write of the dispatcher and of the login manager. -/
def respond (write : Nat → Int → WriteOutcome) (sendToClientFd : Int) (response : Text) :
    MessageReceiver.Sent :=
  if write 0 sendToClientFd = .done then ⟨.ok 0, none, some response⟩
  else ⟨(write 0 sendToClientFd).ret, none, none⟩

/-- `MessageDispatcher::dealClientMessage`, where the login manager behaves like that. -/
def MessageDispatcher.dealClientMessageOver (u : Upstream) (write : Nat → Int → WriteOutcome)
    (sendToClientFd : Int) (receivedMessage : Text) : C MessageReceiver.Sent := do
  let r ← getServiceFdAndMessage receivedMessage
  if r.1 ≠ 0 then .ok ⟨.ok (-1), none, none⟩
  else
    match ← u.exchange with
    | none => .ok ⟨.ok (-1), none, none⟩
    | some response => .ok (respond write sendToClientFd response)

/-- `UserLoginImpl::dealClientMessage` with its write. -/
def UserLoginImpl.dealClientMessageOver (m : Mysql) (conn : Connection)
    (write : Nat → Int → WriteOutcome) (sendToClientFd : Int) (receivedMessage : Text) :
    C MessageReceiver.Sent := do
  let needSendmessage ← (dealClientMessage m receivedMessage conn).1
  .ok (respond write sendToClientFd needSendmessage)

namespace Daemon

/-- `DaemonBase::dealWriteEvent` with the `dealClientMessage` of a service, and what that
has written. -/
def dealWriteEventBy (dealClientMessage : Int → Text → C MessageReceiver.Sent) (data : Nat)
    (ctlOk : Bool) : Proc Daemon MessageReceiver.Sent := do
  let eventDataBuf ← load data
  let sent ← lift (dealClientMessage eventDataBuf.fd (cstr eventDataBuf.message))
  let ret ← lift sent.ret
  let _ ← dealWriteEvent data ret ctlOk
  pure sent

theorem dealWriteEventBy_ok {dealClientMessage : Int → Text → C MessageReceiver.Sent} {data : Nat}
    {ctlOk : Bool} {s : Daemon} {buf : EventDataBuf} {sent : MessageReceiver.Sent}
    (hbuf : s.heap data = some buf)
    (h : (dealWriteEventBy dealClientMessage data ctlOk s).1 = .ok sent) :
    dealClientMessage buf.fd (cstr buf.message) = .ok sent := by
  have hload : load data s = (.ok buf, s) := by
    rw [load, hbuf]
  rw [dealWriteEventBy, bind_run_ok hload] at h
  cases hsent : dealClientMessage buf.fd (cstr buf.message) with
  | error e =>
    rw [hsent, bind_run_error (lift_run _ s)] at h
    cases h
  | ok sent' =>
    rw [hsent, lift_bind_run_ok rfl] at h
    cases hkilled : sent'.ret with
    | error e =>
      rw [hkilled, bind_run_error (lift_run _ s)] at h
      cases h
    | ok wrote =>
      rw [hkilled, lift_bind_run_ok rfl, bind_pure_run (dealWriteEvent data wrote ctlOk)] at h
      cases hret : (dealWriteEvent data wrote ctlOk s).1 with
      | error e =>
        rw [hret] at h
        cases h
      | ok ret =>
        rw [hret] at h
        exact h

end Daemon

/-! ## What is written -/

namespace MessageReceiver

/-- The texts a call has written to a descriptor. -/
def Sent.texts (s : Sent) (fd : Int) : List Text :=
  (if s.notice = some fd then [ascii "logout"] else []) ++ s.answer.toList

/-- A response is written, and it is not empty. -/
def Sent.Answers (s : Sent) : Prop := ∃ t, t ≠ [] ∧ s.answer = some t

/-- A response is written to the descriptor, it is not empty, and nothing else is. -/
def Sent.AnswersOnce (s : Sent) (fd : Int) : Prop := s.Answers ∧ s.texts fd = s.answer.toList

theorem Sent.answersOnce_iff (s : Sent) (fd : Int) :
    s.AnswersOnce fd ↔ s.Answers ∧ s.notice ≠ some fd := by
  apply and_congr_right
  intro _
  by_cases hnotice : s.notice = some fd
  · rw [Sent.texts, if_pos hnotice]
    simp [hnotice]
  · rw [Sent.texts, if_neg hnotice]
    simp [hnotice]

/-- The members of a response that are passed on: the text and the descriptor. -/
def HasMembers (response msg : Text) (logoutFd : Int) : Prop :=
  ∃ c m e n, parse response = .ok (some c) ∧ getObjectItem c (ascii "msg") = some m ∧
    m.valuestring = some msg ∧ getObjectItem c (ascii "extendInfo") = some e ∧
    getObjectItem e (ascii "logoutFd") = some n ∧ logoutFd = wrap32 n.valueint

theorem HasMembers.unique {response msg msg' : Text} {logoutFd logoutFd' : Int}
    (h : HasMembers response msg logoutFd) (h' : HasMembers response msg' logoutFd') :
    msg' = msg ∧ logoutFd' = logoutFd := by
  obtain ⟨c, m, e, n, hparse, hm, htext, he, hn, rfl⟩ := h
  obtain ⟨c', m', e', n', hparse', hm', htext', he', hn', rfl⟩ := h'
  rw [hparse] at hparse'
  cases hparse'
  rw [hm] at hm'
  cases hm'
  rw [he] at he'
  cases he'
  rw [hn] at hn'
  cases hn'
  rw [htext] at htext'
  cases htext'
  exact ⟨rfl, rfl⟩

/-- A response that is dealt with is one that has these members, or nothing is done. -/
theorem responseMembers_ok_iff {response msg : Text} {logoutFd : Int} {r : Option (Text × Int)}
    (h : responseMembers response = .ok r) :
    r = some (msg, logoutFd) ↔ HasMembers response msg logoutFd := by
  obtain ⟨c, hparse, ⟨rfl, hmissing⟩ | ⟨m, e, n, text, hm, he, -, hn, htext, rfl⟩⟩ :=
    responseMembers_cases h
  · simp only [reduceCtorEq, false_iff]
    rintro ⟨c', m, e, n, hparse', hm, -, he, hn, -⟩
    rw [hparse] at hparse'
    cases hparse'
    rw [hmissing m e hm he] at hn
    cases hn
  · have hmembers : HasMembers response text (wrap32 n.valueint) :=
      ⟨c, m, e, n, hparse, hm, htext, he, hn, rfl⟩
    constructor
    · rintro heq
      cases heq
      exact hmembers
    · intro hmembers'
      obtain ⟨rfl, rfl⟩ := hmembers.unique hmembers'
      rfl

/-! ## The receiver -/

/-- The response of the dispatcher is one the receiver can pass on: it has a text that is
not empty and a descriptor, and a notice to that descriptor, if there is to be one, does
not fail. -/
def PassesOn (u : Upstream) (write : Nat → Int → WriteOutcome) (logoutFd : Int) : Prop :=
  u.accepts = .done ∧ ∃ response msg, u.response = some response ∧
    HasMembers (cstr response) msg logoutFd ∧ msg ≠ [] ∧ (0 < logoutFd → write 0 logoutFd = .done)

section

variable {u : Upstream} {write : Nat → Int → WriteOutcome} {fd : Int} {message : Text} {sent : Sent}

theorem sendResponse_answers_iff (hfd : ∀ n, write n fd = .done) {msg : Text} {logoutFd : Int} :
    (sendResponse write fd msg logoutFd).Answers ↔
      msg ≠ [] ∧ (0 < logoutFd → write 0 logoutFd = .done) := by
  unfold sendResponse
  rw [if_pos (hfd 1), if_pos (hfd 1)]
  by_cases hpos : 0 < logoutFd
  · rw [if_pos hpos]
    by_cases hwrite : write 0 logoutFd = .done
    · rw [if_pos hwrite]
      simp [Sent.Answers, hwrite]
    · rw [if_neg hwrite]
      simp [Sent.Answers, hpos, hwrite]
  · rw [if_neg hpos]
    simp [Sent.Answers, hpos]

theorem sendResponse_answersOnce_iff (hfd : ∀ n, write n fd = .done) {msg : Text} {logoutFd : Int} :
    (sendResponse write fd msg logoutFd).AnswersOnce fd ↔
      (msg ≠ [] ∧ (0 < logoutFd → write 0 logoutFd = .done)) ∧ (0 < logoutFd → logoutFd ≠ fd) := by
  rw [Sent.answersOnce_iff, sendResponse_answers_iff hfd]
  apply and_congr_right
  rintro ⟨-, hnotice⟩
  unfold sendResponse
  rw [if_pos (hfd 1), if_pos (hfd 1)]
  by_cases hpos : 0 < logoutFd
  · rw [if_pos hpos, if_pos (hnotice hpos)]
    simp [hpos]
  · rw [if_neg hpos]
    simp [hpos]

/-- How a call of the receiver that returns has come about. -/
theorem dealClientMessageOver_eq_ok (h : dealClientMessageOver u write fd message = .ok sent) :
    (sent.answer = none ∧ ∀ d, ¬ PassesOn u write d) ∨
      ∃ response msg d, u.accepts = .done ∧ u.response = some response ∧
        HasMembers (cstr response) msg d ∧
        sent.notice = (sendResponse write fd msg d).notice ∧
        sent.answer = (sendResponse write fd msg d).answer := by
  obtain ⟨-, -, h⟩ := bind_eq_ok.1 h
  obtain ⟨r, hr, h⟩ := bind_eq_ok.1 h
  rcases Upstream.exchange_eq_ok hr with ⟨rfl, hnothing⟩ | ⟨response, haccepts, hresponse, rfl⟩
  · cases h
    refine Or.inl ⟨rfl, fun d hd => hnothing ?_⟩
    obtain ⟨haccepts, response, msg, hresponse, -⟩ := hd
    exact ⟨haccepts, response, hresponse⟩
  · obtain ⟨dealt, hdealt, h⟩ := bind_eq_ok.1 h
    obtain ⟨members, hmembers, hdealt⟩ := bind_eq_ok.1 hdealt
    cases h
    cases members with
    | none =>
      cases hdealt
      refine Or.inl ⟨rfl, fun d hd => ?_⟩
      obtain ⟨-, response', msg, hresponse', hhas, -⟩ := hd
      rw [hresponse] at hresponse'
      cases hresponse'
      cases (responseMembers_ok_iff hmembers).2 hhas
    | some members =>
      cases hdealt
      exact Or.inr ⟨response, members.1, members.2, haccepts, hresponse,
        (responseMembers_ok_iff hmembers).1 rfl, rfl, rfl⟩

theorem passesOn_iff {response msg : Text} {d d' : Int} (haccepts : u.accepts = .done)
    (hresponse : u.response = some response) (hmembers : HasMembers (cstr response) msg d) :
    PassesOn u write d' ↔ d' = d ∧ msg ≠ [] ∧ (0 < d → write 0 d = .done) := by
  constructor
  · rintro ⟨-, response', msg', hresponse', hmembers', hpasses⟩
    rw [hresponse] at hresponse'
    cases hresponse'
    obtain ⟨rfl, rfl⟩ := hmembers.unique hmembers'
    exact ⟨rfl, hpasses⟩
  · rintro ⟨rfl, hpasses⟩
    exact ⟨haccepts, response, msg, hresponse, hmembers, hpasses⟩

theorem PassesOn.unique {d d' : Int} (h : PassesOn u write d) (h' : PassesOn u write d') :
    d' = d := by
  obtain ⟨haccepts, response, msg, hresponse, hmembers, -⟩ := h
  exact ((passesOn_iff haccepts hresponse hmembers).1 h').1

/-- The receiver answers exactly when the dispatcher has sent something to pass on. -/
theorem dealClientMessageOver_answers_iff (hfd : ∀ n, write n fd = .done)
    (h : dealClientMessageOver u write fd message = .ok sent) :
    (sent.Answers ↔ ∃ d, PassesOn u write d) ∧
      (sent.AnswersOnce fd ↔ ∃ d, PassesOn u write d ∧ (0 < d → d ≠ fd)) := by
  rcases dealClientMessageOver_eq_ok h with ⟨hnone, hnot⟩ | ⟨response, msg, d, haccepts, hresponse,
    hmembers, hnotice, hanswer⟩
  · have hsilent : ¬ sent.Answers := by
      rintro ⟨t, -, ht⟩
      rw [hnone] at ht
      cases ht
    refine ⟨⟨fun ha => absurd ha hsilent, ?_⟩, ⟨fun ha => absurd ha.1 hsilent, ?_⟩⟩
    · rintro ⟨d, hd⟩
      exact absurd hd (hnot d)
    · rintro ⟨d, hd, -⟩
      exact absurd hd (hnot d)
  · have hpasses : ∀ d', PassesOn u write d' ↔ _ := fun d' =>
      passesOn_iff haccepts hresponse hmembers
    have hanswers : sent.Answers ↔ (sendResponse write fd msg d).Answers := by
      rw [Sent.Answers, hanswer]
      rfl
    have honce : sent.AnswersOnce fd ↔ (sendResponse write fd msg d).AnswersOnce fd := by
      rw [Sent.answersOnce_iff, Sent.answersOnce_iff, hanswers, hnotice]
    constructor
    · rw [hanswers, sendResponse_answers_iff hfd]
      simp only [hpasses, exists_eq_left]
    · rw [honce, sendResponse_answersOnce_iff hfd]
      simp only [hpasses, and_assoc, exists_eq_left]

end

end MessageReceiver

/-! ## The dispatcher -/

/-- A message of a type the dispatcher knows. -/
def Dispatchable (receivedMessage : Text) : Prop :=
  ∃ c item, ∃ type : MessageType, parse receivedMessage = .ok (some c) ∧
    getObjectItem c (ascii "messageType") = some item ∧ wrap32 item.valueint = type.value

section

variable {u : Upstream} {write : Nat → Int → WriteOutcome} {fd : Int} {message : Text}
  {sent : MessageReceiver.Sent}

theorem respond_answers_iff (hfd : write 0 fd = .done) {t : Text} :
    (respond write fd t).Answers ↔ t ≠ [] := by
  rw [respond, if_pos hfd]
  simp [MessageReceiver.Sent.Answers]

theorem respond_notice (write : Nat → Int → WriteOutcome) (fd : Int) (t : Text) :
    (respond write fd t).notice = none := by
  unfold respond
  split_ifs <;> rfl

/-- A message that is read is one of a known type, or nothing is sent on. -/
theorem getServiceFdAndMessage_ok_iff {r : Int × Text}
    (h : MessageDispatcher.getServiceFdAndMessage message = .ok r) : r.1 = 0 ↔ Dispatchable message := by
  constructor
  · intro hret
    have hzero : MessageDispatcher.getServiceFdAndMessage message = .ok (0, r.2) := by
      rw [h, ← hret]
    obtain ⟨c, item, type, hparse, hitem, hvalue, -⟩ := getServiceFdAndMessage_eq_ok hzero
    exact ⟨c, item, type, hparse, hitem, hvalue⟩
  · rintro ⟨c, item, type, hparse, hitem, hvalue⟩
    rw [MessageDispatcher.getServiceFdAndMessage, hparse] at h
    simp only [ok_bind, getItem, deref_some, hitem, hvalue, MessageType.ofInt_value] at h
    obtain ⟨-, -, h⟩ := bind_eq_ok.1 h
    obtain ⟨text, -, h⟩ := bind_eq_ok.1 h
    cases h
    rfl

/-- The dispatcher answers exactly when it knows the type and the login manager has sent
something. -/
theorem dispatcher_answers_iff (hfd : ∀ n, write n fd = .done)
    (h : MessageDispatcher.dealClientMessageOver u write fd message = .ok sent) :
    sent.notice = none ∧ (sent.Answers ↔ Dispatchable message ∧ u.accepts = .done ∧
      ∃ response, u.response = some response ∧ cstr response ≠ []) := by
  obtain ⟨r, hr, h⟩ := bind_eq_ok.1 h
  rw [← getServiceFdAndMessage_ok_iff hr]
  have hsilent : ¬ MessageReceiver.Sent.Answers ⟨.ok (-1), none, none⟩ := by
    rintro ⟨t, -, ht⟩
    cases ht
  by_cases hret : r.1 ≠ 0
  · rw [if_pos hret] at h
    cases h
    exact ⟨rfl, fun ha => absurd ha hsilent, fun hd => absurd hd.1 hret⟩
  · rw [if_neg hret] at h
    rw [not_not] at hret
    obtain ⟨exchanged, hexchanged, h⟩ := bind_eq_ok.1 h
    rcases Upstream.exchange_eq_ok hexchanged with ⟨rfl, hnothing⟩ | ⟨response, haccepts, hresponse, rfl⟩
    · cases h
      refine ⟨rfl, fun ha => absurd ha hsilent, ?_⟩
      rintro ⟨-, haccepts, response, hresponse, -⟩
      exact absurd ⟨haccepts, response, hresponse⟩ hnothing
    · cases h
      refine ⟨respond_notice write fd _, ?_⟩
      rw [respond_answers_iff (hfd 0)]
      simp [hret, haccepts, hresponse]

end

/-! ## The login manager -/

theorem print_object_ne_nil {c : CJson} {t : Text} (hobj : c.type = .Object) (h : print c = .ok t) :
    t ≠ [] := by
  obtain ⟨type, s, i, d, n, child⟩ := c
  cases hobj
  rw [print] at h
  obtain ⟨entries, -, h⟩ := bind_eq_ok.1 h
  cases h
  simp

/-- A message with the member the response is addressed by. -/
def Addressed (receivedMessage : Text) : Prop :=
  ∃ c e, parse receivedMessage = .ok (some c) ∧ getObjectItem c (ascii "extendInfo") = some e

section

variable {message : Text} {sent : MessageReceiver.Sent}

/-- A response that was put together is not empty. -/
theorem getResponseMessage_ne_nil_iff {logoutFd code : Int} {msg : Text} {r : Int × Text}
    (h : UserLoginImpl.getResponseMessage message logoutFd code msg = .ok r) :
    r.2 ≠ [] ↔ Addressed message := by
  obtain ⟨json, hparse, h⟩ := bind_eq_ok.1 h
  obtain ⟨c, hc, h⟩ := bind_eq_ok.1 h
  rw [deref_eq_ok] at hc
  subst hc
  cases hitem : itemFrom c (ascii "extendInfo") with
  | nil =>
    simp only [hitem] at h
    obtain ⟨-, -, h⟩ := bind_eq_ok.1 h
    cases h
    simp only [ne_eq, not_true_eq_false, false_iff]
    rintro ⟨c', e, hparse', he⟩
    rw [hparse] at hparse'
    cases hparse'
    rw [getObjectItem, hitem] at he
    cases he
  | cons e next =>
    simp only [hitem] at h
    obtain ⟨text, htext, h⟩ := bind_eq_ok.1 h
    cases h
    refine ⟨fun _ => ⟨c, e, hparse, ?_⟩, fun _ => print_object_ne_nil rfl htext⟩
    rw [getObjectItem, hitem]
    rfl

/-- Whatever is performed and fails, what is written is the response to the message. -/
theorem dealClientMessage_response {m : Mysql} {conn : Connection} {text : Text}
    (h : (UserLoginImpl.dealClientMessage m message conn).1 = .ok text) :
    ∃ logoutFd code msg r, UserLoginImpl.getResponseMessage message logoutFd code msg = .ok r ∧
      text = r.2 := by
  obtain ⟨r, conn, -, h⟩ := bind_run_eq_ok.1 h
  have hrespond : ∀ {x : Proc Connection UserLoginImpl.Operation}, ((do
      let op ← x
      let response ← lift (UserLoginImpl.getResponseMessage message op.logoutFd op.errcode.value op.errmsg)
      pure response.2 : Proc Connection Text) conn).1 = .ok text →
      ∃ logoutFd code msg r, UserLoginImpl.getResponseMessage message logoutFd code msg = .ok r ∧
        text = r.2 := by
    intro x hx
    obtain ⟨op, conn', -, hx⟩ := bind_run_eq_ok.1 hx
    obtain ⟨response, conn'', hresponse, hx⟩ := bind_run_eq_ok.1 hx
    cases hx
    exact ⟨_, _, _, response, congrArg Prod.fst hresponse, rfl⟩
  by_cases hret : r.1 ≠ 0
  · rw [if_pos hret] at h
    exact hrespond h
  · rw [if_neg hret] at h
    exact hrespond h

/-- The login manager answers exactly when the message says how to address it. -/
theorem loginManager_answers_iff {m : Mysql} {conn : Connection} {write : Nat → Int → WriteOutcome}
    {fd : Int} (hfd : ∀ n, write n fd = .done)
    (h : UserLoginImpl.dealClientMessageOver m conn write fd message = .ok sent) :
    sent.notice = none ∧ (sent.Answers ↔ Addressed message) := by
  obtain ⟨text, htext, h⟩ := bind_eq_ok.1 h
  cases h
  obtain ⟨logoutFd, code, msg, r, hr, rfl⟩ := dealClientMessage_response htext
  refine ⟨respond_notice write fd _, ?_⟩
  rw [respond_answers_iff (hfd 0)]
  exact getResponseMessage_ne_nil_iff hr

end

/-! ## All three -/

/-- A service, with what it depends on. -/
inductive Service where
  | messageReceiver (u : Upstream)
  | messageDispatcher (u : Upstream)
  | loginManager (m : Mysql) (conn : Connection)

namespace Service

/-- `dealClientMessage` of that service. -/
def dealClientMessage (write : Nat → Int → WriteOutcome) : Service → Int → Text → C MessageReceiver.Sent
  | messageReceiver u => MessageReceiver.dealClientMessageOver u write
  | messageDispatcher u => MessageDispatcher.dealClientMessageOver u write
  | loginManager m conn => UserLoginImpl.dealClientMessageOver m conn write

/-- The service has something to answer with: the receiver, if the dispatcher has sent it
something to pass on and the notice does not fail; the dispatcher, if it knows the type
and the login manager has sent it something; the login manager, if the message has an
`extendInfo`. -/
def HasAnswer (write : Nat → Int → WriteOutcome) (message : Text) : Service → Prop
  | messageReceiver u => ∃ d, MessageReceiver.PassesOn u write d
  | messageDispatcher u => Dispatchable message ∧ u.accepts = .done ∧
      ∃ response, u.response = some response ∧ cstr response ≠ []
  | loginManager _ _ => Addressed message

/-- The notice goes to the descriptor the request came from. -/
def NotifiesItself (write : Nat → Int → WriteOutcome) (fd : Int) : Service → Prop
  | messageReceiver u => 0 < fd ∧ MessageReceiver.PassesOn u write fd
  | _ => False

theorem answers_iff_of_ok {service : Service} {write : Nat → Int → WriteOutcome} {fd : Int}
    {message : Text} {sent : MessageReceiver.Sent} (hfd : ∀ n, write n fd = .done)
    (h : service.dealClientMessage write fd message = .ok sent) :
    (sent.Answers ↔ service.HasAnswer write message) ∧
      (sent.AnswersOnce fd ↔
        service.HasAnswer write message ∧ ¬ service.NotifiesItself write fd) := by
  cases service with
  | messageReceiver u =>
    obtain ⟨hanswers, honce⟩ := MessageReceiver.dealClientMessageOver_answers_iff hfd h
    refine ⟨hanswers, honce.trans ⟨?_, ?_⟩⟩
    · rintro ⟨d, hd, hother⟩
      refine ⟨⟨d, hd⟩, fun hself => ?_⟩
      cases hd.unique hself.2
      exact hother hself.1 rfl
    · rintro ⟨⟨d, hd⟩, hself⟩
      refine ⟨d, hd, fun hpos hfd' => ?_⟩
      subst hfd'
      exact hself ⟨hpos, hd⟩
  | messageDispatcher u =>
    obtain ⟨hnotice, hanswers⟩ := dispatcher_answers_iff hfd h
    refine ⟨hanswers, ?_⟩
    rw [MessageReceiver.Sent.answersOnce_iff, hanswers, hnotice]
    simp [HasAnswer, NotifiesItself]
  | loginManager m conn =>
    obtain ⟨hnotice, hanswers⟩ := loginManager_answers_iff hfd h
    refine ⟨hanswers, ?_⟩
    rw [MessageReceiver.Sent.answersOnce_iff, hanswers, hnotice]
    simp [HasAnswer, NotifiesItself]

/-- A request that is taken up has been answered as the call returns, and with nothing else
on its descriptor, exactly when the service has something to answer with and does not
notify the descriptor itself. -/
theorem request_answered_iff (service : Service) (write : Nat → Int → WriteOutcome) (s : Daemon)
    (data : Nat) (buf : EventDataBuf) (ctlOk : Bool) (sent : MessageReceiver.Sent)
    (hbuf : s.heap data = some buf) (hfd : ∀ n, write n buf.fd = .done)
    (h : (Daemon.dealWriteEventBy (service.dealClientMessage write) data ctlOk s).1 = .ok sent) :
    (sent.Answers ↔ service.HasAnswer write (cstr buf.message)) ∧
      (sent.AnswersOnce buf.fd ↔ service.HasAnswer write (cstr buf.message) ∧
        ¬ service.NotifiesItself write buf.fd) :=
  answers_iff_of_ok hfd (Daemon.dealWriteEventBy_ok hbuf h)

/-- A loop that has read this text from descriptor 6. -/
def hasRead (message : Text) : Daemon where
  listenSocket := 3
  interest fd := if fd = 6 then some (.EPOLLOUT 0) else none
  heap ptr := if ptr = 0 then some { fd := 6, message := message } else none

/-- A dispatcher whose login manager sends a response. -/
def responding : Service :=
  messageDispatcher ⟨.done, some (ascii "\x7b\"code\":0\x7d")⟩

theorem request_answered_iff_login : ∃ sent : MessageReceiver.Sent,
    (sent.Answers ↔ responding.HasAnswer (fun _ _ => .done) (ascii "\x7b\"messageType\":2\x7d")) ∧
      sent.answer = some (ascii "\x7b\"code\":0\x7d") := by
  refine ⟨⟨.ok 0, none, some (ascii "\x7b\"code\":0\x7d")⟩, ?_, rfl⟩
  exact (request_answered_iff responding (fun _ _ => .done)
    (hasRead (ascii "\x7b\"messageType\":2\x7d")) 0
    ⟨6, 0, ascii "\x7b\"messageType\":2\x7d", 0⟩ true _ rfl (fun _ => rfl) (by decide +kernel)).1

/-- The dispatcher leaves a request without a `messageType` unanswered. -/
theorem request_unanswered :
    ¬ ∀ (service : Service) (write : Nat → Int → WriteOutcome) (s : Daemon) (data : Nat)
      (buf : EventDataBuf) (ctlOk : Bool) (sent : MessageReceiver.Sent), s.heap data = some buf →
      (∀ n, write n buf.fd = .done) →
      (Daemon.dealWriteEventBy (service.dealClientMessage write) data ctlOk s).1 = .ok sent →
      sent.Answers := by
  intro h
  obtain ⟨t, -, ht⟩ := h responding (fun _ _ => .done) (hasRead (ascii "\x7b\x7d")) 0
    ⟨6, 0, ascii "\x7b\x7d", 0⟩ true ⟨.ok (-1), none, none⟩ rfl (fun _ => rfl) (by decide)
  cases ht

end Service

end SingleTerminalLogin
