import SingleTerminalLogin.Services.MessageReceiver

/-!
# `MessageDispatcher`

The middle of the system, `service/messageDispatcher/messageDispatcher.cpp`: it
reads the type of a message, adds it again as `operateType` and passes the message
on to the one service there is.
-/

namespace SingleTerminalLogin

open ByteText Binary64 CProgram CJson

/-- `MESSAGE_TYPE`. -/
inductive MessageType where
  | REGIST
  | LOGIN
  | LOGOUT
  deriving DecidableEq, Repr

namespace MessageType

/-- The numbers of `Enum.h`. -/
def value : MessageType → Int
  | REGIST => 1
  | LOGIN => 2
  | LOGOUT => 3

/-- The enumerator of a number, if there is one. -/
def ofInt (n : Int) : Option MessageType :=
  if n = 1 then some REGIST else if n = 2 then some LOGIN else if n = 3 then some LOGOUT else none

@[simp] theorem ofInt_value (t : MessageType) : ofInt t.value = some t := by
  cases t <;> rfl

theorem ofInt_eq_some {n : Int} {t : MessageType} (h : ofInt n = some t) : n = t.value := by
  unfold ofInt at h
  split_ifs at h with h1 h2 h3 <;> cases h <;> assumption

theorem fits (t : MessageType) : -2 ^ 31 ≤ t.value ∧ t.value < 2 ^ 31 := by
  cases t <;> decide

end MessageType

namespace MessageDispatcher

/-- `MessageDispatcher::dealLogin`.  The login service is the only entry of
`_serviceFdMap`, and it is always there. -/
def dealLogin (receivedMessageJson : CJson) (messageType : Int) : C Text :=
  print (addNumberToObject receivedMessageJson (ascii "operateType") messageType)

/-- `MessageDispatcher::getServiceFdAndMessage`: the return value and the message. -/
def getServiceFdAndMessage (receivedMessage : Text) : C (Int × Text) := do
  let receivedMessageJson ← parse receivedMessage
  match ← getItem receivedMessageJson (ascii "messageType") with
  | none =>
    logJson receivedMessageJson
    .ok (-1, [])
  | some messageTypeItem =>
    assert (messageTypeItem.type = .Number)
    let messageType := wrap32 messageTypeItem.valueint
    match MessageType.ofInt messageType with
    | some _ =>
      let json ← deref receivedMessageJson
      let message ← dealLogin json messageType
      .ok (0, message)
    | none =>
      logJson receivedMessageJson
      .ok (-1, [])

end MessageDispatcher

end SingleTerminalLogin
