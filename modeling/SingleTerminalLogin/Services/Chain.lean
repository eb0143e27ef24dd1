import SingleTerminalLogin.Services.UserLoginImpl

/-!
# One request through all three services

`dealClientMessage` of the receiver and of the dispatcher, each with the process it
talks to at the other end of its socket.  Both write a message there and then wait
for one read, so a request is dealt with in one go, and a process that does not
answer leaves everything in front of it waiting.
-/

namespace SingleTerminalLogin

open ByteText CProgram

/-- `MessageDispatcher::dealClientMessage`: the response it writes to the receiver, if
there ever is one.  A login manager that dies closes its socket, and the dispatcher
then writes the nothing it has read. -/
def MessageDispatcher.dealClientMessage (m : Mysql) (receivedMessage : Text) (conn : Connection) :
    Option Text × Connection :=
  match getServiceFdAndMessage receivedMessage with
  | .error _ => (none, conn)
  | .ok (ret, needSendMessage) =>
    if ret ≠ 0 then (none, conn)
    else
      match UserLoginImpl.dealClientMessage m needSendMessage conn with
      | (.error _, conn) => (none, conn)
      | (.ok response, conn) => (if response = [] then none else some response, conn)

namespace MessageReceiver

/-- What came of a request at the receiver. -/
inductive Dealt where
  /-- The receiver died. -/
  | died
  /-- It waits for a response that does not come. -/
  | waits
  /-- It has dealt with a response. -/
  | responded (s : Sent)
  deriving DecidableEq

/-- `MessageReceiver::dealClientMessage`. -/
def dealClientMessage (m : Mysql) (write : Nat → Int → WriteOutcome) (sendToClientFd : Int)
    (message : Text) (conn : Connection) : Dealt × Connection :=
  match getNeedSendMessage message sendToClientFd with
  | .error _ => (.died, conn)
  | .ok needSendMessage =>
    match MessageDispatcher.dealClientMessage m needSendMessage conn with
    | (none, conn) => (.waits, conn)
    | (some response, conn) =>
      match dealServiceResponse write sendToClientFd response with
      | .error _ => (.died, conn)
      | .ok s => (.responded s, conn)

end MessageReceiver

end SingleTerminalLogin
