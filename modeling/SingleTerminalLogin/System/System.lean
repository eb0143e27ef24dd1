import SingleTerminalLogin.Client.Answers

/-!
# The whole system

The receiver with its clients, and behind it the dispatcher and the login manager.
Clients connect, send the messages of their commands and disconnect in any order; the
loop of the receiver accepts, reads and writes.  Every read returns one whole message.

* `System.afterDealing` — what the receiver makes of a request that was dealt with;
* `System.step` — one event, and what clients notice of it.
-/

namespace SingleTerminalLogin

open ByteText CProgram SqlLex Loginer

/-! ## The state -/

/-- A message a command has written. -/
structure Message where
  request : Request
  text : Text
  built : request.getJsonStringFromParams = .ok text

/-- The message of a command. -/
def Request.message (r : Request) : Option Message :=
  match h : r.getJsonStringFromParams with
  | .ok text => some ⟨r, text, h⟩
  | .error _ => none

/-- The names a command is given. -/
def Request.names : Request → List Text
  | .regist u p => [u.text, p.text]
  | .login u p => [u.text, p.text]
  | .logout u => [u.text]

theorem Request.call_names (r : Request) (fd : Int) : (r.call fd).names = r.names := by
  cases r <;> rfl

/-- A client of the receiver: its number, its descriptor, whether it still has its end
of the connection open, what it has sent, and the message that was read and has to be
dealt with. -/
structure Client where
  id : Nat
  fd : Int
  peerOpen : Bool := true
  inbox : List Message := []
  armed : Option Message := none

/-- What the receiver is doing. -/
inductive Status where
  | running
  /-- It waits for a response that does not come. -/
  | waiting
  /-- It died, or released a buffer that the loop will use again. -/
  | stopped
  deriving DecidableEq

/-- What clients notice. -/
inductive Happening where
  /-- The client closed its connection, or lost it. -/
  | closed (client : Nat)
  /-- `logout` was written to the descriptor, which was this client's then, and the
  session it is about had been established by that one. -/
  | noticed (fd : Int) (client owner : Option Nat)
  /-- The answer to the client's request. -/
  | answered (client : Nat) (request : Request) (msg : Text)
  deriving DecidableEq

/-- The receiver and what is behind it.  `owner` and `trace` are not in the program:
they remember which client established a session, and what happened. -/
structure System where
  clients : List Client := []
  clientNum : Nat := 0
  manager : Connection
  owner : Nat → Option Nat := fun _ => none
  status : Status := .running
  trace : List Happening := []

/-- What can happen next. -/
inductive Event where
  /-- A connection is accepted, on this descriptor. -/
  | connect (fd : Int)
  /-- A client runs a command. -/
  | send (client : Nat) (request : Request)
  /-- A client closes its connection. -/
  | disconnect (client : Nat)
  /-- The descriptor of a client is ready for reading. -/
  | readable (client : Nat)
  /-- The descriptor of a client is ready for writing.  `fate` says what comes of the two
  writes when the other end is closed, or when the descriptor is not one of a client. -/
  | writable (client : Nat) (fate : Nat → WriteOutcome)

/-- A descriptor a client can get: not one of the receiver's own. -/
structure ClientFd (own : List Int) (fd : Int) : Prop where
  pos : 0 < fd
  fits : fd < 2 ^ 31
  foreign : fd ∉ own

namespace System

variable (own : List Int) (m : Mysql) (s : System)

/-! ## The steps -/

def client? (c : Nat) : Option Client := s.clients.find? fun x => x.id = c

/-- The client a descriptor denotes. -/
def denoted (fd : Int) : Option Client := s.clients.find? fun x => x.fd = fd

def update (c : Nat) (f : Client → Client) : System :=
  { s with clients := s.clients.map fun x => if x.id = c then f x else x }

/-- The descriptor of a client waits for a message again. -/
def disarm (c : Nat) : List Client := (s.update c fun x => { x with armed := none }).clients

/-- `DaemonBase::dealConnectRequest`.  The kernel gives a descriptor that is not in use. -/
def dealConnectRequest (fd : Int) : System :=
  if 0 < fd ∧ fd < 2 ^ 31 ∧ fd ∉ own ∧ ∀ x ∈ s.clients, x.fd ≠ fd then
    { s with clients := s.clients ++ [{ id := s.clientNum + 1, fd := fd }],
             clientNum := s.clientNum + 1 }
  else s

/-- `DaemonBase::dealReadEvent`: the next message, or the end of the connection. -/
def dealReadEvent (c : Nat) : System :=
  match s.client? c with
  | none => s
  | some x =>
    match x.armed, x.inbox with
    | some _, _ => s
    | none, msg :: rest => s.update c fun x => { x with inbox := rest, armed := some msg }
    | none, [] => if x.peerOpen then s else { s with clients := s.clients.filter fun x => x.id ≠ c }

/-- What comes of a write. -/
def write (fate : Nat → WriteOutcome) (n : Nat) (fd : Int) : WriteOutcome :=
  match s.denoted fd with
  | some x => if x.peerOpen then .done else fate n
  | none => if fd ∈ own then fate n else .failed

/-- Who established a session, once the tables have changed on behalf of a client. -/
def recordOwner (x : Client) (manager : Connection) (id : Nat) : Option Nat :=
  if id ∈ manager.db.t_user_login.map LoginRow.fuiId ∧
      id ∉ s.manager.db.t_user_login.map LoginRow.fuiId then some x.id
  else s.owner id

/-- Who established the session a login is going to replace. -/
def sessionOwner : Request → Option Nat
  | .login u _ => (s.manager.db.active u.text).head?.bind fun row => s.owner row.fuiId
  | _ => none

/-- What clients notice of a response. -/
def happenings (x : Client) (r : Request) (sent : MessageReceiver.Sent) : List Happening :=
  (sent.notice.map fun fd =>
      Happening.noticed fd ((s.denoted fd).map Client.id) (s.sessionOwner r)).toList ++
    (sent.answer.map fun msg => Happening.answered x.id r msg).toList

/-- The rest of `DaemonBase::dealWriteEvent`.  When `dealClientMessage` fails the buffer
is released and the descriptor stays as it is, so the loop takes the buffer up again. -/
def afterDealing (x : Client) (msg : Message) :
    MessageReceiver.Dealt × Connection → List Happening × System
  | (.died, manager) =>
    (s.clients.map fun y => .closed y.id,
      { s with
        clients := []
        manager := manager
        owner := s.recordOwner x manager
        status := .stopped })
  | (.waits, manager) =>
    ([], { s with manager := manager, owner := s.recordOwner x manager, status := .waiting })
  | (.responded sent, manager) =>
    match sent.ret with
    | .error _ =>
      (s.happenings x msg.request sent ++ s.clients.map fun y => .closed y.id,
        { s with
          clients := []
          manager := manager
          owner := s.recordOwner x manager
          status := .stopped })
    | .ok ret =>
      (s.happenings x msg.request sent,
        { s with
          clients := if ret < 0 then s.clients else s.disarm x.id
          manager := manager
          owner := s.recordOwner x manager
          status := if ret < 0 then .stopped else s.status })

/-- `DaemonBase::dealWriteEvent`. -/
def dealWriteEvent (c : Nat) (fate : Nat → WriteOutcome) : List Happening × System :=
  match s.client? c with
  | none => ([], s)
  | some x =>
    match x.armed with
    | none => ([], s)
    | some msg =>
      s.afterDealing x msg
        (MessageReceiver.dealClientMessage m (s.write own fate) x.fd msg.text s.manager)

/-- A command writes its message. -/
def send (c : Nat) (r : Request) : System :=
  match r.message with
  | some msg => s.update c fun x => if x.peerOpen then { x with inbox := x.inbox ++ [msg] } else x
  | none => s

/-- A client closes its connection. -/
def disconnect (c : Nat) : List Happening × System :=
  match s.client? c with
  | none => ([], s)
  | some _ => ([.closed c], s.update c fun x => { x with peerOpen := false })

/-- One event.  Only a running receiver does anything. -/
def happens : Event → System → List Happening × System
  | .send c r, s => ([], s.send c r)
  | .disconnect c, s => s.disconnect c
  | .connect fd, s => ([], if s.status = .running then s.dealConnectRequest own fd else s)
  | .readable c, s => ([], if s.status = .running then s.dealReadEvent c else s)
  | .writable c fate, s => if s.status = .running then s.dealWriteEvent own m c fate else ([], s)

/-- One event, remembered. -/
def step : Machine Event (List Happening) System := fun e s =>
  let r := happens own m e s
  (r.1, { r.2 with trace := s.trace ++ r.1 })

/-- The system before the first client comes. -/
def start (manager : Connection) : System := { manager := manager }

end System

end SingleTerminalLogin
