import SingleTerminalLogin.Daemon.EventLoop
import SingleTerminalLogin.Services.MessageDispatcher

/-!
# The descriptor of the service behind

The receiver and the dispatcher each connect to one service when they start and keep
the number of the descriptor.  The descriptor is in the same epoll set as those of the
clients, and the loop closes it like any other.

* `Process` — the loop of such a process, with what its open descriptors stand for;
* `Process.happens` — one event, with the request it writes, if any;
* `requests_reach_service` — as long as the loop does not read the end of the
  connection to the service, every request is written to this connection.
-/

namespace SingleTerminalLogin

open ByteText CProgram

/-- What an open descriptor stands for. -/
inductive Endpoint where
  /-- The listening socket and the epoll instance. -/
  | own
  /-- The connection made when the process started. -/
  | service
  /-- The connection that was accepted as the one of that number. -/
  | client (number : Nat)
  deriving DecidableEq

/-- `HANDLE_SERVICE`. -/
def LOGINER_SERVICE : Int := 1

/-- What a process remembers of its connection. -/
inductive ServiceFd where
  /-- `MessageReceiver::_sendToMessageDispatcherServiceFd`. -/
  | sendToMessageDispatcherServiceFd (fd : Int)
  /-- `MessageDispatcher::_serviceFdMap`. -/
  | serviceFdMap (map : List (Int × Int))

/-- A request that was written: its text, the descriptor, and what it stood for then. -/
structure Written where
  needSendMessage : Text
  fd : Int
  endpoint : Option Endpoint
  deriving DecidableEq

/-- The receiver or the dispatcher.  `denotes` is the descriptor table the kernel keeps
for it; `clients` and `written` are not in the program. -/
structure Process where
  daemon : Daemon
  denotes : Int → Option Endpoint
  serviceFd : ServiceFd
  clients : Nat := 0
  written : List Written := []

namespace ServiceFd

/-- The descriptor `dealClientMessage` writes a request to. -/
def fd : ServiceFd → Option Int
  | .sendToMessageDispatcherServiceFd fd => some fd
  | .serviceFdMap map => map.lookup LOGINER_SERVICE

/-- The text `dealClientMessage` writes for a message, if it gets as far as to write. -/
def needSendMessage : ServiceFd → Int → Text → Option Text
  | .sendToMessageDispatcherServiceFd _, sendToClientFd, message =>
    match MessageReceiver.getNeedSendMessage message sendToClientFd with
    | .ok text => some text
    | .error _ => none
  | .serviceFdMap _, _, message =>
    match MessageDispatcher.getServiceFdAndMessage message with
    | .ok (ret, text) => if ret = 0 then some text else none
    | .error _ => none

end ServiceFd

namespace Process

/-- The process before it connects: it has a listening socket and an epoll instance. -/
def opened (listenSocket epollFd : Int) (serviceFd : ServiceFd) : Process where
  daemon := Daemon.start listenSocket []
  denotes fd := if fd = listenSocket ∨ fd = epollFd then some .own else none
  serviceFd := serviceFd

/-- A connection to a service, registered for reading. -/
def connectToService (p : Process) (socketFd : Int) (serviceFd : ServiceFd) : Process :=
  { p with
    daemon := (Daemon.epollCtl socketFd .EPOLLIN true p.daemon).2
    denotes := Function.update p.denotes socketFd (some .service)
    serviceFd := serviceFd }

/-- `MessageReceiver::connectTomessageDispatcherService`, when it succeeds. -/
def connectTomessageDispatcherService (listenSocket epollFd socketFd : Int) : Process :=
  (opened listenSocket epollFd (.sendToMessageDispatcherServiceFd 0)).connectToService socketFd
    (.sendToMessageDispatcherServiceFd socketFd)

/-- `MessageDispatcher::connectAllHandleService`, when it succeeds. -/
def connectAllHandleService (listenSocket epollFd socketFd : Int) : Process :=
  (opened listenSocket epollFd (.serviceFdMap [])).connectToService socketFd
    (.serviceFdMap [(LOGINER_SERVICE, socketFd)])

/-- The request that `dealClientMessage` writes for a buffer. -/
def request (p : Process) (buf : EventDataBuf) : Option Written :=
  match p.serviceFd.fd, p.serviceFd.needSendMessage buf.fd (cstr buf.message) with
  | some fd, some text => some ⟨text, fd, p.denotes fd⟩
  | _, _ => none

/-- One event of the loop, and the request it writes.  The kernel hands out a
descriptor that stands for nothing; `close` makes a descriptor stand for nothing. -/
def happens : Machine Daemon.Event (Option Written) Process
  | .connect linkedSocket ctlOk, p =>
    match linkedSocket with
    | none => (none, p)
    | some fd =>
      if p.denotes fd = none then
        (none, { p with
          daemon := (Daemon.dealConnectRequest linkedSocket ctlOk p.daemon).2
          denotes := Function.update p.denotes fd (some (.client (p.clients + 1)))
          clients := p.clients + 1 })
      else (none, p)
  | .readable fd ptr got ctlOk, p =>
    (none, { p with
      daemon := (Daemon.happens (.readable fd ptr got ctlOk) p.daemon).2
      denotes :=
        if p.daemon.readable fd ptr ∧ got = some [] then Function.update p.denotes fd none
        else p.denotes })
  | .writable fd ret ctlOk, p =>
    match (p.daemon.pending fd).bind p.daemon.heap with
    | none => (none, p)
    | some buf =>
      (p.request buf, { p with
        daemon := (Daemon.happens (.writable fd ret ctlOk) p.daemon).2
        written := p.written ++ (p.request buf).toList })

/-! ## Where the requests go -/

/-- The loop does not read the end of the connection to the service. -/
def ServiceStays : Daemon.Event → Process → Prop
  | .readable fd _ got _, p => got = some [] → p.serviceFd.fd ≠ some fd
  | _, _ => True

/-- The descriptor that is remembered stands for the connection to the service, and so
did it for every request. -/
structure ServiceOpen (p : Process) : Prop where
  denotes : ∃ fd, p.serviceFd.fd = some fd ∧ p.denotes fd = some .service
  written : ∀ w ∈ p.written, w.endpoint = some .service

section

variable {p : Process}

theorem ServiceOpen.request (h : p.ServiceOpen) {buf : EventDataBuf} {w : Written}
    (hw : p.request buf = some w) : w.endpoint = some .service := by
  obtain ⟨fd, hfd, hdenotes⟩ := h.denotes
  unfold Process.request at hw
  rw [hfd] at hw
  cases htext : p.serviceFd.needSendMessage buf.fd (cstr buf.message) with
  | none =>
    rw [htext] at hw
    cases hw
  | some text =>
    rw [htext] at hw
    cases hw
    exact hdenotes

theorem serviceOpen_step (e : Daemon.Event) (hok : ServiceStays e p) (h : p.ServiceOpen) :
    (happens e p).2.ServiceOpen := by
  obtain ⟨fd, hfd, hdenotes⟩ := h.denotes
  cases e with
  | connect linkedSocket ctlOk =>
    cases linkedSocket with
    | none => exact h
    | some new =>
      show ServiceOpen (if p.denotes new = none then _ else (none, p)).2
      by_cases hfree : p.denotes new = none
      · rw [if_pos hfree]
        have hne : fd ≠ new := by
          rintro rfl
          rw [hfree] at hdenotes
          cases hdenotes
        exact ⟨⟨fd, hfd, (Function.update_of_ne hne ..).trans hdenotes⟩, h.written⟩
      · rw [if_neg hfree]
        exact h
  | readable fd' ptr got ctlOk =>
    refine ⟨⟨fd, hfd, ?_⟩, h.written⟩
    show (if p.daemon.readable fd' ptr ∧ got = some [] then _ else p.denotes) fd = _
    by_cases hclosed : p.daemon.readable fd' ptr ∧ got = some []
    · rw [if_pos hclosed]
      have hne : fd ≠ fd' := by
        rintro rfl
        exact hok hclosed.2 hfd
      exact (Function.update_of_ne hne ..).trans hdenotes
    · rw [if_neg hclosed]
      exact hdenotes
  | writable fd' ret ctlOk =>
    cases hbuf : (p.daemon.pending fd').bind p.daemon.heap with
    | none =>
      simp only [happens, hbuf]
      exact h
    | some buf =>
      simp only [happens, hbuf]
      refine ⟨⟨fd, hfd, hdenotes⟩, fun w hw => ?_⟩
      rcases List.mem_append.1 hw with hw | hw
      · exact h.written w hw
      · exact h.request (Option.mem_toList.1 hw)

/-- The requests of a run, as long as the connection to the service stays open. -/
theorem serviceOpen_run {es : List Daemon.Event} (hok : happens.Along ServiceStays es p)
    (h : p.ServiceOpen) : (happens.run es p).2.ServiceOpen :=
  Machine.run_invariant (fun e _ => serviceOpen_step e) hok h

end

theorem serviceOpen_receiver (listenSocket epollFd socketFd : Int) :
    (connectTomessageDispatcherService listenSocket epollFd socketFd).ServiceOpen :=
  ⟨⟨socketFd, rfl, Function.update_self ..⟩, fun w hw => by cases hw⟩

theorem serviceOpen_dispatcher (listenSocket epollFd socketFd : Int) :
    (connectAllHandleService listenSocket epollFd socketFd).ServiceOpen :=
  ⟨⟨socketFd, rfl, Function.update_self ..⟩, fun w hw => by cases hw⟩

/-- Whatever connects, closes or fails, the receiver and the dispatcher write every
request to the connection they made when they started, as long as their loop does not
read its end. -/
theorem requests_reach_service (listenSocket epollFd socketFd : Int) (es : List Daemon.Event) :
    (happens.Along ServiceStays es (connectTomessageDispatcherService listenSocket epollFd socketFd) →
      ∀ w ∈ (happens.run es (connectTomessageDispatcherService listenSocket epollFd socketFd)).2.written,
        w.endpoint = some .service) ∧
    (happens.Along ServiceStays es (connectAllHandleService listenSocket epollFd socketFd) →
      ∀ w ∈ (happens.run es (connectAllHandleService listenSocket epollFd socketFd)).2.written,
        w.endpoint = some .service) :=
  ⟨fun hok => (serviceOpen_run hok (serviceOpen_receiver listenSocket epollFd socketFd)).written,
    fun hok => (serviceOpen_run hok (serviceOpen_dispatcher listenSocket epollFd socketFd)).written⟩

/-- A client connects and sends a request. -/
def connectAndSend : List Daemon.Event :=
  [.connect (some 6) true, .readable 6 0 (some (ascii "\x7b\x7d")) true, .writable 6 0 true]

theorem requests_reach_service_kept :
    ((happens.run connectAndSend (connectTomessageDispatcherService 3 4 5)).2.written.all
      fun w => decide (w.endpoint = some .service)) = true := by
  refine List.all_eq_true.2 fun w hw => decide_eq_true ?_
  have hstays : happens.Along ServiceStays connectAndSend (connectTomessageDispatcherService 3 4 5) :=
    ⟨trivial, fun h => absurd h (by decide), trivial, trivial⟩
  exact (requests_reach_service 3 4 5 connectAndSend).1 hstays w hw

/-- The dispatcher closes its connection; a client gets the number, and the next
request of another client is written to it. -/
theorem request_reaches_client :
    ¬ ∀ (listenSocket epollFd socketFd : Int) (es : List Daemon.Event),
      ∀ w ∈ (happens.run es (connectTomessageDispatcherService listenSocket epollFd socketFd)).2.written,
        w.endpoint = some .service := by
  intro h
  have hwritten := h 3 4 5 [.connect (some 6) true, .readable 5 0 (some []) true, .connect (some 5) true,
    .readable 6 0 (some (ascii "\x7b\x7d")) true, .writable 6 0 true]
  revert hwritten
  decide +kernel

end Process

end SingleTerminalLogin
