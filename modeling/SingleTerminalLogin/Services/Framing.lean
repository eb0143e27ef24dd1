import SingleTerminalLogin.Lib.Machine
import SingleTerminalLogin.Lib.Pipe
import SingleTerminalLogin.Services.Answering

/-!
# One read for each message

The messages have no frames: every service takes what one `read` returns for one message,
and reads the first JSON value in it.

* `Route` — the sockets from a client to the login manager and back, and what the three
  processes are doing; `Route.happens` — a write of the client, or a read of one of them;
* `ReadsWhole` — every read returns one message, all of it and nothing else;
* `Framed` — what the sockets hold as long as this is so;
* `requests_processed` — the login manager then processes the requests one after the
  other, each of them once.
-/

namespace SingleTerminalLogin

open ByteText CProgram CJson

/-- What a process is doing. -/
inductive Phase where
  /-- It waits for the next message. -/
  | ready
  /-- It has passed a message on and waits for the response. -/
  | waits
  /-- It has died, or goes on with a buffer it has freed after a `dealClientMessage` that
  failed. -/
  | dead
  deriving DecidableEq

/-- The way of one client's messages.  `processed` and `answered` are not in the programs:
the texts the login manager was handed, and the responses the receiver has dealt with. -/
structure Route where
  conn : Connection
  toReceiver : Pipe Byte := {}
  toDispatcher : Pipe Byte := {}
  toManager : Pipe Byte := {}
  fromManager : Pipe Byte := {}
  fromDispatcher : Pipe Byte := {}
  receiver : Phase := .ready
  dispatcher : Phase := .ready
  loginManager : Phase := .ready
  processed : List Text := []
  answered : List Text := []

/-- The text the receiver writes for what it has read. -/
def atDispatcher (fd : Int) (read : Text) : Option Text :=
  match MessageReceiver.getNeedSendMessage (cstr read) fd with
  | .ok needSendMessage => some needSendMessage
  | .error _ => none

/-- The text the dispatcher writes for what it has read. -/
def atManager (read : Text) : Option Text :=
  match MessageDispatcher.getServiceFdAndMessage (cstr read) with
  | .ok (ret, needSendMessage) => if ret = 0 then some needSendMessage else none
  | .error _ => none

namespace Route

/-- A write of the client, or a read of a process together with what it does next.  `k` is
the number of bytes that are read. -/
inductive Event where
  | send (request : Text)
  | receive (k : Nat)
  | dispatch (k : Nat)
  | process (k : Nat)
  | dispatchResponse (k : Nat)
  | receiveResponse (k : Nat) (write : Nat → Int → WriteOutcome)

/-- Can a `read` of the loop return that many bytes? -/
def CanRead (p : Pipe Byte) (k : Nat) : Prop := 0 < k ∧ k ≤ MAX_MESSAGE_LEN ∧ k ≤ p.unread.length

/-- Can the `read` of a response?  It also returns when the other side is gone. -/
def CanReceive (p : Pipe Byte) (k : Nat) (other : Phase) : Prop :=
  k ≤ MESSAGE_MAX_LEN ∧ k ≤ p.unread.length ∧ (k = 0 → p.unread = [] ∧ other = .dead)

instance (p : Pipe Byte) (k : Nat) : Decidable (CanRead p k) :=
  inferInstanceAs (Decidable (_ ∧ _ ∧ _))

instance (p : Pipe Byte) (k : Nat) (other : Phase) : Decidable (CanReceive p k other) :=
  inferInstanceAs (Decidable (_ ∧ _ ∧ (k = 0 → _ ∧ _)))

section

variable (m : Mysql) (fd : Int)

/-- The receiver reads from the client.  A text that fills the buffer is ended behind it. -/
def receive (k : Nat) (s : Route) : Route :=
  if s.receiver = .ready ∧ CanRead s.toReceiver k then
    let read := s.toReceiver.returned k
    let s := { s with toReceiver := s.toReceiver.read k }
    if k = MAX_MESSAGE_LEN then { s with receiver := .dead }
    else
      match atDispatcher fd read with
      | none => { s with receiver := .dead }
      | some needSendMessage =>
        { s with
          receiver := .waits
          toDispatcher := s.toDispatcher.write needSendMessage }
  else s

/-- The dispatcher reads from the receiver. -/
def dispatch (k : Nat) (s : Route) : Route :=
  if s.dispatcher = .ready ∧ CanRead s.toDispatcher k then
    let read := s.toDispatcher.returned k
    let s := { s with toDispatcher := s.toDispatcher.read k }
    if k = MAX_MESSAGE_LEN then { s with dispatcher := .dead }
    else
      match atManager read with
      | none => { s with dispatcher := .dead }
      | some needSendMessage =>
        { s with
          dispatcher := .waits
          toManager := s.toManager.write needSendMessage }
  else s

/-- The login manager reads from the dispatcher, and answers. -/
def process (k : Nat) (s : Route) : Route :=
  if s.loginManager = .ready ∧ CanRead s.toManager k then
    let read := s.toManager.returned k
    let s := { s with toManager := s.toManager.read k }
    if k = MAX_MESSAGE_LEN then { s with loginManager := .dead }
    else
      let s' := { s with
        processed := s.processed ++ [cstr read]
        conn := (UserLoginImpl.dealClientMessage m (cstr read) s.conn).2 }
      match (UserLoginImpl.dealClientMessage m (cstr read) s.conn).1 with
      | .error _ => { s' with loginManager := .dead }
      | .ok needSendmessage => { s' with fromManager := s.fromManager.write needSendmessage }
  else s

/-- The dispatcher reads the response and passes it on. -/
def dispatchResponse (k : Nat) (s : Route) : Route :=
  if s.dispatcher = .waits ∧ CanReceive s.fromManager k s.loginManager then
    let response := s.fromManager.returned k
    let s := { s with fromManager := s.fromManager.read k }
    if k = MESSAGE_MAX_LEN then { s with dispatcher := .dead }
    else
      { s with
        dispatcher := .ready
        fromDispatcher := s.fromDispatcher.write (cstr response) }
  else s

/-- The receiver reads the response and deals with it. -/
def receiveResponse (k : Nat) (write : Nat → Int → WriteOutcome) (s : Route) :
    Option MessageReceiver.Sent × Route :=
  if s.receiver = .waits ∧ CanReceive s.fromDispatcher k s.dispatcher then
    let response := s.fromDispatcher.returned k
    let s := { s with fromDispatcher := s.fromDispatcher.read k }
    if k = MESSAGE_MAX_LEN then (none, { s with receiver := .dead })
    else
      let s := { s with answered := s.answered ++ [cstr response] }
      match MessageReceiver.dealServiceResponse write fd (cstr response) with
      | .error _ => (none, { s with receiver := .dead })
      | .ok sent =>
        match sent.ret with
        | .error _ => (some sent, { s with receiver := .dead })
        | .ok ret => (some sent, { s with receiver := if ret < 0 then .dead else .ready })
  else (none, s)

/-- One event, and what the receiver writes to its clients. -/
def happens : Machine Event (Option MessageReceiver.Sent) Route
  | .send request, s => (none, { s with toReceiver := s.toReceiver.write request })
  | .receive k, s => (none, s.receive fd k)
  | .dispatch k, s => (none, s.dispatch k)
  | .process k, s => (none, s.process m k)
  | .dispatchResponse k, s => (none, s.dispatchResponse k)
  | .receiveResponse k write, s => s.receiveResponse fd k write

/-- The text a request is when it gets to the login manager. -/
def image (request : Text) : Option Text :=
  (atDispatcher fd request).bind fun text => (atManager text).map cstr

end

/-- The client connects. -/
def start (conn : Connection) : Route := { conn := conn }

/-- A text the client means as a request: JSON, without a zero byte. -/
def WellFormed (request : Text) : Prop := NoNul request ∧ ∃ c, parse request = .ok (some c)

/-- The read returns one of the writes, all of it and nothing else. -/
def OneWrite (p : Pipe Byte) (k : Nat) : Prop := 0 < k ∧ ∃ i, p.Whole k i

/-- The client writes requests, and every read that takes place returns one message, all of
it and nothing else. -/
def ReadsWhole : Event → Route → Prop
  | .send request, _ => WellFormed request
  | .receive k, s => s.receiver = .ready ∧ CanRead s.toReceiver k → OneWrite s.toReceiver k
  | .dispatch k, s => s.dispatcher = .ready ∧ CanRead s.toDispatcher k → OneWrite s.toDispatcher k
  | .process k, s => s.loginManager = .ready ∧ CanRead s.toManager k → OneWrite s.toManager k
  | .dispatchResponse k, s =>
    s.dispatcher = .waits ∧ CanReceive s.fromManager k s.loginManager → OneWrite s.fromManager k
  | .receiveResponse k _, s =>
    s.receiver = .waits ∧ CanReceive s.fromDispatcher k s.dispatcher → OneWrite s.fromDispatcher k

/-! ## What the sockets hold -/

/-- Every process has taken one message after the other and has passed each on, and at
most one is on its way. -/
structure Framed (m : Mysql) (fd : Int) (conn : Connection) (s : Route) : Prop where
  requests : ∀ w ∈ s.toReceiver.written, w ≠ []
  received : s.toReceiver.Relays (atDispatcher fd) s.toDispatcher.written (s.receiver ≠ .dead)
  dispatched : s.toDispatcher.Relays atManager s.toManager.written (s.dispatcher ≠ .dead)
  processed : s.toManager.Relays (fun t => some (cstr t)) s.processed (s.loginManager ≠ .dead)
  passedBack : s.fromManager.Relays (fun t => some (cstr t)) s.fromDispatcher.written
    (s.dispatcher ≠ .dead)
  answered : s.fromDispatcher.Relays (fun t => some (cstr t)) s.answered (s.receiver ≠ .dead)
  responses : s.fromManager.written.length ≤ s.processed.length
  oneOnItsWay : s.toDispatcher.written.length ≤ s.answered.length + 1
  ready : s.receiver = .ready → s.toDispatcher.written.length = s.answered.length
  waits : s.receiver = .waits → s.toDispatcher.written.length = s.answered.length + 1
  conn : s.conn = s.processed.foldl (fun c t => (UserLoginImpl.dealClientMessage m t c).2) conn

theorem framed_start (m : Mysql) (fd : Int) (conn : Connection) : (start conn).Framed m fd conn where
  requests w hw := by cases hw
  received := ⟨rfl, fun _ => rfl⟩
  dispatched := ⟨rfl, fun _ => rfl⟩
  processed := ⟨rfl, fun _ => rfl⟩
  passedBack := ⟨rfl, fun _ => rfl⟩
  answered := ⟨rfl, fun _ => rfl⟩
  responses := Nat.le_refl 0
  oneOnItsWay := Nat.zero_le 1
  ready _ := rfl
  waits h := by cases h
  conn := rfl

section

variable {m : Mysql} {fd : Int} {conn : Connection} {s : Route} {k : Nat}

theorem Framed.chain (h : s.Framed m fd conn) :
    s.answered.length ≤ s.fromDispatcher.written.length ∧
      s.fromDispatcher.written.length ≤ s.fromManager.written.length ∧
      s.processed.length ≤ s.toManager.written.length ∧
      s.toManager.written.length ≤ s.toDispatcher.written.length :=
  ⟨h.answered.length_le, h.passedBack.length_le, h.processed.length_le, h.dispatched.length_le⟩

theorem getElem?_of_whole {p : Pipe Byte} {i : Nat} (h : p.Whole k i) (hk : 0 < k) :
    p.written[i]? = some (p.returned k) := by
  have hget := List.getElem?_eq_getElem (h.lt_length hk)
  rw [hget, h.returned hget]

theorem WellFormed.ne_nil {request : Text} (h : WellFormed request) : request ≠ [] := by
  rintro rfl
  obtain ⟨-, c, hparse⟩ := h
  have hnothing : parse [] = .ok none := rfl
  rw [hnothing] at hparse
  cases hparse

theorem Framed.send (h : s.Framed m fd conn) {request : Text} (hne : request ≠ []) :
    Framed m fd conn { s with toReceiver := s.toReceiver.write request } :=
  { h with
    requests := by
      intro w hw
      rcases List.mem_append.1 hw with hw | hw
      · exact h.requests w hw
      · rw [List.mem_singleton.1 hw]
        exact hne
    received := h.received.write request }

theorem Framed.receive (h : s.Framed m fd conn)
    (hone : s.receiver = .ready ∧ CanRead s.toReceiver k → OneWrite s.toReceiver k) :
    (s.receive fd k).Framed m fd conn := by
  unfold Route.receive
  by_cases hread : s.receiver = .ready ∧ CanRead s.toReceiver k
  · rw [if_pos hread]
    dsimp only
    have hdead : Framed m fd conn
        { s with
          toReceiver := s.toReceiver.read k
          receiver := .dead } :=
      { h with
        received := h.received.dies k (not_not_intro rfl)
        answered := h.answered.imp fun hne => absurd rfl hne
        ready := fun hready => by cases hready
        waits := fun hwaits => by cases hwaits }
    by_cases hfull : k = MAX_MESSAGE_LEN
    · rw [if_pos hfull]
      exact hdead
    · rw [if_neg hfull]
      cases hnext : atDispatcher fd (s.toReceiver.returned k) with
      | none => exact hdead
      | some needSendMessage =>
        obtain ⟨hk, i, hwhole⟩ := hone hread
        have halive : s.receiver ≠ .dead := by
          rw [hread.1]
          decide
        obtain rfl := hwhole.index_of_ne_nil hk (h.received.next halive) h.requests
        have hlen := h.ready hread.1
        refine
          { h with
            received := (h.received.pass hwhole (getElem?_of_whole hwhole hk) hnext).imp fun _ => halive
            dispatched := h.dispatched.write needSendMessage
            answered := h.answered.imp fun _ => halive
            oneOnItsWay := ?_
            ready := fun hready => by cases hready
            waits := fun _ => ?_ }
        · show (s.toDispatcher.written ++ [needSendMessage]).length ≤ s.answered.length + 1
          rw [List.length_append, hlen, List.length_singleton]
        · show (s.toDispatcher.written ++ [needSendMessage]).length = s.answered.length + 1
          rw [List.length_append, hlen, List.length_singleton]
  · rw [if_neg hread]
    exact h

theorem Framed.dispatch (h : s.Framed m fd conn)
    (hone : s.dispatcher = .ready ∧ CanRead s.toDispatcher k → OneWrite s.toDispatcher k) :
    (s.dispatch k).Framed m fd conn := by
  unfold Route.dispatch
  by_cases hread : s.dispatcher = .ready ∧ CanRead s.toDispatcher k
  · rw [if_pos hread]
    dsimp only
    have hdead : Framed m fd conn
        { s with
          toDispatcher := s.toDispatcher.read k
          dispatcher := .dead } :=
      { h with
        dispatched := h.dispatched.dies k (not_not_intro rfl)
        passedBack := h.passedBack.imp fun hne => absurd rfl hne }
    by_cases hfull : k = MAX_MESSAGE_LEN
    · rw [if_pos hfull]
      exact hdead
    · rw [if_neg hfull]
      cases hnext : atManager (s.toDispatcher.returned k) with
      | none => exact hdead
      | some needSendMessage =>
        obtain ⟨hk, i, hwhole⟩ := hone hread
        have halive : s.dispatcher ≠ .dead := by
          rw [hread.1]
          decide
        obtain ⟨hback, hforth, hdone, -⟩ := h.chain
        obtain rfl := hwhole.index_of_le hk (h.dispatched.next halive) (by
          have hone := h.oneOnItsWay
          have hresponses := h.responses
          omega)
        exact
          { h with
            dispatched := (h.dispatched.pass hwhole (getElem?_of_whole hwhole hk) hnext).imp fun _ => halive
            processed := h.processed.write needSendMessage
            passedBack := h.passedBack.imp fun _ => halive }
  · rw [if_neg hread]
    exact h

theorem Framed.process (h : s.Framed m fd conn)
    (hone : s.loginManager = .ready ∧ CanRead s.toManager k → OneWrite s.toManager k) :
    (s.process m k).Framed m fd conn := by
  unfold Route.process
  by_cases hread : s.loginManager = .ready ∧ CanRead s.toManager k
  · rw [if_pos hread]
    dsimp only
    by_cases hfull : k = MAX_MESSAGE_LEN
    · rw [if_pos hfull]
      exact { h with processed := h.processed.dies k (not_not_intro rfl) }
    · rw [if_neg hfull]
      obtain ⟨hk, i, hwhole⟩ := hone hread
      have halive : s.loginManager ≠ .dead := by
        rw [hread.1]
        decide
      obtain ⟨hback, hforth, -, hdone⟩ := h.chain
      obtain rfl := hwhole.index_of_le hk (h.processed.next halive) (by
        have hone := h.oneOnItsWay
        have hresponses := h.responses
        omega)
      have hpass := h.processed.pass hwhole (getElem?_of_whole hwhole hk) rfl
      have hconn : (UserLoginImpl.dealClientMessage m (cstr (s.toManager.returned k)) s.conn).2 =
          (s.processed ++ [cstr (s.toManager.returned k)]).foldl
            (fun c t => (UserLoginImpl.dealClientMessage m t c).2) conn := by
        rw [List.foldl_append, ← h.conn]
        rfl
      have hmore : s.processed.length + 1 = (s.processed ++ [cstr (s.toManager.returned k)]).length := by
        rw [List.length_append, List.length_singleton]
      cases (UserLoginImpl.dealClientMessage m (cstr (s.toManager.returned k)) s.conn).1 with
      | error e =>
        exact
          { h with
            processed := hpass.imp fun hne => absurd rfl hne
            responses := (Nat.le_succ_of_le h.responses).trans_eq hmore
            conn := hconn }
      | ok needSendmessage =>
        exact
          { h with
            processed := hpass.imp fun _ => halive
            passedBack := h.passedBack.write needSendmessage
            responses := by
              show (s.fromManager.written ++ [needSendmessage]).length ≤ _
              rw [← hmore, List.length_append, List.length_singleton]
              exact Nat.succ_le_succ h.responses
            conn := hconn }
  · rw [if_neg hread]
    exact h

theorem Framed.dispatchResponse (h : s.Framed m fd conn)
    (hone : s.dispatcher = .waits ∧ CanReceive s.fromManager k s.loginManager →
      OneWrite s.fromManager k) :
    (s.dispatchResponse k).Framed m fd conn := by
  unfold Route.dispatchResponse
  by_cases hread : s.dispatcher = .waits ∧ CanReceive s.fromManager k s.loginManager
  · rw [if_pos hread]
    dsimp only
    by_cases hfull : k = MESSAGE_MAX_LEN
    · rw [if_pos hfull]
      exact
        { h with
          dispatched := h.dispatched.imp fun hne => absurd rfl hne
          passedBack := h.passedBack.dies k (not_not_intro rfl) }
    · rw [if_neg hfull]
      obtain ⟨hk, i, hwhole⟩ := hone hread
      have halive : s.dispatcher ≠ .dead := by
        rw [hread.1]
        decide
      obtain ⟨hback, -, hdone, hdispatched⟩ := h.chain
      obtain rfl := hwhole.index_of_le hk (h.passedBack.next halive) (by
        have hone := h.oneOnItsWay
        have hresponses := h.responses
        omega)
      exact
        { h with
          dispatched := h.dispatched.imp fun _ => halive
          passedBack := (h.passedBack.pass hwhole (getElem?_of_whole hwhole hk) rfl).imp fun _ => halive
          answered := h.answered.write _ }
  · rw [if_neg hread]
    exact h

theorem Framed.receiveResponse (h : s.Framed m fd conn)
    (hone : s.receiver = .waits ∧ CanReceive s.fromDispatcher k s.dispatcher →
      OneWrite s.fromDispatcher k)
    (write : Nat → Int → WriteOutcome) : (s.receiveResponse fd k write).2.Framed m fd conn := by
  unfold Route.receiveResponse
  by_cases hread : s.receiver = .waits ∧ CanReceive s.fromDispatcher k s.dispatcher
  · rw [if_pos hread]
    dsimp only
    by_cases hfull : k = MESSAGE_MAX_LEN
    · rw [if_pos hfull]
      exact
        { h with
          received := h.received.imp fun hne => absurd rfl hne
          answered := h.answered.dies k (not_not_intro rfl)
          ready := fun hready => by cases hready
          waits := fun hwaits => by cases hwaits }
    · rw [if_neg hfull]
      obtain ⟨hk, i, hwhole⟩ := hone hread
      have halive : s.receiver ≠ .dead := by
        rw [hread.1]
        decide
      obtain ⟨-, hforth, hdone, hdispatched⟩ := h.chain
      obtain rfl := hwhole.index_of_le hk (h.answered.next halive) (by
        have hone := h.oneOnItsWay
        have hresponses := h.responses
        omega)
      have hpass := h.answered.pass hwhole (getElem?_of_whole hwhole hk) rfl
      have hmore : s.toDispatcher.written.length =
          (s.answered ++ [cstr (s.fromDispatcher.returned k)]).length := by
        rw [h.waits hread.1, List.length_append, List.length_singleton]
      -- the receiver is ready for the next message, or dies of this response
      have hafter : ∀ phase : Phase, phase ≠ .waits → Framed m fd conn
          { s with
            fromDispatcher := s.fromDispatcher.read k
            answered := s.answered ++ [cstr (s.fromDispatcher.returned k)]
            receiver := phase } := fun phase hphase =>
        { h with
          received := h.received.imp fun _ => halive
          answered := hpass.imp fun _ => halive
          oneOnItsWay := (Nat.le_of_eq hmore).trans (Nat.le_succ _)
          ready := fun _ => hmore
          waits := fun hwaits => absurd hwaits hphase }
      cases MessageReceiver.dealServiceResponse write fd (cstr (s.fromDispatcher.returned k)) with
      | error e => exact hafter .dead (by decide)
      | ok sent =>
        cases hret : sent.ret with
        | error e =>
          simp only [hret]
          exact hafter .dead (by decide)
        | ok ret =>
          simp only [hret]
          refine hafter (if ret < 0 then .dead else .ready) ?_
          split_ifs <;> decide
  · rw [if_neg hread]
    exact h

theorem framed_step (e : Event) (hwhole : ReadsWhole e s) (h : s.Framed m fd conn) :
    (happens m fd e s).2.Framed m fd conn := by
  cases e with
  | send request => exact h.send (WellFormed.ne_nil hwhole)
  | receive k => exact h.receive hwhole
  | dispatch k => exact h.dispatch hwhole
  | process k => exact h.process hwhole
  | dispatchResponse k => exact h.dispatchResponse hwhole
  | receiveResponse k write => exact h.receiveResponse hwhole write

/-- As long as every read returns one message, the sockets hold what they should. -/
theorem framed_run {es : List Event} (hwhole : (happens m fd).Along ReadsWhole es (start conn)) :
    ((happens m fd).run es (start conn)).2.Framed m fd conn :=
  Machine.run_invariant (fun e _ => framed_step e) hwhole (framed_start m fd conn)

end

/-! ## Which requests are processed -/

/-- What the client writes in a run. -/
def requests (es : List Event) : List Text :=
  es.filterMap fun e =>
    match e with
    | .send request => some request
    | _ => none

/-- The login manager has processed these requests, every one of them once, whole and in
this order. -/
def HasProcessed (m : Mysql) (fd : Int) (conn : Connection) (requests : List Text) (s : Route) : Prop :=
  s.processed.map some = requests.map (image fd) ∧
    s.conn = s.processed.foldl (fun c t => (UserLoginImpl.dealClientMessage m t c).2) conn

section

variable {m : Mysql} {fd : Int} {conn : Connection} {s : Route}

@[simp] theorem written_receive (k : Nat) :
    (s.receive fd k).toReceiver.written = s.toReceiver.written := by
  unfold receive
  dsimp only
  split_ifs
  · rfl
  · split <;> rfl
  · rfl

@[simp] theorem toReceiver_dispatch (k : Nat) : (s.dispatch k).toReceiver = s.toReceiver := by
  unfold dispatch
  dsimp only
  split_ifs
  · rfl
  · split <;> rfl
  · rfl

@[simp] theorem toReceiver_process (k : Nat) : (s.process m k).toReceiver = s.toReceiver := by
  unfold process
  dsimp only
  split_ifs
  · rfl
  · split <;> rfl
  · rfl

@[simp] theorem toReceiver_dispatchResponse (k : Nat) :
    (s.dispatchResponse k).toReceiver = s.toReceiver := by
  unfold dispatchResponse
  dsimp only
  split_ifs <;> rfl

@[simp] theorem toReceiver_receiveResponse (k : Nat) (write : Nat → Int → WriteOutcome) :
    (s.receiveResponse fd k write).2.toReceiver = s.toReceiver := by
  unfold receiveResponse
  dsimp only
  split_ifs
  · rfl
  · split
    · rfl
    · split <;> rfl
  · rfl

/-- Only the client writes to the receiver. -/
theorem toReceiver_written_step (e : Event) :
    (happens m fd e s).2.toReceiver.written = s.toReceiver.written ++ requests [e] := by
  cases e <;> simp [happens, requests]

theorem toReceiver_written_run (es : List Event) :
    ((happens m fd).run es s).2.toReceiver.written = s.toReceiver.written ++ requests es := by
  induction es generalizing s with
  | nil => exact (List.append_nil _).symm
  | cons e es ih =>
    rw [Machine.run_cons, ih, toReceiver_written_step, List.append_assoc]
    have happend : requests ([e] ++ es) = requests [e] ++ requests es := List.filterMap_append
    rw [← happend, List.singleton_append]

/-- The texts that were processed are the first requests on their way through the receiver
and the dispatcher. -/
theorem Framed.processed_eq (h : s.Framed m fd conn) :
    s.processed.map some = (s.toReceiver.written.take s.processed.length).map (image fd) := by
  have hmanager := h.dispatched.outputs_comp h.processed.outputs
  rw [h.received.outputs_comp hmanager]
  congr 1
  funext request
  rw [image]
  congr 1
  funext text
  cases atManager text <;> rfl

theorem Framed.length_processed_le (h : s.Framed m fd conn) :
    s.processed.length ≤ s.toReceiver.written.length := by
  obtain ⟨-, -, hdone, hdispatched⟩ := h.chain
  exact hdone.trans (hdispatched.trans h.received.length_le)

/-- A receiver that is ready and has read everything has had everything processed. -/
theorem Framed.length_processed (h : s.Framed m fd conn) (hready : s.receiver = .ready)
    (hunread : s.toReceiver.unread = []) : s.processed.length = s.toReceiver.written.length := by
  have halive : s.receiver ≠ .dead := by
    rw [hready]
    decide
  have hread := Pipe.length_le_of_unread (h.received.next halive) h.requests hunread
  have hanswered := h.ready hready
  have hresponses := h.responses
  obtain ⟨hback, hforth, -, -⟩ := h.chain
  have hle := h.length_processed_le
  omega

end

/-- However many requests are sent, and whichever process reads when: as long as every read
returns one message, the login manager has processed the first of the requests, each of
them once, whole and in order; and all of them when the receiver has read everything and
is ready for more. -/
theorem requests_processed (m : Mysql) (fd : Int) (conn : Connection) (es : List Event)
    (hwhole : (happens m fd).Along ReadsWhole es (start conn)) :
    (∃ n ≤ (requests es).length, HasProcessed m fd conn ((requests es).take n)
      ((happens m fd).run es (start conn)).2) ∧
    (((happens m fd).run es (start conn)).2.receiver = .ready →
      ((happens m fd).run es (start conn)).2.toReceiver.unread = [] →
      HasProcessed m fd conn (requests es) ((happens m fd).run es (start conn)).2) := by
  have hframed := framed_run hwhole
  have hwritten : ((happens m fd).run es (start conn)).2.toReceiver.written = requests es :=
    (toReceiver_written_run es).trans (List.nil_append _)
  have hprocessed := hframed.processed_eq
  have hle := hframed.length_processed_le
  rw [hwritten] at hprocessed hle
  refine ⟨⟨_, hle, hprocessed, hframed.conn⟩, fun hready hunread => ⟨?_, hframed.conn⟩⟩
  have hall := hframed.length_processed hready hunread
  rw [hwritten] at hall
  rw [hprocessed, hall, List.take_length]

/-- A request to log out. -/
def logoutRequest : Text := ascii "\x7b\"messageType\":3,\"message\":\x7b\"userName\":\"u\"\x7d\x7d"

theorem wellFormed_logoutRequest : WellFormed logoutRequest := by
  obtain ⟨c, hparse, -⟩ := exists_of_isObject (t := logoutRequest) (by decide)
  exact ⟨noNul_of_notMem (by decide), c, hparse⟩

/-- It is read whole by everybody. -/
def readWhole : List Event :=
  [.send logoutRequest, .receive 44, .dispatch 72, .process 88, .dispatchResponse 92,
    .receiveResponse 92 fun _ _ => .done]

theorem requests_processed_whole :
    HasProcessed memoryServer 6 { db := {} } [logoutRequest]
      ((happens memoryServer 6).run readWhole (start { db := {} })).2 := by
  have hwhole : (happens memoryServer 6).Along ReadsWhole readWhole (start { db := {} }) :=
    ⟨wellFormed_logoutRequest, fun _ => ⟨by decide, 0, by decide⟩,
      fun _ => ⟨by decide, 0, by decide +kernel⟩, fun _ => ⟨by decide, 0, by decide +kernel⟩,
      fun _ => ⟨by decide, 0, by decide +kernel⟩, fun _ => ⟨by decide, 0, by decide +kernel⟩, trivial⟩
  exact (requests_processed memoryServer 6 { db := {} } readWhole hwhole).2 (by decide +kernel)
    (by decide +kernel)

/-- Two of them are read at once by the receiver. -/
def readTogether : List Event :=
  [.send logoutRequest, .send logoutRequest, .receive 88, .dispatch 72, .process 88,
    .dispatchResponse 92, .receiveResponse 92 fun _ _ => .done]

/-- The second request is dropped when both are there before the receiver reads. -/
theorem request_dropped :
    ¬ ∀ (m : Mysql) (fd : Int) (conn : Connection) (es : List Event),
      (∀ request ∈ requests es, WellFormed request ∧ request.length < MAX_MESSAGE_LEN) →
      ((happens m fd).run es (start conn)).2.receiver = .ready →
      ((happens m fd).run es (start conn)).2.toReceiver.unread = [] →
      HasProcessed m fd conn (requests es) ((happens m fd).run es (start conn)).2 := by
  intro h
  have hrequests : ∀ request ∈ requests readTogether,
      WellFormed request ∧ request.length < MAX_MESSAGE_LEN := by
    intro request hrequest
    have hsame : request = logoutRequest := by
      rcases List.mem_cons.1 hrequest with hrequest | hrequest
      · exact hrequest
      · exact List.mem_singleton.1 hrequest
    rw [hsame]
    exact ⟨wellFormed_logoutRequest, by decide⟩
  obtain ⟨hprocessed, -⟩ := h memoryServer 6 { db := {} } readTogether hrequests (by decide +kernel)
    (by decide +kernel)
  have hone : ((happens memoryServer 6).run readTogether (start { db := {} })).2.processed.length = 1 := by
    decide +kernel
  have hlen := congrArg List.length hprocessed
  rw [List.length_map, hone, List.length_map] at hlen
  exact absurd hlen (by decide)

end Route

end SingleTerminalLogin
