import SingleTerminalLogin.Lib.Exclusive
import SingleTerminalLogin.Lib.Machine
import SingleTerminalLogin.Lib.Process
import SingleTerminalLogin.Lib.ByteText

/-!
# The event loop of a service

The three services run one loop, `mylib/mylib_daemon/daemon.cpp` and the `main` of
each.  A message that was read travels to the handler through the kernel: its buffer
is the `data.ptr` that epoll hands out when the descriptor can be written to.

* `dealConnectRequest`, `dealReadEvent`, `dealWriteEvent` — the handlers, with what
  the system calls return as parameters;
* `Daemon.happens` — one event;
* `Registered` — the registrations and the buffers fit together;
* `registered_run_iff` — they do after every event of a run exactly when no read, no
  `EPOLL_CTL_MOD` and no `dealClientMessage` fails.
-/

namespace SingleTerminalLogin

open ByteText CProgram Proc

def MAX_MESSAGE_LEN : Nat := 10240

/-- `eventDataBuf_t`.  `number` is not in the program: it tells the messages apart. -/
structure EventDataBuf where
  fd : Int
  code : Int := 0
  message : Text := []
  number : Nat := 0

/-- What a descriptor is registered for, with the `data.ptr` of a writer. -/
inductive Interest where
  | EPOLLIN
  | EPOLLOUT (ptr : Nat)
  deriving DecidableEq

/-- The registrations with epoll and the buffers that are allocated.  `messages` and
`dealt` are not in the program: how many messages were read, and which of them were
handed to `dealClientMessage`. -/
structure Daemon where
  listenSocket : Int
  interest : Int → Option Interest
  heap : Nat → Option EventDataBuf
  messages : Nat := 0
  dealt : List Nat := []

namespace Daemon

/-! ## System calls -/

/-- `malloc`, which returns this address. -/
def malloc (ptr : Nat) (buf : EventDataBuf) : Proc Daemon Unit := fun s =>
  (.ok (), { s with heap := Function.update s.heap ptr (some buf) })

/-- `free`. -/
def free (ptr : Nat) : Proc Daemon Unit := fun s =>
  match s.heap ptr with
  | none => (.error .memory, s)
  | some _ => (.ok (), { s with heap := Function.update s.heap ptr none })

/-- Use a buffer through its address. -/
def load (ptr : Nat) : Proc Daemon EventDataBuf := fun s =>
  match s.heap ptr with
  | none => (.error .memory, s)
  | some buf => (.ok buf, s)

/-- `epoll_ctl` with `EPOLL_CTL_ADD` or `EPOLL_CTL_MOD`. -/
def epollCtl (fd : Int) (interest : Interest) (ok : Bool) : Proc Daemon Int := fun s =>
  if ok then (.ok 0, { s with interest := Function.update s.interest fd (some interest) })
  else (.ok (-1), s)

/-- `close`, which also takes the descriptor out of epoll. -/
def close (fd : Int) : Proc Daemon Unit := fun s =>
  (.ok (), { s with interest := Function.update s.interest fd none })

/-- The next message was read. -/
def received : Proc Daemon Nat := fun s => (.ok s.messages, { s with messages := s.messages + 1 })

/-- The message was handed to `dealClientMessage`. -/
def handed (number : Nat) : Proc Daemon Unit := fun s => (.ok (), { s with dealt := s.dealt ++ [number] })

/-! ## The handlers -/

/-- `DaemonBase::dealConnectRequest`. -/
def dealConnectRequest (linkedSocket : Option Int) (ctlOk : Bool) : Proc Daemon Int := do
  match linkedSocket with
  | none => pure (-1)
  | some linkedSocket =>
    let ret ← epollCtl linkedSocket .EPOLLIN ctlOk
    if ret < 0 then pure (-1) else pure 0

/-- `DaemonBase::dealReadEvent`.  `got` is what `read` returned: nothing when it
failed, and no byte at the end of the connection.  The text is ended behind its last
byte, so one that fills `message` is ended behind the buffer. -/
def dealReadEvent (fd : Int) (ptr : Nat) (got : Option Text) (ctlOk : Bool) : Proc Daemon Int := do
  match got with
  | none =>
    malloc ptr
      { fd := fd
        code := -1
        message := ascii "SYSTEM_ERROR: read system call failed!" }
    pure (-1)
  | some [] =>
    malloc ptr { fd := fd }
    close fd
    free ptr
    pure 0
  | some message =>
    let number ← received
    malloc ptr
      { fd := fd
        message := message
        number := number }
    if MAX_MESSAGE_LEN ≤ message.length then lift (.error .memory)
    else do
      -- a failing `epoll_ctl` is only logged
      let _ ← epollCtl fd (.EPOLLOUT ptr) ctlOk
      pure 0

/-- `DaemonBase::dealWriteEvent`, where `dealClientMessage` returns `ret`. -/
def dealWriteEvent (data : Nat) (ret : Int) (ctlOk : Bool) : Proc Daemon Int := do
  let eventDataBuf ← load data
  handed eventDataBuf.number
  if ret < 0 then do
    free data
    pure (-1)
  else do
    free data
    let ret ← epollCtl eventDataBuf.fd .EPOLLIN ctlOk
    if ret < 0 then pure (-1) else pure 0

/-! ## Events -/

/-- What the loop is told by `epoll_wait`, together with what the system calls and
`dealClientMessage` are going to return. -/
inductive Event where
  | connect (linkedSocket : Option Int) (ctlOk : Bool)
  | readable (fd : Int) (ptr : Nat) (got : Option Text) (ctlOk : Bool)
  | writable (fd : Int) (ret : Int) (ctlOk : Bool)

/-- What a descriptor that is armed for writing refers to. -/
def pending (s : Daemon) (fd : Int) : Option Nat :=
  match s.interest fd with
  | some (.EPOLLOUT ptr) => some ptr
  | _ => none

/-- Can this descriptor be ready for reading, other than with a connection to accept, and
can `malloc` return this address? -/
def readable (s : Daemon) (fd : Int) (ptr : Nat) : Bool :=
  decide (fd ≠ s.listenSocket) && decide (s.interest fd = some .EPOLLIN) && (s.heap ptr).isNone

/-- One event.  The kernel hands out descriptors that are not in use, `malloc` memory
that is not, and a descriptor is ready for what it is registered for; other events do
not happen. -/
def happens : Machine Event (C Int) Daemon
  | .connect linkedSocket ctlOk, s =>
    if (linkedSocket.bind s.interest) = none then dealConnectRequest linkedSocket ctlOk s
    else (.ok 0, s)
  | .readable fd ptr got ctlOk, s =>
    if s.readable fd ptr then dealReadEvent fd ptr got ctlOk s
    else (.ok 0, s)
  | .writable fd ret ctlOk, s =>
    match s.pending fd with
    | some data => dealWriteEvent data ret ctlOk s
    | none => (.ok 0, s)

/-- The loop before the first event: the listening socket and the connections to other
services wait to be read. -/
def start (listenSocket : Int) (services : List Int) : Daemon where
  listenSocket := listenSocket
  interest fd := if fd = listenSocket ∨ fd ∈ services then some .EPOLLIN else none
  heap _ := none

/-! ## Registrations and buffers -/

/-- A descriptor armed for writing refers to an outstanding buffer that is for it, and
every outstanding buffer is referred to by exactly one. -/
structure Registered (s : Daemon) : Prop where
  armed : ∀ fd ptr, s.interest fd = some (.EPOLLOUT ptr) → ∃ buf, s.heap ptr = some buf ∧ buf.fd = fd
  referred : ∀ ptr buf, s.heap ptr = some buf → ∃! fd, s.interest fd = some (.EPOLLOUT ptr)

section

variable {s : Daemon}

theorem pending_eq_some {fd : Int} {ptr : Nat} :
    s.pending fd = some ptr ↔ s.interest fd = some (.EPOLLOUT ptr) := by
  unfold pending
  cases s.interest fd with
  | none => simp
  | some interest => cases interest <;> simp

theorem registered_iff : s.Registered ↔ Exclusive s.pending s.heap EventDataBuf.fd := by
  rw [exclusive_iff]
  constructor
  · rintro ⟨harmed, hreferred⟩
    simpa only [pending_eq_some] using ⟨harmed, hreferred⟩
  · intro h
    simp only [pending_eq_some] at h
    exact ⟨h.1, h.2⟩

theorem registered_start (listenSocket : Int) (services : List Int) :
    (start listenSocket services).Registered := by
  refine registered_iff.2 (Exclusive.empty (fun fd => ?_) fun _ => rfl)
  unfold pending start
  dsimp only
  split
  · split at * <;> simp_all
  · rfl

/-- Registering a descriptor changes what it refers to. -/
theorem pending_update (s : Daemon) (fd : Int) (interest : Option Interest) :
    pending { s with interest := Function.update s.interest fd interest } =
      Function.update s.pending fd (match interest with
        | some (.EPOLLOUT ptr) => some ptr
        | _ => none) := by
  funext k
  unfold pending
  by_cases hk : k = fd
  · subst hk
    simp only [Function.update_self]
  · simp only [Function.update_of_ne hk]

theorem readable_iff {fd : Int} {ptr : Nat} : s.readable fd ptr = true ↔
    fd ≠ s.listenSocket ∧ s.interest fd = some .EPOLLIN ∧ s.heap ptr = none := by
  simp [readable, and_assoc]

/-- A descriptor that waits to be read refers to nothing. -/
theorem pending_of_reading {fd : Int} (h : s.interest fd = some .EPOLLIN) : s.pending fd = none := by
  rw [pending, h]

theorem pending_of_unused {fd : Int} (h : s.interest fd = none) : s.pending fd = none := by
  rw [pending, h]

/-! ## What the handlers do -/

/-- A new connection waits to be read, or is not registered at all. -/
theorem dealConnectRequest_run {linkedSocket : Option Int} (ctlOk : Bool)
    (h : linkedSocket.bind s.interest = none) :
    ∃ ret interest, dealConnectRequest linkedSocket ctlOk s = (.ok ret, { s with interest := interest }) ∧
      pending { s with interest := interest } = s.pending := by
  cases linkedSocket with
  | none => exact ⟨-1, s.interest, rfl, rfl⟩
  | some fd =>
    cases ctlOk with
    | false => exact ⟨-1, s.interest, rfl, rfl⟩
    | true =>
      refine ⟨0, Function.update s.interest fd (some .EPOLLIN), rfl, ?_⟩
      exact (pending_update s fd (some .EPOLLIN)).trans
        (Function.update_eq_self_iff.2 (pending_of_unused h).symm)

/-- At the end of a connection the buffer is released and the descriptor forgotten. -/
theorem dealReadEvent_closed (fd : Int) {ptr : Nat} (ctlOk : Bool) (hptr : s.heap ptr = none) :
    dealReadEvent fd ptr (some []) ctlOk s =
      (.ok 0, { s with interest := Function.update s.interest fd none }) := by
  have hfree : free ptr { s with
      interest := Function.update s.interest fd none
      heap := Function.update s.heap ptr (some { fd := fd }) } =
        (.ok (), { s with interest := Function.update s.interest fd none }) := by
    rw [free]
    have hheap : Function.update s.heap ptr none = s.heap := Function.update_eq_self_iff.2 hptr.symm
    simp only [Function.update_self, Function.update_idem, hheap]
  exact bind_run_ok hfree

/-- A message that was read is armed for writing. -/
theorem dealReadEvent_received {fd : Int} {ptr : Nat} {message : Text} (hne : message ≠ [])
    (hfits : message.length < MAX_MESSAGE_LEN) :
    dealReadEvent fd ptr (some message) true s = (.ok 0, { s with
      interest := Function.update s.interest fd (some (.EPOLLOUT ptr))
      heap := Function.update s.heap ptr (some ⟨fd, 0, message, s.messages⟩)
      messages := s.messages + 1 }) := by
  cases message with
  | nil => exact absurd rfl hne
  | cons b bs =>
    have hfits' : ¬ MAX_MESSAGE_LEN ≤ (b :: bs).length := not_le.2 hfits
    change (if MAX_MESSAGE_LEN ≤ (b :: bs).length then lift (.error .memory)
      else do
        let _ ← epollCtl fd (.EPOLLOUT ptr) true
        pure 0 : Proc Daemon Int) _ = _
    rw [if_neg hfits']
    rfl

/-- A message that does not fit, or that is not armed, stays in its buffer. -/
theorem dealReadEvent_unarmed (fd : Int) (ptr : Nat) {message : Text} {ctlOk : Bool} (hne : message ≠ [])
    (hbad : MAX_MESSAGE_LEN ≤ message.length ∨ ctlOk = false) :
    (dealReadEvent fd ptr (some message) ctlOk s).2 = { s with
      heap := Function.update s.heap ptr (some ⟨fd, 0, message, s.messages⟩)
      messages := s.messages + 1 } := by
  cases message with
  | nil => exact absurd rfl hne
  | cons b bs =>
    change ((if MAX_MESSAGE_LEN ≤ (b :: bs).length then lift (.error .memory)
      else do
        let _ ← epollCtl fd (.EPOLLOUT ptr) ctlOk
        pure 0 : Proc Daemon Int) _).2 = _
    by_cases hlen : MAX_MESSAGE_LEN ≤ (b :: bs).length
    · rw [if_pos hlen]
      rfl
    · rw [if_neg hlen]
      obtain rfl := hbad.resolve_left hlen
      rfl

/-- The buffer of a read that failed is left behind. -/
theorem dealReadEvent_lost (fd : Int) (ptr : Nat) {got : Option Text} {ctlOk : Bool}
    (h : ∀ message, got = some message → message ≠ [] ∧ (MAX_MESSAGE_LEN ≤ message.length ∨ ctlOk = false)) :
    (∃ buf, (dealReadEvent fd ptr got ctlOk s).2.heap = Function.update s.heap ptr (some buf)) ∧
      (dealReadEvent fd ptr got ctlOk s).2.pending = s.pending := by
  cases got with
  | none => exact ⟨⟨_, rfl⟩, rfl⟩
  | some message =>
    obtain ⟨hne, hbad⟩ := h message rfl
    rw [dealReadEvent_unarmed fd ptr hne hbad]
    exact ⟨⟨_, rfl⟩, rfl⟩

/-- Whatever the handler returns, its buffer has been used and is released. -/
theorem dealWriteEvent_run {data : Nat} {buf : EventDataBuf} (ret : Int) (ctlOk : Bool)
    (hbuf : s.heap data = some buf) :
    dealWriteEvent data ret ctlOk s = (if ret < 0 then pure (-1) else do
      let ret ← epollCtl buf.fd .EPOLLIN ctlOk
      if ret < 0 then pure (-1) else pure 0 : Proc Daemon Int) { s with
        heap := Function.update s.heap data none
        dealt := s.dealt ++ [buf.number] } := by
  have hload : load data s = (.ok buf, s) := by
    rw [load]
    simp only [hbuf]
  have hfree : free data { s with dealt := s.dealt ++ [buf.number] } = (.ok (), { s with
      heap := Function.update s.heap data none
      dealt := s.dealt ++ [buf.number] }) := by
    rw [free]
    simp only [hbuf]
  rw [dealWriteEvent, bind_run_ok hload, bind_run_ok (rfl : handed buf.number s = (.ok (), _))]
  by_cases hret : ret < 0
  · rw [if_pos hret, if_pos hret, bind_run_ok hfree]
  · rw [if_neg hret, if_neg hret, bind_run_ok hfree]

/-- A message that was dealt with is released and the descriptor waits to be read. -/
theorem dealWriteEvent_dealt {data : Nat} {buf : EventDataBuf} {ret : Int} (hbuf : s.heap data = some buf)
    (hret : 0 ≤ ret) :
    dealWriteEvent data ret true s = (.ok 0, { s with
      interest := Function.update s.interest buf.fd (some .EPOLLIN)
      heap := Function.update s.heap data none
      dealt := s.dealt ++ [buf.number] }) := by
  rw [dealWriteEvent_run ret true hbuf, if_neg (not_lt.2 hret)]
  rfl

/-- When one of the steps fails the buffer is released all the same, and the
descriptor keeps referring to it. -/
theorem dealWriteEvent_dangling {data : Nat} {buf : EventDataBuf} {ret : Int} {ctlOk : Bool}
    (hbuf : s.heap data = some buf) (h : ret < 0 ∨ ctlOk = false) :
    (dealWriteEvent data ret ctlOk s).2 = { s with
      heap := Function.update s.heap data none
      dealt := s.dealt ++ [buf.number] } := by
  rw [dealWriteEvent_run ret ctlOk hbuf]
  by_cases hret : ret < 0
  · rw [if_pos hret]
    rfl
  · rw [if_neg hret]
    obtain rfl := h.resolve_left hret
    rfl

/-! ## What one event does -/

theorem happens_connect (linkedSocket : Option Int) (ctlOk : Bool) :
    happens (.connect linkedSocket ctlOk) s =
      if linkedSocket.bind s.interest = none then dealConnectRequest linkedSocket ctlOk s
      else (.ok 0, s) := rfl

theorem happens_readable (fd : Int) (ptr : Nat) (got : Option Text) (ctlOk : Bool) :
    happens (.readable fd ptr got ctlOk) s =
      if s.readable fd ptr then dealReadEvent fd ptr got ctlOk s
      else (.ok 0, s) := rfl

theorem happens_writable (fd ret : Int) (ctlOk : Bool) :
    happens (.writable fd ret ctlOk) s =
      match s.pending fd with
      | some data => dealWriteEvent data ret ctlOk s
      | none => (.ok 0, s) := rfl

/-- Nothing fails that leaves a buffer behind, or a descriptor with a buffer that is
gone: a `read`, an `EPOLL_CTL_MOD`, `dealClientMessage`, or the byte behind a message. -/
def Goes : Event → Daemon → Prop
  | .connect _ _, _ => True
  | .readable fd ptr got ctlOk, s => s.readable fd ptr = true →
      ∃ message, got = some message ∧ message.length < MAX_MESSAGE_LEN ∧ (message = [] ∨ ctlOk = true)
  | .writable fd ret ctlOk, s => s.pending fd ≠ none → 0 ≤ ret ∧ ctlOk = true

/-- A new connection refers to no buffer. -/
theorem registered_connect (linkedSocket : Option Int) (ctlOk : Bool) (hs : s.Registered) :
    (happens (.connect linkedSocket ctlOk) s).2.Registered := by
  rw [happens_connect]
  by_cases hfree : linkedSocket.bind s.interest = none
  · rw [if_pos hfree]
    obtain ⟨ret, interest, hrun, hpending⟩ := dealConnectRequest_run ctlOk hfree
    rw [hrun, registered_iff, hpending]
    exact registered_iff.1 hs
  · rw [if_neg hfree]
    exact hs

/-- What was read is armed for writing, or the connection has ended: nothing is left behind. -/
theorem registered_received {fd : Int} {ptr : Nat} {message : Text} {ctlOk : Bool} (hs : s.Registered)
    (henabled : s.readable fd ptr = true) (hlen : message.length < MAX_MESSAGE_LEN)
    (hctl : message = [] ∨ ctlOk = true) : (dealReadEvent fd ptr (some message) ctlOk s).2.Registered := by
  have hex := registered_iff.1 hs
  obtain ⟨-, hfd, hptr⟩ := readable_iff.1 henabled
  rw [registered_iff]
  by_cases hnil : message = []
  · subst hnil
    rw [dealReadEvent_closed fd ctlOk hptr, pending_update,
      Function.update_eq_self_iff.2 (pending_of_reading hfd).symm]
    exact hex
  · obtain rfl := hctl.resolve_left hnil
    rw [dealReadEvent_received hnil hlen]
    have hgive := hex.give (b := ⟨fd, 0, message, s.messages⟩) (pending_of_reading hfd) hptr
    rw [← pending_update s fd (some (.EPOLLOUT ptr))] at hgive
    exact hgive

/-- A read that fails, or whose message is not armed, leaves a buffer that nothing refers to. -/
theorem not_registered_lost {fd : Int} {ptr : Nat} {got : Option Text} {ctlOk : Bool} (hs : s.Registered)
    (hptr : s.heap ptr = none)
    (hlost : ∀ message, got = some message → message ≠ [] ∧ (MAX_MESSAGE_LEN ≤ message.length ∨ ctlOk = false)) :
    ¬ (dealReadEvent fd ptr got ctlOk s).2.Registered := by
  rw [registered_iff]
  obtain ⟨⟨buf, hheap⟩, hpending⟩ := dealReadEvent_lost (s := s) fd ptr hlost
  refine Exclusive.not_of_lost (p := ptr) (b := buf) ?_ fun k hk => ?_
  · rw [hheap, Function.update_self]
  · rw [hpending] at hk
    obtain ⟨b, hb, -⟩ := (registered_iff.1 hs).held k ptr hk
    rw [hptr] at hb
    cases hb

theorem registered_readable_iff (fd : Int) (ptr : Nat) (got : Option Text) (ctlOk : Bool) (hs : s.Registered) :
    (happens (.readable fd ptr got ctlOk) s).2.Registered ↔ Goes (.readable fd ptr got ctlOk) s := by
  rw [happens_readable]
  by_cases henabled : s.readable fd ptr = true
  · rw [if_pos henabled]
    by_cases hgoes : ∃ message, got = some message ∧ message.length < MAX_MESSAGE_LEN ∧
        (message = [] ∨ ctlOk = true)
    · refine iff_of_true ?_ fun _ => hgoes
      obtain ⟨message, rfl, hlen, hctl⟩ := hgoes
      exact registered_received hs henabled hlen hctl
    · refine iff_of_false ?_ fun h => hgoes (h henabled)
      refine not_registered_lost hs (readable_iff.1 henabled).2.2 ?_
      rintro message rfl
      have hne : message ≠ [] := by
        rintro rfl
        exact hgoes ⟨[], rfl, by decide, Or.inl rfl⟩
      refine ⟨hne, ?_⟩
      by_contra hgood
      rw [not_or, not_le, Bool.not_eq_false] at hgood
      exact hgoes ⟨message, rfl, hgood.1, Or.inr hgood.2⟩
  · rw [if_neg henabled]
    exact iff_of_true hs fun h => absurd h henabled

theorem registered_writable_iff (fd ret : Int) (ctlOk : Bool) (hs : s.Registered) :
    (happens (.writable fd ret ctlOk) s).2.Registered ↔ Goes (.writable fd ret ctlOk) s := by
  have hex := registered_iff.1 hs
  rw [happens_writable]
  cases hdata : s.pending fd with
  | none => exact iff_of_true hs fun h => absurd hdata h
  | some data =>
    dsimp only
    obtain ⟨buf, hbuf, rfl⟩ := hex.held fd data hdata
    rw [registered_iff]
    by_cases hgoes : 0 ≤ ret ∧ ctlOk = true
    · refine iff_of_true ?_ fun _ => hgoes
      obtain ⟨hret, rfl⟩ := hgoes
      rw [dealWriteEvent_dealt hbuf hret]
      have htake := hex.take hdata
      rw [← pending_update s buf.fd (some .EPOLLIN)] at htake
      exact htake
    · refine iff_of_false ?_ fun h => hgoes (h (by rw [hdata]; exact Option.some_ne_none data))
      have hbad : ret < 0 ∨ ctlOk = false := by
        by_contra hgood
        rw [not_or, not_lt, Bool.not_eq_false] at hgood
        exact hgoes hgood
      rw [dealWriteEvent_dangling hbuf hbad]
      refine Exclusive.not_of_dangling (k := buf.fd) (p := data) ?_ (Function.update_self ..)
      exact hdata

/-- The registrations and the buffers still fit after an event exactly when nothing of
the kind fails. -/
theorem registered_step_iff (e : Event) (hs : s.Registered) :
    (happens e s).2.Registered ↔ Goes e s := by
  cases e with
  | connect linkedSocket ctlOk => exact iff_of_true (registered_connect linkedSocket ctlOk hs) trivial
  | readable fd ptr got ctlOk => exact registered_readable_iff fd ptr got ctlOk hs
  | writable fd ret ctlOk => exact registered_writable_iff fd ret ctlOk hs

/-! ## No message is lost or dealt with twice -/

/-- Every message that was read has been dealt with once, or waits in one buffer to be
dealt with. -/
structure Accounted (s : Daemon) : Prop where
  nodup : s.dealt.Nodup
  numbered : ∀ n ∈ s.dealt, n < s.messages
  outstanding : ∀ ptr buf, s.heap ptr = some buf → buf.number < s.messages ∧ buf.number ∉ s.dealt
  distinct : ∀ ptr ptr' buf buf', s.heap ptr = some buf → s.heap ptr' = some buf' →
    buf.number = buf'.number → ptr = ptr'
  kept : ∀ n < s.messages, n ∈ s.dealt ∨ ∃ ptr buf, s.heap ptr = some buf ∧ buf.number = n

theorem accounted_start (listenSocket : Int) (services : List Int) :
    (start listenSocket services).Accounted := by
  refine ⟨List.nodup_nil, fun n hn => ?_, fun ptr buf h => ?_, fun ptr ptr' buf buf' h => ?_,
    fun n hn => absurd hn (Nat.not_lt_zero n)⟩
  · cases hn
  · cases h
  · cases h

theorem Accounted.interest (h : s.Accounted) (interest : Int → Option Interest) :
    Accounted { s with interest := interest } :=
  ⟨h.nodup, h.numbered, h.outstanding, h.distinct, h.kept⟩

/-- The next message gets the next number. -/
theorem Accounted.received (h : s.Accounted) {ptr : Nat} (hptr : s.heap ptr = none) (fd : Int)
    (message : Text) (interest : Int → Option Interest) : Accounted { s with
      interest := interest
      heap := Function.update s.heap ptr (some ⟨fd, 0, message, s.messages⟩)
      messages := s.messages + 1 } := by
  have hold : ∀ q buf, q ≠ ptr → Function.update s.heap ptr (some ⟨fd, 0, message, s.messages⟩) q = some buf →
      s.heap q = some buf := by
    intro q buf hq hbuf
    rw [Function.update_of_ne hq] at hbuf
    exact hbuf
  have hnew : ∀ buf, Function.update s.heap ptr (some ⟨fd, 0, message, s.messages⟩) ptr = some buf →
      buf.number = s.messages := by
    intro buf hbuf
    rw [Function.update_self, Option.some.injEq] at hbuf
    rw [← hbuf]
  refine ⟨h.nodup, fun n hn => Nat.lt_succ_of_lt (h.numbered n hn), ?_, ?_, ?_⟩
  · intro q buf hbuf
    by_cases hq : q = ptr
    · subst hq
      rw [hnew buf hbuf]
      exact ⟨Nat.lt_succ_self _, fun hn => lt_irrefl _ (h.numbered _ hn)⟩
    · obtain ⟨hlt, hnot⟩ := h.outstanding q buf (hold q buf hq hbuf)
      exact ⟨Nat.lt_succ_of_lt hlt, hnot⟩
  · intro q q' buf buf' hbuf hbuf' hnumber
    by_cases hq : q = ptr
    · by_cases hq' : q' = ptr
      · rw [hq, hq']
      · subst hq
        have hlt := (h.outstanding q' buf' (hold q' buf' hq' hbuf')).1
        rw [← hnumber, hnew buf hbuf] at hlt
        exact absurd hlt (lt_irrefl _)
    · by_cases hq' : q' = ptr
      · subst hq'
        have hlt := (h.outstanding q buf (hold q buf hq hbuf)).1
        rw [hnumber, hnew buf' hbuf'] at hlt
        exact absurd hlt (lt_irrefl _)
      · exact h.distinct q q' buf buf' (hold q buf hq hbuf) (hold q' buf' hq' hbuf') hnumber
  · intro n hn
    rcases Nat.lt_succ_iff_lt_or_eq.1 hn with hn | rfl
    · refine (h.kept n hn).imp_right ?_
      rintro ⟨q, buf, hbuf, hnumber⟩
      have hq : q ≠ ptr := by
        rintro rfl
        rw [hptr] at hbuf
        cases hbuf
      exact ⟨q, buf, (Function.update_of_ne hq ..).trans hbuf, hnumber⟩
    · exact Or.inr ⟨ptr, _, Function.update_self .., rfl⟩

/-- A buffer that is released has been dealt with. -/
theorem Accounted.dealt_with (h : s.Accounted) {data : Nat} {buf : EventDataBuf}
    (hbuf : s.heap data = some buf) (interest : Int → Option Interest) : Accounted { s with
      interest := interest
      heap := Function.update s.heap data none
      dealt := s.dealt ++ [buf.number] } := by
  have hold : ∀ q buf', Function.update s.heap data none q = some buf' →
      q ≠ data ∧ s.heap q = some buf' := by
    intro q buf' hbuf'
    by_cases hq : q = data
    · subst hq
      rw [Function.update_self] at hbuf'
      cases hbuf'
    · rw [Function.update_of_ne hq] at hbuf'
      exact ⟨hq, hbuf'⟩
  obtain ⟨hlt, hnot⟩ := h.outstanding data buf hbuf
  refine ⟨?_, ?_, ?_, ?_, ?_⟩
  · refine List.Nodup.append h.nodup (List.nodup_singleton _) ?_
    intro n hn hn'
    rw [List.mem_singleton] at hn'
    exact hnot (hn' ▸ hn)
  · intro n hn
    rcases List.mem_append.1 hn with hn | hn
    · exact h.numbered n hn
    · rw [List.mem_singleton.1 hn]
      exact hlt
  · intro q buf' hbuf'
    obtain ⟨hq, hbuf'⟩ := hold q buf' hbuf'
    obtain ⟨hlt', hnot'⟩ := h.outstanding q buf' hbuf'
    refine ⟨hlt', fun hn => ?_⟩
    rcases List.mem_append.1 hn with hn | hn
    · exact hnot' hn
    · exact hq (h.distinct q data buf' buf hbuf' hbuf (List.mem_singleton.1 hn))
  · intro q q' b b' hb hb' hnumber
    exact h.distinct q q' b b' (hold q b hb).2 (hold q' b' hb').2 hnumber
  · intro n hn
    rcases h.kept n hn with hn | ⟨q, b, hb, rfl⟩
    · exact Or.inl (List.mem_append_left _ hn)
    · by_cases hq : q = data
      · subst hq
        rw [hbuf, Option.some.injEq] at hb
        rw [hb]
        exact Or.inl (List.mem_append_right _ (List.mem_singleton_self _))
      · exact Or.inr ⟨q, b, (Function.update_of_ne hq ..).trans hb, rfl⟩

/-- An event in which nothing fails uses no buffer that is gone, and keeps account of
the messages. -/
theorem accounted_step (e : Event) (hs : s.Registered) (h : s.Accounted) (hgoes : Goes e s) :
    Returns (happens e s).1 ∧ (happens e s).2.Accounted := by
  cases e with
  | connect linkedSocket ctlOk =>
    rw [happens_connect]
    by_cases hfree : linkedSocket.bind s.interest = none
    · rw [if_pos hfree]
      obtain ⟨ret, interest, hrun, -⟩ := dealConnectRequest_run ctlOk hfree
      rw [hrun]
      exact ⟨returns_ok ret, h.interest interest⟩
    · rw [if_neg hfree]
      exact ⟨returns_ok _, h⟩
  | readable fd ptr got ctlOk =>
    rw [happens_readable]
    by_cases henabled : s.readable fd ptr = true
    · rw [if_pos henabled]
      obtain ⟨-, hfd, hptr⟩ := readable_iff.1 henabled
      obtain ⟨message, rfl, hlen, hctl⟩ := hgoes henabled
      by_cases hnil : message = []
      · subst hnil
        rw [dealReadEvent_closed fd ctlOk hptr]
        exact ⟨returns_ok _, h.interest _⟩
      · obtain rfl := hctl.resolve_left hnil
        rw [dealReadEvent_received hnil hlen]
        exact ⟨returns_ok _, h.received hptr fd message _⟩
    · rw [if_neg henabled]
      exact ⟨returns_ok _, h⟩
  | writable fd ret ctlOk =>
    rw [happens_writable]
    cases hdata : s.pending fd with
    | none => exact ⟨returns_ok _, h⟩
    | some data =>
      obtain ⟨buf, hbuf, rfl⟩ := (registered_iff.1 hs).held fd data hdata
      obtain ⟨hret, rfl⟩ := hgoes (by rw [hdata]; exact Option.some_ne_none data)
      dsimp only
      rw [dealWriteEvent_dealt hbuf hret]
      exact ⟨returns_ok _, h.dealt_with hbuf _⟩

end

/-! ## Runs -/

/-- The registrations and the buffers fit together after every event of a run exactly
when nothing fails on the way that leaves one without the other.  In such a run no
buffer is used that is gone, no message is dealt with twice, and none is lost. -/
theorem registered_run_iff (listenSocket : Int) (services : List Int) (es : List Event) :
    ((∀ js, js <+: es → Registered (happens.run js (start listenSocket services)).2) ↔
        happens.Along Goes es (start listenSocket services)) ∧
      (happens.Along Goes es (start listenSocket services) →
        (∀ r ∈ (happens.run es (start listenSocket services)).1, Returns r) ∧
        Accounted (happens.run es (start listenSocket services)).2) := by
  refine ⟨Machine.forall_prefix_iff (fun e s => registered_step_iff e) (registered_start listenSocket services), ?_⟩
  have hrun : ∀ s : Daemon, s.Registered → s.Accounted → happens.Along Goes es s →
      (∀ r ∈ (happens.run es s).1, Returns r) ∧ Accounted (happens.run es s).2 := by
    induction es with
    | nil => exact fun s _ h _ => ⟨fun r hr => (by cases hr), h⟩
    | cons e es ih =>
      rintro s hs h ⟨hgoes, hrest⟩
      obtain ⟨hreturns, haccounted⟩ := accounted_step e hs h hgoes
      obtain ⟨hall, hlast⟩ := ih _ ((registered_step_iff e hs).2 hgoes) haccounted hrest
      rw [Machine.run_cons]
      refine ⟨fun r hr => ?_, hlast⟩
      rcases List.mem_cons.1 hr with rfl | hr
      · exact hreturns
      · exact hall r hr
  exact hrun (start listenSocket services) (registered_start listenSocket services) (accounted_start listenSocket services)

/-- A message is refused: its buffer is released, and the descriptor goes on referring
to it. -/
theorem refused_buffer_dangles :
    ¬ ∀ (listenSocket : Int) (services : List Int) (es : List Event),
      Registered (happens.run es (start listenSocket services)).2 := by
  intro h
  have hs := h 3 [5] [.readable 5 0 (some (ascii "\x7b\x7d")) true, .writable 5 (-1) true]
  obtain ⟨buf, hbuf, -⟩ := hs.armed 5 0 (by decide +kernel)
  have hgone : ((happens.run [.readable 5 0 (some (ascii "\x7b\x7d")) true, .writable 5 (-1) true]
      (start 3 [5])).2.heap 0).isNone = true := by decide +kernel
  rw [hbuf] at hgone
  cases hgone

end Daemon

end SingleTerminalLogin
