import SingleTerminalLogin.Daemon.EventLoop

/-!
# The names of the descriptors

A service names its connections in its log: the `_fdName` of `mylib/mylib_daemon/daemon.cpp` has a
name for each descriptor, with a number of its own for each connection that was accepted.  A name is
entered by `insert`, which leaves an entry that is there, and none is ever taken out.

* `NamedDaemon` — the event loop with its names, and what is open;
* `daemon_run` — it is the event loop, with or without the names;
* `fdName_kept`, `getFdName_reused` — a descriptor keeps its first name, whatever becomes of the
  connection, and a later one goes by it;
* `names_follow_iff` — so the names are right all along exactly when no connection is ever closed.
-/

namespace SingleTerminalLogin

open ByteText CProgram Proc

/-! ## The descriptors of the loop -/

namespace Daemon

/-- The loop has to do with the descriptor: it is registered, or a buffer is for it. -/
def Concerns (s : Daemon) (fd : Int) : Prop :=
  s.interest fd ≠ none ∨ ∃ ptr buf, s.heap ptr = some buf ∧ buf.fd = fd

/-- The loop has to do with no other descriptor than before. -/
structure Within (s s' : Daemon) : Prop where
  listenSocket : s'.listenSocket = s.listenSocket
  concerns : ∀ fd, s'.Concerns fd → s.Concerns fd

section

variable {s : Daemon}

theorem Within.refl (s : Daemon) : s.Within s := ⟨rfl, fun _ h => h⟩

/-- A descriptor that it has to do with is registered anew, or gets a buffer, or loses one. -/
theorem within_update {fd : Int} (hfd : s.Concerns fd) (interest : Option Interest) (ptr : Nat)
    (buf : Option EventDataBuf) (hbuf : ∀ b, buf = some b → b.fd = fd) (messages : Nat) (dealt : List Nat) :
    s.Within { s with
      interest := Function.update s.interest fd interest
      heap := Function.update s.heap ptr buf
      messages := messages
      dealt := dealt } := by
  refine ⟨rfl, ?_⟩
  rintro k (hinterest | ⟨q, b, hheap, rfl⟩)
  · by_cases hk : k = fd
    · rw [hk]
      exact hfd
    · dsimp only at hinterest
      rw [Function.update_of_ne hk] at hinterest
      exact Or.inl hinterest
  · dsimp only at hheap
    by_cases hq : q = ptr
    · subst hq
      rw [Function.update_self] at hheap
      rw [hbuf b hheap]
      exact hfd
    · rw [Function.update_of_ne hq] at hheap
      exact Or.inr ⟨q, b, hheap, rfl⟩

theorem within_heap {fd : Int} (hfd : s.Concerns fd) (ptr : Nat) (buf : Option EventDataBuf)
    (hbuf : ∀ b, buf = some b → b.fd = fd) (messages : Nat) (dealt : List Nat) : s.Within { s with
      heap := Function.update s.heap ptr buf
      messages := messages
      dealt := dealt } := by
  have h := within_update hfd (s.interest fd) ptr buf hbuf messages dealt
  rw [Function.update_eq_self] at h
  exact h

/-- A descriptor is registered or taken out: nothing is new to the loop but this one. -/
theorem concerns_of_update {fd k : Int} {interest : Option Interest} (hk : k ≠ fd)
    (h : Concerns { s with interest := Function.update s.interest fd interest } k) : s.Concerns k := by
  refine h.imp_left fun hinterest => ?_
  dsimp only at hinterest
  rw [Function.update_of_ne hk] at hinterest
  exact hinterest

/-- Where a buffer is released, there is none that could be for another descriptor. -/
theorem fd_of_none (fd : Int) (b : EventDataBuf) (h : none = some b) : b.fd = fd := by
  cases h

theorem dealReadEvent_within {fd : Int} {ptr : Nat} (got : Option Text) (ctlOk : Bool)
    (hfd : s.interest fd = some .EPOLLIN) (hptr : s.heap ptr = none) :
    s.Within (dealReadEvent fd ptr got ctlOk s).2 := by
  have hconcerns : s.Concerns fd := Or.inl (by rw [hfd]; exact Option.some_ne_none _)
  have hfor : ∀ buf : EventDataBuf, buf.fd = fd → ∀ b, some buf = some b → b.fd = fd := by
    rintro buf hbuf b ⟨rfl⟩
    exact hbuf
  cases got with
  | none => exact within_heap hconcerns ptr _ (hfor _ rfl) s.messages s.dealt
  | some message =>
    by_cases hnil : message = []
    · subst hnil
      rw [dealReadEvent_closed fd ctlOk hptr]
      have hheap : Function.update s.heap ptr none = s.heap := Function.update_eq_self_iff.2 hptr.symm
      have h := within_update hconcerns none ptr none (fd_of_none fd) s.messages s.dealt
      rw [hheap] at h
      exact h
    · by_cases hlost : MAX_MESSAGE_LEN ≤ message.length ∨ ctlOk = false
      · rw [dealReadEvent_unarmed fd ptr hnil hlost]
        exact within_heap hconcerns ptr _ (hfor _ rfl) _ s.dealt
      · rw [not_or, not_le, Bool.not_eq_false] at hlost
        obtain ⟨hfits, rfl⟩ := hlost
        rw [dealReadEvent_received hnil hfits]
        exact within_update hconcerns _ ptr _ (hfor _ rfl) _ s.dealt

theorem dealWriteEvent_within (data : Nat) (ret : Int) (ctlOk : Bool) :
    s.Within (dealWriteEvent data ret ctlOk s).2 := by
  cases hbuf : s.heap data with
  | none =>
    have hload : load data s = (.error .memory, s) := by
      rw [load]
      simp only [hbuf]
    rw [dealWriteEvent, bind_run_error hload]
    exact Within.refl s
  | some buf =>
    have hconcerns : s.Concerns buf.fd := Or.inr ⟨data, buf, hbuf, rfl⟩
    by_cases hbad : ret < 0 ∨ ctlOk = false
    · rw [dealWriteEvent_dangling hbuf hbad]
      exact within_heap hconcerns data none (fd_of_none buf.fd) s.messages _
    · rw [not_or, not_lt, Bool.not_eq_false] at hbad
      obtain ⟨hret, rfl⟩ := hbad
      rw [dealWriteEvent_dealt hbuf hret]
      exact within_update hconcerns _ data none (fd_of_none buf.fd) s.messages _

theorem happens_writable_within (fd ret : Int) (ctlOk : Bool) : s.Within (happens (.writable fd ret ctlOk) s).2 := by
  rw [happens_writable]
  cases s.pending fd with
  | none => exact Within.refl s
  | some data => exact dealWriteEvent_within data ret ctlOk

end

end Daemon

/-! ## The loop with its names -/

/-- What a descriptor is open for. -/
inductive Opened where
  /-- The listening socket, or a connection to another service. -/
  | own
  /-- A connection that was accepted, with the number that was taken from `_clientNum` for it. -/
  | client (number : Option Int)
  deriving DecidableEq

/-- A service with the names of its descriptors.  `opened` is not in the program: the descriptors that
are open. -/
structure NamedDaemon where
  daemon : Daemon
  clientNum : Int := 0
  fdName : Int → Option Text
  opened : Int → Option Opened

namespace NamedDaemon

/-! ## The handlers -/

/-- What has to do with epoll and the buffers only. -/
def onDaemon {α : Type} (x : Proc Daemon α) : Proc NamedDaemon α := fun s =>
  let r := x s.daemon
  (r.1, { s with daemon := r.2 })

/-- `DaemonBase::getFdName`, which returns an empty text where there is no entry. -/
def getFdName (s : NamedDaemon) (fd : Int) : Text := (s.fdName fd).getD []

/-- `_fdName.insert(pair<int, string>(fd, name))`, which leaves an entry that is there. -/
def insert (names : Int → Option Text) (fd : Int) (name : Text) : Int → Option Text :=
  if (names fd).isSome then names else Function.update names fd (some name)

def insertName (fd : Int) (name : Text) : Proc NamedDaemon Unit := fun s =>
  (.ok (), { s with fdName := insert s.fdName fd name })

/-- `"CLIENT " + type2str(number)`. -/
def clientName (number : Int) : Text := ascii "CLIENT " ++ intText number

/-- `accept` has returned this descriptor. -/
def accepted (fd : Int) : Proc NamedDaemon Unit := fun s =>
  (.ok (), { s with opened := Function.update s.opened fd (some (.client none)) })

/-- `++_clientNum`, for the connection on this descriptor. -/
def takeNumber (fd : Int) : Proc NamedDaemon Int := fun s =>
  (.ok (wrap32 (s.clientNum + 1)), { s with
    clientNum := wrap32 (s.clientNum + 1)
    opened := Function.update s.opened fd (some (.client (some (wrap32 (s.clientNum + 1))))) })

/-- The connection on this descriptor was closed. -/
def closed (fd : Int) : Proc NamedDaemon Unit := fun s =>
  (.ok (), { s with opened := Function.update s.opened fd none })

/-- `DaemonBase::dealConnectRequest`. -/
def dealConnectRequest (linkedSocket : Option Int) (ctlOk : Bool) : Proc NamedDaemon Int := do
  match linkedSocket with
  | none => pure (-1)
  | some linkedSocket =>
    accepted linkedSocket
    let ret ← onDaemon (Daemon.epollCtl linkedSocket .EPOLLIN ctlOk)
    -- the descriptor stays open
    if ret < 0 then pure (-1)
    else do
      let number ← takeNumber linkedSocket
      insertName linkedSocket (clientName number)
      pure 0

/-- `DaemonBase::dealReadEvent`, which closes the descriptor at the end of the connection. -/
def dealReadEvent (fd : Int) (ptr : Nat) (got : Option Text) (ctlOk : Bool) : Proc NamedDaemon Int := do
  let ret ← onDaemon (Daemon.dealReadEvent fd ptr got ctlOk)
  if got = some [] then do
    closed fd
    pure ret
  else pure ret

/-! ## Events -/

/-- Is this descriptor, if `accept` returns one, not in use? -/
def unused (s : NamedDaemon) (linkedSocket : Option Int) : Prop :=
  linkedSocket.bind s.opened = none ∧ linkedSocket.bind s.daemon.interest = none

instance (s : NamedDaemon) (linkedSocket : Option Int) : Decidable (s.unused linkedSocket) :=
  inferInstanceAs (Decidable (_ ∧ _))

/-- One event of the loop.  The kernel hands out descriptors that are not in use, also such that were
closed. -/
def happens : Machine Daemon.Event (C Int) NamedDaemon
  | .connect linkedSocket ctlOk, s =>
    if s.unused linkedSocket then dealConnectRequest linkedSocket ctlOk s
    else (.ok 0, s)
  | .readable fd ptr got ctlOk, s =>
    if s.daemon.readable fd ptr then dealReadEvent fd ptr got ctlOk s
    else (.ok 0, s)
  | .writable fd ret ctlOk, s => onDaemon (Daemon.happens (.writable fd ret ctlOk)) s

/-- The loop before the first event: the connections to other services have been named. -/
def start (listenSocket : Int) (services : List (Int × Text)) : NamedDaemon where
  daemon := Daemon.start listenSocket (services.map Prod.fst)
  fdName fd := services.lookup fd
  opened fd := if fd = listenSocket ∨ fd ∈ services.map Prod.fst then some .own else none

/-- Each connection that was accepted and is open has the name with the number that was taken for it,
and a descriptor that is not open has no entry. -/
structure NamesFollow (s : NamedDaemon) : Prop where
  clients : ∀ fd number, s.opened fd = some (.client number) →
    ∃ n, number = some n ∧ s.getFdName fd = clientName n
  unopened : ∀ fd, s.opened fd = none → s.fdName fd = none

/-- No connection that was accepted fails to be registered, and none is found to have ended. -/
def Stays : Daemon.Event → NamedDaemon → Prop
  | .connect linkedSocket ctlOk, s => s.unused linkedSocket → linkedSocket ≠ none → ctlOk = true
  | .readable fd ptr got _, s => s.daemon.readable fd ptr = true → got ≠ some []
  | .writable _ _ _, _ => True

section

variable {s : NamedDaemon}

/-! ## What one event does -/

theorem onDaemon_run {α : Type} (x : Proc Daemon α) (s : NamedDaemon) :
    onDaemon x s = ((x s.daemon).1, { s with daemon := (x s.daemon).2 }) := rfl

/-- A connection that could not be registered is open without a number and a name. -/
theorem dealConnectRequest_refused (fd : Int) : dealConnectRequest (some fd) false s =
    (.ok (-1), { s with opened := Function.update s.opened fd (some (.client none)) }) := rfl

/-- A connection that was registered has a number, and the name with it is inserted. -/
theorem dealConnectRequest_accepted (fd : Int) : dealConnectRequest (some fd) true s = (.ok 0, {
    daemon := { s.daemon with interest := Function.update s.daemon.interest fd (some .EPOLLIN) }
    clientNum := wrap32 (s.clientNum + 1)
    fdName := insert s.fdName fd (clientName (wrap32 (s.clientNum + 1)))
    opened := Function.update s.opened fd (some (.client (some (wrap32 (s.clientNum + 1))))) }) := by
  have hopened : Function.update (Function.update s.opened fd (some (.client none))) fd
      (some (.client (some (wrap32 (s.clientNum + 1))))) =
        Function.update s.opened fd (some (.client (some (wrap32 (s.clientNum + 1))))) := Function.update_idem ..
  rw [← hopened]
  rfl

/-- At the end of a connection the descriptor is closed, and its name stays. -/
theorem dealReadEvent_closed (fd : Int) {ptr : Nat} (ctlOk : Bool) (hptr : s.daemon.heap ptr = none) :
    dealReadEvent fd ptr (some []) ctlOk s = (.ok 0, { s with
      daemon := { s.daemon with interest := Function.update s.daemon.interest fd none }
      opened := Function.update s.opened fd none }) := by
  have hrun : onDaemon (Daemon.dealReadEvent fd ptr (some []) ctlOk) s =
      (.ok 0, { s with daemon := { s.daemon with interest := Function.update s.daemon.interest fd none } }) := by
    rw [onDaemon_run, Daemon.dealReadEvent_closed fd ctlOk hptr]
  rw [dealReadEvent, bind_run_ok hrun]
  rfl

/-- Anything else that is read leaves open what is open. -/
theorem dealReadEvent_open (fd : Int) (ptr : Nat) {got : Option Text} (ctlOk : Bool) (hgot : got ≠ some []) :
    dealReadEvent fd ptr got ctlOk s = onDaemon (Daemon.dealReadEvent fd ptr got ctlOk) s := by
  rw [dealReadEvent]
  simp only [if_neg hgot]
  cases hrun : onDaemon (Daemon.dealReadEvent fd ptr got ctlOk) s with
  | mk r s' =>
    cases r with
    | ok ret => exact bind_run_ok hrun
    | error e => exact bind_run_error hrun

theorem happens_connect (linkedSocket : Option Int) (ctlOk : Bool) :
    happens (.connect linkedSocket ctlOk) s =
      if s.unused linkedSocket then dealConnectRequest linkedSocket ctlOk s else (.ok 0, s) := rfl

theorem happens_readable (fd : Int) (ptr : Nat) (got : Option Text) (ctlOk : Bool) :
    happens (.readable fd ptr got ctlOk) s =
      if s.daemon.readable fd ptr then dealReadEvent fd ptr got ctlOk s else (.ok 0, s) := rfl

theorem happens_writable (fd ret : Int) (ctlOk : Bool) :
    happens (.writable fd ret ctlOk) s = onDaemon (Daemon.happens (.writable fd ret ctlOk)) s := rfl

/-! ## The loop without the names -/

/-- An event is one of the loop, or does nothing. -/
theorem daemon_step (e : Daemon.Event) :
    (happens e s).2.daemon = (Daemon.happens e s.daemon).2 ∨ (happens e s).2.daemon = s.daemon := by
  cases e with
  | connect linkedSocket ctlOk =>
    rw [happens_connect]
    by_cases hunused : s.unused linkedSocket
    · left
      rw [if_pos hunused, Daemon.happens_connect, if_pos hunused.2]
      cases linkedSocket with
      | none => rfl
      | some fd =>
        cases ctlOk with
        | false => rfl
        | true =>
          rw [dealConnectRequest_accepted]
          rfl
    · rw [if_neg hunused]
      exact Or.inr rfl
  | readable fd ptr got ctlOk =>
    left
    rw [happens_readable, Daemon.happens_readable]
    by_cases henabled : s.daemon.readable fd ptr = true
    · rw [if_pos henabled, if_pos henabled]
      by_cases hgot : got = some []
      · obtain ⟨-, -, hptr⟩ := Daemon.readable_iff.1 henabled
        rw [hgot, dealReadEvent_closed fd ctlOk hptr, Daemon.dealReadEvent_closed fd ctlOk hptr]
      · rw [dealReadEvent_open fd ptr ctlOk hgot]
        rfl
    · rw [if_neg henabled, if_neg henabled]
  | writable fd ret ctlOk => exact Or.inl rfl

/-- A run with the names is a run of the event loop, up to connections that it leaves out. -/
theorem daemon_run (es : List Daemon.Event) (s : NamedDaemon) :
    ∃ js, js.Sublist es ∧ (happens.run es s).2.daemon = (Daemon.happens.run js s.daemon).2 := by
  induction es generalizing s with
  | nil => exact ⟨[], .slnil, rfl⟩
  | cons e es ih =>
    obtain ⟨js, hsub, hjs⟩ := ih (happens e s).2
    rw [Machine.run_cons]
    rcases @daemon_step s e with hstep | hstep
    · refine ⟨e :: js, hsub.cons_cons e, ?_⟩
      rw [Machine.run_cons, ← hstep]
      exact hjs
    · refine ⟨js, hsub.cons e, ?_⟩
      rw [← hstep]
      exact hjs

/-! ## Names -/

theorem getFdName_of {fd : Int} {name : Text} (h : s.fdName fd = some name) : s.getFdName fd = name := by
  rw [getFdName, h]
  rfl

theorem getFdName_congr {s' : NamedDaemon} {fd : Int} (h : s'.fdName fd = s.fdName fd) :
    s'.getFdName fd = s.getFdName fd := congrArg (fun name => name.getD []) h

theorem insert_of_none {names : Int → Option Text} {fd : Int} (h : names fd = none) (name : Text) :
    insert names fd name = Function.update names fd (some name) := by
  rw [insert, h]
  rfl

/-- An entry that is there stays. -/
theorem insert_kept {names : Int → Option Text} {k : Int} {old : Text} (h : names k = some old) (fd : Int)
    (name : Text) : insert names fd name k = some old := by
  rw [insert]
  split
  · exact h
  · next hnew =>
    have hk : k ≠ fd := by
      rintro rfl
      exact hnew (by rw [h]; rfl)
    rw [Function.update_of_ne hk, h]

/-- There is an entry now, this one or an older one. -/
theorem insert_self_ne_none (names : Int → Option Text) (fd : Int) (name : Text) :
    insert names fd name fd ≠ none := by
  cases hold : names fd with
  | none =>
    rw [insert_of_none hold, Function.update_self]
    exact Option.some_ne_none name
  | some old =>
    rw [insert_kept hold]
    exact Option.some_ne_none old

/-- An event is one in which a connection is accepted, with its registration or without, or found to
have ended, or it leaves the names and what is open as they are. -/
theorem happens_cases (e : Daemon.Event) :
    (∃ fd, e = .connect (some fd) true ∧ s.unused (some fd) ∧
        happens e s = dealConnectRequest (some fd) true s) ∨
      (∃ fd, e = .connect (some fd) false ∧ s.unused (some fd) ∧
        happens e s = dealConnectRequest (some fd) false s) ∨
      (∃ fd ptr ctlOk, e = .readable fd ptr (some []) ctlOk ∧ s.daemon.readable fd ptr = true ∧
        happens e s = dealReadEvent fd ptr (some []) ctlOk s) ∨
      (Stays e s ∧ ∃ r daemon, happens e s = (r, { s with daemon := daemon }) ∧ s.daemon.Within daemon) := by
  cases e with
  | connect linkedSocket ctlOk =>
    rw [happens_connect]
    by_cases hunused : s.unused linkedSocket
    · rw [if_pos hunused]
      cases linkedSocket with
      | none => exact Or.inr (Or.inr (Or.inr ⟨fun _ h => absurd rfl h, _, s.daemon, rfl, .refl _⟩))
      | some fd =>
        cases ctlOk with
        | true => exact Or.inl ⟨fd, rfl, hunused, rfl⟩
        | false => exact Or.inr (Or.inl ⟨fd, rfl, hunused, rfl⟩)
    · rw [if_neg hunused]
      exact Or.inr (Or.inr (Or.inr ⟨fun h => absurd h hunused, _, s.daemon, rfl, .refl _⟩))
  | readable fd ptr got ctlOk =>
    rw [happens_readable]
    by_cases henabled : s.daemon.readable fd ptr = true
    · rw [if_pos henabled]
      by_cases hgot : got = some []
      · subst hgot
        exact Or.inr (Or.inr (Or.inl ⟨fd, ptr, ctlOk, rfl, henabled, rfl⟩))
      · obtain ⟨-, hfd, hptr⟩ := Daemon.readable_iff.1 henabled
        refine Or.inr (Or.inr (Or.inr ⟨fun _ => hgot, _, _, dealReadEvent_open fd ptr ctlOk hgot, ?_⟩))
        exact Daemon.dealReadEvent_within got ctlOk hfd hptr
    · rw [if_neg henabled]
      exact Or.inr (Or.inr (Or.inr ⟨fun h => absurd h henabled, _, s.daemon, rfl, .refl _⟩))
  | writable fd ret ctlOk =>
    refine Or.inr (Or.inr (Or.inr ⟨trivial, _, _, happens_writable fd ret ctlOk, ?_⟩))
    exact Daemon.happens_writable_within fd ret ctlOk

/-- No event takes a name away, or changes it. -/
theorem fdName_step {k : Int} {name : Text} (e : Daemon.Event) (h : s.fdName k = some name) :
    (happens e s).2.fdName k = some name := by
  rcases @happens_cases s e with ⟨fd, -, -, hrun⟩ | ⟨fd, -, -, hrun⟩ | ⟨fd, ptr, ctlOk, -, henabled, hrun⟩ |
    ⟨-, r, daemon, hrun, -⟩
  · rw [hrun, dealConnectRequest_accepted]
    exact insert_kept h fd _
  · rw [hrun, dealConnectRequest_refused]
    exact h
  · rw [hrun, dealReadEvent_closed fd ctlOk (Daemon.readable_iff.1 henabled).2.2]
    exact h
  · rw [hrun]
    exact h

/-- A descriptor keeps its first name, whatever is closed and accepted after that. -/
theorem fdName_kept {k : Int} {name : Text} (es : List Daemon.Event) (h : s.fdName k = some name) :
    (happens.run es s).2.fdName k = some name := by
  have hstep : ∀ e s', True → s'.fdName k = some name → (happens e s').2.fdName k = some name :=
    fun e _ _ => fdName_step e
  exact Machine.run_invariant hstep (Machine.along_of_forall (fun _ _ => trivial) s) h

/-- Connections with different numbers have different names. -/
theorem clientName_injective {m n : Int} (h : clientName m = clientName n) : m = n :=
  intText_injective (List.append_cancel_left h)

/-- From its first connection on, a descriptor goes by the number of that one. -/
theorem getFdName_first {fd : Int} (hunused : s.unused (some fd)) (hnew : s.fdName fd = none)
    (es : List Daemon.Event) :
    (happens.run (.connect (some fd) true :: es) s).2.getFdName fd = clientName (wrap32 (s.clientNum + 1)) := by
  have hfirst : (happens (.connect (some fd) true) s).2.fdName fd = some (clientName (wrap32 (s.clientNum + 1))) := by
    rw [happens_connect, if_pos hunused, dealConnectRequest_accepted, insert_of_none hnew]
    exact Function.update_self ..
  exact getFdName_of (fdName_kept es hfirst)

/-- So a later connection on it, which has a number of its own, goes by the wrong name. -/
theorem getFdName_reused {fd n : Int} (hunused : s.unused (some fd)) (hnew : s.fdName fd = none)
    (es : List Daemon.Event)
    (hopened : (happens.run (.connect (some fd) true :: es) s).2.opened fd = some (.client (some n)))
    (hn : n ≠ wrap32 (s.clientNum + 1)) : ¬ (happens.run (.connect (some fd) true :: es) s).2.NamesFollow := by
  intro h
  obtain ⟨n', hn', hname⟩ := h.clients fd (some n) hopened
  cases hn'
  rw [getFdName_first hunused hnew es] at hname
  exact hn (clientName_injective hname).symm

/-! ## The registered descriptors have names -/

/-- Whatever the loop has to do with, other than the listening socket, has a name. -/
def Named (s : NamedDaemon) : Prop :=
  ∀ fd, fd ≠ s.daemon.listenSocket → s.daemon.Concerns fd → s.fdName fd ≠ none

theorem named_start (listenSocket : Int) (services : List (Int × Text)) : (start listenSocket services).Named := by
  rintro fd hlisten (hinterest | ⟨ptr, buf, hheap, -⟩)
  · have hmem : fd = listenSocket ∨ fd ∈ services.map Prod.fst := by
      by_contra hnot
      exact hinterest (if_neg hnot)
    obtain ⟨p, hp, rfl⟩ := List.mem_map.1 (hmem.resolve_left hlisten)
    intro hlookup
    have := List.lookup_eq_none_iff.1 hlookup p hp
    simp at this
  · cases hheap

theorem named_step (e : Daemon.Event) (hs : s.Named) : (happens e s).2.Named := by
  have hkept : ∀ k, s.fdName k ≠ none → (happens e s).2.fdName k ≠ none := by
    intro k hk
    obtain ⟨name, hname⟩ := Option.ne_none_iff_exists'.1 hk
    rw [fdName_step e hname]
    exact Option.some_ne_none name
  rcases @happens_cases s e with ⟨fd, -, -, hrun⟩ | ⟨fd, -, -, hrun⟩ | ⟨fd, ptr, ctlOk, -, henabled, hrun⟩ |
    ⟨-, r, daemon, hrun, hwithin⟩
  · intro k hlisten hconcerns
    by_cases hk : k = fd
    · rw [hk, hrun, dealConnectRequest_accepted]
      exact insert_self_ne_none s.fdName fd _
    · rw [hrun, dealConnectRequest_accepted] at hlisten hconcerns
      exact hkept k (hs k hlisten (Daemon.concerns_of_update hk hconcerns))
  · rw [hrun, dealConnectRequest_refused]
    exact hs
  · obtain ⟨-, hfd, hptr⟩ := Daemon.readable_iff.1 henabled
    have hwithin := Daemon.dealReadEvent_within (some []) ctlOk hfd hptr
    rw [Daemon.dealReadEvent_closed fd ctlOk hptr] at hwithin
    rw [hrun, dealReadEvent_closed fd ctlOk hptr]
    exact fun k hlisten hconcerns => hs k hlisten (hwithin.concerns k hconcerns)
  · rw [hrun]
    intro k hlisten hconcerns
    rw [hwithin.listenSocket] at hlisten
    exact hs k hlisten (hwithin.concerns k hconcerns)

/-! ## The names follow the connections -/

theorem namesFollow_start (listenSocket : Int) (services : List (Int × Text)) :
    (start listenSocket services).NamesFollow := by
  constructor
  · intro fd number hopened
    unfold start at hopened
    dsimp only at hopened
    split at hopened
    · cases hopened
    · cases hopened
  · intro fd hopened
    unfold start at hopened ⊢
    dsimp only at hopened ⊢
    split at hopened
    · cases hopened
    · next hnot =>
      refine List.lookup_eq_none_iff.2 fun p hp => ?_
      have hne : fd ≠ p.1 := by
        rintro rfl
        exact hnot (Or.inr (List.mem_map.2 ⟨p, hp, rfl⟩))
      simpa using hne

/-- A connection whose descriptor has no name yet gets the name with its number. -/
theorem NamesFollow.accepted (h : s.NamesFollow) {fd : Int} (hopened : s.opened fd = none) :
    (dealConnectRequest (some fd) true s).2.NamesFollow := by
  rw [dealConnectRequest_accepted, insert_of_none (h.unopened fd hopened)]
  constructor
  · intro k number hk
    by_cases hfd : k = fd
    · subst hfd
      dsimp only at hk
      rw [Function.update_self, Option.some.injEq, Opened.client.injEq] at hk
      exact ⟨_, hk.symm, getFdName_of (Function.update_self ..)⟩
    · dsimp only at hk
      rw [Function.update_of_ne hfd] at hk
      obtain ⟨n, hn, hname⟩ := h.clients k number hk
      exact ⟨n, hn, (getFdName_congr (Function.update_of_ne hfd ..)).trans hname⟩
  · intro k hk
    by_cases hfd : k = fd
    · subst hfd
      dsimp only at hk
      rw [Function.update_self] at hk
      cases hk
    · dsimp only at hk ⊢
      rw [Function.update_of_ne hfd] at hk ⊢
      exact h.unopened k hk

/-- The names still follow the connections after an event exactly when no connection is accepted without
a name, and none has ended. -/
theorem namesFollow_step_iff (e : Daemon.Event) (hs : s.Named) (h : s.NamesFollow) :
    (happens e s).2.NamesFollow ↔ Stays e s := by
  rcases @happens_cases s e with ⟨fd, rfl, hunused, hrun⟩ | ⟨fd, rfl, hunused, hrun⟩ |
    ⟨fd, ptr, ctlOk, rfl, henabled, hrun⟩ | ⟨hstays, r, daemon, hrun, -⟩
  · rw [hrun]
    exact iff_of_true (h.accepted hunused.1) fun _ _ => rfl
  · rw [hrun, dealConnectRequest_refused]
    refine iff_of_false (fun hnew => ?_) fun hstays => ?_
    · obtain ⟨n, hn, -⟩ := hnew.clients fd none (Function.update_self ..)
      cases hn
    · exact Bool.false_ne_true (hstays hunused (Option.some_ne_none fd))
  · obtain ⟨hlisten, hfd, hptr⟩ := Daemon.readable_iff.1 henabled
    rw [hrun, dealReadEvent_closed fd ctlOk hptr]
    refine iff_of_false (fun hnew => ?_) fun hstays => hstays henabled rfl
    -- the descriptor is registered, so it has a name, which stays
    refine hs fd hlisten (Or.inl ?_) (hnew.unopened fd (Function.update_self ..))
    rw [hfd]
    exact Option.some_ne_none _
  · rw [hrun]
    exact iff_of_true ⟨h.clients, h.unopened⟩ hstays

end

/-- **The names follow the connections all along exactly when no connection ends**, and none that was
accepted fails to be registered: a name is neither taken out with its connection nor replaced. -/
theorem names_follow_iff (listenSocket : Int) (services : List (Int × Text)) (es : List Daemon.Event) :
    (∀ js, js <+: es → (happens.run js (start listenSocket services)).2.NamesFollow) ↔
      happens.Along Stays es (start listenSocket services) := by
  have hnamed : ∀ js, (happens.run js (start listenSocket services)).2.Named := by
    have hstep : ∀ e s, True → Named s → (happens e s).2.Named := fun e _ _ => named_step e
    exact fun js => Machine.run_invariant hstep (Machine.along_of_forall (fun _ _ => trivial) _)
      (named_start listenSocket services)
  have hstep : ∀ e s, (Named s ∧ s.NamesFollow) →
      ((Named (happens e s).2 ∧ (happens e s).2.NamesFollow) ↔ Stays e s) := by
    rintro e s ⟨hs, h⟩
    rw [and_iff_right (named_step e hs), namesFollow_step_iff e hs h]
  rw [← Machine.forall_prefix_iff hstep ⟨named_start listenSocket services, namesFollow_start listenSocket services⟩]
  exact forall₂_congr fun js _ => (and_iff_right (hnamed js)).symm

/-- The second connection on a descriptor goes by the name of the first, and a closed descriptor has a
name. -/
theorem reused_descriptor_misnamed :
    (happens.run [.connect (some 6) true, .readable 6 0 (some []) true, .connect (some 6) true]
        (start 3 [])).2.opened 6 = some (.client (some 2)) ∧
      (happens.run [.connect (some 6) true, .readable 6 0 (some []) true, .connect (some 6) true]
        (start 3 [])).2.getFdName 6 = clientName 1 ∧
      ¬ ∀ listenSocket services es, (happens.run es (start listenSocket services)).2.NamesFollow := by
  refine ⟨by decide, by decide, fun h => ?_⟩
  have hclosed := (h 3 [] [.connect (some 6) true, .readable 6 0 (some []) true]).unopened 6 (by decide)
  exact absurd hclosed (by decide)

end NamedDaemon

end SingleTerminalLogin
