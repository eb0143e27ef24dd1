import SingleTerminalLogin.Client.Typed
import SingleTerminalLogin.Lib.Machine
import SingleTerminalLogin.Lib.Pipe

/-!
# The two readers of the client program

The thread of `justRecvMessage` and the commands of the main thread read the same socket,
`client/main/main.cpp` and `client/processCommandLine`.  Only the thread compares what it
has read with `logout`.

* `Terminal` — the client program; `Terminal.happens` — a write of the server, a round of
  the thread, a command and the read of its response;
* `Obeyed` — a notice whose bytes have all been read has ended the program;
* `TakenWhole` — a notice is read by the thread, all of it at once and nothing else;
* `notices_obeyed_iff` — every notice of a run is obeyed exactly when every one of them is
  read like this.
-/

namespace SingleTerminalLogin

open ByteText CProgram

/-- What `MessageReceiver::dealServiceResponse` writes to a client. -/
inductive ServerWrite where
  /-- `logoutString`. -/
  | logout
  /-- `msg`, out of a `valuestring`. -/
  | response (msg : Text)

def ServerWrite.text : ServerWrite → Text
  | logout => ascii "logout"
  | response msg => cstr msg

theorem ServerWrite.noNul (w : ServerWrite) : NoNul w.text := by
  cases w with
  | logout => exact noNul_of_notMem (by decide)
  | response msg => exact cstr_noNul msg

theorem unbordered_logout : Unbordered (ascii "logout") := by
  decide

/-- The client program.  `notices` is not in it: which writes of the server are notices. -/
structure Terminal where
  clientSocket : Pipe Byte := {}
  /-- A command has written its message and is going to read the response. -/
  reading : Bool := false
  /-- `justRecvMessage` has found `logout`. -/
  noticed : Bool := false
  exited : Bool := false
  notices : List Nat := []

namespace Terminal

/-- `MAX_MESSAGE_SIZE` and `MESSAGE_MAX_LEN` of the client. -/
def MAX_MESSAGE_SIZE : Nat := 10240

/-- What the program does that can be seen from outside. -/
inductive Action where
  | writes (message : Text)
  | prints (message : Text)

/-- A step of the server, of the thread or of the main thread.  `k` is the number of bytes
a `read` returns; the socket does not block, so it may be none. -/
inductive Event where
  | serverWrites (w : ServerWrite)
  | justRecvMessage (k : Nat)
  | processCommandLine (cmd : Command) (written : Bool)
  | readResponse (k : Nat)

/-- Can a `read` return that many bytes? -/
def CanRead (s : Terminal) (k : Nat) : Prop :=
  s.exited = false ∧ k ≤ MAX_MESSAGE_SIZE ∧ k ≤ s.clientSocket.unread.length

instance (s : Terminal) (k : Nat) : Decidable (s.CanRead k) :=
  inferInstanceAs (Decidable (_ ∧ _ ∧ _))

/-- The server writes to the socket. -/
def serverWrites (w : ServerWrite) (s : Terminal) : Terminal :=
  { s with
    clientSocket := s.clientSocket.write w.text
    notices :=
      match w with
      | .logout => s.notices ++ [s.clientSocket.written.length]
      | .response _ => s.notices }

/-- One round of `justRecvMessage`.  The zero byte that is stored next to the array when
nothing or too much has been read is not part of what is compared. -/
def justRecvMessage (k : Nat) (s : Terminal) : Option Action × Terminal :=
  if s.CanRead k then
    let message := cstr (s.clientSocket.returned k)
    let s := { s with clientSocket := s.clientSocket.read k }
    if message = [] then (none, s)
    else if message = ascii "logout" then
      (some (.prints message), { s with noticed := true, exited := true })
    else (some (.prints message), s)
  else (none, s)

/-- `processCommandLine` of the four commands, up to the `read` of three of them.  `exit`
does not wait for a response. -/
def processCommandLine (cmd : Command) (written : Bool) (s : Terminal) : Option Action × Terminal :=
  if s.exited = false ∧ s.reading = false then
    match cmd.getJsonStringFromParams, written, cmd with
    | .error _, _, _ => (none, { s with exited := true })
    | .ok _, false, _ => (none, s)
    | .ok message, true, .exit _ => (some (.writes message), { s with exited := true })
    | .ok message, true, _ => (some (.writes message), { s with reading := true })
  else (none, s)

/-- The `read` of a command, which prints what it gets. -/
def readResponse (k : Nat) (s : Terminal) : Option Action × Terminal :=
  if s.CanRead k ∧ s.reading = true then
    (if k = 0 then none else some (.prints (cstr (s.clientSocket.returned k))),
      { s with
        clientSocket := s.clientSocket.read k
        reading := false })
  else (none, s)

/-- One event. -/
def happens : Machine Event (Option Action) Terminal
  | .serverWrites w, s => (none, s.serverWrites w)
  | .justRecvMessage k, s => s.justRecvMessage k
  | .processCommandLine cmd written, s => s.processCommandLine cmd written
  | .readResponse k, s => s.readResponse k

/-- The program when it has connected. -/
def start : Terminal := {}

/-! ## The notices -/

/-- Every notice whose bytes have all been read was found by the thread, and has ended the
program. -/
def Obeyed (s : Terminal) : Prop :=
  ∀ i ∈ s.notices, s.clientSocket.offset (i + 1) ≤ s.clientSocket.taken →
    s.noticed = true ∧ s.exited = true

/-- No read returns the last byte of a notice, other than one of the thread that returns
this notice and nothing else. -/
def TakenWhole : Event → Terminal → Prop
  | .justRecvMessage k, s => s.CanRead k →
      ∀ i ∈ s.notices, s.clientSocket.Finishes k i → s.clientSocket.Whole k i
  | .readResponse k, s => s.CanRead k → s.reading = true →
      ∀ i ∈ s.notices, ¬ s.clientSocket.Finishes k i
  | _, _ => True

/-- The socket holds what was written to it: texts without a zero byte, and the notices
where they are said to be. -/
structure Consistent (s : Terminal) : Prop where
  valid : s.clientSocket.Valid
  noNul : NoNul s.clientSocket.content
  notices : ∀ i ∈ s.notices, s.clientSocket.written[i]? = some (ascii "logout")

theorem consistent_start : start.Consistent where
  valid := Nat.le_refl 0
  noNul c hc := by cases hc
  notices i hi := by cases hi

section

variable {s : Terminal} {i k : Nat}

theorem Consistent.serverWrites (h : s.Consistent) (w : ServerWrite) :
    (s.serverWrites w).Consistent where
  valid := h.valid.write w.text
  noNul := by
    show NoNul (s.clientSocket.write w.text).content
    rw [Pipe.content_write]
    intro c hc
    rcases List.mem_append.1 hc with hc | hc
    · exact h.noNul c hc
    · exact w.noNul c hc
  notices := by
    intro i hi
    show (s.clientSocket.written ++ [w.text])[i]? = _
    have hold : i ∈ s.notices → (s.clientSocket.written ++ [w.text])[i]? = some (ascii "logout") := by
      intro hi
      have hi := h.notices i hi
      rw [List.getElem?_append_left (List.getElem?_eq_some_iff.1 hi).1, hi]
    cases w with
    | logout =>
      rcases List.mem_append.1 hi with hi | hi
      · exact hold hi
      · cases List.mem_singleton.1 hi
        rw [List.getElem?_concat_length]
        rfl
    | response msg => exact hold hi

/-- A read changes neither the writes nor where the notices are. -/
theorem Consistent.read (h : s.Consistent) (hk : s.CanRead k) {s' : Terminal}
    (hsocket : s'.clientSocket = s.clientSocket.read k) (hnotices : s'.notices = s.notices) :
    s'.Consistent where
  valid := by
    rw [hsocket]
    exact h.valid.read hk.2.2
  noNul := by
    rw [hsocket]
    exact h.noNul
  notices := by
    rw [hsocket, hnotices]
    exact h.notices

theorem consistent_step (e : Event) (h : s.Consistent) : (happens e s).2.Consistent := by
  cases e with
  | serverWrites w => exact h.serverWrites w
  | justRecvMessage k =>
    show (s.justRecvMessage k).2.Consistent
    unfold justRecvMessage
    by_cases hk : s.CanRead k
    · rw [if_pos hk]
      dsimp only
      split_ifs
      · exact h.read hk rfl rfl
      · exact h.read hk rfl rfl
      · exact h.read hk rfl rfl
    · rw [if_neg hk]
      exact h
  | processCommandLine cmd written =>
    show (s.processCommandLine cmd written).2.Consistent
    unfold processCommandLine
    split_ifs
    · split
      · exact ⟨h.valid, h.noNul, h.notices⟩
      · exact h
      · exact ⟨h.valid, h.noNul, h.notices⟩
      · exact ⟨h.valid, h.noNul, h.notices⟩
    · exact h
  | readResponse k =>
    show (s.readResponse k).2.Consistent
    unfold readResponse
    by_cases hk : s.CanRead k ∧ s.reading = true
    · rw [if_pos hk]
      exact h.read hk.1 rfl rfl
    · rw [if_neg hk]
      exact h

/-! ## What a read does to them -/

/-- A program that is still running has not read all of a notice. -/
theorem Obeyed.unfinished (h : s.Obeyed) (hrunning : s.exited = false) (hi : i ∈ s.notices) :
    s.clientSocket.taken < s.clientSocket.offset (i + 1) := by
  by_contra hread
  obtain ⟨-, hexited⟩ := h i hi (Nat.le_of_not_lt hread)
  rw [hrunning] at hexited
  cases hexited

/-- If the program goes on after a read, all is well exactly when the read has not returned
the last byte of a notice. -/
theorem obeyed_read_iff (s' : Terminal) (h : s.Obeyed) (hk : s.CanRead k)
    (hsocket : s'.clientSocket = s.clientSocket.read k) (hnotices : s'.notices = s.notices)
    (hexited : s'.exited = false) : s'.Obeyed ↔ ∀ i ∈ s.notices, ¬ s.clientSocket.Finishes k i := by
  constructor
  · rintro h' i hi ⟨-, hread⟩
    rw [← hnotices] at hi
    obtain ⟨-, hgone⟩ := h' i hi (by rw [hsocket]; exact hread)
    rw [hexited] at hgone
    cases hgone
  · intro hnot i hi hread
    rw [hnotices] at hi
    rw [hsocket] at hread
    exact absurd ⟨h.unfinished hk.1 hi, hread⟩ (hnot i hi)

theorem Consistent.returned_noNul (h : s.Consistent) (k : Nat) : NoNul (s.clientSocket.returned k) :=
  fun c hc => h.noNul c (List.mem_of_mem_drop (List.mem_of_mem_take hc))

theorem obeyed_serverWrites (hc : s.Consistent) (h : s.Obeyed) (w : ServerWrite) :
    (s.serverWrites w).Obeyed := by
  intro i hi hread
  have hold : i ∈ s.notices → s.noticed = true ∧ s.exited = true := by
    intro hi
    have hlt := (List.getElem?_eq_some_iff.1 (hc.notices i hi)).1
    refine h i hi ?_
    rwa [← Pipe.offset_write (w := w.text) hlt]
  cases w with
  | response msg => exact hold hi
  | logout =>
    rcases List.mem_append.1 hi with hi | hi
    · exact hold hi
    · -- nothing of the new notice has been read
      cases List.mem_singleton.1 hi
      have hwritten : (s.clientSocket.write (ascii "logout")).written[s.clientSocket.written.length]? =
          some (ascii "logout") := List.getElem?_concat_length
      have hoffset := Pipe.offset_succ hwritten
      rw [Pipe.offset_write (Nat.le_refl _), Pipe.offset_length] at hoffset
      have hread : (s.clientSocket.write (ascii "logout")).offset (s.clientSocket.written.length + 1) ≤
          s.clientSocket.taken := hread
      have hvalid : s.clientSocket.taken ≤ s.clientSocket.content.length := hc.valid
      have hlen : (ascii "logout").length = 6 := by decide
      omega

theorem obeyed_justRecvMessage_iff (hc : s.Consistent) (h : s.Obeyed) (k : Nat) :
    (s.justRecvMessage k).2.Obeyed ↔ TakenWhole (.justRecvMessage k) s := by
  show _ ↔ (s.CanRead k → ∀ i ∈ s.notices, s.clientSocket.Finishes k i → s.clientSocket.Whole k i)
  unfold justRecvMessage
  by_cases hk : s.CanRead k
  · rw [if_pos hk, cstr_eq_self (hc.returned_noNul k)]
    dsimp only
    have hother : s.clientSocket.returned k ≠ ascii "logout" →
        ((∀ i ∈ s.notices, ¬ s.clientSocket.Finishes k i) ↔
          (s.CanRead k → ∀ i ∈ s.notices, s.clientSocket.Finishes k i → s.clientSocket.Whole k i)) := by
      intro hne
      refine ⟨fun hnot _ i hi hfin => absurd hfin (hnot i hi), fun hwhole i hi hfin => hne ?_⟩
      exact (hwhole hk i hi hfin).returned (hc.notices i hi)
    split_ifs with hempty hlogout
    · refine (obeyed_read_iff { s with clientSocket := s.clientSocket.read k } h hk rfl rfl hk.1).trans
        (hother ?_)
      rw [hempty]
      decide
    · refine ⟨fun _ _ i hi hfin => ?_, fun _ i hi _ => ⟨rfl, rfl⟩⟩
      exact Pipe.whole_of_returned unbordered_logout (hc.notices i hi) hfin hk.2.2 hlogout
    · exact (obeyed_read_iff { s with clientSocket := s.clientSocket.read k } h hk rfl rfl hk.1).trans
        (hother hlogout)
  · rw [if_neg hk]
    exact ⟨fun _ hk' => absurd hk' hk, fun _ => h⟩

theorem obeyed_readResponse_iff (h : s.Obeyed) (k : Nat) :
    (s.readResponse k).2.Obeyed ↔ TakenWhole (.readResponse k) s := by
  show _ ↔ (s.CanRead k → s.reading = true → ∀ i ∈ s.notices, ¬ s.clientSocket.Finishes k i)
  unfold readResponse
  by_cases hk : s.CanRead k ∧ s.reading = true
  · rw [if_pos hk]
    refine (obeyed_read_iff { s with clientSocket := s.clientSocket.read k, reading := false } h hk.1
      rfl rfl hk.1.1).trans ?_
    exact ⟨fun hnot _ _ => hnot, fun hnot => hnot hk.1 hk.2⟩
  · rw [if_neg hk]
    exact ⟨fun _ hk' hreading => absurd ⟨hk', hreading⟩ hk, fun _ => h⟩

theorem obeyed_processCommandLine (h : s.Obeyed) (cmd : Command) (written : Bool) :
    (s.processCommandLine cmd written).2.Obeyed := by
  unfold processCommandLine
  split_ifs
  · split
    · exact fun i hi hread => ⟨(h i hi hread).1, rfl⟩
    · exact h
    · exact fun i hi hread => ⟨(h i hi hread).1, rfl⟩
    · exact h
  · exact h

theorem obeyed_step_iff (e : Event) (hc : s.Consistent) (h : s.Obeyed) :
    (happens e s).2.Obeyed ↔ TakenWhole e s := by
  cases e with
  | serverWrites w => exact iff_of_true (obeyed_serverWrites hc h w) trivial
  | justRecvMessage k => exact obeyed_justRecvMessage_iff hc h k
  | processCommandLine cmd written => exact iff_of_true (obeyed_processCommandLine h cmd written) trivial
  | readResponse k => exact obeyed_readResponse_iff h k

end

/-! ## Runs -/

theorem consistent_run (es : List Event) : (happens.run es start).2.Consistent := by
  have halong : happens.Along (fun _ _ => True) es start :=
    Machine.along_of_forall (fun _ _ => trivial) start
  exact Machine.run_invariant (fun e _ _ h => consistent_step e h) halong consistent_start

/-- Whatever the commands are and however the server's writes and the reads fall, every
notice that has been read is obeyed, at all times, exactly when every notice is returned
by one read of the thread, on its own. -/
theorem notices_obeyed_iff (es : List Event) :
    (∀ js, js <+: es → (happens.run js start).2.Obeyed) ↔ happens.Along TakenWhole es start := by
  have hstep : ∀ e s, Consistent s ∧ Obeyed s →
      (Consistent (happens e s).2 ∧ Obeyed (happens e s).2 ↔ TakenWhole e s) := by
    rintro e s ⟨hc, h⟩
    rw [obeyed_step_iff e hc h]
    exact and_iff_right (consistent_step e hc)
  rw [← Machine.forall_prefix_iff hstep ⟨consistent_start, fun i hi => by cases hi⟩]
  exact ⟨fun h js hjs => ⟨consistent_run js, h js hjs⟩, fun h js hjs => (h js hjs).2⟩

theorem noNul_u : NoNul (ascii "u") :=
  noNul_of_notMem (by decide)

/-- A command is typed, and the notice is there before its response. -/
def commandTakesNotice : List Event :=
  [.processCommandLine (.logout ⟨ascii "u", noNul_u⟩) true, .serverWrites .logout, .readResponse 6]

/-- The command prints the notice as its response. -/
theorem notice_missed :
    ¬ ∀ es js : List Event, js <+: es → (happens.run js start).2.Obeyed := by
  intro h
  have hobeyed := h commandTakesNotice _ (List.prefix_refl _)
  have hread : ∀ s : Terminal, s.notices = [0] → s.noticed = false →
      s.clientSocket.offset 1 ≤ s.clientSocket.taken → ¬ s.Obeyed := by
    intro s hnotices hnoticed htaken hobeyed
    obtain ⟨hfound, -⟩ := hobeyed 0 (by rw [hnotices]; exact List.mem_singleton_self 0) htaken
    rw [hnoticed] at hfound
    cases hfound
  exact hread _ (by decide +kernel) (by decide +kernel) (by decide +kernel) hobeyed

end Terminal

end SingleTerminalLogin
