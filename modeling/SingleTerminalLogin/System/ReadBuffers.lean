import SingleTerminalLogin.Client.Receiving
import SingleTerminalLogin.Lib.CArray
import SingleTerminalLogin.Services.Answering

/-!
# The arrays a `read` fills

Seven places of the services and the client ask `read` for the size of an array and then
store a zero at the index it returns.

* `readString` — the read, what the place does with its return value, and the store;
* `ReadSite` — the seven places;
* `terminator_inside_iff` — the zero is stored inside the array exactly when `read` has not
  filled it and, in `justRecvMessage`, has not failed;
* `Upstream.exchange_eq_response`, `dealReadEvent_message`, `justRecvMessage_string` — what
  the services and the client go on with is the string in that array.
-/

namespace SingleTerminalLogin

open ByteText CProgram Proc

/-- What `read(fd, a, n)` comes to: it fails, or it has put up to `n` bytes into `a`. -/
inductive Got (n : Nat) where
  | failed
  | bytes (text : Text) (h : text.length ≤ n)

namespace Got

variable {n : Nat}

/-- What it returns. -/
def ret : Got n → Int
  | failed => -1
  | bytes text _ => text.length

/-- What it has written. -/
def text : Got n → Text
  | failed => []
  | bytes text _ => text

theorem text_length_le (got : Got n) : got.text.length ≤ n := by
  cases got with
  | failed => exact Nat.zero_le n
  | bytes text h => exact h

theorem ret_nonneg_iff {got : Got n} : 0 ≤ got.ret ↔ got.ret ≠ -1 := by
  cases got with
  | failed => exact iff_of_false (by simp [ret]) (not_not_intro rfl)
  | bytes text _ => exact iff_of_true (Int.natCast_nonneg _) (by simp only [ret]; omega)

theorem eq_of_ret_nonneg {got : Got n} (h : 0 ≤ got.ret) : got.ret = got.text.length := by
  cases got with
  | failed => exact absurd rfl (ret_nonneg_iff.1 h)
  | bytes text _ => rfl

end Got

/-- `ret = read(fd, a, sizeof(a))`, what is done about `ret`, and `a[ret] = '\0'`: the
array the place goes on with, or nothing where it leaves off before the store. -/
def readString {n : Nat} (leaves : Int → Bool) (a : CArray Byte n) (got : Got n) :
    C (Option (CArray Byte n)) := do
  let a ← a.copy 0 got.text
  if leaves got.ret then .ok none
  else do
    let a ← a.store got.ret 0
    .ok (some a)

section

variable {n : Nat} {leaves : Int → Bool} {a b : CArray Byte n} {got : Got n}

theorem returns_readString_iff :
    Returns (readString leaves a got) ↔ (leaves got.ret = false → 0 ≤ got.ret ∧ got.ret < n) := by
  obtain ⟨a', ha'⟩ : Returns (a.copy 0 got.text) := by
    refine CArray.returns_copy_iff.2 ?_
    rw [Nat.zero_add]
    exact got.text_length_le
  rw [readString, ha', ok_bind]
  cases leaves got.ret with
  | true => exact iff_of_true (returns_ok none) nofun
  | false =>
    rw [if_neg Bool.false_ne_true, returns_bind_iff]
    simp only [returns_ok, and_true, true_imp_iff]
    exact CArray.returns_store_iff

/-- What a place goes on with is a string: the bytes that were read up to their first
zero. -/
theorem readString_eq_some (h : readString leaves a got = .ok (some b)) :
    0 ≤ got.ret ∧ got.ret < n ∧ b.string = cstr got.text ∧ 0 ∈ b.elems := by
  obtain ⟨a', ha', h⟩ := bind_eq_ok.1 h
  by_cases hleaves : leaves got.ret = true
  · rw [if_pos hleaves] at h
    cases h
  · rw [if_neg hleaves] at h
    obtain ⟨a'', ha'', h⟩ := bind_eq_ok.1 h
    cases h
    obtain ⟨h0, hn, -⟩ := CArray.store_eq_ok.1 ha''
    rw [Got.eq_of_ret_nonneg h0] at ha''
    exact ⟨h0, hn, CArray.string_terminate ha' ha''⟩

end

/-! ## The places -/

/-- `DaemonBase::dealReadEvent`: a failed read is reported, at the end of the connection the
descriptor is closed. -/
def DaemonBase.message (got : Got MAX_MESSAGE_LEN) : C (Option (CArray Byte MAX_MESSAGE_LEN)) :=
  readString (fun ret => ret < 0 || ret = 0) (CArray.fill _ 0) got

/-- `MessageReceiver::dealClientMessage`. -/
def MessageReceiver.response (got : Got MESSAGE_MAX_LEN) : C (Option (CArray Byte MESSAGE_MAX_LEN)) :=
  readString (fun ret => ret < 0) (CArray.fill _ 0) got

/-- `MessageDispatcher::dealClientMessage`. -/
def MessageDispatcher.response (got : Got MESSAGE_MAX_LEN) : C (Option (CArray Byte MESSAGE_MAX_LEN)) :=
  readString (fun ret => ret < 0) (CArray.fill _ 0) got

/-- One round of `justRecvMessage`, which finds in `message` what the rounds before have
left there and looks at no return value. -/
def justRecvMessage (message : CArray Byte Terminal.MAX_MESSAGE_SIZE)
    (got : Got Terminal.MAX_MESSAGE_SIZE) : C (Option (CArray Byte Terminal.MAX_MESSAGE_SIZE)) := do
  let message ← message.store 0 0
  readString (fun _ => false) message got

/-- `Login::processCommandLine`. -/
def Login.buf (got : Got Terminal.MAX_MESSAGE_SIZE) :
    C (Option (CArray Byte Terminal.MAX_MESSAGE_SIZE)) :=
  readString (fun ret => ret < 0) (CArray.fill _ 0) got

/-- `RegistCmd::processCommandLine`. -/
def RegistCmd.buf (got : Got Terminal.MAX_MESSAGE_SIZE) :
    C (Option (CArray Byte Terminal.MAX_MESSAGE_SIZE)) :=
  readString (fun ret => ret < 0) (CArray.fill _ 0) got

/-- `LogoutCmd::processCommandLine`. -/
def LogoutCmd.buf (got : Got Terminal.MAX_MESSAGE_SIZE) :
    C (Option (CArray Byte Terminal.MAX_MESSAGE_SIZE)) :=
  readString (fun ret => ret < 0) (CArray.fill _ 0) got

/-- A place that stores a zero behind what it has read. -/
inductive ReadSite where
  | dealReadEvent
  | receiverResponse
  | dispatcherResponse
  | justRecvMessage
  | login
  | regist
  | logout
  deriving DecidableEq

namespace ReadSite

/-- The size of its array. -/
def size : ReadSite → Nat
  | dealReadEvent => MAX_MESSAGE_LEN
  | receiverResponse | dispatcherResponse => MESSAGE_MAX_LEN
  | justRecvMessage | login | regist | logout => Terminal.MAX_MESSAGE_SIZE

/-- What it does, where `before` is in the array of `justRecvMessage`. -/
def run : (site : ReadSite) → CArray Byte site.size → Got site.size → C (Option (CArray Byte site.size))
  | dealReadEvent, _, got => DaemonBase.message got
  | receiverResponse, _, got => MessageReceiver.response got
  | dispatcherResponse, _, got => MessageDispatcher.response got
  | justRecvMessage, before, got => SingleTerminalLogin.justRecvMessage before got
  | login, _, got => Login.buf got
  | regist, _, got => RegistCmd.buf got
  | logout, _, got => LogoutCmd.buf got

end ReadSite

/-- A place that leaves off when `read` has failed only goes wrong on a full array. -/
theorem returns_readString_negative_iff {n : Nat} {a : CArray Byte n} {got : Got n} :
    Returns (readString (fun ret => ret < 0) a got) ↔ got.ret < n := by
  rw [returns_readString_iff]
  simp only [decide_eq_false_iff_not, not_lt]
  constructor
  · intro h
    by_cases h0 : 0 ≤ got.ret
    · exact (h h0).2
    · omega
  · exact fun h h0 => ⟨h0, h⟩

/-- So does `DaemonBase::dealReadEvent`, which also leaves off at the end of the connection. -/
theorem returns_message_iff {got : Got MAX_MESSAGE_LEN} :
    Returns (DaemonBase.message got) ↔ got.ret < MAX_MESSAGE_LEN := by
  rw [DaemonBase.message, returns_readString_iff]
  simp only [Bool.or_eq_false_iff, decide_eq_false_iff_not, not_lt]
  constructor
  · intro h
    by_cases hpos : 0 < got.ret
    · exact (h ⟨hpos.le, hpos.ne'⟩).2
    · exact lt_of_le_of_lt (not_lt.1 hpos) (by decide)
  · exact fun h h0 => ⟨h0.1, h⟩

theorem returns_justRecvMessage_iff {message : CArray Byte Terminal.MAX_MESSAGE_SIZE}
    {got : Got Terminal.MAX_MESSAGE_SIZE} :
    Returns (justRecvMessage message got) ↔ got.ret < Terminal.MAX_MESSAGE_SIZE ∧ got.ret ≠ -1 := by
  obtain ⟨message', hmessage'⟩ : Returns (message.store 0 0) :=
    CArray.returns_store_iff.2 ⟨le_rfl, by decide⟩
  rw [justRecvMessage, hmessage', ok_bind, returns_readString_iff, ← Got.ret_nonneg_iff]
  exact ⟨fun h => (h rfl).symm, fun h _ => h.symm⟩

/-- Whatever `read` returns, every store of a place is inside its array, exactly when the
array was not filled and, in `justRecvMessage`, the read has not failed. -/
theorem terminator_inside_iff (site : ReadSite) (before : CArray Byte site.size) (got : Got site.size) :
    Returns (site.run before got) ↔ got.ret < site.size ∧ (site = .justRecvMessage → got.ret ≠ -1) := by
  by_cases hsite : site = .justRecvMessage
  · subst hsite
    rw [forall_prop_of_true rfl]
    exact returns_justRecvMessage_iff
  · rw [and_iff_left fun h => absurd h hsite]
    cases site with
    | dealReadEvent => exact returns_message_iff
    | justRecvMessage => exact absurd rfl hsite
    | _ => exact returns_readString_negative_iff

theorem not_returns_message_of_full {text : Text} (h : text.length = MAX_MESSAGE_LEN) :
    ¬ Returns (DaemonBase.message (.bytes text h.le)) := by
  rw [returns_message_iff]
  show ¬ (text.length : Int) < MAX_MESSAGE_LEN
  rw [h]
  exact lt_irrefl _

/-- A read of `DaemonBase::dealReadEvent` that fills the buffer ends its text behind the
buffer. -/
theorem full_read_overruns :
    ¬ ∀ (site : ReadSite) (before : CArray Byte site.size) (got : Got site.size),
      Returns (site.run before got) := by
  intro hall
  have hfull : (List.replicate MAX_MESSAGE_LEN (97 : Byte)).length = MAX_MESSAGE_LEN := List.length_replicate
  exact not_returns_message_of_full hfull (hall .dealReadEvent (CArray.fill _ 0) (.bytes _ hfull.le))

/-! ## What is made of the strings -/

/-- A place that does not leave off goes on with the bytes that were read, up to their first
zero. -/
theorem readString_bytes {n : Nat} {leaves : Int → Bool} {a : CArray Byte n} {text : Text}
    (h : text.length ≤ n) (hleaves : leaves text.length = false) :
    (readString leaves a (.bytes text h)).map (Option.map CArray.string) =
      if n ≤ text.length then .error .memory else .ok (some (cstr text)) := by
  have hroom : 0 + text.length ≤ n := (Nat.zero_add _).trans_le h
  obtain ⟨a', ha'⟩ : Returns (a.copy 0 text) := CArray.returns_copy_iff.2 hroom
  have hrun : readString leaves a (.bytes text h) = (a'.store text.length 0).map some := by
    show (a.copy 0 text >>= _) = _
    rw [ha', ok_bind, if_neg (by rw [Got.ret, hleaves]; decide)]
    rfl
  rw [hrun]
  by_cases hfull : n ≤ text.length
  · rw [if_pos hfull, CArray.store_outside (by omega)]
    rfl
  · have hinside : 0 ≤ (text.length : Int) ∧ (text.length : Int) < n := by omega
    obtain ⟨b, hb⟩ : Returns (a'.store text.length 0) := CArray.returns_store_iff.2 hinside
    rw [if_neg hfull, hb]
    exact congrArg (fun s => Except.ok (some s)) (CArray.string_terminate ha' hb).1

/-- What the receiver and the dispatcher go on with is the string in `response`. -/
theorem Upstream.exchange_eq_response (text : Text) (h : text.length ≤ MESSAGE_MAX_LEN) :
    (Upstream.mk .done (some text)).exchange =
      (MessageReceiver.response (.bytes text h)).map (Option.map CArray.string) :=
  (readString_bytes h rfl).symm

theorem message_bytes {text : Text} (h : text.length ≤ MAX_MESSAGE_LEN) (hne : text ≠ []) :
    (DaemonBase.message (.bytes text h)).map (Option.map CArray.string) =
      if MAX_MESSAGE_LEN ≤ text.length then .error .memory else .ok (some (cstr text)) := by
  have hpos : 0 < text.length := List.length_pos_iff.2 hne
  refine readString_bytes h ?_
  simp only [Bool.or_eq_false_iff, decide_eq_false_iff_not]
  omega

/-- The event loop survives the read of a text exactly when it was ended inside the buffer. -/
theorem dealReadEvent_message (fd : Int) (ptr : Nat) (text : Text) (h : text.length ≤ MAX_MESSAGE_LEN)
    (hne : text ≠ []) (s : Daemon) :
    (Daemon.dealReadEvent fd ptr (some text) true s).1 =
      ((DaemonBase.message (.bytes text h)).map (Option.map CArray.string)).map fun _ => 0 := by
  rw [message_bytes h hne]
  by_cases hfull : MAX_MESSAGE_LEN ≤ text.length
  · rw [if_pos hfull]
    cases text with
    | nil => exact absurd rfl hne
    | cons b bs =>
      change ((if MAX_MESSAGE_LEN ≤ (b :: bs).length then lift (.error .memory)
        else do
          let _ ← Daemon.epollCtl fd (.EPOLLOUT ptr) true
          pure 0 : Proc Daemon Int) _).1 = _
      rw [if_pos hfull]
      rfl
  · rw [if_neg hfull, Daemon.dealReadEvent_received hne (not_le.1 hfull)]
    rfl

/-- What the thread of the client compares with `logout`, where the zero was stored inside. -/
theorem justRecvMessage_string {before message : CArray Byte Terminal.MAX_MESSAGE_SIZE}
    {got : Got Terminal.MAX_MESSAGE_SIZE} (h : justRecvMessage before got = .ok (some message)) :
    message.string = cstr got.text := by
  obtain ⟨message', -, h⟩ := bind_eq_ok.1 h
  exact (readString_eq_some h).2.2.1

end SingleTerminalLogin
