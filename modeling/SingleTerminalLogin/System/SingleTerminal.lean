import SingleTerminalLogin.System.Sound

/-!
# Single terminal

A client holds a user from `login success!` until it closes its connection, is sent
`logout`, or logs that user out.

* `Holds` — who holds whom, read off what clients have noticed;
* `Held` — whoever holds a user has the descriptor recorded in the user's session;
* `single_terminal` — as long as a user is only logged out by whoever holds it, no two
  clients hold one user;
* `two_terminals` — a logout from somewhere else leaves the holder in place, unnoticed.
-/

namespace SingleTerminalLogin

open ByteText CProgram SqlLex Loginer

namespace System

/-! ## Who holds whom -/

/-- Does client `c` hold user `u` after this, if it did (or did not) before? -/
def holding (c : Nat) (u : Text) (before : Bool) : Happening → Bool
  | .answered d (.login v _) msg => if d = c ∧ v.text = u ∧ msg = loginSuccess then true else before
  | .answered d (.logout v) msg => if d = c ∧ v.text = u ∧ msg = logoutSuccess then false else before
  | .noticed _ d _ => if d = some c then false else before
  | _ => before

/-- Client `c` holds user `u`. -/
def Holds (trace : List Happening) (c : Nat) (u : Text) : Prop :=
  .closed c ∉ trace ∧ trace.foldl (holding c u) false = true

instance (trace : List Happening) (c : Nat) (u : Text) : Decidable (Holds trace c u) :=
  inferInstanceAs (Decidable (_ ∧ _))

/-- What one happening can do: it is the answer to a login, or the user was held before it and it is
neither a notice nor the answer to a logout. -/
theorem holding_eq_true {c : Nat} {u : Text} {e : Happening} {before : Bool} (h : holding c u before e = true) :
    (∃ v p, v.text = u ∧ e = .answered c (.login v p) loginSuccess) ∨
      before = true ∧ (∀ fd o, e ≠ .noticed fd (some c) o) ∧
        ∀ v : Argument, v.text = u → e ≠ .answered c (.logout v) logoutSuccess := by
  cases e with
  | closed d => exact Or.inr ⟨h, fun _ _ => Happening.noConfusion, fun _ _ => Happening.noConfusion⟩
  | noticed fd d o =>
    rw [holding] at h
    split at h
    · cases h
    · next hd =>
      refine Or.inr ⟨h, ?_, fun _ _ => Happening.noConfusion⟩
      rintro fd' o' ⟨⟩
      exact hd rfl
  | answered d r msg =>
    cases r with
    | regist v p =>
      refine Or.inr ⟨h, fun _ _ => Happening.noConfusion, ?_⟩
      rintro w hw ⟨⟩
    | login v p =>
      rw [holding] at h
      split at h
      · next hv =>
        obtain ⟨rfl, hv, rfl⟩ := hv
        exact Or.inl ⟨v, p, hv, rfl⟩
      · refine Or.inr ⟨h, fun _ _ => Happening.noConfusion, ?_⟩
        rintro w hw ⟨⟩
    | logout w =>
      rw [holding] at h
      split at h
      · cases h
      · next hw =>
        refine Or.inr ⟨h, fun _ _ => Happening.noConfusion, ?_⟩
        rintro v hv ⟨⟩
        exact hw ⟨rfl, hv, rfl⟩

/-- Whoever holds a user afterwards was told so just now, or did before and was neither
notified nor told of the end. -/
theorem foldl_holding {c : Nat} {u : Text} {out : List Happening} {before : Bool}
    (h : out.foldl (holding c u) before = true) :
    (∃ v p, v.text = u ∧ .answered c (.login v p) loginSuccess ∈ out) ∨
      before = true ∧ (∀ fd o, .noticed fd (some c) o ∉ out) ∧
        ∀ v : Argument, v.text = u → .answered c (.logout v) logoutSuccess ∉ out := by
  induction out generalizing before with
  | nil => exact Or.inr ⟨h, fun _ _ => List.not_mem_nil, fun _ _ => List.not_mem_nil⟩
  | cons e es ih =>
    rcases ih h with ⟨v, p, hv, hmem⟩ | ⟨hbefore, hnotice, hlogout⟩
    · exact Or.inl ⟨v, p, hv, List.mem_cons_of_mem _ hmem⟩
    rcases holding_eq_true hbefore with ⟨v, p, hv, rfl⟩ | ⟨hbefore, hnotice', hlogout'⟩
    · exact Or.inl ⟨v, p, hv, List.mem_cons_self⟩
    refine Or.inr ⟨hbefore, fun fd o => ?_, fun v hv => ?_⟩
    · exact List.not_mem_cons_of_ne_of_not_mem (hnotice' fd o).symm (hnotice fd o)
    · exact List.not_mem_cons_of_ne_of_not_mem (hlogout' v hv).symm (hlogout v hv)

/-! ## The invariant -/

/-- Whoever holds a user is a client whose descriptor is recorded in the user's session. -/
def Held (s : System) : Prop :=
  ∀ c u, Holds s.trace c u →
    ∃ x ∈ s.clients, x.id = c ∧ ∃ row, s.manager.db.active u = [row] ∧ row.fuiFd = x.fd

/-- The user a request logs out. -/
def logsOut : Request → Option Argument
  | .logout u => some u
  | _ => none

/-- The names are plain, and a user is only logged out by a client that holds it, or
when nobody does. -/
def Orderly : Event → System → Prop
  | .send _ r, _ => ∀ n ∈ r.names, Plain n
  | .writable c _, s => ∀ x ∈ s.clients, x.id = c → ∀ msg ∈ x.armed, ∀ u ∈ logsOut msg.request,
      ∀ y ∈ s.clients, Holds s.trace y.id u.text → y.id = c
  | _, _ => True

instance (e : Event) (s : System) : Decidable (Orderly e s) :=
  match e with
  | .send _ r => inferInstanceAs (Decidable (∀ n ∈ r.names, Plain n))
  | .connect _ => isTrue trivial
  | .disconnect _ => isTrue trivial
  | .readable _ => isTrue trivial
  | .writable c _ => inferInstanceAs (Decidable (∀ x ∈ s.clients, x.id = c → ∀ msg ∈ x.armed,
      ∀ u ∈ logsOut msg.request, ∀ y ∈ s.clients, Holds s.trace y.id u.text → y.id = c))

theorem Orderly.namesPlain {e : Event} {s : System} (h : Orderly e s) : NamesPlain e := by
  cases e with
  | send c r => exact h
  | connect fd => trivial
  | disconnect c => trivial
  | readable c => trivial
  | writable c fate => trivial

section

variable {own : List Int} {m : Mysql} {s s' : System} {e : Event} {out : List Happening}
  {x : Client}

/-- Whoever holds a user still has its end of the connection open. -/
theorem Sound.open_of_holds (hs : Sound own s) {c : Nat} {u : Text} (h : Holds s.trace c u)
    (hx : x ∈ s.clients) (hid : x.id = c) : x.peerOpen = true := by
  cases hopen : x.peerOpen with
  | true => rfl
  | false => exact absurd (hid ▸ hs.closed x hx hopen) h.1

theorem Quiet.held (h : Quiet own e s s' out) (hs : Sound own s) (hheld : Held s) :
    Held { s' with trace := s.trace ++ out } := by
  rintro c u ⟨hclosed, hfold⟩
  have hclosed' : .closed c ∉ s.trace := fun hmem => hclosed (List.mem_append_left _ hmem)
  rw [List.foldl_append] at hfold
  have hbefore : Holds s.trace c u := by
    rcases foldl_holding hfold with ⟨v, p, -, hmem⟩ | ⟨hbefore, -⟩
    · obtain ⟨d, hd⟩ := h.closes _ hmem
      cases hd
    · exact ⟨hclosed', hbefore⟩
  obtain ⟨x, hx, hid, row, hrow, hfd⟩ := hheld c u hbefore
  obtain ⟨y, hy, hid', hfd'⟩ := h.kept x hx (hs.open_of_holds hbefore hx hid)
  refine ⟨y, hy, hid'.trans hid, row, ?_, hfd.trans hfd'.symm⟩
  rw [h.manager]
  exact hrow

/-- The descriptor that is read out of a session of a client. -/
theorem Sound.readFd (hs : Sound own s) {u : Text} {row : LoginRow}
    (hrow : s.manager.db.active u = [row]) : readFd row = row.fuiFd := by
  have hfd := hs.recorded u row (hrow ▸ List.mem_singleton_self row)
  exact readInt_intText hfd.pos.le hfd.fits

/-- A session that was there and whose holder is not told otherwise stays. -/
theorem Deals.active_kept {fate : Nat → WriteOutcome} {r : Request} {a : Option (Int × Text)}
    (h : Deals False own fate s x r a out s') (hs : Sound own s) (hx : x ∈ s.clients) {c : Nat}
    {u : Text} (hholds : Holds s.trace c u)
    (horderly : ∀ v, r = .logout v → v.text = u → c = x.id)
    (hnotice : ∀ fd o, .noticed fd (some c) o ∉ out)
    (hlogout : ∀ v : Argument, v.text = u → .answered c (.logout v) logoutSuccess ∉ out)
    {y : Client} (hy : y ∈ s.clients) (hid : y.id = c) {row : LoginRow}
    (hrow : s.manager.db.active u = [row]) (hfd : row.fuiFd = y.fd) :
    s'.manager.db.active u = [row] := by
  have hopen := hs.open_of_holds hholds hy hid
  have hw : s.write own fate 0 y.fd = .done := write_fd hs.distinct hy hopen
  -- a notice to the holder would have been written
  have hnotified : ∀ msg, a ≠ some (row.fuiFd, msg) := by
    rintro msg rfl
    rw [hfd] at h
    have hmem := h.noticed (hs.fds y hy).pos hw
    rw [denoted_fd hs.distinct hy, Option.map_some, hid] at hmem
    exact hnotice _ _ hmem
  have hother : ∀ n ∈ (r.call x.fd).names.head?, u ≠ n → s'.manager.db.active u = [row] := by
    intro n hn hne
    rw [h.done.active_other hs.sane.ids ?_, hrow]
    intro n' hn'
    rw [Option.mem_unique hn' hn]
    exact hne
  have hdone := h.done
  cases r with
  | regist v p =>
    have hlogin : s'.manager.db.t_user_login = s.manager.db.t_user_login := hdone.1
    rw [Db.active, hlogin]
    exact hrow
  | login v p =>
    by_cases hv : u = v.text
    · subst hv
      refine LoginDone.active_kept hdone hrow fun msg => ?_
      rw [hs.readFd hrow]
      exact hnotified msg
    · exact hother _ rfl hv
  | logout v =>
    by_cases hv : u = v.text
    · have hc : c = x.id := horderly v rfl hv.symm
      have hyx : y = x := hs.distinct.id y hy x hx (hid.trans hc)
      subst hyx
      -- the answer would have been written as well
      have hanswer : a ≠ some (-1, logoutSuccess) := by
        rintro rfl
        have hmem := h.answer (fun h => absurd h (by decide)) (write_fd hs.distinct hy hopen)
        rw [hid] at hmem
        exact hlogout v hv.symm hmem
      subst hv
      exact LogoutDone.active_kept hdone hrow hanswer
    · exact hother _ rfl hv

theorem Deals.held {fate : Nat → WriteOutcome} {msg : Message} {a : Option (Int × Text)}
    (h : Deals False own fate s x msg.request a out s') (hs : Sound own s) (hx : x ∈ s.clients)
    (harmed : x.armed = some msg) (horderly : Orderly (.writable x.id fate) s) (hheld : Held s) :
    Held { s' with trace := s.trace ++ out } := by
  rintro c u ⟨hclosed, hfold⟩
  have hclosed' : .closed c ∉ s.trace := fun hmem => hclosed (List.mem_append_left _ hmem)
  have hout : .closed c ∉ out := fun hmem => hclosed (List.mem_append_right _ hmem)
  rw [List.foldl_append] at hfold
  rcases foldl_holding hfold with ⟨v, p, rfl, hmem⟩ | ⟨hbefore, hnotice, hlogout⟩
  · -- the client was just told that it is logged in
    obtain ⟨rfl, hr, logoutFd, ha, -⟩ := h.of_answered hmem
    obtain ⟨y, hy, hid, hfd⟩ := h.kept hx hout
    have hdone := h.done
    rw [← hr] at hdone
    obtain ⟨row, hrow, hrowfd, -⟩ := hdone.entered ha
    exact ⟨y, hy, hid, row, hrow, hrowfd.trans hfd.symm⟩
  · have hholds : Holds s.trace c u := ⟨hclosed', hbefore⟩
    obtain ⟨y, hy, hid, row, hrow, hfd⟩ := hheld c u hholds
    obtain ⟨z, hz, hid', hfd'⟩ := h.kept hy (hid.symm ▸ hout)
    refine ⟨z, hz, hid'.trans hid, row, ?_, hfd.trans hfd'.symm⟩
    refine h.active_kept hs hx hholds ?_ hnotice hlogout hy hid hrow hfd
    intro v hr hv
    have hv' : v ∈ logsOut msg.request := by
      rw [hr]
      rfl
    have hc := horderly x hx rfl msg harmed v hv' y hy
    rw [hid, hv] at hc
    exact hc hholds

theorem held_step (hm : ServedBy False Plain m) (hs : Sound own s) (he : Orderly e s)
    (hheld : Held s) : Held (step own m e s).2 := by
  rcases happens_cases (e := e) hm hs with h | ⟨fate, x, msg, a, rfl, hx, harmed, h⟩
  · exact h.held hs hheld
  · exact h.held hs hx harmed he hheld

theorem held_run (hm : ServedBy False Plain m) {es : List Event} {manager : Connection}
    (h : Starts own manager.db) (hes : (step own m).Along Orderly es (start manager)) :
    Sound own ((step own m).run es (start manager)).2 ∧
      Held ((step own m).run es (start manager)).2 := by
  have hstep : ∀ e s, Orderly e s → Sound own s ∧ Held s →
      Sound own (step own m e s).2 ∧ Held (step own m e s).2 := by
    rintro e s he ⟨hs, hheld⟩
    exact ⟨sound_step hm hs he.namesPlain, held_step hm hs he hheld⟩
  refine @Machine.run_invariant _ _ _ (step own m) _ (fun s => Sound own s ∧ Held s) hstep _ _ hes ?_
  refine ⟨sound_start h, ?_⟩
  rintro c u ⟨-, hfold⟩
  cases hfold

end

/-- In every run in which a user is only logged out by whoever holds it, no user is ever
held by two clients. -/
theorem single_terminal (own : List Int) (m : Mysql) (hm : ServedBy False Plain m)
    (manager : Connection) (hstart : Starts own manager.db) (es : List Event)
    (hes : (step own m).Along Orderly es (start manager)) (u : Text) (c d : Nat)
    (hc : Holds ((step own m).run es (start manager)).2.trace c u)
    (hd : Holds ((step own m).run es (start manager)).2.trace d u) : c = d := by
  obtain ⟨hs, hheld⟩ := held_run hm hstart hes
  obtain ⟨x, hx, rfl, row, hrow, hfd⟩ := hheld c u hc
  obtain ⟨y, hy, rfl, row', hrow', hfd'⟩ := hheld d u hd
  rw [hrow] at hrow'
  cases hrow'
  rw [hs.distinct.fd x hx y hy (hfd.symm.trans hfd')]

section

/-- A name for the runs below. -/
def user : Argument := ⟨ascii "u", by decide +kernel⟩

/-- A password for the runs below. -/
def password : Argument := ⟨ascii "p", by decide +kernel⟩

/-- A client runs a command, and the receiver reads and handles it. -/
def command (c : Nat) (r : Request) : List Event :=
  [.send c r, .readable c, .writable c fun _ => .done]

/-- The descriptors of the receiver: the standard ones, its listening socket, epoll and
the dispatcher. -/
def ownFds : List Int := [0, 1, 2, 3, 4, 5]

/-- Two clients log the same user in, one after the other. -/
def moved : List Event :=
  [.connect 6, .connect 7] ++ command 1 (.regist user password) ++ command 1 (.login user password) ++
    command 2 (.login user password)

/-- The first client is told, the second one holds the user. -/
theorem single_terminal_moved :
    Holds ((step ownFds memoryServer).run moved (start { db := {} })).2.trace 2 (ascii "u") ∧ 2 = 2 :=
  ⟨by decide +kernel, single_terminal ownFds memoryServer (servedBy_memoryServer _ _) { db := {} }
    .empty moved (by decide +kernel) (ascii "u") 2 2 (by decide +kernel) (by decide +kernel)⟩

/-- The second client logs the user out, is answered with success, and logs in. -/
theorem two_terminals : ¬ ∀ es : List Event, (∀ e ∈ es, NamesPlain e) →
    let s := ((step ownFds memoryServer).run es (start { db := {} })).2
    (∀ x ∈ s.clients, x.armed.isNone) →
      ∀ u c d, Holds s.trace c u → Holds s.trace d u → c = d := by
  intro h
  have := h ([.connect 6, .connect 7] ++ command 1 (.regist user password) ++
    command 1 (.login user password) ++ command 2 (.logout user) ++
    command 2 (.login user password)) (by decide +kernel) (by decide +kernel) (ascii "u") 1 2
    (by decide +kernel) (by decide +kernel)
  cases this

end

end System

end SingleTerminalLogin
