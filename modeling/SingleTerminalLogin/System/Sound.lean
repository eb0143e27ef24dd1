import SingleTerminalLogin.System.System

/-!
# What holds in every run

* `Quiet`, `Deals` — what an event can do: either the login manager does not notice, or
  a request is dealt with;
* `happens_cases` — every event does one of the two;
* `Sound` — the tables are sane, no two clients share a descriptor, every session was
  recorded under a client's;
* `sound_run` — this holds in every run in which the names are plain.
-/

namespace SingleTerminalLogin

open ByteText CProgram SqlLex Loginer

/-! ## Clients and their descriptors -/

/-- The messages of a client that are not dealt with yet. -/
def Client.messages (x : Client) : List Message := x.inbox ++ x.armed.toList

/-- No two clients share a number or a descriptor. -/
structure Distinct (clients : List Client) : Prop where
  id : ∀ x ∈ clients, ∀ y ∈ clients, x.id = y.id → x = y
  fd : ∀ x ∈ clients, ∀ y ∈ clients, x.fd = y.fd → x = y

section

variable {clients : List Client}

theorem Distinct.map (h : Distinct clients) {f : Client → Client} (hid : ∀ x, (f x).id = x.id)
    (hfd : ∀ x, (f x).fd = x.fd) : Distinct (clients.map f) := by
  constructor
  · intro x hx y hy heq
    obtain ⟨a, ha, rfl⟩ := List.mem_map.1 hx
    obtain ⟨b, hb, rfl⟩ := List.mem_map.1 hy
    rw [hid, hid] at heq
    rw [h.id a ha b hb heq]
  · intro x hx y hy heq
    obtain ⟨a, ha, rfl⟩ := List.mem_map.1 hx
    obtain ⟨b, hb, rfl⟩ := List.mem_map.1 hy
    rw [hfd, hfd] at heq
    rw [h.fd a ha b hb heq]

theorem Distinct.filter (h : Distinct clients) (p : Client → Bool) : Distinct (clients.filter p) := by
  constructor
  · intro x hx y hy
    exact h.id x (List.mem_filter.1 hx).1 y (List.mem_filter.1 hy).1
  · intro x hx y hy
    exact h.fd x (List.mem_filter.1 hx).1 y (List.mem_filter.1 hy).1

theorem Distinct.append (h : Distinct clients) {x : Client} (hid : ∀ y ∈ clients, y.id ≠ x.id)
    (hfd : ∀ y ∈ clients, y.fd ≠ x.fd) : Distinct (clients ++ [x]) := by
  constructor
  · intro y hy z hz heq
    simp only [List.mem_append, List.mem_singleton] at hy hz
    rcases hy with hy | rfl <;> rcases hz with hz | rfl
    · exact h.id y hy z hz heq
    · exact absurd heq (hid y hy)
    · exact absurd heq.symm (hid z hz)
    · rfl
  · intro y hy z hz heq
    simp only [List.mem_append, List.mem_singleton] at hy hz
    rcases hy with hy | rfl <;> rcases hz with hz | rfl
    · exact h.fd y hy z hz heq
    · exact absurd heq (hfd y hy)
    · exact absurd heq.symm (hfd z hz)
    · rfl

end

namespace System

section

variable {own : List Int} {s : System} {fate : Nat → WriteOutcome} {n : Nat} {fd : Int} {x : Client}

theorem client?_eq_some {c : Nat} (h : s.client? c = some x) : x ∈ s.clients ∧ x.id = c :=
  ⟨List.mem_of_find?_eq_some h, by simpa using List.find?_some h⟩

theorem denoted_eq_some (h : s.denoted fd = some x) : x ∈ s.clients ∧ x.fd = fd :=
  ⟨List.mem_of_find?_eq_some h, by simpa using List.find?_some h⟩

/-- The descriptor of a client denotes that client. -/
theorem denoted_fd (h : Distinct s.clients) (hx : x ∈ s.clients) : s.denoted x.fd = some x := by
  have hsome : (s.denoted x.fd).isSome := List.find?_isSome.2 ⟨x, hx, by simp⟩
  obtain ⟨y, hy⟩ := Option.isSome_iff_exists.1 hsome
  obtain ⟨hmem, hfd⟩ := denoted_eq_some hy
  rw [hy, h.fd y hmem x hx hfd]

/-- A client that has its end open can be written to. -/
theorem write_fd (h : Distinct s.clients) (hx : x ∈ s.clients) (hopen : x.peerOpen = true) :
    s.write own fate n x.fd = .done := by
  rw [write, denoted_fd h hx]
  exact if_pos hopen

/-- But for the receiver's own, only descriptors of clients can be written to. -/
theorem denoted_of_write (h : s.write own fate n fd = .done) (hown : fd ∉ own) :
    ∃ x, s.denoted fd = some x ∧ (x.peerOpen = true ∨ fate n = .done) := by
  rw [write] at h
  cases hx : s.denoted fd with
  | none =>
    simp only [hx, if_neg hown] at h
    cases h
  | some x =>
    simp only [hx] at h
    refine ⟨x, rfl, or_iff_not_imp_left.2 fun hopen => ?_⟩
    rwa [if_neg hopen] at h

end

/-! ## What an event can do -/

/-- An event that does not reach the login manager: a client comes, or clients stay
what they are but for their messages and their end of the connection. -/
structure Quiet (own : List Int) (e : Event) (s s' : System) (out : List Happening) : Prop where
  manager : s'.manager = s.manager
  owner : s'.owner = s.owner
  closes : ∀ h ∈ out, ∃ c, h = .closed c
  clientNum : s.clientNum ≤ s'.clientNum
  distinct : Distinct s'.clients
  /-- Only a client that has closed its end is given up. -/
  kept : ∀ x ∈ s.clients, x.peerOpen = true → ∃ y ∈ s'.clients, y.id = x.id ∧ y.fd = x.fd
  came : ∀ y ∈ s'.clients,
    (∃ x ∈ s.clients, x.id = y.id ∧ x.fd = y.fd ∧
      (y.peerOpen = false → x.peerOpen = false ∨ .closed y.id ∈ out) ∧
      ∀ msg ∈ y.messages, msg ∈ x.messages ∨ ∃ c, e = .send c msg.request) ∨
    (e = .connect y.fd ∧ ClientFd own y.fd ∧ y.peerOpen = true ∧ y.messages = [] ∧
      y.id ≤ s'.clientNum)

/-- An event that does: the request of `x` is dealt with, and `a` is what comes back
from the login manager. -/
structure Deals (torn : Prop) (own : List Int) (fate : Nat → WriteOutcome) (s : System) (x : Client)
    (r : Request) (a : Option (Int × Text)) (out : List Happening) (s' : System) : Prop where
  done : r.Done torn x.fd s.manager s'.manager a
  sane : s'.manager.db.Sane
  owner : s'.owner = s.recordOwner x s'.manager
  clientNum : s'.clientNum = s.clientNum
  /-- A write that kills the receiver closes all connections. -/
  clients : (s'.clients = s.clients ∨ s'.clients = s.disarm x.id) ∨
    s'.clients = [] ∧ ∀ y ∈ s.clients, .closed y.id ∈ out
  unanswered : a = none → out = []
  answered : ∀ logoutFd msg, a = some (logoutFd, msg) →
    ∃ closed : List Nat, out = s.happenings x r
      (MessageReceiver.sendResponse (s.write own fate) x.fd msg logoutFd) ++ closed.map Happening.closed

/-- What holds in every run. -/
structure Sound (own : List Int) (s : System) : Prop where
  sane : s.manager.db.Sane
  recorded : ∀ u, ∀ row ∈ s.manager.db.active u, ClientFd own row.fuiFd
  fds : ∀ x ∈ s.clients, ClientFd own x.fd
  distinct : Distinct s.clients
  closed : ∀ x ∈ s.clients, x.peerOpen = false → .closed x.id ∈ s.trace
  plain : ∀ x ∈ s.clients, ∀ msg ∈ x.messages, ∀ n ∈ msg.request.names, Plain n
  numbered : ∀ x ∈ s.clients, x.id ≤ s.clientNum

section

variable {own : List Int} {m : Mysql} {torn : Prop} {s s' : System} {e : Event}
  {out : List Happening} {x : Client}

theorem Quiet.refl (hs : Sound own s) : Quiet own e s s [] where
  manager := rfl
  owner := rfl
  closes := by simp
  clientNum := le_rfl
  distinct := hs.distinct
  kept := fun x hx _ => ⟨x, hx, rfl, rfl⟩
  came := fun y hy => Or.inl ⟨y, hy, rfl, rfl, fun h => Or.inl h, fun _ h => Or.inl h⟩

/-- A change that touches one client, and there only its messages and its end of the
connection. -/
theorem quiet_update (hs : Sound own s) {c : Nat} {f : Client → Client} (hid : ∀ y, (f y).id = y.id)
    (hfd : ∀ y, (f y).fd = y.fd) (hcloses : ∀ h ∈ out, ∃ c, h = .closed c)
    (hopen : ∀ y, y.id = c → (f y).peerOpen = false → y.peerOpen = false ∨ .closed c ∈ out)
    (hmsg : ∀ y, y.id = c → y ∈ s.clients → ∀ msg ∈ (f y).messages,
      msg ∈ y.messages ∨ ∃ c, e = .send c msg.request) : Quiet own e s (s.update c f) out where
  manager := rfl
  owner := rfl
  closes := hcloses
  clientNum := le_rfl
  distinct := by
    refine hs.distinct.map (f := fun y => if y.id = c then f y else y) ?_ ?_
    · intro y
      split
      · exact hid y
      · rfl
    · intro y
      split
      · exact hfd y
      · rfl
  kept := by
    intro y hy _
    refine ⟨_, List.mem_map_of_mem hy, ?_⟩
    split
    · exact ⟨hid y, hfd y⟩
    · exact ⟨rfl, rfl⟩
  came := by
    intro z hz
    obtain ⟨y, hy, rfl⟩ := List.mem_map.1 hz
    left
    refine ⟨y, hy, ?_⟩
    split
    · rename_i hc
      rw [hid, hfd]
      exact ⟨rfl, rfl, hc ▸ hopen y hc, hmsg y hc hy⟩
    · exact ⟨rfl, rfl, Or.inl, fun _ => Or.inl⟩

theorem quiet_send (hs : Sound own s) (c : Nat) (r : Request) :
    Quiet own (.send c r) s (s.send c r) [] := by
  unfold send
  cases hr : r.message with
  | none => exact .refl hs
  | some msg =>
    have hrequest : msg.request = r := by
      unfold Request.message at hr
      split at hr
      · cases hr
        rfl
      · cases hr
    refine quiet_update hs ?_ ?_ (by simp) ?_ ?_
    · intro y
      split <;> rfl
    · intro y
      split <;> rfl
    · intro y hy
      split
      · exact Or.inl
      · exact Or.inl
    · intro y hy _ msg' hmsg'
      split at hmsg'
      · simp only [Client.messages, List.append_assoc, List.mem_append, List.mem_singleton] at hmsg' ⊢
        rcases hmsg' with h | rfl | h
        · exact Or.inl (Or.inl h)
        · exact Or.inr ⟨c, by rw [hrequest]⟩
        · exact Or.inl (Or.inr h)
      · exact Or.inl hmsg'

theorem quiet_disconnect (hs : Sound own s) (c : Nat) :
    Quiet own (.disconnect c) s (s.disconnect c).2 (s.disconnect c).1 := by
  unfold disconnect
  cases s.client? c with
  | none => exact .refl hs
  | some x =>
    refine quiet_update hs (fun _ => rfl) (fun _ => rfl) ?_ ?_ ?_
    · intro h hh
      exact ⟨c, List.mem_singleton.1 hh⟩
    · intro y hy _
      exact Or.inr (List.mem_singleton_self _)
    · exact fun y _ _ msg hmsg => Or.inl hmsg

theorem quiet_connect (hs : Sound own s) (fd : Int) :
    Quiet own (.connect fd) s (s.dealConnectRequest own fd) [] := by
  unfold dealConnectRequest
  split
  · rename_i h
    obtain ⟨hpos, hfits, hown, hfree⟩ := h
    refine ⟨rfl, rfl, by simp, Nat.le_succ _, ?_, ?_, ?_⟩
    · refine hs.distinct.append ?_ hfree
      intro y hy heq
      have := hs.numbered y hy
      simp only at heq
      omega
    · intro x hx _
      exact ⟨x, List.mem_append_left _ hx, rfl, rfl⟩
    · intro y hy
      rcases List.mem_append.1 hy with hy | hy
      · exact Or.inl ⟨y, hy, rfl, rfl, Or.inl, fun _ => Or.inl⟩
      · rw [List.mem_singleton.1 hy]
        exact Or.inr ⟨rfl, ⟨hpos, hfits, hown⟩, rfl, rfl, le_rfl⟩
  · exact .refl hs

theorem quiet_readable (hs : Sound own s) (c : Nat) :
    Quiet own (.readable c) s (s.dealReadEvent c) [] := by
  unfold dealReadEvent
  cases hc : s.client? c with
  | none => exact .refl hs
  | some x =>
    obtain ⟨hx, hid⟩ := client?_eq_some hc
    dsimp only
    split
    · exact .refl hs
    · rename_i msg rest harmed hinbox
      refine quiet_update hs (fun _ => rfl) (fun _ => rfl) (by simp) (fun _ _ => Or.inl) ?_
      intro y hy hmem msg' hmsg'
      have : y = x := hs.distinct.id y hmem x hx (hy.trans hid.symm)
      subst this
      left
      simp only [Client.messages, Option.toList_some, List.mem_append, List.mem_singleton] at hmsg' ⊢
      rw [hinbox, List.mem_cons]
      tauto
    · split
      · exact .refl hs
      · rename_i hclosed
        refine ⟨rfl, rfl, by simp, le_rfl, hs.distinct.filter _, ?_, ?_⟩
        · intro y hy hopen
          refine ⟨y, List.mem_filter.2 ⟨hy, ?_⟩, rfl, rfl⟩
          rw [decide_eq_true_eq]
          intro heq
          rw [hs.distinct.id y hy x hx (heq.trans hid.symm)] at hopen
          exact hclosed hopen
        · intro y hy
          exact Or.inl ⟨y, (List.mem_filter.1 hy).1, rfl, rfl, Or.inl, fun _ => Or.inl⟩

/-- The message of a command with plain names, dealt with. -/
theorem deals (hm : ServedBy torn Plain m) (hs : Sound own s) {fate : Nat → WriteOutcome} {msg : Message}
    (hx : x ∈ s.clients) (harmed : x.armed = some msg) :
    ∃ a, Deals torn own fate s x msg.request a
      (s.afterDealing x msg (MessageReceiver.dealClientMessage m (s.write own fate) x.fd msg.text
        s.manager)).1
      (s.afterDealing x msg (MessageReceiver.dealClientMessage m (s.write own fate) x.fd msg.text
        s.manager)).2 := by
  have hmem : msg ∈ x.messages := by
    rw [Client.messages, harmed]
    exact List.mem_append_right _ (List.mem_singleton_self msg)
  have hplain : ∀ n ∈ (msg.request.call x.fd).names, Plain n := by
    rw [Request.call_names]
    exact hs.plain x hx msg hmem
  have hfd := hs.fds x hx
  have hfits : FitsInt x.fd := ⟨le_trans (by decide) hfd.pos.le, hfd.fits⟩
  obtain ⟨t, ht, hdeal⟩ := dealClientMessage_request hm hplain hs.sane.ids hfits
  rw [msg.built] at ht
  cases ht
  have hdone := Request.done hm hplain hs.sane
  have hsane := (loginManager_outcome hm hplain hs.sane.ids).sane hs.sane
  rw [hdeal]
  refine ⟨(loginManager m (msg.request.call x.fd) s.manager).1.answer, ?_⟩
  generalize (loginManager m (msg.request.call x.fd) s.manager).1.answer = a at hdone ⊢
  generalize (loginManager m (msg.request.call x.fd) s.manager).2 = manager at hdone hsane ⊢
  cases a with
  | none =>
    exact ⟨hdone, hsane, rfl, rfl, Or.inl (Or.inl rfl), fun _ => rfl, fun _ _ h => by cases h⟩
  | some p =>
    simp only [afterDealing, MessageReceiver.Dealt.ofAnswer]
    cases (MessageReceiver.sendResponse (s.write own fate) x.fd p.2 p.1).ret with
    | error e =>
      refine ⟨hdone, hsane, rfl, rfl, Or.inr ⟨rfl, fun y hy => ?_⟩, (fun h => by cases h), ?_⟩
      · exact List.mem_append_right _ (List.mem_map_of_mem hy)
      · intro logoutFd msg' h
        cases h
        exact ⟨s.clients.map Client.id, by rw [List.map_map]; rfl⟩
    | ok ret =>
      refine ⟨hdone, hsane, rfl, rfl, Or.inl ?_, (fun h => by cases h), ?_⟩
      · show (if _ then _ else _) = _ ∨ (if _ then _ else _) = _
        split
        · exact Or.inl rfl
        · exact Or.inr rfl
      · intro logoutFd msg' h
        cases h
        exact ⟨[], (List.append_nil _).symm⟩

theorem client?_id (hs : Distinct s.clients) (hx : x ∈ s.clients) : s.client? x.id = some x := by
  have hsome : (s.client? x.id).isSome := List.find?_isSome.2 ⟨x, hx, by simp⟩
  obtain ⟨y, hy⟩ := Option.isSome_iff_exists.1 hsome
  obtain ⟨hmem, hid⟩ := client?_eq_some hy
  rw [hy, hs.id y hmem x hx hid]

/-- A running receiver deals with a message that was read. -/
theorem deals_of_armed (hm : ServedBy torn Plain m) (hs : Sound own s) (hrun : s.status = .running)
    {fate : Nat → WriteOutcome} {msg : Message} (hx : x ∈ s.clients) (harmed : x.armed = some msg) :
    ∃ a, Deals torn own fate s x msg.request a (happens own m (.writable x.id fate) s).1
      (happens own m (.writable x.id fate) s).2 := by
  have heq : happens own m (.writable x.id fate) s = s.afterDealing x msg
      (MessageReceiver.dealClientMessage m (s.write own fate) x.fd msg.text s.manager) := by
    rw [happens, if_pos hrun, dealWriteEvent, client?_id hs.distinct hx]
    simp only [harmed]
  rw [heq]
  exact deals hm hs hx harmed

/-- Every event is one or the other. -/
theorem happens_cases (hm : ServedBy torn Plain m) (hs : Sound own s) :
    Quiet own e s (happens own m e s).2 (happens own m e s).1 ∨
      ∃ fate x msg a, e = .writable x.id fate ∧ x ∈ s.clients ∧ x.armed = some msg ∧
        Deals torn own fate s x msg.request a (happens own m e s).1 (happens own m e s).2 := by
  cases e with
  | send c r => exact Or.inl (quiet_send hs c r)
  | disconnect c => exact Or.inl (quiet_disconnect hs c)
  | connect fd =>
    left
    rw [happens]
    split
    · exact quiet_connect hs fd
    · exact .refl hs
  | readable c =>
    left
    rw [happens]
    split
    · exact quiet_readable hs c
    · exact .refl hs
  | writable c fate =>
    by_cases hrun : s.status = .running
    · cases hc : s.client? c with
      | none =>
        rw [happens, if_pos hrun, dealWriteEvent, hc]
        exact Or.inl (.refl hs)
      | some x =>
        obtain ⟨hx, rfl⟩ := client?_eq_some hc
        cases harmed : x.armed with
        | none =>
          rw [happens, if_pos hrun, dealWriteEvent, hc]
          simp only [harmed]
          exact Or.inl (.refl hs)
        | some msg =>
          obtain ⟨a, ha⟩ := deals_of_armed hm hs hrun hx harmed
          exact Or.inr ⟨fate, x, msg, a, rfl, hx, harmed, ha⟩
    · rw [happens, if_neg hrun]
      exact Or.inl (.refl hs)

end

/-! ## What clients notice of a request -/

section

variable {own : List Int} {torn : Prop} {s s' : System} {out : List Happening} {x : Client}
  {fate : Nat → WriteOutcome} {r : Request} {a : Option (Int × Text)} {logoutFd : Int} {msg : Text}

/-- A notice is written when there is somebody to notify and the write succeeds. -/
theorem Deals.noticed (h : Deals torn own fate s x r (some (logoutFd, msg)) out s')
    (hpos : 0 < logoutFd) (hw : s.write own fate 0 logoutFd = .done) :
    .noticed logoutFd ((s.denoted logoutFd).map Client.id) (s.sessionOwner r) ∈ out := by
  obtain ⟨closed, hout⟩ := h.answered logoutFd msg rfl
  rw [hout, happenings, MessageReceiver.sendResponse, if_pos hpos, if_pos hw]
  split <;> simp

/-- An answer is written when the notice was, where there was one, and the write succeeds. -/
theorem Deals.answer (h : Deals torn own fate s x r (some (logoutFd, msg)) out s')
    (hn : 0 < logoutFd → s.write own fate 0 logoutFd = .done)
    (hw : s.write own fate 1 x.fd = .done) : .answered x.id r msg ∈ out := by
  obtain ⟨closed, hout⟩ := h.answered logoutFd msg rfl
  rw [hout, happenings, MessageReceiver.sendResponse, if_pos hw]
  refine List.mem_append_left _ ?_
  split_ifs with hpos h0
  · simp
  · exact absurd (hn hpos) h0
  · simp

/-- But for closed connections, clients notice what the response was turned into. -/
theorem Deals.mem_happenings (h : Deals torn own fate s x r (some (logoutFd, msg)) out s') {e : Happening}
    (hmem : e ∈ out) (hopen : ∀ c, e ≠ .closed c) :
    e ∈ s.happenings x r (MessageReceiver.sendResponse (s.write own fate) x.fd msg logoutFd) := by
  obtain ⟨closed, hout⟩ := h.answered logoutFd msg rfl
  rw [hout, List.mem_append] at hmem
  rcases hmem with hmem | hmem
  · exact hmem
  · obtain ⟨c, -, rfl⟩ := List.mem_map.1 hmem
    exact absurd rfl (hopen c)

theorem Deals.of_noticed (h : Deals torn own fate s x r a out s') {fd : Int} {c o : Option Nat}
    (hmem : .noticed fd c o ∈ out) : ∃ msg, a = some (fd, msg) ∧ 0 < fd ∧
      s.write own fate 0 fd = .done ∧ c = (s.denoted fd).map Client.id ∧ o = s.sessionOwner r := by
  cases a with
  | none =>
    rw [h.unanswered rfl] at hmem
    cases hmem
  | some p =>
    obtain ⟨logoutFd, msg⟩ := p
    have hmem := h.mem_happenings hmem fun c => by simp
    rw [happenings, MessageReceiver.sendResponse] at hmem
    split_ifs at hmem with hpos h0 h1 h1
    · simp only [Option.map_some, Option.toList_some, List.singleton_append, List.mem_cons,
        Happening.noticed.injEq, reduceCtorEq, List.not_mem_nil, or_false] at hmem
      obtain ⟨rfl, rfl, rfl⟩ := hmem
      exact ⟨msg, rfl, hpos, h0, rfl, rfl⟩
    · simp only [Option.map_some, Option.toList_some, Option.map_none, Option.toList_none,
        List.append_nil, List.mem_singleton, Happening.noticed.injEq] at hmem
      obtain ⟨rfl, rfl, rfl⟩ := hmem
      exact ⟨msg, rfl, hpos, h0, rfl, rfl⟩
    · simp at hmem
    · simp at hmem
    · simp at hmem

theorem Deals.of_answered (h : Deals torn own fate s x r a out s') {c : Nat} {r' : Request}
    {msg : Text} (hmem : .answered c r' msg ∈ out) : c = x.id ∧ r' = r ∧ ∃ logoutFd,
      a = some (logoutFd, msg) ∧ (0 < logoutFd → s.write own fate 0 logoutFd = .done) := by
  cases a with
  | none =>
    rw [h.unanswered rfl] at hmem
    cases hmem
  | some p =>
    obtain ⟨logoutFd, msg'⟩ := p
    have hmem := h.mem_happenings hmem fun c => by simp
    rw [happenings, MessageReceiver.sendResponse] at hmem
    split_ifs at hmem with hpos h0 h1 h1
    · simp only [Option.map_some, Option.toList_some, List.singleton_append, List.mem_cons,
        reduceCtorEq, Happening.answered.injEq, false_or, List.not_mem_nil, or_false] at hmem
      obtain ⟨rfl, rfl, rfl⟩ := hmem
      exact ⟨rfl, rfl, logoutFd, rfl, fun _ => h0⟩
    · simp at hmem
    · simp at hmem
    · simp only [Option.map_some, Option.toList_some, Option.map_none, Option.toList_none,
        List.nil_append, List.mem_singleton, Happening.answered.injEq] at hmem
      obtain ⟨rfl, rfl, rfl⟩ := hmem
      exact ⟨rfl, rfl, logoutFd, rfl, fun h => absurd h hpos⟩
    · simp at hmem

end

/-! ## Every run -/

section

variable {own : List Int} {m : Mysql} {torn : Prop} {s s' : System} {e : Event}
  {out : List Happening} {x : Client}

/-- A command is run with plain names. -/
def NamesPlain : Event → Prop
  | .send _ r => ∀ n ∈ r.names, Plain n
  | _ => True

instance : DecidablePred NamesPlain
  | .send _ r => inferInstanceAs (Decidable (∀ n ∈ r.names, Plain n))
  | .connect _ => isTrue trivial
  | .disconnect _ => isTrue trivial
  | .readable _ => isTrue trivial
  | .writable _ _ => isTrue trivial

theorem Quiet.sound (h : Quiet own e s s' out) (hs : Sound own s) (he : NamesPlain e) :
    Sound own { s' with trace := s.trace ++ out } where
  sane := h.manager ▸ hs.sane
  recorded := h.manager ▸ hs.recorded
  distinct := h.distinct
  fds := by
    intro y hy
    rcases h.came y hy with ⟨x, hx, -, hfd, -⟩ | ⟨-, hfd, -⟩
    · exact hfd ▸ hs.fds x hx
    · exact hfd
  closed := by
    intro y hy hopen
    rcases h.came y hy with ⟨x, hx, hid, -, hclosed, -⟩ | ⟨-, -, hopen', -⟩
    · rcases hclosed hopen with hx' | hout
      · exact List.mem_append_left _ (hid ▸ hs.closed x hx hx')
      · exact List.mem_append_right _ hout
    · rw [hopen] at hopen'
      cases hopen'
  plain := by
    intro y hy msg hmsg
    rcases h.came y hy with ⟨x, hx, -, -, -, hmsgs⟩ | ⟨-, -, -, hnone, -⟩
    · rcases hmsgs msg hmsg with hold | ⟨c, rfl⟩
      · exact hs.plain x hx msg hold
      · exact he
    · rw [hnone] at hmsg
      cases hmsg
  numbered := by
    intro y hy
    rcases h.came y hy with ⟨x, hx, hid, -⟩ | ⟨-, -, -, -, hle⟩
    · exact hid ▸ (hs.numbered x hx).trans h.clientNum
    · exact hle

/-- What dealing with a request leaves of the clients. -/
theorem Deals.mem_clients {fate : Nat → WriteOutcome} {r : Request} {a : Option (Int × Text)}
    (h : Deals torn own fate s x r a out s') {y : Client} (hy : y ∈ s'.clients) :
    ∃ z ∈ s.clients, z.id = y.id ∧ z.fd = y.fd ∧ z.peerOpen = y.peerOpen ∧
      ∀ msg ∈ y.messages, msg ∈ z.messages := by
  rcases h.clients with (hc | hc) | ⟨hc, -⟩
  · exact ⟨y, hc ▸ hy, rfl, rfl, rfl, fun _ h => h⟩
  · rw [hc] at hy
    obtain ⟨z, hz, rfl⟩ := List.mem_map.1 hy
    refine ⟨z, hz, ?_⟩
    split
    · refine ⟨rfl, rfl, rfl, ?_⟩
      intro msg hmsg
      rw [Client.messages, Option.toList_none, List.append_nil] at hmsg
      exact List.mem_append_left _ hmsg
    · exact ⟨rfl, rfl, rfl, fun _ h => h⟩
  · rw [hc] at hy
    cases hy

theorem Deals.kept {fate : Nat → WriteOutcome} {r : Request} {a : Option (Int × Text)}
    (h : Deals torn own fate s x r a out s') {z : Client} (hz : z ∈ s.clients)
    (hopen : .closed z.id ∉ out) : ∃ y ∈ s'.clients, y.id = z.id ∧ y.fd = z.fd := by
  rcases h.clients with (hc | hc) | ⟨-, hclosed⟩
  · exact ⟨z, hc ▸ hz, rfl, rfl⟩
  · rw [hc]
    refine ⟨_, List.mem_map_of_mem hz, ?_⟩
    split <;> exact ⟨rfl, rfl⟩
  · exact absurd (hclosed z hz) hopen

theorem Deals.distinct {fate : Nat → WriteOutcome} {r : Request} {a : Option (Int × Text)}
    (h : Deals torn own fate s x r a out s') (hs : Distinct s.clients) : Distinct s'.clients := by
  rcases h.clients with (hc | hc) | ⟨hc, -⟩
  · exact hc ▸ hs
  · rw [hc]
    refine hs.map (f := fun y => if y.id = x.id then { y with armed := none } else y) ?_ ?_
    · intro y
      split <;> rfl
    · intro y
      split <;> rfl
  · rw [hc]
    exact ⟨fun _ h => (by cases h), fun _ h => (by cases h)⟩

theorem Deals.sound {fate : Nat → WriteOutcome} {r : Request} {a : Option (Int × Text)}
    (h : Deals torn own fate s x r a out s') (hs : Sound own s) (hx : x ∈ s.clients) :
    Sound own { s' with trace := s.trace ++ out } where
  sane := h.sane
  recorded := by
    intro u row hrow
    rcases h.done.active_mem hrow with hold | ⟨hfd, -⟩
    · exact hs.recorded u row hold
    · exact hfd ▸ hs.fds x hx
  distinct := h.distinct hs.distinct
  fds := by
    intro y hy
    obtain ⟨z, hz, -, hfd, -⟩ := h.mem_clients hy
    exact hfd ▸ hs.fds z hz
  closed := by
    intro y hy hopen
    obtain ⟨z, hz, hid, -, hopen', -⟩ := h.mem_clients hy
    exact List.mem_append_left _ (hid ▸ hs.closed z hz (hopen'.trans hopen))
  plain := by
    intro y hy msg hmsg
    obtain ⟨z, hz, -, -, -, hmsgs⟩ := h.mem_clients hy
    exact hs.plain z hz msg (hmsgs msg hmsg)
  numbered := by
    intro y hy
    obtain ⟨z, hz, hid, -⟩ := h.mem_clients hy
    exact hid ▸ (hs.numbered z hz).trans h.clientNum.ge

theorem sound_step (hm : ServedBy torn Plain m) (hs : Sound own s) (he : NamesPlain e) :
    Sound own (step own m e s).2 := by
  rcases happens_cases (e := e) hm hs with h | ⟨fate, x, msg, a, -, hx, -, h⟩
  · exact h.sound hs he
  · exact h.sound hs hx

/-- The tables a run may start from: sane, and every session they list as active was
recorded under a descriptor clients can get. -/
structure Starts (own : List Int) (db : Db) : Prop where
  sane : db.Sane
  recorded : ∀ u, ∀ row ∈ db.active u, ClientFd own row.fuiFd

theorem Starts.empty : Starts own {} := ⟨Db.Sane.empty, fun _ _ h => by cases h⟩

theorem sound_start {manager : Connection} (h : Starts own manager.db) : Sound own (start manager) where
  sane := h.sane
  recorded := h.recorded
  distinct := ⟨fun _ h => (by cases h), fun _ h => (by cases h)⟩
  fds := fun _ h => by cases h
  closed := fun _ h => by cases h
  plain := fun _ h => by cases h
  numbered := fun _ h => by cases h

/-- Every run with plain names is sound throughout. -/
theorem sound_run (hm : ServedBy torn Plain m) {es : List Event} (hes : ∀ e ∈ es, NamesPlain e)
    {manager : Connection} (h : Starts own manager.db) :
    Sound own ((step own m).run es (start manager)).2 := by
  have hstep : ∀ e s, NamesPlain e → Sound own s → Sound own (step own m e s).2 :=
    fun e s he hs => sound_step hm hs he
  exact Machine.run_invariant hstep (Machine.along_of_forall hes _) (sound_start h)

end

end System

end SingleTerminalLogin
