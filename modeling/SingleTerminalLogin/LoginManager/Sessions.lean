import SingleTerminalLogin.Lib.Machine
import SingleTerminalLogin.Services.UserLoginImpl

/-!
# Sequences of calls on the login manager

The login manager as a machine whose inputs are the three operations, and the
invariant of its tables.

* `Db.Sane` — every user has at most one active row, and the ids are as MySQL
  makes them;
* `LoginOutcome.sane`, `LogoutOutcome.sane`, `RegistOutcome.sane` — whatever an
  operation does to the tables, it keeps them sane;
* `active_single_run` — so does every sequence of operations, whatever statements
  fail on the way.
-/

namespace SingleTerminalLogin

open ByteText CProgram Proc SqlApi Loginer Register

/-! ## Rows -/

namespace Db

theorem active_insertLogin (db : Db) (row : LoginRow) (u : Text) :
    (db.insertLogin row).active u = db.active u ++ if row.activeOf u then [row] else [] := by
  unfold active insertLogin
  rw [List.filter_append]
  congr 1
  by_cases h : row.activeOf u <;> simp [h]

theorem active_insertPassword (db : Db) (row : PasswordRow) (u : Text) :
    (db.insertPassword row).active u = db.active u := rfl

/-- The update by id takes the row out of the active ones and touches no other. -/
theorem active_logoutRow (db : Db) (id : Int) (u : Text) :
    (db.logoutRow id).active u = (db.active u).filter fun r => (r.fuiId : Int) ≠ id := by
  unfold active logoutRow
  simp only
  induction db.t_user_login with
  | nil => rfl
  | cons r rs ih =>
    rw [List.map_cons, List.filter_cons, List.filter_cons]
    by_cases hid : (r.fuiId : Int) = id
    · rw [if_pos hid, ih]
      have hover : LoginRow.activeOf u { r with fuiStatus := 2 } = false := by
        simp [LoginRow.activeOf]
      rw [hover]
      by_cases hr : LoginRow.activeOf u r
      · simp [hr, hid]
      · simp [hr]
    · rw [if_neg hid, ih]
      by_cases hr : LoginRow.activeOf u r
      · simp [hr, hid]
      · simp [hr]

theorem IdsFit.logoutRow {db : Db} (h : db.IdsFit) (id : Int) : (db.logoutRow id).IdsFit := by
  have hids : (db.logoutRow id).t_user_login.map LoginRow.fuiId =
      db.t_user_login.map LoginRow.fuiId := by
    unfold Db.logoutRow
    rw [List.map_map]
    apply List.map_congr_left
    intro r hr
    simp only [Function.comp_apply]
    split <;> rfl
  have hmem : ∀ r ∈ (db.logoutRow id).t_user_login, ∃ r' ∈ db.t_user_login, r'.fuiId = r.fuiId := by
    intro r hr
    have := List.mem_map_of_mem (f := LoginRow.fuiId) hr
    rw [hids] at this
    exact List.mem_map.1 this
  refine ⟨hids ▸ h.unique, ?_, ?_⟩
  · intro r hr
    obtain ⟨r', hr', heq⟩ := hmem r hr
    exact heq ▸ h.positive r' hr'
  · intro r hr
    obtain ⟨r', hr', heq⟩ := hmem r hr
    exact heq ▸ h.fits r' hr'

theorem IdsFit.insertLogin {db : Db} (h : db.IdsFit) {row : LoginRow} (h0 : 0 < row.fuiId)
    (hlt : row.fuiId < 2 ^ 31) (hnew : ∀ r ∈ db.t_user_login, r.fuiId ≠ row.fuiId) :
    (db.insertLogin row).IdsFit := by
  refine ⟨?_, ?_, ?_⟩
  · unfold Db.insertLogin
    rw [List.map_append, List.map_singleton]
    refine List.Nodup.append h.unique (List.nodup_singleton _) ?_
    intro id hid hid'
    rw [List.mem_singleton] at hid'
    obtain ⟨r, hr, rfl⟩ := List.mem_map.1 hid
    exact hnew r hr hid'
  · intro r hr
    rcases List.mem_append.1 hr with hr | hr
    · exact h.positive r hr
    · rw [List.mem_singleton.1 hr]
      exact h0
  · intro r hr
    rcases List.mem_append.1 hr with hr | hr
    · exact h.fits r hr
    · rw [List.mem_singleton.1 hr]
      exact hlt

/-- The invariant of the tables. -/
structure Sane (db : Db) : Prop where
  ids : db.IdsFit
  single : ∀ u, (db.active u).length ≤ 1

theorem Sane.empty : Sane {} := by
  refine ⟨⟨List.nodup_nil, ?_, ?_⟩, ?_⟩
  · intro r hr
    cases hr
  · intro r hr
    cases hr
  · intro u
    exact Nat.zero_le 1

theorem Sane.insertPassword {db : Db} (h : db.Sane) (row : PasswordRow) :
    (db.insertPassword row).Sane := ⟨⟨h.ids.unique, h.ids.positive, h.ids.fits⟩, h.single⟩

theorem Sane.logoutRow {db : Db} (h : db.Sane) (id : Int) : (db.logoutRow id).Sane := by
  refine ⟨h.ids.logoutRow id, ?_⟩
  intro u
  rw [active_logoutRow]
  exact le_trans (List.length_filter_le _ _) (h.single u)

/-- Ending the only active row of a user leaves the user with none. -/
theorem active_logoutRow_single {db : Db} {u : Text} {row : LoginRow} (h : db.active u = [row]) :
    (db.logoutRow row.fuiId).active u = [] := by
  rw [active_logoutRow, h]
  simp

end Db

/-- A new row for a user without one. -/
theorem Loginer.Logined.sane {u p : Text} {fd : Int} {db db' : Db} (h : Logined u p fd db db')
    (hs : db.Sane) (hu : db.active u = []) : db'.Sane := by
  obtain ⟨time, id, h0, hlt, hnew, rfl⟩ := h
  refine ⟨hs.ids.insertLogin h0 hlt hnew, ?_⟩
  intro v
  rw [Db.active_insertLogin]
  by_cases hv : u = v
  · subst hv
    rw [hu]
    split <;> simp
  · have : LoginRow.activeOf v ⟨id, u, p, fd, 1, time⟩ = false := by simp [LoginRow.activeOf, hv]
    rw [this]
    simpa using hs.single v

/-! ## Every operation keeps the tables sane -/

section

variable {torn : Prop} {u p msg : Text} {fd : Int} {s s' : SqlApi}

/-- With sane tables the count of active rows is what it says. -/
theorem Db.Sane.counted_active {db : Db} (h : db.Sane) (u : Text) :
    counted (db.active u).length = false ↔ db.active u = [] := by
  have hle := h.single u
  rw [counted_eq (lt_of_le_of_lt hle (by decide))]
  simp

/-- With sane tables a row of a user is the only one. -/
theorem Db.Sane.active_eq {db : Db} (hs : db.Sane) {row : LoginRow} (h : row ∈ db.active u) :
    db.active u = [row] := by
  have hlen := le_antisymm (hs.single u) (List.length_pos_of_mem h)
  obtain ⟨row', hrow'⟩ := List.length_eq_one_iff.1 hlen
  rw [hrow'] at h ⊢
  rw [List.mem_singleton.1 h]

theorem Db.Sane.length_of_counted {db : Db} (h : db.Sane) {u : Text}
    (hc : counted (db.active u).length = true) : (db.active u).length = 1 := by
  have hne : db.active u ≠ [] := by
    intro hnil
    rw [(h.counted_active u).2 hnil] at hc
    cases hc
  exact le_antisymm (h.single u) (List.length_pos_iff.2 hne)

theorem Loginer.LoginOutcome.sane {r : C LoginReply} (h : LoginOutcome torn u p fd s s' r) (hs : s.db.Sane) :
    s'.db.Sane := by
  cases h with
  | unchecked h => exact h.db ▸ hs
  | invalid hv h => exact h.db ▸ hs
  | first hv ha hd hf => exact hd.sane hs ((hs.counted_active u).1 ha)
  | firstFailed hv ha hd hf =>
    rcases hd with hd | ⟨-, hd⟩
    · exact hd ▸ hs
    · exact hd.sane hs ((hs.counted_active u).1 ha)
  | unlocated hv h => exact h.db ▸ hs
  | aborted hv ha hd hle hf => exact hd ▸ hs
  | displaced row hv ha hd hf =>
    exact hd.sane (hs.logoutRow row.fuiId) (Db.active_logoutRow_single ha)
  | displaceFailed row hv ha hd hf =>
    rcases hd with hd | hd | ⟨-, hd⟩
    · exact hd ▸ hs
    · exact hd ▸ hs.logoutRow row.fuiId
    · exact hd.sane (hs.logoutRow row.fuiId) (Db.active_logoutRow_single ha)

theorem Loginer.LogoutOutcome.sane {r : C Reply} (h : LogoutOutcome torn u s s' r) (hs : s.db.Sane) :
    s'.db.Sane := by
  cases h with
  | unlocated h => exact h.db ▸ hs
  | absent ha h => exact h.db ▸ hs
  | ended row ha hd hf => exact hd ▸ hs.logoutRow row.fuiId
  | endFailed row ha hd hf =>
    rcases hd with hd | ⟨-, hd⟩
    · exact hd ▸ hs
    · exact hd ▸ hs.logoutRow row.fuiId

theorem Register.RegistOutcome.sane {r : C Reply} (h : RegistOutcome torn u p msg s s' r) (hs : s.db.Sane) :
    s'.db.Sane := by
  have hin : Registed u p s.db s'.db → s'.db.Sane := by
    rintro ⟨time, h⟩
    exact h ▸ hs.insertPassword ⟨u, p, time⟩
  cases h with
  | unchecked h => exact h.db ▸ hs
  | taken hv h => exact h.db ▸ hs
  | entered hv hd hf => exact hin hd
  | enterFailed hv hd hf =>
    rcases hd with hd | ⟨-, hd⟩
    · exact hd ▸ hs
    · exact hin hd

end

/-! ## Sequences -/

/-- One of the three operations of the login manager, with its parameters. -/
inductive Call where
  | regist (userName passWord : Text)
  | login (userName passWord : Text) (sendToClientFd : Int)
  | logout (userName : Text)
  deriving DecidableEq

/-- What a call ends with. -/
inductive CallEnd where
  | regist (r : C Reply)
  | login (r : C LoginReply)
  | logout (r : C Reply)

/-- The login manager, called directly. -/
def loginManager (m : Mysql) : Machine Call CallEnd Connection
  | .regist u p, c =>
    let r := onCopy (processRegist m u p []) c
    (.regist r.1, r.2)
  | .login u p fd, c =>
    let r := onCopy (processLogin m u p fd) c
    (.login r.1, r.2)
  | .logout u, c =>
    let r := onCopy (processLogout m u) c
    (.logout r.1, r.2)

/-- The names a call brings along. -/
def Call.names : Call → List Text
  | .regist u p => [u, p]
  | .login u p _ => [u, p]
  | .logout u => [u]

/-- Everything a call can do. -/
def Call.Outcome (torn : Prop) (c c' : Connection) : Call → CallEnd → Prop
  | .regist u p, .regist r => RegistOutcome torn u p [] { connection := c } { connection := c' } r
  | .login u p fd, .login r => LoginOutcome torn u p fd { connection := c } { connection := c' } r
  | .logout u, .logout r => LogoutOutcome torn u { connection := c } { connection := c' } r
  | _, _ => False

section

variable {torn : Prop} {m : Mysql} {P : Text → Prop}

/-- What the rows of `SqlApi` hold after a call does not matter: every call gets its
own copy. -/
theorem Loginer.LoginOutcome.forget {u p : Text} {fd : Int} {s s' : SqlApi} {r : C LoginReply}
    (h : LoginOutcome torn u p fd s s' r) :
    LoginOutcome torn u p fd s { connection := s'.connection } r := by
  cases h with
  | unchecked h => exact .unchecked ⟨h.db, h.failures, rfl⟩
  | invalid hv h => exact .invalid hv ⟨h.db, h.failures, rfl⟩
  | first hv ha hd hf => exact .first hv ha hd hf
  | firstFailed hv ha hd hf => exact .firstFailed hv ha hd hf
  | unlocated hv h => exact .unlocated hv ⟨h.db, h.failures, rfl⟩
  | aborted hv ha hd hle hf => exact .aborted hv ha hd hle hf
  | displaced row hv ha hd hf => exact .displaced row hv ha hd hf
  | displaceFailed row hv ha hd hf => exact .displaceFailed row hv ha hd hf

theorem Loginer.LogoutOutcome.forget {u : Text} {s s' : SqlApi} {r : C Reply}
    (h : LogoutOutcome torn u s s' r) : LogoutOutcome torn u s { connection := s'.connection } r := by
  cases h with
  | unlocated h => exact .unlocated ⟨h.db, h.failures, rfl⟩
  | absent ha h => exact .absent ha ⟨h.db, h.failures, rfl⟩
  | ended row ha hd hf => exact .ended row ha hd hf
  | endFailed row ha hd hf => exact .endFailed row ha hd hf

theorem Register.RegistOutcome.forget {u p msg : Text} {s s' : SqlApi} {r : C Reply}
    (h : RegistOutcome torn u p msg s s' r) :
    RegistOutcome torn u p msg s { connection := s'.connection } r := by
  cases h with
  | unchecked h => exact .unchecked ⟨h.db, h.failures, rfl⟩
  | taken hv h => exact .taken hv ⟨h.db, h.failures, rfl⟩
  | entered hv hd hf => exact .entered hv hd hf
  | enterFailed hv hd hf => exact .enterFailed hv hd hf

/-- A call does one of the things its outcome lists. -/
theorem loginManager_outcome (hm : ServedBy torn P m) {call : Call} (hP : ∀ n ∈ call.names, P n)
    {c : Connection} (hids : c.db.IdsFit) :
    call.Outcome torn c (loginManager m call c).2 (loginManager m call c).1 := by
  cases call with
  | regist u p =>
    have hu : P u := hP u (by simp [Call.names])
    have hp : P p := hP p (by simp [Call.names])
    exact (processRegist_ends (s := { connection := c }) hm hu hp rfl []).forget
  | login u p fd =>
    have hu : P u := hP u (by simp [Call.names])
    have hp : P p := hP p (by simp [Call.names])
    exact (processLogin_ends (s := { connection := c }) hm hu hp rfl hids fd).forget
  | logout u =>
    have hu : P u := hP u (by simp [Call.names])
    exact (processLogout_ends (s := { connection := c }) hm hu rfl hids).forget

theorem Call.Outcome.sane {call : Call} {e : CallEnd} {c c' : Connection}
    (h : call.Outcome torn c c' e) (hs : c.db.Sane) : c'.db.Sane := by
  cases call with
  | regist u p =>
    cases e with
    | regist r => exact RegistOutcome.sane h hs
    | login r => exact h.elim
    | logout r => exact h.elim
  | login u p fd =>
    cases e with
    | regist r => exact h.elim
    | login r => exact LoginOutcome.sane h hs
    | logout r => exact h.elim
  | logout u =>
    cases e with
    | regist r => exact h.elim
    | login r => exact h.elim
    | logout r => exact LogoutOutcome.sane h hs

/-- The tables stay sane, whatever is called. -/
theorem sane_run (hm : ServedBy torn P m) {calls : List Call} (hP : ∀ call ∈ calls, ∀ n ∈ call.names, P n)
    {c : Connection} (hs : c.db.Sane) : ((loginManager m).run calls c).2.db.Sane := by
  have hstep : ∀ (call : Call) (c : Connection), (∀ n ∈ call.names, P n) → c.db.Sane →
      (loginManager m call c).2.db.Sane := by
    intro call c hnames hs
    exact (loginManager_outcome hm hnames hs.ids).sane hs
  exact @Machine.run_invariant _ _ _ (loginManager m) _ (fun c => c.db.Sane) hstep _ _
    (Machine.along_of_forall hP c) hs

end

/-- In every sequence of operations, with any names and descriptors and any pattern
of failing statements, no user ever has two active rows. -/
theorem active_single_run (m : Mysql) (hm : Literal m) (db : Db) (hids : db.IdsFit)
    (hone : ∀ u, (db.active u).length ≤ 1) (calls : List Call) (u : Text) :
    (((loginManager m).run calls { db := db }).2.db.active u).length ≤ 1 := by
  have hs : Db.Sane db := ⟨hids, hone⟩
  have hnames : ∀ call ∈ calls, ∀ n ∈ call.names, True := fun _ _ _ _ => trivial
  exact (sane_run hm hnames (c := { db := db }) hs).single u

/-- A run in which a second login replaces the first. -/
theorem active_single_run_replaced :
    (((loginManager memoryServer).run
      [.regist (ascii "u") (ascii "p"), .login (ascii "u") (ascii "p") 5,
        .login (ascii "u") (ascii "p") 6] { db := {} }).2.db.active (ascii "u")).length ≤ 1 :=
  active_single_run memoryServer literal_memoryServer {} Db.Sane.empty.ids Db.Sane.empty.single _ _

end SingleTerminalLogin
