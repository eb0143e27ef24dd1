import SingleTerminalLogin.LoginManager.Sessions

/-!
# What the login manager is for

Two maps: who is registered with which password, and on which descriptor who is
logged in.  `SessionMap.step` says what the three operations do to them and what
they answer; `loginManager_refines` shows that the login manager answers the same
as long as no statement fails, and that the maps can be read off its tables.
-/

namespace SingleTerminalLogin

open ByteText CProgram SqlApi Loginer Register

/-! ## The two maps -/

/-- Registered users with their passwords, and logged-in users with their
descriptors. -/
structure SessionMap where
  reg : Text → Option Text
  sess : Text → Option Int

/-- What the caller of an operation sees: the return value, `code`, and `logoutFd`
where there is one. -/
structure Observed where
  ret : Int
  code : RegistLoginCode
  logoutFd : Option Int
  deriving DecidableEq

namespace SessionMap

/-- Nobody is registered, nobody is logged in. -/
def empty : SessionMap := ⟨fun _ => none, fun _ => none⟩

/-- What the operations do to the maps. -/
def step : Machine Call Observed SessionMap
  | .regist u p, σ =>
    match σ.reg u with
    | none => (⟨0, .SUCCESS, none⟩, { σ with reg := Function.update σ.reg u (some p) })
    | some _ => (⟨0, .ALREADY_REGIST, none⟩, σ)
  | .login u p fd, σ =>
    if σ.reg u = some p then
      (⟨0, .SUCCESS, some ((σ.sess u).getD (-1))⟩,
        { σ with sess := Function.update σ.sess u (some fd) })
    else (⟨-1, .USERNAME_OR_PASSWD_ERROR, some (-1)⟩, σ)
  | .logout u, σ =>
    (⟨0, .SUCCESS, none⟩, { σ with sess := Function.update σ.sess u none })

end SessionMap

/-- What the caller of an operation of the login manager sees, if it returns. -/
def CallEnd.observed : CallEnd → Option Observed
  | .regist (.ok r) => some ⟨r.ret, r.code, none⟩
  | .login (.ok r) => some ⟨r.ret, r.code, some r.logoutFd⟩
  | .logout (.ok r) => some ⟨r.ret, r.code, none⟩
  | _ => none

/-! ## Reading the maps off the tables -/

namespace Db

/-- The maps the tables stand for. -/
structure Abstracts (db : Db) (σ : SessionMap) : Prop where
  reg : ∀ u, (db.registRows u).map PasswordRow.fstrPassWord = (σ.reg u).toList
  sess : ∀ u, (db.active u).map LoginRow.fuiFd = (σ.sess u).toList
  fds : ∀ r ∈ db.t_user_login, 0 ≤ r.fuiFd ∧ r.fuiFd < 2 ^ 31

theorem Abstracts.empty : Abstracts {} .empty := by
  refine ⟨fun u => rfl, fun u => rfl, ?_⟩
  intro r hr
  cases hr

theorem length_of_map_toList {α β : Type} {f : α → β} {l : List α} {o : Option β}
    (h : l.map f = o.toList) : l.length = if o.isSome then 1 else 0 := by
  have := congrArg List.length h
  rw [List.length_map] at this
  rw [this]
  cases o <;> rfl

theorem eq_of_map_toList {α β : Type} {f : α → β} {l : List α} {a : α} {o : Option β}
    (h : l.map f = o.toList) (hl : l = [a]) : o = some (f a) := by
  subst hl
  cases o with
  | none => cases h
  | some b =>
    rw [Option.toList_some, List.map_singleton] at h
    rw [List.head_eq_of_cons_eq h]

theorem none_of_map_toList {α β : Type} {f : α → β} {l : List α} {o : Option β}
    (h : l.map f = o.toList) (hl : l = []) : o = none := by
  subst hl
  cases o with
  | none => rfl
  | some b => cases h

/-- A password is looked up among the rows of the user. -/
theorem passwordRows_eq (db : Db) (u p : Text) :
    db.passwordRows u p = (db.registRows u).filter fun r => r.fstrPassWord = p := by
  unfold passwordRows registRows
  rw [List.filter_filter]
  congr 1
  funext r
  rw [Bool.and_comm]

/-- The password is right when the map says so. -/
theorem Abstracts.valid_iff {db : Db} {σ : SessionMap} (h : db.Abstracts σ) (u p : Text) :
    counted (db.passwordRows u p).length = true ↔ σ.reg u = some p := by
  have hrows := db.passwordRows_eq u p
  have hreg := h.reg u
  cases hr : σ.reg u with
  | none =>
    rw [hr, Option.toList_none, List.map_eq_nil_iff] at hreg
    rw [hrows, hreg]
    simp [counted_eq]
  | some q =>
    rw [hr, Option.toList_some] at hreg
    obtain ⟨r, hrr, hq⟩ := List.map_eq_singleton_iff.1 hreg
    rw [hrows, hrr]
    by_cases hqp : q = p
    · have : r.fstrPassWord = p := hq.trans hqp
      simp [this, counted_eq, hqp]
    · have : r.fstrPassWord ≠ p := fun h => hqp (hq ▸ h)
      simp [this, counted_eq, hqp]

theorem Abstracts.taken_iff {db : Db} {σ : SessionMap} (h : db.Abstracts σ) (u : Text) :
    counted (db.registRows u).length = true ↔ (σ.reg u).isSome := by
  rw [length_of_map_toList (h.reg u)]
  cases σ.reg u <;> simp [counted_eq]

/-- Two rows with one id are one row. -/
theorem IdsFit.row_eq {db : Db} (h : db.IdsFit) {r r' : LoginRow} (hr : r ∈ db.t_user_login)
    (hr' : r' ∈ db.t_user_login) (hid : r.fuiId = r'.fuiId) : r = r' :=
  List.inj_on_of_nodup_map h.unique hr hr' hid

/-- Ending a row of one user leaves the rows of every other user alone. -/
theorem active_logoutRow_other {db : Db} (hids : db.IdsFit) {u v : Text} {row : LoginRow}
    (hrow : row ∈ db.active u) (hv : v ≠ u) : (db.logoutRow row.fuiId).active v = db.active v := by
  rw [active_logoutRow, List.filter_eq_self]
  intro r hr
  have hr' := List.mem_filter.1 hr
  have hrow' := List.mem_filter.1 hrow
  simp only [ne_eq, decide_not, Bool.not_eq_true', decide_eq_false_iff_not]
  intro hid
  have : r = row := hids.row_eq hr'.1 hrow'.1 (by exact_mod_cast hid)
  subst this
  simp only [LoginRow.activeOf, Bool.and_eq_true, decide_eq_true_eq] at hr' hrow'
  exact hv (hr'.2.1.symm.trans hrow'.2.1)

theorem Abstracts.logoutRow {db : Db} {σ : SessionMap} (h : db.Abstracts σ) (hids : db.IdsFit)
    {u : Text} {row : LoginRow} (ha : db.active u = [row]) :
    (db.logoutRow row.fuiId).Abstracts { σ with sess := Function.update σ.sess u none } := by
  refine ⟨h.reg, ?_, ?_⟩
  · intro v
    by_cases hv : v = u
    · subst hv
      rw [active_logoutRow_single ha]
      simp
    · rw [active_logoutRow_other hids (ha ▸ List.mem_singleton_self row) hv]
      simpa [Function.update_of_ne hv] using h.sess v
  · intro r hr
    obtain ⟨r', hr', rfl⟩ := List.mem_map.1 hr
    have := h.fds r' hr'
    split <;> exact this

theorem Abstracts.logined {db db' : Db} {σ : SessionMap} (h : db.Abstracts σ) {u p : Text}
    {fd : Int} (hfd : 0 ≤ fd ∧ fd < 2 ^ 31) (hu : db.active u = []) (hl : Logined u p fd db db') :
    db'.Abstracts { σ with sess := Function.update σ.sess u (some fd) } := by
  obtain ⟨time, id, -, -, -, rfl⟩ := hl
  refine ⟨h.reg, ?_, ?_⟩
  · intro v
    rw [active_insertLogin]
    by_cases hv : v = u
    · subst hv
      simp [hu, LoginRow.activeOf]
    · have : LoginRow.activeOf v ⟨id, u, p, fd, 1, time⟩ = false := by
        simp [LoginRow.activeOf, Ne.symm hv]
      rw [this]
      simpa [Function.update_of_ne hv] using h.sess v
  · intro r hr
    rcases List.mem_append.1 hr with hr | hr
    · exact h.fds r hr
    · rw [List.mem_singleton.1 hr]
      exact hfd

theorem Abstracts.registed {db db' : Db} {σ : SessionMap} (h : db.Abstracts σ) {u p : Text}
    (hu : σ.reg u = none) (hr : Registed u p db db') :
    db'.Abstracts { σ with reg := Function.update σ.reg u (some p) } := by
  obtain ⟨time, rfl⟩ := hr
  refine ⟨?_, h.sess, h.fds⟩
  intro v
  have hreg := h.reg v
  unfold registRows insertPassword at *
  rw [List.filter_append, List.map_append, hreg]
  by_cases hv : v = u
  · subst hv
    simp [hu]
  · simp [Function.update_of_ne hv, Ne.symm hv]

end Db

/-! ## Statements that fail -/

section

variable {torn : Prop} {u p msg : Text} {fd : Int} {s s' : SqlApi}

theorem Loginer.LoginOutcome.failures_le {r : C LoginReply} (h : LoginOutcome torn u p fd s s' r) :
    s.connection.failures ≤ s'.connection.failures := by
  cases h with
  | unchecked h => exact h.failures.le
  | invalid hv h => exact h.failures.ge
  | first hv ha hd hf => exact hf.ge
  | firstFailed hv ha hd hf => exact hf.le
  | unlocated hv h => exact h.failures.le
  | aborted hv ha hd hle hf => exact hle
  | displaced row hv ha hd hf => exact hf
  | displaceFailed row hv ha hd hf => exact hf.le

theorem Loginer.LogoutOutcome.failures_le {r : C Reply} (h : LogoutOutcome torn u s s' r) :
    s.connection.failures ≤ s'.connection.failures := by
  cases h with
  | unlocated h => exact h.failures.le
  | absent ha h => exact h.failures.ge
  | ended row ha hd hf => exact hf.ge
  | endFailed row ha hd hf => exact hf.le

theorem Register.RegistOutcome.failures_le {r : C Reply} (h : RegistOutcome torn u p msg s s' r) :
    s.connection.failures ≤ s'.connection.failures := by
  cases h with
  | unchecked h => exact h.failures.le
  | taken hv h => exact h.failures.ge
  | entered hv hd hf => exact hf.ge
  | enterFailed hv hd hf => exact hf.le

end

theorem Call.Outcome.failures_le {torn : Prop} {call : Call} {e : CallEnd} {c c' : Connection}
    (h : call.Outcome torn c c' e) : c.failures ≤ c'.failures := by
  cases call with
  | regist u p =>
    cases e with
    | regist r => exact RegistOutcome.failures_le h
    | login r => exact h.elim
    | logout r => exact h.elim
  | login u p fd =>
    cases e with
    | regist r => exact h.elim
    | login r => exact LoginOutcome.failures_le h
    | logout r => exact h.elim
  | logout u =>
    cases e with
    | regist r => exact h.elim
    | login r => exact h.elim
    | logout r => exact LogoutOutcome.failures_le h

/-- The call has run to a return value. -/
def CallEnd.Returned : CallEnd → Prop
  | .regist r => Returns r
  | .login r => Returns r
  | .logout r => Returns r

/-- With sane tables an operation that meets no failing statement returns. -/
theorem Call.Outcome.returned {torn : Prop} {call : Call} {e : CallEnd} {c c' : Connection}
    (h : call.Outcome torn c c' e) (hs : c.db.Sane) (hok : c'.failures = c.failures) : e.Returned := by
  cases call with
  | regist u p =>
    cases e with
    | regist r => cases h <;> exact returns_ok _
    | login r => exact h.elim
    | logout r => exact h.elim
  | login u p fd =>
    cases e with
    | regist r => exact h.elim
    | login r =>
      cases h with
      | aborted hv ha hd hle hf =>
        rcases hf with hf | hf
        · exact absurd (hs.length_of_counted hf) ha
        · exact absurd hf (by simp [hok])
      | _ => exact returns_ok _
    | logout r => exact h.elim
  | logout u =>
    cases e with
    | regist r => exact h.elim
    | login r => exact h.elim
    | logout r => cases h <;> exact returns_ok _

/-! ## One operation -/

/-- A descriptor is a non-negative `int`. -/
def Call.FdFits : Call → Prop
  | .login _ _ fd => 0 ≤ fd ∧ fd < 2 ^ 31
  | _ => True

instance : DecidablePred Call.FdFits
  | .login _ _ fd => inferInstanceAs (Decidable (0 ≤ fd ∧ fd < 2 ^ 31))
  | .regist _ _ => isTrue trivial
  | .logout _ => isTrue trivial

section

variable {torn : Prop} {u p : Text} {fd : Int} {c c' : Connection} {σ : SessionMap}

/-- The descriptor that is read out of a row is the one recorded in it. -/
theorem Db.Abstracts.readFd {db : Db} (h : db.Abstracts σ) {row : LoginRow}
    (ha : db.active u = [row]) : Loginer.readFd row = row.fuiFd := by
  have hmem : row ∈ db.active u := ha ▸ List.mem_singleton_self row
  have hfd := h.fds row (List.mem_filter.1 hmem).1
  exact readInt_intText hfd.1 hfd.2

theorem login_refines {r : C LoginReply}
    (h : LoginOutcome torn u p fd { connection := c } { connection := c' } r) (hs : c.db.Sane)
    (hσ : c.db.Abstracts σ) (hfd : 0 ≤ fd ∧ fd < 2 ^ 31) (hok : c'.failures = 0) :
    CallEnd.observed (.login r) = some (SessionMap.step (.login u p fd) σ).1 ∧
      c'.db.Abstracts (SessionMap.step (.login u p fd) σ).2 := by
  have hvalid := hσ.valid_iff u p
  cases h with
  | unchecked h => exact absurd h.failures (by simp [hok])
  | invalid hv h =>
    have hne : ¬ σ.reg u = some p := by
      intro hreg
      have := hvalid.2 hreg
      rw [hv] at this
      cases this
    simp only [SessionMap.step, if_neg hne]
    have hdb : c'.db = c.db := h.db
    exact ⟨rfl, hdb ▸ hσ⟩
  | first hv ha hd hf =>
    have hnil := (hs.counted_active u).1 ha
    have hnone := Db.none_of_map_toList (hσ.sess u) hnil
    simp only [SessionMap.step, if_pos (hvalid.1 hv), hnone]
    exact ⟨rfl, hσ.logined hfd hnil hd⟩
  | firstFailed hv ha hd hf => exact absurd hf (by simp [hok])
  | unlocated hv h => exact absurd h.failures (by simp [hok])
  | aborted hv ha hd hle hf =>
    rcases hf with hf | hf
    · exact absurd (hs.length_of_counted hf) ha
    · exact absurd hf (by simp [hok])
  | displaced row hv ha hd hf =>
    have hsome := Db.eq_of_map_toList (hσ.sess u) ha
    simp only [SessionMap.step, if_pos (hvalid.1 hv), hsome]
    have hstep := (hσ.logoutRow hs.ids ha).logined hfd (Db.active_logoutRow_single ha) hd
    rw [Function.update_idem] at hstep
    refine ⟨?_, hstep⟩
    rw [CallEnd.observed, hσ.readFd ha]
    rfl
  | displaceFailed row hv ha hd hf => exact absurd hf (by simp [hok])

theorem logout_refines {r : C Reply}
    (h : LogoutOutcome torn u { connection := c } { connection := c' } r) (hs : c.db.Sane)
    (hσ : c.db.Abstracts σ) (hok : c'.failures = 0) :
    CallEnd.observed (.logout r) = some (SessionMap.step (.logout u) σ).1 ∧
      c'.db.Abstracts (SessionMap.step (.logout u) σ).2 := by
  cases h with
  | unlocated h => exact absurd h.failures (by simp [hok])
  | absent ha h =>
    have hdb : c'.db = c.db := h.db
    have hnone := Db.none_of_map_toList (hσ.sess u) ha
    refine ⟨rfl, ?_⟩
    rw [hdb, SessionMap.step, ← hnone, Function.update_eq_self]
    exact hσ
  | ended row ha hd hf =>
    have hdb : c'.db = c.db.logoutRow row.fuiId := hd
    have hsingle : c.db.active u = [row] := by
      have hlen := le_antisymm (hs.single u) (List.length_pos_of_mem ha)
      obtain ⟨row', hrow'⟩ := List.length_eq_one_iff.1 hlen
      have ha' : row ∈ c.db.active u := ha
      rw [hrow'] at ha' ⊢
      rw [List.mem_singleton.1 ha']
    exact ⟨rfl, hdb ▸ hσ.logoutRow hs.ids hsingle⟩
  | endFailed row ha hd hf => exact absurd hf (by simp [hok])

theorem regist_refines {r : C Reply}
    (h : RegistOutcome torn u p [] { connection := c } { connection := c' } r)
    (hσ : c.db.Abstracts σ) (hok : c'.failures = 0) :
    CallEnd.observed (.regist r) = some (SessionMap.step (.regist u p) σ).1 ∧
      c'.db.Abstracts (SessionMap.step (.regist u p) σ).2 := by
  have htaken := hσ.taken_iff u
  cases h with
  | unchecked h => exact absurd h.failures (by simp [hok])
  | taken hv h =>
    have hdb : c'.db = c.db := h.db
    obtain ⟨q, hq⟩ := Option.isSome_iff_exists.1 (htaken.1 hv)
    simp only [SessionMap.step, hq]
    exact ⟨rfl, hdb ▸ hσ⟩
  | entered hv hd hf =>
    have hnone : σ.reg u = none := by
      cases hq : σ.reg u with
      | none => rfl
      | some q =>
        have := htaken.2 (by rw [hq]; rfl)
        exact absurd (hv.symm.trans this) (by decide)
    have hstep : SessionMap.step (.regist u p) σ =
        (⟨0, .SUCCESS, none⟩, { σ with reg := Function.update σ.reg u (some p) }) := by
      simp only [SessionMap.step, hnone]
    rw [hstep]
    exact ⟨rfl, hσ.registed hnone hd⟩
  | enterFailed hv hd hf => exact absurd hf (by simp [hok])

end

/-- One operation of the login manager that meets no failing statement is one step
of the maps. -/
theorem Call.Outcome.refines {torn : Prop} {call : Call} {e : CallEnd} {c c' : Connection} {σ : SessionMap}
    (h : call.Outcome torn c c' e) (hfd : call.FdFits) (hs : c.db.Sane) (hσ : c.db.Abstracts σ)
    (hok : c'.failures = 0) :
    e.observed = some (SessionMap.step call σ).1 ∧ c'.db.Abstracts (SessionMap.step call σ).2 := by
  cases call with
  | regist u p =>
    cases e with
    | regist r => exact regist_refines h hσ hok
    | login r => exact h.elim
    | logout r => exact h.elim
  | login u p fd =>
    cases e with
    | regist r => exact h.elim
    | login r => exact login_refines h hs hσ hfd hok
    | logout r => exact h.elim
  | logout u =>
    cases e with
    | regist r => exact h.elim
    | login r => exact h.elim
    | logout r => exact logout_refines h hs hσ hok

/-! ## Every run -/

/-- In every run from empty tables in which no statement fails, the login manager
answers what the maps answer, and its tables stand for them at the end. -/
theorem loginManager_simulates {m : Mysql} (hm : Literal m) {calls : List Call}
    (hfd : ∀ call ∈ calls, call.FdFits)
    (hok : ((loginManager m).run calls { db := {} }).2.failures = 0) :
    ((loginManager m).run calls { db := {} }).1.map CallEnd.observed =
        (SessionMap.step.run calls .empty).1.map some ∧
      ((loginManager m).run calls { db := {} }).2.db.Abstracts
        (SessionMap.step.run calls .empty).2 := by
  have hout : ∀ (call : Call) (c : Connection), c.db.Sane →
      call.Outcome True c (loginManager m call c).2 (loginManager m call c).1 := by
    intro call c hs
    exact loginManager_outcome hm (fun n _ => trivial) hs.ids
  have keep : ∀ (call : Call) (c : Connection), call.FdFits → c.db.Sane →
      (loginManager m call c).2.db.Sane := by
    intro call c _ hs
    exact (hout call c hs).sane hs
  have good : ∀ (call : Call) (c : Connection), call.FdFits → c.db.Sane →
      (loginManager m call c).2.failures = 0 → c.failures = 0 := by
    intro call c _ hs h
    exact Nat.le_zero.1 (h ▸ (hout call c hs).failures_le)
  have step : ∀ (call : Call) (c : Connection) (σ : SessionMap), call.FdFits → c.db.Sane →
      c.db.Abstracts σ → (loginManager m call c).2.failures = 0 →
      (loginManager m call c).1.observed = some (SessionMap.step call σ).1 ∧
        (loginManager m call c).2.db.Abstracts (SessionMap.step call σ).2 := by
    intro call c σ hfd hs hσ h
    exact (hout call c hs).refines hfd hs hσ h
  exact @Machine.run_simulates _ _ _ _ _ _ (loginManager m) SessionMap.step
    (fun call _ => call.FdFits) (fun c => c.db.Sane) (fun c => c.failures = 0)
    (fun c σ => c.db.Abstracts σ) CallEnd.observed some keep good step calls { db := {} } .empty
    (Machine.along_of_forall hfd _) Db.Sane.empty Db.Abstracts.empty hok

/-- In every run from empty tables in which no statement fails, the login manager
answers what the maps answer, and a user is mapped to a descriptor exactly when the
user has one active row, with that descriptor in it. -/
theorem loginManager_refines (m : Mysql) (hm : Literal m) (calls : List Call)
    (hfd : ∀ call ∈ calls, call.FdFits)
    (hok : ((loginManager m).run calls { db := {} }).2.failures = 0) :
    ((loginManager m).run calls { db := {} }).1.map CallEnd.observed =
        (SessionMap.step.run calls .empty).1.map some ∧
      ∀ u f, (SessionMap.step.run calls .empty).2.sess u = some f ↔
        ∃ row, ((loginManager m).run calls { db := {} }).2.db.active u = [row] ∧ row.fuiFd = f := by
  have hrun := loginManager_simulates hm hfd hok
  refine ⟨hrun.1, ?_⟩
  intro u f
  have hsess := hrun.2.sess u
  constructor
  · intro hf
    rw [hf, Option.toList_some] at hsess
    exact List.map_eq_singleton_iff.1 hsess
  · rintro ⟨row, hrow, rfl⟩
    exact Db.eq_of_map_toList hsess hrow

/-- A second login is told the descriptor of the first. -/
theorem loginManager_refines_replaced :
    ((loginManager memoryServer).run
      [.regist (ascii "u") (ascii "p"), .login (ascii "u") (ascii "p") 5,
        .login (ascii "u") (ascii "p") 6, .logout (ascii "u")] { db := {} }).1.map
          CallEnd.observed =
      [some ⟨0, .SUCCESS, none⟩, some ⟨0, .SUCCESS, some (-1)⟩, some ⟨0, .SUCCESS, some 5⟩,
        some ⟨0, .SUCCESS, none⟩] := by
  rw [(loginManager_refines memoryServer literal_memoryServer _ (by decide) (by decide +kernel)).1]
  decide +kernel

end SingleTerminalLogin
