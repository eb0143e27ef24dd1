import SingleTerminalLogin.LoginManager.Refinement

/-!
# Who is registered

Nothing in the tables keeps a name from being entered twice; a registration counts the
rows of the name and then inserts one.

* `Call.Outcome.passwords` — a call leaves `t_user_password` as it is, or appends a row
  of a name that had none;
* `inserted` — the registrations of a run that took effect;
* `registration_first_wins` — in every run the first one for a name stays the only one,
  and is what a password is checked against.
-/

namespace SingleTerminalLogin

open ByteText CProgram Proc SqlApi Loginer Register

/-! ## One call -/

/-- A registration was answered with success. -/
def CallEnd.registers : CallEnd → Bool
  | .regist (.ok r) => r.code = .SUCCESS
  | _ => false

section

variable {torn : Prop} {u p : Text} {fd : Int} {c c' : Connection} {db db' : Db}

theorem Loginer.Logined.passwords (h : Logined u p fd db db') :
    db'.t_user_password = db.t_user_password := by
  obtain ⟨time, id, -, -, -, rfl⟩ := h
  rfl

theorem Loginer.LoginOutcome.passwords {s s' : SqlApi} {r : C LoginReply}
    (h : LoginOutcome torn u p fd s s' r) : s'.db.t_user_password = s.db.t_user_password := by
  cases h with
  | unchecked h => rw [h.db]
  | invalid hv h => rw [h.db]
  | first hv ha hd hf => exact hd.passwords
  | firstFailed hv ha hd hf =>
    rcases hd with hd | ⟨-, hd⟩
    · rw [hd]
    · exact hd.passwords
  | unlocated hv h => rw [h.db]
  | aborted hv ha hd hle hf => rw [hd]
  | displaced row hv ha hd hf => exact hd.passwords
  | displaceFailed row hv ha hd hf =>
    rcases hd with hd | hd | ⟨-, hd⟩
    · rw [hd]
    · rw [hd]
      rfl
    · exact hd.passwords

theorem Loginer.LogoutOutcome.passwords {s s' : SqlApi} {r : C Reply}
    (h : LogoutOutcome torn u s s' r) : s'.db.t_user_password = s.db.t_user_password := by
  cases h with
  | unlocated h => rw [h.db]
  | absent ha h => rw [h.db]
  | ended row ha hd hf =>
    rw [hd]
    rfl
  | endFailed row ha hd hf =>
    rcases hd with hd | ⟨-, hd⟩
    · rw [hd]
    · rw [hd]
      rfl

/-- A call leaves the registered users as they are and reports no success, or it is a
registration of a name that had no row, and appends one. -/
theorem Call.Outcome.passwords {call : Call} {e : CallEnd} (h : call.Outcome torn c c' e) :
    (c'.db.t_user_password = c.db.t_user_password ∧ e.registers = false) ∨
      ∃ u p time, call = .regist u p ∧ counted (c.db.registRows u).length = false ∧
        c'.db.t_user_password = c.db.t_user_password ++ [⟨u, p, time⟩] := by
  cases call with
  | regist u p =>
    cases e with
    | regist r =>
      cases h with
      | unchecked h => exact Or.inl ⟨congrArg Db.t_user_password h.db, rfl⟩
      | taken hv h => exact Or.inl ⟨congrArg Db.t_user_password h.db, rfl⟩
      | entered hv hd hf =>
        obtain ⟨time, hd⟩ := hd
        exact Or.inr ⟨u, p, time, rfl, hv, congrArg Db.t_user_password hd⟩
      | enterFailed hv hd hf =>
        rcases hd with hd | ⟨-, time, hd⟩
        · exact Or.inl ⟨congrArg Db.t_user_password hd, rfl⟩
        · exact Or.inr ⟨u, p, time, rfl, hv, congrArg Db.t_user_password hd⟩
    | login r => exact h.elim
    | logout r => exact h.elim
  | login u p fd =>
    cases e with
    | regist r => exact h.elim
    | login r => exact Or.inl ⟨LoginOutcome.passwords h, rfl⟩
    | logout r => exact h.elim
  | logout u =>
    cases e with
    | regist r => exact h.elim
    | login r => exact h.elim
    | logout r => exact Or.inl ⟨LogoutOutcome.passwords h, rfl⟩

end

/-! ## The history of a run -/

/-- The registrations of a run whose insert took effect, in their order. -/
def inserted (m : Mysql) : List Call → Connection → List (Text × Text)
  | [], _ => []
  | call :: calls, c =>
    let c' := (loginManager m call c).2
    match call with
    | .regist u p =>
      if c'.db.t_user_password = c.db.t_user_password then inserted m calls c'
      else (u, p) :: inserted m calls c'
    | _ => inserted m calls c'

/-- How often a registration of the name was answered with success. -/
def successes (u : Text) (calls : List Call) (ends : List CallEnd) : Nat :=
  (calls.zip ends).countP fun e => (e.1.names.head? = some u : Bool) && e.2.registers

/-- Name and password of a row. -/
def PasswordRow.account (r : PasswordRow) : Text × Text := (r.fstrUserName, r.fstrPassWord)

/-- Every name is registered at most once. -/
def Db.Registered (db : Db) : Prop := ∀ u, (db.registRows u).length ≤ 1

section

variable {m : Mysql} {c : Connection} {u p : Text}

theorem Db.registRows_append {db db' : Db} {u v : Text} {row : PasswordRow}
    (h : db'.t_user_password = db.t_user_password ++ [row]) (hrow : row.fstrUserName = u) :
    db'.registRows v = db.registRows v ++ if v = u then [row] else [] := by
  rw [registRows, h, List.filter_append]
  congr 1
  by_cases hv : v = u
  · rw [if_pos hv, List.filter_singleton, hrow, hv]
    simp
  · rw [if_neg hv, List.filter_singleton, hrow]
    simp [Ne.symm hv]

/-- Every call does one of the things its outcome lists, whatever its names are. -/
theorem literal_outcome (hm : Literal m) (call : Call) (hids : c.db.IdsFit) :
    call.Outcome True c (loginManager m call c).2 (loginManager m call c).1 :=
  loginManager_outcome hm (fun _ _ => trivial) hids

/-- What a single call does to the rows of a name. -/
theorem registRows_step (hm : Literal m) (hids : c.db.IdsFit) (hreg : c.db.Registered) (call : Call) :
    (loginManager m call c).2.db.Registered ∧
      ∀ u, (c.db.registRows u).length +
        (if (call.names.head? = some u : Bool) && (loginManager m call c).1.registers then 1 else 0) ≤
          ((loginManager m call c).2.db.registRows u).length := by
  have hout := literal_outcome hm call hids
  rcases hout.passwords with ⟨hsame, hno⟩ | ⟨u, p, time, rfl, hnone, happend⟩
  · have hrows : ∀ u, (loginManager m call c).2.db.registRows u = c.db.registRows u := by
      intro u
      rw [Db.registRows, hsame, Db.registRows]
    refine ⟨fun u => hrows u ▸ hreg u, ?_⟩
    intro u
    rw [hno, Bool.and_false, if_neg Bool.false_ne_true, hrows]
    exact le_rfl
  · have hnil : c.db.registRows u = [] := by
      rw [counted_eq (lt_of_le_of_lt (hreg u) (by decide))] at hnone
      simpa using hnone
    have hrows : ∀ v, (loginManager m (.regist u p) c).2.db.registRows v =
        c.db.registRows v ++ if v = u then [⟨u, p, time⟩] else [] :=
      fun v => Db.registRows_append happend rfl
    refine ⟨?_, ?_⟩
    · intro v
      rw [hrows]
      by_cases hv : v = u
      · subst hv
        simp [hnil]
      · simpa [hv] using hreg v
    · intro v
      rw [hrows]
      by_cases hv : v = u
      · subst hv
        simp only [if_true, List.length_append, List.length_singleton]
        split <;> omega
      · simp [Call.names, hv, Ne.symm hv]

/-- A step of a run keeps the tables sane. -/
theorem sane_step (hm : Literal m) (hs : c.db.Sane) (call : Call) :
    (loginManager m call c).2.db.Sane :=
  (literal_outcome hm call hs.ids).sane hs

/-- Every name stays registered at most once, and no more successes are reported than
rows appear. -/
theorem registRows_run (hm : Literal m) (calls : List Call) (hs : c.db.Sane) (hreg : c.db.Registered) :
    ((loginManager m).run calls c).2.db.Registered ∧
      ∀ u, (c.db.registRows u).length + successes u calls ((loginManager m).run calls c).1 ≤
        (((loginManager m).run calls c).2.db.registRows u).length := by
  induction calls generalizing c with
  | nil => exact ⟨hreg, fun u => le_rfl⟩
  | cons call calls ih =>
    obtain ⟨hreg', hrows⟩ := registRows_step hm hs.ids hreg call
    obtain ⟨hregs, hle⟩ := ih (sane_step hm hs call) hreg'
    refine ⟨hregs, ?_⟩
    intro u
    have h1 := hrows u
    have h2 := hle u
    rw [Machine.run_cons, successes, List.zip_cons_cons, List.countP_cons, ← successes]
    dsimp only at h2 ⊢
    omega

/-- The rows of a run are those it began with and those of the registrations that took
effect. -/
theorem accounts_run (hm : Literal m) (calls : List Call) (hs : c.db.Sane) :
    ((loginManager m).run calls c).2.db.t_user_password.map PasswordRow.account =
      c.db.t_user_password.map PasswordRow.account ++ inserted m calls c := by
  induction calls generalizing c with
  | nil => rw [Machine.run_nil, inserted, List.append_nil]
  | cons call calls ih =>
    have hout := literal_outcome hm call hs.ids
    rw [Machine.run_cons]
    dsimp only
    rw [ih (sane_step hm hs call)]
    rcases hout.passwords with ⟨hsame, -⟩ | ⟨u, p, time, rfl, -, happend⟩
    · have hnone : inserted m (call :: calls) c = inserted m calls (loginManager m call c).2 := by
        cases call with
        | regist u p => rw [inserted, if_pos hsame]
        | login u p fd => rfl
        | logout u => rfl
      rw [hsame, hnone]
    · rw [inserted, if_neg (by rw [happend]; simp), happend, List.map_append, List.append_assoc]
      rfl

/-- A row that is there stays where it is. -/
theorem prefix_run (hm : Literal m) (calls : List Call) (hs : c.db.Sane) :
    c.db.t_user_password <+: ((loginManager m).run calls c).2.db.t_user_password := by
  induction calls generalizing c with
  | nil => exact List.prefix_rfl
  | cons call calls ih =>
    have hout := literal_outcome hm call hs.ids
    refine List.IsPrefix.trans ?_ (ih (sane_step hm hs call))
    rcases hout.passwords with ⟨hsame, -⟩ | ⟨u, p, time, -, -, happend⟩
    · rw [hsame]
    · rw [happend]
      exact List.prefix_append _ _

/-- A password is valid when it is the one of the first row of the name. -/
theorem counted_passwordRows {db : Db} (hreg : db.Registered) (u p : Text) :
    counted (db.passwordRows u p).length = true ↔
      (db.registRows u).head?.map PasswordRow.fstrPassWord = some p := by
  rw [db.passwordRows_eq]
  have hle := hreg u
  rcases hrows : db.registRows u with - | ⟨row, rest⟩
  · simp [counted_eq]
  · have hnil : rest = [] := by
      rw [hrows, List.length_cons] at hle
      exact List.length_eq_zero_iff.1 (by omega)
    subst hnil
    by_cases hp : row.fstrPassWord = p
    · simp [hp, counted_eq]
    · simp [hp, counted_eq]

/-- The first row of a name comes from the first registration of it that took effect. -/
theorem head?_registRows {db : Db} {accounts : List (Text × Text)}
    (h : db.t_user_password.map PasswordRow.account = accounts) (u : Text) :
    (db.registRows u).head?.map PasswordRow.fstrPassWord =
      (accounts.find? fun a => a.1 = u).map Prod.snd := by
  rw [← h, List.find?_map, Db.registRows, List.head?_filter, Option.map_map]
  rfl

end

/-- In every run from empty tables, whatever statements fail, every name is registered at
most once, a row that is there stays, success is reported at most once for a name, and
the password that is accepted is the one of the first registration that took effect. -/
theorem registration_first_wins (m : Mysql) (hm : Literal m) (calls : List Call) :
    let r := (loginManager m).run calls { db := {} }
    (∀ u, (r.2.db.registRows u).length ≤ 1) ∧
      (∀ more, r.2.db.t_user_password <+:
        ((loginManager m).run (calls ++ more) { db := {} }).2.db.t_user_password) ∧
      (∀ u, successes u calls r.1 ≤ 1) ∧
      ∀ u p, Ends (isValidUserNameAndPassWord m u p) { connection := r.2 } fun a _ =>
        ∀ valid, a = .ok (0, valid) →
          (valid = true ↔
            ((inserted m calls { db := {} }).find? fun a => a.1 = u).map Prod.snd = some p) := by
  intro r
  have hs : ({ db := {} } : Connection).db.Sane := Db.Sane.empty
  have hempty : ({ db := {} } : Connection).db.Registered := fun u => Nat.zero_le 1
  obtain ⟨hreg, hsuccesses⟩ := registRows_run hm calls hs hempty
  refine ⟨hreg, ?_, ?_, ?_⟩
  · intro more
    have hsane : r.2.db.Sane := sane_run hm (fun _ _ _ _ => trivial) hs
    rw [Machine.run_append]
    exact prefix_run hm more hsane
  · intro u
    exact (Nat.le_add_left _ _).trans ((hsuccesses u).trans (hreg u))
  · intro u p
    have hclean : Clean { connection := r.2 } := rfl
    refine (isValidUserNameAndPassWord_ends hm trivial trivial hclean).imp ?_
    rintro a s' ⟨b, rfl, ⟨hret, -⟩ | ⟨-, hvalid, -⟩⟩ valid hok
    · rw [Except.ok.injEq] at hok
      rw [hok] at hret
      cases hret
    · cases hok
      have haccounts := accounts_run hm calls hs
      rw [show valid = _ from hvalid, counted_passwordRows hreg, head?_registRows haccounts]
      rfl

/-- Two registrations of one name: the second password is not accepted. -/
theorem registration_first_wins_twice :
    Ends (isValidUserNameAndPassWord memoryServer (ascii "u") (ascii "q"))
      { connection := ((loginManager memoryServer).run
        [.regist (ascii "u") (ascii "p"), .regist (ascii "u") (ascii "q")] { db := {} }).2 } fun a _ =>
      ∀ valid, a = .ok (0, valid) → valid = false := by
  refine ((registration_first_wins memoryServer literal_memoryServer
    [.regist (ascii "u") (ascii "p"), .regist (ascii "u") (ascii "q")]).2.2.2 (ascii "u")
      (ascii "q")).imp ?_
  intro a s' h valid hok
  rw [Bool.eq_false_iff, ne_eq, h valid hok]
  decide +kernel

end SingleTerminalLogin
