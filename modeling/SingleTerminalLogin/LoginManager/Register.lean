import SingleTerminalLogin.LoginManager.Loginer

/-!
# `Register`

Registration, `loginManager/regist/register.cpp`: `processRegist` and the
functions it calls, `RegistOutcome` with everything a call can do, and
`processRegist_ends`.
-/

namespace SingleTerminalLogin

open ByteText CProgram Proc

namespace Register

open SqlApi Loginer

section

variable (m : Mysql)

/-- `Register::isAlreadyRegist`: the return value and `isAlreadyRegistFlag`. -/
def isAlreadyRegist (userName : Text) : Proc SqlApi (Int × Bool) := do
  let ret ← select m (.countRegist userName)
  if ret ≠ 0 then pure (-1, false)
  else do
    let mysqlResult ← getResult
    lift (assert (mysqlResult.rowsCount = 1))
    lift (assert (mysqlResult.fieldsCount = 1))
    let count ← field mysqlResult 0 0
    pure (0, readInt count ≠ 0)

/-- `Register::regist`. -/
def regist (userName passWord : Text) : Proc SqlApi Int := do
  let time ← time m
  let ret ← insert m (.insertPassword userName passWord time)
  if ret ≠ 0 then pure (-1) else pure 0

/-- `Register::processRegist`.  The message of a success is appended to the one
that is passed in. -/
def processRegist (userName passWord : Text) (msg : Text) : Proc SqlApi Reply := do
  let r ← isAlreadyRegist m userName
  if r.1 ≠ 0 then
    pure ⟨-1, .DB_OP_FAILED, ascii "system error: insert data into DB failed!"⟩
  else if r.2 then pure ⟨0, .ALREADY_REGIST, userName ++ ascii " already regist!"⟩
  else do
    let ret ← regist m userName passWord
    if ret ≠ 0 then
      pure ⟨-1, .DB_OP_FAILED, ascii "system error: insert data into DB failed!"⟩
    else pure ⟨0, .SUCCESS, msg ++ ascii "regist success!"⟩

end

/-! ## What a registration does -/

/-- The tables after a row for this registration was inserted. -/
def Registed (u p : Text) (db db' : Db) : Prop :=
  ∃ time, (Stmt.insertPassword u p time).Effect db db'

/-- Everything a registration can do, and what it answers then. -/
inductive RegistOutcome (torn : Prop) (u p msg : Text) (s s' : SqlApi) : C Reply → Prop where
  /-- The name could not be looked up. -/
  | unchecked (h : Missed s s') : RegistOutcome torn u p msg s s'
      (.ok ⟨-1, .DB_OP_FAILED, ascii "system error: insert data into DB failed!"⟩)
  /-- The name is taken. -/
  | taken (hv : counted (s.db.registRows u).length = true) (h : Same s s') :
      RegistOutcome torn u p msg s s' (.ok ⟨0, .ALREADY_REGIST, u ++ ascii " already regist!"⟩)
  /-- The name is entered. -/
  | entered (hv : counted (s.db.registRows u).length = false) (hd : Registed u p s.db s'.db)
      (hf : s'.connection.failures = s.connection.failures) :
      RegistOutcome torn u p msg s s' (.ok ⟨0, .SUCCESS, msg ++ ascii "regist success!"⟩)
  /-- The insert failed. -/
  | enterFailed (hv : counted (s.db.registRows u).length = false)
      (hd : s'.db = s.db ∨ torn ∧ Registed u p s.db s'.db)
      (hf : s.connection.failures < s'.connection.failures) :
      RegistOutcome torn u p msg s s'
        (.ok ⟨-1, .DB_OP_FAILED, ascii "system error: insert data into DB failed!"⟩)

section

variable {torn : Prop} {m : Mysql} {P : Text → Prop} {s : SqlApi} {u p : Text}

theorem isAlreadyRegist_ends (hm : ServedBy torn P m) (hu : P u) (hs : Clean s) :
    Ends (isAlreadyRegist m u) s fun r s' => ∃ a, r = .ok a ∧
      ((a.1 = -1 ∧ Missed s s') ∨
        (a.1 = 0 ∧ a.2 = counted (s.db.registRows u).length ∧ Same s s')) := by
  refine ends_count (n := (s.db.registRows u).length) hm ?_ (fun _ h => h) hs rfl rfl ?_ ?_
  · simpa [Stmt.names] using hu
  · exact fun s' h => ends_pure ⟨_, rfl, Or.inl ⟨rfl, h⟩⟩
  · intro s' h
    refine ends_pure ⟨_, rfl, Or.inr ⟨rfl, ?_, h⟩⟩
    simp only [counted]

theorem regist_ends (hm : ServedBy torn P m) (hu : P u) (hp : P p) (hs : Clean s) :
    Ends (regist m u p) s fun r s' => ∃ ret, r = .ok ret ∧
      ((ret = 0 ∧ Registed u p s.db s'.db ∧ s'.connection.failures = s.connection.failures) ∨
        (ret = -1 ∧ (s'.db = s.db ∨ torn ∧ Registed u p s.db s'.db) ∧
          s.connection.failures < s'.connection.failures)) := by
  refine ends_bind_ok (R := fun _ s' => s' = s) ⟨_, rfl, rfl⟩ ?_
  rintro time s' rfl
  have hnames : ∀ n ∈ (Stmt.insertPassword u p time).names, P n := by
    simpa [Stmt.names] using ⟨hu, hp⟩
  refine ends_bind_ok (insert_ends hm hnames hs) ?_
  rintro ret s'' ⟨-, ⟨rfl, heffect, hfail⟩ | ⟨rfl, heffect, hfail⟩⟩
  · rw [if_neg (by decide)]
    exact ends_pure ⟨_, rfl, Or.inl ⟨rfl, ⟨time, heffect⟩, hfail⟩⟩
  · rw [if_pos (by decide)]
    exact ends_pure ⟨_, rfl, Or.inr ⟨rfl, heffect.imp_right fun h => ⟨h.1, time, h.2⟩, hfail⟩⟩

/-- A registration does one of the things `RegistOutcome` lists. -/
theorem processRegist_ends (hm : ServedBy torn P m) (hu : P u) (hp : P p) (hs : Clean s) (msg : Text) :
    Ends (processRegist m u p msg) s fun r s' => RegistOutcome torn u p msg s s' r := by
  refine ends_bind_ok (isAlreadyRegist_ends hm hu hs) ?_
  rintro a s₁ (⟨hret, hmiss⟩ | ⟨hret, hflag, hsame⟩)
  · rw [if_pos (by rw [hret]; decide)]
    exact ends_pure (.unchecked hmiss)
  rw [if_neg (by rw [hret]; decide)]
  cases hv : counted (s.db.registRows u).length with
  | true =>
    rw [hflag, hv, if_pos rfl]
    exact ends_pure (.taken hv hsame)
  | false =>
    rw [hflag, hv, if_neg (by decide)]
    refine ends_bind_ok (regist_ends hm hu hp hsame.clean) ?_
    rintro ret s₂ (⟨rfl, hin, hf⟩ | ⟨rfl, hin, hf⟩)
    · rw [if_neg (by decide)]
      exact ends_pure (.entered hv (hsame.db ▸ hin) (hf.trans hsame.failures))
    · rw [if_pos (by decide)]
      rw [hsame.db] at hin
      exact ends_pure (.enterFailed hv hin (hsame.failures ▸ hf))

end

end Register

end SingleTerminalLogin
