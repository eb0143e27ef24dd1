import SingleTerminalLogin.Lib.Interference
import SingleTerminalLogin.LoginManager.Refinement

/-!
# Users do not interfere

What a user is answered, and what the tables hold about the user, depends on the
calls about that user alone.  `SessionMap.step_own` and `SessionMap.step_other` are
the two halves of it for the maps; `loginManager_isolated` is it for the login
manager, through the refinement.
-/

namespace SingleTerminalLogin

open ByteText CProgram SqlApi Loginer Register

/-- The user a call is about. -/
def Call.userName : Call → Text
  | .regist u _ => u
  | .login u _ _ => u
  | .logout u => u

namespace SessionMap

/-- What the maps say about one user. -/
def about (u : Text) (σ : SessionMap) : Option Text × Option Int := (σ.reg u, σ.sess u)

/-- A call looks at its own user only. -/
theorem step_own (call : Call) {σ τ : SessionMap}
    (h : σ.about call.userName = τ.about call.userName) :
    (step call σ).1 = (step call τ).1 ∧
      (step call σ).2.about call.userName = (step call τ).2.about call.userName := by
  obtain ⟨hreg, hsess⟩ := Prod.mk.inj h
  cases call with
  | regist u p =>
    simp only [Call.userName] at hreg hsess h ⊢
    cases hr : τ.reg u with
    | none =>
      rw [hr] at hreg
      simp only [step, hr, hreg, about, Function.update_self, hsess, and_self]
    | some q =>
      rw [hr] at hreg
      simpa only [step, hr, hreg, true_and] using h
  | login u p fd =>
    simp only [Call.userName] at hreg hsess h ⊢
    by_cases hp : τ.reg u = some p
    · simp only [step, hreg, if_pos hp, hsess, about, Function.update_self, and_self]
    · simpa only [step, hreg, if_neg hp, true_and] using h
  | logout u =>
    simp only [Call.userName] at hreg ⊢
    simp only [step, about, Function.update_self, hreg, and_self]

/-- A call changes nothing about anyone else. -/
theorem step_other {call : Call} {u : Text} (hu : ¬ call.userName = u) (σ : SessionMap) :
    (step call σ).2.about u = σ.about u := by
  cases call with
  | regist v p =>
    have hne : u ≠ v := fun h => hu h.symm
    cases hr : σ.reg v with
    | none => simp only [step, hr, about, Function.update_of_ne hne]
    | some q => simp only [step, hr]
  | login v p fd =>
    have hne : u ≠ v := fun h => hu h.symm
    by_cases hp : σ.reg v = some p
    · simp only [step, if_pos hp, about, Function.update_of_ne hne]
    · simp only [step, if_neg hp]
  | logout v =>
    have hne : u ≠ v := fun h => hu h.symm
    simp only [step, about, Function.update_of_ne hne]

/-- Runs with the same calls about a user answer the user the same and leave the
user with the same password and descriptor. -/
theorem run_isolated {u : Text} {calls calls' : List Call}
    (hsame : calls.filter (·.userName = u) = calls'.filter (·.userName = u)) (σ : SessionMap) :
    Machine.answersTo (·.userName = u) calls (step.run calls σ).1 =
        Machine.answersTo (·.userName = u) calls' (step.run calls' σ).1 ∧
      (step.run calls σ).2.about u = (step.run calls' σ).2.about u := by
  have own : ∀ (call : Call) (σ τ : SessionMap), call.userName = u → σ.about u = τ.about u →
      (step call σ).1 = (step call τ).1 ∧ (step call σ).2.about u = (step call τ).2.about u := by
    rintro call σ τ rfl h
    exact step_own call h
  exact Machine.noninterference own (fun call σ hu => step_other hu σ) hsame σ

end SessionMap

/-- What a user is answered by the login manager, and the password and the
descriptors its tables hold for the user in the end, depend on the calls about the
user alone: they are the same in any two runs that have these calls in common, also
against different servers, if no statement fails. -/
theorem loginManager_isolated (m m' : Mysql) (hm : Literal m) (hm' : Literal m') (u : Text)
    (calls calls' : List Call) (hfd : ∀ call ∈ calls, call.FdFits)
    (hfd' : ∀ call ∈ calls', call.FdFits)
    (hok : ((loginManager m).run calls { db := {} }).2.failures = 0)
    (hok' : ((loginManager m').run calls' { db := {} }).2.failures = 0)
    (hsame : calls.filter (·.userName = u) = calls'.filter (·.userName = u)) :
    let r := (loginManager m).run calls { db := {} }
    let r' := (loginManager m').run calls' { db := {} }
    (Machine.answersTo (·.userName = u) calls r.1).map CallEnd.observed =
        (Machine.answersTo (·.userName = u) calls' r'.1).map CallEnd.observed ∧
      (r.2.db.registRows u).map PasswordRow.fstrPassWord =
        (r'.2.db.registRows u).map PasswordRow.fstrPassWord ∧
      (r.2.db.active u).map LoginRow.fuiFd = (r'.2.db.active u).map LoginRow.fuiFd := by
  intro r r'
  obtain ⟨houts, hσ⟩ := loginManager_simulates hm hfd hok
  obtain ⟨houts', hσ'⟩ := loginManager_simulates hm' hfd' hok'
  obtain ⟨hanswers, habout⟩ := SessionMap.run_isolated hsame .empty
  obtain ⟨hreg, hsess⟩ := Prod.mk.inj habout
  refine ⟨?_, ?_, ?_⟩
  · calc (Machine.answersTo (·.userName = u) calls r.1).map CallEnd.observed
        = Machine.answersTo (·.userName = u) calls (r.1.map CallEnd.observed) :=
          (Machine.answersTo_map _ _ calls r.1).symm
      _ = (Machine.answersTo (·.userName = u) calls
            (SessionMap.step.run calls .empty).1).map some := by
          rw [houts, Machine.answersTo_map]
      _ = (Machine.answersTo (·.userName = u) calls'
            (SessionMap.step.run calls' .empty).1).map some := by rw [hanswers]
      _ = Machine.answersTo (·.userName = u) calls' (r'.1.map CallEnd.observed) := by
          rw [houts', Machine.answersTo_map]
      _ = (Machine.answersTo (·.userName = u) calls' r'.1).map CallEnd.observed :=
          Machine.answersTo_map _ _ calls' r'.1
  · rw [hσ.reg u, hσ'.reg u, hreg]
  · rw [hσ.sess u, hσ'.sess u, hsess]

/-- A user is answered the same whether or not another one logs in and out between. -/
theorem loginManager_isolated_between :
    let calls := [.regist (ascii "u") (ascii "p"), .regist (ascii "v") (ascii "p"),
      .login (ascii "v") (ascii "p") 6, .login (ascii "u") (ascii "p") 5, .logout (ascii "v")]
    (Machine.answersTo (·.userName = ascii "u") calls
      ((loginManager memoryServer).run calls { db := {} }).1).map CallEnd.observed =
        [some ⟨0, .SUCCESS, none⟩, some ⟨0, .SUCCESS, some (-1)⟩] := by
  intro calls
  have h := (loginManager_isolated memoryServer memoryServer literal_memoryServer
    literal_memoryServer (ascii "u") calls
    [.regist (ascii "u") (ascii "p"), .login (ascii "u") (ascii "p") 5] (by decide) (by decide)
    (by decide +kernel) (by decide +kernel) (by decide)).1
  rw [h]
  decide +kernel

end SingleTerminalLogin
