import SingleTerminalLogin.LoginManager.Freshness

/-!
# What becomes of the id of a row

An id goes from the text of a field through `strtoull` and an `int` back into the text of the next
update.

* `Watched.Ends` — an operation was seen to read an id out of the result of a select and to send an
  update then;
* `row_id_named_iff` — the update ends the row of this id, and no other, exactly when the id is one
  that comes through the `int`.
-/

namespace SingleTerminalLogin

open ByteText CProgram Proc SqlApi Script

/-- A select, its result with the decimal text of `n` in the first field, and then an update. -/
def Watched.Ends (w : Watched) (n : Nat) (stmt : Stmt) : Prop :=
  ∃ pre stmt' res post, w.events = pre ++ .select stmt' (some res) :: .getResult res.result :: .update stmt :: post ∧
    Scripts.cell res.result 0 0 = .ok (natText n)

/-- The statement names the id, and when it happens, the rows of this id end and nothing else. -/
structure Stmt.EndsRow (n : Nat) (stmt : Stmt) : Prop where
  names : stmt = .updateStatus n
  effect : ∀ db db', stmt.Effect db db' →
    db' = { db with t_user_login :=
      db.t_user_login.map fun r => if r.fuiId = n then { r with fuiStatus := 2 } else r }

/-- The ids that come through: a login converts the `int` to an unsigned number of 64 bits again. -/
def Call.Carries : Call → Nat → Prop
  | .login _ _ _, n => n < 2 ^ 31 ∨ 2 ^ 64 - 2 ^ 31 ≤ n
  | _, n => n < 2 ^ 31

theorem Stmt.endsRow_iff {n : Nat} {id : Int} : (Stmt.updateStatus id).EndsRow n ↔ id = n := by
  constructor
  · intro h
    exact Stmt.updateStatus.inj h.names
  · rintro rfl
    refine ⟨rfl, fun db db' h => ?_⟩
    rw [show db' = db.logoutRow n from h, Db.logoutRow]
    simp only [Nat.cast_inj]

/-! ## The conversions -/

section

variable {n : Nat}

theorem readInt_natText_eq (h : n < 2 ^ 64) : readInt (natText n) = wrap32 n := by
  rw [readInt, strtoull_natText h]

/-- An `int` holds the number exactly when it is below `2 ^ 31`. -/
theorem readInt_eq_iff (h : n < 2 ^ 64) : readInt (natText n) = n ↔ n < 2 ^ 31 := by
  rw [readInt_natText_eq h, wrap32, Int.bmod_def]
  omega

/-- From the `int` it comes back also when the lost bits are all set. -/
theorem loginId_eq_iff (h : n < 2 ^ 64) : loginId (natText n) = n ↔ n < 2 ^ 31 ∨ 2 ^ 64 - 2 ^ 31 ≤ n := by
  rw [loginId, readInt_natText_eq h, wrap32, Int.bmod_def]
  omega

theorem readsId_eq_iff (call : Call) (h : n < 2 ^ 64) : call.readsId (natText n) = n ↔ call.Carries n := by
  cases call with
  | regist u p => exact readInt_eq_iff h
  | logout u => exact readInt_eq_iff h
  | login u p fd => exact loginId_eq_iff h

end

/-! ## The update -/

/-- The update names what the operation makes of the text in front of it. -/
theorem Watched.Ends.stmt_eq {client : MysqlClient} {call : Call} {s : SqlApi} {n : Nat} {stmt : Stmt} (hs : Clean s)
    (h : (watched client call s).1.Ends n stmt) : stmt = .updateStatus (call.readsId (natText n)) := by
  obtain ⟨pre, stmt', res, post, hevents, hcell⟩ := h
  have hsplit : (watched client call s).1.events =
      (pre ++ [.select stmt' (some res), .getResult res.result]) ++ .update stmt :: post := by
    rw [hevents, List.append_assoc]
    rfl
  obtain ⟨pre', stmt'', res', id, hpre, hid, hstmt⟩ := ((watched_step client call s hs).1.1.at hsplit).2 stmt rfl
  obtain ⟨-, htail⟩ := List.append_inj' hpre rfl
  have hres : res.result = res'.result := by
    injection htail with hfirst htail
    injection htail with hsecond
    exact SqlEvent.getResult.inj hsecond
  rw [← hres, hcell] at hid
  cases hid
  cases call <;> exact hstmt

/-- **The update ends the row that was selected, and no other, exactly when the id comes through.** -/
theorem row_id_named_iff (client : MysqlClient) (c : Connection) (rowsCount fieldsCount : Nat) (call : Call)
    (n : Nat) (stmt : Stmt) (hn : n < 2 ^ 64)
    (h : (watched client call ⟨c, ⟨[], rowsCount, fieldsCount⟩⟩).1.Ends n stmt) :
    stmt.EndsRow n ↔ call.Carries n := by
  have hstart : Clean ⟨c, ⟨[], rowsCount, fieldsCount⟩⟩ := rfl
  rw [h.stmt_eq hstart, Stmt.endsRow_iff]
  exact readsId_eq_iff call hn

/-- Three events at a place, and what is around them. -/
theorem seen_at {t : List SqlEvent} {e₁ e₂ e₃ : SqlEvent} (k : Nat) (h : (t.drop k).take 3 = [e₁, e₂, e₃]) :
    t = t.take k ++ e₁ :: e₂ :: e₃ :: t.drop (k + 3) := by
  have hdrop : (t.drop k).take 3 ++ t.drop (k + 3) = t.drop k := by
    rw [← List.drop_drop]
    exact List.take_append_drop 3 (t.drop k)
  rw [h] at hdrop
  exact ((congrArg (t.take k ++ ·) hdrop).trans (List.take_append_drop k t)).symm

theorem row_id_named_iff_displaced :
    ∃ w, (watched (.ofServer memoryServer) (.login (ascii "u") (ascii "p") 6) ⟨{ db := loggedIn }, ⟨[], 0, 0⟩⟩).1 = w ∧
      w.Ends 1 (.updateStatus 1) ∧ (Stmt.updateStatus 1).EndsRow 1 := by
  have hends : (watched (.ofServer memoryServer) (.login (ascii "u") (ascii "p") 6)
      ⟨{ db := loggedIn }, ⟨[], 0, 0⟩⟩).1.Ends 1 (.updateStatus 1) :=
    ⟨_, .selectLogined (ascii "u"), ⟨⟨[[natText 1, intText 6]], 2⟩, [[natText 1, intText 6]]⟩, _,
      seen_at 4 (by decide +kernel), by decide⟩
  exact ⟨_, rfl, hends, (row_id_named_iff (.ofServer memoryServer) { db := loggedIn } 0 0 _ 1 _ (by decide) hends).2
    (Or.inl (by decide))⟩

/-- Bob has the row `2 ^ 32 + 7`, and alice the row `7`. -/
def largeId : Db where
  t_user_login := [⟨7, ascii "alice", ascii "a", 5, 1, 0⟩, ⟨2 ^ 32 + 7, ascii "bob", ascii "b", 6, 1, 0⟩]
  t_user_password := [⟨ascii "alice", ascii "a", 0⟩, ⟨ascii "bob", ascii "b", 0⟩]

/-- Bob logs out, and it is alice whose session ends. -/
theorem large_id_ends_another :
    (((loginManager memoryServer (.logout (ascii "bob")) { db := largeId }).2.db.active (ascii "alice")) = [] ∧
      ((loginManager memoryServer (.logout (ascii "bob")) { db := largeId }).2.db.active (ascii "bob")).length = 1) ∧
      ¬ ∀ (client : MysqlClient) (c : Connection) (rowsCount fieldsCount : Nat) (call : Call) (n : Nat) (stmt : Stmt),
        n < 2 ^ 64 → (watched client call ⟨c, ⟨[], rowsCount, fieldsCount⟩⟩).1.Ends n stmt → stmt.EndsRow n := by
  refine ⟨⟨by decide, by decide⟩, fun h => ?_⟩
  have hends : (watched (.ofServer memoryServer) (.logout (ascii "bob")) ⟨{ db := largeId }, ⟨[], 0, 0⟩⟩).1.Ends
      (2 ^ 32 + 7) (.updateStatus 7) :=
    ⟨_, .selectLoginedId (ascii "bob"), ⟨⟨[[natText (2 ^ 32 + 7)]], 1⟩, [[natText (2 ^ 32 + 7)]]⟩, _,
      seen_at 0 (by decide), by decide⟩
  have hnames := (h (.ofServer memoryServer) { db := largeId } 0 0 _ (2 ^ 32 + 7) _ (by decide) hends).names
  exact absurd (Stmt.updateStatus.inj hnames) (by decide)

end SingleTerminalLogin
