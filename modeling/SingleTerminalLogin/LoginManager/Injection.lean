import SingleTerminalLogin.Lib.SqlLex
import SingleTerminalLogin.LoginManager.Loginer

/-!
# Names as values

Every statement quotes the names it is built with and escapes nothing.  Taken apart
by the server's rules it has the tokens it was meant to have exactly when the names
are `Plain`.

* `Stmt.template` — the tokens a statement is meant to have;
* `tokens_text` — plain names give these tokens;
* `ReadsTokens`, `literalOn_plain` — a server that goes by the tokens executes
  statements with plain names literally;
* `names_stay_data_iff` — the exact condition.
-/

namespace SingleTerminalLogin

open ByteText CProgram Proc SqlLex SqlApi Loginer

namespace Stmt

/-- The tokens the statement is meant to have: those of its fixed parts, with each
name as the value of a literal. -/
def template : Stmt → List Token
  | countPassword u p =>
    tokens (ascii "select count(1) from user.t_user_password where FstrUserName = ") ++ .literal u ::
      (tokens (ascii " and FstrPassWord = ") ++ [.literal p])
  | countLogined u =>
    tokens (ascii "select count(1) from user.t_user_login where FstrUserName = ") ++ .literal u ::
      tokens (ascii " and FuiStatus = 1")
  | insertLogin u p fd time =>
    tokens (ascii "insert into user.t_user_login (FstrUserName,FstrPassWord,FuiFd,FuiStatus,FuiCreateTime) values (") ++
      .literal u :: (tokens (ascii ", ") ++ .literal p ::
        tokens (ascii ", " ++ intText fd ++ ascii ", 1, " ++ intText time ++ ascii ")"))
  | selectLogined u =>
    tokens (ascii "select FuiId,FuiFd from user.t_user_login where FstrUserName = ") ++ .literal u ::
      tokens (ascii " and FuiStatus = 1")
  | updateStatus id => tokens (ascii "update user.t_user_login set FuiStatus = 2 where FuiId = " ++ intText id)
  | selectLoginedId u =>
    tokens (ascii "select FuiId from user.t_user_login where FstrUserName = ") ++ .literal u ::
      tokens (ascii " and FuiStatus = 1")
  | countRegist u =>
    tokens (ascii "select count(1) from user.t_user_password where FstrUserName = ") ++ [.literal u]
  | insertPassword u p time =>
    tokens (ascii "insert into user.t_user_password (FstrUserName, FstrPassWord, FuiCreateTime) values (") ++
      .literal u :: (tokens (ascii " ,") ++ .literal p ::
        tokens (ascii ", " ++ intText time ++ ascii ")"))

/-- The seven statements the login manager builds for a user and a password. -/
def builtFor (userName passWord : Text) (sendToClientFd time : Int) : List Stmt :=
  [countPassword userName passWord, countLogined userName,
    insertLogin userName passWord sendToClientFd time, selectLogined userName,
    selectLoginedId userName, countRegist userName, insertPassword userName passWord time]

end Stmt

/-! ## One literal at a time -/

/-- A fixed part, a plain name between quotes, and what follows. -/
theorem tokens_quoted {a u rest : Text} (ha : 39 ∉ a) (hu : Plain u)
    (hrest : rest.head? ≠ some 39) :
    tokens (a ++ 39 :: (u ++ 39 :: rest)) = tokens a ++ .literal u :: tokens rest := by
  rw [tokens, lex_code_append _ ha, lex_literal_plain hu _ hrest]
  rfl

theorem head_ne_quote {b : Byte} (hb : b ≠ 39) {a : Text} (ha : a.head? = some b) (rest : Text) :
    (a ++ rest).head? ≠ some 39 := by
  intro h
  cases a with
  | nil => cases ha
  | cons c cs =>
    cases ha
    cases h
    exact hb rfl

theorem text_countPassword (u p : Text) : (Stmt.countPassword u p).text =
    ascii "select count(1) from user.t_user_password where FstrUserName = " ++ 39 :: (u ++ 39 ::
      (ascii " and FstrPassWord = " ++ 39 :: (p ++ [39]))) := by
  have h1 : ascii "select count(1) from user.t_user_password where FstrUserName = '" =
      ascii "select count(1) from user.t_user_password where FstrUserName = " ++ [39] := rfl
  have h2 : ascii "' and FstrPassWord = '" = 39 :: ascii " and FstrPassWord = " ++ [39] := rfl
  have h3 : ascii "'" = [39] := rfl
  simp only [Stmt.text, h1, h2, h3, List.append_assoc, List.cons_append, List.nil_append]

theorem text_countRegist (u : Text) : (Stmt.countRegist u).text =
    ascii "select count(1) from user.t_user_password where FstrUserName = " ++ 39 :: (u ++ [39]) := by
  have h1 : ascii "select count(1) from user.t_user_password where FstrUserName = '" =
      ascii "select count(1) from user.t_user_password where FstrUserName = " ++ [39] := rfl
  have h2 : ascii "'" = [39] := rfl
  simp only [Stmt.text, h1, h2, List.append_assoc, List.cons_append, List.nil_append]

theorem tokens_countPassword {u p : Text} (hu : Plain u) (hp : Plain p) :
    tokens (Stmt.countPassword u p).text = (Stmt.countPassword u p).template := by
  rw [text_countPassword, tokens_quoted (by decide) hu
    (head_ne_quote (b := 32) (by decide) (by decide) _),
    tokens_quoted (by decide) hp (by decide)]
  rfl

theorem tokens_countRegist {u : Text} (hu : Plain u) :
    tokens (Stmt.countRegist u).text = (Stmt.countRegist u).template := by
  rw [text_countRegist, tokens_quoted (by decide) hu (by decide)]
  rfl

/-- The three statements that look for the active rows of a user. -/
theorem tokens_active {a b : Text} {u : Text} (hb : b = a ++ [39]) (ha : 39 ∉ a) (hu : Plain u) :
    tokens (b ++ u ++ ascii "' and FuiStatus = 1") =
      tokens a ++ .literal u :: tokens (ascii " and FuiStatus = 1") := by
  have h1 : ascii "' and FuiStatus = 1" = 39 :: ascii " and FuiStatus = 1" := rfl
  rw [hb, h1, List.append_assoc, List.append_assoc, List.singleton_append,
    tokens_quoted ha hu (by decide)]

theorem tokens_insertLogin {u p : Text} (hu : Plain u) (hp : Plain p) (fd time : Int) :
    tokens (Stmt.insertLogin u p fd time).text = (Stmt.insertLogin u p fd time).template := by
  have h1 : ascii "insert into user.t_user_login (FstrUserName,FstrPassWord,FuiFd,FuiStatus,FuiCreateTime) values ('" =
      ascii "insert into user.t_user_login (FstrUserName,FstrPassWord,FuiFd,FuiStatus,FuiCreateTime) values (" ++ [39] := by
    decide
  have h2 : ascii "', '" = 39 :: ascii ", " ++ [39] := rfl
  have h3 : ascii "', " = 39 :: ascii ", " := rfl
  have hcomma : (ascii ", ").head? = some 44 := rfl
  simp only [Stmt.text, h1, h2, h3, List.append_assoc, List.cons_append, List.nil_append]
  rw [tokens_quoted (by decide) hu (head_ne_quote (by decide) hcomma _),
    tokens_quoted (by decide) hp (head_ne_quote (by decide) hcomma _), Stmt.template]
  simp only [List.append_assoc]

theorem tokens_insertPassword {u p : Text} (hu : Plain u) (hp : Plain p) (time : Int) :
    tokens (Stmt.insertPassword u p time).text = (Stmt.insertPassword u p time).template := by
  have h1 : ascii "insert into user.t_user_password (FstrUserName, FstrPassWord, FuiCreateTime) values ('" =
      ascii "insert into user.t_user_password (FstrUserName, FstrPassWord, FuiCreateTime) values (" ++ [39] := by
    decide
  have h2 : ascii "' ,'" = 39 :: ascii " ," ++ [39] := rfl
  have h3 : ascii "', " = 39 :: ascii ", " := rfl
  simp only [Stmt.text, h1, h2, h3, List.append_assoc, List.cons_append, List.nil_append]
  rw [tokens_quoted (by decide) hu (head_ne_quote (b := 32) (by decide) (by decide) _),
    tokens_quoted (by decide) hp (head_ne_quote (b := 44) (by decide) (by decide) _),
    Stmt.template]
  simp only [List.append_assoc]

/-- Statements with plain names have the tokens they are meant to have. -/
theorem tokens_text {stmt : Stmt} (h : ∀ n ∈ stmt.names, Plain n) :
    tokens stmt.text = stmt.template := by
  cases stmt with
  | countPassword u p =>
    exact tokens_countPassword (h u (by simp [Stmt.names])) (h p (by simp [Stmt.names]))
  | countLogined u =>
    exact tokens_active (by decide) (by decide) (h u (by simp [Stmt.names]))
  | insertLogin u p fd time =>
    exact tokens_insertLogin (h u (by simp [Stmt.names])) (h p (by simp [Stmt.names])) fd time
  | selectLogined u =>
    exact tokens_active (by decide) (by decide) (h u (by simp [Stmt.names]))
  | updateStatus id => rfl
  | selectLoginedId u =>
    exact tokens_active (by decide) (by decide) (h u (by simp [Stmt.names]))
  | countRegist u => exact tokens_countRegist (h u (by simp [Stmt.names]))
  | insertPassword u p time =>
    exact tokens_insertPassword (h u (by simp [Stmt.names])) (h p (by simp [Stmt.names])) time

/-! ## The server's side -/

/-- A server that goes by the tokens: what has the tokens of a statement is executed
as that statement.  The freed rows of its answers are read as they were. -/
structure ReadsTokens (m : Mysql) : Prop where
  executes : ∀ t stmt db, tokens stmt.text = stmt.template →
    Executes True stmt db (m.query t stmt db).1 (m.query t stmt db).2
  keepsFreed : m.KeepsFreed

/-- Such a server executes statements with plain names as they are meant. -/
theorem literalOn_plain {m : Mysql} (h : ReadsTokens m) : LiteralOn Plain m := by
  refine ⟨fun t stmt db hnames => ?_, h.keepsFreed⟩
  exact h.executes t stmt db (tokens_text hnames)

/-- Every statement built for a user and a password has its meant tokens. -/
def StaysData (userName passWord : Text) : Prop :=
  ∀ fd time, ∀ stmt ∈ Stmt.builtFor userName passWord fd time, tokens stmt.text = stmt.template

/-- `isValidUserNameAndPassWord` reports valid only when there is such a row. -/
def ValidOnlyByRow (userName passWord : Text) : Prop :=
  ∀ m, ReadsTokens m → ∀ s, Clean s →
    Ends (isValidUserNameAndPassWord m userName passWord) s fun r _ =>
      r = .ok (0, true) → ∃ row ∈ s.db.t_user_password,
        row.fstrUserName = userName ∧ row.fstrPassWord = passWord

theorem counted_zero : counted 0 = false := by decide

theorem validOnlyByRow_of_plain {u p : Text} (hu : Plain u) (hp : Plain p) : ValidOnlyByRow u p := by
  intro m hm s hs
  refine (isValidUserNameAndPassWord_ends (literalOn_plain hm) hu hp hs).imp ?_
  rintro r _ ⟨a, rfl, ⟨ha, -⟩ | ⟨-, ha, -⟩⟩ hr
  · cases hr
    cases ha
  · cases hr
    have hne : s.db.passwordRows u p ≠ [] := by
      intro hnil
      rw [hnil, List.length_nil, counted_zero] at ha
      cases ha
    obtain ⟨row, hrow⟩ := List.exists_mem_of_ne_nil _ hne
    have hrow := List.mem_filter.1 hrow
    refine ⟨row, hrow.1, ?_⟩
    simpa using hrow.2

/-- A name that is not plain already spoils the statement that looks it up. -/
theorem plain_of_countRegist {u : Text}
    (h : tokens (Stmt.countRegist u).text = (Stmt.countRegist u).template) : Plain u := by
  by_contra hu
  rw [text_countRegist, tokens, lex_code_append _ (by decide), Stmt.template, tokens,
    List.append_cancel_left_eq] at h
  exact lex_literal_not_plain hu [] h

/-- A password that is not plain spoils the statement that checks it. -/
theorem plain_of_countPassword {u p : Text} (hu : Plain u)
    (h : tokens (Stmt.countPassword u p).text = (Stmt.countPassword u p).template) : Plain p := by
  by_contra hp
  rw [text_countPassword, tokens_quoted (by decide) hu
    (head_ne_quote (b := 32) (by decide) (by decide) _), Stmt.template,
    List.append_cancel_left_eq, List.cons.injEq] at h
  have h := h.2
  rw [tokens, lex_code_append _ (by decide), tokens, List.append_cancel_left_eq] at h
  exact lex_literal_not_plain hp [] h

theorem plain_of_staysData {u p : Text} (h : StaysData u p) : Plain u ∧ Plain p := by
  have hu := plain_of_countRegist (h 0 0 (.countRegist u) (by simp [Stmt.builtFor]))
  exact ⟨hu, plain_of_countPassword hu (h 0 0 (.countPassword u p) (by simp [Stmt.builtFor]))⟩

theorem staysData_of_plain {u p : Text} (hu : Plain u) (hp : Plain p) : StaysData u p := by
  intro fd time stmt hstmt
  apply tokens_text
  simp only [Stmt.builtFor, List.mem_cons, List.not_mem_nil, or_false] at hstmt
  rcases hstmt with rfl | rfl | rfl | rfl | rfl | rfl | rfl <;> simp [Stmt.names, hu, hp]

/-- The user name and the password stay data, and only a row makes them valid,
exactly when both are plain. -/
theorem names_stay_data_iff (u p : Text) :
    (StaysData u p ∧ ValidOnlyByRow u p) ↔ Plain u ∧ Plain p := by
  constructor
  · rintro ⟨h, -⟩
    exact plain_of_staysData h
  · rintro ⟨hu, hp⟩
    exact ⟨staysData_of_plain hu hp, validOnlyByRow_of_plain hu hp⟩

/-- A password with a quote in it turns into code. -/
theorem quoted_password_is_code :
    ¬ (StaysData (ascii "user") (ascii "' or '1'='1") ∧
      ValidOnlyByRow (ascii "user") (ascii "' or '1'='1")) := by
  rintro ⟨h, -⟩
  exact absurd (plain_of_staysData h).2 (by decide)

end SingleTerminalLogin
