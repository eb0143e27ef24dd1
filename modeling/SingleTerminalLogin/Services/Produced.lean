import SingleTerminalLogin.Services.Displacement
import SingleTerminalLogin.Services.LogLines

/-!
# Which responses the login manager gives

Whatever server it asks, and whatever is in the tables, the login manager answers a message with one of a few
texts and with a descriptor to log out.

* `CanAnswer` — these texts and descriptors, by what the message carries;
* `canAnswer_of_performed` — there are no others;
* `produces_of_canAnswer` — each of them is given by some server;
* `produces_iff` — both.
-/

namespace SingleTerminalLogin

open ByteText CProgram CJson Proc SqlApi UserLoginImpl

/-- The operation a request asks for. -/
def Asks (c : CJson) (type : Option MessageType) : Prop :=
  ∃ item, getObjectItem c (ascii "operateType") = some item ∧ MessageType.ofInt (wrap32 item.valueint) = type

/-- The names of a login, and that there is a descriptor to enter it under. -/
structure LoginNames (c : CJson) (u p : Text) : Prop where
  userName : CarriesName c (ascii "userName") u
  passWord : CarriesName c (ascii "passWord") p
  clientFd : ∃ e x, getObjectItem c (ascii "extendInfo") = some e ∧ getObjectItem e (ascii "clientFd") = some x

/-- The descriptors and texts the login manager may put into the response to a request. -/
inductive CanAnswer (c : CJson) : Int → Text → Prop where
  | untyped (h : getObjectItem c (ascii "operateType") = none) :
      CanAnswer c (-1) (ascii "SYSTEM ERROR:Message format error!")
  | illegal (h : Asks c none) : CanAnswer c (-1) (ascii "SYSTEM ERROR: operateType is illegal!")
  | registFailed (h : Asks c (some .REGIST)) :
      CanAnswer c (-1) (ascii "SYSTEM ERROR: process regist occur unexpect error!")
  | registered {u p : Text} (h : Asks c (some .REGIST)) (hu : CarriesName c (ascii "userName") u)
      (hp : CarriesName c (ascii "passWord") p) : CanAnswer c (-1) (ascii "regist success!")
  | taken {u p : Text} (h : Asks c (some .REGIST)) (hu : CarriesName c (ascii "userName") u)
      (hp : CarriesName c (ascii "passWord") p) : CanAnswer c (-1) (u ++ ascii " already regist!")
  | loginFailed (h : Asks c (some .LOGIN)) :
      CanAnswer c (-1) (ascii "SYSTEM ERROR: process login occur unexpect error!")
  /-- The earlier session could not be replaced, but its descriptor is told. -/
  | displaceFailed {u p : Text} {n : Int} (h : Asks c (some .LOGIN)) (hnames : LoginNames c u p) (hn : FitsInt n) :
      CanAnswer c n (ascii "SYSTEM ERROR: process login occur unexpect error!")
  | loggedIn {u p : Text} {n : Int} (h : Asks c (some .LOGIN)) (hnames : LoginNames c u p) (hn : FitsInt n) :
      CanAnswer c n (ascii "login success!")
  | logoutFailed (h : Asks c (some .LOGOUT)) :
      CanAnswer c (-1) (ascii "SYSTEM ERROR: process logout occur unexpect error!")
  | loggedOut {u : Text} (h : Asks c (some .LOGOUT)) (hu : CarriesName c (ascii "userName") u) :
      CanAnswer c (-1) (ascii "logout success!")

/-- Some server, with some tables, makes the login manager answer so. -/
def Produces (t : Text) (n : Int) (msg : Text) : Prop :=
  ∃ (m : Mysql) (conn conn' : Connection) (op : Operation),
    performed m t conn = (.ok op, conn') ∧ op.logoutFd = n ∧ op.errmsg = msg

section

variable {m : Mysql} {s s' : SqlApi} {u p : Text} {fd : Int}

theorem getAlreadyLoginedClientFd_fits {r : Int × Int × Nat}
    (h : Loginer.getAlreadyLoginedClientFd m u s = (.ok r, s')) : FitsInt r.2.1 := by
  obtain ⟨ret, s₁, -, h⟩ := bind_run_split h
  by_cases hret : ret ≠ 0
  · rw [if_pos hret] at h
    cases h
    unfold FitsInt
    decide
  · rw [if_neg hret] at h
    obtain ⟨result, s₂, -, h⟩ := bind_run_split h
    obtain ⟨-, s₃, -, h⟩ := bind_run_split h
    obtain ⟨-, s₄, -, h⟩ := bind_run_split h
    obtain ⟨id, s₅, -, h⟩ := bind_run_split h
    obtain ⟨fd, s₆, -, h⟩ := bind_run_split h
    have hr := Except.ok.inj (congrArg Prod.fst h)
    rw [← hr]
    dsimp only
    rw [readInt]
    exact fitsInt_wrap32 _

/-- What a login replies, whatever the server answers. -/
theorem processLogin_reply {a : LoginReply} (h : Loginer.processLogin m u p fd s = (.ok a, s')) :
    FitsInt a.logoutFd ∧ (a.ret = 0 → a.msg = ascii "login success!") := by
  have hnone : FitsInt (-1) := by
    unfold FitsInt
    decide
  have hfailed : ¬ (-1 : Int) = 0 := by decide
  obtain ⟨r, s₁, -, h⟩ := bind_run_split h
  by_cases hvalid : r.1 < 0
  · rw [if_pos hvalid] at h
    cases h
    exact ⟨hnone, fun h => absurd h hfailed⟩
  rw [if_neg hvalid] at h
  by_cases hwrong : (!r.2) = true
  · rw [if_pos hwrong] at h
    cases h
    exact ⟨hnone, fun h => absurd h hfailed⟩
  rw [if_neg hwrong] at h
  obtain ⟨logined, s₂, -, h⟩ := bind_run_split h
  by_cases hlogined : (!logined) = true
  · rw [if_pos hlogined] at h
    obtain ⟨ret, s₃, -, h⟩ := bind_run_split h
    by_cases hret : ret ≠ 0
    · rw [if_pos hret] at h
      cases h
      exact ⟨hnone, fun h => absurd h hfailed⟩
    · rw [if_neg hret] at h
      cases h
      exact ⟨hnone, fun _ => rfl⟩
  · rw [if_neg hlogined] at h
    obtain ⟨r', s₃, hget, h⟩ := bind_run_split h
    by_cases hret : r'.1 ≠ 0
    · rw [if_pos hret] at h
      cases h
      exact ⟨hnone, fun h => absurd h hfailed⟩
    rw [if_neg hret] at h
    have hfits := getAlreadyLoginedClientFd_fits hget
    obtain ⟨ret, s₄, -, h⟩ := bind_run_split h
    by_cases hset : ret ≠ 0
    · rw [if_pos hset] at h
      cases h
      exact ⟨hfits, fun h => absurd h hfailed⟩
    · rw [if_neg hset] at h
      cases h
      exact ⟨hfits, fun _ => rfl⟩

theorem processLogout_reply {a : Reply} (h : Loginer.processLogout m u s = (.ok a, s')) (hret : a.ret = 0) :
    a.msg = ascii "logout success!" := by
  obtain ⟨ret, s₁, -, h⟩ := bind_run_split h
  by_cases hselect : ret ≠ 0
  · rw [if_pos hselect] at h
    cases h
    exact absurd hret (by decide)
  rw [if_neg hselect] at h
  obtain ⟨result, s₂, -, h⟩ := bind_run_split h
  by_cases hrows : result.rowsCount ≤ 0
  · rw [if_pos hrows] at h
    cases h
    rfl
  rw [if_neg hrows] at h
  obtain ⟨-, s₃, -, h⟩ := bind_run_split h
  obtain ⟨id, s₄, -, h⟩ := bind_run_split h
  obtain ⟨ret', s₅, -, h⟩ := bind_run_split h
  by_cases hupdate : ret' ≠ 0
  · rw [if_pos hupdate] at h
    cases h
    exact absurd hret (by decide)
  · rw [if_neg hupdate] at h
    cases h
    rfl

theorem processRegist_reply {a : Reply} (h : Register.processRegist m u p [] s = (.ok a, s')) (hret : a.ret = 0) :
    a.msg = u ++ ascii " already regist!" ∨ a.msg = ascii "regist success!" := by
  obtain ⟨r, s₁, -, h⟩ := bind_run_split h
  by_cases hcount : r.1 ≠ 0
  · rw [if_pos hcount] at h
    cases h
    exact absurd hret (by decide)
  rw [if_neg hcount] at h
  by_cases htaken : r.2 = true
  · rw [if_pos htaken] at h
    cases h
    exact Or.inl rfl
  rw [if_neg htaken] at h
  obtain ⟨ret, s₂, -, h⟩ := bind_run_split h
  by_cases hinsert : ret ≠ 0
  · rw [if_pos hinsert] at h
    cases h
    exact absurd hret (by decide)
  · rw [if_neg hinsert] at h
    cases h
    exact Or.inr rfl

end

section

variable {m : Mysql} {conn conn' : Connection} {c : CJson} {t u p msg : Text} {op : Operation}

theorem getOperateType_asks {r : Int × Int} (hparse : parse t = .ok (some c)) (h : getOperateType t = .ok r) :
    r.1 ≠ 0 ∧ getObjectItem c (ascii "operateType") = none ∨
      r.1 = 0 ∧ Asks c (MessageType.ofInt r.2) := by
  rw [getOperateType, hparse] at h
  simp only [ok_bind, getItem, deref_some] at h
  cases hitem : getObjectItem c (ascii "operateType") with
  | none =>
    simp only [hitem] at h
    obtain ⟨-, -, h⟩ := bind_eq_ok.1 h
    cases h
    exact Or.inl ⟨by decide, rfl⟩
  | some item =>
    simp only [hitem] at h
    obtain ⟨-, -, h⟩ := bind_eq_ok.1 h
    cases h
    exact Or.inr ⟨rfl, item, hitem, rfl⟩

/-- An operation that failed is answered with its own text. -/
theorem unexpected_of_failed (h : op.ret ≠ 0) : (unexpected op msg).errmsg = msg ∧
    (unexpected op msg).logoutFd = op.logoutFd := by
  rw [unexpected, if_pos h]
  exact ⟨rfl, rfl⟩

theorem failed_ret {ret : Int} (h : ¬ ret = 0) : (if ret ≠ 0 then (-1 : Int) else 0) ≠ 0 := by
  rw [if_pos h]
  decide

theorem unexpected_of_done (h : op.ret = 0) : unexpected op msg = op := by
  rw [unexpected, if_neg (not_not_intro h)]

theorem onCopy_eq_ok {α : Type} {x : Proc SqlApi α} {a : α} (h : onCopy x conn = (.ok a, conn')) :
    ∃ s', x { connection := conn } = (.ok a, s') := by
  have ha : (x { connection := conn }).1 = .ok a := congrArg Prod.fst h
  exact ⟨_, Prod.ext ha rfl⟩

theorem processRegist_answer (hparse : parse t = .ok (some c)) (hasks : Asks c (some .REGIST))
    (h : processRegist m t conn = (.ok op, conn')) :
    CanAnswer c (unexpected op (ascii "SYSTEM ERROR: process regist occur unexpect error!")).logoutFd
      (unexpected op (ascii "SYSTEM ERROR: process regist occur unexpect error!")).errmsg := by
  obtain ⟨a, conn₁, ha, h⟩ := bind_run_split h
  obtain ⟨ha, rfl⟩ := Prod.ext_iff.1 ha
  rcases a with _ | ⟨u, p⟩
  · cases h
    exact .registFailed hasks
  obtain ⟨hu, hp⟩ := registParameters_eq_ok hparse ha
  obtain ⟨r, conn₂, hr, h⟩ := bind_run_split h
  obtain ⟨s', hrun⟩ := onCopy_eq_ok hr
  cases h
  by_cases hret : r.ret = 0
  · rw [unexpected_of_done (if_neg (not_not_intro hret))]
    rcases processRegist_reply hrun hret with hmsg | hmsg
    · exact hmsg ▸ .taken hasks hu hp
    · exact hmsg ▸ .registered hasks hu hp
  · have hfailed := @unexpected_of_failed (ascii "SYSTEM ERROR: process regist occur unexpect error!")
      ⟨if r.ret ≠ 0 then -1 else 0, -1, r.code, r.msg⟩ (failed_ret hret)
    rw [hfailed.1, hfailed.2]
    exact .registFailed hasks

theorem processLogin_answer (hparse : parse t = .ok (some c)) (hasks : Asks c (some .LOGIN))
    (h : processLogin m t conn = (.ok op, conn')) :
    CanAnswer c (unexpected op (ascii "SYSTEM ERROR: process login occur unexpect error!")).logoutFd
      (unexpected op (ascii "SYSTEM ERROR: process login occur unexpect error!")).errmsg := by
  obtain ⟨a, conn₁, ha, h⟩ := bind_run_split h
  obtain ⟨ha, rfl⟩ := Prod.ext_iff.1 ha
  rcases a with _ | ⟨u, p, fd⟩
  · cases h
    exact .loginFailed hasks
  obtain ⟨d, e, x, hd, hu, hp, he, -, hx, -⟩ := loginParameters_eq_ok ha
  cases Option.some.inj (Except.ok.inj (hd.symm.trans hparse))
  have hnames : LoginNames c u p := ⟨hu, hp, e, x, he, hx⟩
  obtain ⟨r, conn₂, hr, h⟩ := bind_run_split h
  obtain ⟨s', hrun⟩ := onCopy_eq_ok hr
  obtain ⟨hfits, hmsg⟩ := processLogin_reply hrun
  cases h
  by_cases hret : r.ret = 0
  · rw [unexpected_of_done (if_neg (not_not_intro hret)), hmsg hret]
    exact .loggedIn hasks hnames hfits
  · have hfailed := @unexpected_of_failed (ascii "SYSTEM ERROR: process login occur unexpect error!")
      ⟨if r.ret ≠ 0 then -1 else 0, r.logoutFd, r.code, r.msg⟩ (failed_ret hret)
    rw [hfailed.1, hfailed.2]
    exact .displaceFailed hasks hnames hfits

theorem processLogout_answer (hparse : parse t = .ok (some c)) (hasks : Asks c (some .LOGOUT))
    (h : processLogout m t conn = (.ok op, conn')) :
    CanAnswer c (unexpected op (ascii "SYSTEM ERROR: process logout occur unexpect error!")).logoutFd
      (unexpected op (ascii "SYSTEM ERROR: process logout occur unexpect error!")).errmsg := by
  obtain ⟨a, conn₁, ha, h⟩ := bind_run_split h
  obtain ⟨ha, rfl⟩ := Prod.ext_iff.1 ha
  cases a with
  | none =>
    cases h
    exact .logoutFailed hasks
  | some u =>
    have hu := logoutParameters_eq_ok hparse ha
    obtain ⟨r, conn₂, hr, h⟩ := bind_run_split h
    obtain ⟨s', hrun⟩ := onCopy_eq_ok hr
    cases h
    by_cases hret : r.ret = 0
    · rw [unexpected_of_done (if_neg (not_not_intro hret)), processLogout_reply hrun hret]
      exact .loggedOut hasks hu
    · have hfailed := @unexpected_of_failed (ascii "SYSTEM ERROR: process logout occur unexpect error!")
        ⟨if r.ret ≠ 0 then -1 else 0, -1, r.code, r.msg⟩ (failed_ret hret)
      rw [hfailed.1, hfailed.2]
      exact .logoutFailed hasks

/-- Whatever the server answers, the login manager gives one of these answers. -/
theorem canAnswer_of_performed (hparse : parse t = .ok (some c)) (h : performed m t conn = (.ok op, conn')) :
    CanAnswer c op.logoutFd op.errmsg := by
  obtain ⟨r, conn₁, hr, h⟩ := bind_run_split h
  obtain ⟨hr, rfl⟩ := Prod.ext_iff.1 hr
  rcases getOperateType_asks hparse hr with ⟨hret, hnone⟩ | ⟨hret, hasks⟩
  · rw [if_pos hret] at h
    cases h
    exact .untyped hnone
  rw [if_neg (not_not_intro hret), operate] at h
  generalize MessageType.ofInt r.2 = type at h hasks
  rcases type with _ | (_ | _ | _)
  · cases h
    exact .illegal hasks
  · obtain ⟨op', conn₂, hop, h⟩ := bind_run_split h
    cases h
    exact processRegist_answer hparse hasks hop
  · obtain ⟨op', conn₂, hop, h⟩ := bind_run_split h
    cases h
    exact processLogin_answer hparse hasks hop
  · obtain ⟨op', conn₂, hop, h⟩ := bind_run_split h
    cases h
    exact processLogout_answer hparse hasks hop

end

/-! ### Every one of them is given -/

section

variable {u p : Text} {fd n : Int}

/-- A registered user. -/
def registeredDb (u p : Text) : Db where
  t_user_password := [⟨u, p, 0⟩]

/-- A registered user with a session whose descriptor is read as `n`. -/
def sessionRow (u p : Text) (n : Int) : LoginRow := ⟨1, u, p, ((n % 2 ^ 32).toNat : Nat), 1, 0⟩

def sessionDb (u p : Text) (n : Int) : Db where
  t_user_login := [sessionRow u p n]
  t_user_password := [⟨u, p, 0⟩]

theorem readFd_sessionRow (hn : FitsInt n) : Loginer.readFd (sessionRow u p n) = n := by
  obtain ⟨h1, h2⟩ := hn
  have hpos : (0 : Int) ≤ n % 2 ^ 32 := Int.emod_nonneg n (by norm_num)
  have hlt : (n % 2 ^ 32).toNat < 2 ^ 64 := by omega
  have htext : intText (((n % 2 ^ 32).toNat : Nat) : Int) = natText (n % 2 ^ 32).toNat := by
    rw [intText, if_neg (by omega), Int.toNat_natCast]
  rw [Loginer.readFd, sessionRow, htext, readInt, strtoull_natText hlt, Int.toNat_of_nonneg hpos]
  have hwrap : wrap32 (n % 2 ^ 32) = wrap32 n := by
    unfold wrap32
    exact_mod_cast Int.emod_bmod n (2 ^ 32)
  rw [hwrap, wrap32_eq_self h1 h2]

theorem registRows_registeredDb : (registeredDb u p).registRows u = [⟨u, p, 0⟩] := by
  simp [registeredDb, Db.registRows]

theorem passwordRows_sessionDb : (sessionDb u p n).passwordRows u p = [⟨u, p, 0⟩] := by
  simp [sessionDb, Db.passwordRows]

theorem active_sessionDb : (sessionDb u p n).active u = [sessionRow u p n] := by
  simp [sessionDb, Db.active, LoginRow.activeOf, sessionRow]

theorem counted_one : Loginer.counted 1 = true := Loginer.counted_eq (by decide)

theorem regist_taken : ∃ a s', Register.processRegist memoryServer u p []
    { connection := { db := registeredDb u p } } = (.ok a, s') ∧ a.ret = 0 ∧ a.msg = u ++ ascii " already regist!" := by
  have hend := Register.processRegist_asked (s := { connection := { db := registeredDb u p } }) (u := u) (p := p)
    (servedBy_memoryServer True fun _ => True).reading trivial rfl []
  have hcount : Loginer.counted ((registeredDb u p).registRows u).length = true := by
    rw [registRows_registeredDb]
    exact counted_one
  rw [Ends] at hend
  generalize Register.processRegist memoryServer u p [] { connection := { db := registeredDb u p } } = r at hend
  obtain ⟨r, s'⟩ := r
  cases hend with
  | unchecked h hf => cases h
  | taken h hv hf => exact ⟨_, s', rfl, rfl, rfl⟩
  | entered h hv hi hf => exact absurd (hcount.symm.trans hv) Bool.noConfusion
  | enterFailed h hv hi hf => exact absurd (hcount.symm.trans hv) Bool.noConfusion

theorem regist_entered : ∃ a s', Register.processRegist memoryServer u p [] { connection := { db := {} } } =
    (.ok a, s') ∧ a.ret = 0 ∧ a.msg = ascii "regist success!" := by
  have hend := Register.processRegist_asked (s := { connection := { db := {} } }) (u := u) (p := p)
    (servedBy_memoryServer True fun _ => True).reading trivial rfl []
  rw [Ends] at hend
  generalize Register.processRegist memoryServer u p [] { connection := { db := {} } } = r at hend
  obtain ⟨r, s'⟩ := r
  cases hend with
  | unchecked h hf => cases h
  | taken h hv hf => exact absurd (counted_zero.symm.trans hv) Bool.noConfusion
  | entered h hv hi hf => exact ⟨_, s', rfl, rfl, rfl⟩
  | enterFailed h hv hi hf => cases hi

theorem logout_done : ∃ a s', Loginer.processLogout memoryServer u { connection := { db := {} } } =
    (.ok a, s') ∧ a.ret = 0 ∧ a.msg = ascii "logout success!" := by
  have hend := Loginer.processLogout_asked (s := { connection := { db := {} } }) (u := u)
    (servedBy_memoryServer True fun _ => True).reading trivial rfl
  rw [Ends] at hend
  generalize Loginer.processLogout memoryServer u { connection := { db := {} } } = r at hend
  obtain ⟨r, s'⟩ := r
  cases hend with
  | unlocated h hf => cases h
  | absent h ha hf => exact ⟨_, s', rfl, rfl, rfl⟩
  | ended row h hend hf => exact absurd h.1 List.not_mem_nil
  | endFailed row h hend hf => exact absurd h.1 List.not_mem_nil

/-- A login of a user who is logged in tells the descriptor of the session, whether the session is
replaced or not. -/
theorem login_displaces {m : Mysql} (hm : Reading (fun _ => True) m) (hn : FitsInt n)
    (hcount : ¬ m.Fails 0 (.countPassword u p) (sessionDb u p n))
    (hselect : ¬ m.Fails 2 (.selectLogined u) (sessionDb u p n)) :
    ∃ a s', Loginer.processLogin m u p fd { connection := { db := sessionDb u p n } } = (.ok a, s') ∧
      a.logoutFd = n ∧
      (a.ret = 0 ↔ ¬ (Loginer.EndFails m { db := sessionDb u p n } (readId (sessionRow u p n)) ∨
        Loginer.EnterFails m { db := sessionDb u p n } u p fd (readId (sessionRow u p n)))) := by
  have hend := Loginer.processLogin_asked (s := { connection := { db := sessionDb u p n } }) (u := u) (p := p)
    hm trivial trivial rfl fd
  have hactive : Loginer.counted ((sessionDb u p n).active u).length = true := by
    rw [active_sessionDb]
    exact counted_one
  have hvalid : Loginer.counted ((sessionDb u p n).passwordRows u p).length = true := by
    rw [passwordRows_sessionDb]
    exact counted_one
  rw [Ends] at hend
  generalize Loginer.processLogin m u p fd { connection := { db := sessionDb u p n } } = r at hend
  obtain ⟨r, s'⟩ := r
  cases hend with
  | unchecked h hf => exact absurd h hcount
  | invalid h hv hf => exact absurd (hvalid.symm.trans hv) Bool.noConfusion
  | first h hl hi hf => exact absurd (Or.inr hactive) hl
  | firstFailed h hl hi hf => exact absurd (Or.inr hactive) hl
  | unlocated h hl hs hf => exact absurd hs hselect
  | aborted h hl hs ha => exact absurd (congrArg List.length active_sessionDb) ha
  | displaced row h hs ha hend henter hf =>
    cases List.singleton_injective (ha.symm.trans active_sessionDb)
    refine ⟨_, s', rfl, ?_, iff_of_true rfl (not_or.2 ⟨hend, henter⟩)⟩
    dsimp only
    exact readFd_sessionRow hn
  | displaceFailed row h hs ha hw hf =>
    cases List.singleton_injective (ha.symm.trans active_sessionDb)
    have hfailed : ¬ (-1 : Int) = 0 := by decide
    refine ⟨_, s', rfl, ?_, iff_of_false hfailed (not_not_intro hw)⟩
    dsimp only
    exact readFd_sessionRow hn

theorem memoryServer_enters (id : Nat) :
    ¬ Loginer.EnterFails memoryServer { db := sessionDb u p n } u p fd id := by
  have hids : ((sessionDb u p n).logoutRow id).t_user_login.map LoginRow.fuiId = [1] := by
    rw [Db.logoutRow, sessionDb, List.map_cons, List.map_nil, List.map_cons, List.map_nil]
    split <;> rfl
  intro h
  change (if (((sessionDb u p n).logoutRow id).t_user_login.map LoginRow.fuiId).foldl max 0 + 1 < 2 ^ 31 then
    (Answer.done 1 [], _) else (Answer.failed, _)).1 = .failed at h
  rw [hids, if_pos (by decide)] at h
  cases h

theorem login_displaced (hn : FitsInt n) : ∃ a s', Loginer.processLogin memoryServer u p fd
    { connection := { db := sessionDb u p n } } = (.ok a, s') ∧ a.logoutFd = n ∧ a.ret = 0 ∧
      a.msg = ascii "login success!" := by
  obtain ⟨a, s', hrun, hfd, hret⟩ := @login_displaces u p fd n memoryServer
    (servedBy_memoryServer True fun _ => True).reading hn Answer.noConfusion Answer.noConfusion
  have hdone : a.ret = 0 := by
    refine hret.2 ?_
    rintro (h | h)
    · cases h
    · exact memoryServer_enters _ h
  exact ⟨a, s', hrun, hfd, hdone, (processLogin_reply hrun).2 hdone⟩

theorem login_displaceFailed (hn : FitsInt n) : ∃ a s', Loginer.processLogin (memoryServer.failingAt 3) u p fd
    { connection := { db := sessionDb u p n } } = (.ok a, s') ∧ a.logoutFd = n ∧ a.ret ≠ 0 := by
  obtain ⟨a, s', hrun, hfd, hret⟩ := @login_displaces u p fd n (memoryServer.failingAt 3)
    ((servedBy_memoryServer True fun _ => True).failingAt 3).reading hn Answer.noConfusion Answer.noConfusion
  exact ⟨a, s', hrun, hfd, fun h => hret.1 h (Or.inl rfl)⟩

end

section

variable {m : Mysql} {conn : Connection} {c : CJson} {t u p msg : Text} {n : Int}

theorem CarriesName.unique {name u u' : Text} (h : CarriesName c name u) (h' : CarriesName c name u') : u' = u := by
  have hu := Logged.carried_eq_some.2 h
  rw [Logged.carried_eq_some.2 h'] at hu
  exact Option.some.inj hu

theorem getOperateType_of_asks {type : Option MessageType} (hparse : parse t = .ok (some c)) (hc : Accepted c)
    (hasks : Asks c type) : ∃ v, getOperateType t = .ok (0, v) ∧ MessageType.ofInt v = type := by
  obtain ⟨item, hitem, hty⟩ := hasks
  obtain ⟨r, hr⟩ := (getOperateType_returns_iff hparse hc.printable).2 hc.operateType
  rcases getOperateType_asks hparse hr with ⟨-, hnone⟩ | ⟨hret, item', hitem', hty'⟩
  · rw [hnone] at hitem
    cases hitem
  · cases hitem.symm.trans hitem'
    exact ⟨r.2, by rw [hr, ← hret], hty'.symm.trans hty⟩

/-- An operation the request asks for is what is performed. -/
theorem produces_of_operate {type : Option MessageType} (hparse : parse t = .ok (some c)) (hc : Accepted c)
    (hasks : Asks c type)
    (h : ∀ v, MessageType.ofInt v = type → ∃ (m : Mysql) (conn conn' : Connection) (op : Operation),
      operate m t v conn = (.ok op, conn') ∧ op.logoutFd = n ∧ op.errmsg = msg) : Produces t n msg := by
  obtain ⟨v, hv, hty⟩ := getOperateType_of_asks hparse hc hasks
  obtain ⟨m, conn, conn', op, hop, hfd, hmsg⟩ := h v hty
  refine ⟨m, conn, conn', op, ?_, hfd, hmsg⟩
  rw [performed, lift_bind_run_ok hv, if_neg (not_not_intro rfl)]
  exact hop

theorem produces_regist (hparse : parse t = .ok (some c)) (hc : Accepted c) (hasks : Asks c (some .REGIST))
    {conn' : Connection} {op : Operation} (h : processRegist m t conn = (.ok op, conn')) :
    Produces t (unexpected op (ascii "SYSTEM ERROR: process regist occur unexpect error!")).logoutFd
      (unexpected op (ascii "SYSTEM ERROR: process regist occur unexpect error!")).errmsg := by
  refine produces_of_operate hparse hc hasks fun v hv => ⟨m, conn, conn', _, ?_, rfl, rfl⟩
  rw [operate, hv]
  exact bind_run_ok h

theorem produces_login (hparse : parse t = .ok (some c)) (hc : Accepted c) (hasks : Asks c (some .LOGIN))
    {conn' : Connection} {op : Operation} (h : processLogin m t conn = (.ok op, conn')) :
    Produces t (unexpected op (ascii "SYSTEM ERROR: process login occur unexpect error!")).logoutFd
      (unexpected op (ascii "SYSTEM ERROR: process login occur unexpect error!")).errmsg := by
  refine produces_of_operate hparse hc hasks fun v hv => ⟨m, conn, conn', _, ?_, rfl, rfl⟩
  rw [operate, hv]
  exact bind_run_ok h

theorem produces_logout (hparse : parse t = .ok (some c)) (hc : Accepted c) (hasks : Asks c (some .LOGOUT))
    {conn' : Connection} {op : Operation} (h : processLogout m t conn = (.ok op, conn')) :
    Produces t (unexpected op (ascii "SYSTEM ERROR: process logout occur unexpect error!")).logoutFd
      (unexpected op (ascii "SYSTEM ERROR: process logout occur unexpect error!")).errmsg := by
  refine produces_of_operate hparse hc hasks fun v hv => ⟨m, conn, conn', _, ?_, rfl, rfl⟩
  rw [operate, hv]
  exact bind_run_ok h

theorem onCopy_run {α : Type} {x : Proc SqlApi α} {r : C α} {s' : SqlApi}
    (h : x { connection := conn } = (r, s')) : onCopy x conn = (r, s'.connection) := by
  rw [onCopy, h]

/-! The operation on the names of the message. -/

theorem processRegist_run (hparse : parse t = .ok (some c)) (hc : Accepted c)
    (hu : CarriesName c (ascii "userName") u) (hp : CarriesName c (ascii "passWord") p) {a : Reply} {s' : SqlApi}
    (h : Register.processRegist m u p [] { connection := conn } = (.ok a, s')) :
    processRegist m t conn = (.ok ⟨if a.ret ≠ 0 then -1 else 0, -1, a.code, a.msg⟩, s'.connection) := by
  obtain ⟨b, hb⟩ := hc.registParameters hparse
  rcases b with _ | ⟨u', p'⟩
  · exact absurd hb (Logged.registParameters_isSome hparse (Logged.carried_eq_some.2 hu) (Logged.carried_eq_some.2 hp))
  obtain ⟨hu', hp'⟩ := registParameters_eq_ok hparse hb
  cases hu.unique hu'
  cases hp.unique hp'
  rw [processRegist, lift_bind_run_ok hb]
  exact bind_run_ok (onCopy_run h)

theorem processLogin_run (hparse : parse t = .ok (some c)) (hc : Accepted c) (hnames : LoginNames c u p)
    {P : LoginReply → Prop} (h : ∀ fd, ∃ a s', Loginer.processLogin m u p fd { connection := conn } = (.ok a, s') ∧ P a) :
    ∃ a conn', P a ∧ processLogin m t conn = (.ok ⟨if a.ret ≠ 0 then -1 else 0, a.logoutFd, a.code, a.msg⟩, conn') := by
  obtain ⟨hu, hp, e, x, he, hx⟩ := hnames
  obtain ⟨b, hb⟩ := hc.loginParameters hparse
  have hclientFd : ((getObjectItem c (ascii "extendInfo")).bind fun e => getObjectItem e (ascii "clientFd")) =
      some x := by
    rw [he, Option.bind_some, hx]
  rcases b with _ | ⟨u', p', fd⟩
  · exact absurd hb (Logged.loginParameters_isSome hparse (Logged.carried_eq_some.2 hu)
      (Logged.carried_eq_some.2 hp) hclientFd)
  obtain ⟨d, e', x', hd, hu', hp', -⟩ := loginParameters_eq_ok hb
  cases Option.some.inj (Except.ok.inj (hd.symm.trans hparse))
  cases hu.unique hu'
  cases hp.unique hp'
  obtain ⟨a, s', hrun, hP⟩ := h fd
  refine ⟨a, s'.connection, hP, ?_⟩
  rw [processLogin, lift_bind_run_ok hb]
  exact bind_run_ok (onCopy_run hrun)

theorem processLogout_run (hparse : parse t = .ok (some c)) (hc : Accepted c)
    (hu : CarriesName c (ascii "userName") u) {a : Reply} {s' : SqlApi}
    (h : Loginer.processLogout m u { connection := conn } = (.ok a, s')) :
    processLogout m t conn = (.ok ⟨if a.ret ≠ 0 then -1 else 0, -1, a.code, a.msg⟩, s'.connection) := by
  obtain ⟨b, hb⟩ := hc.logoutParameters hparse
  cases b with
  | none => exact absurd hb (Logged.logoutParameters_isSome hparse (Logged.carried_eq_some.2 hu))
  | some u' =>
    cases hu.unique (logoutParameters_eq_ok hparse hb)
    rw [processLogout, lift_bind_run_ok hb]
    exact bind_run_ok (onCopy_run h)

/-! A server whose first statement fails. -/

theorem processRegist_fails (h : Returns (registParameters t)) : ∃ conn' op,
    processRegist (memoryServer.failingAt 0) t { db := {} } = (.ok op, conn') ∧ op.ret ≠ 0 ∧ op.logoutFd = -1 := by
  obtain ⟨b, hb⟩ := h
  rw [processRegist, lift_bind_run_ok hb]
  rcases b with _ | ⟨u, p⟩
  · exact ⟨_, _, rfl, by decide, rfl⟩
  · exact ⟨_, _, rfl, by decide, rfl⟩

theorem processLogin_fails (h : Returns (loginParameters t)) : ∃ conn' op,
    processLogin (memoryServer.failingAt 0) t { db := {} } = (.ok op, conn') ∧ op.ret ≠ 0 ∧ op.logoutFd = -1 := by
  obtain ⟨b, hb⟩ := h
  rw [processLogin, lift_bind_run_ok hb]
  rcases b with _ | ⟨u, p, fd⟩
  · exact ⟨_, _, rfl, by decide, rfl⟩
  · exact ⟨_, _, rfl, by decide, rfl⟩

theorem processLogout_fails (h : Returns (logoutParameters t)) : ∃ conn' op,
    processLogout (memoryServer.failingAt 0) t { db := {} } = (.ok op, conn') ∧ op.ret ≠ 0 ∧ op.logoutFd = -1 := by
  obtain ⟨b, hb⟩ := h
  rw [processLogout, lift_bind_run_ok hb]
  cases b with
  | none => exact ⟨_, _, rfl, by decide, rfl⟩
  | some u => exact ⟨_, _, rfl, by decide, rfl⟩

/-- Every one of the answers is given to an accepted message, by some server. -/
theorem produces_of_canAnswer (hparse : parse t = .ok (some c)) (hc : Accepted c) (h : CanAnswer c n msg) :
    Produces t n msg := by
  cases h with
  | untyped h =>
    obtain ⟨r, hr⟩ := (getOperateType_returns_iff hparse hc.printable).2 hc.operateType
    rcases getOperateType_asks hparse hr with ⟨hret, -⟩ | ⟨-, item, hitem, -⟩
    · refine ⟨memoryServer, { db := {} }, { db := {} },
        { ret := -1, errmsg := ascii "SYSTEM ERROR:Message format error!" }, ?_, rfl, rfl⟩
      rw [performed, lift_bind_run_ok hr, if_pos hret]
      rfl
    · rw [h] at hitem
      cases hitem
  | illegal h =>
    refine produces_of_operate hparse hc h fun v hv => ⟨memoryServer, { db := {} }, { db := {} },
      ⟨-1, -1, .SYSTEM_ERROR, ascii "SYSTEM ERROR: operateType is illegal!"⟩, ?_, rfl, rfl⟩
    rw [operate, hv]
    rfl
  | registFailed h =>
    obtain ⟨conn', op, hop, hret, hfd⟩ := processRegist_fails (hc.registParameters hparse)
    obtain ⟨hmsg, hlogoutFd⟩ := @unexpected_of_failed
      (ascii "SYSTEM ERROR: process regist occur unexpect error!") op hret
    exact hmsg ▸ (hlogoutFd.trans hfd) ▸ produces_regist hparse hc h hop
  | registered h hu hp =>
    obtain ⟨a, s', hrun, hret, hmsg⟩ := regist_entered
    have hop := produces_regist hparse hc h (processRegist_run hparse hc hu hp hrun)
    rw [unexpected_of_done (if_neg (not_not_intro hret))] at hop
    exact hmsg ▸ hop
  | taken h hu hp =>
    obtain ⟨a, s', hrun, hret, hmsg⟩ := regist_taken
    have hop := produces_regist hparse hc h (processRegist_run hparse hc hu hp hrun)
    rw [unexpected_of_done (if_neg (not_not_intro hret))] at hop
    exact hmsg ▸ hop
  | loginFailed h =>
    obtain ⟨conn', op, hop, hret, hfd⟩ := processLogin_fails (hc.loginParameters hparse)
    obtain ⟨hmsg, hlogoutFd⟩ := @unexpected_of_failed
      (ascii "SYSTEM ERROR: process login occur unexpect error!") op hret
    exact hmsg ▸ (hlogoutFd.trans hfd) ▸ produces_login hparse hc h hop
  | displaceFailed h hnames hn =>
    obtain ⟨a, conn', ⟨hfd, hret⟩, hop⟩ := processLogin_run hparse hc hnames fun _ => login_displaceFailed hn
    obtain ⟨hmsg, hlogoutFd⟩ := @unexpected_of_failed
      (ascii "SYSTEM ERROR: process login occur unexpect error!")
      ⟨if a.ret ≠ 0 then -1 else 0, a.logoutFd, a.code, a.msg⟩ (failed_ret hret)
    exact hmsg ▸ (hlogoutFd.trans hfd) ▸ produces_login hparse hc h hop
  | loggedIn h hnames hn =>
    obtain ⟨a, conn', ⟨hfd, hret, hmsg⟩, hop⟩ := processLogin_run hparse hc hnames fun _ => login_displaced hn
    have hop := produces_login hparse hc h hop
    rw [unexpected_of_done (if_neg (not_not_intro hret))] at hop
    exact hmsg ▸ hfd ▸ hop
  | logoutFailed h =>
    obtain ⟨conn', op, hop, hret, hfd⟩ := processLogout_fails (hc.logoutParameters hparse)
    obtain ⟨hmsg, hlogoutFd⟩ := @unexpected_of_failed
      (ascii "SYSTEM ERROR: process logout occur unexpect error!") op hret
    exact hmsg ▸ (hlogoutFd.trans hfd) ▸ produces_logout hparse hc h hop
  | loggedOut h hu =>
    obtain ⟨a, s', hrun, hret, hmsg⟩ := logout_done
    have hop := produces_logout hparse hc h (processLogout_run hparse hc hu hrun)
    rw [unexpected_of_done (if_neg (not_not_intro hret))] at hop
    exact hmsg ▸ hop

/-- The answers to an accepted message are those of `CanAnswer`, and no others. -/
theorem produces_iff (hparse : parse t = .ok (some c)) (hc : Accepted c) :
    Produces t n msg ↔ CanAnswer c n msg := by
  refine ⟨?_, produces_of_canAnswer hparse hc⟩
  rintro ⟨m, conn, conn', op, hop, rfl, rfl⟩
  exact canAnswer_of_performed hparse hop

theorem CanAnswer.fits (h : CanAnswer c n msg) : FitsInt n := by
  have hnone : FitsInt (-1) := by
    unfold FitsInt
    decide
  cases h with
  | displaceFailed h hnames hn => exact hn
  | loggedIn h hnames hn => exact hn
  | _ => exact hnone

theorem CanAnswer.noNul (hparse : parse t = .ok (some c)) (hc : Accepted c) (h : CanAnswer c n msg) : NoNul msg := by
  cases h with
  | taken h hu hp =>
    obtain ⟨message, item, hmessage, hitem, hvalue⟩ := hu
    have hnamed := hc.message message hmessage
    have hsound := (sound_item hparse hmessage).child (Or.inl hnamed.object) item (getObjectItem_mem hitem)
    obtain ⟨v, hv, hnul⟩ := hsound.valuestring (hnamed.userName item hitem)
    cases hv.symm.trans hvalue
    exact noNul_append hnul (noNul_of_notMem (by decide))
  | _ => exact noNul_of_notMem (by decide)

end

end SingleTerminalLogin
