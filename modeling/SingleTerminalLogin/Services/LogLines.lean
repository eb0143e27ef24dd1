import SingleTerminalLogin.Services.OperationLines
import SingleTerminalLogin.Services.Robustness

/-!
# Which lines a message leaves in the log

What a function writes to the log depends on the tree of its message, and where it asks the database on the
rows of the names in it.

* `dispatcherLines`, `operateTypeLines`, `responseLines`, `registLines`, `loginLines`, `logoutLines` —
  the lines of every function;
* `Writes` — a function that returns without its lines returns with them exactly when they fit;
* `processRegist_returns_iff`, `processLogin_returns_iff`, `processLogout_returns_iff` — the same for the
  functions that ask the database.
-/

namespace SingleTerminalLogin

open ByteText Binary64 CProgram CJson Proc SqlApi SqlLex Printf

namespace Logged

section

variable {log : Log} {c : CJson} {t text : Text}

/-! ## Trees -/

/-- The lines of `getServiceFdAndMessage`. -/
def dispatcherLines (c : CJson) (text : Text) : List Line :=
  match getObjectItem c (ascii "messageType") with
  | none => [⟨.messageDispatcher, 108, [.str text], .refl true⟩]
  | some item =>
    match MessageType.ofInt (wrap32 item.valueint) with
    | none => [⟨.messageDispatcher, 130, [.str text], .refl true⟩]
    | some _ => []

/-- The lines of `getOperateType`. -/
def operateTypeLines (c : CJson) (text : Text) : List Line :=
  match getObjectItem c (ascii "operateType") with
  | none => [⟨.userLoginImpl, 132, [.str text], .refl true⟩]
  | some _ => []

/-- The lines of `getResponseMessage`. -/
def responseLines (c : CJson) (text : Text) : List Line :=
  match getObjectItem c (ascii "extendInfo") with
  | none => [⟨.userLoginImpl, 110, [.str text], .refl true⟩]
  | some _ => []

/-- The lines of a login, without those of the operation on the names. -/
def loginParametersLines (c : CJson) (text : Text) : List Line :=
  match getObjectItem c (ascii "message"), getObjectItem c (ascii "extendInfo") with
  | some message, some e =>
    match getObjectItem message (ascii "userName"), getObjectItem message (ascii "passWord"),
        getObjectItem e (ascii "clientFd") with
    | some _, some _, some _ => []
    | _, _, _ => [⟨.userLoginImpl, 161, [.str text], .refl true⟩]
  | _, _ => [⟨.userLoginImpl, 149, [.str text], .refl true⟩]

/-- The lines of a logout, without those of the operation on the name. -/
def logoutParametersLines (c : CJson) (text : Text) : List Line :=
  match getObjectItem c (ascii "message") with
  | none => [⟨.userLoginImpl, 189, [.str text], .refl true⟩]
  | some message =>
    match getObjectItem message (ascii "userName") with
    | none => [⟨.userLoginImpl, 197, [.str text], .refl true⟩]
    | some _ => []

/-- The lines of a registration, without those of the operation on the names. -/
def registParametersLines (c : CJson) (text : Text) : List Line :=
  ⟨.userLoginImpl, 217, [], .refl true⟩ ::
    match getObjectItem c (ascii "message") with
    | none => [⟨.userLoginImpl, 222, [.str text], .refl true⟩]
    | some message =>
      match getObjectItem message (ascii "userName"), getObjectItem message (ascii "passWord") with
      | some _, some _ => []
      | _, _ => [⟨.userLoginImpl, 231, [.str text], .refl true⟩]

/-- `x` is `y` with these lines in between. -/
def Writes {α : Type} (log : Log) (lines : List Line) (x y : C α) : Prop :=
  Returns x ↔ Returns y ∧ ∀ l ∈ lines, log.Fits l

theorem Writes.refl {α : Type} (x : C α) : Writes log [] x x := by simp [Writes]

/-- What stands in front of both. -/
theorem Writes.after {α β : Type} {lines : List Line} (x : C α) {f g : α → C β}
    (h : ∀ a, x = .ok a → Writes log lines (f a) (g a)) : Writes log lines (x >>= f) (x >>= g) := by
  unfold Writes at h ⊢
  simp only [returns_bind_iff]
  constructor
  · rintro ⟨a, hx, hf⟩
    exact ⟨⟨a, hx, ((h a hx).1 hf).1⟩, ((h a hx).1 hf).2⟩
  · rintro ⟨⟨a, hx, hg⟩, hlines⟩
    exact ⟨a, hx, (h a hx).2 ⟨hg, hlines⟩⟩

theorem returns_print_bind {α : Type} {l : Line} {f : Unit → C α} :
    Returns (log.print l >>= f) ↔ log.Fits l ∧ Returns (f ()) := by
  rw [← Log.print_returns_iff, returns_bind_iff]
  constructor
  · rintro ⟨u, hu, hf⟩
    exact ⟨⟨u, hu⟩, hf⟩
  · rintro ⟨⟨u, hu⟩, hf⟩
    exact ⟨u, hu, hf⟩

/-- A line in front. -/
theorem Writes.cons {α : Type} {l : Line} {lines : List Line} {x y : C α} (h : Writes log lines x y) :
    Writes log (l :: lines) (log.print l >>= fun _ => x) y := by
  unfold Writes at h ⊢
  rw [returns_print_bind, h, List.forall_mem_cons]
  tauto

/-- The tree in front of a value. -/
theorem Writes.json {α : Type} {source : Source} {line : Int} {takes : ∀ t, source.takes line [.str t] = true}
    (hprint : print c = .ok text) (a : α) :
    Writes log [⟨source, line, [.str text], takes text⟩]
      (printJson log source line takes (some c) >>= fun _ => .ok a)
      (logJson (some c) >>= fun _ => .ok a) := by
  have hjson : logJson (some c) = .ok () := by
    rw [logJson, deref_some, ok_bind, hprint]
    rfl
  rw [Writes, hjson, printJson, deref_some, ok_bind, hprint, ok_bind, returns_bind_iff]
  simp only [ok_bind, returns_ok, and_true, true_and, List.mem_singleton, forall_eq]
  exact Log.print_returns_iff

section

variable (hparse : parse t = .ok (some c)) (hprint : print c = .ok text)

include hparse hprint

theorem getServiceFdAndMessage_writes : Writes log (dispatcherLines c text)
    (getServiceFdAndMessage log t) (MessageDispatcher.getServiceFdAndMessage t) := by
  rw [getServiceFdAndMessage, MessageDispatcher.getServiceFdAndMessage, hparse, dispatcherLines]
  simp only [ok_bind, getItem, deref_some]
  cases getObjectItem c (ascii "messageType") with
  | none => exact .json hprint _
  | some item =>
    dsimp only
    refine .after _ fun _ _ => ?_
    cases MessageType.ofInt (wrap32 item.valueint) with
    | none => exact .json hprint _
    | some type => exact .refl _

theorem getOperateType_writes : Writes log (operateTypeLines c text)
    (getOperateType log t) (UserLoginImpl.getOperateType t) := by
  rw [getOperateType, UserLoginImpl.getOperateType, hparse, operateTypeLines]
  simp only [ok_bind, getItem, deref_some]
  cases getObjectItem c (ascii "operateType") with
  | none => exact .json hprint _
  | some item => exact .refl _

theorem getResponseMessage_writes (logoutFd code : Int) (msg : Text) : Writes log (responseLines c text)
    (getResponseMessage log t logoutFd code msg) (UserLoginImpl.getResponseMessage t logoutFd code msg) := by
  rw [getResponseMessage, UserLoginImpl.getResponseMessage, hparse, responseLines, getObjectItem]
  simp only [ok_bind, deref_some]
  cases itemFrom c (ascii "extendInfo") with
  | nil => exact .json hprint _
  | cons e next => exact .refl _

theorem loginParameters_writes : Writes log (loginParametersLines c text)
    (loginParameters log t) (UserLoginImpl.loginParameters t) := by
  rw [loginParameters, UserLoginImpl.loginParameters, hparse, loginParametersLines]
  simp only [ok_bind, getItem, deref_some]
  cases getObjectItem c (ascii "message") with
  | none => exact .json hprint _
  | some message =>
    cases getObjectItem c (ascii "extendInfo") with
    | none => exact .json hprint _
    | some e =>
      dsimp only
      refine .after _ fun _ _ => .after _ fun _ _ => ?_
      cases getObjectItem message (ascii "userName") with
      | none => exact .json hprint _
      | some user =>
        cases getObjectItem message (ascii "passWord") with
        | none => exact .json hprint _
        | some pass =>
          cases getObjectItem e (ascii "clientFd") with
          | none => exact .json hprint _
          | some fd => exact .refl _

theorem logoutParameters_writes : Writes log (logoutParametersLines c text)
    (logoutParameters log t) (UserLoginImpl.logoutParameters t) := by
  rw [logoutParameters, UserLoginImpl.logoutParameters, hparse, logoutParametersLines]
  simp only [ok_bind, getItem, deref_some]
  cases getObjectItem c (ascii "message") with
  | none => exact .json hprint _
  | some message =>
    dsimp only
    refine .after _ fun _ _ => ?_
    cases getObjectItem message (ascii "userName") with
    | none => exact .json hprint _
    | some user => exact .refl _

theorem registParameters_writes : Writes log (registParametersLines c text)
    (registParameters log t) (UserLoginImpl.registParameters t) := by
  rw [registParameters, UserLoginImpl.registParameters, hparse, registParametersLines]
  refine .cons ?_
  simp only [ok_bind, getItem, deref_some]
  cases getObjectItem c (ascii "message") with
  | none => exact .json hprint _
  | some message =>
    dsimp only
    refine .after _ fun _ _ => ?_
    cases getObjectItem message (ascii "userName") with
    | none => exact .json hprint _
    | some user =>
      cases getObjectItem message (ascii "passWord") with
      | none => exact .json hprint _
      | some pass => exact .refl _

end

end

/-! ## Messages -/

/-- A name in the `message` of a request. -/
def carried (c : CJson) (name : Text) : Option Text :=
  (getObjectItem c (ascii "message")).bind fun message => (getObjectItem message name).bind CJson.valuestring

theorem carried_eq_some {c : CJson} {name u : Text} :
    carried c name = some u ↔ CarriesName c name u := by
  simp only [carried, CarriesName, Option.bind_eq_some_iff]
  constructor
  · rintro ⟨message, hmessage, item, hitem, hu⟩
    exact ⟨message, item, hmessage, hitem, hu⟩
  · rintro ⟨message, item, hmessage, hitem, hu⟩
    exact ⟨message, hmessage, item, hitem, hu⟩

/-- The lines of `UserLoginImpl::processRegist`. -/
def registLines (db : Db) (c : CJson) (text : Text) : List Line :=
  registParametersLines c text ++
    match carried c (ascii "userName"), carried c (ascii "passWord") with
    | some u, some _ => Register.lines db u
    | _, _ => []

/-- The lines of `UserLoginImpl::processLogin`. -/
def loginLines (db : Db) (c : CJson) (text : Text) : List Line :=
  loginParametersLines c text ++
    match carried c (ascii "userName"), carried c (ascii "passWord"),
        (getObjectItem c (ascii "extendInfo")).bind fun e => getObjectItem e (ascii "clientFd") with
    | some u, some p, some _ => Loginer.loginLines db u p ++
        if SingleTerminalLogin.Loginer.counted (db.passwordRows u p).length then []
        else [⟨.userLoginImpl, 176, [], .refl true⟩]
    | _, _, _ => []

/-- The lines of `UserLoginImpl::processLogout`. -/
def logoutLines (db : Db) (c : CJson) (text : Text) : List Line :=
  logoutParametersLines c text ++
    match carried c (ascii "userName") with
    | some u => Loginer.logoutLines db u
    | none => []

section

variable {log : Log} {m : Mysql} {conn : Connection} {c : CJson} {t text : Text}

/-- Two calls in a row, the first with lines in between. -/
theorem ends_cutShort_bind {σ α β : Type} {x y : Proc σ α} {f : α → Proc σ β} {s : σ} {a : α} {A B : Prop}
    (hcut : Proc.CutShort x y) (hy : (y s).1 = .ok a) (hx : Ends x s fun r _ => Returns r ↔ A)
    (hf : ∀ s', Ends (f a) s' fun r _ => Returns r ↔ B) :
    Ends (x >>= f) s fun r _ => Returns r ↔ A ∧ B := by
  refine ends_bind (R := fun r s' => (Returns r ↔ A) ∧ (Returns r → r = .ok a)) ⟨hx, fun h => ?_⟩ ?_ ?_
  · rw [← hy, hcut s h]
  · rintro b s' ⟨hA, hb⟩
    cases hb (returns_ok b)
    exact (hf s').imp fun r s'' hr => by rw [hr, and_iff_right (hA.1 (returns_ok a))]
  · rintro e s' ⟨hA, -⟩
    exact iff_of_false (not_returns_error e) fun h => not_returns_error e (hA.2 h.1)

/-- The parameters of a message, then what is done with them. -/
theorem ends_parameters {α β : Type} {x y : C α} {f : α → Proc Connection β} {a : α} {lines : List Line}
    {B : Prop} (hcut : CProgram.CutShort x y) (hw : Writes log lines x y) (hy : y = .ok a)
    (hf : ∀ conn', conn' = conn → Ends (f a) conn' fun r _ => Returns r ↔ B) :
    Ends (lift x >>= f) conn fun r _ => Returns r ↔ (∀ l ∈ lines, log.Fits l) ∧ B := by
  have hlines : Returns x ↔ ∀ l ∈ lines, log.Fits l := by
    rw [hy] at hw
    exact hw.trans (and_iff_right (returns_ok a))
  refine ends_bind (R := fun r s' => r = x ∧ s' = conn) ⟨rfl, rfl⟩ ?_ ?_
  · rintro b s' ⟨hb, rfl⟩
    have hb' : b = a := Except.ok.inj ((hcut b hb.symm).symm.trans hy)
    have hfits : ∀ l ∈ lines, log.Fits l := hlines.1 ⟨b, hb.symm⟩
    rw [hb']
    exact (hf s' rfl).imp fun r s'' hr => by rw [hr, and_iff_right hfits]
  · rintro e s' ⟨he, -⟩
    exact iff_of_false (not_returns_error e) fun h => not_returns_error e (he ▸ hlines.2 h.1)

theorem registParameters_isSome (hparse : parse t = .ok (some c)) {u p : Text}
    (hu : carried c (ascii "userName") = some u) (hp : carried c (ascii "passWord") = some p) :
    UserLoginImpl.registParameters t ≠ .ok none := by
  obtain ⟨message, user, hmessage, huser, hu⟩ := carried_eq_some.1 hu
  obtain ⟨message', pass, hmessage', hpass, hp⟩ := carried_eq_some.1 hp
  cases hmessage.symm.trans hmessage'
  intro h
  rw [UserLoginImpl.registParameters, hparse] at h
  simp only [ok_bind, getItem, deref_some, hmessage, huser, hpass, hu, hp] at h
  obtain ⟨-, -, h⟩ := bind_eq_ok.1 h
  obtain ⟨-, -, h⟩ := bind_eq_ok.1 h
  obtain ⟨-, -, h⟩ := bind_eq_ok.1 h
  cases h

theorem loginParameters_isSome (hparse : parse t = .ok (some c)) {u p : Text} {fd : CJson}
    (hu : carried c (ascii "userName") = some u) (hp : carried c (ascii "passWord") = some p)
    (hfd : ((getObjectItem c (ascii "extendInfo")).bind fun e => getObjectItem e (ascii "clientFd")) = some fd) :
    UserLoginImpl.loginParameters t ≠ .ok none := by
  obtain ⟨message, user, hmessage, huser, hu⟩ := carried_eq_some.1 hu
  obtain ⟨message', pass, hmessage', hpass, hp⟩ := carried_eq_some.1 hp
  obtain ⟨e, he, hfd⟩ := Option.bind_eq_some_iff.1 hfd
  cases hmessage.symm.trans hmessage'
  intro h
  rw [UserLoginImpl.loginParameters, hparse] at h
  simp only [ok_bind, getItem, deref_some, hmessage, he, huser, hpass, hfd, hu, hp] at h
  obtain ⟨-, -, h⟩ := bind_eq_ok.1 h
  obtain ⟨-, -, h⟩ := bind_eq_ok.1 h
  obtain ⟨-, -, h⟩ := bind_eq_ok.1 h
  obtain ⟨-, -, h⟩ := bind_eq_ok.1 h
  obtain ⟨-, -, h⟩ := bind_eq_ok.1 h
  cases h

theorem logoutParameters_isSome (hparse : parse t = .ok (some c)) {u : Text}
    (hu : carried c (ascii "userName") = some u) : UserLoginImpl.logoutParameters t ≠ .ok none := by
  obtain ⟨message, user, hmessage, huser, hu⟩ := carried_eq_some.1 hu
  intro h
  rw [UserLoginImpl.logoutParameters, hparse] at h
  simp only [ok_bind, getItem, deref_some, hmessage, huser, hu] at h
  obtain ⟨-, -, h⟩ := bind_eq_ok.1 h
  obtain ⟨-, -, h⟩ := bind_eq_ok.1 h
  cases h

section

variable (hm : LiteralOn Plain m) (hs : conn.db.Sane) (hok : NoStatementFails m conn)
  (hparse : parse t = .ok (some c)) (hprint : print c = .ok text) (hplain : PlainNames c)

include hm hs hok hparse hprint hplain

theorem processRegist_returns_iff (h : Returns (UserLoginImpl.registParameters t)) :
    Returns (processRegist log m t conn).1 ↔ ∀ l ∈ registLines conn.db c text, log.Fits l := by
  obtain ⟨a, ha⟩ := h
  rw [registLines, List.forall_mem_append]
  refine ends_parameters (registParameters_cutShort log t) (registParameters_writes hparse hprint) ha ?_
  rintro conn' rfl
  rcases a with _ | ⟨u, p⟩
  · refine ends_pure (iff_of_true (returns_ok _) ?_)
    split
    · exact absurd ha (registParameters_isSome hparse ‹_› ‹_›)
    · exact fun l hl => absurd hl List.not_mem_nil
  obtain ⟨hu, hp⟩ := registParameters_eq_ok hparse ha
  have hPu : Plain u := hplain _ _ hu
  have hend := SingleTerminalLogin.Register.processRegist_asked (s := { connection := conn' }) (p := p)
    hm.reading hPu rfl []
  have hfail := hok (.regist u p) (by simp [Call.names, hPu, hplain _ _ hp])
  rw [loginManager_regist] at hfail
  rw [carried_eq_some.2 hu, carried_eq_some.2 hp]
  have hwrites := Register.processRegist_writes log (s := { connection := conn' }) (p := p)
    hm.reading hPu rfl hfail
  rw [Ends] at hend
  have hreply : ∃ a, (SingleTerminalLogin.Register.processRegist m u p [] { connection := conn' }).1 = .ok a ∧
      a.ret = 0 := by
    generalize SingleTerminalLogin.Register.processRegist m u p [] { connection := conn' } = r at hend hfail
    obtain ⟨r, s'⟩ := r
    cases hend with
    | unchecked h hf => exact absurd hfail hf.ne'
    | taken h hv hf => exact ⟨_, rfl, rfl⟩
    | entered h hv hi hf => exact ⟨_, rfl, rfl⟩
    | enterFailed h hv hi hf => exact absurd hfail hf.ne'
  obtain ⟨a, ha, hret⟩ := hreply
  rw [← and_true (∀ l ∈ Register.lines _ u, _)]
  refine ends_cutShort_bind (onCopy_cutShort (Register.processRegist_cutShort log m u p [])) ha hwrites ?_
  intro conn''
  rw [if_neg (not_not_intro hret)]
  exact ends_pure (iff_true_intro (returns_ok _))

theorem processLogin_returns_iff (h : Returns (UserLoginImpl.loginParameters t)) :
    Returns (processLogin log m t conn).1 ↔ ∀ l ∈ loginLines conn.db c text, log.Fits l := by
  obtain ⟨a, ha⟩ := h
  rw [loginLines, List.forall_mem_append]
  refine ends_parameters (loginParameters_cutShort log t) (loginParameters_writes hparse hprint) ha ?_
  rintro conn' rfl
  rcases a with _ | ⟨u, p, fd⟩
  · refine ends_pure (iff_of_true (returns_ok _) ?_)
    split
    · exact absurd ha (loginParameters_isSome hparse ‹_› ‹_› ‹_›)
    · exact fun l hl => absurd hl List.not_mem_nil
  obtain ⟨d, e, x, hd, hu, hp, he, -, hx, -⟩ := loginParameters_eq_ok ha
  cases Option.some.inj (Except.ok.inj (hd.symm.trans hparse))
  have hclientFd : ((getObjectItem c (ascii "extendInfo")).bind fun e => getObjectItem e (ascii "clientFd")) =
      some x := by
    rw [he, Option.bind_some, hx]
  have hPu : Plain u := hplain _ _ hu
  have hPp : Plain p := hplain _ _ hp
  have hnames : ∀ n ∈ (Call.login u p fd).names, Plain n := by simp [Call.names, hPu, hPp]
  have hend := SingleTerminalLogin.Loginer.processLogin_asked (s := { connection := conn' }) hm.reading hPu hPp rfl fd
  have hfail := hok (.login u p fd) hnames
  have hreturns : Returns (SingleTerminalLogin.Loginer.processLogin m u p fd { connection := conn' }).1 :=
    loginManager_returns hm hs hok (.login u p fd) hnames
  rw [loginManager_login] at hfail
  rw [carried_eq_some.2 hu, carried_eq_some.2 hp, hclientFd, List.forall_mem_append]
  have hwrites := Loginer.processLogin_writes log (s := { connection := conn' })
    hm.reading hPu hPp rfl (hs.single u) hreturns hfail
  rw [Ends] at hend
  have hreply : ∃ a, (SingleTerminalLogin.Loginer.processLogin m u p fd { connection := conn' }).1 = .ok a ∧
      (a.ret = 0 ↔ SingleTerminalLogin.Loginer.counted (conn'.db.passwordRows u p).length = true) := by
    generalize SingleTerminalLogin.Loginer.processLogin m u p fd { connection := conn' } = r at hend hfail hreturns
    obtain ⟨r, s'⟩ := r
    cases hend with
    | unchecked h hf => exact absurd hfail hf.ne'
    | firstFailed h hl hi hf => exact absurd hfail hf.ne'
    | unlocated h hl hs hf => exact absurd hfail hf.ne'
    | displaceFailed row h hs ha hw hf => exact absurd hfail hf.ne'
    | aborted h hl hs ha => exact absurd hreturns (not_returns_error _)
    | invalid h hv hf =>
      refine ⟨_, rfl, iff_of_false (by decide) fun htrue => ?_⟩
      exact Bool.false_ne_true (hv.symm.trans htrue)
    | first h hl hi hf => exact ⟨_, rfl, iff_of_true rfl h.valid⟩
    | displaced row h hs ha hend henter hf => exact ⟨_, rfl, iff_of_true rfl h.valid⟩
  obtain ⟨a, ha, hret⟩ := hreply
  refine ends_cutShort_bind (onCopy_cutShort (Loginer.processLogin_cutShort log m u p fd)) ha hwrites ?_
  intro conn''
  by_cases hvalid : a.ret = 0
  · rw [if_neg (not_not_intro hvalid), if_pos (hret.1 hvalid)]
    exact ends_pure (iff_of_true (returns_ok _) fun l hl => absurd hl List.not_mem_nil)
  · rw [if_pos hvalid, if_neg fun h => hvalid (hret.2 h), List.forall_mem_singleton]
    exact ends_print_pure _

theorem processLogout_returns_iff (h : Returns (UserLoginImpl.logoutParameters t)) :
    Returns (processLogout log m t conn).1 ↔ ∀ l ∈ logoutLines conn.db c text, log.Fits l := by
  obtain ⟨a, ha⟩ := h
  rw [logoutLines, List.forall_mem_append]
  refine ends_parameters (logoutParameters_cutShort log t) (logoutParameters_writes hparse hprint) ha ?_
  rintro conn' rfl
  cases a with
  | none =>
    refine ends_pure (iff_of_true (returns_ok _) ?_)
    split
    · exact absurd ha (logoutParameters_isSome hparse ‹_›)
    · exact fun l hl => absurd hl List.not_mem_nil
  | some u =>
    have hu := logoutParameters_eq_ok hparse ha
    have hPu : Plain u := hplain _ _ hu
    have hend := SingleTerminalLogin.Loginer.processLogout_asked (s := { connection := conn' }) hm.reading hPu rfl
    have hfail := hok (.logout u) (by simp [Call.names, hPu])
    rw [loginManager_logout] at hfail
    rw [carried_eq_some.2 hu]
    have hwrites := Loginer.processLogout_writes log (s := { connection := conn' })
      hm.reading hPu rfl hfail
    rw [Ends] at hend
    have hreply : ∃ a, (SingleTerminalLogin.Loginer.processLogout m u { connection := conn' }).1 = .ok a ∧
        a.ret = 0 := by
      generalize SingleTerminalLogin.Loginer.processLogout m u { connection := conn' } = r at hend hfail
      obtain ⟨r, s'⟩ := r
      cases hend with
      | unlocated h hf => exact absurd hfail hf.ne'
      | absent h ha hf => exact ⟨_, rfl, rfl⟩
      | ended row h hend hf => exact ⟨_, rfl, rfl⟩
      | endFailed row h hend hf => exact absurd hfail hf.ne'
    obtain ⟨a, ha, hret⟩ := hreply
    rw [← and_true (∀ l ∈ Loginer.logoutLines _ u, _)]
    refine ends_cutShort_bind (onCopy_cutShort (Loginer.processLogout_cutShort log m u)) ha hwrites ?_
    intro conn''
    rw [if_neg (not_not_intro hret)]
    exact ends_pure (iff_true_intro (returns_ok _))

end

end

end Logged

end SingleTerminalLogin
