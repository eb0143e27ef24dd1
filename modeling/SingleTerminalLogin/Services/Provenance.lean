import SingleTerminalLogin.CJson.Members
import SingleTerminalLogin.Services.UserLoginImpl

/-!
# Where the descriptors come from

Two descriptors travel inside messages that a client has written a part of: the
receiver puts `clientFd` into a request, and the login manager puts `logoutFd` into
a response.  Both are appended to what the client has sent, and both are looked up
by the first member of that name.

* `extendInfo_at_manager` — which `extendInfo` the login manager finds, for any
  object a client sends;
* `clientFd_provenance_iff` — the login is entered under the client's descriptor
  exactly when the client has not put another `clientFd` in front of it;
* `logoutFd_provenance_iff` — the receiver reads the login manager's `logoutFd`
  exactly when there is not another one in front of it.
-/

namespace SingleTerminalLogin

open ByteText Binary64 CProgram CJson MessageReceiver MessageDispatcher UserLoginImpl

/-- What holds of a default holds of an optional value or the default exactly when it
holds of the value, if there is one. -/
theorem getD_iff {α : Type} {o : Option α} {a : α} {P : α → Prop} (ha : P a) :
    P (o.getD a) ↔ ∀ x, o = some x → P x := by
  cases o with
  | none => simpa using ha
  | some x => simp

/-- Is the text one of an object? -/
def isObject (t : Text) : Bool :=
  match parse t with
  | .ok (some c) => c.type = .Object
  | _ => false

theorem exists_of_isObject {t : Text} (h : isObject t = true) :
    ∃ c, parse t = .ok (some c) ∧ c.type = .Object := by
  unfold isObject at h
  split at h
  · rename_i c hparse
    exact ⟨c, hparse, by simpa using h⟩
  · cases h

/-! ## The way of a request -/

/-- The `extendInfo` of an object the receiver has added its own to. -/
def firstExtendInfo (c : CJson) (sendToClientFd : Int) : CJson :=
  (getObjectItem c (ascii "extendInfo")).getD
    { extendInfo sendToClientFd with string := some (ascii "extendInfo") }

section

variable {c d : CJson} {t m₁ m₂ : Text} {f : Int}

theorem sound_extendInfo (f : Int) : Sound (extendInfo f) :=
  sound_createObject.addNumberToObject (noNul_of_notMem (by decide)) f

/-- What the receiver sends on. -/
theorem getNeedSendMessage_eq_ok (hparse : parse t = .ok (some c))
    (h : getNeedSendMessage t f = .ok m₁) :
    print (addItemToObject c (ascii "extendInfo") (extendInfo f) []) = .ok m₁ := by
  rw [getNeedSendMessage, hparse] at h
  exact h

/-- What the dispatcher sends on. -/
theorem getServiceFdAndMessage_eq_ok (h : getServiceFdAndMessage m₁ = .ok (0, m₂)) :
    ∃ c item, ∃ type : MessageType, parse m₁ = .ok (some c) ∧
      getObjectItem c (ascii "messageType") = some item ∧ wrap32 item.valueint = type.value ∧
      print (addNumberToObject c (ascii "operateType") type.value) = .ok m₂ := by
  obtain ⟨json, hparse, h⟩ := bind_eq_ok.1 h
  obtain ⟨item, hitem, h⟩ := bind_eq_ok.1 h
  cases json with
  | none => cases hitem
  | some c =>
    cases item with
    | none =>
      obtain ⟨-, -, h⟩ := bind_eq_ok.1 h
      cases h
    | some item =>
      obtain ⟨-, -, h⟩ := bind_eq_ok.1 h
      cases htype : MessageType.ofInt (wrap32 item.valueint) with
      | none =>
        simp only [htype] at h
        obtain ⟨-, -, h⟩ := bind_eq_ok.1 h
        cases h
      | some type =>
        simp only [htype, deref_some, ok_bind] at h
        obtain ⟨message, hmessage, h⟩ := bind_eq_ok.1 h
        cases h
        have hvalue := MessageType.ofInt_eq_some htype
        rw [hvalue] at hmessage
        rw [getItem, deref_some, ok_bind, Except.ok.injEq] at hitem
        exact ⟨c, item, type, hparse, hitem, hvalue, hmessage⟩

/-- Which `extendInfo` the login manager finds in a request: the first one, relayed by
two hops. -/
theorem extendInfo_at_manager (hparse : parse t = .ok (some c)) (hobj : c.type = .Object)
    (h₁ : getNeedSendMessage t f = .ok m₁) (h₂ : getServiceFdAndMessage m₁ = .ok (0, m₂))
    (hd : parse m₂ = .ok (some d)) :
    getObjectItem d (ascii "extendInfo") = some (relayTwice (firstExtendInfo c f)) := by
  obtain ⟨hsound, hname, -⟩ := parse_sound hparse
  have hstamped : Sound (addItemToObject c (ascii "extendInfo") (extendInfo f) []) :=
    hsound.addItem (sound_extendInfo f) (noNul_of_notMem (by decide))
  have hfound : getObjectItem (addItemToObject c (ascii "extendInfo") (extendInfo f) [])
      (ascii "extendInfo") = some (firstExtendInfo c f) :=
    getObjectItem_append (by decide) []
  obtain ⟨c₁, item, type, hparse₁, -, -, hprint⟩ := getServiceFdAndMessage_eq_ok h₂
  obtain ⟨rfl, -⟩ := eq_relay_of_parse hstamped hname hobj
    (getNeedSendMessage_eq_ok hparse h₁) hparse₁
  have hobj₁ : (relay (addItemToObject c (ascii "extendInfo") (extendInfo f) [])).type = .Object := by
    rw [relay_type]
    exact hobj
  have hfound₁ := getObjectItem_relay (show (addItemToObject c (ascii "extendInfo") (extendInfo f)
    []).type = .Object from hobj) (ascii "extendInfo")
  rw [hfound, Option.map_some] at hfound₁
  have hnul : NoNul (ascii "operateType") := noNul_of_notMem (by decide)
  obtain ⟨rfl, -⟩ := eq_relay_of_parse (hstamped.relay.addNumberToObject hnul type.value)
    (by rw [addNumberToObject]; exact (relay_string _).trans hname) hobj₁ hprint hd
  rw [getObjectItem_relay (show (addNumberToObject _ (ascii "operateType") type.value).type = .Object from hobj₁)]
  rw [addNumberToObject, getObjectItem_addItemToObject_some hfound₁, Option.map_some]

/-- Looking a member up commutes with two hops. -/
theorem getObjectItem_relayTwice (h : c.type = .Object) (name : Text) :
    getObjectItem (relayTwice c) name = (getObjectItem c name).map relayTwice := by
  rw [relayTwice, getObjectItem_relay (by rw [relay_type, h]), getObjectItem_relay h, Option.map_map]
  rfl

/-- The user name or the password a message carries. -/
def CarriesName (d : CJson) (name u : Text) : Prop :=
  ∃ message item, getObjectItem d (ascii "message") = some message ∧
    getObjectItem message name = some item ∧ item.valuestring = some u

/-- The parameters of a login are members of the message and of its `extendInfo`. -/
theorem loginParameters_eq_ok {u p : Text} {fd : Int}
    (h : loginParameters t = .ok (some (u, p, fd))) :
    ∃ d e x, parse t = .ok (some d) ∧ CarriesName d (ascii "userName") u ∧
      CarriesName d (ascii "passWord") p ∧ getObjectItem d (ascii "extendInfo") = some e ∧
      e.type = .Object ∧ getObjectItem e (ascii "clientFd") = some x ∧ fd = wrap32 x.valueint := by
  obtain ⟨json, hparse, h⟩ := bind_eq_ok.1 h
  obtain ⟨message, hmessage, h⟩ := bind_eq_ok.1 h
  obtain ⟨info, hinfo, h⟩ := bind_eq_ok.1 h
  obtain ⟨d, hd, hinfo⟩ := bind_eq_ok.1 hinfo
  cases json with
  | none => cases hd
  | some d =>
    cases hd
    cases hinfo
    rw [getItem, deref_some, ok_bind, Except.ok.injEq] at hmessage
    cases message with
    | none =>
      obtain ⟨-, -, h⟩ := bind_eq_ok.1 h
      cases h
    | some message =>
      cases he : getObjectItem d (ascii "extendInfo") with
      | none =>
        simp only [he] at h
        obtain ⟨-, -, h⟩ := bind_eq_ok.1 h
        cases h
      | some e =>
        simp only [he] at h
        obtain ⟨-, -, h⟩ := bind_eq_ok.1 h
        obtain ⟨_, hobj, h⟩ := bind_eq_ok.1 h
        split at h
        · rename_i user pass x hu hp hx
          obtain ⟨-, -, h⟩ := bind_eq_ok.1 h
          obtain ⟨-, -, h⟩ := bind_eq_ok.1 h
          obtain ⟨-, -, h⟩ := bind_eq_ok.1 h
          obtain ⟨userName, hname, h⟩ := bind_eq_ok.1 h
          obtain ⟨passWord, hword, h⟩ := bind_eq_ok.1 h
          cases h
          exact ⟨d, e, x, hparse, ⟨message, user, hmessage, hu, deref_eq_ok.1 hname⟩,
            ⟨message, pass, hmessage, hp, deref_eq_ok.1 hword⟩, he, assert_eq_ok.1 hobj, hx, rfl⟩
        · obtain ⟨-, -, h⟩ := bind_eq_ok.1 h
          cases h

end

/-! ## The descriptor of a login -/

/-- An `extendInfo` the client has sent itself carries no `clientFd`, or one that
arrives as the client's descriptor. -/
def OwnClientFdAgrees (c : CJson) (f : Int) : Prop :=
  ∀ e x, getObjectItem c (ascii "extendInfo") = some e →
    getObjectItem e (ascii "clientFd") = some x → wrap32 (relayTwice x).valueint = f

/-- The login is entered under the descriptor the client's request came in on exactly
when no `clientFd` of the client's own says otherwise. -/
theorem clientFd_provenance_iff (t m₁ m₂ : Text) (f : Int) (c : CJson) (u p : Text) (fd : Int)
    (hf : 0 ≤ f ∧ f < 2 ^ 31) (hparse : parse t = .ok (some c)) (hobj : c.type = .Object)
    (h₁ : getNeedSendMessage t f = .ok m₁) (h₂ : getServiceFdAndMessage m₁ = .ok (0, m₂))
    (h₃ : loginParameters m₂ = .ok (some (u, p, fd))) :
    fd = f ↔ OwnClientFdAgrees c f := by
  obtain ⟨d, e, x, hd, -, -, he, hty, hx, rfl⟩ := loginParameters_eq_ok h₃
  have hinfo := extendInfo_at_manager hparse hobj h₁ h₂ hd
  rw [he, Option.some.injEq] at hinfo
  subst hinfo
  have hty' : (firstExtendInfo c f).type = .Object := by simpa using hty
  rw [getObjectItem_relayTwice hty'] at hx
  obtain ⟨y, hy, rfl⟩ := Option.map_eq_some_iff.1 hx
  have hadded : ∀ x, getObjectItem { extendInfo f with string := some (ascii "extendInfo") }
      (ascii "clientFd") = some x → wrap32 (relayTwice x).valueint = f := by
    intro x hx
    cases hx
    exact wrap32_relayTwice (by omega) hf.2 _
  have hown := getD_iff (o := getObjectItem c (ascii "extendInfo"))
    (P := fun e => ∀ x, getObjectItem e (ascii "clientFd") = some x →
      wrap32 (relayTwice x).valueint = f) hadded
  rw [← firstExtendInfo, hy] at hown
  simp only [Option.some.injEq, forall_eq'] at hown
  rw [hown]
  exact ⟨fun h e x he hx => h e he x hx, fun h e he x hx => h e x he hx⟩

/-- A login request as the client program builds it. -/
def plainLogin : Text :=
  ascii "\x7b\"messageType\":2,\"message\":\x7b\"userName\":\"u\",\"passWord\":\"p\"\x7d\x7d"

/-- The same request from a client that names a descriptor itself. -/
def loginWithClientFd : Text :=
  ascii "\x7b\"messageType\":2,\"message\":\x7b\"userName\":\"u\",\"passWord\":\"p\"\x7d,\"extendInfo\":\x7b\"clientFd\":7\x7d\x7d"

theorem clientFd_provenance_iff_plain :
    ∃ c, parse plainLogin = .ok (some c) ∧ ((5 : Int) = 5 ↔ OwnClientFdAgrees c 5) := by
  obtain ⟨c, hparse, hobj⟩ := exists_of_isObject (t := plainLogin) (by decide)
  have h : (do
      let m₁ ← getNeedSendMessage plainLogin 5
      let r ← getServiceFdAndMessage m₁
      let parameters ← loginParameters r.2
      .ok (r.1, parameters)) = .ok (0, some (ascii "u", ascii "p", 5)) := by decide +kernel
  obtain ⟨m₁, h₁, h⟩ := bind_eq_ok.1 h
  obtain ⟨⟨ret, m₂⟩, h₂, h⟩ := bind_eq_ok.1 h
  obtain ⟨parameters, h₃, h⟩ := bind_eq_ok.1 h
  cases h
  exact ⟨c, hparse, clientFd_provenance_iff plainLogin m₁ m₂ 5 c _ _ 5 (by decide) hparse hobj h₁ h₂ h₃⟩

/-- The login manager enters the other one under the descriptor the client has named,
not under the one the request came in on. -/
theorem clientFd_spoofed :
    ∃ c m₁ m₂, parse loginWithClientFd = .ok (some c) ∧ c.type = .Object ∧
      getNeedSendMessage loginWithClientFd 5 = .ok m₁ ∧ getServiceFdAndMessage m₁ = .ok (0, m₂) ∧
      loginParameters m₂ = .ok (some (ascii "u", ascii "p", 7)) ∧ (7 : Int) ≠ 5 := by
  obtain ⟨c, hparse, hobj⟩ := exists_of_isObject (t := loginWithClientFd) (by decide)
  have h : (do
      let m₁ ← getNeedSendMessage loginWithClientFd 5
      let r ← getServiceFdAndMessage m₁
      let parameters ← loginParameters r.2
      .ok (r.1, parameters)) = .ok (0, some (ascii "u", ascii "p", 7)) := by decide +kernel
  obtain ⟨m₁, h₁, h⟩ := bind_eq_ok.1 h
  obtain ⟨⟨ret, m₂⟩, h₂, h⟩ := bind_eq_ok.1 h
  obtain ⟨parameters, h₃, h⟩ := bind_eq_ok.1 h
  cases h
  exact ⟨c, m₁, m₂, hparse, hobj, h₁, h₂, h₃, by decide⟩

/-! ## The descriptor of a notice -/

/-- The tree of a response. -/
def responseJson (logoutFd code : Int) (msg : Text) (extendInfoItem : CJson) (next : List CJson) :
    CJson :=
  addItemToObject (addStringToObject (addNumberToObject createObject (ascii "code") code)
    (ascii "msg") msg) (ascii "extendInfo")
    (addNumberToObject extendInfoItem (ascii "logoutFd") logoutFd) next

section

variable {c e : CJson} {t out msg : Text} {next : List CJson} {logoutFd code : Int}

/-- What the login manager sends back. -/
theorem getResponseMessage_eq_ok (h : getResponseMessage t logoutFd code msg = .ok (0, out)) :
    ∃ c e next, parse t = .ok (some c) ∧ itemFrom c (ascii "extendInfo") = e :: next ∧
      print (responseJson logoutFd code msg e next) = .ok out := by
  obtain ⟨json, hparse, h⟩ := bind_eq_ok.1 h
  obtain ⟨c, hc, h⟩ := bind_eq_ok.1 h
  cases json with
  | none => cases hc
  | some c =>
    cases hc
    cases hitem : itemFrom c (ascii "extendInfo") with
    | nil =>
      simp only [hitem] at h
      obtain ⟨-, -, h⟩ := bind_eq_ok.1 h
      cases h
    | cons e next =>
      simp only [hitem] at h
      obtain ⟨text, htext, h⟩ := bind_eq_ok.1 h
      cases h
      exact ⟨c, e, next, hparse, hitem, htext⟩

theorem sound_responseJson (he : Sound e) (hmsg : NoNul msg) (hnext : ∀ d ∈ next, Sound d)
    (hnames : ∀ d ∈ next, ∃ s, d.string = some s ∧ NoNul s) :
    Sound (responseJson logoutFd code msg e next) := by
  have hroot : Sound (addStringToObject (addNumberToObject createObject (ascii "code") code)
      (ascii "msg") msg) := by
    have hcode : Sound (addNumberToObject createObject (ascii "code") code) :=
      sound_createObject.addNumberToObject (noNul_of_notMem (by decide)) code
    exact hcode.addItem (.string msg rfl rfl hmsg) (noNul_of_notMem (by decide))
  exact hroot.addItemToObject (he.addNumberToObject (noNul_of_notMem (by decide)) logoutFd)
    (noNul_of_notMem (by decide)) hnext hnames

/-- What is found in a parsed text, and everything chained behind it, are members of
its root. -/
theorem itemFrom_parsed {name : Text} (hparse : parse t = .ok (some c))
    (hitem : itemFrom c name = e :: next) :
    getObjectItem c name = some e ∧ c.type = .Object ∧ ∀ d ∈ e :: next,
      Sound d ∧ ∃ s, d.string = some s ∧ NoNul s := by
  obtain ⟨hsound, -, hnames⟩ := parse_sound hparse
  obtain ⟨-, front, hchild, -⟩ := itemFrom_eq_cons hitem
  have hfound : getObjectItem c name = some e := by rw [getObjectItem, hitem]; rfl
  have hobj : c.type = .Object := object_of_getObjectItem hnames hfound
  refine ⟨hfound, hobj, fun d hd => ?_⟩
  have hmem : d ∈ c.child := by
    rw [hchild]
    exact List.mem_append_right front hd
  exact ⟨hsound.child (Or.inl hobj) d hmem, hsound.named hobj d hmem⟩

/-- The first `extendInfo` of a response is the one of the request, with `logoutFd`
added. -/
theorem getObjectItem_responseJson :
    getObjectItem (responseJson logoutFd code msg e next) (ascii "extendInfo") =
      some { addNumberToObject e (ascii "logoutFd") logoutFd with
        string := some (ascii "extendInfo") } :=
  getObjectItem_addItemToObject (by decide) rfl next

/-- The members of a response the receiver reads. -/
theorem responseMembers_eq_ok {x : Text} {fd : Int}
    (h : responseMembers out = .ok (some (x, fd))) :
    ∃ d e y, parse out = .ok (some d) ∧ getObjectItem d (ascii "extendInfo") = some e ∧
      e.type = .Object ∧ getObjectItem e (ascii "logoutFd") = some y ∧ fd = wrap32 y.valueint := by
  obtain ⟨d, hparse, ⟨hnone, -⟩ | ⟨m, e, y, msg, -, he, hobj, hy, -, hr⟩⟩ := responseMembers_cases h
  · cases hnone
  · cases hr
    exact ⟨d, e, y, hparse, he, hobj, hy, rfl⟩

end

/-- The `extendInfo` of a request carries no `logoutFd`, or one that arrives as the one
of the login manager. -/
def OwnLogoutFdAgrees (c : CJson) (logoutFd : Int) : Prop :=
  ∀ e x, getObjectItem c (ascii "extendInfo") = some e →
    getObjectItem e (ascii "logoutFd") = some x → wrap32 (relay x).valueint = logoutFd

/-- The receiver reads the `logoutFd` the login manager has passed in, and sends a
notice to no other descriptor, exactly when no `logoutFd` of the request says
otherwise. -/
theorem logoutFd_provenance_iff (t out msg x : Text) (logoutFd code fd : Int) (c : CJson)
    (hlogoutFd : -2 ^ 31 ≤ logoutFd ∧ logoutFd < 2 ^ 31) (hmsg : NoNul msg)
    (hparse : parse t = .ok (some c)) (h₁ : getResponseMessage t logoutFd code msg = .ok (0, out))
    (h₂ : responseMembers out = .ok (some (x, fd))) :
    (fd = logoutFd ∧ ∀ write sendToClientFd s d,
        dealServiceResponse write sendToClientFd out = .ok s → s.notice = some d → d = logoutFd) ↔
      OwnLogoutFdAgrees c logoutFd := by
  obtain ⟨c', e, next, hparse', hitem, hprint⟩ := getResponseMessage_eq_ok h₁
  rw [hparse] at hparse'
  cases hparse'
  obtain ⟨hfound, -, hchain⟩ := itemFrom_parsed hparse hitem
  have hresponse : Sound (responseJson logoutFd code msg e next) := by
    apply sound_responseJson _ hmsg
    · exact fun d hd => (hchain d (List.mem_cons_of_mem e hd)).1
    · exact fun d hd => (hchain d (List.mem_cons_of_mem e hd)).2
    · exact (hchain e List.mem_cons_self).1
  obtain ⟨d, e', y, hd, he', hty, hy, rfl⟩ := responseMembers_eq_ok h₂
  obtain ⟨rfl, -⟩ := eq_relay_of_parse hresponse rfl rfl hprint hd
  rw [getObjectItem_relay rfl, getObjectItem_responseJson, Option.map_some, Option.some.injEq] at he'
  subst he'
  rw [relay_type] at hty
  rw [getObjectItem_relay hty] at hy
  obtain ⟨z, hz, rfl⟩ := Option.map_eq_some_iff.1 hy
  have hnotice : ∀ write sendToClientFd s d,
      dealServiceResponse write sendToClientFd out = .ok s → s.notice = some d →
        d = wrap32 (relay z).valueint := by
    intro write sendToClientFd s d hs hd
    obtain ⟨msg', hmsg'⟩ := dealServiceResponse_notice hs hd
    rw [h₂] at hmsg'
    cases hmsg'
    rfl
  have hadded : wrap32 (relay { createNumber (ofInt logoutFd) with
      string := some (ascii "logoutFd") }).valueint = logoutFd :=
    wrap32_relay hlogoutFd.1 hlogoutFd.2 _
  have hz' : getObjectItem (addNumberToObject e (ascii "logoutFd") logoutFd) (ascii "logoutFd") =
      some z := hz
  rw [addNumberToObject, getObjectItem_append (by decide), Option.some.injEq] at hz'
  have hagrees : wrap32 (relay z).valueint = logoutFd ↔ OwnLogoutFdAgrees c logoutFd := by
    subst hz'
    rw [getD_iff (P := fun x => wrap32 (relay x).valueint = logoutFd) hadded]
    refine ⟨fun h e' x he' hx => ?_, fun h x hx => h e x hfound hx⟩
    rw [hfound, Option.some.injEq] at he'
    subst he'
    exact h x hx
  refine ⟨fun h => hagrees.1 h.1, fun h => ⟨hagrees.2 h, ?_⟩⟩
  intro write sendToClientFd s d hs hd
  exact (hnotice write sendToClientFd s d hs hd).trans (hagrees.2 h)

/-- A logout request from a client that names a descriptor itself. -/
def logoutWithLogoutFd : Text :=
  ascii "\x7b\"messageType\":3,\"message\":\x7b\"userName\":\"u\"\x7d,\"extendInfo\":\x7b\"logoutFd\":7\x7d\x7d"

theorem logoutFd_provenance_iff_plain :
    ∃ m₁ m₂ out c, getNeedSendMessage plainLogin 5 = .ok m₁ ∧
      getServiceFdAndMessage m₁ = .ok (0, m₂) ∧
      getResponseMessage m₂ 4 0 (ascii "login success!") = .ok (0, out) ∧
      (((4 : Int) = 4 ∧ ∀ write sendToClientFd s d,
        dealServiceResponse write sendToClientFd out = .ok s → s.notice = some d → d = 4) ↔
      OwnLogoutFdAgrees c 4) := by
  have h : (do
      let m₁ ← getNeedSendMessage plainLogin 5
      let r ← getServiceFdAndMessage m₁
      let r' ← getResponseMessage r.2 4 0 (ascii "login success!")
      let members ← responseMembers r'.2
      .ok ((r.1, r'.1, isObject r.2), members)) =
        .ok ((0, 0, true), some (ascii "login success!", 4)) := by decide +kernel
  obtain ⟨m₁, h₁, h⟩ := bind_eq_ok.1 h
  obtain ⟨⟨ret, m₂⟩, h₂, h⟩ := bind_eq_ok.1 h
  obtain ⟨⟨ret', out⟩, h₃, h⟩ := bind_eq_ok.1 h
  obtain ⟨members, h₄, h⟩ := bind_eq_ok.1 h
  simp only [Except.ok.injEq, Prod.mk.injEq] at h
  obtain ⟨⟨rfl, rfl, hobj⟩, rfl⟩ := h
  obtain ⟨c, hparse, -⟩ := exists_of_isObject hobj
  exact ⟨m₁, m₂, out, c, h₁, h₂, h₃, logoutFd_provenance_iff m₂ out _ _ 4 0 4 c (by decide)
    (noNul_of_notMem (by decide)) hparse h₃ h₄⟩

/-- The receiver reads the descriptor the client has named out of the response, not the
one the login manager has passed in, and writes the notice to it. -/
theorem logoutFd_spoofed :
    ∃ m₁ m₂ out, getNeedSendMessage logoutWithLogoutFd 5 = .ok m₁ ∧
      getServiceFdAndMessage m₁ = .ok (0, m₂) ∧
      getResponseMessage m₂ (-1) 0 (ascii "logout success!") = .ok (0, out) ∧
      responseMembers out = .ok (some (ascii "logout success!", 7)) ∧ (7 : Int) ≠ -1 ∧
      ∀ write, write 0 7 = .done →
        ∃ s, dealServiceResponse write 5 out = .ok s ∧ s.notice = some 7 := by
  have h : (do
      let m₁ ← getNeedSendMessage logoutWithLogoutFd 5
      let r ← getServiceFdAndMessage m₁
      let r' ← getResponseMessage r.2 (-1) 0 (ascii "logout success!")
      let members ← responseMembers r'.2
      .ok ((r.1, r'.1), members)) = .ok ((0, 0), some (ascii "logout success!", 7)) := by
    decide +kernel
  obtain ⟨m₁, h₁, h⟩ := bind_eq_ok.1 h
  obtain ⟨⟨ret, m₂⟩, h₂, h⟩ := bind_eq_ok.1 h
  obtain ⟨⟨ret', out⟩, h₃, h⟩ := bind_eq_ok.1 h
  obtain ⟨members, h₄, h⟩ := bind_eq_ok.1 h
  simp only [Except.ok.injEq, Prod.mk.injEq] at h
  obtain ⟨⟨rfl, rfl⟩, rfl⟩ := h
  refine ⟨m₁, m₂, out, h₁, h₂, h₃, h₄, by decide, fun write hw => ?_⟩
  refine ⟨sendResponse write 5 (ascii "logout success!") 7, ?_, ?_⟩
  · rw [dealServiceResponse, h₄]
    rfl
  · rw [sendResponse, if_pos (by decide), if_pos hw]
    split <;> rfl

end SingleTerminalLogin
