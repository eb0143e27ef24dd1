import SingleTerminalLogin.LoginManager.Injection
import SingleTerminalLogin.LoginManager.Refinement
import SingleTerminalLogin.Services.Provenance

/-!
# Which messages the services survive

Every function that handles a message is called with whatever one read returned.
`Accepted` lists what a text has to be for all of them to run to a return value: a
tree they can print again, whose members have the types that are asserted
somewhere.  The log calls on their way are left out here.

* `getNeedSendMessage_returns_iff` and its like — what every function asks of a message;
* `loginManager_returns` — with names that are taken as values every operation returns;
* `Accepted` — all of it together.
-/

namespace SingleTerminalLogin

open ByteText Binary64 CProgram CJson Proc SqlApi SqlLex MessageReceiver MessageDispatcher UserLoginImpl

/-- The value of an `int`. -/
def FitsInt (n : Int) : Prop := -2 ^ 31 ≤ n ∧ n < 2 ^ 31

/-- A member of that name, if there is one, has that type. -/
def ItemIs (c : CJson) (name : Text) (type : CJsonType) : Prop :=
  ∀ d, getObjectItem c name = some d → d.type = type

theorem itemIs_of_none {c : CJson} {name : Text} {type : CJsonType}
    (h : getObjectItem c name = none) : ItemIs c name type := by
  intro d hd
  rw [h] at hd
  cases hd

theorem itemIs_iff_of_some {c item : CJson} {name : Text} {type : CJsonType}
    (h : getObjectItem c name = some item) : ItemIs c name type ↔ item.type = type := by
  rw [ItemIs, h]
  simp only [Option.some.injEq, forall_eq']

/-! ## Printing -/

section

variable {c d e : CJson} {t : Text} {f : Int}

theorem fitsInt_wrap32 (n : Int) : FitsInt (wrap32 n) := by
  unfold FitsInt wrap32
  have h1 := Int.le_bmod (x := n) (m := 2 ^ 32) (by decide)
  have h2 := Int.bmod_lt (x := n) (m := 2 ^ 32) (by decide)
  norm_num at h1 h2 ⊢
  omega

theorem printable_number {n : Int} (h : FitsInt n) : printable (createNumber (ofInt n)) = true :=
  (settled_number h.1 h.2 none).printable

/-- An `int` can be added to every tree. -/
theorem printable_addNumberToObject {n : Int} (h : FitsInt n) (name : Text) :
    printable (addNumberToObject c name n) = printable c :=
  printable_addItem (printable_number h)

theorem printable_extendInfo (h : FitsInt f) : printable (extendInfo f) = true :=
  printable_addNumberToObject h _

theorem logJson_returns (h : printable c = true) : logJson (some c) = .ok () := by
  obtain ⟨text, htext⟩ := (print_returns_iff c).2 h
  rw [logJson, deref_some, ok_bind, htext]
  rfl

/-! ## The receiver and the dispatcher -/

/-- The receiver survives a text exactly when it is JSON that can be printed again. -/
theorem getNeedSendMessage_returns_iff (hf : FitsInt f) :
    Returns (getNeedSendMessage t f) ↔ ∃ c, parse t = .ok (some c) ∧ printable c = true := by
  rw [getNeedSendMessage, returns_bind_iff]
  have hprint : ∀ c : CJson, Returns (print (addItemToObject c (ascii "extendInfo") (extendInfo f) []))
      ↔ printable c = true := by
    intro c
    rw [print_returns_iff, printable_addItem (printable_extendInfo hf)]
  constructor
  · rintro ⟨r, hparse, h⟩
    cases r with
    | none => exact absurd h (not_returns_error _)
    | some c => exact ⟨c, hparse, (hprint c).1 h⟩
  · rintro ⟨c, hparse, hc⟩
    exact ⟨some c, hparse, (hprint c).2 hc⟩

theorem sound_item (hparse : parse t = .ok (some c)) {name : Text}
    (h : getObjectItem c name = some d) : Sound d := by
  obtain ⟨hsound, -, hnames⟩ := parse_sound hparse
  exact hsound.child (Or.inl (object_of_getObjectItem hnames h)) d (getObjectItem_mem h)

/-- The text of a string of `message` can be used. -/
theorem deref_valuestring {message item : CJson} {k : Text} (hparse : parse t = .ok (some c))
    (hmessage : getObjectItem c (ascii "message") = some message) (hobj : message.type = .Object)
    (hitem : getObjectItem message k = some item) (hstring : item.type = .String) :
    ∃ v, deref item.valuestring = .ok v := by
  have hsound := (sound_item hparse hmessage).child (Or.inl hobj)
  obtain ⟨v, hv, -⟩ := (hsound item (getObjectItem_mem hitem)).valuestring hstring
  exact ⟨v, by rw [hv, deref_some]⟩

variable (hparse : parse t = .ok (some c)) (hp : printable c = true)

include hparse hp

theorem getServiceFdAndMessage_returns_iff :
    Returns (getServiceFdAndMessage t) ↔ ItemIs c (ascii "messageType") .Number := by
  rw [getServiceFdAndMessage, hparse]
  simp only [ok_bind, getItem, deref_some]
  cases hitem : getObjectItem c (ascii "messageType") with
  | none =>
    simp only [logJson_returns hp, ok_bind, returns_ok, true_iff]
    exact itemIs_of_none hitem
  | some item =>
    simp only [returns_bind_iff, assert_eq_ok]
    rw [itemIs_iff_of_some hitem]
    constructor
    · rintro ⟨-, hty, -⟩
      exact hty
    · intro hty
      refine ⟨(), hty, ?_⟩
      cases MessageType.ofInt (wrap32 item.valueint) with
      | none =>
        show Returns (logJson (some c) >>= fun _ => _)
        rw [logJson_returns hp]
        exact returns_ok _
      | some type =>
        have hprint := (print_returns_iff (addNumberToObject c (ascii "operateType")
          (wrap32 item.valueint))).2 ((printable_addNumberToObject (fitsInt_wrap32 _) _).trans hp)
        obtain ⟨message, hmessage⟩ := hprint
        refine ⟨(0, message), ?_⟩
        simp only [dealLogin, hmessage, ok_bind]

theorem getOperateType_returns_iff :
    Returns (getOperateType t) ↔ ItemIs c (ascii "operateType") .Number := by
  rw [getOperateType, hparse]
  simp only [ok_bind, getItem, deref_some]
  cases hitem : getObjectItem c (ascii "operateType") with
  | none =>
    simp only [logJson_returns hp, ok_bind, returns_ok, true_iff]
    exact itemIs_of_none hitem
  | some item =>
    simp only [returns_bind_iff, assert_eq_ok, returns_ok, and_true, exists_const]
    exact (itemIs_iff_of_some hitem).symm

/-! ## The parameters -/

/-- The names in the `message` of a request are strings. -/
structure Named (message : CJson) : Prop where
  object : message.type = .Object
  userName : ItemIs message (ascii "userName") .String
  /-- The password is looked at only where there is a user name. -/
  passWord : ∀ d, getObjectItem message (ascii "userName") = some d →
    ItemIs message (ascii "passWord") .String

theorem logoutParameters_returns_iff :
    Returns (logoutParameters t) ↔ ∀ message, getObjectItem c (ascii "message") = some message →
      message.type = .Object ∧ ItemIs message (ascii "userName") .String := by
  rw [logoutParameters, hparse]
  simp only [ok_bind, getItem, deref_some]
  cases hitem : getObjectItem c (ascii "message") with
  | none =>
    simp only [logJson_returns hp, ok_bind, returns_ok, true_iff]
    intro message h
    cases h
  | some message =>
    simp only [returns_bind_iff, assert_eq_ok, Option.some.injEq, forall_eq', exists_const]
    apply and_congr_right
    intro hobj
    cases huser : getObjectItem message (ascii "userName") with
    | none =>
      simp only [logJson_returns hp, ok_bind, returns_ok, true_iff]
      exact itemIs_of_none huser
    | some user =>
      simp only [returns_bind_iff, assert_eq_ok, exists_const]
      rw [itemIs_iff_of_some huser]
      constructor
      · rintro ⟨hty, -⟩
        exact hty
      · intro hty
        obtain ⟨name, hname⟩ := deref_valuestring hparse hitem hobj huser hty
        exact ⟨hty, name, hname, returns_ok _⟩

theorem registParameters_returns_iff :
    Returns (registParameters t) ↔ ∀ message, getObjectItem c (ascii "message") = some message →
      message.type = .Object ∧ ∀ user pass, getObjectItem message (ascii "userName") = some user →
        getObjectItem message (ascii "passWord") = some pass →
          user.type = .String ∧ pass.type = .String := by
  rw [registParameters, hparse]
  simp only [ok_bind, getItem, deref_some]
  cases hitem : getObjectItem c (ascii "message") with
  | none =>
    simp only [logJson_returns hp, ok_bind, returns_ok, true_iff]
    intro message h
    cases h
  | some message =>
    simp only [returns_bind_iff, assert_eq_ok, Option.some.injEq, forall_eq', exists_const]
    apply and_congr_right
    intro hobj
    cases huser : getObjectItem message (ascii "userName") with
    | none =>
      simp only [logJson_returns hp, ok_bind, returns_ok, true_iff]
      intro user pass h
      cases h
    | some user =>
      cases hpass : getObjectItem message (ascii "passWord") with
      | none =>
        simp only [logJson_returns hp, ok_bind, returns_ok, true_iff]
        intro user pass _ h
        cases h
      | some pass =>
        simp only [returns_bind_iff, assert_eq_ok, exists_const, Option.some.injEq, forall_eq',
          forall_apply_eq_imp_iff]
        constructor
        · rintro ⟨hu, hpw, -⟩
          exact ⟨hu, hpw⟩
        · rintro ⟨hu, hpw⟩
          obtain ⟨name, hname⟩ := deref_valuestring hparse hitem hobj huser hu
          obtain ⟨word, hword⟩ := deref_valuestring hparse hitem hobj hpass hpw
          exact ⟨hu, hpw, name, hname, word, hword, returns_ok _⟩

theorem loginParameters_returns_iff :
    Returns (loginParameters t) ↔ ∀ message e, getObjectItem c (ascii "message") = some message →
      getObjectItem c (ascii "extendInfo") = some e → message.type = .Object ∧ e.type = .Object ∧
        ∀ user pass fd, getObjectItem message (ascii "userName") = some user →
          getObjectItem message (ascii "passWord") = some pass →
            getObjectItem e (ascii "clientFd") = some fd →
              user.type = .String ∧ pass.type = .String ∧ fd.type = .Number := by
  rw [loginParameters, hparse]
  simp only [ok_bind, getItem, deref_some]
  cases hitem : getObjectItem c (ascii "message") with
  | none =>
    simp only [logJson_returns hp, ok_bind, returns_ok, true_iff]
    intro message e h
    cases h
  | some message =>
    cases hinfo : getObjectItem c (ascii "extendInfo") with
    | none =>
      simp only [logJson_returns hp, ok_bind, returns_ok, true_iff]
      intro message e _ h
      cases h
    | some e =>
      simp only [returns_bind_iff, assert_eq_ok, Option.some.injEq, forall_eq', exists_const,
        forall_apply_eq_imp_iff]
      apply and_congr_right
      intro hobj
      apply and_congr_right
      intro _
      cases huser : getObjectItem message (ascii "userName") with
      | none =>
        simp only [logJson_returns hp, ok_bind, returns_ok, true_iff]
        intro user pass fd h
        cases h
      | some user =>
        cases hpass : getObjectItem message (ascii "passWord") with
        | none =>
          simp only [logJson_returns hp, ok_bind, returns_ok, true_iff]
          intro user pass fd _ h
          cases h
        | some pass =>
          cases hfd : getObjectItem e (ascii "clientFd") with
          | none =>
            simp only [logJson_returns hp, ok_bind, returns_ok, true_iff]
            intro user pass fd _ _ h
            cases h
          | some fd =>
            simp only [returns_bind_iff, assert_eq_ok, exists_const]
            constructor
            · rintro ⟨hu, hpw, hn, -⟩ user' pass' fd' h h' h''
              cases h
              cases h'
              cases h''
              exact ⟨hu, hpw, hn⟩
            · intro h
              obtain ⟨hu, hpw, hn⟩ := h user pass fd rfl rfl rfl
              obtain ⟨name, hname⟩ := deref_valuestring hparse hitem hobj huser hu
              obtain ⟨word, hword⟩ := deref_valuestring hparse hitem hobj hpass hpw
              exact ⟨hu, hpw, hn, name, hname, word, hword, returns_ok _⟩

end

/-! ## The response -/

section

variable {c e : CJson} {t out msg : Text} {next : List CJson} {logoutFd code : Int}

variable (msg) in
theorem printable_responseJson (hlogoutFd : FitsInt logoutFd) (hcode : FitsInt code)
    (he : ∀ d ∈ e :: next, printable d = true) :
    printable (responseJson logoutFd code msg e next) = true := by
  have hinfo : printable (addNumberToObject e (ascii "logoutFd") logoutFd) = true :=
    (printable_addNumberToObject hlogoutFd _).trans (he e List.mem_cons_self)
  rw [responseJson, printable_addItemToObject_of hinfo fun d hd => he d (List.mem_cons_of_mem e hd)]
  rw [addStringToObject, printable_addItem rfl]
  exact printable_addNumberToObject hcode _

theorem allFinite_number {n : Int} (h : FitsInt n) : allFinite (createNumber (ofInt n)) = true :=
  (settled_number h.1 h.2 none).finite

variable (msg e next) in
theorem allFinite_responseJson (hlogoutFd : FitsInt logoutFd) (hcode : FitsInt code) :
    allFinite (responseJson logoutFd code msg e next) = (e :: next).all allFinite := by
  have hroot : allFinite (addStringToObject (addNumberToObject createObject (ascii "code") code)
      (ascii "msg") msg) = true := by
    rw [addStringToObject, allFinite_addItem rfl]
    exact allFinite_addItem (allFinite_number hcode)
  rw [allFinite_child (Or.inr rfl)] at hroot
  rw [responseJson, allFinite_addItemToObject (Or.inl rfl), hroot, allFinite_rename,
    addNumberToObject, allFinite_addItem (allFinite_number hlogoutFd)]
  rfl

theorem getResponseMessage_returns (hparse : parse t = .ok (some c)) (hp : printable c = true)
    (hlogoutFd : FitsInt logoutFd) (hcode : FitsInt code) :
    Returns (getResponseMessage t logoutFd code msg) := by
  rw [getResponseMessage, hparse]
  simp only [ok_bind, deref_some]
  cases hitem : itemFrom c (ascii "extendInfo") with
  | nil =>
    rw [logJson_returns hp]
    exact returns_ok _
  | cons e next =>
    obtain ⟨-, hobj, -⟩ := itemFrom_parsed hparse hitem
    obtain ⟨-, front, hchild, -⟩ := itemFrom_eq_cons hitem
    have hprint : ∀ d ∈ e :: next, printable d = true := by
      rw [printable_child (Or.inr hobj), List.all_eq_true] at hp
      intro d hd
      apply hp d
      rw [hchild]
      exact List.mem_append_right front hd
    obtain ⟨text, htext⟩ := (print_returns_iff _).2
      (printable_responseJson msg hlogoutFd hcode hprint)
    rw [responseJson] at htext
    simp only [htext, ok_bind, returns_ok]

theorem dealServiceResponse_returns_iff {write : Nat → Int → WriteOutcome} {sendToClientFd : Int} :
    Returns (dealServiceResponse write sendToClientFd out) ↔ Returns (responseMembers out) := by
  rw [dealServiceResponse, returns_bind_iff]
  constructor
  · rintro ⟨r, hr, -⟩
    exact ⟨r, hr⟩
  · rintro ⟨r, hr⟩
    refine ⟨r, hr, ?_⟩
    cases r with
    | none => exact returns_ok _
    | some p => exact returns_ok _

/-! ### Its members, on the other side -/

theorem getObjectItem_relay_msg : getObjectItem (relay (responseJson logoutFd code msg e next)) (ascii "msg") =
    some { createString msg with string := some (ascii "msg") } := by
  rw [getObjectItem_relay rfl]
  rfl

theorem getObjectItem_relay_extendInfo :
    getObjectItem (relay (responseJson logoutFd code msg e next)) (ascii "extendInfo") =
      some (relay { addNumberToObject e (ascii "logoutFd") logoutFd with
        string := some (ascii "extendInfo") }) := by
  rw [getObjectItem_relay rfl, getObjectItem_responseJson, Option.map_some]

theorem getObjectItem_relay_logoutFd (hobj : e.type = .Object) :
    getObjectItem (relay { addNumberToObject e (ascii "logoutFd") logoutFd with
        string := some (ascii "extendInfo") }) (ascii "logoutFd") =
      some (relay ((getObjectItem e (ascii "logoutFd")).getD
        { createNumber (ofInt logoutFd) with string := some (ascii "logoutFd") })) := by
  rw [getObjectItem_relay (by exact hobj)]
  have happend := @getObjectItem_append e (createNumber (ofInt logoutFd)) (ascii "logoutFd") (by decide) []
  exact congrArg (Option.map relay) happend

/-- What the receiver relies on in the `extendInfo` of a request and in everything
behind it. -/
structure Relayable (e : CJson) (next : List CJson) : Prop where
  object : e.type = .Object
  logoutFd : ItemIs e (ascii "logoutFd") .Number
  finite : (e :: next).all allFinite = true

/-- The receiver survives a response exactly when the response arrives and its
`extendInfo` is of the kind it asserts. -/
theorem responseMembers_returns_iff (hlogoutFd : FitsInt logoutFd) (hcode : FitsInt code)
    (hsound : Sound (responseJson logoutFd code msg e next))
    (hprint : print (responseJson logoutFd code msg e next) = .ok out) :
    Returns (responseMembers out) ↔ Relayable e next := by
  have hfin := allFinite_responseJson e msg next hlogoutFd hcode
  cases hf : (e :: next).all allFinite with
  | false =>
    rw [hf] at hfin
    rw [responseMembers, parse_print_special hsound rfl hprint hfin]
    simp only [ok_bind, getItem, deref_none, error_bind, not_returns_error, false_iff]
    intro h
    rw [h.finite] at hf
    cases hf
  | true =>
    rw [hf] at hfin
    rw [responseMembers, parse_print hsound rfl hprint hfin]
    simp only [ok_bind, getItem, deref_some, getObjectItem_relay_msg, getObjectItem_relay_extendInfo]
    have hnumber := getD_iff (o := getObjectItem e (ascii "logoutFd"))
      (a := { createNumber (ofInt logoutFd) with string := some (ascii "logoutFd") })
      (P := fun d => d.type = .Number) rfl
    simp only [returns_bind_iff, assert_eq_ok, exists_const, relay_type]
    constructor
    · rintro ⟨-, hobj, h⟩
      rw [@getObjectItem_relay_logoutFd e logoutFd hobj] at h
      simp only [returns_bind_iff, assert_eq_ok, exists_const, relay_type] at h
      exact ⟨hobj, hnumber.1 h.1, hf⟩
    · rintro ⟨hobj, hitem, -⟩
      refine ⟨rfl, hobj, ?_⟩
      rw [@getObjectItem_relay_logoutFd e logoutFd hobj]
      simp only [returns_bind_iff, assert_eq_ok, exists_const, relay_type]
      exact ⟨hnumber.2 hitem, msg, rfl, returns_ok _⟩

end

/-! ## The operations -/

/-- The names a message carries are plain. -/
def PlainNames (c : CJson) : Prop :=
  ∀ name u, CarriesName c name u → Plain u

/-- No statement of the next operation fails. -/
def NoStatementFails (m : Mysql) (conn : Connection) : Prop :=
  ∀ call : Call, (∀ n ∈ call.names, Plain n) →
    (loginManager m call conn).2.failures = conn.failures

section

variable {m : Mysql} {conn : Connection} {c : CJson} {t : Text}

theorem logoutParameters_eq_ok {u : Text} (hparse : parse t = .ok (some c))
    (h : logoutParameters t = .ok (some u)) : CarriesName c (ascii "userName") u := by
  rw [logoutParameters, hparse] at h
  simp only [ok_bind, getItem, deref_some] at h
  cases hitem : getObjectItem c (ascii "message") with
  | none =>
    simp only [hitem] at h
    obtain ⟨-, -, h⟩ := bind_eq_ok.1 h
    cases h
  | some message =>
    simp only [hitem] at h
    obtain ⟨-, -, h⟩ := bind_eq_ok.1 h
    cases huser : getObjectItem message (ascii "userName") with
    | none =>
      simp only [huser] at h
      obtain ⟨-, -, h⟩ := bind_eq_ok.1 h
      cases h
    | some user =>
      simp only [huser] at h
      obtain ⟨-, -, h⟩ := bind_eq_ok.1 h
      obtain ⟨name, hname, h⟩ := bind_eq_ok.1 h
      cases h
      exact ⟨message, user, hitem, huser, deref_eq_ok.1 hname⟩

theorem registParameters_eq_ok {u p : Text} (hparse : parse t = .ok (some c))
    (h : registParameters t = .ok (some (u, p))) :
    CarriesName c (ascii "userName") u ∧ CarriesName c (ascii "passWord") p := by
  rw [registParameters, hparse] at h
  simp only [ok_bind, getItem, deref_some] at h
  cases hitem : getObjectItem c (ascii "message") with
  | none =>
    simp only [hitem] at h
    obtain ⟨-, -, h⟩ := bind_eq_ok.1 h
    cases h
  | some message =>
    simp only [hitem] at h
    obtain ⟨-, -, h⟩ := bind_eq_ok.1 h
    split at h
    · rename_i user pass huser hpass
      obtain ⟨-, -, h⟩ := bind_eq_ok.1 h
      obtain ⟨-, -, h⟩ := bind_eq_ok.1 h
      obtain ⟨name, hname, h⟩ := bind_eq_ok.1 h
      obtain ⟨word, hword, h⟩ := bind_eq_ok.1 h
      cases h
      exact ⟨⟨message, user, hitem, huser, deref_eq_ok.1 hname⟩,
        ⟨message, pass, hitem, hpass, deref_eq_ok.1 hword⟩⟩
    · obtain ⟨-, -, h⟩ := bind_eq_ok.1 h
      cases h

/-- With a server that takes plain names as values, sane tables and no failing
statement, every operation on plain names returns. -/
theorem loginManager_returns (hm : LiteralOn Plain m) (hs : conn.db.Sane)
    (hok : NoStatementFails m conn) (call : Call) (hP : ∀ n ∈ call.names, Plain n) :
    (loginManager m call conn).1.Returned :=
  (loginManager_outcome hm hP hs.ids).returned hs (hok call hP)

end

/-! ## What a message has to be -/

/-- The messages the services survive. -/
structure Accepted (c : CJson) : Prop where
  /-- No number in it is too long for the buffer it is printed to. -/
  printable : printable c = true
  messageType : ItemIs c (ascii "messageType") .Number
  operateType : ItemIs c (ascii "operateType") .Number
  message : ∀ message, getObjectItem c (ascii "message") = some message → Named message
  /-- The descriptor is looked at only in a message with both names. -/
  clientFd : ∀ message e, getObjectItem c (ascii "message") = some message →
    getObjectItem c (ascii "extendInfo") = some e →
    (getObjectItem message (ascii "userName")).isSome →
    (getObjectItem message (ascii "passWord")).isSome → ItemIs e (ascii "clientFd") .Number
  /-- What a response takes over from the request. -/
  extendInfo : ∀ e next, itemFrom c (ascii "extendInfo") = e :: next → Relayable e next

section

variable {c : CJson} {t : Text}

theorem Accepted.logoutParameters (h : Accepted c) (hparse : parse t = .ok (some c)) :
    Returns (logoutParameters t) := by
  refine (logoutParameters_returns_iff hparse h.printable).2 fun message hitem => ?_
  exact ⟨(h.message message hitem).object, (h.message message hitem).userName⟩

theorem Accepted.registParameters (h : Accepted c) (hparse : parse t = .ok (some c)) :
    Returns (registParameters t) := by
  refine (registParameters_returns_iff hparse h.printable).2 fun message hitem => ?_
  have hnamed := h.message message hitem
  refine ⟨hnamed.object, fun user pass huser hpass => ?_⟩
  exact ⟨hnamed.userName user huser, hnamed.passWord user huser pass hpass⟩

theorem Accepted.extendInfo_object (h : Accepted c) {e : CJson}
    (he : getObjectItem c (ascii "extendInfo") = some e) : e.type = .Object := by
  obtain ⟨next, hitem⟩ := List.head?_eq_some_iff.1 he
  exact (h.extendInfo e next hitem).object

theorem Accepted.loginParameters (h : Accepted c) (hparse : parse t = .ok (some c)) :
    Returns (loginParameters t) := by
  refine (loginParameters_returns_iff hparse h.printable).2 fun message e hitem he => ?_
  have hnamed := h.message message hitem
  refine ⟨hnamed.object, h.extendInfo_object he, fun user pass x huser hpass hx => ?_⟩
  have hx' := h.clientFd message e hitem he (huser ▸ rfl) (hpass ▸ rfl) x hx
  exact ⟨hnamed.userName user huser, hnamed.passWord user huser pass hpass, hx'⟩

/-- What makes every function but the last return makes a message accepted. -/
theorem accepted_of_returns (hparse : parse t = .ok (some c)) (hp : printable c = true)
    (htype : Returns (getServiceFdAndMessage t)) (hoperate : Returns (getOperateType t))
    (hregist : Returns (UserLoginImpl.registParameters t))
    (hlogin : Returns (UserLoginImpl.loginParameters t))
    (hlogout : Returns (UserLoginImpl.logoutParameters t))
    (hinfo : ∀ e next, itemFrom c (ascii "extendInfo") = e :: next → Relayable e next) : Accepted c := by
  have hregist := (registParameters_returns_iff hparse hp).1 hregist
  have hlogin := (loginParameters_returns_iff hparse hp).1 hlogin
  have hlogout := (logoutParameters_returns_iff hparse hp).1 hlogout
  refine ⟨hp, (getServiceFdAndMessage_returns_iff hparse hp).1 htype,
    (getOperateType_returns_iff hparse hp).1 hoperate, fun message hitem => ?_, ?_, hinfo⟩
  · refine ⟨(hlogout message hitem).1, (hlogout message hitem).2, fun user huser pass hpass => ?_⟩
    exact ((hregist message hitem).2 user pass huser hpass).2
  · intro message e hitem he huser hpass x hx
    obtain ⟨user, huser⟩ := Option.isSome_iff_exists.1 huser
    obtain ⟨pass, hpass⟩ := Option.isSome_iff_exists.1 hpass
    exact ((hlogin message e hitem he).2.2 user pass x huser hpass hx).2.2

end

theorem loginManager_regist (m : Mysql) (u p : Text) (c : Connection) :
    (loginManager m (.regist u p) c).2 =
      (Register.processRegist m u p [] { connection := c }).2.connection := rfl

theorem loginManager_login (m : Mysql) (u p : Text) (fd : Int) (c : Connection) :
    (loginManager m (.login u p fd) c).2 =
      (Loginer.processLogin m u p fd { connection := c }).2.connection := rfl

theorem loginManager_logout (m : Mysql) (u : Text) (c : Connection) :
    (loginManager m (.logout u) c).2 =
      (Loginer.processLogout m u { connection := c }).2.connection := rfl

/-- With empty tables no statement of the next operation fails. -/
theorem noStatementFails_empty : NoStatementFails memoryServer { db := {} } := by
  intro call _
  cases call with
  | regist u p =>
    have htaken : Register.isAlreadyRegist memoryServer u { connection := { db := {} } } =
        (.ok (0, Loginer.counted 0), { connection := { db := {}, queries := 1 } }) := rfl
    rw [loginManager_regist, Register.processRegist, bind_run_ok htaken, counted_zero]
    rfl
  | login u p fd =>
    have hvalid : Loginer.isValidUserNameAndPassWord memoryServer u p { connection := { db := {} } } =
        (.ok (0, Loginer.counted 0), { connection := { db := {}, queries := 1 } }) := rfl
    rw [loginManager_login, Loginer.processLogin, bind_run_ok hvalid, counted_zero]
    rfl
  | logout u =>
    have hlogout : Loginer.processLogout memoryServer u { connection := { db := {} } } =
        (.ok ⟨0, .SUCCESS, ascii "logout success!"⟩, { connection := { db := {}, queries := 1 } }) := rfl
    rw [loginManager_logout, hlogout]

end SingleTerminalLogin
