import SingleTerminalLogin.CJson.Reading
import SingleTerminalLogin.Services.MessageMemory

/-!
# What looking a message up leaves in memory

The functions of the services that only take members out of a message: `getOperateType`, the first
halves of `processLogin`, `processLogout` and `processRegist`, and the first half of
`dealServiceResponse`.  They hold several pointers into the tree at a time, copy what they find, and
none of them frees the tree.

`readLeft` is what each of them leaves behind.
-/

namespace SingleTerminalLogin

open ByteText Binary64 CProgram SepLogic HProp HeapM CJsonHeap

namespace ServiceHeap

/-! ## The functions -/

/-- `assert(item->type == …)`. -/
def assertType (item : Addr) (type : CJsonType) : HeapM Block Unit := do
  let c ← CJsonHeap.getItem item
  lift (assert (c.type = type))

/-- `int … = item->valueint`. -/
def intOf (item : Addr) : HeapM Block Int := do
  let c ← CJsonHeap.getItem item
  pure (wrap32 c.valueint)

/-- The string at `item->valuestring`. -/
def stringOf (item : Addr) : HeapM Block Text := do
  let c ← CJsonHeap.getItem item
  getText (← nonNull c.valuestring)

/-- `UserLoginImpl::getOperateType`. -/
def getOperateType (receivedMessage : Text) : HeapM Block (Int × Int) := do
  let receivedMessageJson ← CJsonHeap.parse receivedMessage
  match ← CJsonHeap.getObjectItem receivedMessageJson (ascii "operateType") with
  | none => do
    logJson receivedMessageJson
    pure (-1, 0)
  | some messageTypeItem => do
    assertType messageTypeItem .Number
    let operateType ← intOf messageTypeItem
    pure (0, operateType)

/-- The parameters of a login: `userName`, `passWord` and `clientFd`. -/
def loginParameters (receivedMessage : Text) : HeapM Block (Option (Text × Text × Int)) := do
  let receivedMessageJson ← CJsonHeap.parse receivedMessage
  let messageItem ← CJsonHeap.getObjectItem receivedMessageJson (ascii "message")
  let extendInfoItem ← CJsonHeap.getObjectItem receivedMessageJson (ascii "extendInfo")
  match messageItem, extendInfoItem with
  | some messageItem, some extendInfoItem => do
    assertType messageItem .Object
    assertType extendInfoItem .Object
    let userNameItem ← CJsonHeap.getObjectItem (some messageItem) (ascii "userName")
    let passWordItem ← CJsonHeap.getObjectItem (some messageItem) (ascii "passWord")
    let clientFdItem ← CJsonHeap.getObjectItem (some extendInfoItem) (ascii "clientFd")
    match userNameItem, passWordItem, clientFdItem with
    | some userNameItem, some passWordItem, some clientFdItem => do
      assertType userNameItem .String
      assertType passWordItem .String
      assertType clientFdItem .Number
      let userName ← stringOf userNameItem
      let passWord ← stringOf passWordItem
      let clientFd ← intOf clientFdItem
      pure (some (userName, passWord, clientFd))
    | _, _, _ => do
      logJson receivedMessageJson
      pure none
  | _, _ => do
    logJson receivedMessageJson
    pure none

/-- The parameter of a logout. -/
def logoutParameters (receivedMessage : Text) : HeapM Block (Option Text) := do
  let receivedMessageJson ← CJsonHeap.parse receivedMessage
  match ← CJsonHeap.getObjectItem receivedMessageJson (ascii "message") with
  | none => do
    logJson receivedMessageJson
    pure none
  | some messageItem => do
    assertType messageItem .Object
    match ← CJsonHeap.getObjectItem (some messageItem) (ascii "userName") with
    | none => do
      logJson receivedMessageJson
      pure none
    | some userNameItem => do
      assertType userNameItem .String
      let userName ← stringOf userNameItem
      pure (some userName)

/-- The parameters of a registration. -/
def registParameters (receivedMessage : Text) : HeapM Block (Option (Text × Text)) := do
  let receivedMessageJson ← CJsonHeap.parse receivedMessage
  match ← CJsonHeap.getObjectItem receivedMessageJson (ascii "message") with
  | none => do
    logJson receivedMessageJson
    pure none
  | some messageItem => do
    assertType messageItem .Object
    let userNameItem ← CJsonHeap.getObjectItem (some messageItem) (ascii "userName")
    let passWordItem ← CJsonHeap.getObjectItem (some messageItem) (ascii "passWord")
    match userNameItem, passWordItem with
    | some userNameItem, some passWordItem => do
      assertType userNameItem .String
      assertType passWordItem .String
      let userName ← stringOf userNameItem
      let passWord ← stringOf passWordItem
      pure (some (userName, passWord))
    | _, _ => do
      logJson receivedMessageJson
      pure none

/-- The first half of `MessageReceiver::dealServiceResponse`. -/
def responseMembers (response : Text) : HeapM Block (Option (Text × Int)) := do
  let responseJson ← CJsonHeap.parse response
  let msgItem ← CJsonHeap.getObjectItem responseJson (ascii "msg")
  let extendInfoItem ← CJsonHeap.getObjectItem responseJson (ascii "extendInfo")
  match msgItem, extendInfoItem with
  | some msgItem, some extendInfoItem => do
    assertType msgItem .String
    assertType extendInfoItem .Object
    match ← CJsonHeap.getObjectItem (some extendInfoItem) (ascii "logoutFd") with
    | none => do
      logJson responseJson
      pure none
    | some logoutFdItem => do
      assertType logoutFdItem .Number
      let msg ← stringOf msgItem
      let logoutFd ← intOf logoutFdItem
      pure (some (msg, logoutFd))
  | _, _ => do
    logJson responseJson
    pure none

/-! ## Looking -/

section

variable {g : Grants} {s : Memory Block} {c : CJson} {a : Addr}

theorem assertType_reads {type : CJsonType} (h : InMemory s c a) (ht : c.type = type) :
    Reads g s (assertType a type) () := by
  obtain ⟨v, hv, htype, -, -⟩ := h.getItem_reads
  exact hv.bind (Reads.lift (assert_of (htype.trans ht)))

theorem intOf_reads (h : InMemory s c a) : Reads g s (intOf a) (wrap32 c.valueint) := by
  obtain ⟨v, hv, -, hint, -⟩ := h.getItem_reads
  rw [← hint]
  exact hv.bind (Reads.pure _)

theorem stringOf_reads {t : Text} (h : InMemory s c a) (ht : c.valuestring = some t) :
    Reads g s (stringOf a) t := by
  obtain ⟨v, hv, -, -, htext⟩ := h.getItem_reads
  rw [ht] at htext
  refine hv.bind ?_
  cases hp : v.valuestring with
  | none =>
    rw [hp] at htext
    exact htext.elim
  | some p =>
    rw [hp] at htext
    exact getText_reads htext

end

theorem getItem_some (c : CJson) (string : Text) :
    SingleTerminalLogin.getItem (some c) string = .ok (CJson.getObjectItem c string) := rfl

/-- How such a function ends, once everything has been looked up. -/
def settle {α : Type} (json : Ptr) (refused : Bool) (r : α) : HeapM Block α :=
  if refused then do
    logJson json
    pure r
  else pure r

/-- The message, and its text if it has been logged. -/
noncomputable def readLeft (json : CJson) (refused : Bool) : HProp Block :=
  treeBlocks json * if refused then ⨆ t : Text, textBlock t else 1

/-- The rest of such a function settles for `r`. -/
structure Settles {α : Type} (g : Grants) (s : Memory Block) (json : CJson) (a : Addr)
    (refused : α → Bool) (m : HeapM Block α) (r : α) : Prop where
  run : m g s = settle (some a) (refused r) r g s
  /-- What is logged can be printed. -/
  printed : refused r = true → ∃ txt, CJson.print json = .ok txt

namespace Settles

variable {α β : Type} {g : Grants} {s : Memory Block} {json : CJson} {a : Addr} {refused : α → Bool}
  {r : α}

theorem bind {m : HeapM Block β} {x : β} {f : β → HeapM Block α} (hm : Reads g s m x)
    (h : Settles g s json a refused (f x) r) : Settles g s json a refused (m >>= f) r :=
  ⟨(hm.bind_run f).trans h.run, h.printed⟩

/-- Everything was there. -/
theorem of_eq {r' : α} (h : (.ok r' : C α) = .ok r) (hr : refused r' = false) :
    Settles g s json a refused (pure r') r := by
  cases h
  refine ⟨?_, fun hrefused => ?_⟩
  · rw [settle, hr, if_neg (by decide)]
  · rw [hr] at hrefused
    cases hrefused

/-- Something was missing. -/
theorem of_log {r' : α}
    (h : (do
      SingleTerminalLogin.logJson (some json)
      .ok r' : C α) = .ok r) (hr : refused r' = true) :
    Settles g s json a refused
      (do
        logJson (some a)
        pure r') r := by
  obtain ⟨u, hlog, h⟩ := bind_eq_ok.1 h
  obtain ⟨c, hc, hlog⟩ := bind_eq_ok.1 hlog
  obtain ⟨txt, hprint, -⟩ := bind_eq_ok.1 hlog
  cases hc
  cases h
  refine ⟨?_, fun _ => ⟨txt, hprint⟩⟩
  rw [settle, hr, if_pos rfl]

end Settles

section

variable {g : Grants} (hg : ¬ Denied g)

include hg

theorem settle_spec {α : Type} {json : CJson} {refused : Bool} {r : α}
    (h : refused = true → ∃ txt, CJson.print json = .ok txt) (a : Addr) :
    Triple g (itemAt json a none none) (settle (some a) refused r) fun r' =>
      fact (r' = r) * readLeft json refused := by
  cases refused with
  | false =>
    refine Triple.pure (le_fact_mul rfl ?_)
    rw [readLeft, if_neg (by decide), mul_one]
    exact le_iSup (fun a => itemAt json a none none) a
  | true =>
    obtain ⟨txt, hprint⟩ := h rfl
    refine (logJson_granted hg hprint a).bind fun _ => Triple.pure (le_fact_mul rfl ?_)
    rw [readLeft, if_pos rfl]
    exact mul_le_mul' le_rfl (le_iSup (fun t => textBlock t) txt)

/-- A function that parses a message, looks things up in it, and ends. -/
theorem lookups_spec {α : Type} {t : Text} {json : CJson} (refused : α → Bool) {r : α}
    {look : Ptr → HeapM Block α} (hparse : CJson.parse t = .ok (some json))
    (hlook : ∀ s a, InMemory s json a → Settles g s json a refused (look (some a)) r) :
    Triple g 1 (CJsonHeap.parse t >>= look) fun r' => fact (r' = r) * readLeft json (refused r) := by
  refine (parse_granted hg hparse).bind fun p => Triple.exists_pre fun a => Triple.fact_pre ?_
  rintro rfl
  refine Triple.of_run fun F s hs => ?_
  have hends := hlook s a (InMemory.of_holds hs)
  exact ⟨_, hends.run, settle_spec hg hends.printed a⟩

/-! ## The functions leave what they return and the message -/

theorem getOperateType_spec {t : Text} {json : CJson} {r : Int × Int}
    (hparse : CJson.parse t = .ok (some json)) (h : UserLoginImpl.getOperateType t = .ok r) :
    Triple g 1 (getOperateType t) fun r' => fact (r' = r) * readLeft json (r.1 ≠ 0) := by
  rw [UserLoginImpl.getOperateType, hparse, ok_bind, getItem_some, ok_bind] at h
  refine lookups_spec hg (fun r : Int × Int => r.1 ≠ 0) hparse fun s a hin => ?_
  obtain ⟨q, hq, hfound⟩ := getObjectItem_reads hin (ascii "operateType")
  refine Settles.bind hq ?_
  generalize CJson.getObjectItem json (ascii "operateType") = o at h hfound
  cases hfound with
  | nothing => exact Settles.of_log h (by decide)
  | item hi =>
    obtain ⟨u, hassert, h⟩ := bind_eq_ok.1 h
    refine Settles.bind (assertType_reads hi (assert_eq_ok.1 hassert)) ?_
    refine Settles.bind (intOf_reads hi) ?_
    exact Settles.of_eq h (by simp)

theorem loginParameters_spec {t : Text} {json : CJson} {r : Option (Text × Text × Int)}
    (hparse : CJson.parse t = .ok (some json)) (h : UserLoginImpl.loginParameters t = .ok r) :
    Triple g 1 (loginParameters t) fun r' => fact (r' = r) * readLeft json r.isNone := by
  rw [UserLoginImpl.loginParameters, hparse, ok_bind, getItem_some, ok_bind, getItem_some, ok_bind] at h
  refine lookups_spec hg Option.isNone hparse fun s a hin => ?_
  obtain ⟨qm, hqm, hm⟩ := getObjectItem_reads hin (ascii "message")
  obtain ⟨qe, hqe, he⟩ := getObjectItem_reads hin (ascii "extendInfo")
  refine Settles.bind hqm (Settles.bind hqe ?_)
  generalize CJson.getObjectItem json (ascii "message") = om at h hm
  generalize CJson.getObjectItem json (ascii "extendInfo") = oe at h he
  cases hm with
  | nothing => exact Settles.of_log h rfl
  | @item im cm hm =>
    cases he with
    | nothing => exact Settles.of_log h rfl
    | @item ie ce he =>
      obtain ⟨u, hobject, h⟩ := bind_eq_ok.1 h
      obtain ⟨u, hobject', h⟩ := bind_eq_ok.1 h
      refine Settles.bind (assertType_reads hm (assert_eq_ok.1 hobject)) ?_
      refine Settles.bind (assertType_reads he (assert_eq_ok.1 hobject')) ?_
      obtain ⟨qu, hqu, hu⟩ := getObjectItem_reads hm (ascii "userName")
      obtain ⟨qp, hqp, hp⟩ := getObjectItem_reads hm (ascii "passWord")
      obtain ⟨qf, hqf, hf⟩ := getObjectItem_reads he (ascii "clientFd")
      refine Settles.bind hqu (Settles.bind hqp (Settles.bind hqf ?_))
      generalize CJson.getObjectItem cm (ascii "userName") = ou at h hu
      generalize CJson.getObjectItem cm (ascii "passWord") = op at h hp
      generalize CJson.getObjectItem ce (ascii "clientFd") = oc at h hf
      cases hu with
      | nothing => exact Settles.of_log h rfl
      | item hu =>
        cases hp with
        | nothing => exact Settles.of_log h rfl
        | item hp =>
          cases hf with
          | nothing => exact Settles.of_log h rfl
          | item hf =>
            obtain ⟨u, hstring, h⟩ := bind_eq_ok.1 h
            obtain ⟨u, hstring', h⟩ := bind_eq_ok.1 h
            obtain ⟨u, hnumber, h⟩ := bind_eq_ok.1 h
            obtain ⟨userName, hname, h⟩ := bind_eq_ok.1 h
            obtain ⟨passWord, hword, h⟩ := bind_eq_ok.1 h
            refine Settles.bind (assertType_reads hu (assert_eq_ok.1 hstring)) ?_
            refine Settles.bind (assertType_reads hp (assert_eq_ok.1 hstring')) ?_
            refine Settles.bind (assertType_reads hf (assert_eq_ok.1 hnumber)) ?_
            refine Settles.bind (stringOf_reads hu (deref_eq_ok.1 hname)) ?_
            refine Settles.bind (stringOf_reads hp (deref_eq_ok.1 hword)) ?_
            exact Settles.bind (intOf_reads hf) (Settles.of_eq h rfl)

theorem logoutParameters_spec {t : Text} {json : CJson} {r : Option Text}
    (hparse : CJson.parse t = .ok (some json)) (h : UserLoginImpl.logoutParameters t = .ok r) :
    Triple g 1 (logoutParameters t) fun r' => fact (r' = r) * readLeft json r.isNone := by
  rw [UserLoginImpl.logoutParameters, hparse, ok_bind, getItem_some, ok_bind] at h
  refine lookups_spec hg Option.isNone hparse fun s a hin => ?_
  obtain ⟨qm, hqm, hm⟩ := getObjectItem_reads hin (ascii "message")
  refine Settles.bind hqm ?_
  generalize CJson.getObjectItem json (ascii "message") = om at h hm
  cases hm with
  | nothing => exact Settles.of_log h rfl
  | @item im cm hm =>
    obtain ⟨u, hobject, h⟩ := bind_eq_ok.1 h
    refine Settles.bind (assertType_reads hm (assert_eq_ok.1 hobject)) ?_
    obtain ⟨qu, hqu, hu⟩ := getObjectItem_reads hm (ascii "userName")
    refine Settles.bind hqu ?_
    generalize CJson.getObjectItem cm (ascii "userName") = ou at h hu
    cases hu with
    | nothing => exact Settles.of_log h rfl
    | item hu =>
      obtain ⟨u, hstring, h⟩ := bind_eq_ok.1 h
      obtain ⟨userName, hname, h⟩ := bind_eq_ok.1 h
      refine Settles.bind (assertType_reads hu (assert_eq_ok.1 hstring)) ?_
      exact Settles.bind (stringOf_reads hu (deref_eq_ok.1 hname)) (Settles.of_eq h rfl)

theorem registParameters_spec {t : Text} {json : CJson} {r : Option (Text × Text)}
    (hparse : CJson.parse t = .ok (some json)) (h : UserLoginImpl.registParameters t = .ok r) :
    Triple g 1 (registParameters t) fun r' => fact (r' = r) * readLeft json r.isNone := by
  rw [UserLoginImpl.registParameters, hparse, ok_bind, getItem_some, ok_bind] at h
  refine lookups_spec hg Option.isNone hparse fun s a hin => ?_
  obtain ⟨qm, hqm, hm⟩ := getObjectItem_reads hin (ascii "message")
  refine Settles.bind hqm ?_
  generalize CJson.getObjectItem json (ascii "message") = om at h hm
  cases hm with
  | nothing => exact Settles.of_log h rfl
  | @item im cm hm =>
    obtain ⟨u, hobject, h⟩ := bind_eq_ok.1 h
    refine Settles.bind (assertType_reads hm (assert_eq_ok.1 hobject)) ?_
    obtain ⟨qu, hqu, hu⟩ := getObjectItem_reads hm (ascii "userName")
    obtain ⟨qp, hqp, hp⟩ := getObjectItem_reads hm (ascii "passWord")
    refine Settles.bind hqu (Settles.bind hqp ?_)
    generalize CJson.getObjectItem cm (ascii "userName") = ou at h hu
    generalize CJson.getObjectItem cm (ascii "passWord") = op at h hp
    cases hu with
    | nothing => exact Settles.of_log h rfl
    | item hu =>
      cases hp with
      | nothing => exact Settles.of_log h rfl
      | item hp =>
        obtain ⟨u, hstring, h⟩ := bind_eq_ok.1 h
        obtain ⟨u, hstring', h⟩ := bind_eq_ok.1 h
        obtain ⟨userName, hname, h⟩ := bind_eq_ok.1 h
        obtain ⟨passWord, hword, h⟩ := bind_eq_ok.1 h
        refine Settles.bind (assertType_reads hu (assert_eq_ok.1 hstring)) ?_
        refine Settles.bind (assertType_reads hp (assert_eq_ok.1 hstring')) ?_
        refine Settles.bind (stringOf_reads hu (deref_eq_ok.1 hname)) ?_
        exact Settles.bind (stringOf_reads hp (deref_eq_ok.1 hword)) (Settles.of_eq h rfl)

theorem responseMembers_spec {t : Text} {json : CJson} {r : Option (Text × Int)}
    (hparse : CJson.parse t = .ok (some json)) (h : MessageReceiver.responseMembers t = .ok r) :
    Triple g 1 (responseMembers t) fun r' => fact (r' = r) * readLeft json r.isNone := by
  rw [MessageReceiver.responseMembers, hparse, ok_bind, getItem_some, ok_bind, getItem_some,
    ok_bind] at h
  refine lookups_spec hg Option.isNone hparse fun s a hin => ?_
  obtain ⟨qm, hqm, hm⟩ := getObjectItem_reads hin (ascii "msg")
  obtain ⟨qe, hqe, he⟩ := getObjectItem_reads hin (ascii "extendInfo")
  refine Settles.bind hqm (Settles.bind hqe ?_)
  generalize CJson.getObjectItem json (ascii "msg") = om at h hm
  generalize CJson.getObjectItem json (ascii "extendInfo") = oe at h he
  cases hm with
  | nothing => exact Settles.of_log h rfl
  | item hm =>
    cases he with
    | nothing => exact Settles.of_log h rfl
    | @item ie ce he =>
      obtain ⟨u, hstring, h⟩ := bind_eq_ok.1 h
      obtain ⟨u, hobject, h⟩ := bind_eq_ok.1 h
      refine Settles.bind (assertType_reads hm (assert_eq_ok.1 hstring)) ?_
      refine Settles.bind (assertType_reads he (assert_eq_ok.1 hobject)) ?_
      obtain ⟨qf, hqf, hf⟩ := getObjectItem_reads he (ascii "logoutFd")
      refine Settles.bind hqf ?_
      generalize CJson.getObjectItem ce (ascii "logoutFd") = oc at h hf
      cases hf with
      | nothing => exact Settles.of_log h rfl
      | item hf =>
        obtain ⟨u, hnumber, h⟩ := bind_eq_ok.1 h
        obtain ⟨msg, hmsg, h⟩ := bind_eq_ok.1 h
        refine Settles.bind (assertType_reads hf (assert_eq_ok.1 hnumber)) ?_
        refine Settles.bind (stringOf_reads hm (deref_eq_ok.1 hmsg)) ?_
        exact Settles.bind (intOf_reads hf) (Settles.of_eq h rfl)

end

end ServiceHeap

end SingleTerminalLogin
