import SingleTerminalLogin.CJson.HeapParse
import SingleTerminalLogin.CJson.HeapPrinted
import SingleTerminalLogin.Services.UserLoginImpl

/-!
# What a message leaves in memory

The three functions that turn the message a service has received into the one it sends, on the heap:
`getNeedSendMessage` of the receiver, `getServiceFdAndMessage` of the dispatcher and
`getResponseMessage` of the login manager.

They return what the functions over trees return, and use no block after it has been freed.  But no
service frees the text `cJSON_PrintUnformatted` hands out, and the login manager deletes the members
of the request from `extendInfo` on together with the response it has linked them into, and forgets
the rest of the request.

* `getNeedSendMessage_spec`, `getServiceFdAndMessage_spec`, `getResponseMessage_spec` — what is
  returned, and what is left behind.
-/

namespace SingleTerminalLogin

open ByteText Binary64 CProgram SepLogic HProp HeapM CJsonHeap

namespace ServiceHeap

/-! ## The functions -/

/-- `ss << cJSON_PrintUnformatted(json)`, and `ss.str()`; the null pointer writes nothing. -/
def toText (json : Ptr) : HeapM Block Text := do
  match ← CJsonHeap.print false json with
  | none => pure []
  | some text => getText text

/-- `LOG_ERROR("…", cJSON_PrintUnformatted(json))`. -/
def logJson (json : Ptr) : HeapM Block Unit := do
  let _ ← toText json
  pure ()

/-- `MessageReceiver::getNeedSendMessage`. -/
def getNeedSendMessage (receivedMessage : Text) (sendToClientFd : Int) : HeapM Block Text := do
  let messageJson ← CJsonHeap.parse receivedMessage
  let extendInfo ← CJsonHeap.createObject
  CJsonHeap.addNumberToObject extendInfo (ascii "clientFd") sendToClientFd
  CJsonHeap.addItemToObject messageJson (ascii "extendInfo") extendInfo
  let needSendMessage ← toText messageJson
  CJsonHeap.delete messageJson
  pure needSendMessage

/-- `MessageDispatcher::dealLogin`, whose service is always there. -/
def dealLogin (receivedMessageJson : Ptr) (messageType : Int) : HeapM Block Text := do
  CJsonHeap.addNumberToObject receivedMessageJson (ascii "operateType") messageType
  toText receivedMessageJson

/-- `MessageDispatcher::getServiceFdAndMessage`: the return value and the message. -/
def getServiceFdAndMessage (receivedMessage : Text) : HeapM Block (Int × Text) := do
  let receivedMessageJson ← CJsonHeap.parse receivedMessage
  match ← CJsonHeap.getObjectItem receivedMessageJson (ascii "messageType") with
  | none => do
    logJson receivedMessageJson
    pure (-1, [])
  | some messageTypeItem => do
    let item ← CJsonHeap.getItem messageTypeItem
    lift (assert (item.type = .Number))
    match MessageType.ofInt (wrap32 item.valueint) with
    | some _ => do
      let needSendMessage ← dealLogin receivedMessageJson (wrap32 item.valueint)
      CJsonHeap.delete receivedMessageJson
      pure (0, needSendMessage)
    | none => do
      logJson receivedMessageJson
      pure (-1, [])

/-- `UserLoginImpl::getResponseMessage`: the return value and `needSendmessage`. -/
def getResponseMessage (receivedMessage : Text) (logoutFd code : Int) (msg : Text) :
    HeapM Block (Int × Text) := do
  let root ← CJsonHeap.createObject
  CJsonHeap.addNumberToObject root (ascii "code") code
  CJsonHeap.addStringToObject root (ascii "msg") msg
  let receivedMessageJson ← CJsonHeap.parse receivedMessage
  match ← CJsonHeap.getObjectItem receivedMessageJson (ascii "extendInfo") with
  | none => do
    logJson receivedMessageJson
    pure (-1, [])
  | some extendInfoItem => do
    CJsonHeap.addNumberToObject (some extendInfoItem) (ascii "logoutFd") logoutFd
    CJsonHeap.addItemToObject root (ascii "extendInfo") (some extendInfoItem)
    let needSendmessage ← toText root
    CJsonHeap.delete root
    pure (0, needSendmessage)

/-! ## What is in memory -/

/-- A text in some block. -/
noncomputable def textBlock (t : Text) : HProp Block := ⨆ b : Addr, textAt (some b) (some t)

/-- A tree in some blocks. -/
noncomputable def treeBlocks (c : CJson) : HProp Block := ⨆ a : Addr, itemAt c a none none

/-! ## Looking a member up -/

/-- Nothing was found, and the tree is as it was. -/
theorem pointing_nil (object : CJson) (a : Addr) (prev next r : Ptr) :
    pointing object object.child [] a prev next r ≤ fact (r = none) * itemAt object a prev next := by
  cases r with
  | none =>
    have hle := pointing_le object object.child [] a prev next none
    rw [List.append_nil] at hle
    exact le_fact_mul rfl (hle.trans (by cases object; exact le_rfl))
  | some i =>
    refine iSup_le fun pc => iSup_le fun pv => iSup_le fun ps => ?_
    simp only [childAt, childrenAt_nil_some, Quantale.mul_bot, iSup_bot]
    exact bot_le

/-- Something was found. -/
theorem pointing_cons_none (object : CJson) (front : List CJson) (x : CJson) (back : List CJson)
    (a : Addr) (prev next : Ptr) : pointing object front (x :: back) a prev next none = ⊥ := by
  simp only [pointing, childAt, childrenAt_cons_none, Quantale.mul_bot, iSup_bot]

/-- Reading a member that was found; the pointer is not used any more. -/
theorem readMember_spec {g : Grants} (object : CJson) (front : List CJson) (x : CJson)
    (back : List CJson) (hchild : front ++ x :: back = object.child) (a i : Addr) (prev next : Ptr) :
    Triple g (pointing object front (x :: back) a prev next (some i)) (CJsonHeap.getItem i) fun c =>
      fact (c.type = x.type ∧ c.valueint = x.valueint) * itemAt object a prev next := by
  refine Triple.exists_pre fun pc => Triple.exists_pre fun pv => Triple.exists_pre fun ps => ?_
  simp only [childAt, childrenAt_cons_some, itemAt_eq x, Quantale.mul_iSup_distrib,
    Quantale.iSup_mul_distrib]
  refine Triple.exists_pre fun m => Triple.exists_pre fun q => Triple.exists_pre fun xc =>
    Triple.exists_pre fun xv => Triple.exists_pre fun xs => ?_
  refine (getItem_spec i _).last (F := pointsTo a (.item (cell object prev next pc pv ps)) *
    (textAt pv object.valuestring * (textAt ps object.string * (chain itemAt front pc none m (some i) *
      (textAt xv x.valuestring * (textAt xs x.string * childrenAt x.child xc none) *
        childrenAt back q (some i)))))) (by ac_rfl) fun c => ?_
  rw [mul_assoc]
  refine fact_mul_le.2 ?_
  rintro rfl
  have hback : pointsTo i (.item (cell x m q xc xv xs)) * (textAt xv x.valuestring *
      (textAt xs x.string * childrenAt x.child xc none)) * childrenAt back q (some i) ≤
      childrenAt (x :: back) (some i) m := by
    rw [childrenAt_cons_some]
    exact le_iSup_of_le q (mul_le_mul' (le_itemAt x i m q xc xv xs le_rfl) le_rfl)
  have hall : chain itemAt front pc none m (some i) * childrenAt (x :: back) (some i) m ≤
      childrenAt object.child pc none := by
    rw [← hchild]
    exact (le_iSup (fun m => chain itemAt front pc none m (some i) *
      childrenAt (x :: back) (some i) m) m).trans (childAt_le front (x :: back) pc (some i))
  refine le_fact_mul ⟨rfl, rfl⟩ (le_itemAt object a prev next pc pv ps ?_)
  refine le_trans (le_of_eq ?_) (mul_le_mul' le_rfl (mul_le_mul' le_rfl (mul_le_mul' le_rfl
    ((mul_le_mul' le_rfl hback).trans hall))))
  ac_rfl

/-! ## The library, when there is memory -/

section

variable {g : Grants} (hg : ¬ Denied g)

include hg

theorem orNull_granted (P : Addr → HProp Block) (p : Ptr) :
    orNull g P p ≤ ⨆ a : Addr, fact (p = some a) * P a := by
  cases p with
  | none =>
    rw [orNull, ← mul_one (fact _)]
    exact fact_mul_le.2 fun hd => absurd hd hg
  | some a => exact le_iSup_of_le a (le_fact_mul rfl le_rfl)

theorem parse_granted {t : Text} {c : CJson} (h : CJson.parse t = .ok (some c)) :
    Triple g 1 (CJsonHeap.parse t) fun p => ⨆ a : Addr, fact (p = some a) * itemAt c a none none := by
  refine (parse_spec h).weaken le_rfl fun p => ?_
  cases p with
  | none =>
    rw [parsedRoot, ← mul_one (fact _)]
    refine fact_mul_le.2 fun hd => ?_
    rcases hd with hd | hd
    · cases hd
    · exact absurd hd hg
  | some a =>
    refine iSup_le fun d => fact_mul_le.2 ?_
    rintro ⟨⟩
    exact le_iSup_of_le a (le_fact_mul rfl le_rfl)

theorem createObject_granted :
    Triple g 1 CJsonHeap.createObject fun p =>
      ⨆ a : Addr, fact (p = some a) * itemAt CJson.createObject a none none :=
  createObject_spec.weaken le_rfl fun p => orNull_granted hg _ p

theorem addItemToObject_granted (object item : CJson) (string : Text) (next : List CJson) (a i : Addr)
    (prev' next' pi : Ptr) (hpi : object.child = [] → pi = none) :
    Triple g (itemAt object a prev' next' * childrenAt (item :: next) (some i) pi)
      (CJsonHeap.addItemToObject (some a) string (some i)) fun _ =>
        itemAt (CJson.addItemToObject object string item next) a prev' next' := by
  refine (addItemToObject_spec object item string next a i prev' next' pi hpi).weaken le_rfl
    fun _ => ?_
  refine iSup_le fun t => fact_mul_le.2 fun ht => ?_
  obtain rfl := ht.eq_some hg
  exact le_rfl

theorem addNumberToObject_granted (object : CJson) (name : Text) (n : Int) (a : Addr)
    (prev next : Ptr) :
    Triple g (itemAt object a prev next) (CJsonHeap.addNumberToObject (some a) name n) fun _ =>
      itemAt (CJson.addNumberToObject object name n) a prev next := by
  refine (createNumber_spec (ofInt n)).step (one_mul _).symm fun p => ?_
  refine Triple.weaken ?_ (mul_le_mul' (orNull_granted hg _ p) le_rfl) fun _ => le_rfl
  rw [Quantale.iSup_mul_distrib]
  refine Triple.exists_pre fun i => ?_
  rw [mul_assoc]
  refine Triple.fact_pre ?_
  rintro rfl
  rw [mul_comm, ← childrenAt_singleton]
  exact addItemToObject_granted hg object _ name [] a i prev next none fun _ => rfl

theorem addStringToObject_granted (object : CJson) (name s : Text) (a : Addr) (prev next : Ptr) :
    Triple g (itemAt object a prev next) (CJsonHeap.addStringToObject (some a) name s) fun _ =>
      itemAt (CJson.addStringToObject object name s) a prev next := by
  refine (createString_spec s).step (one_mul _).symm fun p => ?_
  refine Triple.weaken ?_ (mul_le_mul' (orNull_granted hg _ p) le_rfl) fun _ => le_rfl
  rw [Quantale.iSup_mul_distrib]
  refine Triple.exists_pre fun i => ?_
  rw [mul_assoc]
  refine Triple.fact_pre ?_
  rintro rfl
  rw [Quantale.iSup_mul_distrib]
  refine Triple.exists_pre fun t => ?_
  rw [mul_assoc]
  refine Triple.fact_pre fun ht => ?_
  obtain rfl := ht.eq_some hg
  rw [mul_comm, ← childrenAt_singleton]
  exact addItemToObject_granted hg object _ name [] a i prev next none fun _ => rfl

/-- The printed text is read, and stays where it is. -/
theorem toText_granted {c : CJson} {txt : Text} (h : CJson.print c = .ok txt) (a : Addr)
    (prev next : Ptr) :
    Triple g (itemAt c a prev next) (toText (some a)) fun r =>
      fact (r = txt) * (itemAt c a prev next * textBlock txt) := by
  rw [← CJson.printValue_unformatted 0] at h
  refine (print_spec h a prev next).bind fun p => ?_
  refine Triple.weaken ?_ (mul_le_mul' (orNull_granted hg _ p) le_rfl) fun _ => le_rfl
  rw [Quantale.iSup_mul_distrib]
  refine Triple.exists_pre fun b => ?_
  rw [mul_assoc]
  refine Triple.fact_pre ?_
  rintro rfl
  refine (getText_spec b txt).last rfl fun r => ?_
  rw [mul_assoc, mul_comm (textAt _ _)]
  exact mul_le_mul' le_rfl (mul_le_mul' le_rfl (le_iSup (fun b => textAt (some b) (some txt)) b))

theorem logJson_granted {c : CJson} {txt : Text} (h : CJson.print c = .ok txt) (a : Addr) :
    Triple g (itemAt c a none none) (logJson (some a)) fun _ => treeBlocks c * textBlock txt := by
  refine (toText_granted hg h a none none).bind fun r => Triple.fact_pre ?_
  rintro rfl
  exact Triple.pure (mul_le_mul' (le_iSup (fun a => itemAt c a none none) a) le_rfl)

/-! ## The receiver -/

/-- **The receiver** returns the message with the descriptor in it, and leaves the block of its
text behind. -/
theorem getNeedSendMessage_spec {receivedMessage txt : Text} {fd : Int}
    (h : MessageReceiver.getNeedSendMessage receivedMessage fd = .ok txt) :
    Triple g 1 (getNeedSendMessage receivedMessage fd) fun r => fact (r = txt) * textBlock txt := by
  obtain ⟨o, hparse, h⟩ := bind_eq_ok.1 h
  obtain ⟨json, hjson, hprint⟩ := bind_eq_ok.1 h
  obtain rfl := deref_eq_ok.1 hjson
  refine (parse_granted hg hparse).bind fun p => Triple.exists_pre fun a => Triple.fact_pre ?_
  rintro rfl
  refine (createObject_granted hg).step (one_mul _).symm fun p => ?_
  rw [Quantale.iSup_mul_distrib]
  refine Triple.exists_pre fun i => ?_
  rw [mul_assoc]
  refine Triple.fact_pre ?_
  rintro rfl
  refine (addNumberToObject_granted hg _ _ _ i none none).step rfl fun _ => ?_
  rw [mul_comm, ← childrenAt_singleton _ i]
  refine (addItemToObject_granted hg json _ _ [] a i none none none fun _ => rfl).bind fun _ => ?_
  refine (toText_granted hg hprint a none none).bind fun r => Triple.fact_pre ?_
  rintro rfl
  refine (delete_item_spec _ a none).step rfl fun _ => Triple.pure ?_
  rw [one_mul]
  exact le_fact_mul rfl le_rfl

/-! ## The dispatcher -/

/-- What the dispatcher leaves behind: the text it sends, or the whole request and the text it has
logged. -/
noncomputable def dispatcherLeft (json : CJson) (r : Int × Text) : HProp Block :=
  if r.1 = 0 then textBlock r.2 else treeBlocks json * ⨆ t : Text, textBlock t

/-- **The dispatcher** returns the message with the operation in it. -/
theorem getServiceFdAndMessage_spec {receivedMessage : Text} {json : CJson} {r : Int × Text}
    (hparse : CJson.parse receivedMessage = .ok (some json))
    (h : MessageDispatcher.getServiceFdAndMessage receivedMessage = .ok r) :
    Triple g 1 (getServiceFdAndMessage receivedMessage) fun r' =>
      fact (r' = r) * dispatcherLeft json r := by
  have hfind : getItem (some json) (ascii "messageType") =
      .ok (CJson.itemFrom json (ascii "messageType")).head? := rfl
  rw [MessageDispatcher.getServiceFdAndMessage, hparse, ok_bind, hfind, ok_bind] at h
  -- a refused request is logged, and nothing of it is freed
  have hlog : ∀ {a : Addr}, (do
      SingleTerminalLogin.logJson (some json)
      Except.ok ((-1 : Int), ([] : Text))) = Except.ok r → Triple g (itemAt json a none none)
        (do
          logJson (some a)
          pure (-1, [])) fun r' => fact (r' = r) * dispatcherLeft json r := by
    intro a h
    obtain ⟨u, hlog, h⟩ := bind_eq_ok.1 h
    obtain ⟨c, hc, hlog⟩ := bind_eq_ok.1 hlog
    obtain ⟨txt, hprint, -⟩ := bind_eq_ok.1 hlog
    cases hc
    cases h
    refine (logJson_granted hg hprint a).bind fun _ => Triple.pure (le_fact_mul rfl ?_)
    rw [dispatcherLeft, if_neg (by decide)]
    exact mul_le_mul' le_rfl (le_iSup (fun t => textBlock t) txt)
  refine (parse_granted hg hparse).bind fun p => Triple.exists_pre fun a => Triple.fact_pre ?_
  rintro rfl
  have hsplit := List.takeWhile_append_dropWhile
    (p := fun c => !CJson.named (ascii "messageType") c) (l := json.child)
  refine (getObjectItem_spec json _ a none none).bind fun q => ?_
  rw [← CJson.itemFrom] at hsplit
  cases hitem : CJson.itemFrom json (ascii "messageType") with
  | nil =>
    rw [hitem] at h hsplit
    rw [List.append_nil] at hsplit
    rw [hsplit]
    refine Triple.weaken ?_ (pointing_nil json a none none q) fun _ => le_rfl
    refine Triple.fact_pre ?_
    rintro rfl
    exact hlog h
  | cons item next =>
    rw [hitem] at h hsplit
    cases q with
    | none =>
      rw [pointing_cons_none]
      exact Triple.of_bot
    | some i =>
      refine (readMember_spec json _ item next hsplit a i none none).bind fun c => Triple.fact_pre ?_
      rintro ⟨hty, hint⟩
      simp only [List.head?_cons] at h
      obtain ⟨u, hassert, h⟩ := bind_eq_ok.1 h
      rw [hty, hint]
      refine (Triple.lift hassert).bind fun _ => Triple.fact_pre fun _ => ?_
      cases htype : MessageType.ofInt (wrap32 item.valueint) with
      | none =>
        simp only [htype] at h ⊢
        exact hlog h
      | some t =>
        simp only [htype] at h ⊢
        rw [deref_some, ok_bind] at h
        obtain ⟨txt, hprint, h⟩ := bind_eq_ok.1 h
        cases h
        refine Triple.bind (Q := fun r => fact (r = txt) * (itemAt (CJson.addNumberToObject json
          (ascii "operateType") (wrap32 item.valueint)) a none none * textBlock txt)) ?_ fun m =>
            Triple.fact_pre ?_
        · exact (addNumberToObject_granted hg json _ _ a none none).bind fun _ =>
            toText_granted hg hprint a none none
        · rintro rfl
          refine (delete_item_spec _ a none).step rfl fun _ => Triple.pure ?_
          rw [one_mul, dispatcherLeft, if_pos rfl]
          exact le_fact_mul rfl le_rfl

/-! ## The login manager -/

/-- A request whose members behind `front` have been freed: the root, the members in front, and a
pointer to the block that is gone. -/
noncomputable def stump (json : CJson) (front : List CJson) : HProp Block :=
  ⨆ b : Addr, ⨆ pc : Ptr, ⨆ pv : Ptr, ⨆ ps : Ptr, ⨆ m : Ptr, ⨆ i : Addr,
    pointsTo b (.item (cell json none none pc pv ps)) * (textAt pv json.valuestring *
      (textAt ps json.string * chain itemAt front pc none m (some i)))

/-- The response as far as it does not need the request. -/
def answerRoot (code : Int) (msg : Text) : CJson :=
  CJson.addStringToObject (CJson.addNumberToObject CJson.createObject (ascii "code") code)
    (ascii "msg") msg

/-- What the login manager leaves behind: the text it sends and what is in front of `extendInfo` in
the request, or both trees and the text it has logged. -/
noncomputable def managerLeft (json root : CJson) (r : Int × Text) : HProp Block :=
  if r.1 = 0 then
    textBlock r.2 * stump json (json.child.takeWhile fun c => !CJson.named (ascii "extendInfo") c)
  else treeBlocks root * (treeBlocks json * ⨆ t : Text, textBlock t)

/-- **The login manager** returns the response. -/
theorem getResponseMessage_spec {receivedMessage msg : Text} {logoutFd code : Int} {json : CJson}
    {r : Int × Text} (hparse : CJson.parse receivedMessage = .ok (some json))
    (h : UserLoginImpl.getResponseMessage receivedMessage logoutFd code msg = .ok r) :
    Triple g 1 (getResponseMessage receivedMessage logoutFd code msg) fun r' =>
      fact (r' = r) * managerLeft json (answerRoot code msg) r := by
  rw [UserLoginImpl.getResponseMessage, hparse, ok_bind, deref_some, ok_bind] at h
  refine (createObject_granted hg).bind fun p => Triple.exists_pre fun b => Triple.fact_pre ?_
  rintro rfl
  refine (addNumberToObject_granted hg _ _ code b none none).bind fun _ => ?_
  refine (addStringToObject_granted hg _ _ msg b none none).bind fun _ => ?_
  rw [← answerRoot]
  refine (parse_granted hg hparse).step (one_mul _).symm fun p => ?_
  rw [Quantale.iSup_mul_distrib]
  refine Triple.exists_pre fun a => ?_
  rw [mul_assoc]
  refine Triple.fact_pre ?_
  rintro rfl
  have hsplit := List.takeWhile_append_dropWhile
    (p := fun c => !CJson.named (ascii "extendInfo") c) (l := json.child)
  refine (getObjectItem_spec json _ a none none).step rfl fun q => ?_
  rw [← CJson.itemFrom] at hsplit
  cases hitem : CJson.itemFrom json (ascii "extendInfo") with
  | nil =>
    rw [hitem] at h hsplit
    rw [List.append_nil] at hsplit
    rw [hsplit]
    refine Triple.weaken ?_ (mul_le_mul' (pointing_nil json a none none q) le_rfl) fun _ => le_rfl
    rw [mul_assoc]
    refine Triple.fact_pre ?_
    rintro rfl
    obtain ⟨u, hlog, h⟩ := bind_eq_ok.1 h
    obtain ⟨c, hc, hlog⟩ := bind_eq_ok.1 hlog
    obtain ⟨txt, hprint, -⟩ := bind_eq_ok.1 hlog
    cases hc
    cases h
    refine (logJson_granted hg hprint a).step rfl fun _ => Triple.pure (le_fact_mul rfl ?_)
    rw [managerLeft, if_neg (by decide), mul_comm]
    exact mul_le_mul' (le_iSup (fun b => itemAt (answerRoot code msg) b none none) b)
      (mul_le_mul' le_rfl (le_iSup (fun t => textBlock t) txt))
  | cons item next =>
    rw [hitem] at h
    cases q with
    | none =>
      rw [pointing_cons_none, Quantale.bot_mul]
      exact Triple.of_bot
    | some i =>
      simp only [pointing, childAt, childrenAt_cons_some, Quantale.mul_iSup_distrib,
        Quantale.iSup_mul_distrib]
      refine Triple.exists_pre fun pc => Triple.exists_pre fun pv => Triple.exists_pre fun ps =>
        Triple.exists_pre fun m => Triple.exists_pre fun q => ?_
      obtain ⟨txt, hprint, h⟩ := bind_eq_ok.1 h
      cases h
      refine (addNumberToObject_granted hg item (ascii "logoutFd") logoutFd i m q).step
        (F := childrenAt next q (some i) * itemAt (answerRoot code msg) b none none *
          (pointsTo a (.item (cell json none none pc pv ps)) * (textAt pv json.valuestring *
            (textAt ps json.string * chain itemAt (json.child.takeWhile fun c =>
              !CJson.named (ascii "extendInfo") c) pc none m (some i))))) (by ac_rfl) fun _ => ?_
      refine Triple.weaken (P := itemAt (answerRoot code msg) b none none *
          childrenAt (CJson.addNumberToObject item (ascii "logoutFd") logoutFd :: next) (some i) m *
          (pointsTo a (.item (cell json none none pc pv ps)) * (textAt pv json.valuestring *
            (textAt ps json.string * chain itemAt (json.child.takeWhile fun c =>
              !CJson.named (ascii "extendInfo") c) pc none m (some i))))) ?_ ?_ fun _ => le_rfl
      · refine (addItemToObject_granted hg (answerRoot code msg) _ (ascii "extendInfo") next b i none
          none m fun h => by cases h).step rfl fun _ => ?_
        refine (toText_granted hg hprint b none none).step rfl fun txt' => ?_
        rw [mul_assoc]
        refine Triple.fact_pre ?_
        rintro rfl
        refine (delete_item_spec _ b none).step (mul_assoc _ _ _) fun _ => Triple.pure ?_
        rw [one_mul, managerLeft, if_pos rfl]
        refine le_fact_mul rfl (mul_le_mul' le_rfl ?_)
        exact le_iSup_of_le a (le_iSup_of_le pc (le_iSup_of_le pv (le_iSup_of_le ps
          (le_iSup_of_le m (le_iSup_of_le i le_rfl)))))
      · rw [childrenAt_cons_some]
        simp only [Quantale.mul_iSup_distrib, Quantale.iSup_mul_distrib]
        exact le_iSup_of_le q (le_of_eq (by ac_rfl))

end

end ServiceHeap

end SingleTerminalLogin
