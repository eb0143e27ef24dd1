import SingleTerminalLogin.Client.Requests
import SingleTerminalLogin.Services.LookupMemory

/-!
# The memory of the services in the long run

Every message a service deals with leaves blocks behind that nothing points to any more: the text
that was printed, the trees that were only read, and in the login manager the part of the request
in front of `extendInfo`.

* `receiver_memory`, `dispatcher_memory` — how many blocks any messages leave behind;
* `manager_memory` — how many the commands of the client leave behind, whatever the database says.

In each of them the messages and answers are those of the functions over trees, no block is used
after it has been freed, and what was in memory before is not touched.
-/

namespace SingleTerminalLogin

open ByteText Binary64 CProgram CJson Proc SepLogic HProp HeapM SqlLex UserLoginImpl

namespace ServiceHeap

/-! ## The login manager -/

/-- A call of a `Loginer` or a `Register`, with what is made of its result. -/
def call {α : Type} (x : Proc Connection α) (c : Connection) : HeapM Block (α × Connection) := do
  let a ← HeapM.lift (x c).1
  pure (a, (x c).2)

section

variable (m : Mysql)

/-- `UserLoginImpl::processLogin`. -/
def processLogin (receivedMessage : Text) (c : Connection) : HeapM Block (Operation × Connection) := do
  match ← loginParameters receivedMessage with
  | none => pure ({ ret := -1 }, c)
  | some (userName, passWord, clientFd) =>
    call (do
      let r ← onCopy (Loginer.processLogin m userName passWord clientFd)
      pure { ret := if r.ret ≠ 0 then -1 else 0, logoutFd := r.logoutFd, errcode := r.code,
             errmsg := r.msg }) c

/-- `UserLoginImpl::processLogout`. -/
def processLogout (receivedMessage : Text) (c : Connection) :
    HeapM Block (Operation × Connection) := do
  match ← logoutParameters receivedMessage with
  | none => pure ({ ret := -1 }, c)
  | some userName =>
    call (do
      let r ← onCopy (Loginer.processLogout m userName)
      pure { ret := if r.ret ≠ 0 then -1 else 0, errcode := r.code, errmsg := r.msg }) c

/-- `UserLoginImpl::processRegist`. -/
def processRegist (receivedMessage : Text) (c : Connection) :
    HeapM Block (Operation × Connection) := do
  match ← registParameters receivedMessage with
  | none => pure ({ ret := -1 }, c)
  | some (userName, passWord) =>
    call (do
      let r ← onCopy (Register.processRegist m userName passWord [])
      pure { ret := if r.ret ≠ 0 then -1 else 0, errcode := r.code, errmsg := r.msg }) c

/-- The `switch` of `UserLoginImpl::dealClientMessage`. -/
def operate (receivedMessage : Text) (operateType : Int) (c : Connection) :
    HeapM Block (Operation × Connection) := do
  match MessageType.ofInt operateType with
  | some .REGIST => do
    let r ← processRegist m receivedMessage c
    pure (unexpected r.1 (ascii "SYSTEM ERROR: process regist occur unexpect error!"), r.2)
  | some .LOGIN => do
    let r ← processLogin m receivedMessage c
    pure (unexpected r.1 (ascii "SYSTEM ERROR: process login occur unexpect error!"), r.2)
  | some .LOGOUT => do
    let r ← processLogout m receivedMessage c
    pure (unexpected r.1 (ascii "SYSTEM ERROR: process logout occur unexpect error!"), r.2)
  | none =>
    pure ({ ret := -1, errcode := .SYSTEM_ERROR,
            errmsg := ascii "SYSTEM ERROR: operateType is illegal!" }, c)

/-- `UserLoginImpl::dealClientMessage`, up to the write. -/
def dealClientMessage (receivedMessage : Text) (c : Connection) : HeapM Block (Text × Connection) := do
  let r ← getOperateType receivedMessage
  let op ← if r.1 ≠ 0 then
      pure ({ ret := -1, errmsg := ascii "SYSTEM ERROR:Message format error!" }, c)
    else operate m receivedMessage r.2 c
  let response ←
    getResponseMessage receivedMessage op.1.logoutFd op.1.errcode.value op.1.errmsg
  pure (response.2, op.2)

/-- One message after the other. -/
def dealClientMessages : List Text → Connection → HeapM Block (List Text × Connection)
  | [], c => pure ([], c)
  | message :: messages, c => do
    let r ← dealClientMessage m message c
    let rs ← dealClientMessages messages r.2
    pure (r.1 :: rs.1, rs.2)

end

end ServiceHeap

/-- One message after the other, over trees. -/
def UserLoginImpl.dealClientMessages (m : Mysql) : List Text → Proc Connection (List Text)
  | [] => pure []
  | message :: messages => do
    let response ← UserLoginImpl.dealClientMessage m message
    let responses ← UserLoginImpl.dealClientMessages m messages
    pure (response :: responses)

namespace ServiceHeap

/-! ## One message of the login manager -/

section

variable {g : Grants}

theorem call_spec {α : Type} {P : HProp Block} {x : Proc Connection α} {c c' : Connection} {a : α}
    (h : x c = (.ok a, c')) : Triple g P (call x c) fun r => fact (r = (a, c')) * P := by
  have hx : (x c).1 = .ok a := congrArg Prod.fst h
  refine (Triple.lift hx).bind fun b => Triple.fact_pre ?_
  rintro rfl
  exact Triple.pure (le_fact_mul (congrArg (Prod.mk b) (congrArg Prod.snd h)) le_rfl)

variable (hg : ¬ Denied g) {m : Mysql} {t : Text} {json : CJson} {c c' : Connection} {op : Operation}
  (hparse : CJson.parse t = .ok (some json))

include hg hparse

theorem processLogin_spec {r : Option (Text × Text × Int)} (hr : UserLoginImpl.loginParameters t = .ok r)
    (h : UserLoginImpl.processLogin m t c = (.ok op, c')) :
    Triple g 1 (processLogin m t c) fun r' => fact (r' = (op, c')) * readLeft json r.isNone := by
  rw [UserLoginImpl.processLogin, lift_bind_run_ok hr] at h
  refine (loginParameters_spec hg hparse hr).bind fun r' => Triple.fact_pre ?_
  rintro rfl
  cases r' with
  | none =>
    cases h
    exact Triple.pure (le_fact_mul rfl le_rfl)
  | some a => exact call_spec h

theorem processLogout_spec {r : Option Text} (hr : UserLoginImpl.logoutParameters t = .ok r)
    (h : UserLoginImpl.processLogout m t c = (.ok op, c')) :
    Triple g 1 (processLogout m t c) fun r' => fact (r' = (op, c')) * readLeft json r.isNone := by
  rw [UserLoginImpl.processLogout, lift_bind_run_ok hr] at h
  refine (logoutParameters_spec hg hparse hr).bind fun r' => Triple.fact_pre ?_
  rintro rfl
  cases r' with
  | none =>
    cases h
    exact Triple.pure (le_fact_mul rfl le_rfl)
  | some a => exact call_spec h

theorem processRegist_spec {r : Option (Text × Text)} (hr : UserLoginImpl.registParameters t = .ok r)
    (h : UserLoginImpl.processRegist m t c = (.ok op, c')) :
    Triple g 1 (processRegist m t c) fun r' => fact (r' = (op, c')) * readLeft json r.isNone := by
  rw [UserLoginImpl.processRegist, lift_bind_run_ok hr] at h
  refine (registParameters_spec hg hparse hr).bind fun r' => Triple.fact_pre ?_
  rintro rfl
  cases r' with
  | none =>
    cases h
    exact Triple.pure (le_fact_mul rfl le_rfl)
  | some a => exact call_spec h

end

section

variable {g : Grants} (hg : ¬ Denied g) {m : Mysql} {t : Text} {r : Request} {fd : Int}
  {c c' : Connection} {op : Operation} (hparse : CJson.parse t = .ok (some (managerJson r fd)))

include hg hparse

/-- The operation a command asks for: its parameters are there. -/
theorem operate_spec (hfd : FitsInt fd)
    (h : UserLoginImpl.operate m t r.messageType.value c = (.ok op, c')) :
    Triple g 1 (operate m t r.messageType.value c) fun r' =>
      fact (r' = (op, c')) * readLeft (managerJson r fd) false := by
  rw [UserLoginImpl.operate, MessageType.ofInt_value] at h
  rw [operate, MessageType.ofInt_value]
  cases r with
  | regist u p =>
    obtain ⟨op', c'', hop, h⟩ := bind_run_split h
    cases h
    refine (processRegist_spec hg hparse (registParameters_request hparse) hop).bind fun r' =>
      Triple.fact_pre ?_
    rintro rfl
    exact Triple.pure (le_fact_mul rfl le_rfl)
  | login u p =>
    obtain ⟨op', c'', hop, h⟩ := bind_run_split h
    cases h
    refine (processLogin_spec hg hparse (loginParameters_request hfd hparse) hop).bind fun r' =>
      Triple.fact_pre ?_
    rintro rfl
    exact Triple.pure (le_fact_mul rfl le_rfl)
  | logout u =>
    obtain ⟨op', c'', hop, h⟩ := bind_run_split h
    cases h
    refine (processLogout_spec hg hparse (logoutParameters_request hparse) hop).bind fun r' =>
      Triple.fact_pre ?_
    rintro rfl
    exact Triple.pure (le_fact_mul rfl le_rfl)

omit hg in
theorem getResponseMessage_request {logoutFd code : Int} {msg : Text} {r' : Int × Text}
    (h : UserLoginImpl.getResponseMessage t logoutFd code msg = .ok r') : r'.1 = 0 := by
  rw [UserLoginImpl.getResponseMessage, hparse] at h
  simp only [ok_bind, deref_some, itemFrom_managerJson] at h
  obtain ⟨txt, -, h⟩ := bind_eq_ok.1 h
  cases h
  rfl

/-- What one command leaves behind in the login manager: the request twice, the text of the response,
and what is in front of `extendInfo`. -/
noncomputable def commandLeft (r : Request) (fd : Int) : HProp Block :=
  readLeft (managerJson r fd) false * (readLeft (managerJson r fd) false *
    ((⨆ t : Text, textBlock t) * stump (managerJson r fd)
      ((managerJson r fd).child.takeWhile fun c => !CJson.named (ascii "extendInfo") c)))

theorem dealClientMessage_spec (hfd : FitsInt fd) {out : Text}
    (h : UserLoginImpl.dealClientMessage m t c = (.ok out, c')) :
    Triple g 1 (dealClientMessage m t c) fun r' => fact (r' = (out, c')) * commandLeft r fd := by
  have htype := getOperateType_request hparse
  rw [UserLoginImpl.dealClientMessage, lift_bind_run_ok htype, if_neg (not_not_intro rfl)] at h
  obtain ⟨op, c₁, hop, h⟩ := bind_run_split h
  obtain ⟨response, c₂, hresponse, h⟩ := bind_run_split h
  cases h
  cases hmessage : UserLoginImpl.getResponseMessage t op.logoutFd op.errcode.value op.errmsg with
  | error e =>
    rw [hmessage] at hresponse
    cases hresponse
  | ok r₀ =>
    rw [hmessage] at hresponse
    cases hresponse
    refine (getOperateType_spec hg hparse htype).bind fun r' => Triple.fact_pre ?_
    rintro rfl
    rw [if_neg (not_not_intro rfl)]
    refine (operate_spec hg hparse hfd hop).step (one_mul _).symm fun r' => ?_
    rw [mul_assoc]
    refine Triple.fact_pre ?_
    rintro rfl
    refine (getResponseMessage_spec hg hparse hmessage).step (one_mul _).symm fun r' => ?_
    rw [mul_assoc]
    refine Triple.fact_pre ?_
    rintro rfl
    refine Triple.pure (le_fact_mul rfl ?_)
    rw [managerLeft, if_pos (getResponseMessage_request hparse hmessage), commandLeft, mul_comm]
    rw [mul_assoc]
    refine mul_le_mul' le_rfl (mul_le_mul' le_rfl (mul_le_mul' ?_ le_rfl))
    exact le_iSup (fun t => textBlock t) _

end

/-! ## How many blocks -/

open CJsonHeap (blocks blocksList textBlocks counts_textAt counts_itemAt counts_chain)

/-- How many blocks the tree of a text takes. -/
def treeSize (t : Text) : ℕ :=
  match CJson.parse t with
  | .ok (some c) => blocks c
  | _ => 0

theorem treeSize_eq {t : Text} {c : CJson} (h : CJson.parse t = .ok (some c)) :
    treeSize t = blocks c := by
  rw [treeSize, h]

theorem counts_textBlock (t : Text) : Counts 1 (textBlock t) :=
  Counts.iSup fun b => counts_textAt (some b) (some t)

theorem counts_treeBlocks (c : CJson) : Counts (blocks c) (treeBlocks c) :=
  Counts.iSup fun a => counts_itemAt c a none none

theorem counts_readLeft (c : CJson) (refused : Bool) :
    Counts (blocks c + if refused then 1 else 0) (readLeft c refused) := by
  refine (counts_treeBlocks c).mul ?_
  cases refused with
  | false => exact counts_one
  | true => exact Counts.iSup counts_textBlock

theorem counts_dispatcherLeft (c : CJson) (r : Int × Text) :
    Counts (if r.1 = 0 then 1 else blocks c + 1) (dispatcherLeft c r) := by
  rw [dispatcherLeft]
  split
  · exact counts_textBlock r.2
  · exact (counts_treeBlocks c).mul (Counts.iSup counts_textBlock)

theorem counts_stump (c : CJson) (front : List CJson) :
    Counts (1 + (textBlocks c.valuestring + (textBlocks c.string + blocksList front)))
      (stump c front) := by
  refine Counts.iSup fun b => Counts.iSup fun pc => Counts.iSup fun pv => Counts.iSup fun ps =>
    Counts.iSup fun m => Counts.iSup fun i => ?_
  refine (counts_pointsTo _ _).mul ((counts_textAt pv _).mul ((counts_textAt ps _).mul ?_))
  exact counts_chain front pc none m (some i)

theorem blocks_eq (c : CJson) :
    blocks c = 1 + (textBlocks c.valuestring + (textBlocks c.string + blocksList c.child)) := by
  rcases c with ⟨ty, vs, vi, vd, s, child⟩
  rw [blocks]

/-- The tree of a command, member by member. -/
theorem child_managerJson (r : Request) (fd : Int) :
    (managerJson r fd).child =
      [{ createNumber (ofInt r.messageType.value) with string := some (ascii "messageType") },
        { r.messageItem with string := some (ascii "message") },
        { MessageReceiver.extendInfo fd with string := some (ascii "extendInfo") },
        { createNumber (ofInt r.messageType.value) with string := some (ascii "operateType") }] :=
  rfl

theorem blocks_messageItem (r : Request) :
    blocks { r.messageItem with string := some (ascii "message") } =
      if r.messageType = .LOGOUT then 5 else 8 := by
  cases r <;> rfl

theorem blocks_managerJson (r : Request) (fd : Int) :
    blocks (managerJson r fd) = if r.messageType = .LOGOUT then 14 else 17 := by
  have hnumber : ∀ n name, blocks { createNumber (ofInt n) with string := some name } = 2 :=
    fun n name => rfl
  have hinfo : blocks { MessageReceiver.extendInfo fd with string := some (ascii "extendInfo") } = 4 :=
    rfl
  have hvalue : textBlocks (managerJson r fd).valuestring = 0 := rfl
  have hname : textBlocks (managerJson r fd).string = 0 := rfl
  rw [blocks_eq, child_managerJson, hvalue, hname]
  simp only [blocksList, hnumber, hinfo, blocks_messageItem]
  split <;> rfl

/-- How many blocks a command leaves behind in the login manager. -/
def blocksOfCommand : Request → ℕ
  | .regist _ _ => 46
  | .login _ _ => 46
  | .logout _ => 37

/-- What is in front of `extendInfo`. -/
theorem front_managerJson (r : Request) (fd : Int) :
    ((managerJson r fd).child.takeWhile fun c => !CJson.named (ascii "extendInfo") c) =
      [{ createNumber (ofInt r.messageType.value) with string := some (ascii "messageType") },
        { r.messageItem with string := some (ascii "message") }] := by
  rw [child_managerJson]
  rfl

theorem counts_commandLeft (r : Request) (fd : Int) : Counts (blocksOfCommand r) (commandLeft r fd) := by
  have hcounts := (counts_readLeft (managerJson r fd) false).mul
    ((counts_readLeft (managerJson r fd) false).mul
      ((Counts.iSup counts_textBlock).mul (counts_stump (managerJson r fd)
        ((managerJson r fd).child.takeWhile fun c => !CJson.named (ascii "extendInfo") c))))
  have hnumber : blocks { createNumber (ofInt r.messageType.value) with
      string := some (ascii "messageType") } = 2 := rfl
  have hvalue : textBlocks (managerJson r fd).valuestring = 0 := rfl
  have hname : textBlocks (managerJson r fd).string = 0 := rfl
  rw [blocks_managerJson, hvalue, hname] at hcounts
  rw [commandLeft]
  rw [front_managerJson] at hcounts ⊢
  simp only [blocksList, hnumber, blocks_messageItem] at hcounts
  cases r <;> exact hcounts

/-! ## Many messages -/

section

variable {g : Grants} (hg : ¬ Denied g)

include hg

/-- The login manager, over the commands of the client. -/
theorem dealClientMessages_spec {m : Mysql} {qs : List (Request × Int)} {ts outs : List Text}
    {c c' : Connection} (hfits : ∀ q ∈ qs, FitsInt q.2)
    (hts : List.Forall₂ (fun t q => CJson.parse t = .ok (some (managerJson q.1 q.2))) ts qs)
    (h : UserLoginImpl.dealClientMessages m ts c = (.ok outs, c')) :
    Triple g 1 (dealClientMessages m ts c) fun r =>
      fact (r = (outs, c')) * (qs.map fun q => commandLeft q.1 q.2).prod := by
  induction hts generalizing c outs with
  | nil =>
    cases h
    exact Triple.pure (le_fact_mul rfl le_rfl)
  | @cons t q ts qs hparse hts ih =>
    obtain ⟨out, c₁, hout, h⟩ := bind_run_split h
    obtain ⟨outs', c₂, houts, h⟩ := bind_run_split h
    cases h
    refine (dealClientMessage_spec hg hparse (hfits q (by simp)) hout).bind fun r =>
      Triple.fact_pre ?_
    rintro rfl
    refine (ih (fun q hq => hfits q (by simp [hq])) houts).step (one_mul _).symm fun rs => ?_
    rw [mul_assoc]
    refine Triple.fact_pre ?_
    rintro rfl
    refine Triple.pure (le_fact_mul rfl ?_)
    rw [List.map_cons, List.prod_cons, mul_comm]

end

/-- A request of a client as the receiver meets it. -/
structure Exchange where
  message : Text
  sendToClientFd : Int
  response : Text

/-- `MessageReceiver::dealClientMessage` between its reads and writes: what is written to the
dispatcher, and the members of the response. -/
def exchange (q : Exchange) : HeapM Block (Text × Option (Text × Int)) := do
  let needSendMessage ← getNeedSendMessage q.message q.sendToClientFd
  let members ← responseMembers q.response
  pure (needSendMessage, members)

/-- **The receiver** leaves the text of every request and the tree of every response behind, and one
text more for every response it does not understand. -/
theorem receiver_memory {g : Grants} (hg : ¬ Denied g) (qs : List Exchange)
    (r : Exchange → Text × Option (Text × Int))
    (hsent : ∀ q ∈ qs, MessageReceiver.getNeedSendMessage q.message q.sendToClientFd = .ok (r q).1)
    (hread : ∀ q ∈ qs, MessageReceiver.responseMembers q.response = .ok (r q).2) (s : Memory Block) :
    ∃ s', qs.mapM exchange g s = .ok (qs.map r, s') ∧
      s.GrownBy (qs.map fun q => 1 + (treeSize q.response + if (r q).2.isNone then 1 else 0)).sum
        s' := by
  refine (Triple.mapM (L := fun q => textBlock (r q).1 *
    ⨆ c : CJson, fact (CJson.parse q.response = .ok (some c)) * readLeft c (r q).2.isNone)
    fun q hq => ?_).grows (counts_prod fun q _ => ?_) s
  · obtain ⟨json, hparse, -⟩ := MessageReceiver.responseMembers_cases (hread q hq)
    refine (getNeedSendMessage_spec hg (hsent q hq)).bind fun t => Triple.fact_pre ?_
    rintro rfl
    refine (responseMembers_spec hg hparse (hread q hq)).step (one_mul _).symm fun members => ?_
    rw [mul_assoc]
    refine Triple.fact_pre ?_
    rintro rfl
    refine Triple.pure (le_fact_mul rfl ?_)
    rw [mul_comm]
    exact mul_le_mul' le_rfl (le_iSup_of_le json (le_fact_mul hparse le_rfl))
  · refine (counts_textBlock _).mul (Counts.iSup fun c => Counts.fact_mul fun hparse => ?_)
    rw [treeSize_eq hparse]
    exact counts_readLeft c _

/-- A `logout` and its response. -/
def answeredLogout : Exchange where
  message := ascii "\x7b\"messageType\":3,\"message\":\x7b\"userName\":\"v\"\x7d\x7d"
  sendToClientFd := 6
  response := ascii "\x7b\"msg\":\"ok\",\"extendInfo\":\x7b\"logoutFd\":-1\x7d\x7d"

/-- What is written to the dispatcher for it. -/
def logoutToDispatcher : Text :=
  ascii "\x7b\"messageType\":3,\"message\":\x7b\"userName\":\"v\"\x7d,\"extendInfo\":\x7b\"clientFd\":6\x7d\x7d"

/-- Nine blocks are left of it. -/
theorem receiver_memory_logout :
    ∃ s', [answeredLogout].mapM exchange (fun _ => true) .empty =
        .ok ([(logoutToDispatcher, some (ascii "ok", -1))], s') ∧
      Memory.empty.GrownBy 9 s' := by
  have hsize : treeSize answeredLogout.response = 8 := by decide +kernel
  have h := receiver_memory (g := fun _ => true) (by simp [Denied]) [answeredLogout]
    (fun _ => (logoutToDispatcher, some (ascii "ok", -1))) (by decide +kernel) (by decide +kernel)
    .empty
  simpa [hsize] using h

/-- **The dispatcher** leaves the text of every request it passes on behind, and the tree and the
text of every other one. -/
theorem dispatcher_memory {g : Grants} (hg : ¬ Denied g) (ts : List Text) (r : Text → Int × Text)
    (h : ∀ t ∈ ts, MessageDispatcher.getServiceFdAndMessage t = .ok (r t)) (s : Memory Block) :
    ∃ s', ts.mapM getServiceFdAndMessage g s = .ok (ts.map r, s') ∧
      s.GrownBy (ts.map fun t => if (r t).1 = 0 then 1 else treeSize t + 1).sum s' := by
  refine (Triple.mapM (L := fun t => ⨆ c : CJson, fact (CJson.parse t = .ok (some c)) *
    dispatcherLeft c (r t)) fun t ht => ?_).grows (counts_prod fun t _ => ?_) s
  · obtain ⟨o, hparse, hrest⟩ := bind_eq_ok.1 (h t ht)
    cases o with
    | none => cases hrest
    | some json =>
      refine (getServiceFdAndMessage_spec hg hparse (h t ht)).weaken le_rfl fun r' => ?_
      exact mul_le_mul' le_rfl (le_iSup_of_le json (le_fact_mul hparse le_rfl))
  · refine Counts.iSup fun c => Counts.fact_mul fun hparse => ?_
    rw [treeSize_eq hparse]
    exact counts_dispatcherLeft c _

/-- What is written to the login manager for it. -/
def logoutToManager : Text :=
  ascii "\x7b\"messageType\":3,\"message\":\x7b\"userName\":\"v\"\x7d,\"extendInfo\":\x7b\"clientFd\":6\x7d,\"operateType\":3\x7d"

/-- One block is left of a request that is passed on, and two of one without a `messageType`. -/
theorem dispatcher_memory_logout :
    ∃ s', [logoutToDispatcher, ascii "\x7b\x7d"].mapM getServiceFdAndMessage (fun _ => true) .empty =
        .ok ([(0, logoutToManager), (-1, [])], s') ∧
      Memory.empty.GrownBy 3 s' := by
  have hsize : treeSize (ascii "\x7b\x7d") = 1 := by decide +kernel
  have h := dispatcher_memory (g := fun _ => true) (by simp [Denied])
    [logoutToDispatcher, ascii "\x7b\x7d"]
    (fun t => if t = logoutToDispatcher then (0, logoutToManager) else (-1, [])) (by decide +kernel)
    .empty
  have hne : ascii "\x7b\x7d" ≠ logoutToDispatcher := by decide +kernel
  simpa [hsize, hne] using h

/-- **The login manager** loses 46 blocks with every `regist` and `login` and 37 with every `logout`
that a client sends, whatever the database answers. -/
theorem manager_memory {g : Grants} (hg : ¬ Denied g) {m : Mysql} {qs : List (Request × Int)}
    {ts outs : List Text} {c c' : Connection} (hfits : ∀ q ∈ qs, FitsInt q.2)
    (hts : List.Forall₂ (fun t q => CJson.parse t = .ok (some (managerJson q.1 q.2))) ts qs)
    (h : UserLoginImpl.dealClientMessages m ts c = (.ok outs, c')) (s : Memory Block) :
    ∃ s', dealClientMessages m ts c g s = .ok ((outs, c'), s') ∧
      s.GrownBy (qs.map fun q => blocksOfCommand q.1).sum s' :=
  (dealClientMessages_spec hg hfits hts h).grows
    (counts_prod fun q _ => counts_commandLeft q.1 q.2) s

/-- The command. -/
def logoutCommand : Request := .logout ⟨ascii "v", noNul_of_notMem (by decide)⟩

theorem parse_logoutToManager :
    CJson.parse logoutToManager = .ok (some (managerJson logoutCommand 6)) := by
  have hprint : CJson.print (managerJson logoutCommand 6) = .ok logoutToManager := by decide +kernel
  have hfits : FitsInt 6 := ⟨by decide, by decide⟩
  obtain ⟨t, ht, hparse⟩ := (settled_managerJson logoutCommand hfits).arrives rfl
  rw [hprint] at ht
  cases ht
  exact hparse

/-- A user whom nobody knows logs out. -/
theorem manager_memory_logout :
    ∃ outs c' s', dealClientMessages memoryServer [logoutToManager] { db := {} } (fun _ => true) .empty =
        .ok ((outs, c'), s') ∧
      Memory.empty.GrownBy 37 s' := by
  have hok : ((UserLoginImpl.dealClientMessages memoryServer [logoutToManager] { db := {} }).1).isOk =
      true := by decide +kernel
  have hts : List.Forall₂ (fun t q => CJson.parse t = .ok (some (managerJson q.1 q.2)))
      [logoutToManager] [(logoutCommand, 6)] := .cons parse_logoutToManager .nil
  have hfits : ∀ q ∈ [(logoutCommand, (6 : Int))], FitsInt q.2 := by simp [FitsInt]
  cases hrun : UserLoginImpl.dealClientMessages memoryServer [logoutToManager] { db := {} } with
  | mk r c' =>
    rw [hrun] at hok
    cases r with
    | error e => cases hok
    | ok outs =>
      obtain ⟨s', hs, hgrown⟩ :=
        manager_memory (g := fun _ => true) (by simp [Denied]) hfits hts hrun .empty
      exact ⟨outs, c', s', hs, hgrown⟩

end ServiceHeap

end SingleTerminalLogin
