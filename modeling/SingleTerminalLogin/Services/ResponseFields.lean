import SingleTerminalLogin.Services.Robustness

/-!
# The members of a response

`getResponseMessage` links the `extendInfo` of the request into the response while it is
still chained to what stood behind it in the request.

* `ResponseFields` — `code`, `msg` and `extendInfo`, and nothing else;
* `response_fields_iff` — a response has these members exactly when `extendInfo` is the
  last member of the request and its numbers survive being printed;
* `forwarded_not_last` — in a request the dispatcher has sent on it never is.
-/

namespace SingleTerminalLogin

open ByteText Binary64 CProgram CJson MessageReceiver MessageDispatcher UserLoginImpl

/-- A member of that name with the value of an `int`. -/
structure IsInt (name : Text) (n : Int) (item : CJson) : Prop where
  string : item.string = some name
  type : item.type = .Number
  value : wrap32 item.valueint = n

/-- A member of that name with that string. -/
structure IsText (name s : Text) (item : CJson) : Prop where
  string : item.string = some name
  type : item.type = .String
  value : item.valuestring = some s

/-- The members a response is meant to have: `code`, `msg`, and the received `extendInfo`
with `logoutFd` behind its members. -/
structure ResponseFields (logoutFd code : Int) (msg : Text) (e d : CJson) : Prop where
  type : d.type = .Object
  child : ∃ codeItem msgItem extendInfoItem logoutFdItem,
    d.child = [codeItem, msgItem, extendInfoItem] ∧
      IsInt (ascii "code") code codeItem ∧ IsText (ascii "msg") msg msgItem ∧
        extendInfoItem.string = some (ascii "extendInfo") ∧ extendInfoItem.type = .Object ∧
          extendInfoItem.child = e.child ++ [logoutFdItem] ∧
            IsInt (ascii "logoutFd") logoutFd logoutFdItem

section

variable {t out msg : Text} {c d e : CJson} {next : List CJson} {logoutFd code : Int}

theorem isInt_relay {n : Int} (hn : FitsInt n) (name : Text) :
    IsInt name n (relay { createNumber (ofInt n) with string := some name }) :=
  ⟨relay_string _, relay_type _, wrap32_relay hn.1 hn.2 _⟩

/-- What arrives of a response. -/
theorem relay_responseJson_child :
    (relay (responseJson logoutFd code msg e next)).child =
      relay { createNumber (ofInt code) with string := some (ascii "code") } ::
        { createString msg with string := some (ascii "msg") } ::
          relay { addNumberToObject e (ascii "logoutFd") logoutFd with
            string := some (ascii "extendInfo") } :: next.map relay := by
  rw [relay_object (show (responseJson logoutFd code msg e next).type = .Object from rfl)]
  rfl

theorem relay_extendInfo_child (hobj : e.type = .Object) :
    (relay { addNumberToObject e (ascii "logoutFd") logoutFd with
      string := some (ascii "extendInfo") }).child =
        e.child.map relay ++
          [relay { createNumber (ofInt logoutFd) with string := some (ascii "logoutFd") }] := by
  rw [relay_object (show ({ addNumberToObject e (ascii "logoutFd") logoutFd with
    string := some (ascii "extendInfo") } : CJson).type = .Object from hobj)]
  exact List.map_append

/-- With anything chained behind `extendInfo` there are more than three members. -/
theorem responseFields_relay_iff (hlogoutFd : FitsInt logoutFd) (hcode : FitsInt code)
    (hobj : e.type = .Object) :
    ResponseFields logoutFd code msg e (relay (responseJson logoutFd code msg e next)) ↔
      next = [] ∧ e.child.map relay = e.child := by
  constructor
  · rintro ⟨-, codeItem, msgItem, extendInfoItem, logoutFdItem, hchild, -, -, -, -, hmembers, -⟩
    rw [relay_responseJson_child] at hchild
    injection hchild with _ hchild
    injection hchild with _ hchild
    injection hchild with hinfo hnext
    rw [← hinfo, relay_extendInfo_child hobj] at hmembers
    exact ⟨List.map_eq_nil_iff.1 hnext, (List.append_inj' hmembers rfl).1⟩
  · rintro ⟨rfl, hsame⟩
    refine ⟨relay_type _, _, _, _, _, relay_responseJson_child, isInt_relay hcode _,
      ⟨rfl, rfl, rfl⟩, relay_string _, (relay_type _).trans hobj, ?_, isInt_relay hlogoutFd _⟩
    rw [relay_extendInfo_child hobj, hsame]

end

/-- A response carries `code`, `msg` and the received `extendInfo` and nothing else of the
request, exactly when `extendInfo` is the last member of the request and every number in it
is finite and read back as it was. -/
theorem response_fields_iff (t out msg : Text) (logoutFd code : Int) (hlogoutFd : FitsInt logoutFd)
    (hcode : FitsInt code) (c e : CJson) (hparse : parse t = .ok (some c))
    (he : getObjectItem c (ascii "extendInfo") = some e) (hobj : e.type = .Object)
    (h : getResponseMessage t logoutFd code (cstr msg) = .ok (0, out)) :
    (∃ d, parse out = .ok (some d) ∧ ResponseFields logoutFd code (cstr msg) e d) ↔
      itemFrom c (ascii "extendInfo") = [e] ∧ allFinite e = true ∧ e.child.map relay = e.child := by
  obtain ⟨c', e', next, hparse', hitem, hprint⟩ := getResponseMessage_eq_ok h
  obtain rfl : c = c' := Option.some.inj (Except.ok.inj (hparse.symm.trans hparse'))
  obtain ⟨hfound, -, hchain⟩ := itemFrom_parsed hparse hitem
  obtain rfl : e = e' := Option.some.inj (he.symm.trans hfound)
  have hsound : Sound (responseJson logoutFd code (cstr msg) e next) := by
    apply sound_responseJson _ (cstr_noNul msg)
    · exact fun d hd => (hchain d (List.mem_cons_of_mem e hd)).1
    · exact fun d hd => (hchain d (List.mem_cons_of_mem e hd)).2
    · exact (hchain e List.mem_cons_self).1
  rw [hitem]
  constructor
  · rintro ⟨d, hd, hfields⟩
    obtain ⟨rfl, hfinite⟩ := eq_relay_of_parse hsound rfl rfl hprint hd
    obtain ⟨rfl, hsame⟩ := (responseFields_relay_iff hlogoutFd hcode hobj).1 hfields
    rw [allFinite_responseJson e (cstr msg) [] hlogoutFd hcode] at hfinite
    exact ⟨rfl, List.all_eq_true.1 hfinite e List.mem_cons_self, hsame⟩
  · rintro ⟨hlast, hfinite, hsame⟩
    obtain rfl : next = [] := List.cons.inj hlast |>.2
    refine ⟨_, parse_print hsound rfl hprint ?_,
      (responseFields_relay_iff hlogoutFd hcode hobj).2 ⟨rfl, hsame⟩⟩
    rw [allFinite_responseJson e (cstr msg) [] hlogoutFd hcode, List.all_cons, hfinite]
    rfl

/-- The dispatcher appends `operateType` to a request, so that `extendInfo` is not the last
member of it. -/
theorem forwarded_not_last {t t' : Text} {c e : CJson} (h : getServiceFdAndMessage t = .ok (0, t'))
    (hparse : parse t' = .ok (some c)) : itemFrom c (ascii "extendInfo") ≠ [e] := by
  intro hitem
  obtain ⟨j, item, type, hj, hfound, -, hprint⟩ := getServiceFdAndMessage_eq_ok h
  obtain ⟨hsound, hname, hnames⟩ := parse_sound hj
  have hobj : j.type = .Object := object_of_getObjectItem hnames hfound
  have hadded := hsound.addNumberToObject (noNul_of_notMem (by decide : 0 ∉ ascii "operateType")) type.value
  obtain ⟨rfl, -⟩ := eq_relay_of_parse hadded hname hobj hprint hparse
  obtain ⟨hnamed, front, hchild, -⟩ := itemFrom_eq_cons hitem
  rw [relay_object (show (addNumberToObject j (ascii "operateType") type.value).type = .Object from hobj),
    addNumberToObject, addItemToObject_child, List.map_append] at hchild
  have hlast := (List.append_inj' hchild rfl).2
  rw [List.map_singleton, List.cons.injEq] at hlast
  rw [named, ← hlast.1, relay_string] at hnamed
  exact absurd hnamed (by decide : ¬ decide (strcasecmp (some (ascii "operateType")) (ascii "extendInfo") = 0))

/-- What the theorem asks of a request, in a form that is computed. -/
def infoShapes (t : Text) : C (Option (List (CJsonType × Nat × Bool))) := do
  let json ← parse t
  .ok (json.map fun c => (itemFrom c (ascii "extendInfo")).map fun e => (e.type, e.child.length, allFinite e))

/-- A request whose `extendInfo` stands last. -/
def infoLast : Text := ascii "\x7b\"operateType\":3,\"extendInfo\":\x7b\x7d\x7d"

/-- Nothing but its `extendInfo` is in the response. -/
theorem response_fields_iff_infoLast :
    ∃ c e d, parse infoLast = .ok (some c) ∧ getObjectItem c (ascii "extendInfo") = some e ∧
      ResponseFields (-1) 0 (cstr (ascii "logout success!")) e d := by
  have hshapes : infoShapes infoLast = .ok (some [(.Object, 0, true)]) := by decide
  obtain ⟨json, hparse, hshapes⟩ := bind_eq_ok.1 hshapes
  cases json with
  | none => cases hshapes
  | some c =>
    have hitems := Option.some.inj (Except.ok.inj hshapes)
    obtain ⟨e, hitem, he⟩ := List.map_eq_singleton_iff.1 hitems
    simp only [Prod.mk.injEq, List.length_eq_zero_iff] at he
    obtain ⟨hobj, hempty, hfinite⟩ := he
    have hfound : getObjectItem c (ascii "extendInfo") = some e := by
      rw [getObjectItem, hitem]
      rfl
    have hret : (getResponseMessage infoLast (-1) 0 (cstr (ascii "logout success!"))).map Prod.fst = .ok 0 := by
      decide +kernel
    cases hresponse : getResponseMessage infoLast (-1) 0 (cstr (ascii "logout success!")) with
    | error e =>
      rw [hresponse] at hret
      cases hret
    | ok r =>
      obtain ⟨ret, out⟩ := r
      rw [hresponse] at hret
      obtain rfl : ret = 0 := Except.ok.inj hret
      obtain ⟨d, -, hfields⟩ := (response_fields_iff infoLast out _ (-1) 0 ⟨by decide, by decide⟩
        ⟨by decide, by decide⟩ c e
        hparse hfound hobj hresponse).2 ⟨hitem, hfinite, by rw [hempty]; rfl⟩
      exact ⟨c, e, d, hparse, hfound, hfields⟩

/-- The same request with `extendInfo` in front. -/
def infoFirst : Text := ascii "\x7b\"extendInfo\":\x7b\x7d,\"operateType\":3\x7d"

/-- The response to it. -/
def infoFirstAnswered : Text :=
  ascii "\x7b\"code\":0,\"msg\":\"\",\"extendInfo\":\x7b\"logoutFd\":-1\x7d,\"operateType\":3\x7d"

/-- A response takes along what stood behind `extendInfo`. -/
theorem infoFirst_takes_along :
    ¬ ∀ (t out msg : Text) (logoutFd code : Int) (c e : CJson), FitsInt logoutFd → FitsInt code →
      parse t = .ok (some c) → getObjectItem c (ascii "extendInfo") = some e → e.type = .Object →
      getResponseMessage t logoutFd code (cstr msg) = .ok (0, out) →
      ∃ d, parse out = .ok (some d) ∧ ResponseFields logoutFd code (cstr msg) e d := by
  intro hall
  have hshapes : infoShapes infoFirst = .ok (some [(.Object, 0, true), (.Number, 0, true)]) := by
    decide +kernel
  obtain ⟨json, hparse, hshapes⟩ := bind_eq_ok.1 hshapes
  cases json with
  | none => cases hshapes
  | some c =>
    have hitems := Option.some.inj (Except.ok.inj hshapes)
    obtain ⟨e, rest, hitem, he, -⟩ := List.map_eq_cons_iff.1 hitems
    have hfound : getObjectItem c (ascii "extendInfo") = some e := by
      rw [getObjectItem, hitem]
      rfl
    obtain ⟨d, hd, hfields⟩ := hall infoFirst infoFirstAnswered [] (-1) 0 c e
      ⟨by decide, by decide⟩ ⟨by decide, by decide⟩
      hparse hfound (Prod.ext_iff.1 he).1 (by decide +kernel)
    have hfour : (parse infoFirstAnswered).map (Option.map fun d => d.child.length) = .ok (some 4) := by
      decide +kernel
    rw [hd] at hfour
    obtain ⟨codeItem, msgItem, extendInfoItem, logoutFdItem, hchild, -⟩ := hfields.child
    have hlength : d.child.length = 4 := Option.some.inj (Except.ok.inj hfour)
    rw [hchild] at hlength
    cases hlength

end SingleTerminalLogin
