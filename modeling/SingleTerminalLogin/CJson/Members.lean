import SingleTerminalLogin.CJson.RoundTrip

/-!
# Members of objects

Every message is an object one hop has built and the next one looks members up in.

* `getObjectItem_append`, `object_of_getObjectItem` — what a look-up finds;
* `Sound.addItemToObject`, `printable_addItemToObject`, `allFinite_addItemToObject` —
  what adding a member keeps;
* `Settled` — trees that arrive at the next hop as they are, with
  `Settled.arrives`: everything the services build from integers, strings and
  objects is one.
-/

namespace SingleTerminalLogin

open ByteText Binary64 CProgram

namespace CJson

/-! ## Looking up -/

section

variable {c d e : CJson} {name : Text}

theorem getObjectItem_mem (h : getObjectItem c name = some d) : d ∈ c.child := by
  rw [getObjectItem_eq_find?] at h
  exact List.mem_of_find?_eq_some h

/-- Items with names are only found in objects. -/
theorem object_of_getObjectItem (hn : c.type ≠ .Object → ∀ d ∈ c.child, d.string = none)
    (h : getObjectItem c name = some d) : c.type = .Object := by
  by_contra hty
  have hnone := hn hty d (getObjectItem_mem h)
  rw [getObjectItem_eq_find?] at h
  have hnamed := List.find?_some h
  simp [named, strcasecmp, hnone] at hnamed

/-- A member that is appended is found unless there is one of its name already. -/
theorem getObjectItem_append (hself : strcasecmpLoop name name = 0) (next : List CJson) :
    getObjectItem (addItemToObject c name e next) name =
      some ((getObjectItem c name).getD { e with string := some name }) := by
  cases h : getObjectItem c name with
  | none => exact getObjectItem_addItemToObject hself h next
  | some d => exact getObjectItem_addItemToObject_some h next

/-! ## Adding -/

theorem Sound.addItemToObject (hc : Sound c) (he : Sound e) (hname : NoNul name)
    {next : List CJson} (hnext : ∀ d ∈ next, Sound d)
    (hnames : ∀ d ∈ next, ∃ t, d.string = some t ∧ NoNul t) :
    Sound (addItemToObject c name e next) := by
  have hsound : ∀ d ∈ ({ e with string := some name } :: next : List CJson), Sound d := by
    intro d hd
    rcases List.mem_cons.1 hd with rfl | hd
    · exact he.rename _
    · exact hnext d hd
  have hnamed : ∀ d ∈ ({ e with string := some name } :: next : List CJson),
      ∃ t, d.string = some t ∧ NoNul t := by
    intro d hd
    rcases List.mem_cons.1 hd with rfl | hd
    · exact ⟨name, rfl, hname⟩
    · exact hnames d hd
  cases hc with
  | leaf h => exact .leaf h
  | string t h hs hn => exact .string t h hs hn
  | array h hc =>
    refine .array h fun d hd => ?_
    rcases List.mem_append.1 hd with hd | hd
    · exact hc d hd
    · exact hsound d hd
  | object h hn hc =>
    refine .object h (fun d hd => ?_) fun d hd => ?_
    · rcases List.mem_append.1 hd with hd | hd
      · exact hn d hd
      · exact hnamed d hd
    · rcases List.mem_append.1 hd with hd | hd
      · exact hc d hd
      · exact hsound d hd

/-- The same for an item nothing is chained behind. -/
theorem Sound.addItem (hc : Sound c) (he : Sound e) (hname : NoNul name) :
    Sound (CJson.addItemToObject c name e []) :=
  hc.addItemToObject he hname (List.forall_mem_nil _) (List.forall_mem_nil _)

theorem sound_createNumber (x : Double) : Sound (createNumber x) :=
  .leaf (Or.inr (Or.inr (Or.inr rfl)))

theorem Sound.addNumberToObject (hc : Sound c) (hname : NoNul name) (n : Int) :
    Sound (addNumberToObject c name n) :=
  hc.addItem (sound_createNumber _) hname

theorem sound_createObject : Sound createObject :=
  .object rfl (List.forall_mem_nil _) (List.forall_mem_nil _)

/-- The numbers of an object with one more member. -/
theorem allNumbers_addItemToObject (p : CJson → Bool) (hty : c.type = .Object ∨ c.type = .Array)
    (next : List CJson) :
    allNumbers p (addItemToObject c name e next) =
      (c.child.all (allNumbers p) && allNumbers p { e with string := some name } &&
        next.all (allNumbers p)) := by
  rcases c with ⟨t, s, i, x, n, child⟩
  rcases hty with h | h <;> cases h <;>
  · change allNumbersList p (child ++ _ :: next) = _
    rw [allNumbersList_eq_all, List.all_append, List.all_cons, Bool.and_assoc]

theorem printable_addItemToObject (hty : c.type = .Object ∨ c.type = .Array) (next : List CJson) :
    printable (addItemToObject c name e next) =
      (c.child.all printable && printable { e with string := some name } && next.all printable) :=
  allNumbers_addItemToObject _ hty next

theorem allFinite_addItemToObject (hty : c.type = .Object ∨ c.type = .Array) (next : List CJson) :
    allFinite (addItemToObject c name e next) =
      (c.child.all allFinite && allFinite { e with string := some name } && next.all allFinite) :=
  allNumbers_addItemToObject _ hty next

theorem allNumbers_rename (p : CJson → Bool) (hp : ∀ c n, p { c with string := n } = p c)
    (c : CJson) (n : Option Text) : allNumbers p { c with string := n } = allNumbers p c := by
  rcases c with ⟨t, s, i, x, m, child⟩
  cases t with
  | Number => exact hp ⟨.Number, s, i, x, m, []⟩ n
  | _ => rfl

theorem allFinite_rename (c : CJson) (n : Option Text) :
    allFinite { c with string := n } = allFinite c :=
  allNumbers_rename _ (fun _ _ => rfl) c n

/-- Members with no number against `p` do not change whether there is one. -/
theorem allNumbers_addItemToObject_of (p : CJson → Bool) (hp : ∀ c n, p { c with string := n } = p c)
    (he : allNumbers p e = true) {next : List CJson} (hnext : ∀ d ∈ next, allNumbers p d = true) :
    allNumbers p (addItemToObject c name e next) = allNumbers p c := by
  have hadd : (c.type = .Object ∨ c.type = .Array) → allNumbers p c = c.child.all (allNumbers p) →
      allNumbers p (addItemToObject c name e next) = allNumbers p c := by
    intro hty hchild
    rw [allNumbers_addItemToObject p hty, allNumbers_rename p hp, he, List.all_eq_true.2 hnext,
      hchild, Bool.and_true, Bool.and_true]
  rcases c with ⟨t, s, i, x, m, child⟩
  cases t with
  | Object => exact hadd (Or.inl rfl) (allNumbersList_eq_all p child)
  | Array => exact hadd (Or.inr rfl) (allNumbersList_eq_all p child)
  | _ => rfl

theorem printable_addItemToObject_of (he : printable e = true) {next : List CJson}
    (hnext : ∀ d ∈ next, printable d = true) :
    printable (addItemToObject c name e next) = printable c :=
  allNumbers_addItemToObject_of _ (fun _ _ => rfl) he hnext

theorem allFinite_addItemToObject_of (he : allFinite e = true) {next : List CJson}
    (hnext : ∀ d ∈ next, allFinite d = true) :
    allFinite (addItemToObject c name e next) = allFinite c :=
  allNumbers_addItemToObject_of _ (fun _ _ => rfl) he hnext

theorem printable_addItem (he : printable e = true) :
    printable (addItemToObject c name e []) = printable c :=
  printable_addItemToObject_of he (List.forall_mem_nil _)

theorem allFinite_addItem (he : allFinite e = true) :
    allFinite (addItemToObject c name e []) = allFinite c :=
  allFinite_addItemToObject_of he (List.forall_mem_nil _)

/-! ## Trees that do not change on their way -/

/-- The next hop gets this tree as it is. -/
structure Settled (c : CJson) : Prop where
  sound : Sound c
  printable : printable c = true
  finite : allFinite c = true
  relay : relay c = c

/-- A settled root arrives. -/
theorem Settled.arrives (h : Settled c) (hn : c.string = none) :
    ∃ txt, print c = .ok txt ∧ parse txt = .ok (some c) := by
  obtain ⟨txt, hp⟩ := (print_returns_iff c).2 h.printable
  have hparse := parse_print h.sound hn hp h.finite
  rw [h.relay] at hparse
  exact ⟨txt, hp, hparse⟩

theorem natText_length_lt {k n : Nat} (h : n < 10 ^ (k + 1)) : (natText n).length ≤ k + 1 := by
  induction k generalizing n with
  | zero =>
    rw [natText_step, if_pos (by simpa using h)]
    exact le_rfl
  | succ k ih =>
    rw [natText_step]
    split
    · exact Nat.succ_pos _
    · have := ih (n := n / 10) (by rw [pow_succ] at h; omega)
      rw [List.length_append, List.length_singleton]
      exact Nat.succ_le_succ this

/-- The numeral of an `int` has at most eleven characters. -/
theorem intText_length_le {n : Int} (h1 : -2 ^ 31 ≤ n) (h2 : n < 2 ^ 31) :
    (intText n).length ≤ 11 := by
  unfold intText
  split
  · have := natText_length_lt (k := 9) (n := n.natAbs) (by omega)
    rw [List.length_cons]
    omega
  · have := natText_length_lt (k := 9) (n := n.toNat) (by omega)
    omega

theorem createNumber_ofInt {n : Int} (h : n.natAbs < 2 ^ 53) :
    createNumber (ofInt n) =
      { newItem with type := .Number, valuedouble := .fin n, valueint := n } := by
  rw [createNumber, ofInt_eq h, toInt64_int h]

/-- An item with the value of an `int`. -/
theorem settled_number {n : Int} (h1 : -2 ^ 31 ≤ n) (h2 : n < 2 ^ 31) (name : Option Text) :
    Settled { createNumber (ofInt n) with string := name } := by
  rw [createNumber_ofInt (by omega)]
  refine ⟨.leaf (Or.inr (Or.inr (Or.inr rfl))), ?_, rfl, ?_⟩
  · show decide ((numberText _).length < 64) = true
    rw [numberText_int h1 h2 rfl rfl, decide_eq_true_eq]
    exact lt_of_le_of_lt (intText_length_le h1 h2) (by decide)
  · obtain ⟨hi, hd⟩ := relayed_int { newItem with
      type := .Number, valuedouble := .fin n, valueint := n, string := name } h1 h2 rfl rfl
    rw [relay_number rfl, hi, hd]

/-- Printing twice and parsing twice. -/
abbrev relayTwice (c : CJson) : CJson := CJson.relay (CJson.relay c)

/-- The value of an `int` does not change on its way. -/
theorem wrap32_relay {n : Int} (h1 : -2 ^ 31 ≤ n) (h2 : n < 2 ^ 31) (name : Option Text) :
    wrap32 (CJson.relay { createNumber (ofInt n) with string := name }).valueint = n := by
  rw [(settled_number h1 h2 name).relay, createNumber_ofInt (by omega)]
  exact wrap32_eq_self h1 h2

theorem wrap32_relayTwice {n : Int} (h1 : -2 ^ 31 ≤ n) (h2 : n < 2 ^ 31) (name : Option Text) :
    wrap32 (relayTwice { createNumber (ofInt n) with string := name }).valueint = n := by
  rw [relayTwice, (settled_number h1 h2 name).relay]
  exact wrap32_relay h1 h2 name

theorem settled_string {s : Text} (h : NoNul s) (name : Option Text) :
    Settled { createString s with string := name } :=
  ⟨.string s rfl rfl h, rfl, rfl, rfl⟩

theorem settled_createObject : Settled createObject := ⟨sound_createObject, rfl, rfl, rfl⟩

/-- The name of an item does not matter to its relay. -/
theorem relay_rename (c : CJson) (n : Option Text) :
    CJson.relay { c with string := n } = { CJson.relay c with string := n } := by
  rcases c with ⟨t, s, i, x, m, child⟩
  cases t <;> rfl

theorem Settled.rename (h : Settled c) (n : Option Text) : Settled { c with string := n } := by
  refine ⟨h.sound.rename n, ?_, ?_, ?_⟩
  · have := h.printable
    rcases c with ⟨t, s, i, x, m, child⟩
    cases t <;> exact this
  · have := h.finite
    rcases c with ⟨t, s, i, x, m, child⟩
    cases t <;> exact this
  · rw [relay_rename, h.relay]

/-- A settled object stays settled when settled members are added to it. -/
theorem Settled.addItemToObject (hc : Settled c) (hty : c.type = .Object) (he : Settled e)
    (hname : NoNul name) {next : List CJson} (hnext : ∀ d ∈ next, Settled d)
    (hnames : ∀ d ∈ next, ∃ t, d.string = some t ∧ NoNul t) :
    Settled (addItemToObject c name e next) := by
  have he' := he.rename (some name)
  have hp := hc.printable
  have hf := hc.finite
  have hr := hc.relay
  rw [printable_child (Or.inr hty)] at hp
  rw [allFinite_child (Or.inr hty)] at hf
  rw [relay_object hty] at hr
  refine ⟨hc.sound.addItemToObject he.sound hname (fun d hd => (hnext d hd).sound) hnames,
    ?_, ?_, ?_⟩
  · rw [printable_addItemToObject (Or.inl hty), hp, he'.printable, List.all_eq_true.2
      fun d hd => (hnext d hd).printable]
    rfl
  · rw [allFinite_addItemToObject (Or.inl hty), hf, he'.finite, List.all_eq_true.2
      fun d hd => (hnext d hd).finite]
    rfl
  · rw [relay_object (show (CJson.addItemToObject c name e next).type = .Object from hty)]
    rw [addItemToObject_child, List.map_append, List.map_cons, he'.relay]
    rw [List.map_congr_left fun d hd => (hnext d hd).relay, List.map_id']
    have hchild := congrArg CJson.child hr
    simp only at hchild
    rw [hchild]
    rw [CJson.addItemToObject, addItemToArray, ← hr]

/-- The same for a member nothing is chained behind. -/
theorem Settled.addItem (hc : Settled c) (hty : c.type = .Object) (he : Settled e)
    (hname : NoNul name) : Settled (CJson.addItemToObject c name e []) :=
  hc.addItemToObject hty he hname (List.forall_mem_nil _) (List.forall_mem_nil _)

theorem Settled.addNumberToObject (hc : Settled c) (hty : c.type = .Object) (hname : NoNul name)
    {n : Int} (h1 : -2 ^ 31 ≤ n) (h2 : n < 2 ^ 31) : Settled (addNumberToObject c name n) :=
  hc.addItem hty (settled_number h1 h2 none) hname

theorem Settled.addStringToObject (hc : Settled c) (hty : c.type = .Object) (hname : NoNul name)
    {s : Text} (hs : NoNul s) : Settled (addStringToObject c name s) :=
  hc.addItem hty (settled_string hs none) hname

end

end CJson

end SingleTerminalLogin
