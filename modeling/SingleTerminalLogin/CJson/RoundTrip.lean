import SingleTerminalLogin.CJson.Relay

/-!
# Hop to hop

What the parse of a printed object is, at the root.

* `print_returns_iff` — printing returns exactly when every number fits the
  buffer of `print_number`;
* `parse_print` — an object without infinities reads back as its `relay`;
* `parse_print_special` — one with an infinity or a NaN in it does not parse at
  the next hop;
* `eq_relay_of_parse` — so whatever is parsed there is the `relay`;
* `getObjectItem_relay` — looking a member up and relaying commute.
-/

namespace SingleTerminalLogin

open ByteText Binary64 CProgram

namespace CJson

/-! ## Infinities -/

/-- A parse that fails, or stops where neither a comma nor a bracket can be. -/
def Stuck (r : C (Option (CJson × Text))) : Prop :=
  r = .ok none ∨ ∃ c rest, r = .ok (some (c, rest)) ∧ (at0 rest = 105 ∨ at0 rest = 110)

theorem skip_letter {rest : Text} (h : at0 rest = 105 ∨ at0 rest = 110) : skip rest = rest := by
  cases rest with
  | nil => rfl
  | cons b bs =>
    rw [at0_cons] at h
    rcases h with rfl | rfl <;> exact skip_of_gt (by decide)

theorem arrayLoop_letter (fuel : Nat) (item : CJson) (children : List CJson) {rest : Text}
    (h : at0 rest = 105 ∨ at0 rest = 110) : arrayLoop fuel item children rest = .ok none := by
  have h44 : at0 rest ≠ 44 := by rcases h with h | h <;> rw [h] <;> decide
  have h93 : at0 rest ≠ 93 := by rcases h with h | h <;> rw [h] <;> decide
  cases fuel with
  | zero => rfl
  | succ fuel => rw [arrayLoop, if_neg h44, if_neg h93]

theorem objectLoop_letter (fuel : Nat) (item : CJson) (children : List CJson) {rest : Text}
    (h : at0 rest = 105 ∨ at0 rest = 110) : objectLoop fuel item children rest = .ok none := by
  have h44 : at0 rest ≠ 44 := by rcases h with h | h <;> rw [h] <;> decide
  have h125 : at0 rest ≠ 125 := by rcases h with h | h <;> rw [h] <;> decide
  cases fuel with
  | zero => rfl
  | succ fuel => rw [objectLoop, if_neg h44, if_neg h125]

theorem elementsFrom_stuck {fuel : Nat} {value : Text}
    (h : Stuck (parseValue fuel newItem (skip value))) (item : CJson) (children : List CJson) :
    elementsFrom fuel item children value = .ok none := by
  rw [elementsFrom]
  rcases h with h | ⟨c, rest, h, hl⟩
  · rw [h]
    rfl
  · rw [h, ok_bind]
    simp only [skip_letter hl, arrayLoop_letter _ _ _ hl]

theorem membersFrom_stuck {fuel : Nat} {value : Text}
    (h : Stuck (parseMember fuel (skip value))) (item : CJson) (children : List CJson) :
    membersFrom fuel item children value = .ok none := by
  rw [membersFrom]
  rcases h with h | ⟨c, rest, h, hl⟩
  · rw [h]
    rfl
  · rw [h, ok_bind]
    simp only [skip_letter hl, objectLoop_letter _ _ _ hl]

/-- The statement the induction over trees carries, next to `ReadsBack`. -/
def GetsStuck (c : CJson) : Prop :=
  ∀ txt, print c = .ok txt → allFinite c = false → ∀ ty n rest fuel,
    3 * (txt ++ rest).length + 3 ≤ fuel → Stuck (parseValue fuel (slot ty n) (txt ++ rest))

theorem infinite_of_allFinite {c : CJson} (h : c.type = .Number) (hf : allFinite c = false) :
    finite c.valuedouble = false := by
  rcases c with ⟨t, s, i, d, n, child⟩
  cases h
  exact hf

theorem getsStuck_number {c : CJson} (h : c.type = .Number) : GetsStuck c := by
  intro txt hp hf ty n rest fuel hfuel
  obtain ⟨k, rfl⟩ : ∃ k, fuel = k + 1 := ⟨fuel - 1, by omega⟩
  rw [print_number h] at hp
  rw [printNumber_eq_ok hp]
  rcases numberText_special (infinite_of_allFinite h hf) with ht | ht | ht <;> rw [ht]
  · left
    change parseValue (k + 1) (slot ty n) (105 :: 110 :: 102 :: rest) = _
    rw [parseValue_cons k _ _ (by decide) (by decide) (by decide)]
    rfl
  · right
    change ∃ c r, parseValue (k + 1) (slot ty n) (45 :: 105 :: 110 :: 102 :: rest) = _ ∧ _
    rw [parseValue_cons k _ _ (by decide) (by decide) (by decide)]
    exact ⟨_, _, rfl, Or.inl rfl⟩
  · right
    change ∃ c r, parseValue (k + 1) (slot ty n) (45 :: 110 :: 97 :: 110 :: rest) = _ ∧ _
    rw [parseValue_cons k _ _ (by decide) (by decide) (by decide)]
    exact ⟨_, _, rfl, Or.inr rfl⟩

theorem elementsFrom_print_special {cs : List CJson} (hs : ∀ c ∈ cs, Sound c)
    (ih : ∀ c ∈ cs, GetsStuck c) {entries : Text} (hp : printElements cs = .ok entries)
    (hf : cs.all allFinite = false) (item : CJson) :
    ∀ (children : List CJson) (rest : Text) (fuel : Nat),
      3 * (entries ++ 93 :: rest).length + 3 ≤ fuel →
      elementsFrom fuel item children (entries ++ 93 :: rest) = .ok none := by
  induction cs generalizing entries with
  | nil => cases hf
  | cons c cs ihl =>
    intro children rest fuel hfuel
    rw [printElements] at hp
    obtain ⟨entry, he, hp⟩ := bind_eq_ok.1 hp
    obtain ⟨more, hm, hp⟩ := bind_eq_ok.1 hp
    have hc : Sound c := hs c (by simp)
    have hentries : ∃ tail, entries ++ 93 :: rest = entry ++ tail := by
      cases hp
      split
      · exact ⟨_, rfl⟩
      · exact ⟨_, by rw [List.append_assoc]⟩
    cases hfc : allFinite c with
    | false =>
      obtain ⟨tail, ht⟩ := hentries
      rw [ht] at hfuel ⊢
      apply elementsFrom_stuck
      rw [skip_print hc he]
      exact ih c (by simp) entry he hfc _ _ _ _ hfuel
    | true =>
      rw [List.all_cons, hfc, Bool.true_and] at hf
      have hread := parseValue_print hc entry he hfc .False none
      cases cs with
      | nil => cases hf
      | cons d ds =>
        cases hp
        simp only [reduceCtorEq, if_false, List.append_assoc, List.cons_append] at hfuel ⊢
        rw [elementsFrom, skip_print hc he, newItem_eq_slot,
          hread _ fuel (endsNumber_cons _ (by simp)) hfuel, ok_bind]
        obtain ⟨k, rfl⟩ : ∃ k, fuel = k + 1 := ⟨fuel - 1, by omega⟩
        simp only [skip_comma, arrayLoop_comma]
        exact ihl (fun e h => hs e (by simp [h])) (fun e h => ih e (by simp [h])) hm hf _ _ _
          (by simp only [List.length_append, List.length_cons] at hfuel ⊢; omega)

theorem membersFrom_print_special {cs : List CJson} (hs : ∀ c ∈ cs, Sound c)
    (hn : ∀ c ∈ cs, ∃ t, c.string = some t ∧ NoNul t)
    (ih : ∀ c ∈ cs, GetsStuck c) {entries : Text} (hp : printMembers cs = .ok entries)
    (hf : cs.all allFinite = false) (item : CJson) :
    ∀ (children : List CJson) (rest : Text) (fuel : Nat),
      3 * (entries ++ 125 :: rest).length + 3 ≤ fuel →
      membersFrom fuel item children (entries ++ 125 :: rest) = .ok none := by
  induction cs generalizing entries with
  | nil => cases hf
  | cons c cs ihl =>
    intro children rest fuel hfuel
    rw [printMembers] at hp
    obtain ⟨entry, he, hp⟩ := bind_eq_ok.1 hp
    obtain ⟨more, hm, hp⟩ := bind_eq_ok.1 hp
    have hc : Sound c := hs c (by simp)
    obtain ⟨s, hname, hs0⟩ := hn c (by simp)
    have hskip : ∀ v, skip (printStringPtr (some s) ++ v) = printStringPtr (some s) ++ v :=
      fun v => skip_of_gt (by decide)
    obtain ⟨k, rfl⟩ : ∃ k, fuel = k + 1 := ⟨fuel - 1, by omega⟩
    simp only [Except.ok.injEq, hname] at hp
    have hentries : ∃ tail, entries ++ 125 :: rest = printStringPtr (some s) ++ 58 :: entry ++ tail := by
      subst hp
      split
      · exact ⟨_, rfl⟩
      · exact ⟨_, by rw [List.append_assoc (_ ++ _)]⟩
    cases hfc : allFinite c with
    | false =>
      obtain ⟨tail, ht⟩ := hentries
      rw [ht] at hfuel ⊢
      apply membersFrom_stuck
      rw [List.append_assoc, hskip, ← List.append_assoc, parseMember_print hs0 hc he]
      exact ih c (by simp) entry he hfc _ _ _ _
        (by simp only [List.length_append, List.length_cons] at hfuel ⊢; omega)
    | true =>
      rw [List.all_cons, hfc, Bool.true_and] at hf
      have hread := parseValue_print hc entry he hfc .String (some s)
      cases cs with
      | nil => cases hf
      | cons d ds =>
        subst hp
        simp only [reduceCtorEq, if_false] at hfuel ⊢
        rw [membersFrom, List.append_assoc, List.append_assoc, hskip, ← List.append_assoc,
          List.cons_append, parseMember_print hs0 hc he,
          hread _ k (endsNumber_cons _ (by simp))
            (by simp only [List.length_append, List.length_cons] at hfuel ⊢; omega), ok_bind]
        simp only [skip_comma, objectLoop_comma]
        obtain ⟨j, rfl⟩ : ∃ j, k = j + 1 :=
          ⟨k - 1, by simp only [List.length_append, List.length_cons] at hfuel; omega⟩
        exact ihl (fun e h => hs e (by simp [h])) (fun e h => hn e (by simp [h]))
          (fun e h => ih e (by simp [h])) hm hf _ _ _
          (by simp only [List.length_append, List.length_cons] at hfuel ⊢; omega)

theorem allFinite_nonNumber {c : CJson} (h : c.type = .NULL ∨ c.type = .False ∨ c.type = .True ∨
    c.type = .String) : allFinite c = true := by
  rcases c with ⟨t, s, i, d, n, child⟩
  rcases h with h | h | h | h <;> cases h <;> rfl

theorem parseObject_print_special {c : CJson} (h : c.type = .Object) (hs : Sound c)
    (ih : ∀ d ∈ c.child, GetsStuck d) {txt : Text} (hp : print c = .ok txt)
    (hf : allFinite c = false) (ty : CJsonType) (n : Option Text) (rest : Text) (fuel : Nat)
    (hfuel : 3 * (txt ++ rest).length + 3 ≤ fuel) :
    parseValue fuel (slot ty n) (txt ++ rest) = .ok none := by
  rw [print_object h] at hp
  obtain ⟨entries, he, hp⟩ := bind_eq_ok.1 hp
  cases hp
  rw [allFinite_child (Or.inr h)] at hf
  rw [List.append_assoc, List.cons_append, List.singleton_append] at hfuel ⊢
  simp only [List.length_cons, List.length_append] at hfuel
  obtain ⟨k, rfl⟩ : ∃ k, fuel = k + 2 := ⟨fuel - 2, by omega⟩
  rw [parseValue_object]
  cases hcs : c.child with
  | nil => rw [hcs] at hf; cases hf
  | cons d ds =>
    have hsound := hs.child (Or.inl h)
    have hnames := hs.named h
    rw [hcs] at he hf hsound hnames ih
    obtain ⟨s, hname, -⟩ := hnames d (by simp)
    obtain ⟨bs, hbs⟩ := printMembers_head hname he
    have hstep := membersFrom_print_special hsound hnames ih he hf { slot ty n with type := .Object }
      [] rest k (by simp only [List.length_append, List.length_cons]; omega)
    rw [hbs, List.cons_append] at hstep ⊢
    rw [parseObject_cons _ _ _ (by decide) (by decide), hstep]

theorem getsStuck_array {c : CJson} (h : c.type = .Array) (hs : ∀ d ∈ c.child, Sound d)
    (ih : ∀ d ∈ c.child, GetsStuck d) : GetsStuck c := by
  intro txt hp hf ty n rest fuel hfuel
  left
  rw [print_array h] at hp
  obtain ⟨entries, he, hp⟩ := bind_eq_ok.1 hp
  cases hp
  rw [allFinite_child (Or.inl h)] at hf
  rw [List.append_assoc, List.cons_append, List.singleton_append] at hfuel ⊢
  simp only [List.length_cons, List.length_append] at hfuel
  obtain ⟨k, rfl⟩ : ∃ k, fuel = k + 2 := ⟨fuel - 2, by omega⟩
  rw [parseValue_array]
  cases hcs : c.child with
  | nil => rw [hcs] at hf; cases hf
  | cons d ds =>
    rw [hcs] at he hf hs ih
    obtain ⟨b, bs, hbs, hb, h93⟩ := printElements_head (hs d (by simp)) he
    have hstep := elementsFrom_print_special hs ih he hf { slot ty n with type := .Array } [] rest k
      (by simp only [List.length_append, List.length_cons]; omega)
    rw [hbs, List.cons_append] at hstep ⊢
    rw [parseArray_cons _ _ _ hb h93, hstep]

/-- A sound tree with an infinity in it stops the parser of the next hop. -/
theorem parseValue_print_special {c : CJson} (h : Sound c) : GetsStuck c := by
  induction h with
  | leaf h =>
    rcases h with h | h | h | h
    · intro txt hp hf
      rw [allFinite_nonNumber (Or.inl h)] at hf
      cases hf
    · intro txt hp hf
      rw [allFinite_nonNumber (Or.inr (Or.inl h))] at hf
      cases hf
    · intro txt hp hf
      rw [allFinite_nonNumber (Or.inr (Or.inr (Or.inl h)))] at hf
      cases hf
    · exact getsStuck_number h
  | string t h hs hn =>
    intro txt hp hf
    rw [allFinite_nonNumber (Or.inr (Or.inr (Or.inr h)))] at hf
    cases hf
  | array h hc ih => exact getsStuck_array h hc ih
  | object h hn hc ih =>
    intro txt hp hf ty n rest fuel hfuel
    exact Or.inl (parseObject_print_special h (.object h hn hc) ih hp hf ty n rest fuel hfuel)

/-! ## The root -/

/-- A tree without infinities arrives at the next hop as its relay. -/
theorem parse_print {c : CJson} (h : Sound c) (hn : c.string = none) {txt : Text}
    (hp : print c = .ok txt) (hf : allFinite c = true) : parse txt = .ok (some (relay c)) := by
  have hskip : skip txt = txt := by simpa using skip_print h hp []
  have hread := parseValue_print h txt hp hf .False none [] (parseFuel txt) endsNumber_nil
    (by simp [parseFuel])
  rw [List.append_nil, ← newItem_eq_slot, relay_named hn] at hread
  rw [parse, hskip, hread]
  rfl

/-- An object with an infinity in it arrives at the next hop as a failed parse. -/
theorem parse_print_special {c : CJson} (h : Sound c) (hty : c.type = .Object) {txt : Text}
    (hp : print c = .ok txt) (hf : allFinite c = false) : parse txt = .ok none := by
  have hskip : skip txt = txt := by simpa using skip_print h hp []
  have hread := parseObject_print_special hty h
    (fun d hd => parseValue_print_special (h.child (Or.inl hty) d hd)) hp hf .False none []
    (parseFuel txt) (by simp [parseFuel])
  rw [List.append_nil, ← newItem_eq_slot] at hread
  rw [parse, hskip, hread]
  rfl

/-- Whatever the next hop parses out of a printed object is its relay. -/
theorem eq_relay_of_parse {c d : CJson} (h : Sound c) (hn : c.string = none) (hty : c.type = .Object)
    {txt : Text} (hp : print c = .ok txt) (hd : parse txt = .ok (some d)) :
    d = relay c ∧ allFinite c = true := by
  cases hf : allFinite c with
  | false =>
    rw [parse_print_special h hty hp hf] at hd
    cases hd
  | true =>
    rw [parse_print h hn hp hf] at hd
    cases hd
    exact ⟨rfl, rfl⟩

/-! ## What the relay keeps -/

mutual

/-- Printing returns exactly when every number fits. -/
theorem print_returns_iff : (c : CJson) → (Returns (print c) ↔ printable c = true)
  | ⟨.NULL, _, _, _, _, _⟩ => by simp [print, printable, allNumbers]
  | ⟨.False, _, _, _, _, _⟩ => by simp [print, printable, allNumbers]
  | ⟨.True, _, _, _, _, _⟩ => by simp [print, printable, allNumbers]
  | ⟨.Number, s, i, d, n, _⟩ => by
    rw [print, printNumber, printable, allNumbers, decide_eq_true_eq]
    split
    · simp_all
    · simp_all
  | ⟨.String, _, _, _, _, _⟩ => by simp [print, printable, allNumbers]
  | ⟨.Array, _, _, _, _, child⟩ => by
    rw [print, printable, allNumbers, returns_bind_iff, ← printElements_returns_iff child]
    simp [Returns]
  | ⟨.Object, _, _, _, _, child⟩ => by
    rw [print, printable, allNumbers, returns_bind_iff, ← printMembers_returns_iff child]
    simp [Returns]

theorem printElements_returns_iff : (cs : List CJson) →
    (Returns (printElements cs) ↔
      allNumbersList (fun c => (numberText c).length < 64) cs = true)
  | [] => by simp [printElements, allNumbersList]
  | c :: cs => by
    rw [printElements, allNumbersList, Bool.and_eq_true, ← printElements_returns_iff cs,
      returns_bind_iff]
    have hc := print_returns_iff c
    rw [printable] at hc
    rw [← hc]
    simp [Returns, bind_eq_ok]

theorem printMembers_returns_iff : (cs : List CJson) →
    (Returns (printMembers cs) ↔
      allNumbersList (fun c => (numberText c).length < 64) cs = true)
  | [] => by simp [printMembers, allNumbersList]
  | c :: cs => by
    rw [printMembers, allNumbersList, Bool.and_eq_true, ← printMembers_returns_iff cs,
      returns_bind_iff]
    have hc := print_returns_iff c
    rw [printable] at hc
    rw [← hc]
    simp [Returns, bind_eq_ok]

end

theorem printable_child {c : CJson} (h : c.type = .Array ∨ c.type = .Object) :
    printable c = c.child.all printable := by
  rcases c with ⟨t, s, i, d, n, child⟩
  rcases h with h | h <;> cases h <;> exact allNumbersList_eq_all _ _

theorem relayElements_eq_map (cs : List CJson) :
    relayElements cs = cs.map fun c => { CJson.relay c with string := none } := by
  induction cs with
  | nil => rfl
  | cons c cs ih => rw [relayElements, ih, List.map_cons]

/-- The relay of a sound tree is sound. -/
theorem Sound.relay {c : CJson} (h : Sound c) : Sound (relay c) := by
  induction h with
  | leaf h => exact .leaf (by simpa using h)
  | string t h hs hn =>
    rw [relay_valuestring h]
    exact .string t rfl hs hn
  | array h hc ih =>
    rw [relay_array h, relayElements_eq_map]
    refine .array rfl fun d hd => ?_
    obtain ⟨e, he, rfl⟩ := List.mem_map.1 hd
    exact (ih e he).rename none
  | object h hn hc ih =>
    rw [relay_object h]
    refine .object rfl (fun d hd => ?_) fun d hd => ?_
    · obtain ⟨e, he, rfl⟩ := List.mem_map.1 hd
      simpa using hn e he
    · obtain ⟨e, he, rfl⟩ := List.mem_map.1 hd
      exact ih e he

/-- Looking a member up and relaying commute. -/
theorem getObjectItem_relay {c : CJson} (h : c.type = .Object) (name : Text) :
    getObjectItem (relay c) name = (getObjectItem c name).map CJson.relay := by
  rw [getObjectItem_eq_find?, getObjectItem_eq_find?, relay_object h]
  simp only [List.find?_map]
  congr 2
  funext d
  simp [named]

end CJson

end SingleTerminalLogin
