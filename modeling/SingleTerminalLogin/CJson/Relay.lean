import SingleTerminalLogin.CJson.Numerals
import SingleTerminalLogin.CJson.Parsed
import SingleTerminalLogin.CJson.Strings

/-!
# Parsing what was printed

Every message of the system is parsed and printed again at each hop.  This file
says what survives.

* `relay` — the tree the next hop gets: the same shape, names and strings, with
  every number replaced by the one `relayed` names;
* `allFinite`, `printable` — what a tree needs for the trip;
* `parseValue_print` — a printed tree without infinities reads back as its
  `relay`, whatever follows it.
-/

namespace SingleTerminalLogin

open ByteText Binary64 CProgram

namespace CJson

/-! ## Trees -/

mutual

/-- Does `p` hold of every number that gets printed? -/
def allNumbers (p : CJson → Bool) : CJson → Bool
  | ⟨.Number, s, i, d, n, _⟩ => p ⟨.Number, s, i, d, n, []⟩
  | ⟨.Array, _, _, _, _, child⟩ => allNumbersList p child
  | ⟨.Object, _, _, _, _, child⟩ => allNumbersList p child
  | _ => true

def allNumbersList (p : CJson → Bool) : List CJson → Bool
  | [] => true
  | c :: cs => allNumbers p c && allNumbersList p cs

end

/-- No number is an infinity or a NaN. -/
def allFinite (c : CJson) : Bool := allNumbers (fun c => finite c.valuedouble) c

/-- Every number fits the buffer of `print_number`. -/
def printable (c : CJson) : Bool := allNumbers (fun c => (numberText c).length < 64) c

mutual

/-- The tree the next hop parses out of the text this hop prints. -/
def relay : CJson → CJson
  | ⟨.NULL, _, _, _, n, _⟩ => { newItem with type := .NULL, string := n }
  | ⟨.False, _, _, _, n, _⟩ => { newItem with type := .False, string := n }
  | ⟨.True, _, _, _, n, _⟩ => { newItem with type := .True, valueint := 1, string := n }
  | ⟨.Number, s, i, d, n, c⟩ =>
    { newItem with type := .Number, valueint := (relayed ⟨.Number, s, i, d, n, c⟩).valueint,
                   valuedouble := (relayed ⟨.Number, s, i, d, n, c⟩).valuedouble, string := n }
  | ⟨.String, s, _, _, n, _⟩ => { newItem with type := .String, valuestring := s, string := n }
  | ⟨.Array, _, _, _, n, child⟩ =>
    { newItem with type := .Array, string := n, child := relayElements child }
  | ⟨.Object, _, _, _, n, child⟩ =>
    { newItem with type := .Object, string := n, child := relayMembers child }

/-- The items of an array lose a name they may have. -/
def relayElements : List CJson → List CJson
  | [] => []
  | c :: cs => { relay c with string := none } :: relayElements cs

def relayMembers : List CJson → List CJson
  | [] => []
  | c :: cs => relay c :: relayMembers cs

end

theorem relayMembers_eq_map (cs : List CJson) : relayMembers cs = cs.map relay := by
  induction cs with
  | nil => rfl
  | cons c cs ih => rw [relayMembers, ih, List.map_cons]

theorem allNumbersList_eq_all (p : CJson → Bool) (cs : List CJson) :
    allNumbersList p cs = cs.all (allNumbers p) := by
  induction cs with
  | nil => rfl
  | cons c cs ih => rw [allNumbersList, ih, List.all_cons]

/-- Names and types survive. -/
@[simp] theorem relay_string (c : CJson) : (relay c).string = c.string := by
  rcases c with ⟨t, s, i, d, n, child⟩
  cases t <;> rfl

@[simp] theorem relay_type (c : CJson) : (relay c).type = c.type := by
  rcases c with ⟨t, s, i, d, n, child⟩
  cases t <;> rfl

theorem relay_named {c : CJson} {n : Option Text} (h : c.string = n) :
    ({ relay c with string := n } : CJson) = relay c := by
  rcases c with ⟨t, s, i, d, m, child⟩
  cases h
  cases t <;> rfl

/-- An item to be filled in: its name is there already, and a type that will be
overwritten. -/
def slot (ty : CJsonType) (n : Option Text) : CJson := { newItem with type := ty, string := n }

theorem newItem_eq_slot : newItem = slot .False none := rfl

/-! ### What a printed value starts with -/

theorem print_leaf_head {c : CJson} {txt : Text} (hp : print c = .ok txt)
    (h : c.type = .NULL ∨ c.type = .False ∨ c.type = .True) :
    ∃ b bs, txt = b :: bs ∧ 32 < b ∧ b ≠ 93 := by
  rcases c with ⟨t, s, i, d, n, child⟩
  rcases h with rfl | rfl | rfl <;> cases hp <;> exact ⟨_, _, rfl, by decide, by decide⟩

theorem printNumber_eq_ok {c : CJson} {txt : Text} (h : printNumber c = .ok txt) :
    txt = numberText c := by
  unfold printNumber at h
  split at h
  · cases h; rfl
  · cases h

theorem print_number {c : CJson} (h : c.type = .Number) : print c = printNumber c := by
  rcases c with ⟨t, s, i, d, n, child⟩
  cases h
  rfl

theorem print_array {c : CJson} (h : c.type = .Array) :
    print c = (do let entries ← printElements c.child; .ok (91 :: entries ++ [93])) := by
  rcases c with ⟨t, s, i, d, n, child⟩
  cases h
  rfl

theorem print_object {c : CJson} (h : c.type = .Object) :
    print c = (do let entries ← printMembers c.child; .ok (123 :: entries ++ [125])) := by
  rcases c with ⟨t, s, i, d, n, child⟩
  cases h
  rfl

theorem print_string {c : CJson} (h : c.type = .String) :
    print c = .ok (printStringPtr c.valuestring) := by
  rcases c with ⟨t, s, i, d, n, child⟩
  cases h
  rfl

/-- A digit or a minus sign. -/
def NumberHead (b : Byte) : Prop := b = 45 ∨ isDigit b = true

theorem numeral_head {t : Text} (h : Numeral t) : ∃ b bs, t = b :: bs ∧ NumberHead b := by
  obtain ⟨sign, int, frac, exp, rfl, hs, ⟨hd, c, cs, rfl, -⟩, -, -⟩ := h
  rcases hs with rfl | rfl
  · exact ⟨c, _, rfl, Or.inr (hd c (by simp))⟩
  · exact ⟨45, _, rfl, Or.inl rfl⟩

theorem numberHead_gt {b : Byte} (h : NumberHead b) : 32 < b ∧ b ≠ 93 := by
  rcases h with rfl | h
  · decide
  · have hb := isDigit_bounds h
    refine ⟨?_, ?_⟩
    · rw [UInt8.lt_iff_toNat_lt]
      exact lt_of_lt_of_le (by decide) hb.1
    · rintro rfl
      exact absurd hb.2 (by decide)

theorem numberText_head (c : CJson) : ∃ b bs, numberText c = b :: bs ∧ 32 < b ∧ b ≠ 93 := by
  cases h : finite c.valuedouble with
  | true =>
    obtain ⟨b, bs, hb, hh⟩ := numeral_head (numeral_numberText h)
    exact ⟨b, bs, hb, numberHead_gt hh⟩
  | false =>
    rcases numberText_special h with h | h | h <;> rw [h] <;>
      exact ⟨_, _, rfl, by decide, by decide⟩

/-- A printed value starts with a byte `skip` does not jump. -/
theorem print_head {c : CJson} (h : Sound c) {txt : Text} (hp : print c = .ok txt) :
    ∃ b bs, txt = b :: bs ∧ 32 < b ∧ b ≠ 93 := by
  cases h with
  | leaf h =>
    rcases h with h | h | h | h
    · exact print_leaf_head hp (Or.inl h)
    · exact print_leaf_head hp (Or.inr (Or.inl h))
    · exact print_leaf_head hp (Or.inr (Or.inr h))
    · rw [print_number h] at hp
      rw [printNumber_eq_ok hp]
      exact numberText_head c
  | string t h hs hn =>
    rw [print_string h, hs] at hp
    cases hp
    exact ⟨_, _, rfl, by decide, by decide⟩
  | array h hc =>
    rw [print_array h] at hp
    obtain ⟨e, -, he⟩ := bind_eq_ok.1 hp
    cases he
    exact ⟨_, _, rfl, by decide, by decide⟩
  | object h hn hc =>
    rw [print_object h] at hp
    obtain ⟨e, -, he⟩ := bind_eq_ok.1 hp
    cases he
    exact ⟨_, _, rfl, by decide, by decide⟩

theorem skip_of_gt {b : Byte} {bs : Text} (h : 32 < b) : skip (b :: bs) = b :: bs := by
  have : ¬ b ≤ 32 := by
    rw [UInt8.le_iff_toNat_le]
    rw [UInt8.lt_iff_toNat_lt] at h
    omega
  simp [skip, this]

theorem skip_print {c : CJson} (h : Sound c) {txt : Text} (hp : print c = .ok txt) (rest : Text) :
    skip (txt ++ rest) = txt ++ rest := by
  obtain ⟨b, bs, rfl, hb, -⟩ := print_head h hp
  exact skip_of_gt hb

/-- `parse_value` looks at the first byte, unless it could be a constant's. -/
theorem parseValue_cons (fuel : Nat) (item : CJson) {b : Byte} (bs : Text)
    (hn : b ≠ 110) (hf : b ≠ 102) (ht : b ≠ 116) :
    parseValue (fuel + 1) item (b :: bs) =
      if b = 34 then parseString item (b :: bs)
      else if b = 45 ∨ isDigit b then .ok (some (parseNumber item (b :: bs)))
      else if b = 91 then parseArray fuel item (b :: bs)
      else if b = 123 then parseObject fuel item (b :: bs)
      else .ok none := by
  have h1 : ¬ (b :: bs).take 4 = ascii "null" := fun h => hn (List.cons.inj h).1
  have h2 : ¬ (b :: bs).take 5 = ascii "false" := fun h => hf (List.cons.inj h).1
  have h3 : ¬ (b :: bs).take 4 = ascii "true" := fun h => ht (List.cons.inj h).1
  rw [parseValue, if_neg h1, if_neg h2, if_neg h3]
  rfl

/-! ## Arrays and objects -/

/-- The elements of an array from one on: what `parse_array` does for its first
element and after every comma. -/
def elementsFrom (fuel : Nat) (item : CJson) (children : List CJson) (value : Text) :
    C (Option (CJson × Text)) := do
  match ← parseValue fuel newItem (skip value) with
  | none => .ok none
  | some (child, rest) => arrayLoop fuel item (children ++ [child]) (skip rest)

/-- The members of an object from one on. -/
def membersFrom (fuel : Nat) (item : CJson) (children : List CJson) (value : Text) :
    C (Option (CJson × Text)) := do
  match ← parseMember fuel (skip value) with
  | none => .ok none
  | some (child, rest) => objectLoop fuel item (children ++ [child]) (skip rest)

theorem arrayLoop_comma (fuel : Nat) (item : CJson) (children : List CJson) (value : Text) :
    arrayLoop (fuel + 1) item children (44 :: value) = elementsFrom fuel item children value := by
  rw [arrayLoop]
  rfl

theorem arrayLoop_close (fuel : Nat) (item : CJson) (children : List CJson) (value : Text) :
    arrayLoop (fuel + 1) item children (93 :: value) =
      .ok (some ({ item with child := children }, value)) := by
  rw [arrayLoop]
  rfl

theorem objectLoop_comma (fuel : Nat) (item : CJson) (children : List CJson) (value : Text) :
    objectLoop (fuel + 1) item children (44 :: value) = membersFrom fuel item children value := by
  rw [objectLoop]
  rfl

theorem objectLoop_close (fuel : Nat) (item : CJson) (children : List CJson) (value : Text) :
    objectLoop (fuel + 1) item children (125 :: value) =
      .ok (some ({ item with child := children }, value)) := by
  rw [objectLoop]
  rfl

theorem skip_comma (value : Text) : skip (44 :: value) = 44 :: value := skip_of_gt (by decide)

theorem skip_bracket (value : Text) : skip (93 :: value) = 93 :: value := skip_of_gt (by decide)

theorem skip_brace (value : Text) : skip (125 :: value) = 125 :: value := skip_of_gt (by decide)

/-- A member is its name, a colon and its value. -/
theorem parseMember_print {s : Text} (hs : NoNul s) {c : CJson} (h : Sound c) {txt : Text}
    (hp : print c = .ok txt) (fuel : Nat) (rest : Text) :
    parseMember (fuel + 1) (printStringPtr (some s) ++ 58 :: txt ++ rest) =
      parseValue fuel (slot .String (some s)) (txt ++ rest) := by
  have hcolon : ∀ v, skip (58 :: v) = 58 :: v := fun v => skip_of_gt (by decide)
  rw [parseMember, List.append_assoc, parseString_print hs, ok_bind]
  simp only [List.cons_append, hcolon, at0_cons, ne_eq, not_true_eq_false, if_false,
    List.tail_cons, skip_print h hp]
  rfl

/-- The statement the induction over trees carries. -/
def ReadsBack (c : CJson) : Prop :=
  ∀ txt, print c = .ok txt → allFinite c = true → ∀ ty n rest fuel, EndsNumber rest →
    3 * (txt ++ rest).length + 3 ≤ fuel →
    parseValue fuel (slot ty n) (txt ++ rest) = .ok (some ({ relay c with string := n }, rest))

theorem elementsFrom_print {cs : List CJson} (hs : ∀ c ∈ cs, Sound c)
    (ih : ∀ c ∈ cs, ReadsBack c) (hne : cs ≠ []) {entries : Text}
    (hp : printElements cs = .ok entries) (hf : cs.all allFinite = true) (item : CJson) :
    ∀ (children : List CJson) (rest : Text) (fuel : Nat),
      3 * (entries ++ 93 :: rest).length + 3 ≤ fuel →
      elementsFrom fuel item children (entries ++ 93 :: rest) =
        .ok (some ({ item with child := children ++ relayElements cs }, rest)) := by
  induction cs generalizing entries with
  | nil => exact absurd rfl hne
  | cons c cs ihl =>
    intro children rest fuel hfuel
    rw [printElements] at hp
    obtain ⟨entry, he, hp⟩ := bind_eq_ok.1 hp
    obtain ⟨more, hm, hp⟩ := bind_eq_ok.1 hp
    rw [List.all_cons, Bool.and_eq_true] at hf
    have hc : Sound c := hs c (by simp)
    have hread := ih c (by simp) entry he hf.1 .False none
    cases cs with
    | nil =>
      cases hp
      simp only [if_true] at hfuel ⊢
      rw [elementsFrom, skip_print hc he, newItem_eq_slot,
        hread _ fuel (endsNumber_cons _ (by simp)) hfuel, ok_bind]
      obtain ⟨k, rfl⟩ : ∃ k, fuel = k + 1 := ⟨fuel - 1, by omega⟩
      simp only [skip_bracket, arrayLoop_close, relayElements]
    | cons d ds =>
      cases hp
      simp only [reduceCtorEq, if_false, List.append_assoc, List.cons_append] at hfuel ⊢
      rw [elementsFrom, skip_print hc he, newItem_eq_slot,
        hread _ fuel (endsNumber_cons _ (by simp)) hfuel, ok_bind]
      obtain ⟨k, rfl⟩ : ∃ k, fuel = k + 1 := ⟨fuel - 1, by omega⟩
      simp only [skip_comma, arrayLoop_comma]
      rw [ihl (fun e h => hs e (by simp [h])) (fun e h => ih e (by simp [h])) (by simp) hm hf.2 _ _ _
        (by simp only [List.length_append, List.length_cons] at hfuel ⊢; omega)]
      simp only [relayElements, List.append_assoc, List.cons_append, List.nil_append]

theorem membersFrom_print {cs : List CJson} (hs : ∀ c ∈ cs, Sound c)
    (hn : ∀ c ∈ cs, ∃ t, c.string = some t ∧ NoNul t)
    (ih : ∀ c ∈ cs, ReadsBack c) (hne : cs ≠ []) {entries : Text}
    (hp : printMembers cs = .ok entries) (hf : cs.all allFinite = true) (item : CJson) :
    ∀ (children : List CJson) (rest : Text) (fuel : Nat),
      3 * (entries ++ 125 :: rest).length + 3 ≤ fuel →
      membersFrom fuel item children (entries ++ 125 :: rest) =
        .ok (some ({ item with child := children ++ relayMembers cs }, rest)) := by
  induction cs generalizing entries with
  | nil => exact absurd rfl hne
  | cons c cs ihl =>
    intro children rest fuel hfuel
    rw [printMembers] at hp
    obtain ⟨entry, he, hp⟩ := bind_eq_ok.1 hp
    obtain ⟨more, hm, hp⟩ := bind_eq_ok.1 hp
    rw [List.all_cons, Bool.and_eq_true] at hf
    have hc : Sound c := hs c (by simp)
    obtain ⟨s, hname, hs0⟩ := hn c (by simp)
    have hself : ({ relay c with string := some s } : CJson) = relay c := relay_named hname
    have hskip : ∀ v, skip (printStringPtr (some s) ++ v) = printStringPtr (some s) ++ v :=
      fun v => skip_of_gt (by decide)
    have hread := ih c (by simp) entry he hf.1 .String (some s)
    obtain ⟨k, rfl⟩ : ∃ k, fuel = k + 1 := ⟨fuel - 1, by omega⟩
    simp only [Except.ok.injEq, hname] at hp
    cases cs with
    | nil =>
      subst hp
      simp only [if_true] at hfuel ⊢
      rw [membersFrom, List.append_assoc, hskip, ← List.append_assoc, parseMember_print hs0 hc he,
        hread _ k (endsNumber_cons _ (by simp))
          (by simp only [List.length_append, List.length_cons] at hfuel ⊢; omega), ok_bind]
      simp only [skip_brace, objectLoop_close, relayMembers, hself]
    | cons d ds =>
      subst hp
      simp only [reduceCtorEq, if_false] at hfuel ⊢
      rw [membersFrom, List.append_assoc, List.append_assoc, hskip, ← List.append_assoc,
        List.cons_append, parseMember_print hs0 hc he,
        hread _ k (endsNumber_cons _ (by simp))
          (by simp only [List.length_append, List.length_cons] at hfuel ⊢; omega), ok_bind]
      simp only [skip_comma, objectLoop_comma]
      obtain ⟨j, rfl⟩ : ∃ j, k = j + 1 :=
        ⟨k - 1, by simp only [List.length_append, List.length_cons] at hfuel; omega⟩
      rw [ihl (fun e h => hs e (by simp [h])) (fun e h => hn e (by simp [h]))
        (fun e h => ih e (by simp [h])) (by simp) hm hf.2 _ _ _
        (by simp only [List.length_append, List.length_cons] at hfuel ⊢; omega)]
      simp only [relayMembers, hself, List.append_assoc, List.cons_append, List.nil_append]

theorem finite_of_allFinite {c : CJson} (h : c.type = .Number) (hf : allFinite c = true) :
    finite c.valuedouble = true := by
  rcases c with ⟨t, s, i, d, n, child⟩
  cases h
  exact hf

theorem allFinite_child {c : CJson} (h : c.type = .Array ∨ c.type = .Object) :
    allFinite c = c.child.all allFinite := by
  rcases c with ⟨t, s, i, d, n, child⟩
  rcases h with h | h <;> cases h <;> exact allNumbersList_eq_all _ _

theorem relay_number {c : CJson} (h : c.type = .Number) :
    relay c = { newItem with type := .Number, valueint := (relayed c).valueint,
                             valuedouble := (relayed c).valuedouble, string := c.string } := by
  rcases c with ⟨t, s, i, d, n, child⟩
  cases h
  rfl

theorem relay_array {c : CJson} (h : c.type = .Array) :
    relay c = { newItem with type := .Array, string := c.string, child := relayElements c.child } := by
  rcases c with ⟨t, s, i, d, n, child⟩
  cases h
  rfl

theorem relay_object {c : CJson} (h : c.type = .Object) :
    relay c = { newItem with type := .Object, string := c.string, child := c.child.map relay } := by
  rcases c with ⟨t, s, i, d, n, child⟩
  cases h
  rw [← relayMembers_eq_map]
  rfl

theorem relay_valuestring {c : CJson} (h : c.type = .String) :
    relay c = { newItem with type := .String, valuestring := c.valuestring, string := c.string } := by
  rcases c with ⟨t, s, i, d, n, child⟩
  cases h
  rfl

/-- A constant is read back by its own letters. -/
theorem readsBack_constant {c : CJson} (h : c.type = .NULL ∨ c.type = .False ∨ c.type = .True) :
    ReadsBack c := by
  intro txt hp hf ty n rest fuel hr hfuel
  obtain ⟨k, rfl⟩ : ∃ k, fuel = k + 1 := ⟨fuel - 1, by omega⟩
  rcases c with ⟨t, s, i, d, m, child⟩
  rcases h with rfl | rfl | rfl <;> cases hp <;> rw [parseValue] <;> rfl

/-- A number is told from everything else by its first byte. -/
theorem parseValue_number {txt : Text} (h : Numeral txt) (fuel : Nat) (item : CJson) (rest : Text) :
    parseValue (fuel + 1) item (txt ++ rest) = .ok (some (parseNumber item (txt ++ rest))) := by
  obtain ⟨b, bs, rfl, hb⟩ := numeral_head h
  have hbound : b.toNat = 45 ∨ (48 ≤ b.toNat ∧ b.toNat ≤ 57) := by
    rcases hb with rfl | hb
    · exact Or.inl rfl
    · exact Or.inr (isDigit_bounds hb)
  have hne : ∀ m : Byte, (57 < m.toNat ∨ m.toNat < 45) → b ≠ m := by
    rintro m hm rfl
    omega
  rw [List.cons_append, parseValue_cons fuel item _ (hne _ (by decide)) (hne _ (by decide))
    (hne _ (by decide)), if_neg (hne _ (by decide))]
  exact if_pos hb

theorem readsBack_number {c : CJson} (h : c.type = .Number) : ReadsBack c := by
  intro txt hp hf ty n rest fuel hr hfuel
  obtain ⟨k, rfl⟩ : ∃ k, fuel = k + 1 := ⟨fuel - 1, by omega⟩
  rw [print_number h] at hp
  have htxt := printNumber_eq_ok hp
  subst htxt
  have hnum := numeral_numberText (finite_of_allFinite h hf)
  rw [parseValue_number hnum, parseNumber_numeral hnum hr, relay_number h]
  rfl

theorem readsBack_string {c : CJson} (h : c.type = .String) {s : Text}
    (hs : c.valuestring = some s) (hn : NoNul s) : ReadsBack c := by
  intro txt hp hf ty n rest fuel hr hfuel
  obtain ⟨k, rfl⟩ : ∃ k, fuel = k + 1 := ⟨fuel - 1, by omega⟩
  rw [print_string h, hs] at hp
  cases hp
  have hread := parseString_print hn (slot ty n) rest
  rw [printStringPtr, List.cons_append, List.cons_append] at hread ⊢
  rw [parseValue_cons k _ _ (by decide) (by decide) (by decide), if_pos rfl, hread,
    relay_valuestring h, hs]
  rfl

theorem parseValue_array (fuel : Nat) (item : CJson) (value : Text) :
    parseValue (fuel + 1) item (91 :: value) = parseArray fuel item (91 :: value) := by
  rw [parseValue_cons fuel item value (by decide) (by decide) (by decide), if_neg (by decide),
    if_neg (by decide), if_pos rfl]

theorem parseValue_object (fuel : Nat) (item : CJson) (value : Text) :
    parseValue (fuel + 1) item (123 :: value) = parseObject fuel item (123 :: value) := by
  rw [parseValue_cons fuel item value (by decide) (by decide) (by decide), if_neg (by decide),
    if_neg (by decide), if_neg (by decide), if_pos rfl]

theorem parseArray_cons (fuel : Nat) (item : CJson) {b : Byte} (bs : Text) (hb : 32 < b)
    (h : b ≠ 93) :
    parseArray (fuel + 1) item (91 :: b :: bs) =
      elementsFrom fuel { item with type := .Array } [] (b :: bs) := by
  rw [parseArray]
  simp only [List.tail_cons, skip_of_gt hb, at0_cons, h, if_false]
  rw [elementsFrom, skip_of_gt hb]
  rfl

theorem parseObject_cons (fuel : Nat) (item : CJson) {b : Byte} (bs : Text) (hb : 32 < b)
    (h : b ≠ 125) :
    parseObject (fuel + 1) item (123 :: b :: bs) =
      membersFrom fuel { item with type := .Object } [] (b :: bs) := by
  rw [parseObject]
  simp only [List.tail_cons, skip_of_gt hb, at0_cons, h, if_false]
  rw [membersFrom, skip_of_gt hb]
  rfl

/-- The entries of a non-empty array start as its first item does. -/
theorem printElements_head {c : CJson} {cs : List CJson} (hc : Sound c) {entries : Text}
    (hp : printElements (c :: cs) = .ok entries) : ∃ b bs, entries = b :: bs ∧ 32 < b ∧ b ≠ 93 := by
  rw [printElements] at hp
  obtain ⟨entry, he, hp⟩ := bind_eq_ok.1 hp
  obtain ⟨more, -, hp⟩ := bind_eq_ok.1 hp
  obtain ⟨b, bs, rfl, hb⟩ := print_head hc he
  cases hp
  split
  · exact ⟨b, bs, rfl, hb⟩
  · exact ⟨b, _, rfl, hb⟩

/-- The entries of a non-empty object start with a quote. -/
theorem printMembers_head {c : CJson} {cs : List CJson} {s : Text} (hc : c.string = some s)
    {entries : Text} (hp : printMembers (c :: cs) = .ok entries) : ∃ bs, entries = 34 :: bs := by
  rw [printMembers] at hp
  obtain ⟨entry, he, hp⟩ := bind_eq_ok.1 hp
  obtain ⟨more, -, hp⟩ := bind_eq_ok.1 hp
  simp only [Except.ok.injEq, hc] at hp
  subst hp
  split
  · exact ⟨_, rfl⟩
  · exact ⟨_, rfl⟩

theorem readsBack_array {c : CJson} (h : c.type = .Array) (hs : ∀ d ∈ c.child, Sound d)
    (ih : ∀ d ∈ c.child, ReadsBack d) : ReadsBack c := by
  intro txt hp hf ty n rest fuel hr hfuel
  rw [print_array h] at hp
  obtain ⟨entries, he, hp⟩ := bind_eq_ok.1 hp
  cases hp
  rw [allFinite_child (Or.inl h)] at hf
  rw [List.append_assoc, List.cons_append, List.singleton_append] at hfuel ⊢
  simp only [List.length_cons, List.length_append] at hfuel
  obtain ⟨k, rfl⟩ : ∃ k, fuel = k + 2 := ⟨fuel - 2, by omega⟩
  rw [parseValue_array, relay_array h]
  cases hcs : c.child with
  | nil =>
    rw [hcs, printElements] at he
    cases he
    rw [parseArray]
    rfl
  | cons d ds =>
    rw [hcs] at he hf hs ih
    obtain ⟨b, bs, hbs, hb, h93⟩ := printElements_head (hs d (by simp)) he
    have hstep := elementsFrom_print hs ih (by simp) he hf { slot ty n with type := .Array } [] rest k
      (by simp only [List.length_append, List.length_cons]; omega)
    rw [hbs, List.cons_append] at hstep ⊢
    rw [parseArray_cons _ _ _ hb h93, hstep]
    rfl

theorem readsBack_object {c : CJson} (h : c.type = .Object)
    (hn : ∀ d ∈ c.child, ∃ t, d.string = some t ∧ NoNul t) (hs : ∀ d ∈ c.child, Sound d)
    (ih : ∀ d ∈ c.child, ReadsBack d) : ReadsBack c := by
  intro txt hp hf ty n rest fuel hr hfuel
  rw [print_object h] at hp
  obtain ⟨entries, he, hp⟩ := bind_eq_ok.1 hp
  cases hp
  rw [allFinite_child (Or.inr h)] at hf
  rw [List.append_assoc, List.cons_append, List.singleton_append] at hfuel ⊢
  simp only [List.length_cons, List.length_append] at hfuel
  obtain ⟨k, rfl⟩ : ∃ k, fuel = k + 2 := ⟨fuel - 2, by omega⟩
  rw [parseValue_object, relay_object h, ← relayMembers_eq_map]
  cases hcs : c.child with
  | nil =>
    rw [hcs, printMembers] at he
    cases he
    rw [parseObject]
    rfl
  | cons d ds =>
    rw [hcs] at he hf hs ih hn
    obtain ⟨s, hname, -⟩ := hn d (by simp)
    obtain ⟨bs, hbs⟩ := printMembers_head hname he
    have hstep := membersFrom_print hs hn ih (by simp) he hf { slot ty n with type := .Object } [] rest k
      (by simp only [List.length_append, List.length_cons]; omega)
    rw [hbs, List.cons_append] at hstep ⊢
    rw [parseObject_cons _ _ _ (by decide) (by decide), hstep]
    rfl

/-- A sound tree without infinities reads back as its relay. -/
theorem parseValue_print {c : CJson} (h : Sound c) : ReadsBack c := by
  induction h with
  | leaf h =>
    rcases h with h | h | h | h
    · exact readsBack_constant (Or.inl h)
    · exact readsBack_constant (Or.inr (Or.inl h))
    · exact readsBack_constant (Or.inr (Or.inr h))
    · exact readsBack_number h
  | string t h hs hn => exact readsBack_string h hs hn
  | array h hc ih => exact readsBack_array h hc ih
  | object h hn hc ih => exact readsBack_object h hn hc ih

end CJson

end SingleTerminalLogin
