import SingleTerminalLogin.CJson.Grammar
import SingleTerminalLogin.CJson.Members
import SingleTerminalLogin.CJson.RoundTrip

/-!
# `cJSON_Print`

The printer with its two arguments: `fmt` lays the text out in lines, `depth` is how far the lines
are indented.  `print` of `CJson.Print` is the case without a format (`printValue_unformatted`).

* `printValue_value` — whatever the format, the text is JSON in the sense of `JsonText`, for the tree
  the next hop gets;
* `parse_printValue` — so both printers write texts of one tree, and `parse` reads it back from
  either.
-/

namespace SingleTerminalLogin

open ByteText Binary64 CProgram JsonText

namespace CJson

/-- The loop of `print_array` that composes the output. -/
def composeElements (fmt : Bool) : List Text → Text
  | [] => []
  | e :: es =>
    e ++ (if es = [] then [] else 44 :: if fmt then [32] else []) ++ composeElements fmt es

/-- The loop of `print_object` that composes the output. -/
def composeMembers (fmt : Bool) (depth : ℕ) : List (Text × Text) → Text
  | [] => []
  | e :: es =>
    (if fmt then List.replicate depth 9 else []) ++ e.1 ++ 58 :: (if fmt then [9] else []) ++ e.2 ++
      (if es = [] then [] else [44]) ++ (if fmt then [10] else []) ++ composeMembers fmt depth es

/-- The output of `print_array`. -/
def composeArray (fmt : Bool) (entries : List Text) : Text :=
  91 :: (composeElements fmt entries ++ [93])

/-- The output of `print_object`; its own closing brace is indented less than its members. -/
def composeObject (fmt : Bool) (depth : ℕ) (entries : List (Text × Text)) : Text :=
  123 :: ((if fmt then [10] else []) ++ composeMembers fmt depth entries ++
    (if fmt then List.replicate (depth - 1) 9 else []) ++ [125])

mutual

/-- `print_value`. -/
def printValue (fmt : Bool) : ℕ → CJson → C Text
  | _, ⟨.NULL, _, _, _, _, _⟩ => .ok (ascii "null")
  | _, ⟨.False, _, _, _, _, _⟩ => .ok (ascii "false")
  | _, ⟨.True, _, _, _, _, _⟩ => .ok (ascii "true")
  | _, ⟨.Number, s, i, d, n, _⟩ => printNumber ⟨.Number, s, i, d, n, []⟩
  | _, ⟨.String, s, _, _, _, _⟩ => .ok (printStringPtr s)
  | depth, ⟨.Array, _, _, _, _, child⟩ => do
    let entries ← printEntries fmt (depth + 1) child
    .ok (composeArray fmt (entries.map (·.2)))
  | depth, ⟨.Object, _, _, _, _, child⟩ => do
    let entries ← printEntries fmt (depth + 1) child
    .ok (composeObject fmt (depth + 1) entries)

/-- The names and the values of the children. -/
def printEntries (fmt : Bool) : ℕ → List CJson → C (List (Text × Text))
  | _, [] => .ok []
  | depth, c :: cs => do
    let entry ← printValue fmt depth c
    let entries ← printEntries fmt depth cs
    .ok ((printStringPtr c.string, entry) :: entries)

end

/-- `cJSON_Print`. -/
def printFormatted (c : CJson) : C Text := printValue true 0 c

/-! ## The case without a format -/

mutual

theorem printValue_unformatted : (depth : ℕ) → (c : CJson) → printValue false depth c = print c
  | _, ⟨.NULL, _, _, _, _, _⟩ => rfl
  | _, ⟨.False, _, _, _, _, _⟩ => rfl
  | _, ⟨.True, _, _, _, _, _⟩ => rfl
  | _, ⟨.Number, _, _, _, _, _⟩ => rfl
  | _, ⟨.String, _, _, _, _, _⟩ => rfl
  | depth, ⟨.Array, _, _, _, _, child⟩ => by
    rw [printValue, print, ← (printEntries_unformatted (depth + 1) child).1]
    cases printEntries false (depth + 1) child <;> rfl
  | depth, ⟨.Object, _, _, _, _, child⟩ => by
    rw [printValue, print, ← (printEntries_unformatted (depth + 1) child).2]
    cases printEntries false (depth + 1) child with
    | error e => rfl
    | ok entries => simp [composeObject, Except.map]

theorem printEntries_unformatted : (depth : ℕ) → (cs : List CJson) →
    (printEntries false depth cs).map (fun es => composeElements false (es.map (·.2))) =
        printElements cs ∧
      (printEntries false depth cs).map (composeMembers false depth) = printMembers cs
  | _, [] => ⟨rfl, rfl⟩
  | depth, c :: cs => by
    obtain ⟨he, hm⟩ := printEntries_unformatted depth cs
    have hc := printValue_unformatted depth c
    have hnil : ∀ es, printEntries false depth cs = .ok es → (es = [] ↔ cs = []) := by
      intro es hes
      cases cs with
      | nil => cases hes; simp
      | cons d ds =>
        rw [printEntries] at hes
        obtain ⟨v, -, hes⟩ := bind_eq_ok.1 hes
        obtain ⟨vs, -, hes⟩ := bind_eq_ok.1 hes
        cases hes
        simp
    rw [printEntries, printElements, printMembers, ← he, ← hm, ← hc]
    cases printValue false depth c with
    | error e => exact ⟨rfl, rfl⟩
    | ok v =>
      cases hes : printEntries false depth cs with
      | error e => exact ⟨rfl, rfl⟩
      | ok es =>
        have hiff := hnil es hes
        by_cases hcs : cs = []
        · have hempty := hiff.2 hcs
          subst hempty
          simp [Except.map, composeElements, composeMembers, hcs]
        · simp [Except.map, composeElements, composeMembers, hcs, hiff]

end

mutual

/-- Whether printing returns does not depend on the format. -/
theorem returns_printValue_iff (fmt : Bool) : (depth : ℕ) → (c : CJson) →
    (Returns (printValue fmt depth c) ↔ Returns (print c))
  | _, ⟨.NULL, _, _, _, _, _⟩ => Iff.rfl
  | _, ⟨.False, _, _, _, _, _⟩ => Iff.rfl
  | _, ⟨.True, _, _, _, _, _⟩ => Iff.rfl
  | _, ⟨.Number, _, _, _, _, _⟩ => Iff.rfl
  | _, ⟨.String, _, _, _, _, _⟩ => Iff.rfl
  | depth, ⟨.Array, _, _, _, _, child⟩ => by
    have hc := (returns_printEntries_iff fmt (depth + 1) child).1
    rw [printValue, print, returns_bind_iff, returns_bind_iff]
    simpa [Returns] using hc
  | depth, ⟨.Object, _, _, _, _, child⟩ => by
    have hc := (returns_printEntries_iff fmt (depth + 1) child).2
    rw [printValue, print, returns_bind_iff, returns_bind_iff]
    simpa [Returns] using hc

theorem returns_printEntries_iff (fmt : Bool) : (depth : ℕ) → (cs : List CJson) →
    (Returns (printEntries fmt depth cs) ↔ Returns (printElements cs)) ∧
      (Returns (printEntries fmt depth cs) ↔ Returns (printMembers cs))
  | _, [] => by simp [printEntries, printElements, printMembers, Returns]
  | depth, c :: cs => by
    have hc := returns_printValue_iff fmt depth c
    obtain ⟨he, hm⟩ := returns_printEntries_iff fmt depth cs
    constructor
    · rw [printEntries, printElements]
      simp_all [Returns, bind_eq_ok]
    · rw [printEntries, printMembers]
      simp_all [Returns, bind_eq_ok]

end

/-! ## The texts are JSON -/

/-- Before a member: the end of the line above, and the tabs. -/
def lineStart (fmt : Bool) (depth : ℕ) : Text := if fmt then 10 :: List.replicate depth 9 else []

/-- Between a colon and a value. -/
def gap (fmt : Bool) : Text := if fmt then [9] else []

/-- Between a comma and an element. -/
def blank (fmt : Bool) : Text := if fmt then [32] else []

theorem ws_lineStart (fmt : Bool) (depth : ℕ) : Ws (lineStart fmt depth) := by
  cases fmt with
  | false => exact ws_nil
  | true =>
    intro c hc
    rcases List.mem_cons.1 hc with rfl | hc
    · simp
    · rw [List.eq_of_mem_replicate hc]
      simp

theorem ws_gap (fmt : Bool) : Ws (gap fmt) := by
  cases fmt <;> simp [gap, Ws]

theorem ws_blank (fmt : Bool) : Ws (blank fmt) := by
  cases fmt <;> simp [blank, Ws]

theorem intPart_of_integralText {t : Text} (h : IntegralText t) : IntPart t := by
  obtain ⟨hd, c, cs, rfl, h0⟩ := h
  refine ⟨⟨by simp, hd⟩, ?_⟩
  rintro ds ⟨rfl, rfl⟩
  exact h0 rfl

theorem digits_padded (n : ℕ) : Digits (padded 6 n) := by
  refine ⟨fun h => ?_, padded_digits 6 n⟩
  have hlen := padded_length 6 n
  rw [h] at hlen
  cases hlen

theorem digits_natText (n : ℕ) : Digits (natText n) := by
  obtain ⟨c, cs, hcs, -⟩ := natText_head n
  exact ⟨by rw [hcs]; simp, natText_digits n⟩

theorem intPart_natText (n : ℕ) : IntPart (natText n) :=
  intPart_of_integralText (integralText_natText n)

theorem expPart_exponent (e : Int) : ExpPart (101 :: exponentText e) := by
  have hdigits : Digits (if e.natAbs < 10 then 48 :: natText e.natAbs else natText e.natAbs) := by
    obtain ⟨hne, hd⟩ := digits_natText e.natAbs
    split
    · refine ⟨by simp, fun c hc => ?_⟩
      rcases List.mem_cons.1 hc with rfl | hc
      · decide
      · exact hd c hc
    · exact ⟨hne, hd⟩
  refine Or.inr ⟨101, [if e < 0 then 45 else 43], _, rfl, Or.inl rfl, ?_, hdigits⟩
  split
  · exact Or.inr (Or.inr rfl)
  · exact Or.inr (Or.inl rfl)

theorem numberToken_intText (n : Int) : NumberToken (intText n) := by
  unfold intText
  split
  · exact ⟨[45], natText n.natAbs, [], [], by simp, Or.inr rfl, intPart_natText _, Or.inl rfl,
      Or.inl rfl⟩
  · exact ⟨[], natText n.toNat, [], [], by simp, Or.inl rfl, intPart_natText _, Or.inl rfl,
      Or.inl rfl⟩

theorem numberToken_fixed0 (q : ℚ) : NumberToken (fixed0 (.fin q)) :=
  ⟨signText q, natText (nearestEven |q|).toNat, [], [], by simp [fixed0], signText_cases q,
    intPart_natText _, Or.inl rfl, Or.inl rfl⟩

theorem numberToken_fixed6 (q : ℚ) : NumberToken (fixed6 (.fin q)) :=
  ⟨signText q, natText ((nearestEven (|q| * 10 ^ 6)).toNat / 10 ^ 6),
    46 :: padded 6 ((nearestEven (|q| * 10 ^ 6)).toNat % 10 ^ 6), [],
    by simp only [fixed6, List.append_nil], signText_cases q, intPart_natText _,
    Or.inr ⟨_, rfl, digits_padded _⟩, Or.inl rfl⟩

theorem numberToken_exp6 (q : ℚ) : NumberToken (exp6 (.fin q)) :=
  ⟨signText q, _, _, _, rfl, signText_cases q, intPart_of_integralText (integralText_digit _),
    Or.inr ⟨_, rfl, digits_padded _⟩, expPart_exponent _⟩

/-- A finite number is printed as a JSON number. -/
theorem numberToken_numberText {item : CJson} (h : finite item.valuedouble = true) :
    NumberToken (numberText item) := by
  unfold finite at h
  split at h
  · rename_i q hq
    unfold numberText
    simp only [hq]
    split
    · exact numberToken_intText _
    split
    · exact numberToken_fixed0 q
    split
    · exact numberToken_exp6 q
    · exact numberToken_fixed6 q
  · cases h

theorem hexDigits_control {c : Byte} (h : c.toNat < 32) :
    HexDigits [48, 48, hexDigit (c.toNat / 16), hexDigit (c.toNat % 16)] c.toNat := by
  have htable : ∀ n < 32, (∀ d ∈ [48, 48, hexDigit (n / 16), hexDigit (n % 16)],
      (hexValue d).isSome = true) ∧ n = takeBase 16 0 [48, 48, hexDigit (n / 16), hexDigit (n % 16)] := by
    decide +kernel
  exact ⟨rfl, htable c.toNat h⟩

/-- A byte is printed as itself or as an escape that stands for it. -/
theorem stringBody_escapeByte {c : Byte} (h0 : c ≠ 0) {body s : Text} (h : StringBody body s) :
    StringBody (escapeByte c ++ body) (c :: s) := by
  unfold escapeByte
  split
  · rename_i hc
    exact .plain c hc h
  rename_i hplain
  by_cases h92 : c = 92
  · subst h92; exact .escape 92 92 (by simp [escapes]) h
  by_cases h34 : c = 34
  · subst h34; exact .escape 34 34 (by simp [escapes]) h
  by_cases h8 : c = 8
  · subst h8; exact .escape 98 8 (by simp [escapes]) h
  by_cases h12 : c = 12
  · subst h12; exact .escape 102 12 (by simp [escapes]) h
  by_cases h10 : c = 10
  · subst h10; exact .escape 110 10 (by simp [escapes]) h
  by_cases h13 : c = 13
  · subst h13; exact .escape 114 13 (by simp [escapes]) h
  by_cases h9 : c = 9
  · subst h9; exact .escape 116 9 (by simp [escapes]) h
  have hlow : c.toNat < 32 := by
    by_contra hge
    refine hplain ⟨?_, h34, h92⟩
    rw [UInt8.lt_iff_toNat_lt]
    simp
    omega
  have hpos : 0 < c.toNat := Nat.pos_of_ne_zero fun hz => h0 (UInt8.toNat_inj.1 hz)
  have hutf : utf8 c.toNat = [c] := by rw [utf8, if_pos (by omega), UInt8.ofNat_toNat]
  have hbody := StringBody.unicode _ _ (hexDigits_control hlow) hpos (by omega) h
  rw [hutf] at hbody
  simpa [h92, h34, h8, h12, h10, h13, h9] using hbody

theorem stringBody_escape {s : Text} (h : NoNul s) : StringBody (escape s) s := by
  induction s with
  | nil => exact .nil
  | cons c cs ih =>
    rw [escape, List.flatMap_cons, ← escape]
    exact stringBody_escapeByte (h c (by simp)) (ih fun d hd => h d (by simp [hd]))

theorem stringToken_print {s : Text} (h : NoNul s) : StringToken (printStringPtr (some s)) s :=
  ⟨escape s, by simp [printStringPtr], stringBody_escape h⟩

/-! ## Arrays and objects -/

/-- The tree the next hop gets, without the name. -/
def relayValue (c : CJson) : CJson := { relay c with string := none }

/-- The statement the induction over trees carries. -/
def SpelledOut (c : CJson) : Prop :=
  ∀ fmt depth txt, printValue fmt depth c = .ok txt → allFinite c = true →
    Value tree txt (relayValue c)

section Layout

variable {fmt : Bool} {depth : ℕ} {cs : List CJson}

theorem printEntries_cons {c : CJson} {entries : List (Text × Text)}
    (h : printEntries fmt depth (c :: cs) = .ok entries) :
    ∃ txt rest, printValue fmt depth c = .ok txt ∧ printEntries fmt depth cs = .ok rest ∧
      entries = (printStringPtr c.string, txt) :: rest := by
  rw [printEntries] at h
  obtain ⟨txt, ht, h⟩ := bind_eq_ok.1 h
  obtain ⟨rest, hr, h⟩ := bind_eq_ok.1 h
  cases h
  exact ⟨txt, rest, ht, hr, rfl⟩

theorem printEntries_ne_nil {entries : List (Text × Text)} (hne : cs ≠ [])
    (h : printEntries fmt depth cs = .ok entries) : entries ≠ [] := by
  obtain ⟨c, cs, rfl⟩ := List.exists_cons_of_ne_nil hne
  obtain ⟨txt, rest, -, -, rfl⟩ := printEntries_cons h
  simp

/-- The elements of a printed array; all but the first stand behind a blank. -/
theorem elements_layout (ih : ∀ c ∈ cs, SpelledOut c) (hf : cs.all allFinite = true) (lead : Text)
    (hl : Ws lead) {entries : List (Text × Text)} (hne : cs ≠ [])
    (hp : printEntries fmt depth cs = .ok entries) :
    ∃ es : List (Element CJson), es ≠ [] ∧ (∀ e ∈ es, Ws e.before ∧ Ws e.after) ∧
      (∀ e ∈ es, Value tree e.text e.value) ∧ es.map (·.value) = relayElements cs ∧
      lead ++ composeElements fmt (entries.map (·.2)) =
        [44].intercalate (es.map Element.spelling) := by
  induction cs generalizing lead entries with
  | nil => exact absurd rfl hne
  | cons c cs ihl =>
    obtain ⟨txt, rest, ht, hr, rfl⟩ := printEntries_cons hp
    rw [List.all_cons, Bool.and_eq_true] at hf
    have hval := ih c (by simp) fmt depth txt ht hf.1
    by_cases hcs : cs = []
    · subst hcs
      cases hr
      exact ⟨[⟨lead, txt, [], relayValue c⟩], by simp, by simpa using ⟨hl, ws_nil⟩, by simpa using hval,
        rfl, by simp [composeElements, Element.spelling]⟩
    · obtain ⟨es, hes, hw, hv, hvals, htext⟩ :=
        ihl (fun d hd => ih d (by simp [hd])) hf.2 (blank fmt) (ws_blank fmt) hcs hr
      refine ⟨⟨lead, txt, [], relayValue c⟩ :: es, by simp, ?_, ?_, ?_, ?_⟩
      · exact List.forall_mem_cons.2 ⟨⟨hl, ws_nil⟩, hw⟩
      · exact List.forall_mem_cons.2 ⟨hval, hv⟩
      · rw [List.map_cons, hvals]
        rfl
      · have hrest := printEntries_ne_nil hcs hr
        have hmap : es.map Element.spelling ≠ [] := by simpa using hes
        rw [List.map_cons, List.map_cons (f := Element.spelling),
          List.intercalate_cons_of_ne_nil hmap, ← htext]
        simp [composeElements, Element.spelling, hrest, blank]

/-- The members of a printed object: every one starts a line, and what closes the object stands
behind the last. -/
theorem members_layout (hn : ∀ c ∈ cs, ∃ t, c.string = some t ∧ NoNul t)
    (ih : ∀ c ∈ cs, SpelledOut c) (hf : cs.all allFinite = true) (tail : Text)
    (htail : Ws ((if fmt then [10] else []) ++ tail)) {entries : List (Text × Text)} (hne : cs ≠ [])
    (hp : printEntries fmt depth cs = .ok entries) :
    ∃ ms : List (Member CJson), ms ≠ [] ∧
      (∀ m ∈ ms, Ws m.before ∧ Ws m.after ∧ Ws m.left ∧ Ws m.right) ∧
      (∀ m ∈ ms, StringToken m.name m.key) ∧ (∀ m ∈ ms, Value tree m.text m.value) ∧
      (ms.map fun m => { m.value with string := some m.key }) = relayMembers cs ∧
      (if fmt then [10] else []) ++ composeMembers fmt depth entries ++ tail =
        [44].intercalate (ms.map Member.spelling) := by
  induction cs generalizing entries with
  | nil => exact absurd rfl hne
  | cons c cs ihl =>
    obtain ⟨txt, rest, ht, hr, rfl⟩ := printEntries_cons hp
    rw [List.all_cons, Bool.and_eq_true] at hf
    obtain ⟨s, hname, hs⟩ := hn c (by simp)
    have hval := ih c (by simp) fmt depth txt ht hf.1
    have hmember : ({ relayValue c with string := some s } : CJson) = relay c := relay_named hname
    have hleft : lineStart fmt depth = (if fmt then [10] else []) ++
        if fmt then List.replicate depth 9 else [] := by cases fmt <;> rfl
    by_cases hcs : cs = []
    · subst hcs
      cases hr
      refine ⟨[⟨⟨gap fmt, txt, (if fmt then [10] else []) ++ tail, relayValue c⟩, lineStart fmt depth,
        printStringPtr (some s), [], s⟩], by simp, ?_, ?_, ?_, ?_, ?_⟩
      · simpa using ⟨ws_gap fmt, htail, ws_lineStart fmt depth, ws_nil⟩
      · simpa using stringToken_print hs
      · simpa using hval
      · rw [List.map_singleton, hmember]
        rfl
      · simp [composeMembers, Member.spelling, Element.spelling, hname, gap, hleft]
    · obtain ⟨ms, hms, hw, hk, hv, hvals, htext⟩ :=
        ihl (fun d hd => hn d (by simp [hd])) (fun d hd => ih d (by simp [hd])) hf.2 hcs hr
      refine ⟨⟨⟨gap fmt, txt, [], relayValue c⟩, lineStart fmt depth, printStringPtr (some s), [], s⟩ :: ms,
        by simp, ?_, ?_, ?_, ?_, ?_⟩
      · exact List.forall_mem_cons.2 ⟨⟨ws_gap fmt, ws_nil, ws_lineStart fmt depth, ws_nil⟩, hw⟩
      · exact List.forall_mem_cons.2 ⟨stringToken_print hs, hk⟩
      · exact List.forall_mem_cons.2 ⟨hval, hv⟩
      · rw [List.map_cons, hvals, hmember]
        rfl
      · have hrest := printEntries_ne_nil hcs hr
        have hmap : ms.map Member.spelling ≠ [] := by simpa using hms
        rw [List.map_cons, List.intercalate_cons_of_ne_nil hmap, ← htext]
        simp [composeMembers, Member.spelling, Element.spelling, hname, gap, hleft, hrest]

end Layout

/-! ## Trees -/

theorem spelledOut_constant {c : CJson} (h : c.type = .NULL ∨ c.type = .False ∨ c.type = .True) :
    SpelledOut c := by
  intro fmt depth txt hp hf
  rcases c with ⟨t, s, i, d, n, child⟩
  rcases h with rfl | rfl | rfl <;> cases hp
  · exact .null
  · exact .false
  · exact .true

theorem spelledOut_number {c : CJson} (h : c.type = .Number) : SpelledOut c := by
  intro fmt depth txt hp hf
  rcases c with ⟨t, s, i, d, n, child⟩
  cases h
  obtain rfl := printNumber_eq_ok hp
  have htoken : NumberToken (numberText ⟨.Number, s, i, d, n, []⟩) :=
    numberToken_numberText (finite_of_allFinite rfl hf)
  have hself := parseNumber_token htoken endsNumber_nil newItem
  rw [List.append_nil] at hself
  have hvalue : relayValue ⟨.Number, s, i, d, n, child⟩ =
      tree.number (numberText ⟨.Number, s, i, d, n, []⟩) := by
    rw [show tree.number (numberText ⟨.Number, s, i, d, n, []⟩) =
      numberOf (numberText ⟨.Number, s, i, d, n, []⟩) from rfl, numberOf, hself]
    rfl
  rw [hvalue]
  exact .number htoken

theorem spelledOut_string {c : CJson} (h : c.type = .String) {s : Text}
    (hs : c.valuestring = some s) (hn : NoNul s) : SpelledOut c := by
  intro fmt depth txt hp hf
  rcases c with ⟨t, v, i, d, n, child⟩
  cases h
  cases hs
  cases hp
  exact .string (stringToken_print hn)

theorem spelledOut_array {c : CJson} (h : c.type = .Array) (ih : ∀ d ∈ c.child, SpelledOut d) :
    SpelledOut c := by
  intro fmt depth txt hp hf
  rw [allFinite_child (Or.inl h)] at hf
  rcases c with ⟨t, s, i, d, n, child⟩
  cases h
  rw [printValue] at hp
  obtain ⟨entries, he, hp⟩ := bind_eq_ok.1 hp
  cases hp
  by_cases hcs : child = []
  · subst hcs
    cases he
    exact .emptyArray ws_nil
  · obtain ⟨es, hes, hw, hv, hvals, htext⟩ := elements_layout ih hf [] ws_nil hcs he
    rw [composeArray, ← List.nil_append (composeElements fmt _), htext]
    have hvalue := Value.array (A := tree) es hes hw hv
    rw [hvals] at hvalue
    exact hvalue

theorem spelledOut_object {c : CJson} (h : c.type = .Object)
    (hn : ∀ d ∈ c.child, ∃ t, d.string = some t ∧ NoNul t) (ih : ∀ d ∈ c.child, SpelledOut d) :
    SpelledOut c := by
  intro fmt depth txt hp hf
  rw [allFinite_child (Or.inr h)] at hf
  rcases c with ⟨t, s, i, d, n, child⟩
  cases h
  rw [printValue] at hp
  obtain ⟨entries, he, hp⟩ := bind_eq_ok.1 hp
  cases hp
  have htail : Ws ((if fmt then [10] else []) ++ if fmt then List.replicate (depth + 1 - 1) 9 else []) := by
    have hws := ws_lineStart fmt depth
    cases fmt
    · exact ws_nil
    · exact hws
  by_cases hcs : child = []
  · subst hcs
    cases he
    have hvalue := Value.emptyObject (A := tree) htail
    rw [show relayValue ⟨.Object, s, i, d, n, []⟩ = tree.object [] from rfl]
    simpa [composeObject, composeMembers] using hvalue
  · obtain ⟨ms, hms, hw, hk, hv, hvals, htext⟩ := members_layout hn ih hf _ htail hcs he
    rw [composeObject, htext]
    have hvalue := Value.object (A := tree) ms hms hw hk hv
    rw [show tree.object (ms.map fun m => (m.key, m.value)) = { newItem with
      type := .Object
      child := ms.map fun m => { m.value with string := some m.key } } by
        simp [tree, Function.comp_def], hvals] at hvalue
    exact hvalue

/-- A sound tree without infinities is printed as JSON, in either format. -/
theorem printValue_value {c : CJson} (h : Sound c) : SpelledOut c := by
  induction h with
  | leaf h =>
    rcases h with h | h | h | h
    · exact spelledOut_constant (Or.inl h)
    · exact spelledOut_constant (Or.inr (Or.inl h))
    · exact spelledOut_constant (Or.inr (Or.inr h))
    · exact spelledOut_number h
  | string t h hs hn => exact spelledOut_string h hs hn
  | array h hc ih => exact spelledOut_array h ih
  | object h hn hc ih => exact spelledOut_object h hn ih

theorem document_printValue {c : CJson} (h : Sound c) (hn : c.string = none)
    (hf : allFinite c = true) {fmt : Bool} {depth : ℕ} {txt : Text}
    (hp : printValue fmt depth c = .ok txt) : Document tree txt (relay c) := by
  have hvalue := printValue_value h fmt depth txt hp hf
  rw [relayValue, relay_named hn] at hvalue
  exact ⟨[], txt, [], by simp, ws_nil, ws_nil, hvalue⟩

/-- **Both printers write the same tree**, as texts of JSON that `parse` reads back to the end. -/
theorem printers_agree {c : CJson} (h : Sound c) (hn : c.string = none) (hf : allFinite c = true)
    (hp : printable c = true) (fmt : Bool) (depth : ℕ) :
    ∃ txt, printValue fmt depth c = .ok txt ∧ Document tree txt (relay c) ∧
      parse txt = .ok (some (relay c)) := by
  have hret := (returns_printValue_iff fmt depth c).2 ((print_returns_iff c).2 hp)
  obtain ⟨txt, htxt⟩ := hret
  have hdoc := document_printValue h hn hf htxt
  refine ⟨txt, htxt, hdoc, ?_⟩
  obtain ⟨before, text, after, rfl, hb, ha, hv⟩ := hdoc
  exact parse_spelling hb ha hv

/-- A text with an array, a fraction and a string that has to be escaped. -/
def mixed : Text := ascii "\x7b\"code\":[-1.25,true,null],\"msg\":\"a\\\"b\\nc\"\x7d"

theorem printers_agree_mixed : ∃ c, parse mixed = .ok (some c) ∧
    ∃ txt, printValue true 0 c = .ok txt ∧ Document tree txt (relay c) ∧
      parse txt = .ok (some (relay c)) := by
  have hprints : (parse mixed).map (Option.map fun c => allFinite c && printable c) = .ok (some true) := by
    decide +kernel
  cases hparse : parse mixed with
  | error e =>
    rw [hparse] at hprints
    cases hprints
  | ok json =>
    cases json with
    | none =>
      rw [hparse] at hprints
      cases hprints
    | some c =>
      have hboth : allFinite c = true ∧ printable c = true := by simpa [hparse, Except.map] using hprints
      obtain ⟨hsound, hn, -⟩ := parse_sound hparse
      exact ⟨c, rfl, printers_agree hsound hn hboth.1 hboth.2 true 0⟩

end CJson

end SingleTerminalLogin
