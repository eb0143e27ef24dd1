import SingleTerminalLogin.CJson.Parse

/-!
# What a parse returns

* `Sound` — the trees the services handle: strings are there and hold no zero
  byte, members of objects have names;
* `parse_sound` — every tree `cJSON_Parse` returns is of this kind;
* `parseValue_fuel` — the fuel bound of `parse` is never the reason for a result:
  any larger bound gives the same one.
-/

namespace SingleTerminalLogin

open ByteText Binary64 CProgram

namespace CJson

/-- The trees the services handle. -/
inductive Sound : CJson → Prop where
  /-- A constant or a number. -/
  | leaf {c : CJson}
      (h : c.type = .NULL ∨ c.type = .False ∨ c.type = .True ∨ c.type = .Number) : Sound c
  /-- A string is there and is a C string. -/
  | string {c : CJson} (t : Text) (h : c.type = .String) (hs : c.valuestring = some t)
      (hn : NoNul t) : Sound c
  /-- An array of sound items. -/
  | array {c : CJson} (h : c.type = .Array) (hc : ∀ d ∈ c.child, Sound d) : Sound c
  /-- An object of sound items with names. -/
  | object {c : CJson} (h : c.type = .Object)
      (hn : ∀ d ∈ c.child, ∃ t, d.string = some t ∧ NoNul t) (hc : ∀ d ∈ c.child, Sound d) :
      Sound c

/-- Soundness does not look at the name of the item itself. -/
theorem Sound.rename {c : CJson} (h : Sound c) (n : Option Text) :
    Sound { c with string := n } := by
  cases h with
  | leaf h => exact .leaf h
  | string t h hs hn => exact .string t h hs hn
  | array h hc => exact .array h hc
  | object h hn hc => exact .object h hn hc

theorem Sound.child {c : CJson} (h : Sound c) (hty : c.type = .Object ∨ c.type = .Array) :
    ∀ d ∈ c.child, Sound d := by
  cases h with
  | leaf h => rcases h with h | h | h | h <;> rw [h] at hty <;> simp at hty
  | string t h hs hn => rw [h] at hty; simp at hty
  | array h hc => exact hc
  | object h hn hc => exact hc

theorem Sound.named {c : CJson} (h : Sound c) (hty : c.type = .Object) :
    ∀ d ∈ c.child, ∃ t, d.string = some t ∧ NoNul t := by
  cases h with
  | leaf h => rcases h with h | h | h | h <;> rw [h] at hty <;> simp at hty
  | string t h hs hn => rw [h] at hty; simp at hty
  | array h hc => rw [h] at hty; simp at hty
  | object h hn hc => exact hn

theorem Sound.valuestring {c : CJson} (h : Sound c) (hty : c.type = .String) :
    ∃ t, c.valuestring = some t ∧ NoNul t := by
  cases h with
  | leaf h => rcases h with h | h | h | h <;> rw [h] at hty <;> simp at hty
  | string t h hs hn => exact ⟨t, hs, hn⟩
  | array h hc => rw [h] at hty; simp at hty
  | object h hn hc => rw [h] at hty; simp at hty

/-! ## What is left of the text -/

theorem skip_length (t : Text) : (skip t).length ≤ t.length := by
  induction t with
  | nil => exact le_rfl
  | cons c cs ih =>
    rw [skip]
    split
    · exact le_trans ih (Nat.le_succ _)
    · exact le_rfl

theorem tail_length (t : Text) : t.tail.length ≤ t.length := by
  rw [List.length_tail]
  exact Nat.sub_le _ _

/-- Stepping over a byte that is there makes the text shorter. -/
theorem tail_length_lt {t : Text} {b : Byte} (h : at0 t = b) (hb : b ≠ 0) :
    t.tail.length < t.length := by
  cases t with
  | nil => exact absurd h.symm hb
  | cons c cs => exact Nat.lt_succ_self _

theorem mantissaLoop_length (n : Int) (t : Text) : (mantissaLoop n t).2.length ≤ t.length := by
  induction t generalizing n with
  | nil => exact le_rfl
  | cons c cs ih =>
    rw [mantissaLoop]
    split
    · exact le_trans (ih _) (Nat.le_succ _)
    · exact le_rfl

theorem subscaleLoop_length (n : Int) (t : Text) : (subscaleLoop n t).2.length ≤ t.length := by
  induction t generalizing n with
  | nil => exact le_rfl
  | cons c cs ih =>
    rw [subscaleLoop]
    split
    · exact le_trans (ih _) (Nat.le_succ _)
    · exact le_rfl

theorem integralPart_length (t : Text) : (integralPart t).2.length ≤ t.length := by
  have hzero : (if at0 t = 48 then t.tail else t).length ≤ t.length := by
    split
    · exact tail_length t
    · exact le_rfl
  have hdigits : ∀ u : Text,
      (if isDigit (at0 u) ∧ at0 u ≠ 48 then mantissaLoop 0 u else (0, u)).2.length ≤ u.length := by
    intro u
    split
    · exact mantissaLoop_length 0 u
    · exact le_rfl
  exact le_trans (hdigits _) hzero

theorem fractionalPart_length (n : Int) (t : Text) :
    (fractionalPart n t).2.2.length ≤ t.length := by
  unfold fractionalPart
  split
  · exact le_trans (mantissaLoop_length _ _) (le_trans (tail_length _) (tail_length _))
  · exact le_rfl

theorem exponentPart_length (t : Text) : (exponentPart t).2.length ≤ t.length := by
  unfold exponentPart
  split
  · refine le_trans (subscaleLoop_length _ _) (le_trans ?_ (tail_length t))
    split
    · exact tail_length _
    · exact le_rfl
  · exact le_rfl

theorem parseNumber_length (item : CJson) (t : Text) :
    (parseNumber item t).2.length ≤ t.length := by
  have hstep : (if at0 t = 45 then t.tail else t).length ≤ t.length := by
    split
    · exact tail_length t
    · exact le_rfl
  unfold parseNumber
  dsimp only
  exact le_trans (exponentPart_length _) (le_trans (fractionalPart_length _ _)
    (le_trans (integralPart_length _) hstep))

theorem emit_eq_ok {out : Text} {r : C (Text × Text)} {p : Text × Text} (h : emit out r = .ok p) :
    ∃ q, r = .ok q ∧ p = (out ++ q.1, q.2) := by
  cases r with
  | error e => cases h
  | ok q => cases h; exact ⟨q, rfl, rfl⟩

theorem unescape_length (uc : Option Nat) (t : Text) :
    ∀ p, unescape uc t = .ok p → p.2.length ≤ t.length := by
  induction uc, t using unescape.induct with
  | case1 uc =>
    intro p h
    cases h
    exact le_rfl
  | case2 uc c cs hc =>
    intro p h
    rw [unescape.eq_def] at h
    simp only [hc, if_true] at h
    cases h
    exact le_rfl
  | case3 uc c cs hc h92 ih =>
    intro p h
    rw [unescape.eq_def] at h
    simp only [if_neg hc, if_pos h92] at h
    obtain ⟨q, hq, rfl⟩ := emit_eq_ok h
    exact le_trans (ih q hq) (Nat.le_succ _)
  | case4 uc c hc h92 =>
    intro p h
    rw [unescape.eq_def] at h
    simp only [hc, h92, if_false] at h
    cases h
    exact Nat.zero_le _
  | case5 uc c hc h92 es hu =>
    intro p h
    rw [unescape.eq_def] at h
    simp only [hc, h92, hu, if_false, if_true] at h
    cases h
  | case6 uc c hc h92 u a b d e rest hu ih =>
    intro p h
    rw [unescape.eq_def] at h
    simp only [hc, h92, hu, if_false, if_true] at h
    obtain ⟨q, hq, rfl⟩ := emit_eq_ok h
    have := ih q hq
    simp only [List.length_cons]
    omega
  | case7 uc c hc h92 es u hu hshort =>
    intro p h
    rw [unescape.eq_def] at h
    simp only [hc, h92, hu, if_false, if_true] at h
    cases h
    exact Nat.zero_le _
  | case8 uc c hc h92 e es he ih =>
    intro p h
    rw [unescape.eq_def] at h
    simp only [hc, h92, he, if_false] at h
    obtain ⟨q, hq, rfl⟩ := emit_eq_ok h
    exact le_trans (ih q hq) (le_trans (Nat.le_succ _) (Nat.le_succ _))

/-- What `parse_string` returns. -/
theorem parseString_eq_ok {item : CJson} {str : Text} {r : CJson × Text}
    (h : parseString item str = .ok (some r)) :
    (∃ t, NoNul t ∧ r.1 = { item with valuestring := some t, type := .String }) ∧
      r.2.length ≤ str.length := by
  unfold parseString at h
  split at h
  · cases h
  · obtain ⟨p, hp, h⟩ := bind_eq_ok.1 h
    split at h
    · cases h
    · cases h
      refine ⟨⟨_, cstr_noNul _, rfl⟩, ?_⟩
      have hlen : p.2.length ≤ str.length := le_trans (unescape_length _ _ p hp) (tail_length str)
      split
      · exact le_trans (tail_length _) hlen
      · exact hlen

/-! ## Trees -/

/-- What a parsing function hands back for an item to fill in: a sound tree under
the item's name, nameless items in everything but an object, and a text that got
no longer. -/
structure Filled (item : CJson) (value : Text) (c : CJson) (rest : Text) : Prop where
  sound : Sound c
  string : c.string = item.string
  nameless : c.type ≠ .Object → ∀ d ∈ c.child, d.string = none
  length : rest.length ≤ value.length

/-- What each parsing function hands back, at one fuel. -/
structure FilledAt (fuel : Nat) : Prop where
  value : ∀ item value c rest, item.child = [] → parseValue fuel item value = .ok (some (c, rest)) →
    Filled item value c rest
  array : ∀ item value c rest, item.child = [] → parseArray fuel item value = .ok (some (c, rest)) →
    Filled item value c rest
  elements : ∀ item children value c rest, item.type = .Array →
    (∀ d ∈ children, Sound d ∧ d.string = none) →
    arrayLoop fuel item children value = .ok (some (c, rest)) → Filled item value c rest
  object : ∀ item value c rest, item.child = [] → parseObject fuel item value = .ok (some (c, rest)) →
    Filled item value c rest
  members : ∀ item children value c rest, item.type = .Object →
    (∀ d ∈ children, Sound d ∧ ∃ t, d.string = some t ∧ NoNul t) →
    objectLoop fuel item children value = .ok (some (c, rest)) → Filled item value c rest
  member : ∀ value c rest, parseMember fuel value = .ok (some (c, rest)) →
    (Sound c ∧ ∃ t, c.string = some t ∧ NoNul t) ∧ rest.length ≤ value.length

theorem filledAt_zero : FilledAt 0 where
  value _ _ _ _ _ h := by cases h
  array _ _ _ _ _ h := by cases h
  elements _ _ _ _ _ _ _ h := by cases h
  object _ _ _ _ _ h := by cases h
  members _ _ _ _ _ _ _ h := by cases h
  member _ _ _ h := by cases h

section

variable {fuel : Nat}

theorem parseValue_filled (ih : FilledAt fuel) {item : CJson} {value : Text} {c : CJson} {rest : Text}
    (hi : item.child = []) (h : parseValue (fuel + 1) item value = .ok (some (c, rest))) :
    Filled item value c rest := by
  have hdrop : ∀ n, (value.drop n).length ≤ value.length := fun n => by
    rw [List.length_drop]; exact Nat.sub_le _ _
  have hleaf : ∀ {p : Prop}, p → ∀ d ∈ item.child, d.string = none := fun _ d hd => by
    rw [hi] at hd
    cases hd
  rw [parseValue] at h
  split at h
  · cases h
    exact ⟨.leaf (Or.inl rfl), rfl, hleaf, hdrop 4⟩
  split at h
  · cases h
    exact ⟨.leaf (Or.inr (Or.inl rfl)), rfl, hleaf, hdrop 5⟩
  split at h
  · cases h
    exact ⟨.leaf (Or.inr (Or.inr (Or.inl rfl))), rfl, hleaf, hdrop 4⟩
  split at h
  · obtain ⟨⟨t, ht, hc⟩, hlen⟩ := parseString_eq_ok h
    simp only at hc
    subst hc
    exact ⟨.string t rfl rfl ht, rfl, hleaf, hlen⟩
  split at h
  · have hlen := parseNumber_length item value
    simp only [Except.ok.injEq, Option.some.injEq] at h
    rw [h] at hlen
    have hc : (parseNumber item value).1 = c := by rw [h]
    subst hc
    exact ⟨.leaf (Or.inr (Or.inr (Or.inr rfl))), rfl, hleaf, hlen⟩
  split at h
  · exact ih.array _ _ _ _ hi h
  split at h
  · exact ih.object _ _ _ _ hi h
  · cases h

theorem parseArray_filled (ih : FilledAt fuel) {item : CJson} {value : Text} {c : CJson} {rest : Text}
    (hi : item.child = []) (h : parseArray (fuel + 1) item value = .ok (some (c, rest))) :
    Filled item value c rest := by
  have hskip : (skip value.tail).length ≤ value.length :=
    le_trans (skip_length _) (tail_length value)
  rw [parseArray] at h
  split at h
  · cases h
    exact ⟨.array rfl (by simp [hi]), rfl, fun _ => by simp [hi], le_trans (tail_length _) hskip⟩
  · obtain ⟨r, hr, h⟩ := bind_eq_ok.1 h
    cases r with
    | none => cases h
    | some r =>
      obtain ⟨hs, hnone, -, hl⟩ := ih.value _ _ _ _ rfl hr
      have hall : ∀ d ∈ [r.1], Sound d ∧ d.string = none := by
        intro d hd
        rw [List.mem_singleton.1 hd]
        exact ⟨hs, hnone⟩
      obtain ⟨hc, hn, hnames, hrest⟩ := ih.elements _ _ _ _ _ rfl hall h
      refine ⟨hc, hn, hnames, ?_⟩
      exact le_trans hrest (le_trans (skip_length _) (le_trans hl (le_trans (skip_length _) hskip)))

theorem arrayLoop_filled (ih : FilledAt fuel) {item : CJson} {children : List CJson} {value : Text}
    {c : CJson} {rest : Text} (hty : item.type = .Array) (hs : ∀ d ∈ children, Sound d ∧ d.string = none)
    (h : arrayLoop (fuel + 1) item children value = .ok (some (c, rest))) :
    Filled item value c rest := by
  rw [arrayLoop] at h
  split at h
  · obtain ⟨r, hr, h⟩ := bind_eq_ok.1 h
    cases r with
    | none => cases h
    | some r =>
      obtain ⟨hd, hnone, -, hl⟩ := ih.value _ _ _ _ rfl hr
      have hall : ∀ d ∈ children ++ [r.1], Sound d ∧ d.string = none := by
        intro d hmem
        rcases List.mem_append.1 hmem with hmem | hmem
        · exact hs d hmem
        · rw [List.mem_singleton.1 hmem]
          exact ⟨hd, hnone⟩
      obtain ⟨hc, hn, hnames, hrest⟩ := ih.elements _ _ _ _ _ hty hall h
      refine ⟨hc, hn, hnames, ?_⟩
      exact le_trans hrest (le_trans (skip_length _) (le_trans hl (le_trans (skip_length _)
        (tail_length _))))
  split at h
  · cases h
    exact ⟨.array hty fun d hd => (hs d hd).1, rfl, fun _ d hd => (hs d hd).2, tail_length _⟩
  · cases h

theorem parseObject_filled (ih : FilledAt fuel) {item : CJson} {value : Text} {c : CJson} {rest : Text}
    (hi : item.child = []) (h : parseObject (fuel + 1) item value = .ok (some (c, rest))) :
    Filled item value c rest := by
  have hskip : (skip value.tail).length ≤ value.length :=
    le_trans (skip_length _) (tail_length value)
  rw [parseObject] at h
  split at h
  · cases h
    exact ⟨.object rfl (by simp [hi]) (by simp [hi]), rfl, fun h => absurd rfl h,
      le_trans (tail_length _) hskip⟩
  · obtain ⟨r, hr, h⟩ := bind_eq_ok.1 h
    cases r with
    | none => cases h
    | some r =>
      obtain ⟨hs, hl⟩ := ih.member _ _ _ hr
      obtain ⟨hc, hn, hnames, hrest⟩ := ih.members _ _ _ _ _ rfl (by simpa using hs) h
      refine ⟨hc, hn, hnames, ?_⟩
      exact le_trans hrest (le_trans (skip_length _) (le_trans hl (le_trans (skip_length _) hskip)))

theorem objectLoop_filled (ih : FilledAt fuel) {item : CJson} {children : List CJson} {value : Text}
    {c : CJson} {rest : Text} (hty : item.type = .Object)
    (hs : ∀ d ∈ children, Sound d ∧ ∃ t, d.string = some t ∧ NoNul t)
    (h : objectLoop (fuel + 1) item children value = .ok (some (c, rest))) :
    Filled item value c rest := by
  rw [objectLoop] at h
  split at h
  · obtain ⟨r, hr, h⟩ := bind_eq_ok.1 h
    cases r with
    | none => cases h
    | some r =>
      obtain ⟨hd, hl⟩ := ih.member _ _ _ hr
      have hall : ∀ d ∈ children ++ [r.1], Sound d ∧ ∃ t, d.string = some t ∧ NoNul t := by
        intro d hmem
        rcases List.mem_append.1 hmem with hmem | hmem
        · exact hs d hmem
        · rw [List.mem_singleton.1 hmem]
          exact hd
      obtain ⟨hc, hn, hnames, hrest⟩ := ih.members _ _ _ _ _ hty hall h
      refine ⟨hc, hn, hnames, ?_⟩
      exact le_trans hrest (le_trans (skip_length _) (le_trans hl (le_trans (skip_length _)
        (tail_length _))))
  split at h
  · cases h
    exact ⟨.object hty (fun d hd => (hs d hd).2) (fun d hd => (hs d hd).1), rfl,
      fun h => absurd hty h, tail_length _⟩
  · cases h

theorem parseMember_filled (ih : FilledAt fuel) {value : Text} {c : CJson} {rest : Text}
    (h : parseMember (fuel + 1) value = .ok (some (c, rest))) :
    (Sound c ∧ ∃ t, c.string = some t ∧ NoNul t) ∧ rest.length ≤ value.length := by
  rw [parseMember] at h
  obtain ⟨r, hr, h⟩ := bind_eq_ok.1 h
  cases r with
  | none => cases h
  | some r =>
    obtain ⟨⟨t, ht, hname⟩, hl⟩ := parseString_eq_ok hr
    simp only at h
    split at h
    · cases h
    · obtain ⟨hc, hn, -, hrest⟩ := ih.value _ _ _ _ (by simp only [hname]; rfl) h
      refine ⟨⟨hc, t, by rw [hn]; simp only [hname], ht⟩, ?_⟩
      exact le_trans hrest (le_trans (skip_length _) (le_trans (tail_length _)
        (le_trans (skip_length _) hl)))

end

theorem filledAt (fuel : Nat) : FilledAt fuel := by
  induction fuel with
  | zero => exact filledAt_zero
  | succ fuel ih =>
    exact
      { value := fun _ _ _ _ hi h => parseValue_filled ih hi h
        array := fun _ _ _ _ hi h => parseArray_filled ih hi h
        elements := fun _ _ _ _ _ hty hs h => arrayLoop_filled ih hty hs h
        object := fun _ _ _ _ hi h => parseObject_filled ih hi h
        members := fun _ _ _ _ _ hty hs h => objectLoop_filled ih hty hs h
        member := fun _ _ _ h => parseMember_filled ih h }

/-- A parsed tree is sound, has no name of its own, and has names in it only
where it is an object. -/
theorem parse_sound {t : Text} {c : CJson} (h : parse t = .ok (some c)) :
    Sound c ∧ c.string = none ∧ (c.type ≠ .Object → ∀ d ∈ c.child, d.string = none) := by
  unfold parse at h
  obtain ⟨r, hr, h⟩ := bind_eq_ok.1 h
  cases r with
  | none => cases h
  | some r =>
    cases h
    have hfilled := (filledAt _).value _ _ _ _ rfl hr
    exact ⟨hfilled.sound, hfilled.string, hfilled.nameless⟩

/-! ## Fuel -/

/-- At this fuel one more makes no difference, to a call whose text is short
enough for it. -/
structure SteadyAt (fuel : Nat) : Prop where
  value : ∀ item value, 3 * value.length + 2 ≤ fuel →
    parseValue (fuel + 1) item value = parseValue fuel item value
  array : ∀ item value, 3 * value.tail.length + 4 ≤ fuel →
    parseArray (fuel + 1) item value = parseArray fuel item value
  elements : ∀ item children value, 3 * value.length + 1 ≤ fuel →
    arrayLoop (fuel + 1) item children value = arrayLoop fuel item children value
  object : ∀ item value, 3 * value.tail.length + 4 ≤ fuel →
    parseObject (fuel + 1) item value = parseObject fuel item value
  members : ∀ item children value, 3 * value.length + 1 ≤ fuel →
    objectLoop (fuel + 1) item children value = objectLoop fuel item children value
  member : ∀ value, 3 * value.length + 1 ≤ fuel →
    parseMember (fuel + 1) value = parseMember fuel value

theorem steadyAt_zero : SteadyAt 0 where
  value _ _ h := absurd h (by omega)
  array _ _ h := absurd h (by omega)
  elements _ _ _ h := absurd h (by omega)
  object _ _ h := absurd h (by omega)
  members _ _ _ h := absurd h (by omega)
  member _ h := absurd h (by omega)

section

variable {fuel : Nat}

theorem parseValue_steady (ih : SteadyAt fuel) (item : CJson) (value : Text)
    (h : 3 * value.length + 2 ≤ fuel + 1) :
    parseValue (fuel + 2) item value = parseValue (fuel + 1) item value := by
  rw [parseValue, parseValue]
  split_ifs with h1 h2 h3 h4 h5 h6 h7
  · rfl
  · rfl
  · rfl
  · rfl
  · rfl
  · have := tail_length_lt h6 (by decide)
    exact ih.array item value (by omega)
  · have := tail_length_lt h7 (by decide)
    exact ih.object item value (by omega)
  · rfl

/-- Two calls that agree on the first item agree on the rest of the chain. -/
theorem bind_steady {x y : C (Option (CJson × Text))}
    {f g : Option (CJson × Text) → C (Option (CJson × Text))} (hxy : x = y)
    (hfg : ∀ r, y = .ok r → f r = g r) : (x >>= f) = (y >>= g) := by
  subst hxy
  cases x with
  | error e => rfl
  | ok r => exact hfg r rfl

theorem parseArray_steady (ih : SteadyAt fuel) (item : CJson) (value : Text)
    (h : 3 * value.tail.length + 4 ≤ fuel + 1) :
    parseArray (fuel + 2) item value = parseArray (fuel + 1) item value := by
  have hskip : (skip (skip value.tail)).length ≤ value.tail.length :=
    le_trans (skip_length _) (skip_length _)
  rw [parseArray, parseArray]
  split_ifs with h1
  · rfl
  · refine bind_steady (ih.value _ _ (by omega)) fun r hr => ?_
    cases r with
    | none => rfl
    | some r =>
      have hl := ((filledAt fuel).value _ _ _ _ rfl hr).length
      have := skip_length r.2
      exact ih.elements _ _ _ (by omega)

theorem arrayLoop_steady (ih : SteadyAt fuel) (item : CJson) (children : List CJson) (value : Text)
    (h : 3 * value.length + 1 ≤ fuel + 1) :
    arrayLoop (fuel + 2) item children value = arrayLoop (fuel + 1) item children value := by
  rw [arrayLoop, arrayLoop]
  split_ifs with h1 h2
  · have htail := tail_length_lt h1 (by decide)
    have hskip := skip_length value.tail
    refine bind_steady (ih.value _ _ (by omega)) fun r hr => ?_
    cases r with
    | none => rfl
    | some r =>
      have hl := ((filledAt fuel).value _ _ _ _ rfl hr).length
      have := skip_length r.2
      exact ih.elements _ _ _ (by omega)
  · rfl
  · rfl

theorem parseObject_steady (ih : SteadyAt fuel) (item : CJson) (value : Text)
    (h : 3 * value.tail.length + 4 ≤ fuel + 1) :
    parseObject (fuel + 2) item value = parseObject (fuel + 1) item value := by
  have hskip : (skip (skip value.tail)).length ≤ value.tail.length :=
    le_trans (skip_length _) (skip_length _)
  rw [parseObject, parseObject]
  split_ifs with h1
  · rfl
  · refine bind_steady (ih.member _ (by omega)) fun r hr => ?_
    cases r with
    | none => rfl
    | some r =>
      have hl := ((filledAt fuel).member _ _ _ hr).2
      have := skip_length r.2
      exact ih.members _ _ _ (by omega)

theorem objectLoop_steady (ih : SteadyAt fuel) (item : CJson) (children : List CJson)
    (value : Text) (h : 3 * value.length + 1 ≤ fuel + 1) :
    objectLoop (fuel + 2) item children value = objectLoop (fuel + 1) item children value := by
  rw [objectLoop, objectLoop]
  split_ifs with h1 h2
  · have htail := tail_length_lt h1 (by decide)
    have hskip := skip_length value.tail
    refine bind_steady (ih.member _ (by omega)) fun r hr => ?_
    cases r with
    | none => rfl
    | some r =>
      have hl := ((filledAt fuel).member _ _ _ hr).2
      have := skip_length r.2
      exact ih.members _ _ _ (by omega)
  · rfl
  · rfl

theorem parseMember_steady (ih : SteadyAt fuel) (value : Text)
    (h : 3 * value.length + 1 ≤ fuel + 1) :
    parseMember (fuel + 2) value = parseMember (fuel + 1) value := by
  rw [parseMember, parseMember]
  refine bind_steady rfl fun r hr => ?_
  cases r with
  | none => rfl
  | some r =>
    simp only
    split_ifs with h1
    · rfl
    · have hl := (parseString_eq_ok hr).2
      have h2 := skip_length r.2
      have h3 := tail_length_lt (not_not.1 h1) (by decide)
      have h4 := skip_length (skip r.2).tail
      exact ih.value _ _ (by omega)

end

theorem steadyAt (fuel : Nat) : SteadyAt fuel := by
  induction fuel with
  | zero => exact steadyAt_zero
  | succ fuel ih =>
    exact
      { value := parseValue_steady ih
        array := parseArray_steady ih
        elements := arrayLoop_steady ih
        object := parseObject_steady ih
        members := objectLoop_steady ih
        member := parseMember_steady ih }

/-- The parse does not depend on the fuel, once there is as much as `parse`
starts with. -/
theorem parseValue_fuel (item : CJson) (value : Text) {fuel : Nat} (h : parseFuel value ≤ fuel) :
    parseValue fuel item value = parseValue (parseFuel value) item value := by
  induction fuel, h using Nat.le_induction with
  | base => rfl
  | succ fuel h ih =>
    rw [← ih]
    exact (steadyAt fuel).value item value (by unfold parseFuel at h; omega)

end CJson

end SingleTerminalLogin
