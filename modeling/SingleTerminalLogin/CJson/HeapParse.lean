import SingleTerminalLogin.CJson.Linking
import SingleTerminalLogin.CJson.Parsed

/-!
# `cJSON_Parse` in memory

The parser of `CJson/Parse.lean` returns a tree.  The one in the library fills in an item it is
handed, allocates the children one by one and links them, and gives up in the middle of it when the
text is malformed or `malloc` finds no memory.

`parse_spec`: whatever the text and whichever calls of `malloc` fail, `cJSON_Parse` either returns
the tree of `CJson.parse`, in blocks that belong to nothing else, or the null pointer after it has
freed everything it had allocated.
-/

namespace SingleTerminalLogin

open ByteText Binary64 CProgram SepLogic HProp HeapM

namespace CJsonHeap

/-! ## The functions -/

/-- `parse_string`. -/
def parseString (item : Addr) (str : Text) : HeapM Block (Option Text) :=
  if CJson.at0 str ≠ 34 then pure none
  else do
    let out ← malloc (.chars ⟨CJson.stringLength str.tail + 1, none, by simp⟩)
    unlessNull out fun out => do
      let r ← lift (CJson.unescape none str.tail)
      writeText out r.1
      setItem item ({ · with valuestring := some out, type := .String })
      pure (some (if CJson.at0 r.2 = 34 then r.2.tail else r.2))

/-- `parse_number`. -/
def parseNumber (item : Addr) (num : Text) : HeapM Block (Option Text) := do
  let r := CJson.parseNumber CJson.newItem num
  setItem item ({ · with valuedouble := r.1.valuedouble, valueint := r.1.valueint, type := .Number })
  pure (some r.2)

mutual

/-- `parse_value`. -/
def parseValue : ℕ → Addr → Text → HeapM Block (Option Text)
  | 0, _, _ => pure none
  | fuel + 1, item, value =>
    if value.take 4 = ascii "null" then do
      setItem item ({ · with type := .NULL })
      pure (some (value.drop 4))
    else if value.take 5 = ascii "false" then do
      setItem item ({ · with type := .False })
      pure (some (value.drop 5))
    else if value.take 4 = ascii "true" then do
      setItem item ({ · with type := .True, valueint := 1 })
      pure (some (value.drop 4))
    else if CJson.at0 value = 34 then parseString item value
    else if CJson.at0 value = 45 ∨ isDigit (CJson.at0 value) then parseNumber item value
    else if CJson.at0 value = 91 then parseArray fuel item value
    else if CJson.at0 value = 123 then parseObject fuel item value
    else pure none

/-- `parse_array`. -/
def parseArray : ℕ → Addr → Text → HeapM Block (Option Text)
  | 0, _, _ => pure none
  | fuel + 1, item, value => do
    setItem item ({ · with type := .Array })
    let value := CJson.skip value.tail
    if CJson.at0 value = 93 then pure (some value.tail)
    else do
      let child ← newItem
      setItem item ({ · with child := child })
      unlessNull child fun child => do
        unlessNull (← parseValue fuel child (CJson.skip value)) fun value =>
          arrayLoop fuel child (CJson.skip value)

/-- `while (*value==',')` of `parse_array`. -/
def arrayLoop : ℕ → Addr → Text → HeapM Block (Option Text)
  | 0, _, _ => pure none
  | fuel + 1, child, value =>
    if CJson.at0 value = 44 then do
      unlessNull (← newItem) fun new => do
        setItem child ({ · with next := some new })
        setItem new ({ · with prev := some child })
        unlessNull (← parseValue fuel new (CJson.skip value.tail)) fun value =>
          arrayLoop fuel new (CJson.skip value)
    else if CJson.at0 value = 93 then pure (some value.tail)
    else pure none

/-- `parse_object`. -/
def parseObject : ℕ → Addr → Text → HeapM Block (Option Text)
  | 0, _, _ => pure none
  | fuel + 1, item, value => do
    setItem item ({ · with type := .Object })
    let value := CJson.skip value.tail
    if CJson.at0 value = 125 then pure (some value.tail)
    else do
      let child ← newItem
      setItem item ({ · with child := child })
      unlessNull child fun child => do
        unlessNull (← parseMember fuel child (CJson.skip value)) fun value =>
          objectLoop fuel child (CJson.skip value)

/-- `while (*value==',')` of `parse_object`. -/
def objectLoop : ℕ → Addr → Text → HeapM Block (Option Text)
  | 0, _, _ => pure none
  | fuel + 1, child, value =>
    if CJson.at0 value = 44 then do
      unlessNull (← newItem) fun new => do
        setItem child ({ · with next := some new })
        setItem new ({ · with prev := some child })
        unlessNull (← parseMember fuel new (CJson.skip value.tail)) fun value =>
          objectLoop fuel new (CJson.skip value)
    else if CJson.at0 value = 125 then pure (some value.tail)
    else pure none

/-- One member of an object: its name, a colon and its value. -/
def parseMember : ℕ → Addr → Text → HeapM Block (Option Text)
  | 0, _, _ => pure none
  | fuel + 1, child, value => do
    unlessNull (← parseString child value) fun value => do
      let item ← getItem child
      setItem child ({ · with string := item.valuestring, valuestring := none })
      if CJson.at0 (CJson.skip value) ≠ 58 then pure none
      else parseValue fuel child (CJson.skip (CJson.skip value).tail)

end

/-- `cJSON_Parse`. -/
def parse (value : Text) : HeapM Block Ptr := do
  unlessNull (← newItem) fun c => do
    match ← parseValue (CJson.parseFuel (CJson.skip value)) c (CJson.skip value) with
    | none => do
      delete (some c)
      pure none
    | some _ => pure (some c)

/-! ## What they leave in memory -/

section

variable {g : Grants}

/-- What a parsing function leaves of the item at `a`: the one the tree parser returns, or, when it
gives up, whatever has been filled in until then. -/
noncomputable def parsedTo (g : Grants) (r : C (Option (CJson × Text))) (a : Addr) (prev : Ptr) :
    Option Text → HProp Block
  | some rest => ⨆ c : CJson, fact (r = .ok (some (c, rest))) * itemAt c a prev none
  | none => ⨆ c : CJson, fact (r = .ok none ∨ Denied g) * itemAt c a prev none

/-- A parse that goes on. -/
theorem parsedTo_some {r : C (Option (CJson × Text))} {a : Addr} {prev : Ptr} {c : CJson} {rest : Text}
    (h : r = .ok (some (c, rest))) : itemAt c a prev none ≤ parsedTo g r a prev (some rest) :=
  le_iSup_of_le c (le_fact_mul h le_rfl)

/-- A parse that gives up. -/
theorem parsedTo_none {r : C (Option (CJson × Text))} (a : Addr) (prev : Ptr) (c : CJson)
    (h : r = .ok none ∨ Denied g) : itemAt c a prev none ≤ parsedTo g r a prev none :=
  le_iSup_of_le c (le_fact_mul h le_rfl)

/-- A string whose parse returns fits the block that was measured for it. -/
theorem parseString_of_returns {item : CJson} {str : Text} (h34 : CJson.at0 str = 34)
    (h : Returns (CJson.parseString item str)) :
    ∃ r, CJson.unescape none str.tail = .ok r ∧ r.1.length ≤ CJson.stringLength str.tail ∧
      CJson.parseString item str =
        .ok (some ({ item with valuestring := some (cstr r.1), type := .String },
          if CJson.at0 r.2 = 34 then r.2.tail else r.2)) := by
  rw [CJson.parseString, if_neg (not_not.2 h34)] at h ⊢
  obtain ⟨r, hr, hret⟩ := returns_bind_iff.1 h
  by_cases hlt : CJson.stringLength str.tail < r.1.length
  · rw [if_pos hlt] at hret
    exact absurd hret (not_returns_error _)
  · refine ⟨r, hr, Nat.le_of_not_lt hlt, ?_⟩
    rw [hr, ok_bind, if_neg hlt]

theorem parseString_spec {item : CJson} (hv : item.valuestring = none) (a : Addr) (prev : Ptr)
    {str : Text} (h : Returns (CJson.parseString item str)) :
    Triple g (itemAt item a prev none) (parseString a str)
      (parsedTo g (CJson.parseString item str) a prev) := by
  rw [parseString]
  by_cases h34 : CJson.at0 str = 34
  swap
  · rw [if_pos h34]
    refine Triple.pure (parsedTo_none a prev item (Or.inl ?_))
    rw [CJson.parseString, if_pos h34]
  obtain ⟨r, hr, hlen, hres⟩ := parseString_of_returns h34 h
  rw [if_neg (not_not.2 h34)]
  refine (Triple.malloc _).step (one_mul _).symm fun p => ?_
  cases p with
  | none =>
    refine Triple.fact_pre fun hd => ?_
    exact Triple.pure (parsedTo_none a prev item (Or.inr hd))
  | some out =>
    refine (Triple.lift hr).bind fun r' => Triple.fact_pre ?_
    rintro rfl
    refine (writeText_spec out _ r'.1 (Nat.lt_succ_of_le hlen)).step rfl fun _ => ?_
    rw [itemAt_eq, hv]
    simp only [Quantale.mul_iSup_distrib]
    refine Triple.exists_pre fun pc => Triple.exists_pre fun pv => Triple.exists_pre fun ps => ?_
    refine (setItem_spec a _ _).step (mul_left_comm _ _ _) fun _ => ?_
    refine Triple.pure (le_trans ?_ (parsedTo_some (c := { item with
      valuestring := some (cstr r'.1), type := .String }) ?_))
    · refine le_itemAt _ a prev none pc (some out) ps (le_trans (le_of_eq ?_) (mul_le_mul' le_rfl
        (le_trans (mul_le_mul' ((textAt_none pv).le.trans (fun _ hh => hh.2)) le_rfl)
          (le_of_eq (one_mul _)))))
      · ac_rfl
    · exact hres

/-- The fields of an item that `parse_value` fills in itself. -/
theorem setValue_spec {item c : CJson} {r : C (Option (CJson × Text))} {rest : Text} (a : Addr)
    (prev : Ptr) {f : Item → Item} (hr : r = .ok (some (c, rest)))
    (hv : c.valuestring = item.valuestring) (hs : c.string = item.string) (hc : c.child = item.child)
    (hf : ∀ pc pv ps, f (cell item prev none pc pv ps) = cell c prev none pc pv ps) :
    Triple g (itemAt item a prev none)
      (do
        setItem a f
        pure (some rest))
      (parsedTo g r a prev) :=
  (setFields_spec a hv hs hc hf).bind fun _ => Triple.pure (parsedTo_some hr)

theorem parseNumber_spec (item : CJson) (a : Addr) (prev : Ptr) (num : Text) :
    Triple g (itemAt item a prev none) (parseNumber a num)
      (parsedTo g (.ok (some (CJson.parseNumber item num))) a prev) :=
  setValue_spec (c := (CJson.parseNumber item num).1) a prev rfl rfl rfl rfl fun _ _ _ => rfl

/-- An item whose children are being read: `child` is the last one so far. -/
noncomputable def building (item : CJson) (children : List CJson) (a : Addr) (prev : Ptr)
    (child : Addr) : HProp Block :=
  ⨆ pc : Ptr, ⨆ pv : Ptr, ⨆ ps : Ptr,
    pointsTo a (.item (cell item prev none pc pv ps)) *
      (textAt pv item.valuestring * (textAt ps item.string *
        chain itemAt children pc none (some child) none))

theorem building_le (item : CJson) (children : List CJson) (a : Addr) (prev : Ptr) (child : Addr) :
    building item children a prev child ≤ itemAt { item with child := children } a prev none := by
  refine iSup_le fun pc => iSup_le fun pv => iSup_le fun ps => le_itemAt _ a prev none pc pv ps ?_
  refine mul_le_mul' le_rfl (mul_le_mul' le_rfl (mul_le_mul' le_rfl ?_))
  rw [childrenAt_eq]
  exact le_iSup (fun l => chain itemAt children pc none l none) (some child)

/-- A block `cJSON_New_Item` has cleared. -/
theorem newItem_spec : Triple g 1 newItem (orNull g fun a => itemAt CJson.newItem a none none) := by
  refine (Triple.malloc _).weaken le_rfl fun p => ?_
  cases p with
  | none => exact le_rfl
  | some a => exact cell_le_itemAt CJson.newItem a none none rfl rfl rfl

section

variable {item : CJson} {children : List CJson} {a : Addr} {prev : Ptr}
  {p : Addr → HeapM Block (Option Text)} {k : Addr → Text → HeapM Block (Option Text)}
  {r R : C (Option (CJson × Text))}

/-- One more item behind the last child: the body of the two loops. -/
theorem appendItem_spec
    (hp : ∀ new prev, Triple g (itemAt CJson.newItem new prev none) (p new) (parsedTo g r new prev))
    (hnone : r = .ok none → R = .ok none)
    (hsome : ∀ c rest, r = .ok (some (c, rest)) → ∀ new,
      Triple g (building item (children ++ [c]) a prev new) (k new rest) (parsedTo g R a prev))
    (child : Addr) :
    Triple g (building item children a prev child)
      (do
        unlessNull (← newItem) fun new => do
          setItem child ({ · with next := some new })
          setItem new ({ · with prev := some child })
          unlessNull (← p new) (k new))
      (parsedTo g R a prev) := by
  refine newItem_spec.step (one_mul _).symm fun new => ?_
  cases new with
  | none =>
    refine Triple.fact_pre fun hd => Triple.pure ?_
    exact (building_le item children a prev child).trans (parsedTo_none a prev _ (Or.inr hd))
  | some new =>
    simp only [building, Quantale.mul_iSup_distrib]
    refine Triple.exists_pre fun pc => Triple.exists_pre fun pv => Triple.exists_pre fun ps => ?_
    refine (setLast_spec children pc child none (some new)).step
      (F := itemAt CJson.newItem new none none * (pointsTo a (.item (cell item prev none pc pv ps)) *
        (textAt pv item.valuestring * textAt ps item.string))) (by ac_rfl) fun _ => ?_
    refine (setPrev_spec CJson.newItem new none none (some child)).step (mul_left_comm _ _ _) fun _ => ?_
    refine (hp new (some child)).step rfl fun res => ?_
    -- whatever has been read hangs on the chain now
    have hchain : ∀ c, itemAt c new (some child) none * (chain itemAt children pc none (some child)
        (some new) * (pointsTo a (.item (cell item prev none pc pv ps)) *
          (textAt pv item.valuestring * textAt ps item.string))) ≤
        building item (children ++ [c]) a prev new := by
      intro c
      refine le_iSup_of_le pc (le_iSup_of_le pv (le_iSup_of_le ps ?_))
      rw [chain_snoc]
      simp only [Quantale.mul_iSup_distrib]
      refine le_iSup_of_le (some child) (le_iSup_of_le new ?_)
      rw [fact_of rfl, one_mul]
      exact le_of_eq (by ac_rfl)
    cases res with
    | none =>
      simp only [parsedTo, Quantale.iSup_mul_distrib]
      refine Triple.exists_pre fun c => ?_
      rw [mul_assoc]
      refine Triple.fact_pre fun hr => Triple.pure ((hchain c).trans ?_)
      exact (building_le item _ a prev new).trans (parsedTo_none a prev _ (hr.imp_left hnone))
    | some rest =>
      simp only [parsedTo, Quantale.iSup_mul_distrib]
      refine Triple.exists_pre fun c => ?_
      rw [mul_assoc]
      exact Triple.fact_pre fun hr => (hsome c rest hr new).weaken (hchain c) fun _ => le_rfl

/-- The first child. -/
theorem firstItem_spec (hitem : item.child = [])
    (hp : ∀ new prev, Triple g (itemAt CJson.newItem new prev none) (p new) (parsedTo g r new prev))
    (hnone : r = .ok none → R = .ok none)
    (hsome : ∀ c rest, r = .ok (some (c, rest)) → ∀ new,
      Triple g (building item [c] a prev new) (k new rest) (parsedTo g R a prev)) :
    Triple g (itemAt item a prev none)
      (do
        let child ← newItem
        setItem a ({ · with child := child })
        unlessNull child fun child => do
          unlessNull (← p child) (k child))
      (parsedTo g R a prev) := by
  refine newItem_spec.step (one_mul _).symm fun new => ?_
  rw [itemAt_eq item, hitem]
  simp only [Quantale.mul_iSup_distrib]
  refine Triple.exists_pre fun pc => Triple.exists_pre fun pv => Triple.exists_pre fun ps => ?_
  refine (setItem_spec a _ _).step (mul_left_comm _ _ _) fun _ => ?_
  rw [childrenAt, show orNull g (fun a => itemAt CJson.newItem a none none) new *
      (textAt pv item.valuestring * (textAt ps item.string * fact (pc = none))) =
    fact (pc = none) * (orNull g (fun a => itemAt CJson.newItem a none none) new *
      (textAt pv item.valuestring * textAt ps item.string)) by ac_rfl, mul_left_comm]
  refine Triple.fact_pre ?_
  rintro rfl
  cases new with
  | none =>
    rw [orNull, mul_left_comm]
    refine Triple.fact_pre fun hd => Triple.pure (le_trans ?_ (parsedTo_none a prev item (Or.inr hd)))
    refine le_itemAt item a prev none none pv ps (le_of_eq ?_)
    rw [hitem, childrenAt_nil_none, mul_one]
    rfl
  | some new =>
    refine (hp new none).step (F := pointsTo a (.item (cell item prev none (some new) pv ps)) *
      (textAt pv item.valuestring * textAt ps item.string)) (by
        rw [orNull, show cell item prev none (some new) pv ps =
          { cell item prev none none pv ps with child := some new } from rfl]
        ac_rfl) fun res => ?_
    have hchain : ∀ c, itemAt c new none none *
        (pointsTo a (.item (cell item prev none (some new) pv ps)) *
          (textAt pv item.valuestring * textAt ps item.string)) ≤
        building item [c] a prev new := by
      intro c
      refine le_iSup_of_le (some new) (le_iSup_of_le pv (le_iSup_of_le ps ?_))
      rw [chain_singleton]
      simp only [Quantale.mul_iSup_distrib]
      refine le_iSup_of_le new ?_
      rw [fact_of ⟨rfl, rfl⟩, one_mul]
      exact le_of_eq (by ac_rfl)
    cases res with
    | none =>
      simp only [parsedTo, Quantale.iSup_mul_distrib]
      refine Triple.exists_pre fun c => ?_
      rw [mul_assoc]
      refine Triple.fact_pre fun hr => Triple.pure ((hchain c).trans ?_)
      exact (building_le item _ a prev new).trans (parsedTo_none a prev _ (hr.imp_left hnone))
    | some rest =>
      simp only [parsedTo, Quantale.iSup_mul_distrib]
      refine Triple.exists_pre fun c => ?_
      rw [mul_assoc]
      exact Triple.fact_pre fun hr => (hsome c rest hr new).weaken (hchain c) fun _ => le_rfl

end

/-! ### The induction on the fuel -/

/-- The parsing functions do what those of `CJson/Parse.lean` say, at one fuel. -/
structure ParsesAt (g : Grants) (fuel : ℕ) : Prop where
  value : ∀ item a prev value, item.valuestring = none → item.child = [] →
    Returns (CJson.parseValue fuel item value) →
    Triple g (itemAt item a prev none) (parseValue fuel a value)
      (parsedTo g (CJson.parseValue fuel item value) a prev)
  array : ∀ item a prev value, item.child = [] → Returns (CJson.parseArray fuel item value) →
    Triple g (itemAt item a prev none) (parseArray fuel a value)
      (parsedTo g (CJson.parseArray fuel item value) a prev)
  elements : ∀ item children a prev child value,
    Returns (CJson.arrayLoop fuel item children value) →
    Triple g (building item children a prev child) (arrayLoop fuel child value)
      (parsedTo g (CJson.arrayLoop fuel item children value) a prev)
  object : ∀ item a prev value, item.child = [] → Returns (CJson.parseObject fuel item value) →
    Triple g (itemAt item a prev none) (parseObject fuel a value)
      (parsedTo g (CJson.parseObject fuel item value) a prev)
  members : ∀ item children a prev child value,
    Returns (CJson.objectLoop fuel item children value) →
    Triple g (building item children a prev child) (objectLoop fuel child value)
      (parsedTo g (CJson.objectLoop fuel item children value) a prev)
  member : ∀ child prev value, Returns (CJson.parseMember fuel value) →
    Triple g (itemAt CJson.newItem child prev none) (parseMember fuel child value)
      (parsedTo g (CJson.parseMember fuel value) child prev)

/-- Without fuel nothing is read. -/
theorem gives_up {item : CJson} {a : Addr} {prev : Ptr} {P : HProp Block}
    (h : P ≤ itemAt item a prev none) : Triple g P (pure none) (parsedTo g (.ok none) a prev) :=
  Triple.pure (h.trans (parsedTo_none a prev item (Or.inl rfl)))

theorem parsesAt_zero : ParsesAt g 0 where
  value item a prev value _ _ _ := by
    rw [parseValue, CJson.parseValue]
    exact gives_up (le_refl (itemAt item a prev none))
  array item a prev value _ _ := by
    rw [parseArray, CJson.parseArray]
    exact gives_up (le_refl (itemAt item a prev none))
  elements item children a prev child value _ := by
    rw [arrayLoop, CJson.arrayLoop]
    exact gives_up (building_le item children a prev child)
  object item a prev value _ _ := by
    rw [parseObject, CJson.parseObject]
    exact gives_up (le_refl (itemAt item a prev none))
  members item children a prev child value _ := by
    rw [objectLoop, CJson.objectLoop]
    exact gives_up (building_le item children a prev child)
  member child prev value _ := by
    rw [parseMember, CJson.parseMember]
    exact gives_up (le_refl (itemAt CJson.newItem child prev none))

section

variable {fuel : ℕ}

theorem parseValue_step (ih : ParsesAt g fuel) {item : CJson} (a : Addr) (prev : Ptr) {value : Text}
    (hv : item.valuestring = none) (hc : item.child = [])
    (h : Returns (CJson.parseValue (fuel + 1) item value)) :
    Triple g (itemAt item a prev none) (parseValue (fuel + 1) a value)
      (parsedTo g (CJson.parseValue (fuel + 1) item value) a prev) := by
  rw [parseValue]
  rw [CJson.parseValue] at h ⊢
  split_ifs at h ⊢ with h1 h2 h3 h4 h5 h6 h7
  · exact setValue_spec a prev rfl rfl rfl rfl fun _ _ _ => rfl
  · exact setValue_spec a prev rfl rfl rfl rfl fun _ _ _ => rfl
  · exact setValue_spec a prev rfl rfl rfl rfl fun _ _ _ => rfl
  · exact parseString_spec hv a prev h
  · exact parseNumber_spec item a prev value
  · exact ih.array item a prev value hc h
  · exact ih.object item a prev value hc h
  · exact gives_up (le_refl (itemAt item a prev none))

/-- What a call returns whose continuation returns. -/
theorem returns_fst {r : C (Option (CJson × Text))}
    {f : Option (CJson × Text) → C (Option (CJson × Text))} (h : Returns (r >>= f)) : Returns r := by
  obtain ⟨o, ho, -⟩ := returns_bind_iff.1 h
  exact ⟨o, ho⟩

theorem parseArray_step (ih : ParsesAt g fuel) {item : CJson} (a : Addr) (prev : Ptr) {value : Text}
    (hc : item.child = []) (h : Returns (CJson.parseArray (fuel + 1) item value)) :
    Triple g (itemAt item a prev none) (parseArray (fuel + 1) a value)
      (parsedTo g (CJson.parseArray (fuel + 1) item value) a prev) := by
  rw [parseArray]
  rw [CJson.parseArray] at h ⊢
  refine (setType_spec item a prev none .Array).bind fun _ => ?_
  dsimp only
  split_ifs at h ⊢ with h1
  · exact Triple.pure (parsedTo_some rfl)
  · refine firstItem_spec hc
      (fun new prev => ih.value CJson.newItem new prev _ rfl rfl (returns_fst h)) ?_ ?_
    · intro hr
      rw [hr]
      rfl
    · intro c rest hr new
      rw [hr, ok_bind] at h ⊢
      exact ih.elements _ [c] a prev new _ h

theorem arrayLoop_step (ih : ParsesAt g fuel) {item : CJson} {children : List CJson} (a : Addr)
    (prev : Ptr) (child : Addr) {value : Text}
    (h : Returns (CJson.arrayLoop (fuel + 1) item children value)) :
    Triple g (building item children a prev child) (arrayLoop (fuel + 1) child value)
      (parsedTo g (CJson.arrayLoop (fuel + 1) item children value) a prev) := by
  rw [arrayLoop]
  rw [CJson.arrayLoop] at h ⊢
  split_ifs at h ⊢ with h1 h2
  · refine appendItem_spec
      (fun new prev => ih.value CJson.newItem new prev _ rfl rfl (returns_fst h)) ?_ ?_ child
    · intro hr
      rw [hr]
      rfl
    · intro c rest hr new
      rw [hr, ok_bind] at h ⊢
      exact ih.elements item (children ++ [c]) a prev new _ h
  · exact Triple.pure ((building_le item children a prev child).trans (parsedTo_some rfl))
  · exact gives_up (building_le item children a prev child)

theorem parseObject_step (ih : ParsesAt g fuel) {item : CJson} (a : Addr) (prev : Ptr)
    {value : Text} (hc : item.child = []) (h : Returns (CJson.parseObject (fuel + 1) item value)) :
    Triple g (itemAt item a prev none) (parseObject (fuel + 1) a value)
      (parsedTo g (CJson.parseObject (fuel + 1) item value) a prev) := by
  rw [parseObject]
  rw [CJson.parseObject] at h ⊢
  refine (setType_spec item a prev none .Object).bind fun _ => ?_
  dsimp only
  split_ifs at h ⊢ with h1
  · exact Triple.pure (parsedTo_some rfl)
  · refine firstItem_spec hc (fun new prev => ih.member new prev _ (returns_fst h)) ?_ ?_
    · intro hr
      rw [hr]
      rfl
    · intro c rest hr new
      rw [hr, ok_bind] at h ⊢
      exact ih.members _ [c] a prev new _ h

theorem objectLoop_step (ih : ParsesAt g fuel) {item : CJson} {children : List CJson} (a : Addr)
    (prev : Ptr) (child : Addr) {value : Text}
    (h : Returns (CJson.objectLoop (fuel + 1) item children value)) :
    Triple g (building item children a prev child) (objectLoop (fuel + 1) child value)
      (parsedTo g (CJson.objectLoop (fuel + 1) item children value) a prev) := by
  rw [objectLoop]
  rw [CJson.objectLoop] at h ⊢
  split_ifs at h ⊢ with h1 h2
  · refine appendItem_spec (fun new prev => ih.member new prev _ (returns_fst h)) ?_ ?_ child
    · intro hr
      rw [hr]
      rfl
    · intro c rest hr new
      rw [hr, ok_bind] at h ⊢
      exact ih.members item (children ++ [c]) a prev new _ h
  · exact Triple.pure ((building_le item children a prev child).trans (parsedTo_some rfl))
  · exact gives_up (building_le item children a prev child)

/-- `child->string=child->valuestring;child->valuestring=0`. -/
theorem moveName_spec {β : Type} {c : CJson} (hs : c.string = none) (child : Addr) (prev : Ptr)
    {m : HeapM Block β} {Q : β → HProp Block}
    (h : Triple g (itemAt { c with string := c.valuestring, valuestring := none } child prev none) m Q) :
    Triple g (itemAt c child prev none)
      (do
        let item ← getItem child
        setItem child ({ · with string := item.valuestring, valuestring := none })
        m) Q := by
  rw [itemAt_eq, hs]
  refine Triple.exists_pre fun pc => Triple.exists_pre fun pv => Triple.exists_pre fun ps => ?_
  refine (getItem_spec child _).step rfl fun r => ?_
  rw [mul_assoc]
  refine Triple.fact_pre ?_
  rintro rfl
  refine (setItem_spec child _ _).step rfl fun _ => h.weaken ?_ fun _ => le_rfl
  refine le_itemAt _ child prev none pc none pv ?_
  rw [textAt_none, textAt_none, fact_of rfl, one_mul]
  refine mul_le_mul' le_rfl (mul_le_mul' le_rfl ?_)
  exact fact_mul_le.2 fun _ => le_rfl

theorem parseMember_step (ih : ParsesAt g fuel) (child : Addr) (prev : Ptr) {value : Text}
    (h : Returns (CJson.parseMember (fuel + 1) value)) :
    Triple g (itemAt CJson.newItem child prev none) (parseMember (fuel + 1) child value)
      (parsedTo g (CJson.parseMember (fuel + 1) value) child prev) := by
  rw [parseMember]
  rw [CJson.parseMember] at h ⊢
  refine (parseString_spec rfl child prev (returns_fst h)).bind fun res => ?_
  cases res with
  | none =>
    refine Triple.exists_pre fun c => Triple.fact_pre fun hr => ?_
    refine Triple.pure (parsedTo_none child prev c (hr.imp_left fun hr => ?_))
    rw [hr]
    rfl
  | some rest =>
    refine Triple.exists_pre fun c => Triple.fact_pre fun hr => ?_
    obtain ⟨⟨t, -, hc⟩, -⟩ := CJson.parseString_eq_ok hr
    have hname : c.string = none := congrArg CJson.string hc
    have hchild : c.child = [] := congrArg CJson.child hc
    refine moveName_spec hname child prev ?_
    rw [hr, ok_bind] at h ⊢
    simp only at h ⊢
    split_ifs at h ⊢ with h1
    · exact Triple.pure (parsedTo_none child prev _ (Or.inl rfl))
    · exact ih.value _ child prev _ rfl hchild h

end

theorem parsesAt (fuel : ℕ) : ParsesAt g fuel := by
  induction fuel with
  | zero => exact parsesAt_zero
  | succ fuel ih =>
    exact
      { value := fun item a prev value hv hc h => parseValue_step ih a prev hv hc h
        array := fun item a prev value hc h => parseArray_step ih a prev hc h
        elements := fun item children a prev child value h => arrayLoop_step ih a prev child h
        object := fun item a prev value hc h => parseObject_step ih a prev hc h
        members := fun item children a prev child value h => objectLoop_step ih a prev child h
        member := fun child prev value h => parseMember_step ih child prev h }

/-- What `cJSON_Parse` hands out. -/
noncomputable def parsedRoot (g : Grants) (o : Option CJson) : Ptr → HProp Block
  | none => fact (o = none ∨ Denied g)
  | some a => ⨆ c : CJson, fact (o = some c) * itemAt c a none none

/-- **Parsing.**  The tree of `CJson.parse`, or nothing at all. -/
theorem parse_spec {value : Text} {o : Option CJson} (h : CJson.parse value = .ok o) :
    Triple g 1 (parse value) (parsedRoot g o) := by
  obtain ⟨r, hr, hres⟩ := bind_eq_ok.1 h
  refine newItem_spec.bind fun p => ?_
  cases p with
  | none => exact Triple.pure (fact_mono Or.inr)
  | some c =>
    refine ((parsesAt _).value CJson.newItem c none _ rfl rfl ⟨r, hr⟩).bind fun res => ?_
    cases res with
    | none =>
      refine Triple.exists_pre fun t => Triple.fact_pre fun hn => ?_
      refine (delete_item_spec t c none).bind fun _ => Triple.pure ?_
      rw [← fact_of hn]
      refine fact_mono (Or.imp_left fun hnone => ?_)
      rw [hr] at hnone
      cases hnone
      cases hres
      rfl
    | some rest =>
      refine Triple.exists_pre fun t => Triple.fact_pre fun hs => Triple.pure ?_
      rw [hr] at hs
      cases hs
      cases hres
      exact le_iSup_of_le t (le_fact_mul rfl le_rfl)

end

end CJsonHeap

end SingleTerminalLogin
