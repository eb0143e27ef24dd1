import SingleTerminalLogin.Lib.ByteText

/-!
# JSON texts

The grammar of JSON over bytes, as a relation between texts and the values they spell.  What a value
is, is left open: an `Algebra` says what `null`, a number, an array and so on are, and
`Value A t v` says that `t` spells `v` there.  A text has one value at most for each way to read
it, and a value has many texts: white space, escapes and the spelling of numbers are free.

An escape `\u` stands for a character of the basic plane, in UTF-8; surrogate pairs and the character
zero are left out.
-/

namespace JsonText

open ByteText

/-! ## Tokens -/

/-- White space. -/
def Ws (w : Text) : Prop := ∀ c ∈ w, c = 32 ∨ c = 9 ∨ c = 10 ∨ c = 13

/-- One or more digits. -/
def Digits (t : Text) : Prop := t ≠ [] ∧ ∀ c ∈ t, isDigit c = true

/-- The integral part of a number: no digit in front of which a zero could be left out. -/
def IntPart (t : Text) : Prop := Digits t ∧ ∀ cs, t = 48 :: cs → cs = []

/-- The fractional part, which may be missing. -/
def FracPart (t : Text) : Prop := t = [] ∨ ∃ ds, t = 46 :: ds ∧ Digits ds

/-- The exponent, which may be missing. -/
def ExpPart (t : Text) : Prop :=
  t = [] ∨ ∃ e sign ds, t = e :: (sign ++ ds) ∧ (e = 101 ∨ e = 69) ∧
    (sign = [] ∨ sign = [43] ∨ sign = [45]) ∧ Digits ds

/-- A number. -/
def NumberToken (t : Text) : Prop :=
  ∃ sign int frac exp, t = sign ++ int ++ frac ++ exp ∧ (sign = [] ∨ sign = [45]) ∧ IntPart int ∧
    FracPart frac ∧ ExpPart exp

/-- The escapes of one letter, and what they stand for. -/
def escapes : List (Byte × Byte) :=
  [(34, 34), (92, 92), (47, 47), (98, 8), (102, 12), (110, 10), (114, 13), (116, 9)]

/-- A character of the basic plane in UTF-8. -/
def utf8 (u : ℕ) : Text :=
  if u < 0x80 then [UInt8.ofNat u]
  else if u < 0x800 then [UInt8.ofNat (0xC0 + u / 64), UInt8.ofNat (0x80 + u % 64)]
  else [UInt8.ofNat (0xE0 + u / 4096), UInt8.ofNat (0x80 + u / 64 % 64), UInt8.ofNat (0x80 + u % 64)]

/-- The four digits behind `\u`. -/
def HexDigits (ds : Text) (u : ℕ) : Prop :=
  ds.length = 4 ∧ (∀ c ∈ ds, (hexValue c).isSome = true) ∧ u = takeBase 16 0 ds

/-- Between the quotes of a string: the spelling, and the bytes it spells. -/
inductive StringBody : Text → Text → Prop where
  | nil : StringBody [] []
  | plain {body s : Text} (c : Byte) (hc : 31 < c ∧ c ≠ 34 ∧ c ≠ 92) (h : StringBody body s) :
      StringBody (c :: body) (c :: s)
  | escape {body s : Text} (e c : Byte) (he : (e, c) ∈ escapes) (h : StringBody body s) :
      StringBody (92 :: e :: body) (c :: s)
  | unicode {body s : Text} (ds : Text) (u : ℕ) (hds : HexDigits ds u) (h0 : 0 < u)
      (hs : ¬ (0xD800 ≤ u ∧ u < 0xE000)) (h : StringBody body s) :
      StringBody (92 :: 117 :: (ds ++ body)) (utf8 u ++ s)

/-- A string with its quotes. -/
def StringToken (t s : Text) : Prop := ∃ body, t = 34 :: (body ++ [34]) ∧ StringBody body s

/-! ## Values -/

/-- What the values are. -/
structure Algebra (V : Type) where
  null : V
  bool : Bool → V
  number : Text → V
  string : Text → V
  array : List V → V
  object : List (Text × V) → V

/-- A value with the white space around it. -/
structure Element (V : Type) where
  before : Text
  text : Text
  after : Text
  value : V

/-- The text of an element. -/
def Element.spelling {V : Type} (e : Element V) : Text := e.before ++ e.text ++ e.after

/-- A member of an object: a name, a colon and a value, with the white space around the name and
the value. -/
structure Member (V : Type) extends Element V where
  left : Text
  name : Text
  right : Text
  key : Text

/-- The text of a member. -/
def Member.spelling {V : Type} (m : Member V) : Text :=
  m.left ++ m.name ++ m.right ++ 58 :: m.toElement.spelling

variable {V : Type}

/-- The texts of a value. -/
inductive Value (A : Algebra V) : Text → V → Prop where
  | null : Value A (ascii "null") A.null
  | true : Value A (ascii "true") (A.bool true)
  | false : Value A (ascii "false") (A.bool false)
  | number {t : Text} (h : NumberToken t) : Value A t (A.number t)
  | string {t s : Text} (h : StringToken t s) : Value A t (A.string s)
  | emptyArray {w : Text} (h : Ws w) : Value A (91 :: (w ++ [93])) (A.array [])
  | array (es : List (Element V)) (hne : es ≠ []) (hw : ∀ e ∈ es, Ws e.before ∧ Ws e.after)
      (hv : ∀ e ∈ es, Value A e.text e.value) :
      Value A (91 :: ([44].intercalate (es.map Element.spelling) ++ [93]))
        (A.array (es.map (·.value)))
  | emptyObject {w : Text} (h : Ws w) : Value A (123 :: (w ++ [125])) (A.object [])
  | object (ms : List (Member V)) (hne : ms ≠ [])
      (hw : ∀ m ∈ ms, Ws m.before ∧ Ws m.after ∧ Ws m.left ∧ Ws m.right)
      (hn : ∀ m ∈ ms, StringToken m.name m.key) (hv : ∀ m ∈ ms, Value A m.text m.value) :
      Value A (123 :: ([44].intercalate (ms.map Member.spelling) ++ [125]))
        (A.object (ms.map fun m => (m.key, m.value)))

/-- A text of a value, with white space around it. -/
def Document (A : Algebra V) (t : Text) (v : V) : Prop :=
  ∃ before text after, t = before ++ text ++ after ∧ Ws before ∧ Ws after ∧ Value A text v

/-! ## White space -/

theorem ws_nil : Ws [] := fun _ h => by cases h

theorem Ws.append {v w : Text} (hv : Ws v) (hw : Ws w) : Ws (v ++ w) := by
  intro c hc
  rcases List.mem_append.1 hc with h | h
  · exact hv c h
  · exact hw c h

theorem Ws.tail {c : Byte} {w : Text} (h : Ws (c :: w)) : Ws w := fun d hd => h d (by simp [hd])

/-! ## Numbers -/

theorem Digits.noNul {t : Text} (h : Digits t) : NoNul t := by
  rintro c hc rfl
  exact absurd (h.2 0 hc) (by decide)

/-- A number is written without a zero byte. -/
theorem NumberToken.noNul {t : Text} (h : NumberToken t) : NoNul t := by
  obtain ⟨sign, int, frac, exp, rfl, hs, hi, hf, he⟩ := h
  refine noNul_append (noNul_append (noNul_append ?_ hi.1.noNul) ?_) ?_
  · rcases hs with rfl | rfl <;> exact noNul_of_notMem (by decide)
  · rcases hf with rfl | ⟨ds, rfl, hd⟩
    · exact noNul_of_notMem (by decide)
    · exact noNul_append (s := [46]) (noNul_of_notMem (by decide)) hd.noNul
  · rcases he with rfl | ⟨e, sg, ds, rfl, he, hsg, hd⟩
    · exact noNul_of_notMem (by decide)
    · refine noNul_append (s := [e]) ?_ (noNul_append ?_ hd.noNul)
      · rcases he with rfl | rfl <;> exact noNul_of_notMem (by decide)
      · rcases hsg with rfl | rfl | rfl <;> exact noNul_of_notMem (by decide)

/-! ## Strings -/

theorem hexValue_lt {c : Byte} {d : ℕ} (h : hexValue c = some d) : d < 16 := by
  have hb : ∀ a b : Byte, (decide (a ≤ c) && decide (c ≤ b)) = Bool.true →
      a.toNat ≤ c.toNat ∧ c.toNat ≤ b.toNat := by
    intro a b hab
    simpa [UInt8.le_iff_toNat_le] using hab
  unfold hexValue at h
  split at h
  · rename_i hd
    have := isDigit_bounds hd
    cases h
    omega
  split at h
  · rename_i hd
    have h1 := hb 97 102 hd
    simp only [UInt8.reduceToNat] at h1
    cases h
    omega
  split at h
  · rename_i hd
    have h1 := hb 65 70 hd
    simp only [UInt8.reduceToNat] at h1
    cases h
    omega
  · cases h

theorem takeBase_lt (ds : Text) (n : ℕ) :
    takeBase 16 n ds + 1 ≤ (n + 1) * 16 ^ ds.length := by
  induction ds generalizing n with
  | nil => simp [takeBase]
  | cons c cs ih =>
    have hn : n + 1 ≤ (n + 1) * 16 ^ (c :: cs).length :=
      Nat.le_mul_of_pos_right _ (by positivity)
    rw [takeBase]
    cases hc : hexValue c with
    | none => exact hn
    | some d =>
      have hd := hexValue_lt hc
      simp only [hd, if_true]
      refine (ih _).trans ?_
      rw [List.length_cons, pow_succ, ← mul_assoc, mul_right_comm]
      exact Nat.mul_le_mul_right _ (by omega)

/-- Four digits are a character of the basic plane. -/
theorem HexDigits.lt {ds : Text} {u : ℕ} (h : HexDigits ds u) : u < 0x10000 := by
  obtain ⟨hlen, -, rfl⟩ := h
  have := takeBase_lt ds 0
  rw [hlen] at this
  omega

theorem ofNat_ne_zero {n : ℕ} (h0 : 0 < n) (h : n < 256) : UInt8.ofNat n ≠ 0 := by
  intro hz
  have := congrArg UInt8.toNat hz
  rw [UInt8.toNat_ofNat_of_lt' h] at this
  simp at this
  omega

theorem utf8_noNul {u : ℕ} (h0 : 0 < u) (h : u < 0x10000) : NoNul (utf8 u) := by
  unfold utf8
  split
  · intro c hc
    rw [List.mem_singleton.1 hc]
    exact ofNat_ne_zero h0 (by omega)
  split
  · intro c hc
    simp only [List.mem_cons, List.not_mem_nil, or_false] at hc
    rcases hc with rfl | rfl <;> exact ofNat_ne_zero (by omega) (by omega)
  · intro c hc
    simp only [List.mem_cons, List.not_mem_nil, or_false] at hc
    rcases hc with rfl | rfl | rfl <;> exact ofNat_ne_zero (by omega) (by omega)

/-- What a string spells has no zero in it. -/
theorem StringBody.noNul {body s : Text} (h : StringBody body s) : NoNul s := by
  induction h with
  | nil => intro c hc; cases hc
  | plain c hc h ih =>
    intro d hd
    rcases List.mem_cons.1 hd with rfl | hd
    · rintro rfl
      exact absurd hc.1 (by decide)
    · exact ih d hd
  | escape e c he h ih =>
    intro d hd
    rcases List.mem_cons.1 hd with rfl | hd
    · rintro rfl
      simp [escapes] at he
    · exact ih d hd
  | unicode ds u hds h0 hs h ih => exact noNul_append (utf8_noNul h0 hds.lt) ih

end JsonText
