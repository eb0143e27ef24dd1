import SingleTerminalLogin.CJson.Print

/-!
# Strings that are printed and parsed again

`parseString_print`: a string without a zero byte survives unchanged, whatever
quotes, backslashes and control bytes it holds, and the copy `parse_string`
makes fits the buffer it measured.
-/

namespace SingleTerminalLogin

open ByteText Binary64 CProgram

namespace CJson

@[simp] theorem emit_ok (out : Text) (p : Text × Text) :
    emit out (.ok p) = .ok (out ++ p.1, p.2) := rfl

theorem unescape_stop (uc : Option Nat) (cs : Text) :
    unescape uc (34 :: cs) = .ok ([], 34 :: cs) := by
  rw [unescape.eq_def]
  simp

theorem unescape_plain {c : Byte} (h34 : c ≠ 34) (h0 : c ≠ 0) (h92 : c ≠ 92) (uc : Option Nat)
    (cs : Text) : unescape uc (c :: cs) = emit [c] (unescape uc cs) := by
  rw [unescape.eq_def]
  simp [h34, h0, h92]

theorem stringLength_plain {c : Byte} (h34 : c ≠ 34) (h0 : c ≠ 0) (h92 : c ≠ 92) (cs : Text) :
    stringLength (c :: cs) = stringLength cs + 1 := by
  rw [stringLength.eq_def]
  simp [h34, h0, h92]

/-- The window of an escape that was printed as `\u00xy`. -/
theorem scanHex4_window (c d : Byte) (t : Text) :
    scanHex4 (48 :: 48 :: c :: d :: t) = scanHex4 [48, 48, c, d] := by
  have h : isSpace 48 = false := by decide
  simp [scanHex4, h]

theorem controlByte_table : ∀ n < 32, scanHex4 [48, 48, hexDigit (n / 16), hexDigit (n % 16)] = some n ∧
    (hexDigit (n / 16) ≠ 34 ∧ hexDigit (n / 16) ≠ 0 ∧ hexDigit (n / 16) ≠ 92) ∧
    (hexDigit (n % 16) ≠ 34 ∧ hexDigit (n % 16) ≠ 0 ∧ hexDigit (n % 16) ≠ 92) ∧
    transcode n = ([UInt8.ofNat n], n) := by
  decide

/-- Reading back one printed byte. -/
theorem unescape_escapeByte {c : Byte} (h0 : c ≠ 0) (uc : Option Nat) (t : Text) :
    ∃ uc', unescape uc (escapeByte c ++ t) = emit [c] (unescape uc' t) := by
  unfold escapeByte
  split
  · rename_i h
    exact ⟨uc, unescape_plain h.2.1 h0 h.2.2 uc t⟩
  rename_i hplain
  by_cases h92 : c = 92
  · subst h92; exact ⟨uc, by simp [unescape, unescapeByte]⟩
  by_cases h34 : c = 34
  · subst h34; exact ⟨uc, by simp [unescape, unescapeByte]⟩
  by_cases h8 : c = 8
  · subst h8; exact ⟨uc, by simp [unescape, unescapeByte]⟩
  by_cases h12 : c = 12
  · subst h12; exact ⟨uc, by simp [unescape, unescapeByte]⟩
  by_cases h10 : c = 10
  · subst h10; exact ⟨uc, by simp [unescape, unescapeByte]⟩
  by_cases h13 : c = 13
  · subst h13; exact ⟨uc, by simp [unescape, unescapeByte]⟩
  by_cases h9 : c = 9
  · subst h9; exact ⟨uc, by simp [unescape, unescapeByte]⟩
  -- what is left are the control bytes, printed as `\u00xy`
  have hlow : c.toNat < 32 := by
    by_contra hge
    refine hplain ⟨?_, h34, h92⟩
    rw [UInt8.lt_iff_toNat_lt]
    simp
    omega
  obtain ⟨hscan, -, -, htr⟩ := controlByte_table c.toNat hlow
  refine ⟨some c.toNat, ?_⟩
  simp only [h92, h34, h8, h12, h10, h13, h9, if_false, List.cons_append, List.nil_append]
  rw [unescape]
  simp [scanHex4_window, hscan, htr]

theorem stringLength_escapeByte {c : Byte} (h0 : c ≠ 0) (t : Text) :
    stringLength t + 1 ≤ stringLength (escapeByte c ++ t) := by
  unfold escapeByte
  split
  · rename_i h
    exact (stringLength_plain h.2.1 h0 h.2.2 t).ge
  rename_i hplain
  by_cases h92 : c = 92
  · subst h92; simp [stringLength]
  by_cases h34 : c = 34
  · subst h34; simp [stringLength]
  by_cases h8 : c = 8
  · subst h8; simp [stringLength]
  by_cases h12 : c = 12
  · subst h12; simp [stringLength]
  by_cases h10 : c = 10
  · subst h10; simp [stringLength]
  by_cases h13 : c = 13
  · subst h13; simp [stringLength]
  by_cases h9 : c = 9
  · subst h9; simp [stringLength]
  have hlow : c.toNat < 32 := by
    by_contra hge
    refine hplain ⟨?_, h34, h92⟩
    rw [UInt8.lt_iff_toNat_lt]
    simp
    omega
  obtain ⟨-, ⟨a1, a2, a3⟩, ⟨b1, b2, b3⟩, -⟩ := controlByte_table c.toNat hlow
  simp only [h92, h34, h8, h12, h10, h13, h9, if_false, List.cons_append, List.nil_append]
  rw [stringLength]
  simp [stringLength_plain, a1, a2, a3, b1, b2, b3]

theorem unescape_escape {s : Text} (h : NoNul s) (rest : Text) :
    ∀ uc, unescape uc (escape s ++ 34 :: rest) = .ok (s, 34 :: rest) := by
  induction s with
  | nil => intro uc; exact unescape_stop uc rest
  | cons c cs ih =>
    intro uc
    have hcs : NoNul cs := fun d hd => h d (by simp [hd])
    obtain ⟨uc', hu⟩ := unescape_escapeByte (h c (by simp)) uc (escape cs ++ 34 :: rest)
    rw [escape, List.flatMap_cons, List.append_assoc, ← escape, hu, ih hcs uc', emit_ok]
    rfl

theorem stringLength_escape {s : Text} (h : NoNul s) (rest : Text) :
    s.length ≤ stringLength (escape s ++ 34 :: rest) := by
  induction s with
  | nil => simp
  | cons c cs ih =>
    have hcs : NoNul cs := fun d hd => h d (by simp [hd])
    have hstep := stringLength_escapeByte (h c (by simp)) (escape cs ++ 34 :: rest)
    have hrest := ih hcs
    rw [escape, List.flatMap_cons, List.append_assoc, ← escape, List.length_cons]
    omega

/-- **Strings survive every hop**: what `print_string_ptr` writes, `parse_string`
reads back, and leaves what follows. -/
theorem parseString_print {s : Text} (h : NoNul s) (item : CJson) (rest : Text) :
    parseString item (printStringPtr (some s) ++ rest) =
      .ok (some ({ item with valuestring := some s, type := .String }, rest)) := by
  have hlen := stringLength_escape h rest
  have htext : printStringPtr (some s) ++ rest = 34 :: (escape s ++ 34 :: rest) := by
    simp [printStringPtr]
  rw [htext, parseString, at0_cons, if_neg (by decide), List.tail_cons,
    unescape_escape h rest none, ok_bind, if_neg (by simpa using hlen)]
  simp [cstr_eq_self h]

end CJson

end SingleTerminalLogin
