import SingleTerminalLogin.Lib.ByteText

/-!
# String literals in SQL texts

How a MySQL server tells values from code: a literal starts and ends at a single
quote, two quotes inside one stand for a quote, and a backslash escapes the byte
behind it.  What is not in a literal falls into words and single characters.

* `tokens` — a text, taken apart by these rules;
* `Plain` — the values that may stand between two quotes as they are;
* `lex_literal_plain` — such a value between quotes is one literal with that value;
* `lex_literal_not_plain` — every other value at the end of a text is not.
-/

namespace SqlLex

open ByteText

/-- A token of a text. -/
inductive Token where
  /-- A run of letters, digits, underscores and points. -/
  | word (t : Text)
  /-- Any other byte outside of literals that is not a space. -/
  | symbol (b : Byte)
  /-- A literal, with its value. -/
  | literal (t : Text)
  /-- A literal the text ends in. -/
  | unterminated (t : Text)
  deriving DecidableEq, Repr

/-- Where in the text the reader is: behind the bytes of a word, or inside of a
literal with the value so far. -/
inductive Mode where
  | code (w : Text)
  | literal (t : Text)

/-- A byte of a word. -/
def isWord (b : Byte) : Bool :=
  isDigit b || (65 ≤ b && b ≤ 90) || (97 ≤ b && b ≤ 122) || b = 95 || b = 46

/-- The word that has been read, if it is not empty. -/
def flush : Text → List Token
  | [] => []
  | w => [.word w]

/-- What a backslash and the byte behind it stand for.  The wildcards of `like`
keep their backslash. -/
def unescape (b : Byte) : Text :=
  if b = 48 then [0]
  else if b = 98 then [8]
  else if b = 110 then [10]
  else if b = 114 then [13]
  else if b = 116 then [9]
  else if b = 90 then [26]
  else if b = 37 ∨ b = 95 then [92, b]
  else [b]

/-- The reader. -/
def lex : Mode → Text → List Token
  | .code w, [] => flush w
  | .code w, b :: bs =>
    if isWord b then lex (.code (w ++ [b])) bs
    else if b = 39 then flush w ++ lex (.literal []) bs
    else if isSpace b then flush w ++ lex (.code []) bs
    else flush w ++ .symbol b :: lex (.code []) bs
  | .literal t, [] => [.unterminated t]
  | .literal t, b :: bs =>
    match bs with
    | [] => if b = 39 then [.literal t] else [.unterminated t]
    | c :: cs =>
      if b = 39 then
        if c = 39 then lex (.literal (t ++ [39])) cs else .literal t :: lex (.code []) (c :: cs)
      else if b = 92 then lex (.literal (t ++ unescape c)) cs
      else lex (.literal (t ++ [b])) (c :: cs)

/-- The tokens of a text. -/
def tokens (t : Text) : List Token := lex (.code []) t

/-- A value without quotes whose backslashes all belong to `\\%` or `\\_`. -/
def plain : Text → Bool
  | [] => true
  | b :: bs =>
    if b = 39 then false
    else if b = 92 then
      match bs with
      | [] => false
      | c :: cs => (c = 37 || c = 95) && plain cs
    else plain bs

/-- The values that may stand between quotes as they are. -/
def Plain (t : Text) : Prop := plain t = true

instance : DecidablePred Plain := fun t => inferInstanceAs (Decidable (plain t = true))

/-! ## Code -/

theorem lex_code_append (w : Text) {a : Text} (ha : 39 ∉ a) (rest : Text) :
    lex (.code w) (a ++ 39 :: rest) = lex (.code w) a ++ lex (.literal []) rest := by
  induction a generalizing w with
  | nil => rfl
  | cons b bs ih =>
    have hb : b ≠ 39 := fun hb => ha (hb ▸ List.mem_cons_self)
    have hbs : 39 ∉ bs := fun hbs => ha (List.mem_cons_of_mem b hbs)
    rw [List.cons_append, lex, lex]
    by_cases h1 : isWord b
    · rw [if_pos h1, if_pos h1]
      exact ih _ hbs
    rw [if_neg h1, if_neg h1, if_neg hb, if_neg hb]
    by_cases h2 : isSpace b
    · rw [if_pos h2, if_pos h2, ih _ hbs, List.append_assoc]
    · rw [if_neg h2, if_neg h2, ih _ hbs, List.append_assoc, List.cons_append]

/-! ## Literals -/

theorem lex_literal_quote {t : Text} {rest : Text} (h : rest.head? ≠ some 39) :
    lex (.literal t) (39 :: rest) = .literal t :: lex (.code []) rest := by
  cases rest with
  | nil => rfl
  | cons c cs =>
    have hc : c ≠ 39 := fun hc => h (by rw [hc]; rfl)
    rw [lex.eq_def (.literal t)]
    simp only [if_true, if_neg hc]

theorem lex_literal_cons {t : Text} {b : Byte} (h1 : b ≠ 39) (h2 : b ≠ 92) {bs : Text}
    (hbs : bs ≠ []) : lex (.literal t) (b :: bs) = lex (.literal (t ++ [b])) bs := by
  cases bs with
  | nil => exact absurd rfl hbs
  | cons c cs =>
    rw [lex.eq_def (.literal t)]
    simp only [if_neg h1, if_neg h2]

theorem lex_literal_escape {t : Text} {c : Byte} {cs : Text} :
    lex (.literal t) (92 :: c :: cs) = lex (.literal (t ++ unescape c)) cs := by
  rw [lex.eq_def (.literal t)]
  rfl

theorem plain_quote (bs : Text) : plain (39 :: bs) = false := by
  rw [plain.eq_def]
  rfl

theorem plain_escape (c : Byte) (cs : Text) :
    plain (92 :: c :: cs) = ((c = 37 || c = 95) && plain cs) := by
  rw [plain.eq_def]
  rfl

theorem plain_cons {b : Byte} (h1 : b ≠ 39) (h2 : b ≠ 92) (bs : Text) :
    plain (b :: bs) = plain bs := by
  rw [plain.eq_def]
  simp only [if_neg h1, if_neg h2]

/-- A plain value and a quote: one literal, with that value. -/
theorem lex_literal_plain {u : Text} (hu : Plain u) (t : Text) {rest : Text}
    (h : rest.head? ≠ some 39) :
    lex (.literal t) (u ++ 39 :: rest) = .literal (t ++ u) :: lex (.code []) rest := by
  unfold Plain at hu
  induction u using plain.induct generalizing t with
  | case1 =>
    rw [List.nil_append, List.append_nil]
    exact lex_literal_quote h
  | case2 bs =>
    rw [plain_quote] at hu
    cases hu
  | case3 => cases hu
  | case4 c cs hne ih =>
    rw [plain_escape, Bool.and_eq_true, Bool.or_eq_true, decide_eq_true_eq, decide_eq_true_eq] at hu
    have hc : unescape c = [92, c] := by rcases hu.1 with rfl | rfl <;> rfl
    rw [List.cons_append, List.cons_append, lex_literal_escape, ih hu.2, hc, List.append_assoc]
    rfl
  | case5 b bs h39 h92 ih =>
    rw [plain_cons h39 h92] at hu
    rw [List.cons_append, lex_literal_cons h39 h92 (by simp), ih hu, List.append_assoc]
    rfl

theorem unescape_length (c : Byte) :
    (unescape c).length ≤ 2 ∧ ((unescape c).length = 2 → c = 37 ∨ c = 95) := by
  by_cases h : c = 37 ∨ c = 95
  · rcases h with rfl | rfl <;> decide
  · have hone : (unescape c).length = 1 := by
      unfold unescape
      simp only [if_neg h]
      split_ifs <;> rfl
    rw [hone]
    exact ⟨by decide, fun h => absurd h (by decide)⟩

/-- What a value and a quote at the end of a text come to, behind the value `t` of
the literal so far: a literal that is no longer than the value, and as long only if
the value is plain; or a literal the text ends in. -/
def EndsAs (t u : Text) (r : List Token) : Prop :=
  (∃ l ts, r = .literal (t ++ l) :: ts ∧ l.length ≤ u.length ∧ (l.length = u.length → Plain u)) ∨
    ∃ x, r = [.unterminated x]

/-- One more byte, or pair of bytes, in front of the value. -/
theorem EndsAs.cons {t u v x : Text} {r : List Token} (h : EndsAs (t ++ x) v r)
    (hlen : x.length + v.length ≤ u.length)
    (hplain : x.length + v.length = u.length → Plain v → Plain u) : EndsAs t u r := by
  rcases h with ⟨l, ts, rfl, hl, heq⟩ | h
  · refine Or.inl ⟨x ++ l, ts, by rw [List.append_assoc], ?_, ?_⟩
    · rw [List.length_append]
      exact le_trans (Nat.add_le_add_left hl _) hlen
    · intro hfull
      rw [List.length_append] at hfull
      exact hplain (by omega) (heq (by omega))
  · exact Or.inr h

/-- A value at the end of a text. -/
theorem lex_literal_end (u : Text) : ∀ t, EndsAs t u (lex (.literal t) (u ++ [39])) := by
  induction h : u.length using Nat.strong_induction_on generalizing u with
  | _ n ih =>
    intro t
    subst h
    cases u with
    | nil => exact Or.inl ⟨[], [], by rw [List.append_nil]; rfl, le_rfl, fun _ => rfl⟩
    | cons b bs =>
      by_cases h39 : b = 39
      · subst h39
        cases bs with
        | nil => exact Or.inr ⟨_, rfl⟩
        | cons c cs =>
          by_cases hc : c = 39
          · -- a doubled quote is one byte of the value
            subst hc
            have hstep := ih cs.length (by simp only [List.length_cons]; omega) cs rfl (t ++ [39])
            refine EndsAs.cons hstep ?_ ?_
            · simp only [List.length_cons, List.length_nil]
              omega
            · intro hfull
              simp only [List.length_cons, List.length_nil] at hfull
              omega
          · -- a single quote ends the literal early
            rw [List.cons_append, lex_literal_quote (by simpa using hc)]
            refine Or.inl ⟨[], _, by rw [List.append_nil], Nat.zero_le _, ?_⟩
            intro hfull
            cases hfull
      by_cases h92 : b = 92
      · subst h92
        cases bs with
        | nil => exact Or.inr ⟨_, rfl⟩
        | cons c cs =>
          have hstep := ih cs.length (by simp only [List.length_cons]; omega) cs rfl (t ++ unescape c)
          obtain ⟨hle, htwo⟩ := unescape_length c
          rw [List.cons_append, List.cons_append, lex_literal_escape]
          refine EndsAs.cons hstep ?_ ?_
          · simp only [List.length_cons]
            omega
          · intro hfull hcs
            simp only [List.length_cons] at hfull
            have hc := htwo (by omega)
            rw [Plain, plain_escape, hcs]
            simpa using hc
      · rw [List.cons_append, lex_literal_cons h39 h92 (by simp)]
        have hstep := ih bs.length (Nat.lt_succ_self _) bs rfl (t ++ [b])
        refine EndsAs.cons hstep ?_ ?_
        · simp only [List.length_cons, List.length_nil]
          omega
        · intro _ hbs
          rw [Plain, plain_cons h39 h92]
          exact hbs

/-- A value that is not plain is not read back, at the end of a text. -/
theorem lex_literal_not_plain {u : Text} (hu : ¬ Plain u) (ts : List Token) :
    lex (.literal []) (u ++ [39]) ≠ .literal u :: ts := by
  intro h
  rcases lex_literal_end u [] with ⟨l, ts', hr, -, hfull⟩ | ⟨x, hr⟩
  · rw [h] at hr
    simp only [List.nil_append, List.cons.injEq, Token.literal.injEq] at hr
    exact hu (hfull (by rw [hr.1]))
  · rw [h] at hr
    cases hr

end SqlLex
