import SingleTerminalLogin.Lib.CArray

/-!
# Formatted text

What `sprintf` and `vsprintf` write for formats of plain bytes, `%d` and `%s`, and into
which part of an array.

* `pieces` — a format, taken apart;
* `vformat` — the text, with `vformat_length` for its length;
* `sprintf` — the text and its terminating zero, stored from an offset on;
* `sprintfs` — several of them, one behind the other, with `returns_sprintfs_iff` and
  `sprintfs_fits`: when they fit, and what is in the array then.
-/

namespace Printf

open ByteText CProgram

/-- A byte of the text itself, a conversion, or a conversion that is not dealt with here. -/
inductive Piece where
  | lit (c : Byte)
  | d
  | s
  | other

/-- An argument. -/
inductive Arg where
  | int (n : Int)
  | str (t : Text)

/-- What is printed for an argument. -/
def Arg.text : Arg → Text
  | int n => intText (wrap32 n)
  | str t => cstr t

/-- A format, taken apart. -/
def pieces : Text → List Piece
  | [] => []
  | [c] => [if c = 37 then .other else .lit c]
  | c :: k :: fmt =>
    if c = 37 then (if k = 100 then .d else if k = 115 then .s else .other) :: pieces fmt
    else .lit c :: pieces (k :: fmt)

/-- The text of a format, whose arguments are taken from the list. -/
def format : List Piece → List Arg → C Text
  | [], _ => .ok []
  | .lit c :: ps, args => (format ps args).map (c :: ·)
  | .d :: ps, .int n :: args => (format ps args).map ((Arg.int n).text ++ ·)
  | .s :: ps, .str t :: args => (format ps args).map ((Arg.str t).text ++ ·)
  | _, _ => .error .memory

/-- The text `vsprintf` writes. -/
def vformat (fmt : Text) (args : List Arg) : C Text := format (pieces fmt) args

/-- The arguments are those the format asks for. -/
def Takes : List Piece → List Arg → Bool
  | [], [] => true
  | .lit _ :: ps, args => Takes ps args
  | .d :: ps, .int _ :: args => Takes ps args
  | .s :: ps, .str _ :: args => Takes ps args
  | _, _ => false

/-- The bytes of the text itself. -/
def litLength : List Piece → Nat
  | [] => 0
  | .lit _ :: ps => litLength ps + 1
  | _ :: ps => litLength ps

/-- The bytes that are printed for the arguments. -/
def argLength (args : List Arg) : Nat := (args.map fun arg => arg.text.length).sum

section

variable {ps : List Piece} {args : List Arg} {t : Text}

theorem format_lit (c : Byte) (h : format ps args = .ok t) : format (.lit c :: ps) args = .ok (c :: t) := by
  rw [format, h]
  rfl

theorem format_d (n : Int) (h : format ps args = .ok t) :
    format (.d :: ps) (.int n :: args) = .ok ((Arg.int n).text ++ t) := by
  show (format ps args).map _ = _
  rw [h]
  rfl

theorem format_s (s : Text) (h : format ps args = .ok t) :
    format (.s :: ps) (.str s :: args) = .ok ((Arg.str s).text ++ t) := by
  show (format ps args).map _ = _
  rw [h]
  rfl

theorem argLength_cons (arg : Arg) (args : List Arg) :
    argLength (arg :: args) = arg.text.length + argLength args := by
  rw [argLength, List.map_cons, List.sum_cons, argLength]

end

/-- A format with the arguments it asks for is printed, and how long the text is. -/
theorem format_length {ps : List Piece} {args : List Arg} (h : Takes ps args = true) :
    ∃ t, format ps args = .ok t ∧ t.length = litLength ps + argLength args := by
  induction ps, args using Takes.induct with
  | case1 => exact ⟨[], rfl, rfl⟩
  | case2 c ps args ih =>
    obtain ⟨t, ht, hlen⟩ := ih h
    refine ⟨c :: t, format_lit c ht, ?_⟩
    rw [List.length_cons, hlen, litLength]
    omega
  | case3 ps n args ih =>
    obtain ⟨t, ht, hlen⟩ := ih h
    refine ⟨_, format_d n ht, ?_⟩
    rw [List.length_append, hlen, argLength_cons]
    exact Nat.add_left_comm _ _ _
  | case4 ps s args ih =>
    obtain ⟨t, ht, hlen⟩ := ih h
    refine ⟨_, format_s s ht, ?_⟩
    rw [List.length_append, hlen, argLength_cons]
    exact Nat.add_left_comm _ _ _
  | case5 ps args h1 h2 h3 h4 =>
    rw [Takes] at h
    · cases h
    all_goals assumption

theorem vformat_length {fmt : Text} {args : List Arg} (h : Takes (pieces fmt) args = true) :
    ∃ t, vformat fmt args = .ok t ∧ t.length = litLength (pieces fmt) + argLength args :=
  format_length h

section

variable {n : Nat}

/-- `sprintf(a + offset, fmt, ..)`: the array, and the return value. -/
def sprintf (a : CArray Byte n) (offset : Nat) (fmt : Text) (args : List Arg) :
    C (CArray Byte n × Nat) := do
  let t ← vformat fmt args
  let a ← a.copy offset (t ++ [0])
  .ok (a, t.length)

variable {a b : CArray Byte n} {offset k : Nat} {fmt t : Text} {args : List Arg}

theorem sprintf_eq_ok (ht : vformat fmt args = .ok t) :
    sprintf a offset fmt args = .ok (b, k) ↔
      k = t.length ∧ offset + t.length + 1 ≤ n ∧
        b.elems = a.elems.take offset ++ (t ++ 0 :: a.elems.drop (offset + t.length + 1)) := by
  rw [sprintf, ht, ok_bind, bind_eq_ok]
  simp only [CArray.copy_eq_ok, List.length_append, List.length_singleton, Except.ok.injEq, Prod.mk.injEq,
    ← Nat.add_assoc, List.append_assoc, List.singleton_append]
  constructor
  · rintro ⟨b', ⟨hroom, hb'⟩, rfl, rfl⟩
    exact ⟨rfl, hroom, hb'⟩
  · rintro ⟨rfl, hroom, hb⟩
    exact ⟨b, ⟨hroom, hb⟩, rfl, rfl⟩

/-- The texts of `calls`, one behind the other: each is stored over the zero of the one
before, and `offset` is where the next one goes. -/
def sprintfs (a : CArray Byte n) (offset : Nat) : List (Text × List Arg) → C (CArray Byte n × Nat)
  | [] => .ok (a, offset)
  | call :: calls => do
    let r ← sprintf a offset call.1 call.2
    sprintfs r.1 (offset + r.2) calls

variable {calls : List (Text × List Arg)} {texts : List Text}

/-- With room for all texts and one zero, that is what is in the array. -/
theorem sprintfs_fits (h : List.Forall₂ (fun call t => vformat call.1 call.2 = .ok t) calls texts)
    (hroom : offset + texts.flatten.length + 1 ≤ n) :
    ∃ b, sprintfs a offset calls = .ok (b, offset + texts.flatten.length) ∧
      b.elems.take (offset + texts.flatten.length) = a.elems.take offset ++ texts.flatten := by
  induction h generalizing a offset with
  | nil => exact ⟨a, rfl, by simp⟩
  | @cons call t calls texts ht _ ih =>
    rw [List.flatten_cons, List.length_append] at hroom
    obtain ⟨b, hb⟩ : Returns (a.copy offset (t ++ [0])) := by
      refine CArray.returns_copy_iff.2 ?_
      rw [List.length_append, List.length_singleton]
      omega
    have hrun : sprintf a offset call.1 call.2 = .ok (b, t.length) := by
      rw [sprintf, ht, ok_bind, hb, ok_bind]
    have hfront : b.elems.take (offset + t.length) = a.elems.take offset ++ t := by
      obtain ⟨-, -, helems⟩ := (sprintf_eq_ok ht).1 hrun
      have hlen : (a.elems.take offset ++ t).length = offset + t.length := by
        rw [List.length_append, List.length_take, a.length_eq]
        omega
      rw [helems, ← List.append_assoc, ← hlen, List.take_left]
    obtain ⟨b', hb', helems⟩ := @ih b (offset + t.length) (by omega)
    refine ⟨b', ?_, ?_⟩
    · rw [sprintfs, hrun, ok_bind, hb', List.flatten_cons, List.length_append, Nat.add_assoc]
    · rw [List.flatten_cons, List.length_append, ← Nat.add_assoc, helems, hfront, List.append_assoc]

/-- No store was outside, so there was room. -/
theorem room_of_sprintfs (h : List.Forall₂ (fun call t => vformat call.1 call.2 = .ok t) calls texts)
    (hne : calls ≠ []) (hret : Returns (sprintfs a offset calls)) :
    offset + texts.flatten.length + 1 ≤ n := by
  induction h generalizing a offset with
  | nil => exact absurd rfl hne
  | @cons call t calls texts ht h ih =>
    obtain ⟨⟨b, k⟩, hrun, hret⟩ := returns_bind_iff.1 hret
    obtain ⟨rfl, hroom, -⟩ := (sprintf_eq_ok ht).1 hrun
    rw [List.flatten_cons, List.length_append]
    cases h with
    | nil => simpa using hroom
    | cons ht' h =>
      have hlater := ih (List.cons_ne_nil _ _) hret
      omega

/-- All of them fit exactly when there is room for their texts and one zero. -/
theorem returns_sprintfs_iff (h : List.Forall₂ (fun call t => vformat call.1 call.2 = .ok t) calls texts)
    (hne : calls ≠ []) :
    Returns (sprintfs a offset calls) ↔ offset + texts.flatten.length + 1 ≤ n := by
  refine ⟨room_of_sprintfs h hne, fun hroom => ?_⟩
  obtain ⟨b, hb, -⟩ := @sprintfs_fits n a offset calls texts h hroom
  exact ⟨_, hb⟩

end

end Printf
