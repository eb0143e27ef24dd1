import SingleTerminalLogin.Client.CommandLine
import SingleTerminalLogin.Lib.Loop
import SingleTerminalLogin.Lib.Occurs

/-!
# Splitting a string

`str2vec` of `client/main/main.cpp` for a separator of any length.  The command loop calls it with
one blank, where it is the `str2vec` of the command line.

* `Client.str2vec` — the function, with its loop pass by pass;
* `Consumed` — what is in `vec` between two passes;
* `split_lossless` — the loop ends, and the pieces joined are the string again;
* `str2vec_unended` — with an empty separator it does not end;
* `str2vec_blank` — with a separator of one byte it is the function of the command line.
-/

namespace SingleTerminalLogin

open ByteText Occurs

namespace Client

/-! ## The function -/

/-- What `std::string` throws. -/
inductive Thrown where
  | out_of_range
  deriving DecidableEq, Repr

/-- `src.find(seg, pos)`. -/
def find (src seg : Text) (pos : Nat) : Option Nat :=
  if pos ≤ src.length then (firstAt? seg (src.drop pos)).map (pos + ·) else none

/-- `src.substr(pos, n)`, up to the end of `src` where `n` is left out. -/
def substr (src : Text) (pos : Nat) (n : Option Nat) : Except Thrown Text :=
  if pos ≤ src.length then .ok ((src.drop pos).take (n.getD src.length)) else .error .out_of_range

/-- The variables of the loop that a pass takes over from the one before. -/
structure Split where
  pos_start : Nat
  vec : List Text

/-- One pass of `do { … } while(pos_end != std::string::npos)`. -/
def pass (src seg : Text) : Loop Thrown Split (List Text) := fun s =>
  match find src seg s.pos_start with
  | none => do
    let str_tmp ← substr src s.pos_start none
    pure (.inr (s.vec ++ [str_tmp]))
  | some pos_end => do
    let str_tmp ← substr src s.pos_start (some (pos_end - s.pos_start))
    pure (.inl ⟨pos_end + seg.length, s.vec ++ [str_tmp]⟩)

/-- `str2vec(src, vec, seg)`, as far as so many passes lead. -/
def str2vec (src : Text) (vec : List Text) (seg : Text) (passes : Nat) : Option (Except Thrown (List Text)) :=
  if src = [] then some (.ok vec) else (pass src seg).run passes ⟨0, vec⟩

/-! ## One pass -/

section

variable {src seg : Text} {vec : List Text} {s : Split}

/-- The separator is found: the bytes up to it are a piece. -/
theorem pass_found {pos_end : Nat} (hpos : s.pos_start ≤ src.length)
    (h : firstAt? seg (src.drop s.pos_start) = some pos_end) :
    pass src seg s =
      .ok (.inl ⟨s.pos_start + pos_end + seg.length, s.vec ++ [(src.drop s.pos_start).take pos_end]⟩) := by
  have hfind : find src seg s.pos_start = some (s.pos_start + pos_end) := by
    rw [find, if_pos hpos, h]
    rfl
  have hsubstr : substr src s.pos_start (some (s.pos_start + pos_end - s.pos_start)) =
      .ok ((src.drop s.pos_start).take pos_end) := by
    rw [substr, if_pos hpos, Nat.add_sub_cancel_left]
    rfl
  rw [pass, hfind]
  dsimp only
  rw [hsubstr]
  rfl

/-- The separator is not found: the bytes that are left are a piece. -/
theorem pass_last (hpos : s.pos_start ≤ src.length) (h : firstAt? seg (src.drop s.pos_start) = none) :
    pass src seg s = .ok (.inr (s.vec ++ [src.drop s.pos_start])) := by
  have hfind : find src seg s.pos_start = none := by
    rw [find, if_pos hpos, h]
    rfl
  have hsubstr : substr src s.pos_start none = .ok (src.drop s.pos_start) := by
    rw [substr, if_pos hpos, Option.getD_none, List.take_of_length_le]
    rw [List.length_drop]
    exact Nat.sub_le src.length s.pos_start
  rw [pass, hfind]
  dsimp only
  rw [hsubstr]
  rfl

/-! ## The loop -/

/-- Between two passes: the pieces so far, with a separator behind each, are what the loop has
consumed. -/
structure Consumed (src seg : Text) (vec : List Text) (s : Split) : Prop where
  inside : s.pos_start ≤ src.length
  pieces : ∃ pieces, s.vec = vec ++ pieces ∧ pieces.flatMap (· ++ seg) = src.take s.pos_start ∧
    ∀ piece ∈ pieces, ¬ seg <:+: piece

/-- What the loop is left with. -/
def Rebuilt (src seg : Text) (vec r : List Text) : Prop :=
  ∃ pieces, r = vec ++ pieces ∧ seg.intercalate pieces = src ∧ ∀ piece ∈ pieces, ¬ seg <:+: piece

theorem consumed_start (src seg : Text) (vec : List Text) : Consumed src seg vec ⟨0, vec⟩ :=
  ⟨Nat.zero_le _, [], (List.append_nil vec).symm, rfl, nofun⟩

/-- A piece and the separator behind it are consumed. -/
theorem Consumed.found (h : Consumed src seg vec s) {before after : Text}
    (hsplit : src.drop s.pos_start = before ++ (seg ++ after)) (hbefore : ¬ seg <:+: before) :
    Consumed src seg vec ⟨s.pos_start + before.length + seg.length, s.vec ++ [before]⟩ := by
  obtain ⟨pieces, hvec, hjoined, hpieces⟩ := h.pieces
  have hlen : src.length - s.pos_start = before.length + (seg.length + after.length) := by
    rw [← List.length_drop, hsplit, List.length_append, List.length_append]
  have htake : (src.drop s.pos_start).take (before.length + seg.length) = before ++ seg := by
    rw [hsplit, ← List.append_assoc, ← List.length_append, List.take_left]
  refine ⟨?_, pieces ++ [before], ?_, ?_, ?_⟩
  · have := h.inside
    dsimp only
    omega
  · rw [hvec, List.append_assoc]
  · rw [List.flatMap_append, hjoined, List.flatMap_singleton, Nat.add_assoc, List.take_add, htake]
  · intro piece hpiece
    rcases List.mem_append.1 hpiece with hold | hnew
    · exact hpieces piece hold
    · rw [List.mem_singleton.1 hnew]
      exact hbefore

/-- The rest is the last piece. -/
theorem Consumed.last (h : Consumed src seg vec s) (hrest : ¬ seg <:+: src.drop s.pos_start) :
    Rebuilt src seg vec (s.vec ++ [src.drop s.pos_start]) := by
  obtain ⟨pieces, hvec, hjoined, hpieces⟩ := h.pieces
  refine ⟨pieces ++ [src.drop s.pos_start], ?_, ?_, ?_⟩
  · rw [hvec, List.append_assoc]
  · rw [← flatMap_append_eq_intercalate, hjoined, List.take_append_drop]
  · intro piece hpiece
    rcases List.mem_append.1 hpiece with hold | hnew
    · exact hpieces piece hold
    · rw [List.mem_singleton.1 hnew]
      exact hrest

/-- Each pass consumes the separator at least. -/
theorem pass_consumed (hseg : seg ≠ []) (h : Consumed src seg vec s) :
    (∃ s', pass src seg s = .ok (.inl s') ∧ Consumed src seg vec s' ∧
        src.length - s'.pos_start < src.length - s.pos_start) ∨
      ∃ r, pass src seg s = .ok (.inr r) ∧ Rebuilt src seg vec r := by
  cases hfirst : firstAt? seg (src.drop s.pos_start) with
  | none => exact Or.inr ⟨_, pass_last h.inside hfirst, h.last (firstAt?_eq_none hfirst)⟩
  | some pos_end =>
    obtain ⟨before, after, hsplit, rfl, hbefore⟩ := firstAt?_eq_some hseg hfirst
    have hnext := h.found hsplit hbefore
    have hpass := pass_found h.inside hfirst
    rw [hsplit, List.take_left] at hpass
    refine Or.inl ⟨_, hpass, hnext, ?_⟩
    have hinside := hnext.inside
    have hpositive : 0 < seg.length := List.length_pos_of_ne_nil hseg
    dsimp only at hinside ⊢
    omega

/-- A string that is not empty is split in one pass more than it has bytes at most. -/
theorem str2vec_rebuilt (hseg : seg ≠ []) (hsrc : src ≠ []) :
    ∃ r, Rebuilt src seg vec r ∧ ∀ passes, src.length < passes → str2vec src vec seg passes = some (.ok r) := by
  obtain ⟨r, hrun, hr⟩ := Loop.returns_of_variant (fun s : Split => src.length - s.pos_start)
    (fun s hs => pass_consumed hseg hs) (consumed_start src seg vec)
  refine ⟨r, hr, fun passes hpasses => ?_⟩
  rw [str2vec, if_neg hsrc]
  exact Loop.run_mono hrun hpasses

end

/-- **Splitting loses nothing.**  The loop ends without an exception and appends pieces to `vec`: none
for an empty string, else pieces without the separator that are the string again when they are joined. -/
theorem split_lossless (src seg : Text) (hseg : seg ≠ []) (vec : List Text) :
    ∃ pieces, (∀ passes, src.length < passes → str2vec src vec seg passes = some (.ok (vec ++ pieces))) ∧
      (src = [] → pieces = []) ∧ (src ≠ [] → seg.intercalate pieces = src) ∧
      ∀ piece ∈ pieces, ¬ seg <:+: piece := by
  by_cases hsrc : src = []
  · refine ⟨[], fun passes _ => ?_, fun _ => rfl, fun hne => absurd hsrc hne, nofun⟩
    rw [str2vec, if_pos hsrc, List.append_nil]
  · obtain ⟨r, ⟨pieces, rfl, hjoined, hpieces⟩, hruns⟩ := @str2vec_rebuilt src seg vec hseg hsrc
    exact ⟨pieces, hruns, fun hempty => absurd hempty hsrc, fun _ => hjoined, hpieces⟩

/-- Separators that overlap, one behind the other, and at both ends. -/
theorem split_lossless_overlapping :
    str2vec (ascii "aaabaa") [ascii "x"] (ascii "aa") 7 = some (.ok [ascii "x", [], ascii "ab", []]) ∧
      ∃ pieces, (∀ passes, (ascii "aaabaa").length < passes →
          str2vec (ascii "aaabaa") [ascii "x"] (ascii "aa") passes = some (.ok ([ascii "x"] ++ pieces))) ∧
        (ascii "aaabaa" = [] → pieces = []) ∧
        (ascii "aaabaa" ≠ [] → (ascii "aa").intercalate pieces = ascii "aaabaa") ∧
        ∀ piece ∈ pieces, ¬ ascii "aa" <:+: piece :=
  ⟨by decide, split_lossless (ascii "aaabaa") (ascii "aa") (by decide) [ascii "x"]⟩

/-! ## Other separators -/

/-- With an empty separator the loop finds it where it stands, again and again. -/
theorem str2vec_unended {src : Text} (hsrc : src ≠ []) (vec : List Text) (passes : Nat) :
    str2vec src vec [] passes = none := by
  rw [str2vec, if_neg hsrc]
  have hpass : ∀ s : Split, s.pos_start = 0 → ∃ s', pass src [] s = .ok (.inl s') ∧ s'.pos_start = 0 := by
    intro s hs
    have hpos : s.pos_start ≤ src.length := by
      rw [hs]
      exact Nat.zero_le _
    exact ⟨_, pass_found hpos (firstAt?_nil _), hs⟩
  exact Loop.run_eq_none hpass rfl

/-- With a separator of one byte it is what the command line is split with. -/
theorem str2vec_blank (src : Text) (seg : Byte) {passes : Nat} (h : src.length < passes) :
    str2vec src [] [seg] passes = some (.ok (SingleTerminalLogin.str2vec src seg)) := by
  by_cases hsrc : src = []
  · subst hsrc
    rfl
  · obtain ⟨r, ⟨pieces, hr, hjoined, hpieces⟩, hruns⟩ :=
      @str2vec_rebuilt src [seg] [] (List.cons_ne_nil seg []) hsrc
    have hne : pieces ≠ [] := by
      rintro rfl
      exact hsrc hjoined.symm
    have hmem : ∀ piece ∈ pieces, seg ∉ piece := fun piece hpiece hseg =>
      hpieces piece hpiece ((List.singleton_infix_iff seg piece).2 hseg)
    have hsplit : src.splitOn seg = pieces := by
      rw [← hjoined, List.splitOn_intercalate seg hmem hne]
    rw [hruns passes h, SingleTerminalLogin.str2vec_eq hsrc, hsplit, hr, List.nil_append]

end Client

end SingleTerminalLogin
