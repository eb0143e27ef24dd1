import Mathlib

/-!
# Words in a list

Where a word stands in a list for the first time, and lists that are joined with a word between them.

* `firstAt?` — the first place of a word;
* `firstAt?_eq_some`, `firstAt?_eq_none` — what is known of the list then;
* `flatMap_append_eq_intercalate` — pieces that each end with the separator, and a last one behind
  them, are the pieces joined.
-/

namespace Occurs

section

variable {α : Type} [DecidableEq α] {word l : List α}

/-- The index at which the word stands for the first time. -/
def firstAt? (word : List α) : List α → Option Nat
  | [] => if word = [] then some 0 else none
  | a :: l => if word <+: a :: l then some 0 else (firstAt? word l).map (· + 1)

/-- It stands at that index, and nowhere in front of it. -/
theorem firstAt?_eq_some {i : Nat} (hword : word ≠ []) (h : firstAt? word l = some i) :
    ∃ before after, l = before ++ (word ++ after) ∧ before.length = i ∧ ¬ word <:+: before := by
  induction l generalizing i with
  | nil =>
    rw [firstAt?, if_neg hword] at h
    cases h
  | cons a l ih =>
    rw [firstAt?] at h
    split at h
    · next hprefix =>
      cases h
      obtain ⟨after, hafter⟩ := hprefix
      exact ⟨[], after, hafter.symm, rfl, fun hinfix => hword (List.infix_nil.1 hinfix)⟩
    · next hprefix =>
      obtain ⟨j, hj, rfl⟩ := Option.map_eq_some_iff.1 h
      obtain ⟨before, after, rfl, rfl, hbefore⟩ := ih hj
      refine ⟨a :: before, after, rfl, rfl, fun hinfix => ?_⟩
      rcases List.infix_cons_iff.1 hinfix with hhere | hlater
      · exact hprefix (hhere.trans (List.prefix_append (a :: before) (word ++ after)))
      · exact hbefore hlater

/-- It stands nowhere. -/
theorem firstAt?_eq_none (h : firstAt? word l = none) : ¬ word <:+: l := by
  induction l with
  | nil =>
    rw [firstAt?] at h
    split at h
    · cases h
    · next hword => exact fun hinfix => hword (List.infix_nil.1 hinfix)
  | cons a l ih =>
    rw [firstAt?] at h
    split at h
    · cases h
    · next hprefix =>
      intro hinfix
      rcases List.infix_cons_iff.1 hinfix with hhere | hlater
      · exact hprefix hhere
      · exact ih (Option.map_eq_none_iff.1 h) hlater

/-- The empty word stands in front of everything. -/
theorem firstAt?_nil (l : List α) : firstAt? [] l = some 0 := by
  cases l with
  | nil => rfl
  | cons a l => rw [firstAt?, if_pos (List.nil_prefix)]

end

theorem flatMap_append_eq_intercalate {α : Type} (word : List α) (pieces : List (List α)) (last : List α) :
    pieces.flatMap (· ++ word) ++ last = word.intercalate (pieces ++ [last]) := by
  induction pieces with
  | nil => simp
  | cons piece pieces ih =>
    rw [List.cons_append, List.intercalate_cons_of_ne_nil (List.append_ne_nil_of_right_ne_nil _ (List.cons_ne_nil _ _)),
      ← ih, List.flatMap_cons, List.append_assoc, List.append_assoc]

end Occurs
