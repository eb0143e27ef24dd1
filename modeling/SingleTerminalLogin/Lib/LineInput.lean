import SingleTerminalLogin.Lib.CArray

/-!
# Input in lines

A program that reads its input with `fgets` gets it in chunks: a line with its newline, or
as much as fits.

* `splitLines` — the lines of an input, and what stands behind the last newline;
* `fgets` — the next chunk, unless there is none to return yet;
* `fgets_line`, `fgets_eq_some` — when a chunk is a line, and what it is otherwise.
-/

namespace LineInput

open ByteText CProgram

/-! ## Lines -/

/-- The lines that were ended, without their newlines, and the bytes of the one that was
not. -/
def splitLines : Text → List Text × Text
  | [] => ([], [])
  | c :: t =>
    if c = 10 then ([] :: (splitLines t).1, (splitLines t).2)
    else
      match (splitLines t).1 with
      | [] => ([], c :: (splitLines t).2)
      | line :: lines => ((c :: line) :: lines, (splitLines t).2)

/-- The lines, and the last one even if it was not ended. -/
def lines (t : Text) : List Text :=
  (splitLines t).1 ++ if (splitLines t).2 = [] then [] else [(splitLines t).2]

section

variable {t line rest : Text}

theorem splitLines_of_not_mem (h : 10 ∉ t) : splitLines t = ([], t) := by
  induction t with
  | nil => rfl
  | cons c t ih =>
    have hc : c ≠ 10 := fun hc => h (hc ▸ List.mem_cons_self)
    rw [splitLines, if_neg hc, ih fun ht => h (List.mem_cons_of_mem c ht)]

theorem splitLines_append (h : 10 ∉ line) (rest : Text) :
    splitLines (line ++ 10 :: rest) = (line :: (splitLines rest).1, (splitLines rest).2) := by
  induction line with
  | nil => rfl
  | cons c line ih =>
    have hc : c ≠ 10 := fun hc => h (hc ▸ List.mem_cons_self)
    rw [List.cons_append, splitLines, if_neg hc, ih fun ht => h (List.mem_cons_of_mem c ht)]

theorem lines_append (h : 10 ∉ line) (rest : Text) : lines (line ++ 10 :: rest) = line :: lines rest := by
  rw [lines, splitLines_append h, lines, List.cons_append]

/-- Nothing but the newlines is missing from the lines. -/
theorem lines_flatten (t : Text) : (lines t).flatten = t.filter (· ≠ 10) := by
  have hsplit : (splitLines t).1.flatten ++ (splitLines t).2 = t.filter (· ≠ 10) := by
    induction t with
    | nil => rfl
    | cons c t ih =>
      rw [splitLines]
      by_cases hc : c = 10
      · rw [if_pos hc, List.filter_cons_of_neg (by simpa using hc), ← ih]
        rfl
      · rw [if_neg hc, List.filter_cons_of_pos (by simpa using hc), ← ih]
        cases (splitLines t).1 with
        | nil => rfl
        | cons line lines => rfl
  rw [← hsplit, lines, List.flatten_append]
  by_cases htail : (splitLines t).2 = []
  · rw [if_pos htail, htail]
    rfl
  · rw [if_neg htail, List.flatten_singleton]

/-- A text is its first line and the rest, or has no newline. -/
theorem line_cases (t : Text) : (∃ line rest, t = line ++ 10 :: rest ∧ 10 ∉ line) ∨ 10 ∉ t := by
  by_cases h : 10 ∈ t
  · obtain ⟨line, rest, rfl, hline⟩ := List.eq_append_cons_of_mem h
    exact Or.inl ⟨line, rest, rfl, hline⟩
  · exact Or.inr h

end

/-! ## Chunks -/

/-- Up to `n` bytes, up to the first newline. -/
def takeLine : Nat → Text → Text × Text
  | 0, t => ([], t)
  | _ + 1, [] => ([], [])
  | n + 1, c :: t => if c = 10 then ([10], t) else (c :: (takeLine n t).1, (takeLine n t).2)

/-- An input: the bytes that are there, and whether that is all of them. -/
structure Input where
  bytes : Text
  ended : Bool

/-- `fgets(a, size, stdin)`: the chunk, which is empty at the end of the input, and what is
left.  It is nothing while the input may go on: the call waits. -/
def fgets (size : Nat) (s : Input) : Option (Text × Input) :=
  let r := takeLine (size - 1) s.bytes
  if s.ended = false ∧ r.1.length < size - 1 ∧ 10 ∉ r.1 then none
  else some (r.1, { s with bytes := r.2 })

/-- The array after that.  At the end of the input it stays as it is. -/
def storeChunk {size : Nat} (a : CArray Byte size) (chunk : Text) : C (CArray Byte size) :=
  if chunk = [] then .ok a else a.copy 0 (chunk ++ [0])

section

variable {n size : Nat} {t line rest chunk : Text} {s s' : Input} {a : CArray Byte size}

theorem takeLine_append (n : Nat) (t : Text) : (takeLine n t).1 ++ (takeLine n t).2 = t := by
  induction n generalizing t with
  | zero => rfl
  | succ n ih =>
    cases t with
    | nil => rfl
    | cons c t =>
      rw [takeLine]
      by_cases hc : c = 10
      · rw [if_pos hc, hc]
        rfl
      · rw [if_neg hc, List.cons_append, ih]

theorem takeLine_length (n : Nat) (t : Text) : (takeLine n t).1.length ≤ n := by
  induction n generalizing t with
  | zero => exact le_rfl
  | succ n ih =>
    cases t with
    | nil => exact Nat.zero_le _
    | cons c t =>
      rw [takeLine]
      split
      · exact Nat.succ_le_succ (Nat.zero_le n)
      · exact Nat.succ_le_succ (ih t)

theorem takeLine_line (h : 10 ∉ line) (hn : line.length < n) (rest : Text) :
    takeLine n (line ++ 10 :: rest) = (line ++ [10], rest) := by
  induction line generalizing n with
  | nil =>
    obtain ⟨n, rfl⟩ := Nat.exists_eq_succ_of_ne_zero hn.ne'
    rfl
  | cons c line ih =>
    obtain ⟨n, rfl⟩ := Nat.exists_eq_succ_of_ne_zero (Nat.ne_zero_of_lt hn)
    have hc : c ≠ 10 := fun hc => h (hc ▸ List.mem_cons_self)
    rw [List.cons_append, takeLine, if_neg hc, ih (fun ht => h (List.mem_cons_of_mem c ht))
      (Nat.lt_of_succ_lt_succ hn)]
    rfl

/-- A chunk with a newline in it ends there. -/
theorem takeLine_newline (h : 10 ∈ (takeLine n t).1) : ∃ line, (takeLine n t).1 = line ++ [10] ∧ 10 ∉ line := by
  induction n generalizing t with
  | zero => cases h
  | succ n ih =>
    cases t with
    | nil => cases h
    | cons c t =>
      rw [takeLine] at h ⊢
      by_cases hc : c = 10
      · rw [if_pos hc]
        exact ⟨[], rfl, List.not_mem_nil⟩
      · rw [if_neg hc] at h ⊢
        obtain ⟨line, hline, hnot⟩ := ih ((List.mem_cons.1 h).resolve_left (Ne.symm hc))
        refine ⟨c :: line, by rw [hline]; rfl, fun hmem => ?_⟩
        exact (List.mem_cons.1 hmem).elim (Ne.symm hc) hnot

/-- Without a newline in sight, as much as there is and fits. -/
theorem takeLine_of_not_mem (h : 10 ∉ t) (n : Nat) : takeLine n t = (t.take n, t.drop n) := by
  induction n generalizing t with
  | zero => rfl
  | succ n ih =>
    cases t with
    | nil => rfl
    | cons c t =>
      have hc : c ≠ 10 := fun hc => h (hc ▸ List.mem_cons_self)
      rw [takeLine, if_neg hc, ih fun ht => h (List.mem_cons_of_mem c ht)]
      rfl

/-- Of a line that is too long, as much as fits. -/
theorem takeLine_long (h : 10 ∉ line) (hn : n ≤ line.length) (rest : Text) :
    (takeLine n (line ++ rest)).1 = line.take n := by
  induction line generalizing n with
  | nil =>
    obtain rfl : n = 0 := Nat.le_zero.1 hn
    rfl
  | cons c line ih =>
    cases n with
    | zero => rfl
    | succ n =>
      have hc : c ≠ 10 := fun hc => h (hc ▸ List.mem_cons_self)
      rw [List.cons_append, takeLine, if_neg hc, ih (fun ht => h (List.mem_cons_of_mem c ht))
        (Nat.le_of_succ_le_succ hn)]
      rfl

/-- A line that fits with its newline and the terminating zero. -/
theorem fgets_line (h : 10 ∉ line) (hsize : line.length + 2 ≤ size) (rest : Text) (ended : Bool) :
    fgets size ⟨line ++ 10 :: rest, ended⟩ = some (line ++ [10], ⟨rest, ended⟩) := by
  have htake : takeLine (size - 1) (line ++ 10 :: rest) = (line ++ [10], rest) :=
    takeLine_line h (by omega) rest
  simp only [fgets, htake]
  exact if_neg fun hwaits => hwaits.2.2 (List.mem_append_right line List.mem_cons_self)

/-- What any chunk is. -/
theorem fgets_eq_some (h : fgets size s = some (chunk, s')) :
    s.bytes = chunk ++ s'.bytes ∧ s'.ended = s.ended ∧ chunk.length ≤ size - 1 ∧
      (10 ∈ chunk → ∃ line, chunk = line ++ [10] ∧ 10 ∉ line) := by
  unfold fgets at h
  dsimp only at h
  split at h
  · cases h
  · cases h
    exact ⟨(takeLine_append _ _).symm, rfl, takeLine_length _ _, takeLine_newline⟩

/-- An array that began with a zero holds the chunk and a zero. -/
theorem storeChunk_eq (hchunk : chunk.length < size) (ha : ∃ rest, a.elems = 0 :: rest) :
    ∃ b rest, storeChunk a chunk = .ok b ∧ b.elems = chunk ++ 0 :: rest := by
  obtain ⟨rest, hrest⟩ := ha
  by_cases hne : chunk = []
  · exact ⟨a, rest, if_pos hne, by rw [hrest, hne]; rfl⟩
  · have hroom : 0 + (chunk ++ [0]).length ≤ size := by
      rw [List.length_append, List.length_singleton]
      omega
    obtain ⟨b, hb⟩ : Returns (a.copy 0 (chunk ++ [0])) := CArray.returns_copy_iff.2 hroom
    obtain ⟨-, helems⟩ := CArray.copy_eq_ok.1 hb
    rw [List.take_zero, List.nil_append, List.append_assoc] at helems
    exact ⟨b, _, (if_neg hne).trans hb, helems⟩

/-- It does not wait when there is a newline. -/
theorem not_mem_of_fgets_eq_none (h : fgets size s = none) : 10 ∉ s.bytes := by
  intro hmem
  obtain ⟨line, rest, hbytes, hline⟩ := List.eq_append_cons_of_mem hmem
  unfold fgets at h
  dsimp only at h
  split at h
  · rename_i hwaits
    rw [hbytes] at hwaits
    obtain ⟨-, hshort, hnot⟩ := hwaits
    by_cases hlen : line.length < size - 1
    · rw [takeLine_line hline hlen] at hnot
      exact hnot (List.mem_append_right line List.mem_cons_self)
    · rw [takeLine_long hline (not_lt.1 hlen), List.length_take] at hshort
      omega
  · cases h

/-- It waits exactly while the last line may still be ended within the array. -/
theorem fgets_eq_none_iff (h : 10 ∉ s.bytes) :
    fgets size s = none ↔ s.ended = false ∧ s.bytes.length < size - 1 := by
  have htake := takeLine_of_not_mem h (size - 1)
  simp only [fgets, htake, ite_eq_left_iff, reduceCtorEq, imp_false, not_not, List.length_take]
  constructor
  · rintro ⟨hended, hlen, -⟩
    exact ⟨hended, by omega⟩
  · rintro ⟨hended, hlen⟩
    exact ⟨hended, by omega, fun hmem => h (List.mem_of_mem_take hmem)⟩

end

end LineInput
