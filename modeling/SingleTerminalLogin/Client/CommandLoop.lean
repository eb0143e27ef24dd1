import SingleTerminalLogin.Lib.LineInput

/-!
# The command loop of the client

The loop in `main` of `client/main/main.cpp` reads a line with `fgets` and cuts off the last byte
of what it got, taking it for the newline.

* `readCommand`, `rounds` — one round of the loop up to `str2vec`, and the first rounds;
* `rounds_whole_iff` — when each round gets a whole line;
* `bytes_kept_iff` — no byte is lost exactly when the lines fit and the input has not ended.
-/

namespace SingleTerminalLogin

open ByteText CProgram LineInput

def MAX_CMD_LEN : Nat := 128

/-! ## Reading -/

/-- What `fgets` has put into `cmds` in one round, and the string that is left there.  An
empty one is not handed to `str2vec`. -/
structure Round where
  chunk : Text
  handed : Text

/-- The beginning of a round, up to `str2vec`.  It is nothing while `fgets` waits. -/
def readCommand (cmds : CArray Byte MAX_CMD_LEN) (stdin : Input) :
    C (Option (Round × CArray Byte MAX_CMD_LEN × Input)) := do
  let cmds ← cmds.store 0 0
  match fgets MAX_CMD_LEN stdin with
  | none => .ok none
  | some (chunk, stdin) =>
    let cmds ← storeChunk cmds chunk
    let length ← cmds.strlen
    let cmds ← cmds.store (length - 1) 0
    .ok (some (⟨chunk, cmds.string⟩, cmds, stdin))

/-- The first rounds of the loop, as far as `fgets` returns. -/
def rounds : Nat → CArray Byte MAX_CMD_LEN → Input → C (List Round)
  | 0, _, _ => .ok []
  | k + 1, cmds, stdin => do
    match ← readCommand cmds stdin with
    | none => .ok []
    | some (r, cmds, stdin) =>
      let rs ← rounds k cmds stdin
      .ok (r :: rs)

/-- What was handed on of each line. -/
def perLine : List Round → List Text
  | [] => []
  | r :: rs =>
    if 10 ∈ r.chunk then r.handed :: perLine rs
    else
      match perLine rs with
      | [] => [r.handed]
      | line :: lines => (r.handed ++ line) :: lines

/-- In the first rounds every store into `cmds` is inside of it, and what was handed on of
each line are its bytes. -/
def BytesKept (stdin : Input) (k : Nat) : Prop :=
  ∃ rs, rounds k (CArray.fill MAX_CMD_LEN 0) stdin = .ok rs ∧ perLine rs = lines (rs.flatMap Round.chunk)

/-- Each of the first lines fits `cmds` with its newline and has no zero byte, and where
these are all lines, the input goes on and the last line still fits. -/
def LinesFit (stdin : Input) (k : Nat) : Prop :=
  (∀ line ∈ (splitLines stdin.bytes).1.take k, line.length + 2 ≤ MAX_CMD_LEN ∧ NoNul line) ∧
    ((splitLines stdin.bytes).1.length < k →
      stdin.ended = false ∧ (splitLines stdin.bytes).2.length + 1 < MAX_CMD_LEN)

/-! ### One round -/

/-- What a chunk of `fgets` is, and what is handed on of it. -/
structure Round.Cut (r : Round) : Prop where
  newline : 10 ∈ r.chunk → ∃ line, r.chunk = line ++ [10] ∧ 10 ∉ line
  handed : ∃ x, cstr r.chunk = r.handed ++ [x]

/-- The chunk is a line, and the line is handed on. -/
def Round.Whole (r : Round) : Prop := r.chunk = r.handed ++ [10] ∧ 10 ∉ r.handed

section

variable {cmds cmds' : CArray Byte MAX_CMD_LEN} {stdin stdin' stdin'' : Input} {chunk : Text} {r : Round}

/-- What is in `cmds` when `fgets` has returned a chunk. -/
theorem storeChunk_cmds (h : fgets MAX_CMD_LEN stdin = some (chunk, stdin')) :
    ∃ cmds₁ cmds₂, cmds.store 0 0 = .ok cmds₁ ∧ storeChunk cmds₁ chunk = .ok cmds₂ ∧
      cmds₂.string = cstr chunk ∧ cmds₂.strlen = .ok (cstr chunk).length := by
  obtain ⟨-, -, hlen, -⟩ := fgets_eq_some h
  obtain ⟨cmds₁, h₁⟩ : Returns (cmds.store 0 0) := CArray.returns_store_iff.2 ⟨le_rfl, by decide⟩
  have hfirst : ∃ rest, cmds₁.elems = 0 :: rest := by
    obtain ⟨-, -, helems⟩ := CArray.store_eq_ok.1 h₁
    obtain ⟨c, rest, hcons⟩ : ∃ c rest, cmds.elems = c :: rest :=
      List.exists_cons_of_length_pos (cmds.length_eq.symm ▸ (by decide : 0 < MAX_CMD_LEN))
    rw [hcons] at helems
    exact ⟨rest, helems⟩
  have hshort : chunk.length < MAX_CMD_LEN := lt_of_le_of_lt hlen (by decide)
  obtain ⟨cmds₂, rest, h₂, helems⟩ := storeChunk_eq hshort hfirst
  have hstring : cmds₂.string = cstr chunk := by
    rw [CArray.string, helems, CArray.cstr_append_zero]
  refine ⟨cmds₁, cmds₂, h₁, h₂, hstring, ?_⟩
  rw [CArray.strlen_eq, hstring]
  rw [helems]
  exact List.mem_append_right chunk List.mem_cons_self

/-- A round whose `fgets` returns cuts off the last byte of the string it has read. -/
theorem readCommand_of_cstr {handed : Text} {x : Byte} (h : fgets MAX_CMD_LEN stdin = some (chunk, stdin'))
    (hchunk : cstr chunk = handed ++ [x]) :
    ∃ cmds', readCommand cmds stdin = .ok (some (⟨chunk, handed⟩, cmds', stdin')) := by
  obtain ⟨cmds₁, cmds₂, h₁, h₂, hstring, hstrlen⟩ := @storeChunk_cmds cmds _ _ _ h
  rw [hchunk] at hstring hstrlen
  rw [List.length_append, List.length_singleton] at hstrlen
  obtain ⟨cmds₃, h₃, hstring₃⟩ := CArray.string_store_last hstring
  refine ⟨cmds₃, ?_⟩
  simp only [readCommand, h₁, ok_bind, h, h₂, hstrlen, Nat.cast_add, Nat.cast_one, add_sub_cancel_right, h₃,
    hstring₃]

/-- There is nothing to cut off: the store is in front of the array. -/
theorem readCommand_of_cstr_nil (h : fgets MAX_CMD_LEN stdin = some (chunk, stdin')) (hchunk : cstr chunk = []) :
    readCommand cmds stdin = .error .memory := by
  obtain ⟨cmds₁, cmds₂, h₁, h₂, -, hstrlen⟩ := @storeChunk_cmds cmds _ _ _ h
  rw [hchunk] at hstrlen
  have hstore : cmds₂.store (([] : Text).length - 1) 0 = .error .memory := CArray.store_outside (by decide)
  simp only [readCommand, h₁, ok_bind, h, h₂, hstrlen, hstore, error_bind]

theorem readCommand_of_none (h : fgets MAX_CMD_LEN stdin = none) : readCommand cmds stdin = .ok none := by
  obtain ⟨cmds₁, h₁⟩ : Returns (cmds.store 0 0) := CArray.returns_store_iff.2 ⟨le_rfl, by decide⟩
  simp only [readCommand, h₁, ok_bind, h]

/-- A round that does not fail: `fgets` waits, or it has returned a chunk, and one byte of
that is cut off. -/
theorem readCommand_cases {next : Option (Round × CArray Byte MAX_CMD_LEN × Input)}
    (h : readCommand cmds stdin = .ok next) :
    (next = none ∧ fgets MAX_CMD_LEN stdin = none) ∨
      ∃ r cmds' s', next = some (r, cmds', s') ∧ fgets MAX_CMD_LEN stdin = some (r.chunk, s') ∧ r.Cut := by
  cases hfgets : fgets MAX_CMD_LEN stdin with
  | none =>
    rw [readCommand_of_none hfgets] at h
    cases h
    exact Or.inl ⟨rfl, rfl⟩
  | some found =>
    obtain ⟨chunk, s'⟩ := found
    obtain ⟨-, -, -, hnewline⟩ := fgets_eq_some hfgets
    rcases List.eq_nil_or_concat (cstr chunk) with hnil | ⟨handed, x, hconcat⟩
    · rw [readCommand_of_cstr_nil hfgets hnil] at h
      cases h
    · rw [List.concat_eq_append] at hconcat
      obtain ⟨cmds', hrun⟩ := @readCommand_of_cstr cmds _ _ _ _ _ hfgets hconcat
      rw [hrun] at h
      cases h
      exact Or.inr ⟨_, _, _, rfl, rfl, hnewline, x, hconcat⟩

theorem Round.Cut.cstr_length (h : r.Cut) : (cstr r.chunk).length = r.handed.length + 1 := by
  obtain ⟨x, hx⟩ := h.handed
  rw [hx, List.length_append, List.length_singleton]

/-- A whole line has no zero byte. -/
theorem Round.Cut.noNul (h : r.Cut) (hwhole : r.Whole) : NoNul r.chunk := by
  have hlen : (cstr r.chunk).length = r.chunk.length := by
    rw [h.cstr_length, hwhole.1, List.length_append, List.length_singleton]
  exact (List.takeWhile_prefix _).eq_of_length hlen ▸ cstr_noNul r.chunk

/-- No more than the bytes of the line are handed on, and all of them only of a whole line. -/
theorem Round.Cut.length_le (h : r.Cut) :
    r.handed.length ≤ (r.chunk.filter (· ≠ 10)).length ∧
      (r.handed.length = (r.chunk.filter (· ≠ 10)).length → r.Whole) := by
  have hprefix : cstr r.chunk <+: r.chunk := List.takeWhile_prefix _
  have hlen : r.handed.length + 1 ≤ r.chunk.length := h.cstr_length ▸ hprefix.length_le
  by_cases hnewline : 10 ∈ r.chunk
  · obtain ⟨line, hline, hnot⟩ := h.newline hnewline
    have hfilter : r.chunk.filter (· ≠ 10) = line := by
      have hself : line.filter (· ≠ 10) = line :=
        List.filter_eq_self.2 fun c hc => decide_eq_true fun h10 => hnot (h10 ▸ hc)
      rw [hline, List.filter_append, hself]
      exact List.append_nil line
    have hchunk : r.chunk.length = line.length + 1 := by
      rw [hline, List.length_append, List.length_singleton]
    rw [hfilter]
    refine ⟨by omega, fun heq => ?_⟩
    obtain ⟨x, hx⟩ := h.handed
    have hsame : cstr r.chunk = r.chunk :=
      hprefix.eq_of_length (h.cstr_length.trans (by rw [hchunk, heq]))
    have happ : r.handed ++ [x] = line ++ [10] := hx.symm.trans (hsame.trans hline)
    obtain ⟨hhanded, -⟩ := List.append_inj happ heq
    exact ⟨hhanded ▸ hline, hhanded ▸ hnot⟩
  · have hfilter : r.chunk.filter (· ≠ 10) = r.chunk :=
      List.filter_eq_self.2 fun c hc => decide_eq_true fun h10 => hnewline (h10 ▸ hc)
    rw [hfilter]
    exact ⟨by omega, fun heq => absurd heq (by omega)⟩

/-- The first round on a line ends with the line exactly when the line fits. -/
theorem readCommand_whole_iff {line rest : Text} {ended : Bool} (hline : 10 ∉ line) :
    (∃ r cmds' s', readCommand cmds ⟨line ++ 10 :: rest, ended⟩ = .ok (some (r, cmds', s')) ∧ r.Whole) ↔
      line.length + 2 ≤ MAX_CMD_LEN ∧ NoNul line := by
  constructor
  · rintro ⟨r, cmds', s', hr, hwhole⟩
    obtain ⟨⟨⟩, -⟩ | ⟨_, _, _, ⟨⟩, hfgets, hcut⟩ := readCommand_cases hr
    obtain ⟨hbytes, -, hlen, -⟩ := fgets_eq_some hfgets
    have hnul := hcut.noNul hwhole
    obtain ⟨hchunk, hhanded⟩ := hwhole
    rw [hchunk, List.append_assoc, List.singleton_append] at hbytes
    have hsplit := congrArg (fun t => (splitLines t).1.head?) hbytes
    simp only [splitLines_append hline, splitLines_append hhanded, List.head?_cons, Option.some.injEq] at hsplit
    rw [hchunk, List.length_append, List.length_singleton] at hlen
    rw [hsplit]
    exact ⟨Nat.succ_le_succ hlen, fun c hc => hnul c (hchunk ▸ List.mem_append_left [10] hc)⟩
  · rintro ⟨hlen, hnul⟩
    have hcstr : cstr (line ++ [10]) = line ++ [10] := by
      refine cstr_eq_self fun c hc => ?_
      rcases List.mem_append.1 hc with hc | hc
      · exact hnul c hc
      · rw [List.mem_singleton.1 hc]
        decide
    obtain ⟨cmds', hrun⟩ := @readCommand_of_cstr cmds _ _ _ _ _ (fgets_line hline hlen rest ended) hcstr
    exact ⟨_, cmds', _, hrun, rfl, hline⟩

end

/-! ### Many rounds -/

/-- What the rounds hand on, without the ends of the lines. -/
theorem perLine_flatten (rs : List Round) : (perLine rs).flatten = rs.flatMap Round.handed := by
  induction rs with
  | nil => rfl
  | cons r rs ih =>
    rw [perLine, List.flatMap_cons, ← ih]
    split
    · rfl
    · cases perLine rs with
      | nil => rfl
      | cons line lines => exact List.append_assoc _ _ _

/-- All bytes of the lines are handed on exactly when each round is a whole line. -/
theorem perLine_eq_lines_iff {rs : List Round} (h : ∀ r ∈ rs, r.Cut) :
    perLine rs = lines (rs.flatMap Round.chunk) ↔ ∀ r ∈ rs, r.Whole := by
  constructor
  · intro heq
    have hflat : rs.flatMap Round.handed = (rs.flatMap Round.chunk).filter (· ≠ 10) := by
      rw [← perLine_flatten, heq, lines_flatten]
    have hlen := congrArg List.length hflat
    clear heq hflat
    induction rs with
    | nil => exact nofun
    | cons r rs ih =>
      have hle : ∀ rs : List Round, (∀ r ∈ rs, r.Cut) →
          (rs.flatMap Round.handed).length ≤ ((rs.flatMap Round.chunk).filter (· ≠ 10)).length := by
        intro rs hrs
        induction rs with
        | nil => exact le_rfl
        | cons r rs ih =>
          have h₁ := (hrs r List.mem_cons_self).length_le.1
          have h₂ := ih fun r hr => hrs r (List.mem_cons_of_mem _ hr)
          simp only [List.flatMap_cons, List.filter_append, List.length_append]
          omega
      have h₁ := (h r List.mem_cons_self).length_le
      have h₂ := hle rs fun r hr => h r (List.mem_cons_of_mem _ hr)
      simp only [List.flatMap_cons, List.filter_append, List.length_append] at hlen
      intro r' hr'
      rcases List.mem_cons.1 hr' with rfl | hr'
      · exact h₁.2 (by omega)
      · exact ih (fun r hr => h r (List.mem_cons_of_mem _ hr)) (by omega) r' hr'
  · intro hwhole
    clear h
    induction rs with
    | nil => rfl
    | cons r rs ih =>
      obtain ⟨hchunk, hhanded⟩ := hwhole r List.mem_cons_self
      have hmem : 10 ∈ r.chunk := by
        rw [hchunk]
        exact List.mem_append_right _ List.mem_cons_self
      rw [perLine, if_pos hmem, ih fun r hr => hwhole r (List.mem_cons_of_mem _ hr), List.flatMap_cons, hchunk,
        List.append_assoc, List.singleton_append, lines_append hhanded]

/-- Every round is one that cuts off a byte. -/
theorem rounds_cut {k : Nat} {cmds : CArray Byte MAX_CMD_LEN} {stdin : Input} {rs : List Round}
    (h : rounds k cmds stdin = .ok rs) : ∀ r ∈ rs, r.Cut := by
  induction k generalizing cmds stdin rs with
  | zero =>
    cases h
    exact nofun
  | succ k ih =>
    obtain ⟨next, hnext, h⟩ := bind_eq_ok.1 h
    obtain ⟨rfl, -⟩ | ⟨r, cmds', s', rfl, -, hcut⟩ := readCommand_cases hnext
    · cases h
      exact nofun
    · obtain ⟨rs', hrs', h⟩ := bind_eq_ok.1 h
      cases h
      exact List.forall_mem_cons.2 ⟨hcut, ih hrs'⟩

/-- A line is read whole in its round, and then come the rounds on the rest. -/
theorem linesFit_line {line rest : Text} {ended : Bool} {k : Nat} (hline : 10 ∉ line) :
    LinesFit ⟨line ++ 10 :: rest, ended⟩ (k + 1) ↔
      (line.length + 2 ≤ MAX_CMD_LEN ∧ NoNul line) ∧ LinesFit ⟨rest, ended⟩ k := by
  simp only [LinesFit, splitLines_append hline, List.take_succ_cons, List.forall_mem_cons, List.length_cons,
    Nat.add_lt_add_iff_right, and_assoc]

theorem linesFit_tail {s : Input} {k : Nat} (h : 10 ∉ s.bytes) :
    LinesFit s (k + 1) ↔ s.ended = false ∧ s.bytes.length < MAX_CMD_LEN - 1 := by
  simp only [LinesFit, splitLines_of_not_mem h, List.take_nil, List.not_mem_nil, IsEmpty.forall_iff, implies_true,
    List.length_nil, Nat.zero_lt_succ, forall_const, true_and]
  exact and_congr_right fun _ => Nat.lt_sub_iff_add_lt.symm

/-- The rounds are all whole lines exactly when the lines fit: by induction on the number
of rounds. -/
theorem rounds_whole_iff (k : Nat) (cmds : CArray Byte MAX_CMD_LEN) (stdin : Input) :
    (∃ rs, rounds k cmds stdin = .ok rs ∧ ∀ r ∈ rs, r.Whole) ↔ LinesFit stdin k := by
  induction k generalizing cmds stdin with
  | zero => exact iff_of_true ⟨[], rfl, nofun⟩ ⟨nofun, nofun⟩
  | succ k ih =>
    obtain ⟨bytes, ended⟩ := stdin
    rcases line_cases bytes with ⟨line, rest, rfl, hline⟩ | hbytes
    · rw [linesFit_line hline, ← @readCommand_whole_iff cmds line rest ended hline]
      constructor
      · rintro ⟨rs, hrs, hwhole⟩
        obtain ⟨next, hnext, hrs⟩ := bind_eq_ok.1 hrs
        obtain ⟨-, hnone⟩ | ⟨r, cmds', s', rfl, hfgets, -⟩ := readCommand_cases hnext
        · exact absurd (List.mem_append_right line List.mem_cons_self) (not_mem_of_fgets_eq_none hnone)
        · obtain ⟨rs', hrs', h⟩ := bind_eq_ok.1 hrs
          cases h
          obtain ⟨hr, hwhole⟩ := List.forall_mem_cons.1 hwhole
          have hfits := (@readCommand_whole_iff cmds line rest ended hline).1 ⟨r, cmds', s', hnext, hr⟩
          rw [fgets_line hline hfits.1] at hfgets
          obtain ⟨-, rfl⟩ := Prod.mk.inj (Option.some.inj hfgets)
          exact ⟨⟨r, cmds', _, hnext, hr⟩, (ih cmds' _).1 ⟨rs', hrs', hwhole⟩⟩
      · rintro ⟨⟨r, cmds', s', hr, hwhole⟩, hfit⟩
        have hfits := (@readCommand_whole_iff cmds line rest ended hline).1 ⟨r, cmds', s', hr, hwhole⟩
        obtain ⟨⟨⟩, -⟩ | ⟨_, _, _, ⟨⟩, hfgets, -⟩ := readCommand_cases hr
        rw [fgets_line hline hfits.1] at hfgets
        obtain ⟨-, rfl⟩ := Prod.mk.inj (Option.some.inj hfgets)
        obtain ⟨rs, hrs, hall⟩ := (ih cmds' ⟨rest, ended⟩).2 hfit
        refine ⟨r :: rs, ?_, List.forall_mem_cons.2 ⟨hwhole, hall⟩⟩
        rw [rounds, hr]
        simp only [ok_bind, hrs]
    · rw [linesFit_tail hbytes, ← fgets_eq_none_iff hbytes]
      constructor
      · rintro ⟨rs, hrs, hwhole⟩
        obtain ⟨next, hnext, hrs⟩ := bind_eq_ok.1 hrs
        obtain ⟨-, hnone⟩ | ⟨r, cmds', s', rfl, hfgets, -⟩ := readCommand_cases hnext
        · exact hnone
        · obtain ⟨rs', hrs', h⟩ := bind_eq_ok.1 hrs
          cases h
          obtain ⟨hchunk, -⟩ := hwhole r List.mem_cons_self
          have hsplit : bytes = r.chunk ++ s'.bytes := (fgets_eq_some hfgets).1
          refine absurd ?_ hbytes
          rw [hsplit, hchunk]
          exact List.mem_append_left _ (List.mem_append_right _ List.mem_cons_self)
      · intro hnone
        refine ⟨[], ?_, nofun⟩
        rw [rounds, readCommand_of_none hnone]
        rfl

/-- **No typed byte is lost exactly when the lines fit.**  A line of more than 126 bytes, one with a
zero byte, and the end of the input are what the loop does not take. -/
theorem bytes_kept_iff (stdin : Input) (k : Nat) : BytesKept stdin k ↔ LinesFit stdin k := by
  rw [← rounds_whole_iff k (CArray.fill MAX_CMD_LEN 0) stdin]
  constructor
  · rintro ⟨rs, hrs, hlines⟩
    exact ⟨rs, hrs, (perLine_eq_lines_iff (rounds_cut hrs)).1 hlines⟩
  · rintro ⟨rs, hrs, hwhole⟩
    exact ⟨rs, hrs, (perLine_eq_lines_iff (rounds_cut hrs)).2 hwhole⟩

/-- Of a last line without a newline, the last letter is lost. -/
theorem unended_line_loses_its_end :
    (∃ r, rounds 1 (CArray.fill MAX_CMD_LEN 0) ⟨ascii "logout bob", true⟩ = .ok [r] ∧
        r.handed = ascii "logout bo") ∧
      ¬ ∀ stdin k, BytesKept stdin k := by
  have hrounds : rounds 1 (CArray.fill MAX_CMD_LEN 0) ⟨ascii "logout bob", true⟩ =
      .ok [⟨ascii "logout bob", ascii "logout bo"⟩] := by
    obtain ⟨cmds', hrun⟩ := @readCommand_of_cstr (CArray.fill MAX_CMD_LEN 0) ⟨ascii "logout bob", true⟩ ⟨[], true⟩
      (ascii "logout bob") (ascii "logout bo") 98 rfl (by decide)
    rw [rounds, hrun]
    rfl
  refine ⟨⟨_, hrounds, rfl⟩, fun hkept => ?_⟩
  obtain ⟨rs, hrs, hlines⟩ := hkept ⟨ascii "logout bob", true⟩ 1
  rw [hrounds] at hrs
  cases hrs
  exact absurd hlines (by decide)

end SingleTerminalLogin
