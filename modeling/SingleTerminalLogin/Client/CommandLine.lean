import SingleTerminalLogin.Client.CommandLoop
import SingleTerminalLogin.Client.Typed

/-!
# The words of a command line

`client/main`: a line is split at the blanks, and the words after the first go into an array of ten
pointers, where the class of the command counts them up to the first null pointer.

* `str2vec_eq` — the words are what stands between the blanks;
* `params_handled_iff` — they fit the array exactly when there are fewer than ten blanks;
* `processLine_words` — a command that is written out is the command that is performed.
-/

namespace SingleTerminalLogin

open ByteText CProgram

/-! ## Splitting -/

/-- `src.find(seg, pos)` for a `seg` of one byte. -/
def find (src : Text) (seg : Byte) (pos : Nat) : Option Nat := ((src.drop pos).idxOf? seg).map (pos + ·)

/-- The loop of `str2vec` from `pos_start` on; each time it begins one byte further at least. -/
def str2vecLoop (src : Text) (seg : Byte) : Nat → Nat → List Text
  | 0, _ => []
  | fuel + 1, pos_start =>
    match find src seg pos_start with
    | none => [src.drop pos_start]
    | some pos_end =>
      (src.drop pos_start).take (pos_end - pos_start) :: str2vecLoop src seg fuel (pos_end + 1)

/-- `str2vec(src, vec, seg)` with an empty `vec`. -/
def str2vec (src : Text) (seg : Byte) : List Text :=
  if src = [] then [] else str2vecLoop src seg (src.length + 1) 0

theorem idxOf?_append_cons {word : Text} {seg : Byte} (h : seg ∉ word) (rest : Text) :
    (word ++ seg :: rest).idxOf? seg = some word.length := by
  induction word with
  | nil => simp [List.idxOf?_cons]
  | cons c word ih =>
    have hc : c ≠ seg := fun hc => h (hc ▸ List.mem_cons_self)
    rw [List.cons_append, List.idxOf?_cons, if_neg (by simpa using hc), ih fun hw => h (List.mem_cons_of_mem c hw)]
    rfl

/-- The loop splits the rest of the text: by induction on the times it still runs. -/
theorem str2vecLoop_eq {src : Text} {seg : Byte} {fuel pos_start : Nat} (hpos : pos_start ≤ src.length)
    (hfuel : src.length < pos_start + fuel) :
    str2vecLoop src seg fuel pos_start = (src.drop pos_start).splitOn seg := by
  induction fuel generalizing pos_start with
  | zero => omega
  | succ fuel ih =>
    by_cases hmem : seg ∈ src.drop pos_start
    · obtain ⟨word, rest, hsplit, hword⟩ := List.eq_append_cons_of_mem hmem
      have hindex : (src.drop pos_start).idxOf? seg = some word.length := by
        rw [hsplit, idxOf?_append_cons hword]
      have hlen : src.length - pos_start = word.length + (rest.length + 1) := by
        rw [← List.length_drop, hsplit, List.length_append, List.length_cons]
      have hrest : src.drop (pos_start + word.length + 1) = rest := by
        rw [Nat.add_assoc, ← List.drop_drop, hsplit, ← List.drop_drop, List.drop_left]
        rfl
      have htake : (src.drop pos_start).take (pos_start + word.length - pos_start) = word := by
        rw [Nat.add_sub_cancel_left, hsplit, List.take_left]
      simp only [str2vecLoop, find, hindex, Option.map_some]
      rw [htake, ih (by omega) (by omega), hrest, hsplit, List.splitOn_append_cons_self_of_not_mem hword]
    · have hindex : (src.drop pos_start).idxOf? seg = none := List.idxOf?_eq_none_iff.2 hmem
      simp only [str2vecLoop, find, hindex, Option.map_none]
      rw [List.splitOn_eq_singleton hmem]

theorem str2vec_eq {src : Text} (h : src ≠ []) (seg : Byte) : str2vec src seg = src.splitOn seg := by
  rw [str2vec, if_neg h, str2vecLoop_eq (Nat.zero_le _) (by omega)]
  rfl

/-- One word more than there are blanks. -/
theorem length_splitOn (t : Text) (seg : Byte) : (t.splitOn seg).length = t.count seg + 1 := by
  induction t with
  | nil => rfl
  | cons c t ih =>
    rw [List.splitOn_cons_eq_if_modifyHead]
    by_cases hc : c = seg
    · subst hc
      rw [if_pos (beq_self_eq_true c), List.length_cons, ih, List.count_cons_self]
    · rw [if_neg (by simpa using hc), List.length_modifyHead, ih, List.count_cons_of_ne hc]

theorem length_str2vec_tail (src : Text) (seg : Byte) : (str2vec src seg).tail.length = src.count seg := by
  by_cases h : src = []
  · rw [h]
    rfl
  · rw [str2vec_eq h, List.length_tail, length_splitOn, Nat.add_sub_cancel]

/-! ## The array -/

/-- `v.c_str()`. -/
def c_str (w : Text) : Argument := ⟨cstr w, cstr_noNul w⟩

/-- `const char* params[10]` after the loop of `main`. -/
def storeParams (cmd_params_v : List Text) : C (CArray (Option Argument) 10) :=
  (CArray.fill 10 none).storeFrom 0 (cmd_params_v.tail.map fun w => some (c_str w))

/-- `for(; params[i]; ++i){}`. -/
def countParams (params : CArray (Option Argument) 10) : C Nat := params.scan Option.isSome

/-- The words after the first are stored inside of `params`, a null pointer stays behind them, and
counting gives their number. -/
def ParamsHandled (line : Text) : Prop :=
  ∃ params, storeParams (str2vec line 32) = .ok params ∧ none ∈ params.elems ∧
    countParams params = .ok (str2vec line 32).tail.length

/-- The words fit, and what is in the array then. -/
theorem storeParams_eq_ok {v : List Text} {params : CArray (Option Argument) 10} :
    storeParams v = .ok params ↔ v.tail.length ≤ 10 ∧
      params.elems = v.tail.map (fun w => some (c_str w)) ++ List.replicate (10 - v.tail.length) none := by
  rw [storeParams, CArray.storeFrom_eq_ok (Nat.zero_le 10)]
  simp only [List.length_map, Nat.zero_add, List.take_zero, List.nil_append, CArray.fill, List.drop_replicate]

theorem returns_storeParams {v : List Text} (h : v.tail.length ≤ 10) : Returns (storeParams v) := by
  refine (CArray.returns_storeFrom_iff (Nat.zero_le 10)).2 ?_
  rw [List.length_map, Nat.zero_add]
  exact h

/-- With a null pointer behind them the words are counted, and without one the loop runs out of the
array. -/
theorem countParams_stored {v : List Text} {params : CArray (Option Argument) 10}
    (h : storeParams v = .ok params) :
    countParams params = if v.tail.length < 10 then .ok v.tail.length else .error .memory := by
  obtain ⟨hlen, helems⟩ := storeParams_eq_ok.1 h
  have hsome : ∀ x ∈ v.tail.map (fun w => some (c_str w)), Option.isSome x = true := by
    intro x hx
    obtain ⟨w, -, rfl⟩ := List.mem_map.1 hx
    rfl
  rw [countParams, CArray.scan, helems]
  by_cases hroom : v.tail.length < 10
  · obtain ⟨k, hk⟩ := Nat.exists_eq_add_of_lt hroom
    have hk' : 10 - v.tail.length = k + 1 := by omega
    rw [if_pos hroom, hk', List.replicate_succ, CArray.scanList_stops hsome rfl, List.length_map]
  · have hfull : 10 - v.tail.length = 0 := by omega
    rw [if_neg hroom, hfull, List.replicate_zero, List.append_nil]
    exact CArray.scanList_runs_out hsome

/-- **The words of a line fit the array exactly when the line has fewer than ten blanks.**  The
tenth word after the first leaves no null pointer, and the eleventh is stored behind the array. -/
theorem params_handled_iff (line : Text) : ParamsHandled line ↔ line.count 32 < 10 := by
  have hlen := length_str2vec_tail line 32
  constructor
  · rintro ⟨params, hparams, -, hcount⟩
    rw [countParams_stored hparams] at hcount
    split at hcount
    · omega
    · cases hcount
  · intro hblanks
    have hfits : (str2vec line 32).tail.length ≤ 10 := by omega
    obtain ⟨params, hparams⟩ := returns_storeParams hfits
    refine ⟨params, hparams, ?_, ?_⟩
    · rw [(storeParams_eq_ok.1 hparams).2]
      exact List.mem_append_right _ (List.mem_replicate.2 ⟨by omega, rfl⟩)
    · rw [countParams_stored hparams, if_pos (by omega)]

/-- Ten words after the first, and the loop that counts them leaves the array. -/
theorem ten_arguments_run_out :
    (∃ r, rounds 1 (CArray.fill MAX_CMD_LEN 0) ⟨ascii "login a b c d e f g h i j\n", false⟩ = .ok [r] ∧
        r.handed = ascii "login a b c d e f g h i j" ∧ ¬ ParamsHandled r.handed) ∧
      ¬ ∀ line, ParamsHandled line := by
  have hnot : ¬ ParamsHandled (ascii "login a b c d e f g h i j") := by
    rintro ⟨params, hparams, -, hcount⟩
    rw [countParams_stored hparams] at hcount
    exact absurd hcount (by decide)
  refine ⟨⟨⟨ascii "login a b c d e f g h i j\n", ascii "login a b c d e f g h i j"⟩, ?_, rfl, hnot⟩,
    fun h => hnot (h _)⟩
  obtain ⟨cmds', hrun⟩ := @readCommand_of_cstr (CArray.fill MAX_CMD_LEN 0)
    ⟨ascii "login a b c d e f g h i j\n", false⟩ ⟨[], false⟩ _ (ascii "login a b c d e f g h i j") 10 rfl (by decide)
  rw [rounds, hrun]
  rfl

/-! ## The commands -/

/-- The classes of `s_my_cmds`. -/
inductive CmdImplClass where
  | help
  | login
  | logoutCmd
  | exiter
  | registCmd

def s_my_cmds : List (Text × CmdImplClass) :=
  [(ascii "help", .help), (ascii "?", .help), (ascii "login", .login), (ascii "logout", .logoutCmd),
    (ascii "exit", .exiter), (ascii "regist", .registCmd)]

def isLegalCmd (cmd : Text) : Bool := s_my_cmds.any fun entry => entry.1 = cmd

def getCmdImplClass (cmd : Text) : Option CmdImplClass :=
  (s_my_cmds.find? fun entry => entry.1 = cmd).map Prod.snd

/-- `params[i]`, used as a string. -/
def param (params : CArray (Option Argument) 10) (i : Nat) : C Argument := do
  deref (← params.load i)

/-- `getJsonStringFromParams` of a class with one parameter, up to its check. -/
def oneParam (params : CArray (Option Argument) 10) (command : Argument → Command) : C (Option Command) := do
  let i ← countParams params
  if i ≠ 1 then .ok none
  else
    let userName ← param params 0
    .ok (some (command userName))

/-- The same of a class with two. -/
def twoParams (params : CArray (Option Argument) 10) (command : Argument → Argument → Command) :
    C (Option Command) := do
  let i ← countParams params
  if i ≠ 2 then .ok none
  else
    let userName ← param params 0
    let passWord ← param params 1
    .ok (some (command userName passWord))

/-- What `processCommandLine` of the class sends, unless it only prints a text. -/
def CmdImplClass.processCommandLine (params : CArray (Option Argument) 10) :
    CmdImplClass → C (Option Command)
  | help => .ok none
  | login => twoParams params .login
  | logoutCmd => oneParam params .logout
  | exiter => oneParam params .exit
  | registCmd => twoParams params .regist

def processCmd (cmd : Text) (params : CArray (Option Argument) 10) : C (Option Command) :=
  match getCmdImplClass cmd with
  | none => .ok none
  | some cmdImplClass => cmdImplClass.processCommandLine params

/-- The rest of a round.  An empty line is passed over, and an illegal command is answered by the
help text. -/
def processLine (cmds : Text) : C (Option Command) :=
  match str2vec cmds 32 with
  | [] => .ok none
  | cmd :: args => do
    let params ← storeParams (cmd :: args)
    if isLegalCmd cmd then processCmd cmd params else .ok none

section

variable {v : List Text} {params : CArray (Option Argument) 10} {u p : Argument} {cmd : Text}

theorem c_str_text (u : Argument) : c_str u.text = u := by
  obtain ⟨text, noNul⟩ := u
  simp only [c_str, cstr_eq_self noNul]

theorem param_stored {w : Text} {i : Nat} (h : storeParams v = .ok params) (hw : v.tail[i]? = some w) :
    param params i = .ok (c_str w) := by
  obtain ⟨-, helems⟩ := storeParams_eq_ok.1 h
  have hi : i < (v.tail.map fun w => some (c_str w)).length := by
    rw [List.length_map]
    exact (List.getElem?_eq_some_iff.1 hw).1
  have hget : params.elems[i]? = some (some (c_str w)) := by
    rw [helems, List.getElem?_append_left hi, List.getElem?_map, hw]
    rfl
  simp only [param, CArray.load, hget, ok_bind, deref_some]

theorem oneParam_stored (command : Argument → Command) (h : storeParams [cmd, u.text] = .ok params) :
    oneParam params command = .ok (some (command u)) := by
  have hcount : countParams params = .ok 1 := countParams_stored h
  have h₀ : param params 0 = .ok (c_str u.text) := param_stored h rfl
  rw [oneParam, hcount, ok_bind, if_neg (by decide), h₀, ok_bind, c_str_text]

theorem twoParams_stored (command : Argument → Argument → Command)
    (h : storeParams [cmd, u.text, p.text] = .ok params) :
    twoParams params command = .ok (some (command u p)) := by
  have hcount : countParams params = .ok 2 := countParams_stored h
  have h₀ : param params 0 = .ok (c_str u.text) := param_stored h rfl
  have h₁ : param params 1 = .ok (c_str p.text) := param_stored h rfl
  rw [twoParams, hcount, ok_bind, if_neg (by decide), h₀, ok_bind, h₁, ok_bind, c_str_text, c_str_text]

end

namespace Command

/-- The line that is typed for a command. -/
def words : Command → List Text
  | regist u p => [ascii "regist", u.text, p.text]
  | login u p => [ascii "login", u.text, p.text]
  | logout u => [ascii "logout", u.text]
  | exit u => [ascii "exit", u.text]

theorem words_ne_nil (cmd : Command) : cmd.words ≠ [] := by
  cases cmd <;> exact nofun

theorem words_ne_singleton (cmd : Command) : cmd.words ≠ [[]] := by
  cases cmd <;> exact nofun

theorem length_words_tail (cmd : Command) : cmd.words.tail.length ≤ 10 := by
  cases cmd <;> simp only [words, List.tail_cons, List.length_cons, List.length_nil] <;> decide

/-- The class of the command and its parameters. -/
theorem processCmd_words {params : CArray (Option Argument) 10} (cmd : Command)
    (h : storeParams cmd.words = .ok params) :
    ∃ name args, cmd.words = name :: args ∧ isLegalCmd name = true ∧
      processCmd name params = .ok (some cmd) := by
  cases cmd with
  | regist u p => exact ⟨_, _, rfl, rfl, twoParams_stored .regist h⟩
  | login u p => exact ⟨_, _, rfl, rfl, twoParams_stored .login h⟩
  | logout u => exact ⟨_, _, rfl, rfl, oneParam_stored .logout h⟩
  | exit u => exact ⟨_, _, rfl, rfl, oneParam_stored .exit h⟩

/-- A command is performed as it was typed, as long as there are no blanks within its words. -/
theorem processLine_words (cmd : Command) (h : ∀ w ∈ cmd.words, 32 ∉ w) :
    processLine ([32].intercalate cmd.words) = .ok (some cmd) := by
  have hsplit := List.splitOn_intercalate 32 h cmd.words_ne_nil
  have hline : [32].intercalate cmd.words ≠ [] := by
    intro hnil
    rw [hnil, List.splitOn_nil] at hsplit
    exact absurd hsplit cmd.words_ne_singleton.symm
  obtain ⟨params, hparams⟩ := returns_storeParams cmd.length_words_tail
  obtain ⟨name, args, hcons, hlegal, hcmd⟩ := processCmd_words cmd hparams
  have hwords : str2vec ([32].intercalate cmd.words) 32 = name :: args := by
    rw [str2vec_eq hline, hsplit, hcons]
  rw [hcons] at hparams
  simp only [processLine, hwords, hparams, ok_bind, hlegal, if_true, hcmd]

end Command

section

variable {v : List Text} {params : CArray (Option Argument) 10}

theorem returns_oneParam (h : storeParams v = .ok params) (hv : v.tail.length < 10)
    (command : Argument → Command) : Returns (oneParam params command) := by
  rw [oneParam, countParams_stored h, if_pos hv, ok_bind]
  by_cases hone : v.tail.length = 1
  · obtain ⟨u, hu⟩ := List.length_eq_one_iff.1 hone
    have h₀ : param params 0 = .ok (c_str u) := param_stored h (by rw [hu]; rfl)
    rw [if_neg (not_not.2 hone), h₀]
    exact returns_ok _
  · rw [if_pos hone]
    exact returns_ok _

theorem returns_twoParams (h : storeParams v = .ok params) (hv : v.tail.length < 10)
    (command : Argument → Argument → Command) : Returns (twoParams params command) := by
  rw [twoParams, countParams_stored h, if_pos hv, ok_bind]
  by_cases htwo : v.tail.length = 2
  · obtain ⟨u, p, hu⟩ := List.length_eq_two.1 htwo
    have h₀ : param params 0 = .ok (c_str u) := param_stored h (by rw [hu]; rfl)
    have h₁ : param params 1 = .ok (c_str p) := param_stored h (by rw [hu]; rfl)
    rw [if_neg (not_not.2 htwo), h₀, ok_bind, h₁]
    exact returns_ok _
  · rw [if_pos htwo]
    exact returns_ok _

theorem CmdImplClass.returns_processCommandLine (h : storeParams v = .ok params) (hv : v.tail.length < 10)
    (cmdImplClass : CmdImplClass) : Returns (cmdImplClass.processCommandLine params) := by
  cases cmdImplClass with
  | help => exact returns_ok _
  | login => exact returns_twoParams h hv _
  | logoutCmd => exact returns_oneParam h hv _
  | exiter => exact returns_oneParam h hv _
  | registCmd => exact returns_twoParams h hv _

end

/-- A round on a line with fewer than ten blanks ends, whatever the line is. -/
theorem returns_processLine {line : Text} (h : line.count 32 < 10) : Returns (processLine line) := by
  have hlen := length_str2vec_tail line 32
  unfold processLine
  cases hwords : str2vec line 32 with
  | nil => exact returns_ok _
  | cons cmd args =>
    rw [hwords] at hlen
    obtain ⟨params, hparams⟩ : Returns (storeParams (cmd :: args)) := returns_storeParams (by omega)
    simp only [hparams, ok_bind, processCmd]
    split
    · cases getCmdImplClass cmd with
      | none => exact returns_ok _
      | some cmdImplClass => exact cmdImplClass.returns_processCommandLine hparams (by omega)
    · exact returns_ok _

end SingleTerminalLogin
