import SingleTerminalLogin.Lib.ByteText
import SingleTerminalLogin.Lib.CProgram

/-!
# Arrays of a fixed size

A C array has the size it was declared with, and an access outside of it is not
checked by anybody: here it is a fault.

* `store`, `copy` — one element, and a run of them, with `returns_store_iff` and
  `returns_copy_iff`;
* `storeFrom` — a loop of stores;
* `scan` — a loop that runs up to the first element of a kind;
* `string` — the C string in an array of bytes, with `string_terminate` for bytes that
  were copied in and ended.
-/

namespace CProgram

open ByteText

/-- An array of `n` elements. -/
structure CArray (α : Type) (n : Nat) where
  elems : List α
  length_eq : elems.length = n

namespace CArray

variable {α : Type} {n : Nat}

theorem ext_elems {a b : CArray α n} (h : a.elems = b.elems) : a = b := by
  cases a
  cases b
  cases h
  rfl

/-- `T a[n] = {x, .., x}`. -/
def fill (n : Nat) (x : α) : CArray α n := ⟨List.replicate n x, List.length_replicate⟩

/-! ## Storing -/

/-- `a[i] = x`. -/
def store (a : CArray α n) (i : Int) (x : α) : C (CArray α n) :=
  if 0 ≤ i ∧ i < n then .ok ⟨a.elems.set i.toNat x, List.length_set.trans a.length_eq⟩
  else .error .memory

/-- `a[i]`. -/
def load (a : CArray α n) (i : Nat) : C α :=
  match a.elems[i]? with
  | some x => .ok x
  | none => .error .memory

/-- `memcpy(a + i, xs, ..)`. -/
def copy (a : CArray α n) (i : Nat) (xs : List α) : C (CArray α n) :=
  if h : i + xs.length ≤ n then
    .ok ⟨a.elems.take i ++ (xs ++ a.elems.drop (i + xs.length)), by
      simp only [List.length_append, List.length_take, List.length_drop, a.length_eq]
      omega⟩
  else .error .memory

section

variable {a b : CArray α n} {i : Int} {k : Nat} {x : α} {xs : List α}

theorem store_eq_ok : a.store i x = .ok b ↔ 0 ≤ i ∧ i < n ∧ b.elems = a.elems.set i.toNat x := by
  unfold store
  by_cases h : 0 ≤ i ∧ i < n
  · rw [if_pos h, Except.ok.injEq]
    constructor
    · rintro rfl
      exact ⟨h.1, h.2, rfl⟩
    · rintro ⟨-, -, hb⟩
      exact ext_elems hb.symm
  · rw [if_neg h]
    exact iff_of_false nofun fun hb => h ⟨hb.1, hb.2.1⟩

theorem returns_store_iff : Returns (a.store i x) ↔ 0 ≤ i ∧ i < n := by
  constructor
  · rintro ⟨b, hb⟩
    obtain ⟨h0, hn, -⟩ := store_eq_ok.1 hb
    exact ⟨h0, hn⟩
  · intro h
    exact ⟨_, if_pos h⟩

theorem store_outside (h : ¬ (0 ≤ i ∧ i < n)) : a.store i x = .error .memory := if_neg h

theorem copy_eq_ok : a.copy k xs = .ok b ↔
    k + xs.length ≤ n ∧ b.elems = a.elems.take k ++ (xs ++ a.elems.drop (k + xs.length)) := by
  unfold copy
  by_cases h : k + xs.length ≤ n
  · rw [dif_pos h, Except.ok.injEq]
    constructor
    · rintro rfl
      exact ⟨h, rfl⟩
    · rintro ⟨-, hb⟩
      exact ext_elems hb.symm
  · rw [dif_neg h]
    exact iff_of_false nofun fun hb => h hb.1

theorem returns_copy_iff : Returns (a.copy k xs) ↔ k + xs.length ≤ n := by
  constructor
  · rintro ⟨b, hb⟩
    exact (copy_eq_ok.1 hb).1
  · intro h
    exact ⟨_, dif_pos h⟩

end

/-- A loop that stores `xs` from index `i` on. -/
def storeFrom (a : CArray α n) (i : Nat) : List α → C (CArray α n)
  | [] => .ok a
  | x :: xs => do
    let a ← a.store i x
    storeFrom a (i + 1) xs

/-- After a store, what comes up to the element and what comes behind it. -/
theorem take_set_succ {xs : List α} {i : Nat} (h : i < xs.length) (x : α) :
    (xs.set i x).take (i + 1) = xs.take i ++ [x] := by
  have hget : (xs.set i x)[i]? = some x := by
    rw [List.getElem?_set_self h]
  rw [List.take_add_one, hget, List.take_set_of_le (le_refl i)]
  rfl

/-- The loop stays inside exactly when there is room for all of its elements. -/
theorem storeFrom_eq_ok {a b : CArray α n} {i : Nat} {xs : List α} (hi : i ≤ n) :
    a.storeFrom i xs = .ok b ↔
      i + xs.length ≤ n ∧ b.elems = a.elems.take i ++ (xs ++ a.elems.drop (i + xs.length)) := by
  induction xs generalizing a i with
  | nil =>
    rw [storeFrom, Except.ok.injEq, List.nil_append, List.length_nil, Nat.add_zero, List.take_append_drop]
    constructor
    · rintro rfl
      exact ⟨hi, rfl⟩
    · rintro ⟨-, hb⟩
      exact ext_elems hb.symm
  | cons x xs ih =>
    have hstep : ∀ a' : CArray α n, i < n → a'.elems = a.elems.set i x →
        a'.elems.take (i + 1) ++ (xs ++ a'.elems.drop (i + 1 + xs.length)) =
          a.elems.take i ++ (x :: xs ++ a.elems.drop (i + (xs.length + 1))) := by
      intro a' hin ha'
      have hindex : i + 1 + xs.length = i + (xs.length + 1) := by omega
      rw [ha', take_set_succ (a.length_eq.symm ▸ hin), List.drop_set_of_lt (by omega), List.append_assoc,
        hindex]
      rfl
    rw [storeFrom, bind_eq_ok, List.length_cons]
    constructor
    · rintro ⟨a', ha', hb⟩
      obtain ⟨-, hin, ha'⟩ := store_eq_ok.1 ha'
      obtain ⟨hlen, hb⟩ := (ih (by omega)).1 hb
      exact ⟨by omega, hb.trans (hstep a' (by omega) ha')⟩
    · rintro ⟨hlen, hb⟩
      have hin : 0 ≤ (i : Int) ∧ (i : Int) < n := by omega
      obtain ⟨a', ha'⟩ : Returns (a.store i x) := returns_store_iff.2 hin
      refine ⟨a', ha', (ih (by omega)).2 ⟨by omega, ?_⟩⟩
      rw [hb, hstep a' (by omega) (store_eq_ok.1 ha').2.2]

theorem returns_storeFrom_iff {a : CArray α n} {i : Nat} {xs : List α} (hi : i ≤ n) :
    Returns (a.storeFrom i xs) ↔ i + xs.length ≤ n := by
  constructor
  · rintro ⟨b, hb⟩
    exact ((storeFrom_eq_ok hi).1 hb).1
  · intro hroom
    obtain ⟨b, hb⟩ : Returns (a.copy i xs) := returns_copy_iff.2 hroom
    exact ⟨b, (storeFrom_eq_ok hi).2 (copy_eq_ok.1 hb)⟩

/-! ## Scanning -/

/-- `for(; p(*x); ++x){}`: how far it runs. -/
def scanList (p : α → Bool) : List α → C Nat
  | [] => .error .memory
  | x :: xs => if p x then (scanList p xs).map (· + 1) else .ok 0

/-- `for(; p(a[i]); ++i){}`, from the first element on. -/
def scan (p : α → Bool) (a : CArray α n) : C Nat := scanList p a.elems

theorem scanList_stops {p : α → Bool} {xs rest : List α} {y : α} (hxs : ∀ x ∈ xs, p x = true)
    (hy : p y = false) : scanList p (xs ++ y :: rest) = .ok xs.length := by
  induction xs with
  | nil =>
    rw [List.nil_append, scanList, hy]
    rfl
  | cons x xs ih =>
    rw [List.cons_append, scanList, if_pos (hxs x List.mem_cons_self), ih fun z hz => hxs z (List.mem_cons_of_mem x hz)]
    rfl

theorem scanList_runs_out {p : α → Bool} {xs : List α} (hxs : ∀ x ∈ xs, p x = true) :
    scanList p xs = .error .memory := by
  induction xs with
  | nil => rfl
  | cons x xs ih =>
    rw [scanList, if_pos (hxs x List.mem_cons_self), ih fun z hz => hxs z (List.mem_cons_of_mem x hz)]
    rfl

/-! ## Strings -/

theorem cstr_append_zero (t rest : Text) : cstr (t ++ 0 :: rest) = cstr t := by
  induction t with
  | nil => rfl
  | cons c t ih =>
    by_cases hc : c = 0
    · simp [cstr, hc]
    · simpa [cstr, hc] using ih

theorem exists_eq_cstr_append {t : Text} (h : 0 ∈ t) : ∃ rest, t = cstr t ++ 0 :: rest := by
  induction t with
  | nil => cases h
  | cons c t ih =>
    by_cases hc : c = 0
    · exact ⟨t, by simp [cstr, hc]⟩
    · obtain ⟨rest, hrest⟩ := ih ((List.mem_cons.1 h).resolve_left (Ne.symm hc))
      refine ⟨rest, ?_⟩
      conv_lhs => rw [hrest]
      simp [cstr, hc]

section

variable {a b c : CArray Byte n} {t : Text}

/-- The C string in an array of bytes. -/
def string (a : CArray Byte n) : Text := cstr a.elems

/-- `strlen(a)`. -/
def strlen (a : CArray Byte n) : C Nat := a.scan (· ≠ 0)

theorem strlen_eq (h : 0 ∈ a.elems) : a.strlen = .ok a.string.length := by
  obtain ⟨rest, hrest⟩ := exists_eq_cstr_append h
  rw [strlen, scan, string]
  conv_lhs => rw [hrest]
  exact scanList_stops (fun x hx => decide_eq_true (cstr_noNul a.elems x hx)) rfl

/-- The last byte of a string is cut off by a zero in its place. -/
theorem string_store_last {s : Text} {x : Byte} (h : a.string = s ++ [x]) :
    ∃ b : CArray Byte n, a.store s.length 0 = .ok b ∧ b.string = s := by
  have hsplit : a.elems = s ++ x :: a.elems.dropWhile (· ≠ 0) := by
    rw [← List.singleton_append, ← List.append_assoc, ← h]
    exact List.takeWhile_append_dropWhile.symm
  have hlen : s.length < n := by
    rw [← a.length_eq, hsplit, List.length_append, List.length_cons]
    omega
  have hinside : 0 ≤ (s.length : Int) ∧ (s.length : Int) < n := by omega
  obtain ⟨b, hb⟩ : Returns (a.store s.length 0) := returns_store_iff.2 hinside
  have hnul : NoNul s := by
    intro c hc
    have hmem : c ∈ a.string := by
      rw [h]
      exact List.mem_append_left [x] hc
    exact cstr_noNul a.elems c hmem
  refine ⟨b, hb, ?_⟩
  obtain ⟨-, -, helems⟩ := store_eq_ok.1 hb
  rw [string, helems, hsplit, Int.toNat_natCast, List.set_append_right _ _ le_rfl, Nat.sub_self,
    List.set_cons_zero, cstr_append_zero, cstr_eq_self hnul]

/-- Bytes that are copied in and ended are the string up to their first zero. -/
theorem string_terminate (hb : a.copy 0 t = .ok b) (hc : b.store t.length 0 = .ok c) :
    c.string = cstr t ∧ 0 ∈ c.elems := by
  obtain ⟨-, hb⟩ := copy_eq_ok.1 hb
  obtain ⟨-, hin, hc⟩ := store_eq_ok.1 hc
  have hlen : t.length < b.elems.length := by
    rw [b.length_eq]
    omega
  have hfront : b.elems.take t.length = t := by
    rw [hb, List.take_zero, List.nil_append, List.take_left]
  have hset : c.elems = t ++ 0 :: c.elems.drop (t.length + 1) := by
    rw [← List.singleton_append, ← List.append_assoc]
    conv_lhs => rw [← List.take_append_drop (t.length + 1) c.elems]
    rw [hc, Int.toNat_natCast, take_set_succ hlen, hfront]
  rw [string, hset]
  exact ⟨cstr_append_zero t _, List.mem_append_right t List.mem_cons_self⟩

end

end CArray

end CProgram
