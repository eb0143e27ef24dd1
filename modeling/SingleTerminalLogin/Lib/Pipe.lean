import Mathlib

/-!
# Streams without frames

What one side writes piece by piece, the other side reads in other pieces.  A `Pipe`
keeps the writes apart, which the reader cannot see, and counts what has been read.

* `Pipe.returned` — what a read of that many elements returns;
* `Pipe.offset` — where a write starts;
* `Pipe.Finishes`, `Pipe.Whole` — a read returns the last element of a write; it returns
  the write, all of it and nothing else;
* `Pipe.whole_of_returned` — a read that finishes a write and looks like it is that
  write, if the write cannot overlap with itself;
* `Pipe.Relays` — a process that takes one write after the other and passes each on.
-/

/-- A stream: what has been written to it, and how many elements have been read. -/
structure Pipe (α : Type) where
  written : List (List α) := []
  taken : Nat := 0

/-- A text that does not start inside itself. -/
def Unbordered {α : Type} (w : List α) : Prop :=
  ∀ d < w.length, 0 < d → w.drop d ≠ w.take (w.length - d)

instance {α : Type} [DecidableEq α] (w : List α) : Decidable (Unbordered w) :=
  inferInstanceAs (Decidable (∀ d < w.length, 0 < d → w.drop d ≠ w.take (w.length - d)))

namespace Pipe

variable {α : Type}

section

variable (s : Pipe α)

/-- Everything that has been written, as the reader sees it. -/
def content : List α := s.written.flatten

/-- What has not been read yet. -/
def unread : List α := s.content.drop s.taken

/-- What a read of `k` elements returns. -/
def returned (k : Nat) : List α := s.unread.take k

/-- A write. -/
def write (w : List α) : Pipe α := { s with written := s.written ++ [w] }

/-- A read of `k` elements. -/
def read (k : Nat) : Pipe α := { s with taken := s.taken + k }

/-- Where the write of that number starts. -/
def offset (i : Nat) : Nat := (s.written.take i).flatten.length

/-- A read of `k` elements returns the last one of that write. -/
def Finishes (k i : Nat) : Prop := s.taken < s.offset (i + 1) ∧ s.offset (i + 1) ≤ s.taken + k

/-- A read of `k` elements returns that write and nothing else. -/
def Whole (k i : Nat) : Prop := s.taken = s.offset i ∧ s.taken + k = s.offset (i + 1)

/-- No more has been read than was written. -/
def Valid : Prop := s.taken ≤ s.content.length

instance (k i : Nat) : Decidable (s.Finishes k i) :=
  inferInstanceAs (Decidable (_ ∧ _))

instance (k i : Nat) : Decidable (s.Whole k i) :=
  inferInstanceAs (Decidable (_ ∧ _))

end

section

variable {s : Pipe α} {w : List α} {i k : Nat}

@[simp] theorem taken_write : (s.write w).taken = s.taken := rfl

@[simp] theorem written_write : (s.write w).written = s.written ++ [w] := rfl

@[simp] theorem taken_read : (s.read k).taken = s.taken + k := rfl

@[simp] theorem written_read : (s.read k).written = s.written := rfl

@[simp] theorem offset_read : (s.read k).offset i = s.offset i := rfl

@[simp] theorem content_read : (s.read k).content = s.content := rfl

theorem content_write : (s.write w).content = s.content ++ w := by
  simp [content]

/-! ## Where the writes are -/

@[simp] theorem offset_zero : s.offset 0 = 0 := rfl

theorem offset_length : s.offset s.written.length = s.content.length := by
  rw [offset, List.take_length, content]

theorem offset_write (hi : i ≤ s.written.length) : (s.write w).offset i = s.offset i := by
  rw [offset, written_write, List.take_append_of_le_length hi, offset]

theorem offset_succ (h : s.written[i]? = some w) : s.offset (i + 1) = s.offset i + w.length := by
  rw [offset, offset, List.take_add_one, h]
  simp

/-- From where a write starts, there is the write and then the rest. -/
theorem drop_offset (h : s.written[i]? = some w) :
    s.content.drop (s.offset i) = w ++ (s.written.drop (i + 1)).flatten := by
  obtain ⟨hlt, hw⟩ := List.getElem?_eq_some_iff.1 h
  have hsplit : s.content = (s.written.take i).flatten ++ (w ++ (s.written.drop (i + 1)).flatten) := by
    rw [content, ← List.flatten_cons, ← hw, ← List.drop_eq_getElem_cons hlt, ← List.flatten_append,
      List.take_append_drop]
  rw [hsplit, offset, List.drop_left]

theorem Valid.write (h : s.Valid) (w : List α) : (s.write w).Valid := by
  rw [Valid, content_write, List.length_append]
  exact le_trans h (Nat.le_add_right ..)

theorem Valid.read (h : s.Valid) (hk : k ≤ s.unread.length) : (s.read k).Valid := by
  rw [unread, List.length_drop] at hk
  have hs : s.taken ≤ s.content.length := h
  show s.taken + k ≤ s.content.length
  omega

/-! ## Reads and writes -/

/-- A read of a whole write returns it. -/
theorem Whole.returned (hwhole : s.Whole k i) (h : s.written[i]? = some w) : s.returned k = w := by
  obtain ⟨hstart, hend⟩ := hwhole
  rw [offset_succ h, ← hstart] at hend
  have hk : k = w.length := by omega
  rw [Pipe.returned, unread, hstart, drop_offset h, hk, List.take_left]

/-- A read that finishes a write and returns the same is a read of this write. -/
theorem whole_of_returned (hw : Unbordered w) (h : s.written[i]? = some w) (hfin : s.Finishes k i)
    (hk : k ≤ s.unread.length) (hret : s.returned k = w) : s.Whole k i := by
  obtain ⟨hbefore, hafter⟩ := hfin
  rw [offset_succ h] at hbefore hafter
  have hlen : k = w.length := by
    rw [← hret, Pipe.returned, List.length_take_of_le hk]
  have hge : s.offset i ≤ s.taken := by omega
  obtain ⟨d, hd⟩ := Nat.exists_eq_add_of_le hge
  have hzero : d = 0 := by
    by_contra hne
    -- the read would start inside the write and see it again
    have hshift : s.unread = w.drop d ++ (s.written.drop (i + 1)).flatten := by
      rw [unread, hd, ← List.drop_drop, drop_offset h, List.drop_append_of_le_length (by omega)]
    refine hw d (by omega) (by omega) ?_
    have hpre := congrArg (List.take (w.length - d)) hret
    rw [Pipe.returned, hshift, List.take_take, hlen, Nat.min_eq_left (Nat.sub_le ..),
      List.take_append_of_le_length (by rw [List.length_drop]), List.take_of_length_le] at hpre
    · exact hpre
    · rw [List.length_drop]
  rw [hzero] at hd
  refine ⟨hd, ?_⟩
  rw [offset_succ h, hd, hlen]
  rfl

/-! ## One write after the other -/

theorem offset_mono {j : Nat} (hij : i ≤ j) : s.offset i ≤ s.offset j := by
  rw [offset, offset, ← Nat.add_sub_of_le hij, List.take_add, List.flatten_append,
    List.length_append]
  exact Nat.le_add_right ..

theorem Whole.lt_length (hwhole : s.Whole k i) (hk : 0 < k) : i < s.written.length := by
  obtain ⟨hstart, hend⟩ := hwhole
  by_contra hlt
  have hsame : s.offset (i + 1) = s.offset i := by
    rw [offset, offset, List.take_of_length_le (by omega), List.take_of_length_le (by omega)]
  omega

/-- A reader that has taken `n` writes takes one of the later ones next. -/
theorem Whole.le_index (hwhole : s.Whole k i) (hk : 0 < k) {n : Nat} (hn : s.taken = s.offset n) :
    n ≤ i := by
  obtain ⟨-, hend⟩ := hwhole
  by_contra hlt
  have hmono : s.offset (i + 1) ≤ s.offset n := offset_mono (by omega)
  omega

/-- It takes the next one if there is no other. -/
theorem Whole.index_of_le (hwhole : s.Whole k i) (hk : 0 < k) {n : Nat} (hn : s.taken = s.offset n)
    (hone : s.written.length ≤ n + 1) : i = n := by
  have hge := hwhole.le_index hk hn
  have hlt := hwhole.lt_length hk
  omega

/-- It takes the next one if that is not empty. -/
theorem Whole.index_of_ne_nil (hwhole : s.Whole k i) (hk : 0 < k) {n : Nat}
    (hn : s.taken = s.offset n) (hne : ∀ w ∈ s.written, w ≠ []) : i = n := by
  have hge := hwhole.le_index hk hn
  have hlt := hwhole.lt_length hk
  by_contra hother
  have hnext : n < s.written.length := by omega
  have hpos := List.length_pos_iff.2 (hne _ (List.getElem_mem hnext))
  have hmono : s.offset (n + 1) ≤ s.offset i := offset_mono (by omega)
  rw [offset_succ (List.getElem?_eq_getElem hnext)] at hmono
  obtain ⟨hstart, -⟩ := hwhole
  omega

/-- A reader that has taken `n` writes and has nothing left to read has taken them all, if
none is empty. -/
theorem length_le_of_unread {n : Nat} (hn : s.taken = s.offset n) (hne : ∀ w ∈ s.written, w ≠ [])
    (hunread : s.unread = []) : s.written.length ≤ n := by
  by_contra hmore
  have hlt : n < s.written.length := by omega
  have hpos := List.length_pos_iff.2 (hne _ (List.getElem_mem hlt))
  have hmono : s.offset (n + 1) ≤ s.offset s.written.length := offset_mono hlt
  rw [offset_succ (List.getElem?_eq_getElem hlt), offset_length] at hmono
  have hall := List.drop_eq_nil_iff.1 hunread
  omega

/-- A process has taken one write after the other and has passed each on as `f` of it.
While it is alive, the next write is the first one it has not passed on. -/
structure Relays {β : Type} (f : List α → Option β) (s : Pipe α) (out : List β) (alive : Prop) :
    Prop where
  outputs : out.map some = (s.written.take out.length).map f
  next : alive → s.taken = s.offset out.length

namespace Relays

variable {β : Type} {f : List α → Option β} {out : List β} {alive : Prop}

theorem length_le (h : Relays f s out alive) : out.length ≤ s.written.length := by
  have hlen := congrArg List.length h.outputs
  rw [List.length_map, List.length_map, List.length_take] at hlen
  omega

/-- More is written. -/
theorem write (h : Relays f s out alive) (w : List α) : Relays f (s.write w) out alive where
  outputs := by
    rw [written_write, List.take_append_of_le_length h.length_le]
    exact h.outputs
  next ha := by
    rw [taken_write, offset_write h.length_le]
    exact h.next ha

/-- The next write is taken and passed on. -/
theorem pass (h : Relays f s out alive) (hwhole : s.Whole k out.length) {b : β}
    (hw : s.written[out.length]? = some w) (hb : f w = some b) :
    Relays f (s.read k) (out ++ [b]) alive where
  outputs := by
    rw [List.map_append, h.outputs, List.length_append, List.length_singleton, written_read,
      List.take_add_one, hw, List.map_append]
    simp [hb]
  next _ := by
    rw [List.length_append, List.length_singleton, taken_read, offset_read]
    exact hwhole.2

/-- The process dies, whatever it has read. -/
theorem dies (h : Relays f s out alive) (k : Nat) {alive' : Prop} (hdead : ¬ alive') :
    Relays f (s.read k) out alive' := ⟨h.outputs, fun ha => absurd ha hdead⟩

theorem imp (h : Relays f s out alive) {alive' : Prop} (himp : alive' → alive) :
    Relays f s out alive' := ⟨h.outputs, fun ha => h.next (himp ha)⟩

/-- What passes on the outputs passes on the inputs, by both functions. -/
theorem outputs_comp {γ : Type} {g : β → Option γ} {out' : List γ} (h : Relays f s out alive)
    (h' : out'.map some = (out.take out'.length).map g) :
    out'.map some = (s.written.take out'.length).map fun w => (f w).bind g := by
  have hle : out'.length ≤ out.length := by
    have hlen := congrArg List.length h'
    rw [List.length_map, List.length_map, List.length_take] at hlen
    omega
  have hpre : (out.take out'.length).map some = (s.written.take out'.length).map f := by
    rw [List.map_take, h.outputs, ← List.map_take, List.take_take, Nat.min_eq_left hle]
  calc out'.map some = (out.take out'.length).map g := h'
    _ = ((out.take out'.length).map some).map fun b => b.bind g := by
      rw [List.map_map]
      rfl
    _ = (s.written.take out'.length).map fun w => (f w).bind g := by
      rw [hpre, List.map_map]
      rfl

end Relays

end

end Pipe
