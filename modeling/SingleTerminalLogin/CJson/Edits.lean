import SingleTerminalLogin.CJson.HeapParse
import SingleTerminalLogin.CJson.HeapPrinted
import SingleTerminalLogin.CJson.Members
import SingleTerminalLogin.CJson.Unlinking

/-!
# Whole programs over the library

What a program does that uses `cJSON` the way it is meant to be used: it parses or builds a tree,
changes it, prints it, and deletes it in the end.

* `reprint_memory` — a text that is parsed and printed again;
* `Edit` — a change of a tree the program owns; a tree may be built of others before it is added;
* `edits_memory` — a tree that is built by any changes and deleted: whichever calls of `malloc` fail,
  no block is used after it has been freed, none is freed twice, and none is left;
* `edits_print` — when none fails, the tree is the one the changes make of a tree, and prints so.
-/

namespace SingleTerminalLogin

open ByteText CProgram SepLogic HProp HeapM

namespace CJsonHeap

/-! ## Parsing and printing -/

/-- The text at a pointer is read and freed. -/
def takeText : Ptr → HeapM Block (Option Text)
  | none => pure none
  | some text => do
    let t ← getText text
    free text
    pure (some t)

/-- A tree is printed and deleted. -/
def printAndDelete (fmt : Bool) (item : Ptr) : HeapM Block (Option Text) := do
  let out ← print fmt item
  delete item
  takeText out

/-- A text is parsed, and printed again. -/
def reprint (fmt : Bool) (value : Text) : HeapM Block (Option Text) := do
  printAndDelete fmt (← parse value)

section

variable {g : Grants}

theorem takeText_spec (t : Text) (p : Ptr) :
    Triple g (printed g t p) (takeText p) fun r => fact (r = some t ∨ r = none ∧ Denied g) := by
  cases p with
  | none => exact Triple.pure (fact_mono fun hd => Or.inr ⟨rfl, hd⟩)
  | some a =>
    refine (getText_spec a t).bind fun r => Triple.fact_pre ?_
    rintro rfl
    refine (freePtr_spec (some a) (some r)).bind fun _ => Triple.pure ?_
    rw [fact_of (Or.inl rfl)]

theorem printAndDelete_spec {fmt : Bool} {c : CJson} {txt : Text}
    (h : CJson.printValue fmt 0 c = .ok txt) (a : Addr) :
    Triple g (itemAt c a none none) (printAndDelete fmt (some a)) fun r =>
      fact (r = some txt ∨ r = none ∧ Denied g) := by
  refine (print_spec h a none none).bind fun p => ?_
  refine (delete_item_spec c a none).step (mul_comm _ _) fun _ => ?_
  rw [one_mul]
  exact takeText_spec txt p

/-- Nothing is printed for the null pointer. -/
theorem printAndDelete_null {txt : Text} (fmt : Bool) :
    Triple g (fact (Denied g)) (printAndDelete fmt none) fun r =>
      fact (r = some txt ∨ r = none ∧ Denied g) := by
  have hprint : ∀ s, Reads g s (print fmt none) none := by
    intro s
    refine Reads.bind (a := s.brk) rfl ?_
    rw [printValue]
    exact Reads.pure none
  have hdelete : ∀ s, Reads g s (delete none) () := by
    intro s
    refine Reads.bind (a := s.brk) rfl ?_
    generalize s.brk = fuel
    cases fuel <;> exact Reads.pure ()
  refine Triple.of_run fun F s _ => ⟨pure none, ?_, Triple.pure (fact_mono fun hd => Or.inr ⟨rfl, hd⟩)⟩
  exact (hprint s).bind ((hdelete s).bind (Reads.pure none))

theorem reprint_spec {fmt : Bool} {value txt : Text} {c : CJson}
    (hparse : CJson.parse value = .ok (some c)) (hprint : CJson.printValue fmt 0 c = .ok txt) :
    Triple g 1 (reprint fmt value) fun r => fact (r = some txt ∨ r = none ∧ Denied g) := by
  refine (parse_spec hparse).bind fun p => ?_
  cases p with
  | none =>
    refine (printAndDelete_null fmt).weaken ?_ fun r => le_rfl
    rw [parsedRoot]
    exact fact_mono fun hd => hd.resolve_left (by simp)
  | some a =>
    refine Triple.exists_pre fun d => Triple.fact_pre ?_
    rintro ⟨⟩
    exact printAndDelete_spec hprint a

end

/-! ## Changing a tree -/

/-- A change of a tree the program owns. -/
inductive Edit where
  | addNumber (name : Text) (n : Int)
  | addString (name string : Text)
  /-- A tree that is built by changes of its own. -/
  | addObject (name : Text) (es : List Edit)
  | deleteAt (which : Int)
  | deleteNamed (name : Text)
  /-- An item is detached, and added again under another name. -/
  | moveNamed (name newName : Text)

mutual

/-- A change, over trees. -/
def Edit.apply : Edit → CJson → CJson
  | .addNumber name n, c => CJson.addNumberToObject c name n
  | .addString name string, c => CJson.addStringToObject c name string
  | .addObject name es, c => CJson.addItemToObject c name (Edit.applyAll es CJson.createObject) []
  | .deleteAt which, c => { c with child := c.child.eraseIdx which.toNat }
  | .deleteNamed name, c =>
    { c with child := c.child.takeWhile (fun d => !CJson.named name d) ++ (CJson.itemFrom c name).tail }
  | .moveNamed name newName, c =>
    match CJson.itemFrom c name with
    | [] => c
    | item :: next =>
      CJson.addItemToObject
        { c with child := c.child.takeWhile (fun d => !CJson.named name d) ++ next } newName item []

def Edit.applyAll : List Edit → CJson → CJson
  | [], c => c
  | e :: es, c => Edit.applyAll es (e.apply c)

end

mutual

/-- A change, by the functions of the library. -/
def Edit.perform : Edit → Addr → HeapM Block Unit
  | .addNumber name n, root => addNumberToObject (some root) name n
  | .addString name string, root => addStringToObject (some root) name string
  | .addObject name es, root => do
    match ← createObject with
    | none => pure ()
    | some item => do
      Edit.performAll es item
      addItemToObject (some root) name (some item)
  | .deleteAt which, root => deleteItemFromArray (some root) which
  | .deleteNamed name, root => deleteItemFromObject (some root) name
  | .moveNamed name newName, root => do
    let item ← detachItemFromObject (some root) name
    addItemToObject (some root) newName item

def Edit.performAll : List Edit → Addr → HeapM Block Unit
  | [], _ => pure ()
  | e :: es, root => do
    e.perform root
    Edit.performAll es root

end

/-- A tree is built by changes of an empty object. -/
def build (es : List Edit) : HeapM Block Ptr := do
  match ← createObject with
  | none => pure none
  | some root => do
    Edit.performAll es root
    pure (some root)

/-- A tree on its own, which is `c` if no memory was missing. -/
noncomputable def edited (g : Grants) (c : CJson) (a : Addr) : HProp Block :=
  ⨆ d : CJson, fact (¬ Denied g → d = c) * itemAt d a none none

section

variable {g : Grants}

theorem le_edited {P : HProp Block} {c d : CJson} {a : Addr} (h : ¬ Denied g → d = c)
    (hP : P ≤ itemAt d a none none) : P ≤ edited g c a :=
  le_iSup_of_le d (le_fact_mul h hP)

/-- A tree that is changed stays what it is if no memory is missing. -/
theorem edited_pre {α : Type} {P : HProp Block} {c : CJson} {a : Addr} {m : HeapM Block α}
    {Q : α → HProp Block}
    (h : ∀ d, (¬ Denied g → d = c) → Triple g (itemAt d a none none * P) m Q) :
    Triple g (edited g c a * P) m Q := by
  rw [edited, Quantale.iSup_mul_distrib]
  refine Triple.exists_pre fun d => ?_
  rw [mul_assoc]
  exact Triple.fact_pre (h d)

/-- An item the program owns is added. -/
theorem addItem_edited (c item : CJson) (name : Text) (a i : Addr) :
    Triple g (itemAt c a none none * edited g item i) (addItemToObject (some a) name (some i)) fun _ =>
      edited g (CJson.addItemToObject c name item []) a := by
  rw [mul_comm]
  refine edited_pre fun d hd => ?_
  rw [mul_comm, ← childrenAt_singleton d i none]
  refine (addItemToObject_spec c d name [] a i none none none fun _ => rfl).weaken le_rfl fun _ => ?_
  refine iSup_le fun t => fact_mul_le.2 fun ht => le_edited (fun hg => ?_) le_rfl
  rw [ht.eq_some hg, hd hg]
  rfl

/-- An item that could not be created is not added. -/
theorem addNull_edited (c c' : CJson) (name : Text) (a : Addr) :
    Triple g (fact (Denied g) * itemAt c a none none) (addItemToObject (some a) name none) fun _ =>
      edited g c' a :=
  Triple.fact_pre fun hd => Triple.pure (le_edited (fun hg => absurd hd hg) le_rfl)

/-- Adding a leaf that has just been created. -/
theorem addCreated_edited (c item : CJson) (name : Text) (a : Addr) {create : HeapM Block Ptr}
    (hcreate : Triple g 1 create (orNull g fun i => edited g item i)) :
    Triple g (itemAt c a none none) (create >>= addItemToObject (some a) name) fun _ =>
      edited g (CJson.addItemToObject c name item []) a := by
  refine hcreate.step (one_mul _).symm fun p => ?_
  cases p with
  | none => exact addNull_edited c _ name a
  | some i =>
    rw [mul_comm]
    exact addItem_edited c item name a i

theorem addNumber_edited (c : CJson) (name : Text) (n : Int) (a : Addr) :
    Triple g (itemAt c a none none) (addNumberToObject (some a) name n) fun _ =>
      edited g (CJson.addNumberToObject c name n) a := by
  refine addCreated_edited c (CJson.createNumber (Binary64.ofInt n)) name a ?_
  refine (createNumber_spec (Binary64.ofInt n)).weaken le_rfl fun p => ?_
  cases p with
  | none => exact le_rfl
  | some i => exact le_edited (fun _ => rfl) le_rfl

theorem addString_edited (c : CJson) (name string : Text) (a : Addr) :
    Triple g (itemAt c a none none) (addStringToObject (some a) name string) fun _ =>
      edited g (CJson.addStringToObject c name string) a := by
  refine addCreated_edited c (CJson.createString string) name a ?_
  refine (createString_spec string).weaken le_rfl fun p => ?_
  cases p with
  | none => exact le_rfl
  | some i =>
    refine iSup_le fun t => fact_mul_le.2 fun ht => le_edited (fun hg => ?_) le_rfl
    rw [ht.eq_some hg]
    rfl

theorem moveNamed_edited (c : CJson) (name newName : Text) (a : Addr) :
    Triple g (itemAt c a none none) (Edit.perform (.moveNamed name newName) a) fun _ =>
      edited g (Edit.apply (.moveNamed name newName) c) a := by
  rw [Edit.perform, Edit.apply]
  refine (detachItemFromObject_spec c name a none none).bind fun r => ?_
  cases hitem : CJson.itemFrom c name with
  | nil =>
    refine Triple.fact_pre ?_
    rintro rfl
    have hall : (c.child.takeWhile fun d => !CJson.named name d) = c.child := by
      have hsplit := List.takeWhile_append_dropWhile
        (p := fun d => !CJson.named name d) (l := c.child)
      rw [← CJson.itemFrom, hitem, List.append_nil] at hsplit
      exact hsplit
    rw [hall]
    exact Triple.pure (le_edited (fun _ => rfl) (by cases c; exact le_rfl))
  | cons item next =>
    refine Triple.exists_pre fun i => Triple.fact_pre ?_
    rintro rfl
    refine Triple.weaken (addItem_edited _ item newName a i) ?_ fun _ => le_rfl
    exact mul_le_mul' le_rfl (le_edited (fun _ => rfl) le_rfl)

mutual

/-- What a change does to the tree it is made to. -/
theorem perform_edited : (e : Edit) → ∀ (c : CJson) (a : Addr),
    Triple g (itemAt c a none none) (e.perform a) fun _ => edited g (e.apply c) a
  | .addNumber name n => by
    intro c a
    rw [Edit.perform, Edit.apply]
    exact addNumber_edited c name n a
  | .addString name string => by
    intro c a
    rw [Edit.perform, Edit.apply]
    exact addString_edited c name string a
  | .addObject name es => by
    intro c a
    rw [Edit.perform, Edit.apply]
    refine createObject_spec.step (one_mul _).symm fun p => ?_
    cases p with
    | none => exact Triple.fact_pre fun hd => Triple.pure (le_edited (fun hg => absurd hd hg) le_rfl)
    | some i =>
      refine (performAll_edited es CJson.createObject i).step rfl fun _ => ?_
      rw [mul_comm]
      exact addItem_edited c _ name a i
  | .deleteAt which => by
    intro c a
    rw [Edit.perform, Edit.apply]
    exact (deleteItemFromArray_spec c which a none none).weaken le_rfl fun _ =>
      le_edited (fun _ => rfl) le_rfl
  | .deleteNamed name => by
    intro c a
    rw [Edit.perform, Edit.apply]
    exact (deleteItemFromObject_spec c name a none none).weaken le_rfl fun _ =>
      le_edited (fun _ => rfl) le_rfl
  | .moveNamed name newName => fun c a => moveNamed_edited c name newName a

/-- What a row of changes does: by induction on the row, whatever became of the first one. -/
theorem performAll_edited : (es : List Edit) → ∀ (c : CJson) (a : Addr),
    Triple g (itemAt c a none none) (Edit.performAll es a) fun _ => edited g (Edit.applyAll es c) a
  | [] => by
    intro c a
    rw [Edit.performAll, Edit.applyAll]
    exact Triple.pure (le_edited (fun _ => rfl) le_rfl)
  | e :: es => by
    intro c a
    rw [Edit.performAll, Edit.applyAll]
    refine (perform_edited e c a).bind fun _ => Triple.exists_pre fun d => Triple.fact_pre fun hd => ?_
    refine (performAll_edited es d a).weaken le_rfl fun _ => iSup_le fun d' => fact_mul_le.2 fun hd' => ?_
    refine le_edited (fun hg => ?_) le_rfl
    rw [hd' hg, hd hg]

end

theorem build_spec (es : List Edit) :
    Triple g 1 (build es) (orNull g fun a => edited g (Edit.applyAll es CJson.createObject) a) := by
  refine createObject_spec.bind fun p => ?_
  cases p with
  | none => exact Triple.pure le_rfl
  | some a => exact (performAll_edited es CJson.createObject a).bind fun _ => Triple.pure le_rfl

/-! ## Programs from the beginning to the end -/

/-- **A tree that is built and deleted** leaves nothing behind, whichever calls of `malloc` fail. -/
theorem edits_memory (es : List Edit) (g : Grants) (s : Memory Block) :
    ∃ s', (build es >>= delete) g s = .ok ((), s') ∧ s'.heap = s.heap := by
  have hspec : Triple g 1 (build es >>= delete) fun _ => fact True := by
    rw [fact_of trivial]
    refine (build_spec es).bind fun p => ?_
    cases p with
    | none =>
      rw [orNull, ← mul_one (fact _)]
      refine Triple.fact_pre fun _ => ?_
      have hnull : Triple g (childrenAt [] none none) (delete none) fun _ => 1 :=
        delete_spec [] none none
      rwa [childrenAt_nil] at hnull
    | some a => exact Triple.exists_pre fun d => Triple.fact_pre fun _ => delete_item_spec d a none
  obtain ⟨u, s', hrun, -, hheap⟩ := hspec.restores s
  exact ⟨s', hrun, hheap⟩

/-- **A tree that is built and printed** prints as the tree the changes make of an empty object. -/
theorem edits_print (hg : ¬ Denied g) {fmt : Bool} {es : List Edit} {txt : Text}
    (h : CJson.printValue fmt 0 (Edit.applyAll es CJson.createObject) = .ok txt) (s : Memory Block) :
    ∃ s', (build es >>= printAndDelete fmt) g s = .ok (some txt, s') ∧ s'.heap = s.heap := by
  have hspec : Triple g 1 (build es >>= printAndDelete fmt) fun r =>
      fact (r = some txt ∨ r = none ∧ Denied g) := by
    refine (build_spec es).bind fun p => ?_
    cases p with
    | none => exact printAndDelete_null fmt
    | some a =>
      refine Triple.exists_pre fun d => Triple.fact_pre fun hd => ?_
      rw [hd hg]
      exact printAndDelete_spec h a
  obtain ⟨r, s', hrun, hr, hheap⟩ := hspec.restores s
  obtain rfl := hr.resolve_right fun hnone => hg hnone.2
  exact ⟨s', hrun, hheap⟩

/-- A member is added, a tree is added, the first member gets another name and place. -/
def someEdits : List Edit :=
  [.addNumber (ascii "code") 0, .addObject (ascii "extendInfo") [.addString (ascii "msg") (ascii "ok")],
    .moveNamed (ascii "code") (ascii "errcode")]

theorem edits_print_some :
    ∃ s', (build someEdits >>= printAndDelete false) (fun _ => true) .empty =
        .ok (some (ascii "\x7b\"extendInfo\":\x7b\"msg\":\"ok\"\x7d,\"errcode\":0\x7d"), s') ∧
      s'.heap = Heap.empty :=
  edits_print (by simp [Denied]) (by decide +kernel) .empty

end

end CJsonHeap

end SingleTerminalLogin
