import SingleTerminalLogin.CJson.Heap
import SingleTerminalLogin.CJson.Print

/-!
# The printers of `mylib/cJSON` in memory

The printers of the library measure every text, allocate a block of that size, and fill it in piece
by piece from the texts of the children, which are freed on the way.  When `malloc` finds no memory
in the middle of it they give back what they have.
-/

namespace SingleTerminalLogin

open ByteText Binary64 CProgram SepLogic HProp HeapM

namespace CJsonHeap

/-! ## Blocks -/

/-- `strcpy(ptr,bytes);ptr+=strlen(bytes)`, where `ptr` is the end of the text in the block. -/
def appendText (a : Addr) (bytes : Text) : HeapM Block Unit := do
  match ← load a with
  | .chars ⟨size, some t, _⟩ =>
    if h : (t ++ bytes).length < size then
      store a (.chars ⟨size, some (t ++ bytes), fun _ ht => by cases ht; exact h⟩)
    else fault .memory
  | _ => fault .memory

/-- `entries[i]`. -/
def getPointer (a : Addr) (i : ℕ) : HeapM Block Ptr := do
  match ← load a with
  | .pointers ps => if h : i < ps.length then pure (ps.get ⟨i, h⟩) else fault .memory
  | _ => fault .memory

/-- `entries[i]=p`. -/
def setPointer (a : Addr) (i : ℕ) (p : Ptr) : HeapM Block Unit := do
  match ← load a with
  | .pointers ps => if i < ps.length then store a (.pointers (ps.set i p)) else fault .memory
  | _ => fault .memory

/-- `malloc` of `size` bytes. -/
def mallocChars (size : ℕ) : HeapM Block Ptr := malloc (.chars ⟨size, none, by simp⟩)

/-- `malloc` of `n` pointers, and `memset`. -/
def mallocPointers (n : ℕ) : HeapM Block Ptr := malloc (.pointers (List.replicate n none))

/-! ## Numbers and strings -/

/-- The test `print_number` makes first. -/
def printsAsInt (item : Item) : Prop :=
  le (fabs (sub (ofInt item.valueint) item.valuedouble)) epsilon ∧
    le item.valuedouble (.fin 2147483647) ∧ le (.fin (-2147483648)) item.valuedouble

instance (item : Item) : Decidable (printsAsInt item) := by
  unfold printsAsInt
  infer_instance

/-- `print_number`. -/
def printNumber (item : Item) : HeapM Block Ptr := do
  unlessNull (← mallocChars (if printsAsInt item then 21 else 64)) fun str => do
    writeText str (CJson.numberText
      { CJson.newItem with valueint := item.valueint, valuedouble := item.valuedouble })
    pure (some str)

/-- The loop of `print_string_ptr` that measures the text. -/
def stringSize : Text → ℕ
  | [] => 0
  | token :: ptr =>
    (1 + if token ∈ ([34, 92, 8, 12, 10, 13, 9] : Text) then 1 else if token < 32 then 5 else 0) +
      stringSize ptr

/-- `print_string_ptr`. -/
def printStringPtr (str : Ptr) : HeapM Block Ptr := do
  match ← textOf str with
  | none => strdup []
  | some s => do
    unlessNull (← mallocChars (stringSize s + 3)) fun out => do
      writeText out (34 :: CJson.escape s ++ [34])
      pure (some out)

/-! ## Arrays and objects, once their items are printed -/

/-- `if (!fail) out=(char*)malloc(len)`. -/
def mallocOutput : Option ℕ → HeapM Block Ptr
  | none => pure none
  | some len => mallocChars len

/-- `for (i=0;i<numentries;i++) if (entries[i]) free(entries[i])`, from `i` on. -/
def freeElements (entries : Addr) : ℕ → ℕ → HeapM Block Unit
  | _, 0 => pure ()
  | i, k + 1 => do
    freePtr (← getPointer entries i)
    freeElements entries (i + 1) k

/-- The same loop over names and values. -/
def freeMembers (names entries : Addr) : ℕ → ℕ → HeapM Block Unit
  | _, 0 => pure ()
  | i, k + 1 => do
    freePtr (← getPointer names i)
    freePtr (← getPointer entries i)
    freeMembers names entries (i + 1) k

/-- The loop that composes the output of an array. -/
def composeElements (fmt : Bool) (out entries : Addr) (numentries : ℕ) : ℕ → ℕ → HeapM Block Unit
  | _, 0 => pure ()
  | i, k + 1 => do
    let entry ← nonNull (← getPointer entries i)
    appendText out (← getText entry)
    appendText out (if i + 1 = numentries then [] else 44 :: if fmt then [32] else [])
    free entry
    composeElements fmt out entries numentries (i + 1) k

/-- The loop that composes the output of an object. -/
def composeMembers (fmt : Bool) (depth : ℕ) (out names entries : Addr) (numentries : ℕ) :
    ℕ → ℕ → HeapM Block Unit
  | _, 0 => pure ()
  | i, k + 1 => do
    appendText out (if fmt then List.replicate depth 9 else [])
    let name ← nonNull (← getPointer names i)
    appendText out (← getText name)
    appendText out (58 :: if fmt then [9] else [])
    let entry ← nonNull (← getPointer entries i)
    appendText out (← getText entry)
    appendText out (if i + 1 = numentries then [] else [44])
    appendText out (if fmt then [10] else [])
    free name
    free entry
    composeMembers fmt depth out names entries numentries (i + 1) k

/-- `print_array`, from the second `malloc` on. -/
def finishArray (fmt : Bool) (numentries : ℕ) (entries : Addr) (len : Option ℕ) :
    HeapM Block Ptr := do
  match ← mallocOutput len with
  | none => do
    freeElements entries 0 numentries
    free entries
    pure none
  | some out => do
    writeText out [91]
    composeElements fmt out entries numentries 0 numentries
    free entries
    appendText out [93]
    pure (some out)

/-- `print_object`, from the third `malloc` on. -/
def finishObject (fmt : Bool) (depth numentries : ℕ) (names entries : Addr) (len : Option ℕ) :
    HeapM Block Ptr := do
  match ← mallocOutput len with
  | none => do
    freeMembers names entries 0 numentries
    free names
    free entries
    pure none
  | some out => do
    writeText out (123 :: if fmt then [10] else [])
    composeMembers fmt depth out names entries numentries 0 numentries
    free names
    free entries
    appendText out (if fmt then List.replicate (depth - 1) 9 else [])
    appendText out [125]
    pure (some out)

/-- `if (str && ret) len+=… else fail=1` of `print_object`. -/
def growLength (fmt : Bool) (depth : ℕ) (len : Option ℕ) : Ptr → Ptr → HeapM Block (Option ℕ)
  | some str, some ret => do
    let s ← getText str
    let t ← getText ret
    pure (len.map (· + (t.length + s.length + 2 + if fmt then 2 + depth else 0)))
  | _, _ => pure none

/-! ## Values -/

/-- The number of items in a chain. -/
def countEntries (child : Ptr) : HeapM Block ℕ := do
  let n ← sizeLoop (← bound) 0 child
  pure n.toNat

mutual

/-- `print_value`. -/
def printValue (fmt : Bool) : ℕ → ℕ → Ptr → HeapM Block Ptr
  | _, _, none => pure none
  | 0, _, some _ => fault .memory
  | fuel + 1, depth, some a => do
    let item ← getItem a
    match item.type with
    | .NULL => strdup (ascii "null")
    | .False => strdup (ascii "false")
    | .True => strdup (ascii "true")
    | .Number => printNumber item
    | .String => printStringPtr item.valuestring
    | .Array => printArray fmt fuel depth item
    | .Object => printObject fmt fuel depth item

/-- `print_array`. -/
def printArray (fmt : Bool) : ℕ → ℕ → Item → HeapM Block Ptr
  | 0, _, _ => fault .memory
  | fuel + 1, depth, item => do
    let numentries ← countEntries item.child
    unlessNull (← mallocPointers numentries) fun entries => do
      let len ← printElements fmt fuel (depth + 1) entries 0 5 item.child
      finishArray fmt numentries entries len

/-- `while (child && !fail)` of `print_array`: how long the output gets, or nothing. -/
def printElements (fmt : Bool) : ℕ → ℕ → Addr → ℕ → ℕ → Ptr → HeapM Block (Option ℕ)
  | _, _, _, _, len, none => pure (some len)
  | 0, _, _, _, _, some _ => fault .memory
  | fuel + 1, depth, entries, i, len, some child => do
    let ret ← printValue fmt fuel depth (some child)
    setPointer entries i ret
    match ret with
    | none => pure none
    | some r => do
      let t ← getText r
      let next ← nextOf child
      printElements fmt fuel depth entries (i + 1) (len + (t.length + 2 + if fmt then 1 else 0)) next

/-- `print_object`. -/
def printObject (fmt : Bool) : ℕ → ℕ → Item → HeapM Block Ptr
  | 0, _, _ => fault .memory
  | fuel + 1, depth, item => do
    let numentries ← countEntries item.child
    unlessNull (← mallocPointers numentries) fun entries => do
      match ← mallocPointers numentries with
      | none => do
        free entries
        pure none
      | some names => do
        let len ← printMembers fmt fuel (depth + 1) names entries 0
          (some (7 + if fmt then depth + 1 else 0)) item.child
        finishObject fmt (depth + 1) numentries names entries len

/-- `while (child)` of `print_object`: it goes on when a text is missing. -/
def printMembers (fmt : Bool) : ℕ → ℕ → Addr → Addr → ℕ → Option ℕ → Ptr →
    HeapM Block (Option ℕ)
  | _, _, _, _, _, len, none => pure len
  | 0, _, _, _, _, _, some _ => fault .memory
  | fuel + 1, depth, names, entries, i, len, some child => do
    let item ← getItem child
    let str ← printStringPtr item.string
    setPointer names i str
    let ret ← printValue fmt fuel depth (some child)
    setPointer entries i ret
    let len ← growLength fmt depth len str ret
    let next ← nextOf child
    printMembers fmt fuel depth names entries (i + 1) len next

end

/-- `cJSON_Print`, and `cJSON_PrintUnformatted` for the other `fmt`. -/
def print (fmt : Bool) (item : Ptr) : HeapM Block Ptr := do
  printValue fmt (3 * (← bound)) 0 item

end CJsonHeap

end SingleTerminalLogin
