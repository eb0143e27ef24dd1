import SingleTerminalLogin.CJson.Node
import SingleTerminalLogin.Lib.LinkedList

/-!
# The items of `mylib/cJSON` in memory

`CJson/Node.lean` takes an item for a tree.  Here an item is what the header says it is: a block
with `next`, `prev` and `child` pointers, whose texts are blocks of their own.  The functions of the
library that build objects, numbers and strings and that link, unlink, look up or free items
are below, pointer by pointer.

A function that gets a null pointer where it does not look for one is a fault, as is every access
to a block that has been freed.
-/

namespace SingleTerminalLogin

open ByteText Binary64 CProgram SepLogic HeapM

/-- A block of `char`s: its size, and the C string in it once one has been written. -/
structure CharBlock where
  size : ℕ
  text : Option Text := none
  /-- The terminating zero has its place in the block. -/
  fits : ∀ t, text = some t → t.length < size := by simp

/-- Bytes written to a block, with a zero behind them. -/
def CharBlock.write (b : CharBlock) (bytes : Text) (h : bytes.length < b.size) : CharBlock where
  size := b.size
  text := some (cstr bytes)
  fits t ht := by
    cases ht
    exact lt_of_le_of_lt (List.takeWhile_sublist _).length_le h

/-- `struct cJSON`. -/
structure Item where
  next : Ptr := none
  prev : Ptr := none
  child : Ptr := none
  type : CJsonType := .False
  /-- The flag `cJSON_IsReference` of the type. -/
  isReference : Bool := false
  valuestring : Ptr := none
  valueint : Int := 0
  valuedouble : Double := .fin 0
  string : Ptr := none

/-- What `malloc` is asked for. -/
inductive Block where
  | item (c : Item)
  | chars (b : CharBlock)
  /-- An array of pointers, `entries` or `names` of the printer. -/
  | pointers (ps : List Ptr)

namespace CJsonHeap

/-- The item at an address. -/
def getItem (a : Addr) : HeapM Block Item := do
  match ← load a with
  | .item c => pure c
  | _ => fault .memory

/-- Assignments to fields of an item. -/
def setItem (a : Addr) (f : Item → Item) : HeapM Block Unit := do
  let c ← getItem a
  store a (.item (f c))

/-- The C string at an address. -/
def getText (a : Addr) : HeapM Block Text := do
  match ← load a with
  | .chars ⟨_, some t, _⟩ => pure t
  | _ => fault .memory

/-- The C string at a pointer that may be null. -/
def textOf : Ptr → HeapM Block (Option Text)
  | none => pure none
  | some a => do
    let t ← getText a
    pure (some t)

/-- The bytes a loop writes to a block, and the zero behind them. -/
def writeText (a : Addr) (bytes : Text) : HeapM Block Unit := do
  match ← load a with
  | .chars b =>
    if h : bytes.length < b.size then store a (.chars (b.write bytes h)) else fault .memory
  | _ => fault .memory

/-- `if (p) free(p)`. -/
def freePtr : Ptr → HeapM Block Unit
  | none => pure ()
  | some a => free a

/-- `cJSON_strdup`. -/
def strdup (str : Text) : HeapM Block Ptr :=
  malloc (.chars ⟨str.length + 1, some str, by simp⟩)

/-- `cJSON_New_Item`. -/
def newItem : HeapM Block Ptr := malloc (.item {})

/-- The loop of `cJSON_Delete`. -/
def deleteLoop : ℕ → Ptr → HeapM Block Unit
  | _, none => pure ()
  | 0, some _ => fault .memory
  | fuel + 1, some c => do
    let item ← getItem c
    deleteLoop fuel (if item.isReference then none else item.child)
    freePtr (if item.isReference then none else item.valuestring)
    freePtr item.string
    free c
    deleteLoop fuel item.next

/-- `cJSON_Delete`. -/
def delete (c : Ptr) : HeapM Block Unit := do
  deleteLoop (← bound) c

/-! ## Creating items -/

/-- `item=cJSON_New_Item(); if (item) …`. -/
def createItem (f : Item → Item) : HeapM Block Ptr := do
  match ← newItem with
  | none => pure none
  | some item => do
    setItem item f
    pure (some item)

/-- `cJSON_CreateNumber`. -/
def createNumber (num : Double) : HeapM Block Ptr :=
  createItem ({ · with type := .Number, valuedouble := num, valueint := toInt64 num })

/-- `cJSON_CreateString`. -/
def createString (string : Text) : HeapM Block Ptr := do
  match ← newItem with
  | none => pure none
  | some item => do
    setItem item ({ · with type := .String })
    let copy ← strdup string
    setItem item ({ · with valuestring := copy })
    pure (some item)

/-- `cJSON_CreateObject`. -/
def createObject : HeapM Block Ptr := createItem ({ · with type := .Object })

/-! ## Looking items up -/

/-- `c->next`. -/
def nextOf (c : Addr) : HeapM Block Ptr := do
  let item ← getItem c
  pure item.next

/-- `while (c && item>0) item--,c=c->next`: one look at a node. -/
def visitIndex (item : Int) (c : Addr) : HeapM Block (Option (Int × Ptr)) := do
  let next ← nextOf c
  pure (if 0 < item then some (item - 1, next) else none)

/-- `while (c && cJSON_strcasecmp(c->string,string)) i++,c=c->next`: one look at a node. -/
def visitName (string : Text) (i : Int) (c : Addr) : HeapM Block (Option (Int × Ptr)) := do
  let item ← getItem c
  let name ← textOf item.string
  pure (if CJson.strcasecmp name string = 0 then none else some (i + 1, item.next))

/-- A walk along the children, to the item looked for. -/
def seekItem (visit : Int → Addr → HeapM Block (Option (Int × Ptr))) (i : Int) (c : Ptr) :
    HeapM Block Ptr := do
  seek visit (← bound) i c

/-- `cJSON_GetArraySize`: the loop. -/
def sizeLoop : ℕ → Int → Ptr → HeapM Block Int
  | _, i, none => pure i
  | 0, _, some _ => fault .memory
  | fuel + 1, i, some c => do
    let next ← nextOf c
    sizeLoop fuel (i + 1) next

/-- `cJSON_GetArraySize`. -/
def getArraySize (array : Ptr) : HeapM Block Int := do
  let c ← getItem (← nonNull array)
  sizeLoop (← bound) 0 c.child

/-- `cJSON_GetArrayItem`. -/
def getArrayItem (array : Ptr) (item : Int) : HeapM Block Ptr := do
  let c ← getItem (← nonNull array)
  seekItem visitIndex item c.child

/-- `cJSON_GetObjectItem`. -/
def getObjectItem (object : Ptr) (string : Text) : HeapM Block Ptr := do
  let c ← getItem (← nonNull object)
  seekItem (visitName string) 0 c.child

/-! ## Linking -/

/-- `suffix_object`. -/
def suffixObject (prev item : Ptr) : HeapM Block Unit := do
  let p ← nonNull prev
  setItem p ({ · with next := item })
  let i ← nonNull item
  setItem i ({ · with prev := prev })

/-- `cJSON_AddItemToArray`. -/
def addItemToArray (array item : Ptr) : HeapM Block Unit := do
  let a ← nonNull array
  let arr ← getItem a
  match item, arr.child with
  | none, _ => pure ()
  | some _, none => setItem a ({ · with child := item })
  | some _, some c => do
    let last ← lastOf nextOf (← bound) c
    suffixObject (some last) item

/-- `cJSON_AddItemToObject`. -/
def addItemToObject (object : Ptr) (string : Text) (item : Ptr) : HeapM Block Unit := do
  match item with
  | none => pure ()
  | some i => do
    let c ← getItem i
    freePtr c.string
    let name ← strdup string
    setItem i ({ · with string := name })
    addItemToArray object (some i)

/-- `cJSON_AddNumberToObject` with an `int`. -/
def addNumberToObject (object : Ptr) (name : Text) (n : Int) : HeapM Block Unit := do
  addItemToObject object name (← createNumber (ofInt n))

/-- `cJSON_AddStringToObject`. -/
def addStringToObject (object : Ptr) (name : Text) (s : Text) : HeapM Block Unit := do
  addItemToObject object name (← createString s)

/-! ## Unlinking -/

/-- `if (p) p->… = …`. -/
def setItemPtr (p : Ptr) (f : Item → Item) : HeapM Block Unit :=
  match p with
  | none => pure ()
  | some a => setItem a f

/-- `cJSON_DetachItemFromArray`. -/
def detachItemFromArray (array : Ptr) (which : Int) : HeapM Block Ptr := do
  let a ← nonNull array
  let arr ← getItem a
  match ← seekItem visitIndex which arr.child with
  | none => pure none
  | some c => do
    let item ← getItem c
    setItemPtr item.prev ({ · with next := item.next })
    setItemPtr item.next ({ · with prev := item.prev })
    (if some c = arr.child then setItem a ({ · with child := item.next }) else pure ())
    setItem c ({ · with prev := none, next := none })
    pure (some c)

/-- `cJSON_DeleteItemFromArray`. -/
def deleteItemFromArray (array : Ptr) (which : Int) : HeapM Block Unit := do
  delete (← detachItemFromArray array which)

/-- The position `cJSON_DetachItemFromObject` and `cJSON_ReplaceItemInObject` count up to, or
nothing when no item has the name: the loop. -/
def indexLoop (string : Text) : ℕ → Int → Ptr → HeapM Block (Option Int)
  | _, _, none => pure none
  | 0, _, some _ => fault .memory
  | fuel + 1, i, some c => do
    match ← visitName string i c with
    | none => pure (some i)
    | some (i', next) => indexLoop string fuel i' next

/-- `while (c && cJSON_strcasecmp(c->string,string)) i++,c=c->next`, from the first child on. -/
def indexOf (string : Text) (c : Ptr) : HeapM Block (Option Int) := do
  indexLoop string (← bound) 0 c

/-- `cJSON_DetachItemFromObject`. -/
def detachItemFromObject (object : Ptr) (string : Text) : HeapM Block Ptr := do
  let c ← getItem (← nonNull object)
  match ← indexOf string c.child with
  | none => pure none
  | some i => detachItemFromArray object i

/-- `cJSON_DeleteItemFromObject`. -/
def deleteItemFromObject (object : Ptr) (string : Text) : HeapM Block Unit := do
  delete (← detachItemFromObject object string)

/-- `cJSON_ReplaceItemInArray`. -/
def replaceItemInArray (array : Ptr) (which : Int) (newitem : Ptr) : HeapM Block Unit := do
  let a ← nonNull array
  let arr ← getItem a
  match ← seekItem visitIndex which arr.child with
  | none => pure ()
  | some c => do
    let item ← getItem c
    let n ← nonNull newitem
    setItem n ({ · with next := item.next, prev := item.prev })
    setItemPtr item.next ({ · with prev := newitem })
    (if some c = arr.child then setItem a ({ · with child := newitem })
    else do
      let p ← nonNull item.prev
      setItem p ({ · with next := newitem }))
    setItem c ({ · with next := none, prev := none })
    delete (some c)

/-- `cJSON_ReplaceItemInObject`. -/
def replaceItemInObject (object : Ptr) (string : Text) (newitem : Ptr) : HeapM Block Unit := do
  let c ← getItem (← nonNull object)
  match ← indexOf string c.child with
  | none => pure ()
  | some i => do
    let n ← nonNull newitem
    let name ← strdup string
    setItem n ({ · with string := name })
    replaceItemInArray object i newitem

end CJsonHeap

end SingleTerminalLogin
