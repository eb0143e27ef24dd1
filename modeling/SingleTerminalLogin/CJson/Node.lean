import SingleTerminalLogin.Lib.Binary64
import SingleTerminalLogin.Lib.CProgram

/-!
# The JSON tree of `mylib/cJSON`

`CJson` is the `cJSON` structure of the header: one record for every kind of
item, with the list of children in place of the `child`/`next` chain.  The
`prev` links and the `cJSON_IsReference` flag are left out: nothing the services
call reads them.

An item reached through a pointer brings its `next` chain along.  `itemFrom`
keeps that chain, because `getResponseMessage` links an item into a second tree
while it is still chained to its old siblings; `addItemToArray` then appends the
item together with everything chained behind it.
-/

namespace SingleTerminalLogin

open ByteText Binary64 CProgram

/-- The type codes of `cJSON.h`. -/
inductive CJsonType where
  | False | True | NULL | Number | String | Array | Object
  deriving DecidableEq, Repr

/-- A `cJSON` item. -/
structure CJson where
  type : CJsonType := .False
  valuestring : Option Text := none
  valueint : Int := 0
  valuedouble : Double := .fin 0
  /-- The name of a member, `string` in the header. -/
  string : Option Text := none
  child : List CJson := []

namespace CJson

/-- `cJSON_New_Item`: all fields zero. -/
def newItem : CJson := {}

/-- `tolower` in the C locale. -/
def tolower (c : Byte) : Byte := if 65 ≤ c ∧ c ≤ 90 then c + 32 else c

/-- The loop of `cJSON_strcasecmp` over two C strings. -/
def strcasecmpLoop : Text → Text → Int
  | [], [] => 0
  | [], d :: _ => 0 - ((tolower d).toNat : Int)
  | c :: _, [] => ((tolower c).toNat : Int) - 0
  | c :: cs, d :: ds =>
    if tolower c = tolower d then strcasecmpLoop cs ds
    else ((tolower c).toNat : Int) - (tolower d).toNat

/-- `cJSON_strcasecmp`; an item without a name differs from every name. -/
def strcasecmp (s1 : Option Text) (s2 : Text) : Int :=
  match s1 with
  | none => 1
  | some s1 => strcasecmpLoop s1 s2

/-- Does the item carry this name, whatever the case of its letters? -/
def named (string : Text) (c : CJson) : Bool := strcasecmp c.string string = 0

/-- The item `cJSON_GetObjectItem` finds, and the chain behind it. -/
def itemFrom (object : CJson) (string : Text) : List CJson :=
  object.child.dropWhile fun c => !named string c

/-- `cJSON_GetObjectItem`: the first child of that name, ignoring case. -/
def getObjectItem (object : CJson) (string : Text) : Option CJson :=
  (itemFrom object string).head?

/-- `cJSON_AddItemToArray`: the item goes to the end of the chain of children,
and whatever is chained behind the item comes with it. -/
def addItemToArray (array : CJson) (item : CJson) (next : List CJson) : CJson :=
  { array with child := array.child ++ item :: next }

/-- `cJSON_AddItemToObject`. -/
def addItemToObject (object : CJson) (string : Text) (item : CJson) (next : List CJson) : CJson :=
  addItemToArray object { item with string := some string } next

/-- `cJSON_CreateNumber`. -/
def createNumber (num : Double) : CJson :=
  { newItem with type := .Number, valuedouble := num, valueint := toInt64 num }

/-- `cJSON_CreateString`. -/
def createString (s : Text) : CJson :=
  { newItem with type := .String, valuestring := some s }

/-- `cJSON_CreateObject`. -/
def createObject : CJson := { newItem with type := .Object }

/-- `cJSON_AddNumberToObject` with an `int`. -/
def addNumberToObject (object : CJson) (name : Text) (n : Int) : CJson :=
  addItemToObject object name (createNumber (ofInt n)) []

/-- `cJSON_AddStringToObject`. -/
def addStringToObject (object : CJson) (name : Text) (s : Text) : CJson :=
  addItemToObject object name (createString s) []

/-! ## Looking items up -/

theorem getObjectItem_eq_find? (object : CJson) (string : Text) :
    getObjectItem object string = object.child.find? (named string) := by
  unfold getObjectItem itemFrom
  induction object.child with
  | nil => rfl
  | cons c cs ih =>
    by_cases h : named string c
    · simp [h]
    · simpa [h] using ih

/-- What is chained behind a found item is the rest of the chain. -/
theorem itemFrom_eq_cons {object : CJson} {string : Text} {item : CJson} {next : List CJson}
    (h : itemFrom object string = item :: next) :
    named string item = true ∧
      ∃ front, object.child = front ++ item :: next ∧ ∀ c ∈ front, named string c = false := by
  unfold itemFrom at h
  refine ⟨?_, object.child.takeWhile (fun c => !named string c), ?_, ?_⟩
  · have := List.head_dropWhile_not (fun c => !named string c) (by rw [h]; simp : _ ≠ [])
    simpa [h] using this
  · rw [← h, List.takeWhile_append_dropWhile]
  · intro c hc
    simpa using List.mem_takeWhile_imp hc

@[simp] theorem addItemToObject_child (object item : CJson) (string : Text) (next : List CJson) :
    (addItemToObject object string item next).child =
      object.child ++ { item with string := some string } :: next := rfl

@[simp] theorem addItemToObject_type (object item : CJson) (string : Text) (next : List CJson) :
    (addItemToObject object string item next).type = object.type := rfl

/-- An appended member is found when no earlier member carries its name. -/
theorem getObjectItem_addItemToObject {object item : CJson} {string : Text}
    (hself : strcasecmpLoop string string = 0)
    (h : getObjectItem object string = none) (next : List CJson) :
    getObjectItem (addItemToObject object string item next) string =
      some { item with string := some string } := by
  rw [getObjectItem_eq_find?] at h ⊢
  rw [addItemToObject_child, List.find?_append, h]
  simp [named, strcasecmp, hself]

/-- An appended member does not hide an earlier one of that name. -/
theorem getObjectItem_addItemToObject_some {object item found : CJson} {string name : Text}
    (h : getObjectItem object string = some found) (next : List CJson) :
    getObjectItem (addItemToObject object name item next) string = some found := by
  rw [getObjectItem_eq_find?] at h ⊢
  rw [addItemToObject_child, List.find?_append, h]
  rfl

end CJson

end SingleTerminalLogin
