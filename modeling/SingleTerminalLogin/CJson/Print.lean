import SingleTerminalLogin.CJson.Parse

/-!
# `cJSON_PrintUnformatted`

The printer of `mylib/cJSON/cJSON.c` with `fmt = 0`, the only way the services
use it.  `print_number` formats into a buffer of 64 bytes, which a large number
overruns; every other buffer is computed from the texts that go into it.
-/

namespace SingleTerminalLogin

open ByteText Binary64 CProgram

namespace CJson

/-- `print_number`, before the text is stored. -/
def numberText (item : CJson) : Text :=
  let d := item.valuedouble
  if le (fabs (sub (ofInt item.valueint) d)) epsilon ∧ le d (.fin 2147483647) ∧
      le (.fin (-2147483648)) d then intText item.valueint
  else if le (fabs (sub (Binary64.floor d) d)) epsilon then fixed0 d
  else if lt (fabs d) (round (1 / 1000000)) ∨ lt (.fin 1000000000) (fabs d) then exp6 d
  else fixed6 d

/-- `print_number`: the text and its terminating zero go into 64 bytes. -/
def printNumber (item : CJson) : C Text :=
  if (numberText item).length < 64 then .ok (numberText item) else .error .memory

/-- A hexadecimal digit of `%04x`. -/
def hexDigit (d : Nat) : Byte := UInt8.ofNat (if d < 10 then 48 + d else 87 + d)

/-- How `print_string_ptr` writes one byte. -/
def escapeByte (c : Byte) : Text :=
  if 31 < c ∧ c ≠ 34 ∧ c ≠ 92 then [c]
  else if c = 92 then [92, 92]
  else if c = 34 then [92, 34]
  else if c = 8 then [92, 98]
  else if c = 12 then [92, 102]
  else if c = 10 then [92, 110]
  else if c = 13 then [92, 114]
  else if c = 9 then [92, 116]
  else [92, 117, 48, 48, hexDigit (c.toNat / 16), hexDigit (c.toNat % 16)]

/-- The bytes between the quotes. -/
def escape (s : Text) : Text := s.flatMap escapeByte

/-- `print_string_ptr`; a missing string prints as nothing at all. -/
def printStringPtr : Option Text → Text
  | none => []
  | some s => 34 :: escape s ++ [34]

mutual

/-- `print_value`. -/
def print : CJson → C Text
  | ⟨.NULL, _, _, _, _, _⟩ => .ok (ascii "null")
  | ⟨.False, _, _, _, _, _⟩ => .ok (ascii "false")
  | ⟨.True, _, _, _, _, _⟩ => .ok (ascii "true")
  | ⟨.Number, s, i, d, n, _⟩ => printNumber ⟨.Number, s, i, d, n, []⟩
  | ⟨.String, s, _, _, _, _⟩ => .ok (printStringPtr s)
  | ⟨.Array, _, _, _, _, child⟩ => do
    let entries ← printElements child
    .ok (91 :: entries ++ [93])
  | ⟨.Object, _, _, _, _, child⟩ => do
    let entries ← printMembers child
    .ok (123 :: entries ++ [125])

/-- The entries of `print_array`, separated by commas. -/
def printElements : List CJson → C Text
  | [] => .ok []
  | c :: cs => do
    let entry ← print c
    let entries ← printElements cs
    .ok (if cs = [] then entry else entry ++ 44 :: entries)

/-- The entries of `print_object`: names and values. -/
def printMembers : List CJson → C Text
  | [] => .ok []
  | c :: cs => do
    let entry ← print c
    let entries ← printMembers cs
    let entry := printStringPtr c.string ++ 58 :: entry
    .ok (if cs = [] then entry else entry ++ 44 :: entries)

end

end CJson

end SingleTerminalLogin
