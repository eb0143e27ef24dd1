import SingleTerminalLogin.CJson.Node

/-!
# `cJSON_Parse`

The parser of `mylib/cJSON/cJSON.c`, function by function.  A pointer into the
text is the text from there on; behind the end of the text the receive buffers
are zero (they are cleared before every read), so a pointer that runs past the
end reads zeros.  A text that ends in an escape makes the C code do so.

`parseString` and `parseValue` return `none` where the C functions return the
null pointer.  `C` carries what else can happen to them: `parse_string` hands
`sscanf` an uninitialised variable, and copies beyond its own buffer when an
escape swallows the closing quote.

The recursion through arrays and objects is bounded by a fuel argument;
`parseValue_fuel` shows that the bound `cJSON_Parse` starts with is never the
reason for a result.
-/

namespace SingleTerminalLogin

open ByteText Binary64 CProgram

namespace CJson

/-- `*ptr`. -/
def at0 : Text → Byte
  | [] => 0
  | c :: _ => c

@[simp] theorem at0_nil : at0 [] = 0 := rfl

@[simp] theorem at0_cons (c : Byte) (cs : Text) : at0 (c :: cs) = c := rfl

/-- `skip`: jump white space and control bytes. -/
def skip : Text → Text
  | [] => []
  | c :: cs => if c ≠ 0 ∧ c ≤ 32 then skip cs else c :: cs

/-! ## Numbers -/

/-- `*num - '0'`, where `char` is signed. -/
def digitOf (c : Byte) : Int := (if c < 128 then (c.toNat : Int) else c.toNat - 256) - 48

/-- `while (*num>='0' && *num<='9') n=(n*10)+(*num++ -'0')`, in a `long long`. -/
def mantissaLoop (n : Int) : Text → Int × Text
  | [] => (n, [])
  | c :: cs => if isDigit c then mantissaLoop (wrap64 (n * 10 + digitOf c)) cs else (n, c :: cs)

/-- The integral part: one optional zero, then digits that do not start with a
zero. -/
def integralPart (num : Text) : Int × Text :=
  let num := if at0 num = 48 then num.tail else num
  if isDigit (at0 num) ∧ at0 num ≠ 48 then mantissaLoop 0 num else (0, num)

/-- The fractional part.  Its loop runs at least once, whatever follows the
point. -/
def fractionalPart (n : Int) (num : Text) : Int × Int × Text :=
  if at0 num = 46 then
    let num := num.tail
    let n := wrap64 (n * 10 + digitOf (at0 num))
    let r := mantissaLoop n num.tail
    (r.1, -(1 + (num.tail.length - r.2.length : Nat)), r.2)
  else (n, 0, num)

/-- `subscale=(subscale*10.0)+(*num++ - '0')`: the sum is taken in `double`. -/
def subscaleLoop (n : Int) : Text → Int × Text
  | [] => (n, [])
  | c :: cs =>
    if isDigit c then
      subscaleLoop (toInt64 (add (mul (ofInt n) (.fin 10)) (ofInt (digitOf c)))) cs
    else (n, c :: cs)

/-- The exponent, `subscale*signsubscale`, in a `long long` as well. -/
def exponentPart (num : Text) : Int × Text :=
  if at0 num = 101 ∨ at0 num = 69 then
    let num := num.tail
    let neg := at0 num = 45
    let num := if at0 num = 43 ∨ at0 num = 45 then num.tail else num
    let r := subscaleLoop 0 num
    (if neg then wrap64 (-r.1) else r.1, r.2)
  else (0, num)

/-- `parse_number`. -/
def parseNumber (item : CJson) (num : Text) : CJson × Text :=
  let sign : Int := if at0 num = 45 then -1 else 1
  let num := if at0 num = 45 then num.tail else num
  let n := integralPart num
  let f := fractionalPart n.1 n.2
  let e := exponentPart f.2.2
  let db := mul (ofInt (wrap64 (sign * f.1))) (pow10 (wrap64 (f.2.1 + e.1)))
  ({ item with valuedouble := db, valueint := toInt64 db, type := .Number }, e.2)

/-! ## Strings -/

/-- The first loop of `parse_string`: how much room the string gets. -/
def stringLength : Text → Nat
  | [] => 0
  | c :: cs =>
    if c = 34 ∨ c = 0 then 0
    else if c = 92 then
      match cs with
      | [] => 1
      | _ :: ds => stringLength ds + 1
    else stringLength cs + 1

/-- `sscanf(t, "%4x", &uc)`: what is stored, if anything. -/
def scanHex4 (t : Text) : Option Nat :=
  let window := (t.dropWhile isSpace).take 4
  let signed := readSign window
  let digits : Text :=
    match signed.2 with
    | 48 :: x :: ds =>
      if x = 120 ∨ x = 88 then 48 :: ds.takeWhile (fun c => (hexValue c).isSome)
      else signed.2.takeWhile fun c => (hexValue c).isSome
    | ds => ds.takeWhile fun c => (hexValue c).isSome
  if digits = [] then none
  else
    let v := takeBase 16 0 digits
    some (if signed.1 then (2 ^ 32 - v) % 2 ^ 32 else v)

/-- The bytes an escaped code unit turns into, and what the shifts leave in
`uc`. -/
def transcode (uc : Nat) : Text × Nat :=
  if uc < 0x80 then ([UInt8.ofNat uc], uc)
  else if uc < 0x800 then
    ([UInt8.ofNat ((uc >>> 6) ||| 0xC0), UInt8.ofNat ((uc ||| 0x80) &&& 0xBF)], uc >>> 6)
  else
    ([UInt8.ofNat ((uc >>> 12) ||| 0xE0), UInt8.ofNat (((uc >>> 6) ||| 0x80) &&& 0xBF),
      UInt8.ofNat ((uc ||| 0x80) &&& 0xBF)], uc >>> 12)

/-- The byte a one-letter escape stands for. -/
def unescapeByte (e : Byte) : Byte :=
  if e = 98 then 8 else if e = 102 then 12 else if e = 110 then 10
  else if e = 114 then 13 else if e = 116 then 9 else e

/-- Put bytes in front of what the rest of the loop writes. -/
def emit (out : Text) (r : C (Text × Text)) : C (Text × Text) :=
  r.map fun p => (out ++ p.1, p.2)

/-- The second loop of `parse_string`: the bytes written, and where the loop
stops.  `uc` is the variable the escapes share; it starts indeterminate. -/
def unescape (uc : Option Nat) : Text → C (Text × Text)
  | [] => .ok ([], [])
  | c :: cs =>
    if c = 34 ∨ c = 0 then .ok ([], c :: cs)
    else if c ≠ 92 then emit [c] (unescape uc cs)
    else
      match cs with
      | [] => .ok ([0], [])
      | e :: es =>
        if e = 117 then
          match (scanHex4 es).or uc with
          | none => .error .memory
          | some u =>
            match es with
            | _ :: _ :: _ :: _ :: rest =>
              emit (transcode u).1 (unescape (some (transcode u).2) rest)
            | _ => .ok ((transcode u).1, [])
        else emit [unescapeByte e] (unescape uc es)

/-- `parse_string`. -/
def parseString (item : CJson) (str : Text) : C (Option (CJson × Text)) :=
  if at0 str ≠ 34 then .ok none
  else do
    let r ← unescape none str.tail
    -- `out` has room for `len` bytes and the terminating zero
    if stringLength str.tail < r.1.length then .error .memory
    else
      let ptr := if at0 r.2 = 34 then r.2.tail else r.2
      .ok (some ({ item with valuestring := some (cstr r.1), type := .String }, ptr))

/-! ## Values -/

mutual

/-- `parse_value`. -/
def parseValue : Nat → CJson → Text → C (Option (CJson × Text))
  | 0, _, _ => .ok none
  | fuel + 1, item, value =>
    if value.take 4 = ascii "null" then .ok (some ({ item with type := .NULL }, value.drop 4))
    else if value.take 5 = ascii "false" then
      .ok (some ({ item with type := .False }, value.drop 5))
    else if value.take 4 = ascii "true" then
      .ok (some ({ item with type := .True, valueint := 1 }, value.drop 4))
    else if at0 value = 34 then parseString item value
    else if at0 value = 45 ∨ isDigit (at0 value) then .ok (some (parseNumber item value))
    else if at0 value = 91 then parseArray fuel item value
    else if at0 value = 123 then parseObject fuel item value
    else .ok none

/-- `parse_array`. -/
def parseArray : Nat → CJson → Text → C (Option (CJson × Text))
  | 0, _, _ => .ok none
  | fuel + 1, item, value =>
    let item := { item with type := .Array }
    let value := skip value.tail
    if at0 value = 93 then .ok (some (item, value.tail))
    else do
      match ← parseValue fuel newItem (skip value) with
      | none => .ok none
      | some (child, rest) => arrayLoop fuel item [child] (skip rest)

/-- `while (*value==',')` of `parse_array`. -/
def arrayLoop : Nat → CJson → List CJson → Text → C (Option (CJson × Text))
  | 0, _, _, _ => .ok none
  | fuel + 1, item, children, value =>
    if at0 value = 44 then do
      match ← parseValue fuel newItem (skip value.tail) with
      | none => .ok none
      | some (child, rest) => arrayLoop fuel item (children ++ [child]) (skip rest)
    else if at0 value = 93 then .ok (some ({ item with child := children }, value.tail))
    else .ok none

/-- `parse_object`. -/
def parseObject : Nat → CJson → Text → C (Option (CJson × Text))
  | 0, _, _ => .ok none
  | fuel + 1, item, value =>
    let item := { item with type := .Object }
    let value := skip value.tail
    if at0 value = 125 then .ok (some (item, value.tail))
    else do
      match ← parseMember fuel (skip value) with
      | none => .ok none
      | some (child, rest) => objectLoop fuel item [child] (skip rest)

/-- `while (*value==',')` of `parse_object`. -/
def objectLoop : Nat → CJson → List CJson → Text → C (Option (CJson × Text))
  | 0, _, _, _ => .ok none
  | fuel + 1, item, children, value =>
    if at0 value = 44 then do
      match ← parseMember fuel (skip value.tail) with
      | none => .ok none
      | some (child, rest) => objectLoop fuel item (children ++ [child]) (skip rest)
    else if at0 value = 125 then .ok (some ({ item with child := children }, value.tail))
    else .ok none

/-- One member of an object: its name, a colon and its value. -/
def parseMember : Nat → Text → C (Option (CJson × Text))
  | 0, _ => .ok none
  | fuel + 1, value => do
    match ← parseString newItem value with
    | none => .ok none
    | some (child, value) =>
      let value := skip value
      let child := { child with string := child.valuestring, valuestring := none }
      if at0 value ≠ 58 then .ok none
      else parseValue fuel child (skip value.tail)

end

/-- The fuel `cJSON_Parse` starts with. -/
def parseFuel (value : Text) : Nat := 3 * value.length + 3

/-- `cJSON_Parse`; `none` is the null pointer of a failed parse. -/
def parse (value : Text) : C (Option CJson) := do
  match ← parseValue (parseFuel (skip value)) newItem (skip value) with
  | none => .ok none
  | some (c, _) => .ok (some c)

end CJson

end SingleTerminalLogin
