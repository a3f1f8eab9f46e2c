import Mathlib.Order.WithBot
import OurDao.JsNumber

/-!
# `JSON.parse`

The text is read one character at a time, by a machine whose stack holds the arrays and
objects that are still open. What it yields may be any JSON value, an object or not.
-/

namespace OurDao

/-- What a number of a JSON text is read as: the nearest double, which may be an infinity but is never `NaN`. -/
abbrev JsonNumber : Type := WithBot (WithTop ℚ)

inductive JsonValue where
  | null
  | bool (b : Bool)
  | num (n : JsonNumber)
  | str (s : JsStr)
  | arr (vs : List JsonValue)
  | obj (kvs : List (JsStr × JsonValue))

namespace JsonValue

/-- A property that no prototype has; of several members of one name the last counts. -/
def get? (name : String) : JsonValue → Option JsonValue
  | obj kvs => kvs.reverse.lookup (JsStr.ofString name)
  | _ => none

/-- `v`, if `typeof v === 'number'`. -/
def number? : JsonValue → Option JsonNumber
  | num n => some n
  | _ => none

def isObject : JsonValue → Bool
  | obj _ => true
  | _ => false

end JsonValue

namespace JSON

/-- An array or an object that is still open, with its members so far, the last one first. -/
inductive Container where
  | arr (vs : List JsonValue)
  | obj (kvs : List (JsStr × JsonValue)) (key : Option JsStr)

/-- What comes next, or what the machine is in the middle of. -/
inductive Mode where
  | value
  | firstElement
  | firstKey
  | key
  | colon
  /-- a comma or the end of the innermost container -/
  | after
  | literal (rest : List Char) (v : JsonValue)
  | number (cs : List Char)
  /-- a string by its UTF-16 code units -/
  | string (isKey : Bool) (units : List Nat)
  | escape (isKey : Bool) (units : List Nat)
  | hex (isKey : Bool) (units : List Nat) (digits : List Char)
  /-- the value is complete, and only blanks may follow -/
  | done (v : JsonValue)

structure Reader where
  mode : Mode := .value
  stack : List Container := []

def isBlank (c : Char) : Bool := c = ' ' || c = '\t' || c = '\n' || c = '\r'

def isNumberChar (c : Char) : Bool := c.isDigit || c = '-' || c = '+' || c = '.' || c = 'e' || c = 'E'

/-- The grammar of a number, without a sign. -/
def unsignedNumber (cs : List Char) : Option JsNumber :=
  let int := cs.takeWhile Char.isDigit
  let cs := cs.dropWhile Char.isDigit
  let (frac, cs) := match cs with
    | '.' :: cs => (some (cs.takeWhile Char.isDigit), cs.dropWhile Char.isDigit)
    | cs => (none, cs)
  if int.isEmpty || (int.head? = some '0' && 1 < int.length) || frac = some [] then none
  else do
    let m ← JsNumber.digits 10 (int ++ frac.getD [])
    let e ← JsNumber.exponent cs
    let e := e - (frac.getD []).length
    return JsNumber.ofRat (if 0 ≤ e then m * (10 ^ e.toNat : ℕ) else m / (10 ^ (-e).toNat : ℕ))

def number (cs : List Char) : Option JsonNumber :=
  let (minus, cs) := match cs with
    | '-' :: cs => (true, cs)
    | cs => (false, cs)
  match unsignedNumber cs with
  | some (.finite q) => some (((if minus then -q else q : ℚ) : WithTop ℚ) : JsonNumber)
  | some .infinite => some (if minus then ⊥ else ⊤)
  | _ => none

/-- The UTF-16 code units of a character. -/
def unitsOf (c : Char) : List Nat :=
  let n := c.toNat
  if n < 0x10000 then [n] else [0xd800 + (n - 0x10000) / 0x400, 0xdc00 + (n - 0x10000) % 0x400]

def isHigh (u : Nat) : Bool := 0xd800 ≤ u && u < 0xdc00

def isLow (u : Nat) : Bool := 0xdc00 ≤ u && u < 0xe000

/-- The characters of code units, and whether a surrogate stands alone among them. -/
def charsOf : List Nat → List Char × Bool
  | [] => ([], false)
  | [u] => if isHigh u || isLow u then ([], true) else ([Char.ofNat u], false)
  | u :: u' :: us =>
    if isHigh u && isLow u' then
      let (cs, lone) := charsOf us
      (Char.ofNat (0x10000 + (u - 0xd800) * 0x400 + (u' - 0xdc00)) :: cs, lone)
    else
      let (cs, lone) := charsOf (u' :: us)
      if isHigh u || isLow u then (cs, true) else (Char.ofNat u :: cs, lone)

def stringOf (units : List Nat) : JsStr :=
  let (cs, lone) := charsOf units
  ⟨String.ofList cs, lone⟩

def unescape : Char → Option Nat
  | '"' => some 34
  | '\\' => some 92
  | '/' => some 47
  | 'b' => some 8
  | 'f' => some 12
  | 'n' => some 10
  | 'r' => some 13
  | 't' => some 9
  | _ => none

/-- A value is complete. -/
def complete (v : JsonValue) : List Container → Option Reader
  | [] => some { mode := .done v }
  | .arr vs :: stack => some ⟨.after, .arr (v :: vs) :: stack⟩
  | .obj kvs (some key) :: stack => some ⟨.after, .obj ((key, v) :: kvs) none :: stack⟩
  | .obj _ none :: _ => none

def closeArray : List Container → Option Reader
  | .arr vs :: stack => complete (.arr vs.reverse) stack
  | _ => none

def closeObject : List Container → Option Reader
  | .obj kvs none :: stack => complete (.obj kvs.reverse) stack
  | _ => none

/-- A string is complete, as a value or as a key. -/
def closeString (isKey : Bool) (units : List Nat) (stack : List Container) : Option Reader :=
  if isKey then
    match stack with
    | .obj kvs _ :: stack => some ⟨.colon, .obj kvs (some (stringOf units)) :: stack⟩
    | _ => none
  else complete (.str (stringOf units)) stack

/-- The first character of a value. -/
def beginValue (stack : List Container) (c : Char) : Option Reader :=
  if c = 'n' then some ⟨.literal ['u', 'l', 'l'] .null, stack⟩
  else if c = 't' then some ⟨.literal ['r', 'u', 'e'] (.bool true), stack⟩
  else if c = 'f' then some ⟨.literal ['a', 'l', 's', 'e'] (.bool false), stack⟩
  else if c = '"' then some ⟨.string false [], stack⟩
  else if c = '[' then some ⟨.firstElement, .arr [] :: stack⟩
  else if c = '\x7b' then some ⟨.firstKey, .obj [] none :: stack⟩
  else if c.isDigit || c = '-' then some ⟨.number [c], stack⟩
  else none

/-- One character, where no number is being read. -/
def stepSymbol (r : Reader) (c : Char) : Option Reader :=
  match r.mode with
  | .value => if isBlank c then some r else beginValue r.stack c
  | .firstElement => if isBlank c then some r else if c = ']' then closeArray r.stack else beginValue r.stack c
  | .firstKey =>
    if isBlank c then some r
    else if c = '\x7d' then closeObject r.stack
    else if c = '"' then some ⟨.string true [], r.stack⟩
    else none
  | .key => if isBlank c then some r else if c = '"' then some ⟨.string true [], r.stack⟩ else none
  | .colon => if isBlank c then some r else if c = ':' then some ⟨.value, r.stack⟩ else none
  | .after =>
    if isBlank c then some r
    else if c = ']' then closeArray r.stack
    else if c = '\x7d' then closeObject r.stack
    else if c = ',' then
      match r.stack with
      | .arr _ :: _ => some ⟨.value, r.stack⟩
      | .obj .. :: _ => some ⟨.key, r.stack⟩
      | [] => none
    else none
  | .literal rest v =>
    match rest with
    | [] => none
    | [d] => if c = d then complete v r.stack else none
    | d :: rest => if c = d then some ⟨.literal rest v, r.stack⟩ else none
  | .string isKey units =>
    if c = '"' then closeString isKey units r.stack
    else if c = '\\' then some ⟨.escape isKey units, r.stack⟩
    else if c.toNat < 32 then none
    else some ⟨.string isKey (units ++ unitsOf c), r.stack⟩
  | .escape isKey units =>
    if c = 'u' then some ⟨.hex isKey units [], r.stack⟩
    else (unescape c).map fun unit => ⟨.string isKey (units ++ [unit]), r.stack⟩
  | .hex isKey units digits =>
    if 16 ≤ JsNumber.digitValue c then none
    else if digits.length < 3 then some ⟨.hex isKey units (digits ++ [c]), r.stack⟩
    else (JsNumber.digits 16 (digits ++ [c])).map fun unit => ⟨.string isKey (units ++ [unit]), r.stack⟩
  | .done _ => if isBlank c then some r else none
  | .number _ => none

/-- One character; the first that is no part of a number ends it. -/
def step (r : Reader) (c : Char) : Option Reader :=
  match r.mode with
  | .number cs =>
    if isNumberChar c then some ⟨.number (cs ++ [c]), r.stack⟩
    else do
      let n ← number cs
      let r ← complete (.num n) r.stack
      stepSymbol r c
  | _ => stepSymbol r c

/-- The end of the text. -/
def finish (r : Reader) : Option JsonValue :=
  match r.mode, r.stack with
  | .done v, _ => some v
  | .number cs, [] => (number cs).map .num
  | _, _ => none

/-- `JSON.parse(text)`, none where it throws. -/
def parse (text : String) : Option JsonValue := (text.toList.foldlM step {}).bind finish

end JSON

end OurDao
