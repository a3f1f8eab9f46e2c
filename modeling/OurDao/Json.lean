import Mathlib.Data.String.Basic

/-!
# Values an event carries, and what storing them does

`Native` is what the SDK's `scValToNative` yields, `Json` what is left of it after
`toJsonSafe`. A JSONB column refuses some values, and puts the keys of an object in
an order of its own; nothing else about a value is lost there.
-/

namespace OurDao

/-- A JavaScript string: the text its UTF-8 encoding carries, and whether it holds a
lone surrogate, which UTF-8 cannot carry. -/
structure JsStr where
  text : String
  lone : Bool
  deriving DecidableEq, Repr

namespace JsStr

def ofString (s : String) : JsStr := ⟨s, false⟩

instance : Coe String JsStr := ⟨ofString⟩

@[simp] theorem text_ofString (s : String) : (ofString s).text = s := rfl
@[simp] theorem lone_ofString (s : String) : (ofString s).lone = false := rfl

def hasNul (s : JsStr) : Bool := s.text.toList.contains '\x00'

/-- The strings Postgres can hold, in a TEXT column as in a JSONB one. -/
def storable (s : JsStr) : Bool := !s.hasNul && !s.lone

theorem ofString_text {s : JsStr} (h : s.lone = false) : ofString s.text = s := by rw [ofString, ← h]

theorem lone_of_storable {s : JsStr} (h : s.storable = true) : s.lone = false := by
  simp only [storable, Bool.and_eq_true, Bool.not_eq_true'] at h
  exact h.2

/-- An array index, which JavaScript enumerates before the other keys of an object. -/
def isIndex (s : JsStr) : Bool :=
  let cs := s.text.toList
  !s.lone && !cs.isEmpty && cs.all Char.isDigit && (cs.length = 1 || cs.head? ≠ some '0')

/-- The order in which the keys of a parsed JSONB object are enumerated. -/
def before (a b : JsStr) : Bool :=
  if a.isIndex ≠ b.isIndex then a.isIndex
  else if a.text.utf8ByteSize ≠ b.text.utf8ByteSize then
    a.text.utf8ByteSize < b.text.utf8ByteSize
  else a.text < b.text

end JsStr

inductive Native where
  | null
  | bool (b : Bool)
  /-- `u32` and `i32`, the only integers that become JavaScript numbers -/
  | num (n : Int)
  | bigint (n : Int)
  | str (s : JsStr)
  | bytes (bs : List UInt8)
  | arr (vs : List Native)
  | map (kvs : List (JsStr × Native))

inductive Json where
  | null
  | bool (b : Bool)
  | num (n : Int)
  | str (s : JsStr)
  | arr (vs : List Json)
  | obj (kvs : List (JsStr × Json))
  deriving Repr

/-- Recursively convert bigints to strings so values survive JSON/JSONB. -/
def toJsonSafe : Native → Json
  | .null => .null
  | .bool b => .bool b
  | .num n => .num n
  | .bigint n => .str (JsStr.ofString (toString n))
  | .str s => .str s
  -- a byte array is an object to `Object.entries`: one key per index
  | .bytes bs => .obj (bs.zipIdx.map fun b => (JsStr.ofString (toString b.2), .num b.1.toNat))
  | .arr vs => .arr (safeList vs)
  | .map kvs => .obj (safeFields kvs)
where
  safeList : List Native → List Json
    | [] => []
    | v :: vs => toJsonSafe v :: safeList vs
  safeFields : List (JsStr × Native) → List (JsStr × Json)
    | [] => []
    | (k, v) :: kvs => (k, toJsonSafe v) :: safeFields kvs

namespace Json

/-- The value under an own key of an object. -/
def find? (k : JsStr) (kvs : List (JsStr × Json)) : Option Json := kvs.lookup k

@[simp] theorem find?_nil (j : JsStr) : find? j [] = none := rfl

@[simp] theorem find?_cons (j k : JsStr) (v : Json) (kvs : List (JsStr × Json)) :
    find? j ((k, v) :: kvs) = if j = k then some v else find? j kvs := by
  rw [find?, List.lookup_cons]
  by_cases hj : j = k
  · simp [hj]
  · simp [hj, beq_false_of_ne hj, find?]

def isNull : Json → Bool
  | .null => true
  | _ => false

def insertKey (k : JsStr) (v : Json) : List (JsStr × Json) → List (JsStr × Json)
  | [] => [(k, v)]
  | (k', v') :: kvs =>
    if k = k' then (k, v) :: kvs
    else if k.before k' then (k, v) :: (k', v') :: kvs
    else (k', v') :: insertKey k v kvs

/-- The value a JSONB column gives back. -/
def normalize : Json → Json
  | .arr vs => .arr (normalizeList vs)
  | .obj kvs => .obj (normalizeFields kvs)
  | v => v
where
  normalizeList : List Json → List Json
    | [] => []
    | v :: vs => normalize v :: normalizeList vs
  normalizeFields : List (JsStr × Json) → List (JsStr × Json)
    | [] => []
    | (k, v) :: kvs => insertKey k (normalize v) (normalizeFields kvs)

def stringFault (s : JsStr) : Option String :=
  if s.hasNul then some "unsupported Unicode escape sequence"
  else if s.lone then some "invalid input syntax for type json"
  else none

/-- Why Postgres refuses the value, if it does: a NUL character or a lone surrogate
in any string or key at any depth. -/
def fault : Json → Option String
  | .str s => stringFault s
  | .arr vs => faultList vs
  | .obj kvs => faultFields kvs
  | _ => none
where
  faultList : List Json → Option String
    | [] => none
    | v :: vs => fault v <|> faultList vs
  faultFields : List (JsStr × Json) → Option String
    | [] => none
    | (k, v) :: kvs => stringFault k <|> fault v <|> faultFields kvs

def cannotConvert : String := "Cannot convert object to primitive value"

/-- `String(v)`. An object prints as `[object Object]` unless a key of its own hides
`toString`. -/
def toStr : Json → Except String JsStr
  | .null => .ok "null"
  | .bool b => .ok (JsStr.ofString (if b then "true" else "false"))
  | .num n => .ok (JsStr.ofString (toString n))
  | .str s => .ok s
  | .arr vs => joined vs
  | .obj kvs => if (find? "toString" kvs).isSome then .error cannotConvert else .ok "[object Object]"
where
  joined : List Json → Except String JsStr
    | [] => .ok ""
    | v :: vs => do
      let s ← if v.isNull then pure (JsStr.ofString "") else toStr v
      let rest ← joined vs
      if vs.isEmpty then return s
      return ⟨s.text ++ "," ++ rest.text, s.lone || rest.lone⟩

theorem find?_insertKey (j k : JsStr) (v : Json) (kvs : List (JsStr × Json)) :
    find? j (insertKey k v kvs) = if j = k then some v else find? j kvs := by
  induction kvs with
  | nil => simp [insertKey]
  | cons kv kvs ih =>
    obtain ⟨k', v'⟩ := kv
    rw [insertKey]
    split
    next hk => by_cases hj : j = k <;> simp_all
    next hk =>
      split
      · simp
      · rcases eq_or_ne j k' with rfl | hj
        · have hjk : j ≠ k := fun h => hk h.symm
          simp [hjk]
        · simp [hj, ih]

theorem find?_normalizeFields (k : JsStr) (kvs : List (JsStr × Json)) :
    find? k (normalize.normalizeFields kvs) = (find? k kvs).map normalize := by
  induction kvs with
  | nil => rfl
  | cons kv kvs ih =>
    obtain ⟨k', v'⟩ := kv
    rw [normalize.normalizeFields, find?_insertKey, ih]
    by_cases hk : k = k' <;> simp [hk]

@[simp] theorem isNull_normalize (v : Json) : (normalize v).isNull = v.isNull := by
  cases v <;> rfl

mutual

theorem toStr_normalize : ∀ v : Json, toStr (normalize v) = toStr v
  | .null => rfl
  | .bool _ => rfl
  | .num _ => rfl
  | .str _ => rfl
  | .arr vs => by simpa [normalize, toStr] using joined_normalizeList vs
  | .obj kvs => by simp [normalize, toStr, find?_normalizeFields]

theorem joined_normalizeList : ∀ vs : List Json,
    toStr.joined (normalize.normalizeList vs) = toStr.joined vs
  | [] => rfl
  | v :: vs => by
    have hempty : (normalize.normalizeList vs).isEmpty = vs.isEmpty := by cases vs <;> rfl
    rw [normalize.normalizeList, toStr.joined, toStr.joined, joined_normalizeList vs, hempty,
      toStr_normalize v, isNull_normalize]

end

def escape (c : Char) : String :=
  if c = '"' then "\\\""
  else if c = '\\' then "\\\\"
  else if c = '\n' then "\\n"
  else if c = '\r' then "\\r"
  else if c = '\t' then "\\t"
  else if c = '\x08' then "\\b"
  else if c = '\x0c' then "\\f"
  else if c.toNat < 32 then
    "\\u00" ++ String.ofList [Nat.digitChar (c.toNat / 16), Nat.digitChar (c.toNat % 16)]
  else String.ofList [c]

def quote (s : JsStr) : String := "\"" ++ String.join (s.text.toList.map escape) ++ "\""

/-- `JSON.stringify`, as the texts of the errors use it. -/
def stringify : Json → String
  | .null => "null"
  | .bool b => if b then "true" else "false"
  | .num n => toString n
  | .str s => quote s
  | .arr vs => "[" ++ ",".intercalate (stringifyList vs) ++ "]"
  | .obj kvs => "\x7b" ++ ",".intercalate (stringifyFields kvs) ++ "\x7d"
where
  stringifyList : List Json → List String
    | [] => []
    | v :: vs => stringify v :: stringifyList vs
  stringifyFields : List (JsStr × Json) → List String
    | [] => []
    | (k, v) :: kvs => (quote k ++ ":" ++ stringify v) :: stringifyFields kvs

end Json

end OurDao
