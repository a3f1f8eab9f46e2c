import Mathlib.Data.List.TakeWhile
import Mathlib.Data.Nat.Log
import Mathlib.Data.Rat.Floor
import Mathlib.Tactic.FieldSimp
import Mathlib.Tactic.Linarith
import OurDao.Json

/-!
# `Number(v)`

Only the fields a handler reads leniently go through this conversion. A finite
result is the exact value of the nearest double.
-/

namespace OurDao

inductive JsNumber where
  | nan
  | infinite
  | finite (q : ℚ)
  deriving DecidableEq

namespace JsNumber

/-- Round half to even. -/
def roundEven (q : ℚ) : Int :=
  let f := ⌊q⌋
  let r := q - f
  if r < 1 / 2 then f
  else if 1 / 2 < r then f + 1
  else if f % 2 = 0 then f else f + 1

/-- `2 ^ e` for an integer exponent. -/
def pow2 (e : Int) : ℚ := if 0 ≤ e then (2 ^ e.toNat : ℕ) else 1 / (2 ^ (-e).toNat : ℕ)

/-- The double nearest to a rational: 53 significant bits, exponents from -1074 to 971. -/
def ofRat (q : ℚ) : JsNumber :=
  if q = 0 then .finite 0
  else
    let e : Int := Nat.log2 q.num.natAbs - Nat.log2 q.den
    -- the quotient of the two lengths is off by at most one
    let e := if pow2 e ≤ |q| then e else e - 1
    let ulp := pow2 (max (e - 52) (-1074))
    let r := roundEven (q / ulp) * ulp
    if pow2 1024 ≤ |r| then .infinite else .finite r

def isSpace (c : Char) : Bool :=
  let n := c.toNat
  (9 ≤ n && n ≤ 13) || n = 0x20 || n = 0xa0 || n = 0x1680 || (0x2000 ≤ n && n ≤ 0x200a) ||
    n = 0x2028 || n = 0x2029 || n = 0x202f || n = 0x205f || n = 0x3000 || n = 0xfeff

def digitValue (c : Char) : Nat :=
  if c.isDigit then c.toNat - 48
  else if c.isLower then c.toNat - 87
  else if c.isUpper then c.toNat - 55
  else 99

/-- All characters are digits in base `b`, and there is at least one. -/
def digits (b : Nat) (cs : List Char) : Option Nat :=
  if cs.isEmpty || !cs.all (digitValue · < b) then none
  else some (cs.foldl (fun n c => n * b + digitValue c) 0)

def signed (cs : List Char) : Int × List Char :=
  match cs with
  | '-' :: cs => (-1, cs)
  | '+' :: cs => (1, cs)
  | cs => (1, cs)

def exponent (cs : List Char) : Option Int :=
  match cs with
  | [] => some 0
  | c :: cs =>
    if c = 'e' || c = 'E' then
      let (s, cs) := signed cs
      (digits 10 cs).map fun n => s * n
    else none

def unsignedDecimal (cs : List Char) : Option JsNumber :=
  if cs = "Infinity".toList then some .infinite
  else
    let int := cs.takeWhile Char.isDigit
    let cs := cs.dropWhile Char.isDigit
    let (frac, cs) := match cs with
      | '.' :: cs => (cs.takeWhile Char.isDigit, cs.dropWhile Char.isDigit)
      | cs => ([], cs)
    do
      let m ← digits 10 (int ++ frac)
      let e ← exponent cs
      let e := e - frac.length
      return ofRat (if 0 ≤ e then m * (10 ^ e.toNat : ℕ) else m / (10 ^ (-e).toNat : ℕ))

/-- The grammar of a numeric string. -/
def parse (s : JsStr) : JsNumber :=
  let cs := ((s.text.toList.dropWhile isSpace).reverse.dropWhile isSpace).reverse
  if s.lone then .nan
  else match cs with
  | [] => .finite 0
  | '0' :: 'x' :: cs | '0' :: 'X' :: cs => radix 16 cs
  | '0' :: 'o' :: cs | '0' :: 'O' :: cs => radix 8 cs
  | '0' :: 'b' :: cs | '0' :: 'B' :: cs => radix 2 cs
  | cs =>
    let (sign, cs) := signed cs
    match unsignedDecimal cs with
    | some (.finite q) => .finite (sign * q)
    | some n => n
    | none => .nan
where
  radix (b : Nat) (cs : List Char) : JsNumber :=
    match digits b cs with
    | some n => ofRat n
    | none => .nan

@[simp] theorem roundEven_intCast (n : Int) : roundEven n = n := by simp [roundEven]

theorem floor_le_roundEven (q : ℚ) : ⌊q⌋ ≤ roundEven q := by
  unfold roundEven
  dsimp only
  split_ifs <;> omega

theorem roundEven_le (q : ℚ) : roundEven q ≤ ⌊q⌋ + 1 := by
  unfold roundEven
  dsimp only
  split_ifs <;> omega

/-- The quotient of two natural numbers is rounded by twice its remainder. -/
theorem roundEven_natCast_div (n : Nat) {d : Nat} (hd : 0 < d) : roundEven ((n : ℚ) / d) =
    ((n / d + if 2 * (n % d) < d then 0 else if d < 2 * (n % d) then 1 else n / d % 2 : Nat) : Int) := by
  have hd' : (0 : ℚ) < d := by exact_mod_cast hd
  have hrem : (n : ℚ) / d - ((n / d : Nat) : Int) = (n % d : Nat) / d := by
    have hdiv : (n : ℚ) = d * (n / d : Nat) + (n % d : Nat) := by exact_mod_cast (Nat.div_add_mod n d).symm
    rw [sub_eq_iff_eq_add, div_eq_iff hd'.ne', add_mul, div_mul_cancel₀ _ hd'.ne', Int.cast_natCast]
    linarith
  have hlow : ((n % d : Nat) : ℚ) / d < 1 / 2 ↔ 2 * (n % d) < d := by
    rw [div_lt_div_iff₀ hd' (by norm_num), one_mul]
    norm_cast
    rw [Nat.mul_comm]
  have hhigh : (1 : ℚ) / 2 < (n % d : Nat) / d ↔ d < 2 * (n % d) := by
    rw [div_lt_div_iff₀ (by norm_num) hd', one_mul]
    norm_cast
    rw [Nat.mul_comm]
  have hfloor : ⌊(n : ℚ) / d⌋ = ((n / d : Nat) : Int) := by
    rw [Rat.floor_natCast_div_natCast]
    norm_cast
  unfold roundEven
  simp only [hfloor, hrem, hlow, hhigh]
  split_ifs <;> omega

theorem pow2_neg (k : Nat) : pow2 (-k) = 1 / 2 ^ k := by
  rcases k with _ | k
  · norm_num [pow2]
  · rw [pow2, if_neg (by omega)]
    simp

@[simp] theorem pow2_natCast (k : Nat) : pow2 k = 2 ^ k := by
  simp [pow2]

theorem pow2_pos (e : Int) : 0 < pow2 e := by
  unfold pow2
  split_ifs <;> positivity

theorem pow2_le (e : Int) {k : Nat} (h : e ≤ k) : pow2 e ≤ 2 ^ k := by
  unfold pow2
  split_ifs with he
  · have hk : e.toNat ≤ k := by omega
    exact_mod_cast Nat.pow_le_pow_right (by norm_num) hk
  · have hone : (1 : ℚ) / (2 ^ (-e).toNat : ℕ) ≤ 1 := by
      rw [div_le_one (by positivity)]
      exact_mod_cast Nat.one_le_two_pow
    exact hone.trans (by exact_mod_cast Nat.one_le_two_pow)

theorem roundEven_div_bounds {q u : ℚ} (hq : 0 ≤ q) (hu : 0 < u) :
    0 ≤ roundEven (q / u) * u ∧ roundEven (q / u) * u ≤ q + u := by
  have hfloor : 0 ≤ ⌊q / u⌋ := Int.floor_nonneg.mpr (by positivity)
  have hlow : (0 : ℚ) ≤ roundEven (q / u) := by exact_mod_cast hfloor.trans (floor_le_roundEven _)
  have hhigh : (roundEven (q / u) : ℚ) ≤ ⌊q / u⌋ + 1 := by exact_mod_cast roundEven_le _
  refine ⟨mul_nonneg hlow hu.le, ?_⟩
  calc (roundEven (q / u) : ℚ) * u
      ≤ (q / u + 1) * u := mul_le_mul_of_nonneg_right (by linarith [Int.floor_le (q / u)]) hu.le
    _ = q + u := by rw [add_mul, div_mul_cancel₀ _ hu.ne', one_mul]

/-- A natural number is rounded at the last of the 53 bits that start with its highest one. -/
theorem ofRat_natCast {n : Nat} (h : n ≠ 0) (hn : n < 2 ^ 64) :
    ofRat n = .finite (roundEven (n / pow2 (n.log2 - 52)) * pow2 (n.log2 - 52)) := by
  have hlog : n.log2 < 64 := (Nat.log2_lt h).mpr hn
  have hlow : pow2 n.log2 ≤ |(n : ℚ)| := by
    rw [pow2_natCast, Nat.abs_cast]
    exact_mod_cast Nat.log2_self_le h
  have hulp : max ((n.log2 : Int) - 52) (-1074) = n.log2 - 52 := by omega
  have hround := roundEven_div_bounds (Nat.cast_nonneg n) (pow2_pos (n.log2 - 52))
  have hfits : (roundEven ((n : ℚ) / pow2 (n.log2 - 52)) : ℚ) * pow2 (n.log2 - 52) < pow2 1024 := by
    calc (roundEven ((n : ℚ) / pow2 (n.log2 - 52)) : ℚ) * pow2 (n.log2 - 52)
        ≤ n + pow2 (n.log2 - 52) := hround.2
      _ ≤ 2 ^ 64 + 2 ^ 12 := add_le_add (by exact_mod_cast hn.le) (pow2_le _ (by omega))
      _ < 2 ^ 65 := by norm_num
      _ ≤ pow2 1024 := by
        rw [show (1024 : Int) = (1024 : Nat) from rfl, pow2_natCast]
        exact pow_le_pow_right₀ (by norm_num) (by norm_num)
  simp only [ofRat, Nat.cast_eq_zero, h, if_false, Rat.num_natCast, Rat.den_natCast, Int.natAbs_natCast,
    show Nat.log2 1 = 0 from by decide, Int.natCast_zero, sub_zero, if_pos hlow, hulp, abs_of_nonneg hround.1]
  rw [if_neg (not_le.mpr hfits)]

theorem ofRat_exact {n : Nat} (hn : n < 2 ^ 53) : ofRat n = .finite n := by
  rcases eq_or_ne n 0 with rfl | h
  · simp [ofRat]
  have hlog : n.log2 < 53 := (Nat.log2_lt h).mpr hn
  obtain ⟨k, hk⟩ : ∃ k : Nat, (n.log2 : Int) - 52 = -k := ⟨52 - n.log2, by omega⟩
  have hint : (n : ℚ) / (1 / 2 ^ k) = ((n * 2 ^ k : Nat) : Int) := by
    push_cast
    field_simp
  rw [ofRat_natCast h (by omega), hk, pow2_neg, hint, roundEven_intCast]
  push_cast
  field_simp

theorem ofRat_large {n : Nat} (h : 2 ^ 53 ≤ n) (hn : n < 2 ^ 64) :
    ∃ k ≤ 11, 2 ^ (52 + k) ≤ n ∧ n < 2 ^ (53 + k) ∧
      ofRat n = .finite (roundEven (n / 2 ^ k) * 2 ^ k) := by
  have h0 : n ≠ 0 := by omega
  have hlog : n.log2 < 64 := (Nat.log2_lt h0).mpr hn
  have hlow : 53 ≤ n.log2 := (Nat.le_log2 h0).mpr h
  obtain ⟨k, hk⟩ : ∃ k : Nat, n.log2 = 52 + k := ⟨n.log2 - 52, by omega⟩
  refine ⟨k, by omega, hk ▸ Nat.log2_self_le h0, ?_, ?_⟩
  · rw [show 53 + k = n.log2 + 1 by omega]
    exact Nat.lt_log2_self
  · rw [ofRat_natCast h0 hn, show (n.log2 : Int) - 52 = k by omega, pow2_natCast]

theorem digits_eq {cs : List Char} (h : cs ≠ []) (hd : ∀ c ∈ cs, c.isDigit) :
    digits 10 cs = some (Nat.ofDigitChars 10 cs 0) := by
  have hvalue : ∀ c ∈ cs, digitValue c = c.toNat - 48 := fun c hc => by rw [digitValue, if_pos (hd c hc)]
  have hlt : ∀ c ∈ cs, digitValue c < 10 := by
    intro c hc
    rw [hvalue c hc]
    have := Char.isDigit_iff_toNat.mp (hd c hc)
    simp only [Char.reduceToNat] at this
    omega
  have hfold : ∀ n, cs.foldl (fun n c => n * 10 + digitValue c) n = Nat.ofDigitChars 10 cs n := by
    clear h hlt hd
    induction cs with
    | nil => simp
    | cons c cs ih =>
      intro n
      rw [List.foldl_cons, Nat.ofDigitChars_cons, hvalue c (by simp), Nat.mul_comm,
        ih fun c hc => hvalue c (by simp [hc])]
      rfl
  rw [digits, if_neg (by simpa [h] using hlt), hfold]

theorem not_isSpace {c : Char} (h : c.isDigit) : isSpace c = false := by
  have := Char.isDigit_iff_toNat.mp h
  simp only [Char.reduceToNat] at this
  simp [isSpace]
  omega

/-- `trim` leaves a text alone that starts and ends outside white space. -/
theorem dropSpace {cs : List Char} (hd : ∀ c ∈ cs.head?, isSpace c = false) : cs.dropWhile isSpace = cs := by
  cases cs with
  | nil => rfl
  | cons c cs => simp [hd c (by simp)]

theorem parse_digits {cs : List Char} (h : cs ≠ []) (hd : ∀ c ∈ cs, c.isDigit) :
    parse (JsStr.ofString (String.ofList cs)) = ofRat (Nat.ofDigitChars 10 cs 0) := by
  have hfront : cs.dropWhile isSpace = cs := dropSpace fun c hc => not_isSpace (hd c (List.mem_of_mem_head? hc))
  have hback : cs.reverse.dropWhile isSpace = cs.reverse :=
    dropSpace fun c hc => not_isSpace (hd c (List.mem_reverse.mp (List.mem_of_mem_head? hc)))
  have hletter : ∀ c ∈ cs, c ≠ 'x' ∧ c ≠ 'X' ∧ c ≠ 'o' ∧ c ≠ 'O' ∧
      c ≠ 'b' ∧ c ≠ 'B' ∧ c ≠ '-' ∧ c ≠ '+' ∧ c ≠ 'I' := by
    intro c hc
    refine ⟨?_, ?_, ?_, ?_, ?_, ?_, ?_, ?_, ?_⟩ <;> rintro rfl <;> exact absurd (hd _ hc) (by decide)
  have hI : cs ≠ "Infinity".toList := by
    intro hcs
    exact (hletter 'I' (hcs ▸ by decide)).2.2.2.2.2.2.2.2 rfl
  have hunsigned : unsignedDecimal cs = some (ofRat (Nat.ofDigitChars 10 cs 0)) := by
    rw [unsignedDecimal, if_neg hI, List.takeWhile_eq_self_iff.mpr hd, List.dropWhile_eq_nil_iff.mpr hd]
    simp [digits_eq h hd, exponent]
  have hsigned : signed cs = (1, cs) := by
    unfold signed
    split
    next => simp at hletter
    next => simp at hletter
    next => rfl
  simp only [parse, JsStr.text_ofString, JsStr.lone_ofString, String.toList_ofList, hfront, hback,
    List.reverse_reverse, Bool.false_eq_true, if_false]
  split
  next => simp at h
  next => simp at hletter
  next => simp at hletter
  next => simp at hletter
  next => simp at hletter
  next => simp at hletter
  next => simp at hletter
  next =>
    rw [hsigned, hunsigned]
    rcases ofRat (Nat.ofDigitChars 10 cs 0) with _ | _ | q <;> simp

end JsNumber

open JsNumber in
/-- `Number(v)`. An array goes through its text; an object is no number, unless its own
`toString` key makes even that conversion fail. -/
def number : Json → Except String JsNumber
  | .null => .ok (.finite 0)
  | .bool b => .ok (.finite (if b then 1 else 0))
  | .num n => .ok (.finite n)
  | .str s => .ok (parse s)
  | .arr vs => (Json.toStr (.arr vs)).map parse
  | .obj kvs => (Json.toStr (.obj kvs)).map fun _ => .nan

end OurDao
