import OurDao.JsNumber

/-!
# Numbers as text

The exact value of a numeric string, which `Number` rounds, and the digits that `toString` writes
for a double. The driver sends numbers as text, so this is also what Postgres reads.
-/

namespace OurDao

namespace JsNumber

/-- The value of an unsigned decimal literal, before it is rounded. -/
def exactDecimal (cs : List Char) : Option ℚ :=
  let int := cs.takeWhile Char.isDigit
  let cs := cs.dropWhile Char.isDigit
  let (frac, cs) := match cs with
    | '.' :: cs => (cs.takeWhile Char.isDigit, cs.dropWhile Char.isDigit)
    | cs => ([], cs)
  do
    let m ← digits 10 (int ++ frac)
    let e ← exponent cs
    let e := e - frac.length
    return if 0 ≤ e then m * (10 ^ e.toNat : ℕ) else m / (10 ^ (-e).toNat : ℕ)

/-- The value of a numeric string, before it is rounded. -/
def exactValue (s : JsStr) : Option ℚ :=
  let cs := ((s.text.toList.dropWhile isSpace).reverse.dropWhile isSpace).reverse
  if s.lone then none
  else match cs with
  | [] => some 0
  | '0' :: 'x' :: cs | '0' :: 'X' :: cs => (digits 16 cs).map Nat.cast
  | '0' :: 'o' :: cs | '0' :: 'O' :: cs => (digits 8 cs).map Nat.cast
  | '0' :: 'b' :: cs | '0' :: 'B' :: cs => (digits 2 cs).map Nat.cast
  | cs =>
    let (sign, cs) := signed cs
    (exactDecimal cs).map fun x => sign * x

/-- The end of both readings of a decimal literal. -/
theorem decimal_map (int : List Char) (parts : List Char × List Char) (f : Nat → Int → ℚ) :
    (do let m ← digits 10 (int ++ parts.1); let e ← exponent parts.2; return ofRat (f m (e - parts.1.length))) =
      (do
        let m ← digits 10 (int ++ parts.1)
        let e ← exponent parts.2
        return f m (e - parts.1.length) : Option ℚ).map ofRat := by
  cases digits 10 (int ++ parts.1) with
  | none => rfl
  | some m => cases exponent parts.2 <;> rfl

theorem unsignedDecimal_eq {cs : List Char} (h : cs ≠ "Infinity".toList) :
    unsignedDecimal cs = (exactDecimal cs).map ofRat := by
  rw [unsignedDecimal, if_neg h]
  exact decimal_map (cs.takeWhile Char.isDigit) _
    fun m e => if 0 ≤ e then m * (10 ^ e.toNat : ℕ) else m / (10 ^ (-e).toNat : ℕ)

theorem exactDecimal_nonneg {cs : List Char} {x : ℚ} (h : exactDecimal cs = some x) : 0 ≤ x := by
  rw [exactDecimal] at h
  dsimp only at h
  generalize (match cs.dropWhile Char.isDigit with
    | '.' :: cs => (cs.takeWhile Char.isDigit, cs.dropWhile Char.isDigit)
    | cs => ([], cs)) = parts at h
  obtain ⟨frac, rest⟩ := parts
  dsimp only at h
  obtain ⟨m, -, h⟩ := Option.bind_eq_some_iff.mp h
  obtain ⟨e, -, h⟩ := Option.bind_eq_some_iff.mp h
  cases h
  split_ifs <;> positivity

/-- The value of the last of the 53 bits of the double nearest to a number. -/
def lastBit (x : ℚ) : ℚ :=
  let e : Int := Nat.log2 x.num.natAbs - Nat.log2 x.den
  let e := if pow2 e ≤ |x| then e else e - 1
  pow2 (max (e - 52) (-1074))

theorem lastBit_pos (x : ℚ) : 0 < lastBit x := pow2_pos _

theorem ofRat_eq_lastBit {x : ℚ} (hx : x ≠ 0) :
    ofRat x = if pow2 1024 ≤ |roundEven (x / lastBit x) * lastBit x| then .infinite
      else .finite (roundEven (x / lastBit x) * lastBit x) :=
  if_neg hx

theorem ofRat_eq_finite {x q : ℚ} (hx : x ≠ 0) (h : ofRat x = .finite q) :
    q = roundEven (x / lastBit x) * lastBit x := by
  rw [ofRat_eq_lastBit hx] at h
  split at h
  next => cases h
  next =>
    cases h
    rfl

theorem ofRat_nonneg {x q : ℚ} (hx : 0 ≤ x) (h : ofRat x = .finite q) : 0 ≤ q := by
  by_cases hzero : x = 0
  · rw [hzero, ofRat, if_pos rfl] at h
    cases h
    exact le_rfl
  · rw [ofRat_eq_finite hzero h]
    exact (roundEven_div_bounds hx (lastBit_pos x)).1

theorem lastBit_natCast {n : Nat} (h : 2 ^ 52 ≤ n) : lastBit n = (2 ^ (n.log2 - 52) : Nat) := by
  have h0 : n ≠ 0 := by omega
  have hlog : 52 ≤ n.log2 := (Nat.le_log2 h0).mpr h
  have hlow : pow2 n.log2 ≤ |(n : ℚ)| := by
    rw [pow2_natCast, Nat.abs_cast]
    exact_mod_cast Nat.log2_self_le h0
  have hbit : max ((n.log2 : Int) - 52) (-1074) = (n.log2 - 52 : Nat) := by omega
  simp only [lastBit, Rat.num_natCast, Rat.den_natCast, Int.natAbs_natCast, show Nat.log2 1 = 0 from by decide,
    Int.natCast_zero, sub_zero, if_pos hlow]
  rw [hbit, pow2_natCast]
  norm_cast

/-- The natural number that has `log2 n - 52` zeros at its end is at most `n`. -/
theorem two_pow_le_div {n : Nat} (hlog : 52 ≤ n.log2) : 2 ^ 52 ≤ n / 2 ^ (n.log2 - 52) := by
  have h0 : n ≠ 0 := by
    rintro rfl
    simp at hlog
  rw [Nat.le_div_iff_mul_le (by positivity), ← pow_add, Nat.add_sub_cancel' hlog]
  exact Nat.log2_self_le h0

/-- A natural number is not rounded below a power of two. -/
theorem two_pow_le_ofRat {n k : Nat} {q : ℚ} (hk : 52 ≤ k) (hn : 2 ^ k ≤ n) (h : ofRat n = .finite q) :
    2 ^ k ≤ q := by
  have h0 : n ≠ 0 := (Nat.two_pow_pos k).trans_le hn |>.ne'
  have hlog : k ≤ n.log2 := (Nat.le_log2 h0).mpr hn
  have hround : ((2 ^ 52 : Nat) : Int) ≤ roundEven ((n : ℚ) / (2 ^ (n.log2 - 52) : Nat)) := by
    rw [roundEven_natCast_div n (by positivity)]
    exact_mod_cast (two_pow_le_div (by omega)).trans (Nat.le_add_right _ _)
  have hbit : (2 ^ (k - 52) : ℚ) ≤ (2 ^ (n.log2 - 52) : Nat) := by
    exact_mod_cast Nat.pow_le_pow_right (by decide) (by omega)
  rw [ofRat_eq_finite (by exact_mod_cast h0) h,
    lastBit_natCast ((Nat.pow_le_pow_right (by decide) hk).trans hn)]
  calc (2 : ℚ) ^ k = (2 ^ 52 : Nat) * 2 ^ (k - 52) := by
        rw [Nat.cast_pow, Nat.cast_ofNat, ← pow_add, Nat.add_sub_cancel' hk]
    _ ≤ roundEven ((n : ℚ) / (2 ^ (n.log2 - 52) : Nat)) * (2 ^ (n.log2 - 52) : Nat) :=
      mul_le_mul (by exact_mod_cast hround) hbit (by positivity) (by exact_mod_cast (by positivity : (0 : ℤ) ≤ _))

/-- A natural number is not rounded above a power of two. -/
theorem ofRat_le_two_pow {n k : Nat} {q : ℚ} (hn : n < 2 ^ k) (h : ofRat n = .finite q) : q ≤ 2 ^ k := by
  by_cases hsmall : n < 2 ^ 53
  · rw [ofRat_exact hsmall] at h
    cases h
    exact_mod_cast hn.le
  have h0 : n ≠ 0 := by omega
  have hlog : 53 ≤ n.log2 := (Nat.le_log2 h0).mpr (by omega)
  have hk : n.log2 < k := (Nat.log2_lt h0).mpr hn
  have hquotient : n / 2 ^ (n.log2 - 52) < 2 ^ 53 := by
    rw [Nat.div_lt_iff_lt_mul (by positivity), ← pow_add, show 53 + (n.log2 - 52) = n.log2 + 1 by omega]
    exact Nat.lt_log2_self
  have hround : roundEven ((n : ℚ) / (2 ^ (n.log2 - 52) : Nat)) ≤ ((2 ^ 53 : Nat) : Int) := by
    refine (roundEven_le _).trans ?_
    rw [Rat.floor_natCast_div_natCast]
    exact_mod_cast hquotient
  rw [ofRat_eq_finite (by exact_mod_cast h0) h, lastBit_natCast (by omega)]
  calc (roundEven ((n : ℚ) / (2 ^ (n.log2 - 52) : Nat)) : ℚ) * (2 ^ (n.log2 - 52) : Nat)
      ≤ (2 ^ 53 : Nat) * (2 ^ (n.log2 - 52) : Nat) :=
        mul_le_mul_of_nonneg_right (by exact_mod_cast hround) (Nat.cast_nonneg _)
    _ = 2 ^ (n.log2 + 1) := by
      rw [Nat.cast_pow, Nat.cast_pow, Nat.cast_ofNat, ← pow_add, show 53 + (n.log2 - 52) = n.log2 + 1 by omega]
    _ ≤ 2 ^ k := pow_le_pow_right₀ (by norm_num) hk

theorem roundEven_neg (q : ℚ) : roundEven (-q) = -roundEven q := by
  have hfloor : (⌊q⌋ : ℚ) ≤ q := Int.floor_le q
  have hlt : q < ⌊q⌋ + 1 := Int.lt_floor_add_one q
  by_cases hint : q = ⌊q⌋
  · have hneg : -q = ((-⌊q⌋ : ℤ) : ℚ) := by rw [Int.cast_neg, ← hint]
    rw [hneg, roundEven_intCast]
    conv_rhs => rw [hint, roundEven_intCast]
  · have hfloorNeg : ⌊-q⌋ = -⌊q⌋ - 1 := by
      rw [Int.floor_eq_iff]
      push_cast
      have hstrict : (⌊q⌋ : ℚ) < q := lt_of_le_of_ne hfloor (Ne.symm hint)
      constructor <;> linarith
    have hrest : -q - ((-⌊q⌋ - 1 : ℤ) : ℚ) = 1 - (q - ⌊q⌋) := by
      push_cast
      ring
    unfold roundEven
    dsimp only
    rw [hfloorNeg, hrest]
    split_ifs <;> first | omega | linarith

/-- Rounding does not depend on the sign. -/
theorem ofRat_neg {x q : ℚ} (h : ofRat x = .finite q) : ofRat (-x) = .finite (-q) := by
  by_cases hx : x = 0
  · rw [hx, ofRat, if_pos rfl] at h
    cases h
    rw [hx, neg_zero, ofRat, if_pos rfl]
  · have hbit : lastBit (-x) = lastBit x := by
      simp only [lastBit, Rat.neg_num, Rat.neg_den, Int.natAbs_neg, abs_neg]
    have hvalue : roundEven (-x / lastBit (-x)) * lastBit (-x) = -(roundEven (x / lastBit x) * lastBit x) := by
      rw [hbit, neg_div, roundEven_neg, Int.cast_neg, neg_mul]
    rw [ofRat_eq_lastBit hx] at h
    rw [ofRat_eq_lastBit (neg_ne_zero.mpr hx), hvalue, abs_neg]
    split at h
    next => cases h
    next hfits =>
      cases h
      rw [if_neg hfits]

theorem ofRat_intCast {n : Int} (hn : |n| < 2 ^ 53) : ofRat n = .finite n := by
  obtain ⟨m, rfl | rfl⟩ := Int.eq_nat_or_neg n
  · rw [Nat.abs_cast] at hn
    exact ofRat_exact (by exact_mod_cast hn)
  · rw [abs_neg, Nat.abs_cast] at hn
    have hround := ofRat_neg (ofRat_exact (n := m) (by exact_mod_cast hn))
    rw [Int.cast_neg, Int.cast_natCast, hround]

/-- An integer outside the safe range is not rounded into it. -/
theorem le_abs_ofRat {n : Int} {q : ℚ} (hn : 2 ^ 53 ≤ |n|) (h : ofRat n = .finite q) : 2 ^ 53 ≤ |q| := by
  obtain ⟨m, rfl | rfl⟩ := Int.eq_nat_or_neg n
  · rw [Nat.abs_cast] at hn
    exact (two_pow_le_ofRat (k := 53) (by decide) (by exact_mod_cast hn) h).trans (le_abs_self q)
  · rw [abs_neg, Nat.abs_cast] at hn
    have hround := ofRat_neg h
    rw [Int.cast_neg, Int.cast_natCast, neg_neg] at hround
    have hlarge := two_pow_le_ofRat (k := 53) (by decide) (by exact_mod_cast hn) hround
    exact hlarge.trans (neg_le_abs q)

theorem signed_fst (cs : List Char) : (signed cs).1 = 1 ∨ (signed cs).1 = -1 := by
  unfold signed
  split
  · exact .inr rfl
  · exact .inl rfl
  · exact .inl rfl

theorem exactValue_of_signed {cs : List Char} {q : ℚ}
    (h : (match unsignedDecimal (signed cs).2 with
      | some (.finite q) => .finite ((signed cs).1 * q)
      | some n => n
      | none => .nan) = finite q) (hq : 0 < q) :
    ∃ x : ℚ, 0 ≤ x ∧ (exactDecimal (signed cs).2).map (fun x => ((signed cs).1 : ℚ) * x) = some x ∧
      ofRat x = .finite q := by
  by_cases hinfinity : (signed cs).2 = "Infinity".toList
  · rw [unsignedDecimal, if_pos hinfinity] at h
    cases h
  rw [unsignedDecimal_eq hinfinity] at h
  cases hx : exactDecimal (signed cs).2 with
  | none =>
    rw [hx] at h
    cases h
  | some x =>
    have hnonneg := exactDecimal_nonneg hx
    rw [hx, Option.map_some] at h
    cases hround : ofRat x with
    | nan =>
      rw [hround] at h
      cases h
    | infinite =>
      rw [hround] at h
      cases h
    | finite r =>
      rw [hround] at h
      have hvalue := finite.inj h
      have hr := ofRat_nonneg hnonneg hround
      obtain hsign | hsign := signed_fst cs
      · rw [hsign] at hvalue ⊢
        push_cast at hvalue ⊢
        rw [one_mul] at hvalue
        exact ⟨x, hnonneg, by rw [Option.map_some, one_mul], by rw [hround, hvalue]⟩
      · rw [hsign] at hvalue
        push_cast at hvalue
        linarith

theorem exactValue_of_radix {b : Nat} {cs : List Char} {q : ℚ} (h : parse.radix b cs = .finite q) :
    ∃ x : ℚ, 0 ≤ x ∧ (digits b cs).map Nat.cast = some x ∧ ofRat x = .finite q := by
  rw [parse.radix] at h
  cases hdigits : digits b cs with
  | none =>
    rw [hdigits] at h
    cases h
  | some n =>
    rw [hdigits] at h
    exact ⟨n, Nat.cast_nonneg n, rfl, h⟩

/-- A positive number comes from a numeral with that value, or from one that is rounded to it. -/
theorem exactValue_of_parse {s : JsStr} {q : ℚ} (h : parse s = .finite q) (hq : 0 < q) :
    ∃ x, 0 ≤ x ∧ exactValue s = some x ∧ ofRat x = .finite q := by
  rw [parse] at h
  cases hlone : s.lone with
  | true => simp [hlone] at h
  | false =>
    simp only [hlone, Bool.false_eq_true, if_false] at h
    split at h
    next =>
      cases h
      exact absurd hq (lt_irrefl _)
    next cs hcs =>
      rw [exactValue, hlone, hcs]
      exact exactValue_of_radix h
    next cs hcs =>
      rw [exactValue, hlone, hcs]
      exact exactValue_of_radix h
    next cs hcs =>
      rw [exactValue, hlone, hcs]
      exact exactValue_of_radix h
    next cs hcs =>
      rw [exactValue, hlone, hcs]
      exact exactValue_of_radix h
    next cs hcs =>
      rw [exactValue, hlone, hcs]
      exact exactValue_of_radix h
    next cs hcs =>
      rw [exactValue, hlone, hcs]
      exact exactValue_of_radix h
    next hempty hx hX ho hO hb hB =>
      simp only [exactValue, hlone, Bool.false_eq_true, if_false]
      exact exactValue_of_signed h hq

/-- The multiple of a power of ten that rounds to `d`: the closer one of two, or the even one. -/
def printedAt (d power : Nat) : Option Nat :=
  let low := d / power * power
  let high := low + power
  if ofRat low = .finite d then
    if ofRat high = .finite d then
      if d - low < high - d ∨ (d - low = high - d ∧ d / power % 2 = 0) then some low else some high
    else some low
  else if ofRat high = .finite d then some high else none

/-- The integer that `toString` prints for the double `d`, one that ends in as many zeros as possible. -/
def printedFrom (d : Nat) : Nat → Nat
  | 0 => d
  | zeros + 1 => (printedAt d (10 ^ (zeros + 1))).getD (printedFrom d zeros)

/-- The digits that `toString` prints for a natural number below `10 ^ 21`. -/
def printed : JsNumber → Option Nat
  | .finite q => if q.den = 1 ∧ 0 ≤ q ∧ q < 10 ^ 21 then some (printedFrom q.num.toNat 20) else none
  | _ => none

theorem ofRat_eq_natCast {n d : Nat} (hd : d < 2 ^ 53) (h : ofRat n = .finite d) : n = d := by
  by_cases hn : n < 2 ^ 53
  · rw [ofRat_exact hn] at h
    exact_mod_cast finite.inj h
  · have hlarge := two_pow_le_ofRat (k := 53) (by decide) (by omega) h
    have hsmall : (d : ℚ) < 2 ^ 53 := by exact_mod_cast hd
    exact absurd hlarge (not_le.mpr hsmall)

/-- What is printed with zeros is read as the same double again. -/
theorem ofRat_printedAt {d power n : Nat} (h : printedAt d power = some n) : ofRat n = .finite d := by
  rw [printedAt] at h
  split_ifs at h with hlow hhigh hcloser hhigh <;> cases h <;> assumption

theorem ofRat_printedFrom (d zeros : Nat) : printedFrom d zeros = d ∨ ofRat (printedFrom d zeros) = .finite d := by
  induction zeros with
  | zero => exact .inl rfl
  | succ zeros ih =>
    rw [printedFrom]
    cases hprinted : printedAt d (10 ^ (zeros + 1)) with
    | none => exact ih
    | some n => exact .inr (ofRat_printedAt hprinted)

/-- Below `2 ^ 53` every integer is printed as it is. -/
theorem printedFrom_small {d : Nat} (hd : d < 2 ^ 53) : printedFrom d 20 = d :=
  (ofRat_printedFrom d 20).elim id (ofRat_eq_natCast hd)

theorem le_printedFrom {d : Nat} (hd : 2 ^ 53 ≤ d) : 2 ^ 53 ≤ printedFrom d 20 := by
  by_contra hlt
  obtain hsame | hread := ofRat_printedFrom d 20
  · omega
  · rw [ofRat_exact (by omega)] at hread
    have hcast : ((printedFrom d 20 : Nat) : ℚ) = d := finite.inj hread
    have hsame : printedFrom d 20 = d := by exact_mod_cast hcast
    omega

/-- Nothing is printed across `2 ^ 63`, and this number itself is printed above. -/
theorem printedFrom_lt (d : Nat) : printedFrom d 20 < 2 ^ 63 ↔ d < 2 ^ 63 := by
  obtain hsame | hread := ofRat_printedFrom d 20
  · rw [hsame]
  constructor
  · intro hlt
    by_contra hle
    have hbound : (d : ℚ) ≤ 2 ^ 63 := ofRat_le_two_pow hlt hread
    have hd : d = 2 ^ 63 := le_antisymm (by exact_mod_cast hbound) (not_lt.mp hle)
    have hprinted : printedFrom (2 ^ 63) 20 = 9223372036854776000 := by decide +kernel
    rw [hd, hprinted] at hlt
    omega
  · intro hlt
    by_contra hle
    have hbound : (2 ^ 63 : ℚ) ≤ d := two_pow_le_ofRat (by decide) (not_lt.mp hle) hread
    have hd : 2 ^ 63 ≤ d := by exact_mod_cast hbound
    omega

theorem printed_natCast {d : Nat} (hd : d < 10 ^ 21) : printed (.finite d) = some (printedFrom d 20) := by
  have hbound : (d : ℚ) < 10 ^ 21 := by exact_mod_cast hd
  simp [printed, hbound]

theorem printed_small {d : Nat} (hd : d < 2 ^ 53) : printed (.finite d) = some d := by
  rw [printed_natCast (hd.trans (by norm_num)), printedFrom_small hd]

theorem exists_natCast {q : ℚ} (hden : q.den = 1) (hq : 0 ≤ q) : ∃ n : Nat, q = n := by
  refine ⟨q.num.toNat, ?_⟩
  have hnum : ((q.num.toNat : ℤ) : ℚ) = q.num := by rw [Int.toNat_of_nonneg (Rat.num_nonneg.mpr hq)]
  rw [← Int.cast_natCast, hnum, Rat.coe_int_num_of_den_eq_one hden]

/-- A natural number from `2 ^ 53` on is not printed below it. -/
theorem le_printed {n m : Nat} (hn : 2 ^ 53 ≤ n) (h : (ofRat n).printed = some m) : 2 ^ 53 ≤ m := by
  cases hround : ofRat n with
  | nan =>
    rw [hround] at h
    cases h
  | infinite =>
    rw [hround] at h
    cases h
  | finite q =>
    rw [hround, printed] at h
    split at h
    next hq =>
      obtain ⟨d, rfl⟩ := exists_natCast hq.1 hq.2.1
      have hd : 2 ^ 53 ≤ d := by exact_mod_cast two_pow_le_ofRat (k := 53) (by decide) hn hround
      cases h
      rw [Rat.num_natCast, Int.toNat_natCast]
      exact le_printedFrom hd
    next => cases h

end JsNumber

end OurDao
