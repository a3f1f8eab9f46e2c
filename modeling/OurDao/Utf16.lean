import Mathlib.Data.Char
import Mathlib.Data.List.Basic

/-!
# Strings of sixteen bit code units

A JavaScript string is any list of code units. UTF-8 cannot carry a surrogate that stands
alone and carries U+FFFD in its place, so a string survives the way through UTF-8 exactly
when none does.
-/

namespace OurDao

namespace Utf16

def isHigh (u : UInt16) : Bool := 0xD800 ≤ u.toNat && u.toNat < 0xDC00

def isLow (u : UInt16) : Bool := 0xDC00 ≤ u.toNat && u.toNat < 0xE000

def isSurrogate (u : UInt16) : Bool := isHigh u || isLow u

/-- The character of a unit that stands alone. -/
def single (u : UInt16) : Char := if isSurrogate u then '\uFFFD' else Char.ofNat u.toNat

def pair (u v : UInt16) : Char := Char.ofNat (0x10000 + (u.toNat - 0xD800) * 0x400 + (v.toNat - 0xDC00))

def decode : List UInt16 → List Char
  | [] => []
  | [u] => [single u]
  | u :: v :: us => if isHigh u && isLow v then pair u v :: decode us else single u :: decode (v :: us)

/-- No surrogate stands alone. -/
def isWellFormed : List UInt16 → Bool
  | [] => true
  | [u] => !isSurrogate u
  | u :: v :: us => if isHigh u && isLow v then isWellFormed us else !isSurrogate u && isWellFormed (v :: us)

def units (c : Char) : List UInt16 :=
  if c.toNat < 0x10000 then [.ofNat c.toNat]
  else [.ofNat (0xD800 + (c.toNat - 0x10000) / 0x400), .ofNat (0xDC00 + (c.toNat - 0x10000) % 0x400)]

def encode (cs : List Char) : List UInt16 := cs.flatMap units

theorem toNat_ofNat {n : Nat} (h : n < 0x10000) : (UInt16.ofNat n).toNat = n := UInt16.toNat_ofNat_of_lt' h

theorem toNat_lt_of_valid (c : Char) : c.toNat < 0xD800 ∨ 0xDFFF < c.toNat ∧ c.toNat < 0x110000 := by
  have hvalid := c.valid
  simpa [UInt32.isValidChar, Nat.isValidChar] using hvalid

theorem toNat_charOfNat {n : Nat} (h : n < 0xD800 ∨ 0xDFFF < n ∧ n < 0x110000) : (Char.ofNat n).toNat = n := by
  have hvalid : n.isValidChar := h
  rw [Char.ofNat, dif_pos hvalid]
  rfl

/-- A character in one unit. -/
theorem units_small {c : Char} (h : c.toNat < 0x10000) :
    ∃ u, units c = [u] ∧ u.toNat = c.toNat ∧ isSurrogate u = false ∧ single u = c := by
  have hnat := toNat_ofNat h
  have hplain : isSurrogate (UInt16.ofNat c.toNat) = false := by
    have hvalid := toNat_lt_of_valid c
    simp [isSurrogate, isHigh, isLow, hnat]
    omega
  exact ⟨.ofNat c.toNat, if_pos h, hnat, hplain, by simp [single, hplain, hnat]⟩

/-- A character in two. -/
theorem units_large {c : Char} (h : ¬ c.toNat < 0x10000) :
    ∃ u v, units c = [u, v] ∧ isHigh u = true ∧ isLow v = true ∧ pair u v = c := by
  have hvalid := toNat_lt_of_valid c
  have hhigh := toNat_ofNat (n := 0xD800 + (c.toNat - 0x10000) / 0x400) (by omega)
  have hlow := toNat_ofNat (n := 0xDC00 + (c.toNat - 0x10000) % 0x400) (by omega)
  refine ⟨_, _, if_neg h, ?_, ?_, ?_⟩
  · simp [isHigh]
    omega
  · simp [isLow]
    omega
  · have hsum : 0x10000 + (0xD800 + (c.toNat - 0x10000) / 0x400 - 0xD800) * 0x400 +
        (0xDC00 + (c.toNat - 0x10000) % 0x400 - 0xDC00) = c.toNat := by omega
    rw [pair, hhigh, hlow, hsum, Char.ofNat_toNat]

theorem not_isHigh {u : UInt16} (h : isSurrogate u = false) : isHigh u = false := by
  simp only [isSurrogate, Bool.or_eq_false_iff] at h
  exact h.1

/-- A unit that stands alone is read alone. -/
theorem decode_single {u : UInt16} (h : isSurrogate u = false) (us : List UInt16) :
    decode (u :: us) = single u :: decode us := by
  cases us with
  | nil => rfl
  | cons v us => simp [decode, not_isHigh h]

theorem isWellFormed_single {u : UInt16} (h : isSurrogate u = false) (us : List UInt16) :
    isWellFormed (u :: us) = isWellFormed us := by
  cases us with
  | nil => simp [isWellFormed, h]
  | cons v us => simp [isWellFormed, not_isHigh h, h]

theorem decode_units (c : Char) (us : List UInt16) : decode (units c ++ us) = c :: decode us := by
  by_cases h : c.toNat < 0x10000
  · obtain ⟨u, hunits, -, hplain, hsingle⟩ := units_small h
    rw [hunits, List.singleton_append, decode_single hplain, hsingle]
  · obtain ⟨u, v, hunits, hhigh, hlow, hpair⟩ := units_large h
    simp [hunits, decode, hhigh, hlow, hpair]

theorem isWellFormed_units (c : Char) (us : List UInt16) : isWellFormed (units c ++ us) = isWellFormed us := by
  by_cases h : c.toNat < 0x10000
  · obtain ⟨u, hunits, -, hplain, -⟩ := units_small h
    rw [hunits, List.singleton_append, isWellFormed_single hplain]
  · obtain ⟨u, v, hunits, hhigh, hlow, -⟩ := units_large h
    simp [hunits, isWellFormed, hhigh, hlow]

@[simp] theorem decode_encode (cs : List Char) : decode (encode cs) = cs := by
  induction cs with
  | nil => rfl
  | cons c cs ih => rw [encode, List.flatMap_cons, decode_units, ← encode, ih]

@[simp] theorem isWellFormed_encode (cs : List Char) : isWellFormed (encode cs) = true := by
  induction cs with
  | nil => rfl
  | cons c cs ih => rw [encode, List.flatMap_cons, isWellFormed_units, ← encode, ih]

theorem units_single {u : UInt16} (h : isSurrogate u = false) : units (single u) = [u] := by
  have hlt : u.toNat < 0x10000 := u.toNat_lt
  have hnat : (single u).toNat = u.toNat := by
    rw [single, if_neg (by simp [h])]
    refine toNat_charOfNat ?_
    simp [isSurrogate, isHigh, isLow] at h
    omega
  rw [units, hnat, if_pos hlt, UInt16.ofNat_toNat]

theorem units_pair {u v : UInt16} (hu : isHigh u = true) (hv : isLow v = true) : units (pair u v) = [u, v] := by
  simp only [isHigh, isLow, Bool.and_eq_true, decide_eq_true_eq] at hu hv
  have hnat : (pair u v).toNat = 0x10000 + (u.toNat - 0xD800) * 0x400 + (v.toNat - 0xDC00) :=
    toNat_charOfNat (by omega)
  have hhigh : 0xD800 + (0x10000 + (u.toNat - 0xD800) * 0x400 + (v.toNat - 0xDC00) - 0x10000) / 0x400 = u.toNat := by
    omega
  have hlow : 0xDC00 + (0x10000 + (u.toNat - 0xD800) * 0x400 + (v.toNat - 0xDC00) - 0x10000) % 0x400 = v.toNat := by
    omega
  rw [units, hnat, if_neg (by omega), hhigh, hlow, UInt16.ofNat_toNat, UInt16.ofNat_toNat]

/-- What is well formed comes back from its characters. -/
theorem encode_decode {us : List UInt16} (h : isWellFormed us = true) : encode (decode us) = us := by
  induction us using decode.induct with
  | case1 => rfl
  | case2 u =>
    simp only [isWellFormed, Bool.not_eq_true'] at h
    simp [decode, encode, units_single h]
  | case3 u v us hpair ih =>
    simp only [isWellFormed, hpair, if_true] at h
    rw [Bool.and_eq_true] at hpair
    rw [decode, if_pos (by simp [hpair]), encode, List.flatMap_cons, units_pair hpair.1 hpair.2, ← encode, ih h]
    rfl
  | case4 u v us hpair ih =>
    rw [isWellFormed, if_neg hpair, Bool.and_eq_true, Bool.not_eq_true'] at h
    rw [decode, if_neg hpair, encode, List.flatMap_cons, units_single h.1, ← encode, ih h.2]
    rfl

theorem isWellFormed_iff {us : List UInt16} : isWellFormed us = true ↔ encode (decode us) = us :=
  ⟨encode_decode, fun h => h ▸ isWellFormed_encode _⟩

end Utf16

/-- A JavaScript string, by its code units. -/
structure JsText where
  units : List UInt16
  deriving DecidableEq, Repr

namespace JsText

def ofString (s : String) : JsText := ⟨Utf16.encode s.toList⟩

instance : Coe String JsText := ⟨ofString⟩

/-- The text that its UTF-8 encoding carries. -/
def text (s : JsText) : String := String.ofList (Utf16.decode s.units)

def isWellFormed (s : JsText) : Bool := Utf16.isWellFormed s.units

@[simp] theorem text_ofString (s : String) : (ofString s).text = s := by simp [ofString, text]

@[simp] theorem isWellFormed_ofString (s : String) : (ofString s).isWellFormed = true := by
  simp [ofString, isWellFormed]

/-- A string is its text exactly when no surrogate stands alone in it. -/
theorem ofString_text_iff {s : JsText} : ofString s.text = s ↔ s.isWellFormed = true := by
  cases s with
  | mk us =>
    rw [isWellFormed, Utf16.isWellFormed_iff]
    simp [ofString, text]

end JsText

end OurDao
