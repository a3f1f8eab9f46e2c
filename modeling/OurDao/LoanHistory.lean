import OurDao.Closings
import OurDao.HistoryCache
import OurDao.Numerals

/-!
# The loan history

`GET /stats/history` lays the daily statistics out on a calendar and adds them up along it, or
gives an answer it has cached. What it shows accounts for the running totals of one moment, and
its default rate is a percentage as long as the events are folded in the order of their days.
-/

namespace OurDao

namespace JsNumber

def div : JsNumber → JsNumber → JsNumber
  | .finite a, .finite b => if b = 0 then if a = 0 then .nan else .infinite else ofRat (a / b)
  | .finite _, .infinite => .finite 0
  | .infinite, .finite _ => .infinite
  | _, _ => .nan

def mul : JsNumber → JsNumber → JsNumber
  | .finite a, .finite b => ofRat (a * b)
  | .finite a, .infinite | .infinite, .finite a => if a = 0 then .nan else .infinite
  | .infinite, .infinite => .infinite
  | _, _ => .nan

/-- `Number(x.toFixed(digits))`: the nearest number with so many digits behind the point, of two the greater. -/
def toFixed (digits : Nat) : JsNumber → JsNumber
  | .finite q =>
    if 10 ^ 21 ≤ |q| then .finite q
    else
      let n := ⌊|q| * 10 ^ digits + 1 / 2⌋
      ofRat ((if q < 0 then -n else n) / 10 ^ digits)
  | x => x

theorem lt_of_pow2_lt {e : Int} {k : Nat} (h : pow2 e < 2 ^ k) : e < k := by
  by_contra hle
  obtain ⟨n, rfl⟩ := Int.eq_ofNat_of_zero_le (by omega : 0 ≤ e)
  have hkn : (2 : ℚ) ^ k ≤ 2 ^ n := pow_le_pow_right₀ (by norm_num) (by omega)
  rw [pow2_natCast] at h
  exact absurd h (not_lt.mpr hkn)

/-- The lengths of numerator and denominator tell the exponent up to one. -/
theorem pow2_le_abs {x : ℚ} (hx : x ≠ 0) : pow2 ((Nat.log2 x.num.natAbs - Nat.log2 x.den : Int) - 1) ≤ |x| := by
  have hnum : x.num.natAbs ≠ 0 := Int.natAbs_ne_zero.mpr (Rat.num_ne_zero.mpr hx)
  have hlow : 2 ^ x.num.natAbs.log2 ≤ x.num.natAbs := Nat.log2_self_le hnum
  have hhigh : x.den < 2 ^ (x.den.log2 + 1) := Nat.lt_log2_self
  have hden : (0 : ℚ) < x.den := by exact_mod_cast x.den_pos
  have habs : |x| = x.num.natAbs / x.den := by
    have hquotient := congrArg abs (Rat.num_div_den x)
    rw [abs_div, Nat.abs_cast] at hquotient
    rw [Nat.cast_natAbs, Int.cast_abs, hquotient]
  generalize x.num.natAbs = n at *
  generalize x.den = d at *
  rw [habs, le_div_iff₀ hden]
  rcases le_or_gt (d.log2 + 1) n.log2 with hle | hlt
  · obtain ⟨k, hk⟩ : ∃ k : Nat, ((n.log2 : Int) - d.log2) - 1 = k := ⟨n.log2 - d.log2 - 1, by omega⟩
    rw [hk, pow2_natCast]
    have hbound : 2 ^ k * d ≤ n := by
      calc 2 ^ k * d ≤ 2 ^ k * 2 ^ (d.log2 + 1) := Nat.mul_le_mul_left _ hhigh.le
        _ = 2 ^ n.log2 := by rw [← pow_add]; congr 1; omega
        _ ≤ n := hlow
    exact_mod_cast hbound
  · obtain ⟨k, hk⟩ : ∃ k : Nat, ((n.log2 : Int) - d.log2) - 1 = -k := ⟨d.log2 + 1 - n.log2, by omega⟩
    rw [hk, pow2_neg, one_div_mul_eq_div, div_le_iff₀ (by positivity)]
    have hbound : d ≤ n * 2 ^ k := by
      calc d ≤ 2 ^ (d.log2 + 1) := hhigh.le
        _ = 2 ^ n.log2 * 2 ^ k := by rw [← pow_add]; congr 1; omega
        _ ≤ n * 2 ^ k := Nat.mul_le_mul_right _ hlow
    exact_mod_cast hbound

/-- Below `2 ^ 53` the last bit is a fraction of one. -/
theorem lastBit_fraction {x : ℚ} (hx : x ≠ 0) (hsmall : |x| < 2 ^ 53) : ∃ k : Nat, lastBit x = 1 / 2 ^ k := by
  have hlow := pow2_le_abs hx
  rw [lastBit]
  split
  next hle =>
    have he := lt_of_pow2_lt (hle.trans_lt hsmall)
    obtain ⟨k, hk⟩ : ∃ k : Nat, max ((Nat.log2 x.num.natAbs - Nat.log2 x.den : Int) - 52) (-1074) = -k :=
      ⟨(-max ((Nat.log2 x.num.natAbs - Nat.log2 x.den : Int) - 52) (-1074)).toNat, by omega⟩
    exact ⟨k, by rw [hk, pow2_neg]⟩
  next =>
    have he := lt_of_pow2_lt (hlow.trans_lt hsmall)
    obtain ⟨k, hk⟩ : ∃ k : Nat, max ((Nat.log2 x.num.natAbs - Nat.log2 x.den : Int) - 1 - 52) (-1074) = -k :=
      ⟨(-max ((Nat.log2 x.num.natAbs - Nat.log2 x.den : Int) - 1 - 52) (-1074)).toNat, by omega⟩
    exact ⟨k, by rw [hk, pow2_neg]⟩

theorem roundEven_le_intCast {q : ℚ} {m : Int} (h : q ≤ m) : roundEven q ≤ m := by
  have hfloor : ⌊q⌋ ≤ m := by
    have hle := Int.floor_le_floor h
    rwa [Int.floor_intCast] at hle
  have hlt : ¬ q - ⌊q⌋ < 1 / 2 → ⌊q⌋ < m := by
    intro hfrac
    have hcast : (⌊q⌋ : ℚ) < m := by linarith [not_lt.mp hfrac]
    exact_mod_cast hcast
  unfold roundEven
  dsimp only
  split_ifs with hfrac
  · exact hfloor
  · exact hlt hfrac
  · exact hfloor
  · exact hlt hfrac

/-- What lies between zero and a natural number is not rounded beyond it. -/
theorem ofRat_between {x : ℚ} {n : Nat} (hn : n < 2 ^ 53) (hx : 0 ≤ x) (hxn : x ≤ n) :
    ∃ q, ofRat x = .finite q ∧ 0 ≤ q ∧ q ≤ n := by
  rcases eq_or_ne x 0 with rfl | h0
  · exact ⟨0, by rw [ofRat, if_pos rfl], le_rfl, hxn⟩
  have hn' : (n : ℚ) < 2 ^ 53 := by exact_mod_cast hn
  have hsmall : |x| < 2 ^ 53 := by rw [abs_of_nonneg hx]; exact hxn.trans_lt hn'
  obtain ⟨k, hk⟩ := lastBit_fraction h0 hsmall
  have hround : roundEven (x / lastBit x) ≤ ((n * 2 ^ k : Nat) : Int) := by
    refine roundEven_le_intCast ?_
    rw [hk, div_div_eq_mul_div, div_one]
    push_cast
    exact mul_le_mul_of_nonneg_right hxn (by positivity)
  have hlow := (roundEven_div_bounds hx (lastBit_pos x)).1
  have hhigh : roundEven (x / lastBit x) * lastBit x ≤ n := by
    calc (roundEven (x / lastBit x) : ℚ) * lastBit x
        ≤ ((n * 2 ^ k : Nat) : Int) * lastBit x :=
          mul_le_mul_of_nonneg_right (by exact_mod_cast hround) (lastBit_pos x).le
      _ = n := by
        rw [hk]
        push_cast
        field_simp
  have hfits : ¬ pow2 1024 ≤ |(roundEven (x / lastBit x) : ℚ) * lastBit x| := by
    have hbig : (2 : ℚ) ^ 53 ≤ pow2 1024 := by
      rw [show (1024 : Int) = (1024 : Nat) from rfl, pow2_natCast]
      exact pow_le_pow_right₀ (by norm_num) (by norm_num)
    rw [abs_of_nonneg hlow, not_le]
    exact hhigh.trans_lt (hn'.trans_le hbig)
  exact ⟨_, by rw [ofRat_eq_lastBit h0, if_neg hfits], hlow, hhigh⟩

theorem toFixed_between (digits : Nat) {n : Nat} (hn : n < 2 ^ 53) {q : ℚ} (hq : 0 ≤ q) (hqn : q ≤ n) :
    ∃ r, toFixed digits (.finite q) = .finite r ∧ 0 ≤ r ∧ r ≤ n := by
  have hsmall : ¬ (10 : ℚ) ^ 21 ≤ |q| := by
    have hn' : (n : ℚ) < 2 ^ 53 := by exact_mod_cast hn
    rw [abs_of_nonneg hq, not_le]
    exact hqn.trans_lt (hn'.trans (by norm_num))
  have hfloor : ⌊q * 10 ^ digits + 1 / 2⌋ ≤ ((n * 10 ^ digits : Nat) : Int) := by
    have hle : q * 10 ^ digits ≤ ((n * 10 ^ digits : Nat) : Int) := by
      push_cast
      exact mul_le_mul_of_nonneg_right hqn (by positivity)
    rw [← Int.lt_add_one_iff, Int.floor_lt]
    push_cast at hle ⊢
    linarith
  have hnonneg : 0 ≤ ⌊q * 10 ^ digits + 1 / 2⌋ := Int.floor_nonneg.mpr (by positivity)
  rw [toFixed, if_neg hsmall]
  dsimp only
  rw [if_neg (not_lt.mpr hq), abs_of_nonneg hq]
  refine ofRat_between hn (div_nonneg (by exact_mod_cast hnonneg) (by positivity)) ?_
  rw [div_le_iff₀ (by positivity)]
  exact_mod_cast hfloor

end JsNumber

/-- `generate_series(first, last, interval '1 day')`. -/
def generateSeries (first last : Int) : List Int := (List.range (last + 1 - first).toNat).map fun i : Nat => first + i

/-- Every day from the first with statistics to today. -/
def calendar (today : Int) (stats : Table Int DailyLoanStats) : List Int :=
  match stats.keys.min? with
  | none => []
  | some first => generateSeries first today

/-- `SUM(COALESCE(column, 0)) OVER (ORDER BY calendar.day)`. -/
def sumOver (stats : Table Int DailyLoanStats) (column : DailyLoanStats → Nat) (days : List Int) (day : Int) : Nat :=
  ((days.filter (· ≤ day)).map (Table.valueAt stats column)).sum

structure HistoryRow where
  day : Int
  principal_lent : Nat
  principal_repaid : Nat
  defaults_count : Nat
  value_defaulted : Nat
  cumulative_originated : Nat
  cumulative_defaults : Nat

def historyRow (stats : Table Int DailyLoanStats) (days : List Int) (day : Int) : HistoryRow where
  day
  principal_lent := Table.valueAt stats (·.principal_lent) day
  principal_repaid := Table.valueAt stats (·.principal_repaid) day
  defaults_count := Table.valueAt stats (·.defaults_count) day
  value_defaulted := Table.valueAt stats (·.value_defaulted) day
  cumulative_originated := sumOver stats (·.loans_originated) days day
  cumulative_defaults := sumOver stats (·.defaults_count) days day

def historyRows (today : Int) (stats : Table Int DailyLoanStats) : List HistoryRow :=
  (calendar today stats).map (historyRow stats (calendar today stats))

/-- An entry of the answer, its amounts sent as decimal text. -/
structure LoanHistoryEntry where
  date : Int
  principalLent : Nat
  principalRepaid : Nat
  defaults : Nat
  valueDefaulted : Nat
  cumulativeDefaultRatePercent : JsNumber
  deriving DecidableEq

/-- `originated === 0 ? 0 : Number(((defaults / originated) * 100).toFixed(4))`. -/
def cumulativeDefaultRate (originated defaults : Nat) : JsNumber :=
  let originated := JsNumber.ofRat originated
  let defaults := JsNumber.ofRat defaults
  if originated = .finite 0 then .finite 0 else JsNumber.toFixed 4 ((defaults.div originated).mul (.finite 100))

def HistoryRow.toEntry (row : HistoryRow) : LoanHistoryEntry where
  date := row.day
  principalLent := row.principal_lent
  principalRepaid := row.principal_repaid
  defaults := row.defaults_count
  valueDefaulted := row.value_defaulted
  cumulativeDefaultRatePercent := cumulativeDefaultRate row.cumulative_originated row.cumulative_defaults

/-- The answer of `GET /stats/history` where none is cached. -/
def computeHistory (today : Int) (stats : Table Int DailyLoanStats) : List LoanHistoryEntry :=
  (historyRows today stats).map HistoryRow.toEntry

theorem cumulativeDefaultRate_between {originated defaults : Nat} (hle : defaults ≤ originated)
    (horiginated : originated < 2 ^ 53) :
    ∃ q, cumulativeDefaultRate originated defaults = .finite q ∧ 0 ≤ q ∧ q ≤ 100 := by
  rw [cumulativeDefaultRate, JsNumber.ofRat_exact horiginated, JsNumber.ofRat_exact (hle.trans_lt horiginated)]
  split
  next => exact ⟨0, rfl, le_rfl, by norm_num⟩
  next hne =>
    have hne : (originated : ℚ) ≠ 0 := fun h => hne (by rw [h])
    have hpos : (0 : ℚ) < originated := lt_of_le_of_ne (Nat.cast_nonneg _) hne.symm
    have hle' : (defaults : ℚ) / originated ≤ (1 : Nat) := by
      rw [div_le_iff₀ hpos]
      push_cast
      rw [one_mul]
      exact_mod_cast hle
    obtain ⟨ratio, hratio, hratio0, hratio1⟩ := JsNumber.ofRat_between (by norm_num) (by positivity) hle'
    have hpercent : ratio * 100 ≤ (100 : Nat) := by
      push_cast at hratio1 ⊢
      linarith
    obtain ⟨percent, hpercent', hlow, hhigh⟩ := JsNumber.ofRat_between (by norm_num) (by positivity) hpercent
    obtain ⟨r, hr, hr0, hr100⟩ := JsNumber.toFixed_between 4 (by norm_num) hlow hhigh
    rw [JsNumber.div, if_neg hne, hratio, JsNumber.mul, hpercent']
    exact ⟨r, hr, hr0, by exact_mod_cast hr100⟩

theorem mem_generateSeries {first last day : Int} : day ∈ generateSeries first last ↔ first ≤ day ∧ day ≤ last := by
  simp only [generateSeries, List.mem_map, List.mem_range]
  constructor
  · rintro ⟨i, hi, rfl⟩
    omega
  · rintro ⟨hfirst, hlast⟩
    exact ⟨(day - first).toNat, by omega, by omega⟩

theorem generateSeries_nodup (first last : Int) : (generateSeries first last).Nodup :=
  List.nodup_range.map fun i j h => by omega

theorem generateSeries_chain (first last : Int) :
    (generateSeries first last).IsChain fun day next => next = day + 1 := by
  rw [generateSeries, List.isChain_map]
  refine (List.isChain_range _ _).mpr fun i _ => ?_
  rw [Nat.succ_eq_add_one, Nat.cast_add, Nat.cast_one, add_assoc]

theorem calendar_nodup (today : Int) (stats : Table Int DailyLoanStats) : (calendar today stats).Nodup := by
  rw [calendar]
  split
  next => exact List.nodup_nil
  next => exact generateSeries_nodup _ _

/-- The calendar has every day with statistics that is not in the future. -/
theorem mem_calendar {today day : Int} {stats : Table Int DailyLoanStats} {row : DailyLoanStats}
    (hday : stats.lookup day = some row) (htoday : day ≤ today) : day ∈ calendar today stats := by
  have hkey : day ∈ stats.keys := by
    rw [← AList.mem_keys, ← AList.lookup_isSome, hday]
    rfl
  rw [calendar]
  split
  next hnone =>
    rw [List.min?_eq_none_iff] at hnone
    rw [hnone] at hkey
    cases hkey
  next first hfirst => exact mem_generateSeries.mpr ⟨(List.min?_eq_some_iff.mp hfirst).2 day hkey, htoday⟩

namespace Table

variable {κ ν : Type} [DecidableEq κ] {t t' : Table κ ν}

/-- A sum over keys that leave no row out. -/
theorem sum_valueAt_eq_total {ks : List κ} (f : ν → ℕ) (hks : ks.Nodup)
    (hall : ∀ k v, t.lookup k = some v → k ∈ ks) : (ks.map (valueAt t f)).sum = total f t := by
  rw [total_eq_sum_keys, ← List.sum_toFinset _ hks, ← List.sum_toFinset _ t.keys_nodup]
  refine (Finset.sum_subset (fun k hk => ?_) fun k _ hk => ?_).symm
  · rw [List.mem_toFinset, ← AList.mem_keys, ← AList.lookup_isSome, Option.isSome_iff_exists] at hk
    obtain ⟨v, hv⟩ := hk
    exact List.mem_toFinset.mpr (hall k v hv)
  · rw [List.mem_toFinset, ← AList.mem_keys, ← AList.lookup_isSome, Bool.not_eq_true, Option.isSome_eq_false_iff,
      Option.isNone_iff_eq_none] at hk
    rw [valueAt, hk]
    rfl

theorem total_congr (f : ν → ℕ) (h : ∀ k, t.lookup k = t'.lookup k) : total f t = total f t' := by
  have hrows : (rows t).Perm (rows t') := by
    rw [List.perm_ext_iff_of_nodup rows_nodup rows_nodup]
    rintro ⟨k, v⟩
    rw [mem_rows, mem_rows, h k]
  exact (hrows.map _).sum_eq

end Table

/-- The statistics up to a day. -/
def upTo (day : Int) (stats : Table Int DailyLoanStats) : Table Int DailyLoanStats :=
  stats.deleteWhere fun d _ => decide (day < d)

theorem lookup_upTo (day d : Int) (stats : Table Int DailyLoanStats) :
    (upTo day stats).lookup d = if d ≤ day then stats.lookup d else none := by
  rw [upTo, Table.lookup_deleteWhere]
  by_cases h : d ≤ day
  · rw [if_pos h]
    cases stats.lookup d <;> simp [not_lt.mpr h]
  · rw [if_neg h]
    simp [not_le.mp h]

/-- The running sum of a column, where the calendar reaches back to the first day. -/
theorem sumOver_calendar (column : DailyLoanStats → Nat) {today day : Int} (stats : Table Int DailyLoanStats)
    (htoday : day ≤ today) :
    sumOver stats column (calendar today stats) day = Table.total column (upTo day stats) := by
  have hvalue : ∀ d ∈ (calendar today stats).filter (· ≤ day),
      Table.valueAt stats column d = Table.valueAt (upTo day stats) column d := by
    intro d hd
    rw [Table.valueAt, Table.valueAt, lookup_upTo, if_pos (by simpa using (List.mem_filter.mp hd).2)]
  rw [sumOver, List.map_congr_left hvalue]
  refine Table.sum_valueAt_eq_total column ((calendar_nodup today stats).filter _) fun d row hrow => ?_
  rw [lookup_upTo] at hrow
  split at hrow
  next hd => exact List.mem_filter.mpr ⟨mem_calendar hrow (hd.trans htoday), by simpa using hd⟩
  next => cases hrow

/-- A column of the answer adds up to what the statistics hold, with none of them in the future. -/
theorem sum_computeHistory (column : DailyLoanStats → Nat) (entry : LoanHistoryEntry → Nat) {today : Int}
    {stats : Table Int DailyLoanStats} (hpast : ∀ day row, stats.lookup day = some row → day ≤ today)
    (hentry : ∀ days day, entry (historyRow stats days day).toEntry = Table.valueAt stats column day) :
    ((computeHistory today stats).map entry).sum = Table.total column stats := by
  have hmap : (computeHistory today stats).map entry = (calendar today stats).map (Table.valueAt stats column) := by
    rw [computeHistory, historyRows, List.map_map, List.map_map]
    exact List.map_congr_left fun day _ => hentry _ day
  rw [hmap]
  exact Table.sum_valueAt_eq_total column (calendar_nodup today stats) fun day row hrow =>
    mem_calendar hrow (hpast day row hrow)

theorem dates_computeHistory (today : Int) (stats : Table Int DailyLoanStats) :
    (computeHistory today stats).map (·.date) = calendar today stats := by
  rw [computeHistory, historyRows, List.map_map, List.map_map]
  exact List.map_id _

theorem calendar_chain (today : Int) (stats : Table Int DailyLoanStats) :
    (calendar today stats).IsChain fun day next => next = day + 1 := by
  rw [calendar]
  split
  next => exact .nil
  next => exact generateSeries_chain _ _

theorem le_today_of_mem {today day : Int} {stats : Table Int DailyLoanStats} (h : day ∈ calendar today stats) :
    day ≤ today := by
  rw [calendar] at h
  split at h
  next => cases h
  next => exact (mem_generateSeries.mp h).2

/-- An event writes the statistics of its own day, and at most one new loan. -/
theorem Booking.writes {ev : DecodedEvent} {b b' : Books} (h : Booking ev b b') :
    (b'.daily_loan_stats = b.daily_loan_stats ∨
      ∃ row, b'.daily_loan_stats = b.daily_loan_stats.insert (dayOf ev) row) ∧
      (Table.rows b'.loans).length ≤ (Table.rows b.loans).length + 1 := by
  cases h with
  | kept => exact ⟨.inl rfl, Nat.le_succ _⟩
  | lent _ hnew => exact ⟨.inr ⟨_, rfl⟩, (congrArg List.length (Table.rows_insert_new hnew)).le⟩
  | reapproved _ hrow => exact ⟨.inl rfl, (length_setLoan hrow).le.trans (Nat.le_succ _)⟩
  | repayment _ hrow => exact ⟨.inl rfl, (length_setLoan hrow).le.trans (Nat.le_succ _)⟩
  | cleared _ hrow => exact ⟨.inr ⟨_, rfl⟩, (length_setLoan hrow).le.trans (Nat.le_succ _)⟩
  | defaulted _ hrow => exact ⟨.inr ⟨_, rfl⟩, (length_setLoan hrow).le.trans (Nat.le_succ _)⟩
  | earned => exact ⟨.inl rfl, Nat.le_succ _⟩

section

variable {t : Tables} {ev : DecodedEvent} {evs before after : List DecodedEvent} {day today : Int}

theorem lookup_offer_daily {d : Int} (hd : d ≠ dayOf ev) :
    (t.offer ev).daily_loan_stats.lookup d = t.daily_loan_stats.lookup d := by
  rcases offer_booking t ev with heq | hb
  · rw [heq]
  · obtain ⟨hsame | ⟨row, hrow⟩, -⟩ := hb.writes
    · exact congrArg (AList.lookup d) hsame
    · exact (congrArg (AList.lookup d) hrow).trans (AList.lookup_insert_ne hd)

/-- Only the days of the events are written. -/
theorem lookup_fold_daily {d : Int} (hd : ∀ ev ∈ evs, d ≠ dayOf ev) :
    (evs.foldl Tables.offer t).daily_loan_stats.lookup d = t.daily_loan_stats.lookup d := by
  induction evs generalizing t with
  | nil => rfl
  | cons ev evs ih =>
    rw [List.forall_mem_cons] at hd
    exact (ih hd.2).trans (lookup_offer_daily hd.1)

theorem day_of_lookup {d : Int} {row : DailyLoanStats}
    (h : (evs.foldl Tables.offer Tables.empty).daily_loan_stats.lookup d = some row) : ∃ ev ∈ evs, d = dayOf ev := by
  by_contra hnone
  have hd : ∀ ev ∈ evs, d ≠ dayOf ev := by simpa using hnone
  rw [lookup_fold_daily hd] at h
  cases h

theorem length_fold_loans :
    (Table.rows (evs.foldl Tables.offer t).loans).length ≤ (Table.rows t.loans).length + evs.length := by
  induction evs generalizing t with
  | nil => exact le_rfl
  | cons ev evs ih =>
    have hstep : (Table.rows (t.offer ev).loans).length ≤ (Table.rows t.loans).length + 1 := by
      rcases offer_booking t ev with heq | hb
      · rw [heq]
        exact Nat.le_succ _
      · exact hb.writes.2
    rw [List.foldl_cons, List.length_cons]
    exact (ih (t := t.offer ev)).trans (by omega)

/-- What the history shows of a run. -/
structure Accounted (t : Tables) (data : List LoanHistoryEntry) : Prop where
  consecutive : (data.map (·.date)).IsChain fun day next => next = day + 1
  covers : ∀ day row, t.daily_loan_stats.lookup day = some row → day ∈ data.map (·.date)
  lent : (data.map (·.principalLent)).sum = t.dao_totals.principal_lent
  repaid : (data.map (·.principalRepaid)).sum = t.dao_totals.principal_repaid
  valueDefaulted : (data.map (·.valueDefaulted)).sum = t.dao_totals.value_defaulted
  defaults : (data.map (·.defaults)).sum = Table.total (·.defaults_count) t.daily_loan_stats

/-- Whatever was folded, in whatever order, a new answer has one entry a day without a gap, and its columns
add up to what was lent, repaid and lost. -/
theorem computeHistory_accounted (evs : List DecodedEvent) (today : Int) (htoday : ∀ ev ∈ evs, dayOf ev ≤ today) :
    Accounted (evs.foldl Tables.offer Tables.empty)
      (computeHistory today (evs.foldl Tables.offer Tables.empty).daily_loan_stats) := by
  have hbalanced : (evs.foldl Tables.offer Tables.empty).books.Balanced := balanced_fold evs balanced_empty
  have hpast : ∀ day row, (evs.foldl Tables.offer Tables.empty).daily_loan_stats.lookup day = some row →
      day ≤ today := by
    intro day row hrow
    obtain ⟨ev, hev, rfl⟩ := day_of_lookup hrow
    exact htoday ev hev
  constructor
  · rw [dates_computeHistory]
    exact calendar_chain _ _
  · intro day row hrow
    rw [dates_computeHistory]
    exact mem_calendar hrow (hpast day row hrow)
  · exact (sum_computeHistory (·.principal_lent) _ hpast fun _ _ => rfl).trans hbalanced.lent_daily.symm
  · exact (sum_computeHistory (·.principal_repaid) _ hpast fun _ _ => rfl).trans hbalanced.repaid.symm
  · exact (sum_computeHistory (·.value_defaulted) _ hpast fun _ _ => rfl).trans hbalanced.defaulted.symm
  · exact sum_computeHistory (·.defaults_count) _ hpast fun _ _ => rfl

/-- What the query gives on a day, when the events of `log n` were folded in the first `n` transactions. -/
def historyOf (log : Nat → List DecodedEvent) (today : Nat → Int) (n now : Nat) : List LoanHistoryEntry :=
  computeHistory (today now) ((log n).foldl Tables.offer Tables.empty).daily_loan_stats

/-- **The history accounts for the running totals** of one moment, whether it is computed or was cached in the
process or in Redis: if no event that was folded then closes after the day of that moment, the answer, which may
have been through JSON since, has one entry a day without a gap, and its columns add up to what was
lent, repaid and lost by then. -/
theorem statsHistory_accounted {shared : Bool} {stringify : List LoanHistoryEntry → String}
    {parse : String → Option (List LoanHistoryEntry)} (log : Nat → List DecodedEvent) (today : Nat → Int)
    (events : List HistoryEvent) {r : Nat} {copy : Copy (List LoanHistoryEntry)}
    (h : (HistoryCache.after shared (historyOf log today) stringify parse events).reads r = .returned copy) :
    copy.version ≤ (HistoryCache.after shared (historyOf log today) stringify parse events).version ∧
      ∃ instant ≤ (HistoryCache.after shared (historyOf log today) stringify parse events).now,
        (copy.value = historyOf log today copy.version instant ∨
          parse (stringify (historyOf log today copy.version instant)) = some copy.value) ∧
        ((∀ ev ∈ log copy.version, dayOf ev ≤ today instant) →
          Accounted ((log copy.version).foldl Tables.offer Tables.empty)
            (historyOf log today copy.version instant)) := by
  have hsound := HistoryCache.sound_after shared (historyOf log today) stringify parse events
  obtain ⟨hle, instant, hinstant, hvalue⟩ := hsound.returned r copy h
  exact ⟨hle, instant, hinstant, hvalue, computeHistory_accounted (log copy.version) (today instant)⟩

/-- Three loans, of which one is lost. -/
def lentAndLost : List DecodedEvent :=
  let closed (day : Int) (raw : EventResponse) : EventResponse := { raw with ledgerClosedAt := 86400000000 * day }
  [closed 10 (.published "1-0" 1 "loan_appr" [.num 1, .str "GA", .str "100"]),
    closed 10 (.published "2-0" 2 "loan_appr" [.num 2, .str "GB", .str "50"]),
    closed 12 (.published "3-0" 3 "loan_appr" [.num 3, .str "GC", .str "50"]),
    closed 12 (.published "4-0" 4 "loan_dflt" [.num 1, .str "GA", .str "10"])].filterMap fun raw =>
      (decodeEvent raw).toOption

/-- A request computes the history, the fold of two more events is committed, and another request is answered. -/
def askedTwice : List HistoryEvent :=
  [.commit 0, .begin 0, .getRedis 0, .getLocal 0, .query 0, .setLocal 0, .setRedis 0, .commit 1,
    .begin 1, .getRedis 1, .getLocal 1]

theorem statsHistory_accounted_lentAndLost :
    let s := HistoryCache.after false (historyOf (fun n => lentAndLost.take (2 * n)) fun _ => 13) (fun _ => "")
      (fun _ => none) askedTwice
    ∃ copy, s.reads 1 = .returned copy ∧ s.version = 2 ∧ copy.value.map (·.principalLent) = [150, 0, 0, 0] ∧
      Accounted ((lentAndLost.take 2).foldl Tables.offer Tables.empty) copy.value := by
  have hcached : (HistoryCache.after false (historyOf (fun n => lentAndLost.take (2 * n)) fun _ => 13) (fun _ => "")
      (fun _ => none) askedTwice).reads 1 =
      .returned ⟨historyOf (fun n => lentAndLost.take (2 * n)) (fun _ => 13) 1 0, 1⟩ := by decide +kernel
  refine ⟨_, hcached, by decide +kernel, by decide +kernel, ?_⟩
  obtain ⟨-, instant, -, hvalue, haccounted⟩ :=
    statsHistory_accounted (fun n => lentAndLost.take (2 * n)) (fun _ => 13) askedTwice hcached
  rcases hvalue with hvalue | hvalue
  · rw [hvalue]
    exact haccounted (by decide +kernel)
  · cases hvalue

theorem split_at_day (h : evs.Pairwise fun a b => dayOf a ≤ dayOf b) (day : Int) : ∃ before after,
    evs = before ++ after ∧ (∀ ev ∈ before, dayOf ev ≤ day) ∧ ∀ ev ∈ after, day < dayOf ev := by
  induction evs with
  | nil => exact ⟨[], [], rfl, by simp, by simp⟩
  | cons ev evs ih =>
    rw [List.pairwise_cons] at h
    by_cases hday : dayOf ev ≤ day
    · obtain ⟨before, after, rfl, hbefore, hafter⟩ := ih h.2
      exact ⟨ev :: before, after, rfl, List.forall_mem_cons.mpr ⟨hday, hbefore⟩, hafter⟩
    · refine ⟨[], ev :: evs, rfl, by simp, List.forall_mem_cons.mpr ⟨not_le.mp hday, fun later hlater => ?_⟩⟩
      exact (not_le.mp hday).trans_le (h.1 later hlater)

/-- The statistics up to a day are those of the events up to it. -/
theorem total_upTo_fold (column : DailyLoanStats → Nat) (hbefore : ∀ ev ∈ before, dayOf ev ≤ day)
    (hafter : ∀ ev ∈ after, day < dayOf ev) :
    Table.total column (upTo day ((before ++ after).foldl Tables.offer Tables.empty).daily_loan_stats) =
      Table.total column (before.foldl Tables.offer Tables.empty).daily_loan_stats := by
  refine Table.total_congr column fun d => ?_
  rw [lookup_upTo]
  split
  next hd =>
    rw [List.foldl_append, lookup_fold_daily fun ev hev => (hd.trans_lt (hafter ev hev)).ne]
  next hd =>
    rw [lookup_fold_daily fun ev hev hday => hd (hday.le.trans (hbefore ev hev))]
    rfl

theorem Counted.Throughout.of_append {P : Tables → DecodedEvent → Prop}
    (h : Counted.Throughout P t (before ++ after)) : Counted.Throughout P t before := by
  induction before generalizing t with
  | nil => trivial
  | cons ev before ih => exact ⟨h.1, ih h.2⟩

/-- At most every loan has been counted as defaulted. -/
theorem defaults_le_originated
    (honce : Counted.Throughout (fun t ev => ¬ Counted.CountsAgain t ev) Tables.empty evs) :
    Table.total (·.defaults_count) (evs.foldl Tables.offer Tables.empty).daily_loan_stats ≤
      Table.total (·.loans_originated) (evs.foldl Tables.offer Tables.empty).daily_loan_stats := by
  have htold : Told (tallied evs).tables.books (tallied evs).closed := Counted.told_fold evs told_empty
  have hnodup : (tallied evs).closed.Nodup := by
    rw [tallied, Counted.fold_nodup evs (c := {}) told_empty]
    exact ⟨List.nodup_nil, honce⟩
  have hle := Counted.defaults_le_loans htold hnodup
  rw [tallied_tables] at hle
  exact hle.trans (balanced_fold evs balanced_empty).originated.le

/-- **The default rate is a percentage.** Where the events are folded in the order of their days and none counts
a loan as closed that was counted so before, the rate shown for a day lies between 0 and 100, whatever is
rounded on the way. -/
theorem cumulativeDefaultRate_percentage (evs : List DecodedEvent) (today : Int)
    (hordered : evs.Pairwise fun a b => dayOf a ≤ dayOf b) (hcount : evs.length < 2 ^ 53)
    (honce : Counted.Throughout (fun t ev => ¬ Counted.CountsAgain t ev) Tables.empty evs) :
    ∀ entry ∈ computeHistory today (evs.foldl Tables.offer Tables.empty).daily_loan_stats,
      ∃ q, entry.cumulativeDefaultRatePercent = .finite q ∧ 0 ≤ q ∧ q ≤ 100 := by
  intro entry hentry
  obtain ⟨row, hrow, rfl⟩ := List.mem_map.mp hentry
  obtain ⟨day, hday, rfl⟩ := List.mem_map.mp hrow
  obtain ⟨before, after, rfl, hbefore, hafter⟩ := split_at_day hordered day
  have hcolumn : ∀ column, sumOver ((before ++ after).foldl Tables.offer Tables.empty).daily_loan_stats column
      (calendar today ((before ++ after).foldl Tables.offer Tables.empty).daily_loan_stats) day =
      Table.total column (before.foldl Tables.offer Tables.empty).daily_loan_stats := fun column =>
    (sumOver_calendar column _ (le_today_of_mem hday)).trans (total_upTo_fold column hbefore hafter)
  have hloans : Table.total (·.loans_originated)
      (before.foldl Tables.offer Tables.empty).daily_loan_stats < 2 ^ 53 := by
    have horiginated := (balanced_fold before balanced_empty).originated
    have hlength : (Table.rows (before.foldl Tables.offer Tables.empty).loans).length ≤ 0 + before.length :=
      length_fold_loans
    rw [List.length_append] at hcount
    calc Table.total (·.loans_originated) (before.foldl Tables.offer Tables.empty).daily_loan_stats
        = (Table.rows (before.foldl Tables.offer Tables.empty).loans).length := horiginated.symm
      _ ≤ before.length := by omega
      _ < 2 ^ 53 := by omega
  simp only [HistoryRow.toEntry, historyRow, hcolumn]
  exact cumulativeDefaultRate_between (defaults_le_originated honce.of_append) hloans

theorem cumulativeDefaultRate_percentage_lentAndLost :
    (computeHistory 13 (lentAndLost.foldl Tables.offer Tables.empty).daily_loan_stats).map
        (·.cumulativeDefaultRatePercent) =
        [.finite 0, .finite 0, JsNumber.ofRat (333333 / 10000), JsNumber.ofRat (333333 / 10000)] ∧
      ∀ entry ∈ computeHistory 13 (lentAndLost.foldl Tables.offer Tables.empty).daily_loan_stats,
        ∃ q, entry.cumulativeDefaultRatePercent = .finite q ∧ 0 ≤ q ∧ q ≤ 100 :=
  ⟨by decide +kernel, cumulativeDefaultRate_percentage lentAndLost 13 (by decide +kernel) (by decide +kernel)
    ((Counted.fold_nodup lentAndLost (c := {}) told_empty).mp (by decide +kernel)).2⟩

end

end OurDao
