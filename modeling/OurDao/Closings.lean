import OurDao.Books

/-!
# How often a loan is tallied as closed

The handlers count a repayment that clears a loan, and a default, by the status the loan
had before. Three of them move that status, each in its own direction, so a loan can be
tallied again after it was given another status; `repaid_ledger` and `defaulted_ledger`
remember that it was tallied.
-/

namespace OurDao

namespace Closing

def loan : Closing → Int
  | repaid id => id
  | defaulted id => id

def isDefault : Closing → Bool
  | repaid _ => false
  | defaulted _ => true

/-- The loan's row tells when it was closed this way. -/
def recordedIn (row : LoanRow) : Closing → Bool
  | repaid _ => row.repaid_ledger.isSome
  | defaulted _ => row.defaulted_ledger.isSome

def recorded (loans : Table Int LoanRow) (x : Closing) : Bool :=
  (loans.lookup x.loan).any fun row => x.recordedIn row

/-- What the closing adds to the principal repaid. -/
def principal (loans : Table Int LoanRow) : Closing → Nat
  | repaid id => Table.valueAt loans (·.amount) id
  | defaulted _ => 0

theorem recorded_of_lookup {loans : Table Int LoanRow} {x : Closing} {row : LoanRow}
    (h : loans.lookup x.loan = some row) : x.recorded loans = x.recordedIn row := by simp [recorded, h]

theorem recorded_insert {loans : Table Int LoanRow} {id : Int} {row : LoanRow} (x : Closing) :
    x.recorded (loans.insert id row) = if x.loan = id then x.recordedIn row else x.recorded loans := by
  rw [recorded, Table.lookup_insert]
  split <;> rfl

theorem principal_insert {loans : Table Int LoanRow} {id : Int} {row : LoanRow} {x : Closing}
    (h : x.loan = id → Table.valueAt loans (·.amount) id = row.amount) :
    x.principal (loans.insert id row) = x.principal loans := by
  cases x with
  | defaulted _ => rfl
  | repaid i =>
    simp only [principal, Table.valueAt, Table.lookup_insert]
    split
    next hi => subst hi; simpa [Table.valueAt] using (h rfl).symm
    next => rfl

end Closing

/-- A loan in a status was given it by a closing that its row tells of. -/
def Recorded (row : LoanRow) : Prop :=
  (row.status = .repaid → row.repaid_ledger.isSome) ∧ (row.status = .defaulted → row.defaulted_ledger.isSome)

structure Told (b : Books) (closed : List Closing) : Prop where
  recorded : ∀ x, x ∈ closed ↔ x.recorded b.loans
  rows : ∀ id row, b.loans.lookup id = some row → Recorded row
  principal : b.dao_totals.principal_repaid = (closed.map (Closing.principal b.loans)).sum
  defaults : Table.total (·.defaults_count) b.daily_loan_stats = closed.countP Closing.isDefault

theorem told_empty : Told Tables.empty.books [] where
  recorded x := by simp [Closing.recorded, Tables.empty, Tables.books]
  rows id row h := by simp [Tables.empty, Tables.books] at h
  principal := rfl
  defaults := rfl

namespace Told

variable {b : Books} {closed : List Closing} {id : Int} {row row' : LoanRow}

theorem insert_rows (h : Told b closed) (hrow : Recorded row') (i : Int) (r : LoanRow)
    (hr : (b.loans.insert id row').lookup i = some r) : Recorded r := by
  rw [Table.lookup_insert] at hr
  split at hr
  · cases hr
    exact hrow
  · exact h.rows i r hr

/-- The closings tallied are worth what they were. -/
theorem insert_principal (h : Told b closed)
    (hid : ∀ x ∈ closed, x.loan = id → Table.valueAt b.loans (·.amount) id = row'.amount) :
    (closed.map (Closing.principal (b.loans.insert id row'))).sum = b.dao_totals.principal_repaid := by
  rw [h.principal]
  congr 1
  exact List.map_congr_left fun x hx => Closing.principal_insert (hid x hx)

/-- A loan rewritten with its closings as they were. -/
theorem setLoan (h : Told b closed) (hrow : b.loans.lookup id = some row) (hamount : row'.amount = row.amount)
    (hrow' : Recorded row') (hsame : ∀ x : Closing, x.recordedIn row' = x.recordedIn row) :
    Told (b.setLoan id row') closed where
  recorded x := by
    rw [h.recorded]
    simp only [Books.setLoan, Closing.recorded_insert]
    split
    next hx =>
      subst hx
      rw [Closing.recorded_of_lookup hrow, hsame]
    next => rfl
  rows := h.insert_rows hrow'
  principal := (h.insert_principal fun x _ _ => by simp [Table.valueAt, hrow, hamount]).symm
  defaults := h.defaults

/-- A loan that is tallied once more. -/
theorem close (h : Told b closed) (hrow : b.loans.lookup id = some row) (hamount : row'.amount = row.amount)
    (hrow' : Recorded row') (x : Closing) (hx : x.loan = id)
    (hrecorded : ∀ y : Closing, y.loan = id → (y.recordedIn row' ↔ y.recordedIn row ∨ y = x))
    {totals : DaoTotals} {daily : DailyLoanStats} (day : Int)
    (htotals : totals.principal_repaid = x.principal b.loans)
    (hdaily : daily.defaults_count = if x.isDefault then 1 else 0) :
    Told (((b.setLoan id row').addTotals totals).addDaily day daily) (closed ++ [x]) where
  recorded y := by
    simp only [Books.setLoan, Books.addTotals, Books.addDaily, Closing.recorded_insert, List.mem_append,
      List.mem_singleton, h.recorded]
    split
    next hy =>
      rw [hrecorded y hy]
      subst hy
      rw [Closing.recorded_of_lookup hrow]
    next hy =>
      have hne : y ≠ x := fun heq => hy (heq ▸ hx)
      simp [hne]
  rows := h.insert_rows hrow'
  principal := by
    have hvalue : Table.valueAt b.loans (·.amount) id = row'.amount := by simp [Table.valueAt, hrow, hamount]
    simp only [Books.setLoan, Books.addTotals, Books.addDaily, DaoTotals.add, List.map_append, List.sum_append,
      List.map_singleton, List.sum_singleton, htotals]
    rw [h.insert_principal fun _ _ _ => hvalue, Closing.principal_insert fun _ => hvalue]
  defaults := by
    have hday := total_addDaily (·.defaults_count) (fun _ _ => rfl) rfl b.daily_loan_stats day daily
    simp only [Books.setLoan, Books.addTotals, Books.addDaily, hday, hdaily, h.defaults, List.countP_append,
      List.countP_singleton]

theorem booking (h : Told b closed) {ev : DecodedEvent} {b' : Books} (hb : Booking ev b b') :
    Told b' (closed ++ (closing ev b.loans).toList) := by
  cases hb with
  | kept hc => simpa [hc] using h
  | @lent id row hc hnew hactive hrepaid hdefaulted =>
    have hfresh : ∀ x ∈ closed, x.loan ≠ id := by
      rintro x hx rfl
      simp [h.recorded, Closing.recorded, hnew] at hx
    have hrow : Recorded row := by simp [Recorded, hactive]
    have hvalue : ∀ x ∈ closed, x.loan = id → Table.valueAt b.loans (·.amount) id = row.amount :=
      fun x hx heq => absurd heq (hfresh x hx)
    simp only [hc, Option.toList_none, List.append_nil]
    refine ⟨fun x => ?_, h.insert_rows hrow, ?_, ?_⟩
    · rw [h.recorded]
      simp only [Books.setLoan, Books.addTotals, Books.addDaily, Closing.recorded_insert]
      split
      next hx =>
        subst hx
        have hnone : x.recordedIn row = false := by cases x <;> simp [Closing.recordedIn, hrepaid, hdefaulted]
        simp [Closing.recorded, hnew, hnone]
      next => rfl
    · exact (h.insert_principal hvalue).symm
    · rw [← h.defaults]
      exact total_addDaily (·.defaults_count) (fun _ _ => rfl) rfl b.daily_loan_stats (dayOf ev)
        { loans_originated := 1, principal_lent := row.amount }
  | reapproved hc hrow =>
    simp only [hc, Option.toList_none, List.append_nil]
    refine h.setLoan hrow rfl ⟨?_, ?_⟩ fun x => by cases x <;> rfl
    · rintro ⟨⟩
    · rintro ⟨⟩
  | @repayment id row outstanding hc hrow hpaid =>
    have hrepaid : outstanding.text = "0" → row.repaid_ledger.isSome := fun h0 =>
      (h.rows id row hrow).1 (hpaid h0)
    simp only [hc, Option.toList_none, List.append_nil]
    refine h.setLoan hrow rfl ?_ fun x => ?_
    · by_cases h0 : outstanding.text = "0" <;> simp [Recorded, LoanRow.afterRepayment, h0]
    · by_cases h0 : outstanding.text = "0" <;> cases x <;>
        simp_all [Closing.recordedIn, LoanRow.afterRepayment]
  | @cleared id row outstanding hc hrow hpaid =>
    have hamount : (row.afterRepayment ev outstanding).amount = row.amount := rfl
    have hrow' : Recorded (row.afterRepayment ev outstanding) := by
      simp [Recorded, LoanRow.afterRepayment, hpaid]
    rw [hc]
    refine h.close hrow hamount hrow' (.repaid id) rfl (fun y hy => ?_) _ ?_ rfl
    · cases y <;> simp_all [Closing.recordedIn, LoanRow.afterRepayment, Closing.loan]
    · simp [Closing.principal, Table.valueAt, hrow]
  | @defaulted id row hc hrow =>
    have hrow' : Recorded { row with status := .defaulted, defaulted_ledger := some ev.ledger } := by
      simp [Recorded]
    rw [hc]
    refine h.close hrow (by rfl) hrow' (.defaulted id) rfl (fun y hy => ?_) _ rfl rfl
    cases y <;> simp_all [Closing.recordedIn, Closing.loan]
  | earned hc =>
    simp only [hc, Option.toList_none, List.append_nil]
    exact ⟨h.recorded, h.rows, h.principal, h.defaults⟩

end Told

/-- The tables with the loans tallied as closed so far. -/
structure Counted where
  tables : Tables := Tables.empty
  closed : List Closing := []

namespace Counted

def offer (c : Counted) (ev : DecodedEvent) : Counted :=
  match applyEvent ev c.tables with
  | .ok (_, tables) => { tables, closed := c.closed ++ (closing ev c.tables.loans).toList }
  | .error _ => c

/-- The event is folded, and counts a loan as closed whose row tells that it was tallied before. -/
def CountsAgain (t : Tables) (ev : DecodedEvent) : Prop :=
  (∃ r, applyEvent ev t = .ok r) ∧ ∃ x, closing ev t.loans = some x ∧ x.recorded t.loans

/-- `P` holds of every event of a sequence and the tables it finds. -/
def Throughout (P : Tables → DecodedEvent → Prop) : Tables → List DecodedEvent → Prop
  | _, [] => True
  | t, ev :: evs => P t ev ∧ Throughout P (t.offer ev) evs

@[simp] theorem offer_tables (c : Counted) (ev : DecodedEvent) : (c.offer ev).tables = c.tables.offer ev := by
  rw [offer, Tables.offer]
  rcases applyEvent ev c.tables with e | ⟨channels, tables⟩ <;> rfl

theorem told_offer {c : Counted} (h : Told c.tables.books c.closed) (ev : DecodedEvent) :
    Told (c.offer ev).tables.books (c.offer ev).closed := by
  rw [offer]
  split
  next hok => exact h.booking (applyEvent_booking hok)
  next => exact h

theorem told_fold (evs : List DecodedEvent) {c : Counted} (h : Told c.tables.books c.closed) :
    Told (evs.foldl offer c).tables.books (evs.foldl offer c).closed := by
  induction evs generalizing c with
  | nil => exact h
  | cons ev evs ih => exact ih (told_offer h ev)

/-- One more event keeps the closings distinct unless it counts a loan again. -/
theorem offer_nodup {c : Counted} (h : Told c.tables.books c.closed) (ev : DecodedEvent) :
    (c.offer ev).closed.Nodup ↔ c.closed.Nodup ∧ ¬ CountsAgain c.tables ev := by
  rw [offer, CountsAgain]
  rcases hok : applyEvent ev c.tables with e | r
  · simp
  · have hmem : ∀ x, x ∈ c.closed ↔ x.recorded c.tables.loans := h.recorded
    rcases closing ev c.tables.loans with _ | x
    · simp
    · simp only [Option.toList_some, ← List.concat_eq_append, List.nodup_concat]
      simp [and_comm, hmem]

theorem fold_nodup (evs : List DecodedEvent) {c : Counted} (h : Told c.tables.books c.closed) :
    (evs.foldl offer c).closed.Nodup ↔
      c.closed.Nodup ∧ Throughout (fun t ev => ¬ CountsAgain t ev) c.tables evs := by
  induction evs generalizing c with
  | nil => simp [Throughout]
  | cons ev evs ih =>
    rw [List.foldl_cons, ih (told_offer h ev), offer_nodup h, offer_tables, Throughout, and_assoc]

/-- The loans closed in one of the two ways. -/
def closedLoans (closed : List Closing) (isDefault : Bool) : List Int :=
  (closed.filter fun x => x.isDefault = isDefault).map Closing.loan

theorem closedLoans_nodup {closed : List Closing} (h : closed.Nodup) (isDefault : Bool) :
    (closedLoans closed isDefault).Nodup := by
  refine (h.filter _).map_on fun x hx y hy heq => ?_
  simp only [List.mem_filter, decide_eq_true_eq] at hx hy
  obtain ⟨-, hx⟩ := hx
  obtain ⟨-, hy⟩ := hy
  cases x <;> cases y <;> simp_all [Closing.isDefault, Closing.loan]

/-- The closings of distinct loans are worth at most what was lent. -/
theorem repaid_le_lent {c : Counted} (h : Told c.tables.books c.closed) (hb : c.tables.books.Balanced)
    (honce : c.closed.Nodup) :
    c.tables.dao_totals.principal_repaid ≤ c.tables.dao_totals.principal_lent := by
  have hsum : ∀ closed : List Closing, (closed.map (Closing.principal c.tables.loans)).sum =
      ((closedLoans closed false).map (Table.valueAt c.tables.loans (·.amount))).sum := by
    intro closed
    induction closed with
    | nil => rfl
    | cons x closed ih => cases x <;> simp_all [closedLoans, Closing.isDefault, Closing.principal, Closing.loan]
  calc c.tables.dao_totals.principal_repaid
      = ((closedLoans c.closed false).map (Table.valueAt c.tables.loans (·.amount))).sum :=
        h.principal.trans (hsum c.closed)
    _ ≤ Table.total (·.amount) c.tables.loans :=
        Table.sum_valueAt_le_total _ (closedLoans_nodup honce false)
    _ = c.tables.dao_totals.principal_lent := hb.lent.symm

theorem defaults_le_loans {c : Counted} (h : Told c.tables.books c.closed) (honce : c.closed.Nodup) :
    Table.total (·.defaults_count) c.tables.daily_loan_stats ≤ (Table.rows c.tables.loans).length := by
  have hrow : ∀ i ∈ closedLoans c.closed true, Table.valueAt c.tables.loans (fun _ => 1) i = 1 := by
    intro i hi
    obtain ⟨x, hx, rfl⟩ := List.mem_map.mp hi
    have hrecorded : x.recorded c.tables.loans := (h.recorded x).mp (List.mem_of_mem_filter hx)
    rcases hlookup : c.tables.loans.lookup x.loan with _ | row
    · simp [Closing.recorded, hlookup] at hrecorded
    · simp [Table.valueAt, hlookup]
  calc Table.total (·.defaults_count) c.tables.daily_loan_stats
      = c.closed.countP Closing.isDefault := h.defaults
    _ = (closedLoans c.closed true).length := by simp [closedLoans, List.countP_eq_length_filter]
    _ = ((closedLoans c.closed true).map (Table.valueAt c.tables.loans fun _ => 1)).sum := by
        rw [List.map_congr_left hrow]
        simp
    _ ≤ Table.total (fun _ => 1) c.tables.loans := Table.sum_valueAt_le_total _ (closedLoans_nodup honce true)
    _ = (Table.rows c.tables.loans).length := Table.total_one

end Counted

/-- The closings that a sequence of events from empty tables counts. -/
def tallied (evs : List DecodedEvent) : Counted := evs.foldl Counted.offer {}

/-- No loan counts twice as repaid or twice as defaulted, with what follows for the totals. -/
structure ClosesOnce (evs : List DecodedEvent) : Prop where
  once : ∀ x, (tallied evs).closed.count x ≤ 1
  repaid_le_lent : (tallied evs).tables.dao_totals.principal_repaid ≤
    (tallied evs).tables.dao_totals.principal_lent
  defaults_le_loans : Table.total (·.defaults_count) (tallied evs).tables.daily_loan_stats ≤
    (Table.rows (tallied evs).tables.loans).length

theorem tallied_tables (evs : List DecodedEvent) :
    (tallied evs).tables = evs.foldl Tables.offer Tables.empty := by
  suffices h : ∀ c : Counted, (evs.foldl Counted.offer c).tables = evs.foldl Tables.offer c.tables from h {}
  induction evs with
  | nil => exact fun _ => rfl
  | cons ev evs ih =>
    intro c
    rw [List.foldl_cons, ih, Counted.offer_tables, List.foldl_cons]

/-- What the sequence counts is what the tables were charged with. -/
theorem counted_charged (evs : List DecodedEvent) :
    (tallied evs).tables.dao_totals.principal_repaid =
        ((tallied evs).closed.map (Closing.principal (tallied evs).tables.loans)).sum ∧
      Table.total (·.defaults_count) (tallied evs).tables.daily_loan_stats =
        (tallied evs).closed.countP Closing.isDefault :=
  have h : Told (tallied evs).tables.books (tallied evs).closed := Counted.told_fold evs told_empty
  ⟨h.principal, h.defaults⟩

/-- **Loans close once** exactly as long as no event that is folded clears or defaults a loan whose
row tells that this happened before, but whose status was changed since. -/
theorem closes_once_iff (evs : List DecodedEvent) : ClosesOnce evs ↔
    Counted.Throughout (fun t ev => ¬ Counted.CountsAgain t ev) Tables.empty evs := by
  have htold : Told (tallied evs).tables.books (tallied evs).closed := Counted.told_fold evs told_empty
  have hbalanced : (tallied evs).tables.books.Balanced := by
    rw [tallied_tables]
    exact balanced_fold evs balanced_empty
  have hnodup : (tallied evs).closed.Nodup ↔
      Counted.Throughout (fun t ev => ¬ Counted.CountsAgain t ev) Tables.empty evs := by
    rw [tallied, Counted.fold_nodup evs (c := {}) told_empty]
    simp
  rw [← hnodup]
  constructor
  · intro h
    exact List.nodup_iff_count_le_one.mpr h.once
  · intro h
    exact ⟨List.nodup_iff_count_le_one.mp h, Counted.repaid_le_lent htold hbalanced h,
      Counted.defaults_le_loans htold h⟩

/-- Approved, repaid, and the same two delivered once more. -/
def redelivered : List DecodedEvent :=
  let approved := EventResponse.published "1-0" 1 "loan_appr" [.num 1, .str "GB", .str "100"]
  let repaid := EventResponse.published "2-0" 2 "loan_rpy" [.num 1, .str "GB", .str "0"]
  [approved, repaid, approved, repaid].filterMap fun raw => (decodeEvent raw).toOption

theorem redelivered_loan_counts_twice :
    (tallied redelivered).closed = [.repaid 1, .repaid 1] ∧
      (tallied redelivered).tables.dao_totals.principal_lent = 100 ∧
      (tallied redelivered).tables.dao_totals.principal_repaid = 200 ∧ ¬ ClosesOnce redelivered := by
  have hclosed : (tallied redelivered).closed = [.repaid 1, .repaid 1] := by decide +kernel
  refine ⟨hclosed, by decide +kernel, by decide +kernel, fun h => ?_⟩
  have hcount := h.once (.repaid 1)
  rw [hclosed] at hcount
  revert hcount
  decide

end OurDao
