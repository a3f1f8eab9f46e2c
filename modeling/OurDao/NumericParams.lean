import OurDao.LedgerFeeds

/-!
# Numbers in paths and queries

Every route checks the numbers it takes, and then compares them with a column of 32 or of 64 bits.
The check is the same for both widths, a safe integer. The cursor of the event feed goes through
`Number`, which rounds.
-/

namespace OurDao

/-- The width of a column. -/
inductive Column where
  | integer
  | bigint
  deriving DecidableEq, Repr

def Column.bits : Column → Nat
  | integer => 31
  | bigint => 63

/-- The number that arrives at a column, if that takes it. -/
def Column.take : Column → JsNumber → Option Nat
  | integer, x => x.printed.filter (· < 2 ^ 31)
  | bigint, x => OurDao.bigint x

theorem Column.take_eq (column : Column) (x : JsNumber) : column.take x = x.printed.filter (· < 2 ^ column.bits) := by
  cases column <;> rfl

/-- A number in the path or the query of a route. -/
inductive NumericParam where
  /-- `/loans/:id` -/
  | loan
  /-- `/proposals/loan/:id` -/
  | loanProposal
  /-- `/proposals/treasury/:id` -/
  | treasuryProposal
  /-- `/notifications/:id/read` -/
  | notification
  /-- `/loans?before=` -/
  | loansBefore
  /-- `/notifications?before=` -/
  | notificationsBefore
  /-- `/admin/failed-events?before=` -/
  | failedEventsBefore
  /-- `?before=` of `/members/:address/activity`, `/admin/log`, `/interest` and `/documents` -/
  | ledgerBefore
  /-- `/documents?proposal_id=` -/
  | documentsProposal
  /-- `/events?before=` -/
  | eventsBefore
  /-- `/events?after=` -/
  | eventsAfter
  /-- `?from_ledger=` of `/events` and `/admin/failed-events` -/
  | fromLedger
  /-- `?to_ledger=` of `/events` and `/admin/failed-events` -/
  | toLedger
  deriving DecidableEq, Repr

namespace NumericParam

/-- The column that a parameter is compared with. -/
def column : NumericParam → Column
  | loan | loanProposal | treasuryProposal | loansBefore | documentsProposal => .integer
  | _ => .bigint

/-- The number that is sent for a value that the route accepts. The checks of the ids in paths are
written out in each route, and the same. -/
def sent (p : NumericParam) (v : QueryValue) : Option JsNumber :=
  match p with
  | loan | loanProposal | treasuryProposal | notification => (notificationId v.text).map fun n : Nat => .finite n
  | loansBefore | notificationsBefore | failedEventsBefore | ledgerBefore =>
    (cursor (some v)).map fun n : Nat => .finite n
  | documentsProposal =>
    match checkProposalId (some v) with
    | .ok id => id.map fun n : Nat => JsNumber.ofRat n
    | .error _ => none
  | eventsBefore | eventsAfter => (eventCursor (some v)).map EventCursor.ledger
  | fromLedger | toLedger => (ledgerBound (some v)).map fun n : Nat => .finite n

/-- The number that a value denotes: of a paging id, the one before the hyphen. -/
def denoted (p : NumericParam) (v : QueryValue) : Option ℚ :=
  let raw := trim v.text
  match p with
  | documentsProposal => (JsNumber.digits 10 v.text.toList).map Nat.cast
  | eventsBefore | eventsAfter =>
    if isPagingText raw then (JsNumber.digits 10 (raw.toList.takeWhile (· ≠ '-'))).map Nat.cast
    else JsNumber.exactValue (JsStr.ofString raw)
  | _ => (JsNumber.digits 10 raw.toList).map Nat.cast

/-- The column takes the number that is sent, and as the integer that the value denotes. -/
def Fits (p : NumericParam) (v : QueryValue) (x : JsNumber) : Prop :=
  ∃ n : Nat, p.denoted v = some (n : ℚ) ∧ p.column.take x = some n

/-- An id or a cursor for an `INTEGER` column is below `2 ^ 31`; the ledger of a paging id is below
`2 ^ 63`, and printed again for the double nearest to it; another cursor of the event feed is an integer. -/
def InBounds (p : NumericParam) (v : QueryValue) : Prop :=
  match p with
  | loan | loanProposal | treasuryProposal | loansBefore | documentsProposal =>
    ∀ n : Nat, p.denoted v = some (n : ℚ) → n < 2 ^ 31
  | eventsBefore | eventsAfter =>
    if isPagingText (trim v.text) then
      ∀ n : Nat, p.denoted v = some (n : ℚ) → n < 2 ^ 63 ∧ (JsNumber.ofRat n).printed = some n
    else ∀ x, p.denoted v = some x → x.den = 1
  | _ => True

variable {p : NumericParam} {v : QueryValue} {x : JsNumber} {n : Nat} {c : EventCursor}

theorem take_small (column : Column) (hn : n < 2 ^ 53) :
    column.take (.finite n) = if n < 2 ^ column.bits then some n else none := by
  rw [column.take_eq, JsNumber.printed_small hn, Option.filter_some]
  simp only [decide_eq_true_eq]

/-- Digits of a safe integer fit where that is in range. -/
theorem fits_small (hn : n < 2 ^ 53) (hdenoted : p.denoted v = some (n : ℚ)) :
    p.Fits v (.finite n) ↔ n < 2 ^ p.column.bits := by
  rw [Fits, hdenoted, take_small _ hn]
  constructor
  · rintro ⟨m, -, htake⟩
    split at htake
    next hlt => exact hlt
    next => cases htake
  · exact fun hlt => ⟨n, rfl, if_pos hlt⟩

theorem notificationId_eq_some {s : String} (h : notificationId s = some n) :
    JsNumber.digits 10 (trim s).toList = some n ∧ n < 2 ^ 53 := by
  obtain ⟨hdigits, hbounds⟩ := Option.filter_eq_some_iff.mp h
  exact ⟨hdigits, (of_decide_eq_true hbounds).2⟩

theorem safeDigits_eq_some {s : String} (h : safeDigits s = some n) :
    JsNumber.digits 10 (trim s).toList = some n ∧ n < 2 ^ 53 := by
  obtain ⟨hdigits, hbound⟩ := Option.filter_eq_some_iff.mp h
  exact ⟨hdigits, of_decide_eq_true hbound⟩

theorem cursor_eq_some (h : cursor (some v) = some n) :
    JsNumber.digits 10 (trim v.text).toList = some n ∧ n < 2 ^ 53 := by
  unfold cursor at h
  split at h
  next => cases h
  next => cases h
  next w heq =>
    cases heq
    exact safeDigits_eq_some (Option.filter_eq_some_iff.mp h).1

theorem ledgerBound_eq_some (h : ledgerBound (some v) = some n) :
    JsNumber.digits 10 (trim v.text).toList = some n ∧ n < 2 ^ 53 := by
  unfold ledgerBound at h
  split at h
  next => cases h
  next => cases h
  next w heq =>
    cases heq
    exact safeDigits_eq_some h

/-- The checks that take digits of a safe integer. -/
def takesSafeDigits (p : NumericParam) : Prop := p ≠ documentsProposal ∧ p ≠ eventsBefore ∧ p ≠ eventsAfter

theorem denoted_safeDigits (hp : p.takesSafeDigits) :
    p.denoted v = (JsNumber.digits 10 (trim v.text).toList).map Nat.cast := by
  obtain ⟨hdocuments, hbefore, hafter⟩ := hp
  unfold denoted
  split
  next => exact absurd rfl hdocuments
  next => exact absurd rfl hbefore
  next => exact absurd rfl hafter
  next => rfl

theorem sent_safeDigits (hp : p.takesSafeDigits) (h : p.sent v = some x) :
    ∃ n : Nat, p.denoted v = some (n : ℚ) ∧ n < 2 ^ 53 ∧ x = .finite n := by
  obtain ⟨hdocuments, hbefore, hafter⟩ := id hp
  obtain ⟨n, ⟨hdigits, hn⟩, hx⟩ : ∃ n : Nat, (JsNumber.digits 10 (trim v.text).toList = some n ∧ n < 2 ^ 53) ∧
      .finite n = x := by
    cases p with
    | documentsProposal => exact absurd rfl hdocuments
    | eventsBefore => exact absurd rfl hbefore
    | eventsAfter => exact absurd rfl hafter
    | loan | loanProposal | treasuryProposal | notification =>
      rw [sent] at h
      obtain ⟨n, hn, hx⟩ := Option.map_eq_some_iff.mp h
      exact ⟨n, notificationId_eq_some hn, hx⟩
    | loansBefore | notificationsBefore | failedEventsBefore | ledgerBefore =>
      rw [sent] at h
      obtain ⟨n, hn, hx⟩ := Option.map_eq_some_iff.mp h
      exact ⟨n, cursor_eq_some hn, hx⟩
    | fromLedger | toLedger =>
      rw [sent] at h
      obtain ⟨n, hn, hx⟩ := Option.map_eq_some_iff.mp h
      exact ⟨n, ledgerBound_eq_some hn, hx⟩
  exact ⟨n, by rw [denoted_safeDigits hp, hdigits, Option.map_some], hn, hx.symm⟩

theorem inBounds_column (hp : p.takesSafeDigits) (hn : n < 2 ^ 53) (hdenoted : p.denoted v = some (n : ℚ)) :
    p.InBounds v ↔ n < 2 ^ p.column.bits := by
  obtain ⟨hdocuments, hbefore, hafter⟩ := hp
  have hinteger : (∀ m : Nat, p.denoted v = some (m : ℚ) → m < 2 ^ 31) ↔ n < 2 ^ 31 := by
    refine ⟨fun h => h n hdenoted, fun h m hm => ?_⟩
    rw [hdenoted] at hm
    have hsame : n = m := by exact_mod_cast Option.some.inj hm
    omega
  have hbigint : True ↔ n < 2 ^ 63 := iff_of_true trivial (by omega)
  cases p with
  | documentsProposal => exact absurd rfl hdocuments
  | eventsBefore => exact absurd rfl hbefore
  | eventsAfter => exact absurd rfl hafter
  | loan | loanProposal | treasuryProposal | loansBefore => exact hinteger
  | notification | notificationsBefore | failedEventsBefore | ledgerBefore | fromLedger | toLedger => exact hbigint

theorem fits_safeDigits (hp : p.takesSafeDigits) (h : p.sent v = some x) : p.Fits v x ↔ p.InBounds v := by
  obtain ⟨n, hdenoted, hn, rfl⟩ := sent_safeDigits hp h
  rw [fits_small hn hdenoted, inBounds_column hp hn hdenoted]

theorem checkProposalId_eq_ok (h : checkProposalId (some v) = .ok (some n)) :
    JsNumber.digits 10 v.text.toList = some n := by
  unfold checkProposalId at h
  split at h
  next heq => cases heq
  next s heq =>
    cases heq
    split at h
    next m hm =>
      cases h
      exact hm
    next => cases h
  next => cases h

theorem sent_documents (h : documentsProposal.sent v = some x) :
    ∃ n : Nat, documentsProposal.denoted v = some (n : ℚ) ∧ x = JsNumber.ofRat n := by
  rw [sent] at h
  split at h
  next id hid =>
    cases id with
    | none => cases h
    | some n =>
      cases h
      exact ⟨n, by rw [denoted, checkProposalId_eq_ok hid, Option.map_some], rfl⟩
  next => cases h

theorem fits_documents (h : documentsProposal.sent v = some x) :
    documentsProposal.Fits v x ↔ documentsProposal.InBounds v := by
  obtain ⟨n, hdenoted, rfl⟩ := sent_documents h
  have hbounds : documentsProposal.InBounds v ↔ n < 2 ^ 31 := by
    refine ⟨fun h => h n hdenoted, fun h m hm => ?_⟩
    rw [hdenoted] at hm
    have hsame : n = m := by exact_mod_cast Option.some.inj hm
    omega
  rw [hbounds]
  by_cases hn : n < 2 ^ 53
  · rw [JsNumber.ofRat_exact hn, fits_small hn hdenoted]
    rfl
  · constructor
    · rintro ⟨m, -, htake⟩
      obtain ⟨hprinted, hm⟩ := Option.filter_eq_some_iff.mp htake
      have hlarge := JsNumber.le_printed (by omega) hprinted
      have hm : m < 2 ^ 31 := of_decide_eq_true hm
      omega
    · intro hsmall
      omega

theorem pagingText_head {s : String} (h : isPagingText s) :
    s.toList.takeWhile (· ≠ '-') ≠ [] ∧ ∀ c ∈ s.toList.takeWhile (· ≠ '-'), c.isDigit := by
  have hcut : s.toList.takeWhile Char.isDigit ++ s.toList.dropWhile Char.isDigit = s.toList :=
    List.takeWhile_append_dropWhile
  rw [isPagingText] at h
  split at h
  next cs hrest =>
    simp only [Bool.and_eq_true, Bool.not_eq_true', List.isEmpty_eq_false_iff] at h
    have hdigit : ∀ c ∈ s.toList.takeWhile Char.isDigit, c.isDigit := fun c hc => List.mem_takeWhile_imp hc
    have hhead : s.toList.takeWhile (· ≠ '-') = s.toList.takeWhile Char.isDigit := by
      conv_lhs => rw [← hcut, hrest]
      rw [List.takeWhile_append_of_pos, List.takeWhile_cons_of_neg (by simp), List.append_nil]
      intro c hc
      rw [decide_eq_true_eq]
      rintro rfl
      exact absurd (hdigit _ hc) (by decide)
    rw [hhead]
    exact ⟨h.1.1, hdigit⟩
  next => cases h

/-- A paging id is sent as the double nearest to its ledger. -/
theorem eventCursor_paging (hpaging : isPagingText (trim v.text)) (h : eventCursor (some v) = some c) :
    ∃ n : Nat, JsNumber.digits 10 ((trim v.text).toList.takeWhile (· ≠ '-')) = some n ∧
      c.ledger = JsNumber.ofRat n := by
  obtain ⟨hne, hdigit⟩ := pagingText_head hpaging
  refine ⟨_, JsNumber.digits_eq hne hdigit, ?_⟩
  have hparse := JsNumber.parse_digits hne hdigit
  rw [eventCursor] at h
  · simp only [if_pos hpaging, Option.some.injEq] at h
    rw [← h, hparse]
  · rintro rfl
    cases h

/-- Another cursor is a safe integer that is positive, and the double nearest to its value. -/
theorem eventCursor_numeral (hpaging : isPagingText (trim v.text) = false) (h : eventCursor (some v) = some c) :
    ∃ n : Nat, n < 2 ^ 53 ∧ c.ledger = .finite n ∧
      ∃ y, 0 ≤ y ∧ JsNumber.exactValue (JsStr.ofString (trim v.text)) = some y ∧ JsNumber.ofRat y = .finite n := by
  rw [eventCursor] at h
  · simp only [hpaging, Bool.false_eq_true, if_false] at h
    split at h
    next q hq =>
      split at h
      next hsafe =>
        rw [Option.some.injEq] at h
        obtain ⟨hden, hpos, hbound⟩ := hsafe
        obtain ⟨n, rfl⟩ := JsNumber.exists_natCast hden hpos.le
        exact ⟨n, by exact_mod_cast hbound, by rw [← h], JsNumber.exactValue_of_parse hq hpos⟩
      next => cases h
    next => cases h
  · rintro rfl
    cases h

theorem denoted_cursor (hp : p = eventsBefore ∨ p = eventsAfter) : p.denoted v =
    if isPagingText (trim v.text) then (JsNumber.digits 10 ((trim v.text).toList.takeWhile (· ≠ '-'))).map Nat.cast
    else JsNumber.exactValue (JsStr.ofString (trim v.text)) := by
  obtain rfl | rfl := hp <;> rfl

theorem inBounds_cursor (hp : p = eventsBefore ∨ p = eventsAfter) : p.InBounds v ↔
    if isPagingText (trim v.text) then
      ∀ n : Nat, p.denoted v = some (n : ℚ) → n < 2 ^ 63 ∧ (JsNumber.ofRat n).printed = some n
    else ∀ y, p.denoted v = some y → y.den = 1 := by
  obtain rfl | rfl := hp <;> rfl

theorem take_cursor (hp : p = eventsBefore ∨ p = eventsAfter) (x : JsNumber) :
    p.column.take x = x.printed.filter (· < 2 ^ 63) := by
  obtain rfl | rfl := hp <;> rfl

theorem fits_paging (hp : p = eventsBefore ∨ p = eventsAfter) (hpaging : isPagingText (trim v.text))
    (h : eventCursor (some v) = some c) : p.Fits v c.ledger ↔ p.InBounds v := by
  obtain ⟨n, hdigits, hledger⟩ := eventCursor_paging hpaging h
  have hdenoted : p.denoted v = some (n : ℚ) := by rw [denoted_cursor hp, if_pos hpaging, hdigits, Option.map_some]
  rw [inBounds_cursor hp, if_pos hpaging, Fits, hdenoted, hledger, take_cursor hp]
  constructor
  · rintro ⟨m, hm, htake⟩ k hk
    have hnm : n = m := by exact_mod_cast Option.some.inj hm
    have hnk : n = k := by exact_mod_cast Option.some.inj hk
    obtain ⟨hprinted, hrange⟩ := Option.filter_eq_some_iff.mp htake
    rw [← hnk]
    exact ⟨hnm ▸ of_decide_eq_true hrange, hnm ▸ hprinted⟩
  · intro hbounds
    obtain ⟨hrange, hprinted⟩ := hbounds n rfl
    exact ⟨n, rfl, Option.filter_eq_some_iff.mpr ⟨hprinted, decide_eq_true hrange⟩⟩

theorem fits_numeral (hp : p = eventsBefore ∨ p = eventsAfter) (hpaging : isPagingText (trim v.text) = false)
    (h : eventCursor (some v) = some c) : p.Fits v c.ledger ↔ p.InBounds v := by
  obtain ⟨n, hn, hledger, y, hy, hvalue, hround⟩ := eventCursor_numeral hpaging h
  have hdenoted : p.denoted v = some y := by rw [denoted_cursor hp, hpaging, if_neg Bool.false_ne_true, hvalue]
  have htake : p.column.take (.finite n) = some n := by
    rw [take_cursor hp, JsNumber.printed_small hn, Option.filter_some, if_pos (decide_eq_true (by omega))]
  rw [inBounds_cursor hp, hpaging, if_neg Bool.false_ne_true, Fits, hdenoted, hledger, htake]
  constructor
  · rintro ⟨m, hm, -⟩ z hz
    rw [← Option.some.inj hz, Option.some.inj hm, Rat.den_natCast]
  · intro hinteger
    obtain ⟨m, rfl⟩ := JsNumber.exists_natCast (hinteger y rfl) hy
    exact ⟨n, by rw [JsNumber.ofRat_eq_natCast hn hround], rfl⟩

/-- What a route accepts arrives as the integer that was meant exactly when it is in bounds. -/
theorem fits_iff (h : p.sent v = some x) : p.Fits v x ↔ p.InBounds v := by
  by_cases hdocuments : p = documentsProposal
  · subst hdocuments
    exact fits_documents h
  by_cases hcursor : p = eventsBefore ∨ p = eventsAfter
  · have hsent : p.sent v = (eventCursor (some v)).map EventCursor.ledger := by obtain rfl | rfl := hcursor <;> rfl
    rw [hsent] at h
    obtain ⟨c, hc, rfl⟩ := Option.map_eq_some_iff.mp h
    cases hpaging : isPagingText (trim v.text) with
    | true => exact fits_paging hcursor hpaging hc
    | false => exact fits_numeral hcursor hpaging hc
  · exact fits_safeDigits ⟨hdocuments, not_or.mp hcursor⟩ h

theorem fits_iff_loan : loan.Fits (.one "7") (.finite 7) ↔ loan.InBounds (.one "7") :=
  fits_iff (by decide +kernel)

/-- The check of a loan id lets numbers through that no loan can have. -/
theorem loan_not_fits : loan.sent (.one "2147483648") = some (.finite 2147483648) ∧
    ¬ loan.Fits (.one "2147483648") (.finite 2147483648) := by
  refine ⟨by decide +kernel, ?_⟩
  rintro ⟨n, -, htake⟩
  have hnone : loan.column.take (.finite 2147483648) = none := by decide +kernel
  rw [hnone] at htake
  cases htake

end NumericParam

end OurDao
