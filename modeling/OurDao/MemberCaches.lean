import Mathlib.Data.Prod.Lex
import OurDao.MemberWrites
import OurDao.ReadCache
import OurDao.StablePages

/-!
# The cached member reads

`GET /members` and `fetchMemberSummary` are read through the cache. After the commit of a
fold some of their keys are invalidated: by the channel of the event and its field `member`
where the poller folds, by its symbol in a replay. A summary joins the row of a member, its
loans, its notifications and its shares, so that an event can change one it does not name.
-/

namespace OurDao

/-- The columns `updated_at` of `members` and `loans`. -/
structure Stamps where
  members : String → Nat
  loans : Int → Nat

/-- The tables behind the two reads. -/
structure MemberDb where
  tables : Tables
  stamps : Stamps

/-- Every row with its column `updated_at`. -/
def Table.stamped {κ ν : Type} (t : Table κ ν) (updated_at : κ → Nat) : Table κ (ν × Nat) :=
  ⟨t.entries.map (.map id fun k row => (row, updated_at k)), t.nodupKeys.map₂ _ _⟩

def LOANS_EMBED_LIMIT : Nat := 100

/-- The largest `?limit=` of a list. -/
def maxLimit : Nat := 200

/-- `WHERE exited = false AND joined_ledger IS NOT NULL` -/
def MemberRow.listed (row : MemberRow) : Bool := row.exited = false ∧ row.joined_ledger.isSome

/-- `ORDER BY joined_ledger DESC`. The query leaves the order of members of one ledger open; here they come by
address. -/
def memberOrder (r : String × MemberRow × Nat) : ℤ ×ₗ String :=
  toLex (-((r.2.1.joined_ledger.getD 0 : Nat) : ℤ), r.1)

/-- `GET /members` -/
def membersList (db : MemberDb) (limit : Nat) : List (String × MemberRow × Nat) :=
  let rows := Table.rows (db.tables.members.stamped db.stamps.members)
  (Keyset.ordered memberOrder (rows.filter (·.2.1.listed))).take limit

structure MemberSummary where
  member : MemberRow × Nat
  loans : List (Int × LoanRow × Nat)
  loans_total_count : Nat
  loans_truncated : Bool
  unread_notifications : Nat
  contribution_share_bps : Nat
  stake_share_bps : Nat
  repaid_loans_count : Nat
  defaulted_loans_count : Nat
  defaulted_loans_value : Nat
  deriving DecidableEq

/-- The sum of a column over the members that have not exited. -/
def activeTotal (members : Table String MemberRow) (column : MemberRow → Nat) : Nat :=
  members.total fun row => if row.exited then 0 else column row

/-- `ORDER BY id DESC` -/
def newestLoan (r : Int × LoanRow × Nat) : ℤ := -r.1

/-- The sum of a column over the loans of an address that satisfy a condition. -/
def loanTotal (t : Tables) (address : String) (p : LoanRow → Bool) (column : LoanRow → Nat) : Nat :=
  t.loans.total fun row => if row.borrower = address && p row then column row else 0

/-- The summary's embedded loans. -/
def embeddedLoans (db : MemberDb) (address : String) : List (Int × LoanRow × Nat) :=
  let rows := Table.rows (db.tables.loans.stamped db.stamps.loans)
  (Keyset.ordered newestLoan (rows.filter (·.2.1.borrower = address))).take LOANS_EMBED_LIMIT

def unreadNotifications (t : Tables) (address : String) : Nat :=
  (Table.rows t.notifications).countP fun r => r.1.2 = address ∧ r.2.read = false

section

variable (truncDiv : Nat → Nat → Nat)

/-- A share in basis points; `truncDiv` is `TRUNC` of the server's division of NUMERIC. -/
def shareBps (members : Table String MemberRow) (column : MemberRow → Nat) (row : MemberRow) : Nat :=
  if 0 < activeTotal members column ∧ row.exited = false then
    truncDiv (column row * 10000) (activeTotal members column)
  else 0

def fetchMemberSummary (db : MemberDb) (address : String) : Option MemberSummary :=
  (db.tables.members.lookup address).map fun row => {
    member := (row, db.stamps.members address)
    loans := embeddedLoans db address
    loans_total_count := loanTotal db.tables address (fun _ => true) fun _ => 1
    loans_truncated := LOANS_EMBED_LIMIT < loanTotal db.tables address (fun _ => true) fun _ => 1
    unread_notifications := unreadNotifications db.tables address
    contribution_share_bps := shareBps truncDiv db.tables.members (·.contribution) row
    stake_share_bps := shareBps truncDiv db.tables.members (·.stake) row
    repaid_loans_count := loanTotal db.tables address (·.status = .repaid) fun _ => 1
    defaulted_loans_count := loanTotal db.tables address (·.status = .defaulted) fun _ => 1
    defaulted_loans_value := loanTotal db.tables address (·.status = .defaulted) (·.outstanding) }

end

/-- The member whose `updated_at` the fold sets; the flag of an active loan is written without it. -/
def memberStamped (ev : DecodedEvent) (t : Tables) : Option String :=
  match EventSymbol.ofSymbol? ev.symbol with
  | some .loan_appr | some .loan_rpy => none
  | _ => (memberWrite ev t).map Prod.fst

/-- The stamps after a fold whose transaction begins at `now`. -/
def Stamps.after (s : Stamps) (ev : DecodedEvent) (t : Tables) (now : Nat) : Stamps where
  members a := if memberStamped ev t = some a then now else s.members a
  loans id := if (loanWrite ev t.loans).map (·.id) = some id then now else s.loans id

inductive FoldPath where
  | page | quarantine | replay
  deriving DecidableEq

/-- The channels that `applyEvent` returns. -/
def channelsOf (ev : DecodedEvent) : List StreamChannel := if ev.symbol.lone then [] else channelMap ev.symbol.text

/-- `typeof address === 'string' && address` -/
def addressOf? : Json → Option String
  | .str s => if s.text = "" then none else some s.text
  | _ => none

/-- Whether the fold of an event is followed by `invalidateMembersListCache`. -/
def invalidatesList (path : FoldPath) (ev : DecodedEvent) : Bool :=
  match path with
  | .page | .quarantine => .members ∈ channelsOf ev
  | .replay => true

/-- The address whose summary key is invalidated after the fold of an event. -/
def invalidatedSummary (path : FoldPath) (ev : DecodedEvent) : Option String :=
  match path with
  | .page | .quarantine => if .members ∈ channelsOf ev then addressOf? (ev.field "member") else none
  | .replay =>
    if ev.symbol.lone = false ∧ ev.symbol.text ∈ ["joined", "staked", "unstaked", "claimed"] then
      addressOf? (match ev.field "member" with
        | .null => ev.field "address"
        | v => v)
    else none

/-- The tables, and what Redis holds under the keys of the two reads. -/
structure MemberCache where
  db : MemberDb
  lists : Nat → Option (List (String × MemberRow × Nat)) := fun _ => none
  summaries : String → Option (Option MemberSummary) := fun _ => none

inductive MemberCacheEvent where
  | fold (path : FoldPath) (ev : DecodedEvent) (now : Nat)
  | getMembers (limit : Nat)
  | getSummary (address : String)
  | expireList (limit : Nat)
  | expireSummary (address : String)

namespace MemberCache

variable (truncDiv : Nat → Nat → Nat)

/-- A fold that fails is rolled back; a read goes through the cache with no other in between. -/
def act (s : MemberCache) : MemberCacheEvent → MemberCache
  | .fold path ev now =>
    match applyEvent ev s.db.tables with
    | .error _ => s
    | .ok (_, tables) =>
      { db := { tables, stamps := s.db.stamps.after ev s.db.tables now }
        lists := if invalidatesList path ev then fun _ => none else s.lists
        summaries := fun a => if invalidatedSummary path ev = some a then none else s.summaries a }
  | .getMembers limit =>
    if limit ≤ maxLimit ∧ (s.lists limit).isNone then
      { s with lists := fun l => if l = limit then some (membersList s.db limit) else s.lists l }
    else s
  | .getSummary address =>
    if (s.summaries address).isNone then
      { s with summaries := fun a =>
                if a = address then some (fetchMemberSummary truncDiv s.db address) else s.summaries a }
    else s
  | .expireList limit => { s with lists := fun l => if l = limit then none else s.lists l }
  | .expireSummary address => { s with summaries := fun a => if a = address then none else s.summaries a }

def after (start : MemberDb) (events : List MemberCacheEvent) : MemberCache :=
  events.foldl (act truncDiv) { db := start }

/-- Every read that the fold of an event changes is invalidated after it. -/
def Invalidates (path : FoldPath) (ev : DecodedEvent) (now : Nat) (db : MemberDb) : Prop :=
  ∀ channels tables, applyEvent ev db.tables = .ok (channels, tables) →
    let db' : MemberDb := { tables, stamps := db.stamps.after ev db.tables now }
    (∀ limit ≤ maxLimit, membersList db' limit ≠ membersList db limit → invalidatesList path ev) ∧
    ∀ a, fetchMemberSummary truncDiv db' a ≠ fetchMemberSummary truncDiv db a → invalidatedSummary path ev = some a

/-- What is cached is what a fresh read gives. -/
structure Fresh (s : MemberCache) : Prop where
  lists : ∀ limit list, s.lists limit = some list → limit ≤ maxLimit ∧ list = membersList s.db limit
  summaries : ∀ a summary, s.summaries a = some summary → summary = fetchMemberSummary truncDiv s.db a

/-- The event leaves alone what the summary of a member tells: it does not notify the member, it writes neither its
row nor a loan of its that is embedded or changes its status, and the totals move no share of its. -/
structure Spares (ev : DecodedEvent) (t : Tables) (a : String) (row : MemberRow) : Prop where
  notified : noticed ev t ≠ some a
  written : t.members.lookup a = some row ∧ memberStamped ev t ≠ some a
  loan : ∀ w ∈ loanWrite ev t.loans, w.borrower = a →
    (t.loans.lookup w.id).map (·.status) = some w.status ∧
      LOANS_EMBED_LIMIT ≤ (Table.rows t.loans).countP fun r => w.id < r.1 ∧ r.2.borrower = a
  contribution_share : shareBps truncDiv (membersAfter ev t) (·.contribution) row =
    shareBps truncDiv t.members (·.contribution) row
  stake_share : shareBps truncDiv (membersAfter ev t) (·.stake) row = shareBps truncDiv t.members (·.stake) row

/-- The event leaves every list of members alone: it rewrites no row, or one as it was, or one that is not listed or
comes behind so many others that no list reaches it. -/
def SparesLists (ev : DecodedEvent) (t : Tables) : Prop :=
  ∀ w ∈ memberWrite ev t, ∀ row ∈ t.members.lookup w.1,
    (w.2 = row ∧ memberStamped ev t ≠ some w.1) ∨ row.listed = false ∨
      maxLimit ≤ (Table.rows t.members).countP fun r =>
        memberOrder (r.1, r.2, 0) < memberOrder (w.1, w.2, 0) ∧ r.2.listed

/-- Every member but the one whose summary is invalidated is spared, and so are the lists unless they are. -/
structure Covers (path : FoldPath) (ev : DecodedEvent) (t : Tables) : Prop where
  lists : invalidatesList path ev ∨ SparesLists ev t
  summaries : ∀ r ∈ Table.rows (membersAfter ev t), invalidatedSummary path ev = some r.1 ∨
    Spares truncDiv ev t r.1 r.2

def Covered (s : MemberCache) : MemberCacheEvent → Prop
  | .fold path ev _ => Covers truncDiv path ev s.db.tables
  | _ => True

end MemberCache

section

variable {κ ν : Type} [DecidableEq κ] {t t' : Table κ ν} {k : κ}

theorem lookup_stamped (u : κ → Nat) : (t.stamped u).lookup k = (t.lookup k).map fun row => (row, u k) :=
  List.dlookup_map₂ k

omit [DecidableEq κ] in
theorem rows_stamped (u : κ → Nat) : Table.rows (t.stamped u) = (Table.rows t).map fun r => (r.1, r.2, u r.1) := by
  simp [Table.rows, Table.stamped, Function.comp_def, Sigma.map]

theorem rows_perm (h : ∀ k, t.lookup k = t'.lookup k) : (Table.rows t).Perm (Table.rows t') := by
  rw [List.perm_ext_iff_of_nodup Table.rows_nodup Table.rows_nodup]
  rintro ⟨k, v⟩
  rw [Table.mem_rows, Table.mem_rows, h]

/-- A page shows what can be looked up. -/
theorem ordered_rows_congr {ι : Type} [LinearOrder ι] {key : κ × ν → ι} {sel : κ × ν → Bool}
    (hkeys : ∀ t : Table κ ν, ((Table.rows t).map key).Nodup) (h : ∀ k, t.lookup k = t'.lookup k) :
    Keyset.ordered key ((Table.rows t).filter sel) = Keyset.ordered key ((Table.rows t').filter sel) :=
  Keyset.ordered_congr ((hkeys t).sublist (List.filter_sublist.map key)) ((rows_perm h).filter sel)

/-- A written row does not show on a page that refuses it before and after, or that is full with rows before it. -/
theorem page_written {ι : Type} [LinearOrder ι] {key : κ × ν → ι} {sel : κ × ν → Bool} {v : ν} {n : Nat}
    (hkeys : ∀ t : Table κ ν, ((Table.rows t).map key).Nodup)
    (hwritten : ∀ k', t'.lookup k' = if k' = k then some v else t.lookup k')
    (hsame : ∀ old, t.lookup k = some old → key (k, old) = key (k, v))
    (h : (sel (k, v) = false ∧ ∀ old, t.lookup k = some old → sel (k, old) = false) ∨
      n ≤ (Table.rows t).countP fun r => key r < key (k, v) ∧ sel r) :
    (Keyset.ordered key ((Table.rows t').filter sel)).take n =
      (Keyset.ordered key ((Table.rows t).filter sel)).take n := by
  have hinsert : ∀ k', t'.lookup k' = (t.insert k v).lookup k' := by
    intro k'
    rw [hwritten, Table.lookup_insert]
  rw [ordered_rows_congr hkeys hinsert]
  exact Keyset.page_insert hkeys hsame h

end

theorem memberOrder_nodup (t : Table String (MemberRow × Nat)) : ((Table.rows t).map memberOrder).Nodup := by
  have haddress : ((Table.rows t).map memberOrder).map (fun k => (ofLex k).2) = (Table.rows t).map Prod.fst := by
    simp [memberOrder, Function.comp_def]
  exact List.Nodup.of_map _ (haddress ▸ Table.rows_keys_nodup t)

theorem newestLoan_nodup (t : Table Int (LoanRow × Nat)) : ((Table.rows t).map newestLoan).Nodup := by
  have hid : (Table.rows t).map newestLoan = ((Table.rows t).map Prod.fst).map fun id => -id := by
    simp [newestLoan, Function.comp_def]
  rw [hid]
  exact (Table.rows_keys_nodup t).map neg_injective

section

variable {ev : DecodedEvent} {t : Tables} {w : LoanWrite}

theorem loanWrite_borrower (h : loanWrite ev t.loans = some w) {row : LoanRow}
    (hrow : t.loans.lookup w.id = some row) :
    row.borrower = w.borrower := by
  simp only [loanWrite] at h
  split at h
  case h_1 =>
    split at h <;> cases h
    simp [hrow]
  case h_2 =>
    split at h
    · obtain ⟨row', hrow', rfl⟩ := Option.map_eq_some_iff.mp h
      rw [hrow'] at hrow
      cases hrow
      rfl
    · cases h
  case h_3 =>
    split at h
    · obtain ⟨row', hrow', rfl⟩ := Option.map_eq_some_iff.mp h
      rw [(Option.filter_eq_some_iff.mp hrow').1] at hrow
      cases hrow
      rfl
    · cases h
  case h_4 => cases h

/-- A loan that a fold leaves in its status has not defaulted. -/
theorem loanWrite_status (h : loanWrite ev t.loans = some w)
    (hkept : (t.loans.lookup w.id).map (·.status) = some w.status) : w.status ≠ .defaulted := by
  simp only [loanWrite] at h
  split at h
  case h_1 =>
    split at h <;> cases h
    simp
  case h_2 =>
    split at h
    · obtain ⟨row, hrow, rfl⟩ := Option.map_eq_some_iff.mp h
      dsimp only
      split <;> simp
    · cases h
  case h_3 =>
    split at h
    · obtain ⟨row, hrow, rfl⟩ := Option.map_eq_some_iff.mp h
      obtain ⟨hlookup, hstatus⟩ := Option.filter_eq_some_iff.mp hrow
      simp only [hlookup, Option.map_some, Option.some.injEq] at hkept
      simp [hkept] at hstatus
    · cases h
  case h_4 => cases h

end

section

variable {ev : DecodedEvent} {t t' : Tables} {channels : List StreamChannel} {stamps : Stamps} {now : Nat}
  {path : FoldPath}

open MemberCache

theorem text_of_symbol {symbol : EventSymbol} (hs : EventSymbol.ofSymbol? ev.symbol = some symbol) :
    ev.symbol.lone = false ∧ EventSymbol.ofString? ev.symbol.text = some symbol := by
  rw [EventSymbol.ofSymbol?] at hs
  split at hs
  case isTrue => cases hs
  case isFalse hlone => exact ⟨by simpa using hlone, hs⟩

/-- The symbols of the members channel. -/
theorem members_channel {symbol : EventSymbol} (hs : EventSymbol.ofSymbol? ev.symbol = some symbol)
    (hsymbol : symbol ∈ [.joined, .exited, .claimed, .staked, .unstaked, .name_reg]) : .members ∈ channelsOf ev := by
  obtain ⟨hlone, htext⟩ := text_of_symbol hs
  rw [channelsOf, hlone, if_neg (by simp)]
  unfold EventSymbol.ofString? at htext
  split at htext
  case h_1 hname | h_2 hname | h_3 hname | h_19 hname | h_20 hname | h_21 hname =>
    rw [hname]
    decide
  case h_32 => cases htext
  all_goals
    cases htext
    simp at hsymbol

/-- Off the members channel only the loan events write a member, and they keep its place in the lists. -/
theorem memberWrite_off_channel (h : .members ∉ channelsOf ev) {a : String} {row' : MemberRow}
    (hwrite : memberWrite ev t = some (a, row')) :
    ∃ row, t.members.lookup a = some row ∧ row'.exited = row.exited ∧ row'.joined_ledger = row.joined_ledger := by
  unfold memberWrite at hwrite
  split at hwrite
  case h_1 hs | h_2 hs | h_3 hs | h_4 hs | h_5 hs | h_6 hs => exact absurd (members_channel hs (by simp)) h
  case h_7 =>
    simp only [Option.bind_eq_bind, Option.bind_eq_some_iff] at hwrite
    obtain ⟨borrower, -, row, hrow, ⟨⟩⟩ := hwrite
    exact ⟨row, hrow, rfl, rfl⟩
  case h_8 =>
    simp only [Option.bind_eq_bind, Option.bind_eq_some_iff] at hwrite
    obtain ⟨borrower, -, outstanding, -, row, hrow, hrepaid⟩ := hwrite
    split at hrepaid <;> cases hrepaid
    exact ⟨row, hrow, rfl, rfl⟩
  case h_9 =>
    simp only [Option.bind_eq_bind, Option.bind_eq_some_iff] at hwrite
    obtain ⟨id, -, borrower, -, penalty, -, loan, -, row, hrow, ⟨⟩⟩ := hwrite
    exact ⟨row, hrow, rfl, rfl⟩
  case h_10 => cases hwrite

/-- What an event leaves of the stamped members. -/
theorem lookup_members_after (stamps : Stamps) (now : Nat) (h : applyEvent ev t = .ok (channels, t')) (a : String) :
    ((t'.members.stamped (stamps.after ev t now).members).lookup a) =
      match memberWrite ev t with
      | none => (t.members.stamped stamps.members).lookup a
      | some w => if a = w.1 then some (w.2, if memberStamped ev t = some w.1 then now else stamps.members w.1)
        else (t.members.stamped stamps.members).lookup a := by
  have hunstamped : ∀ b, (∀ w ∈ memberWrite ev t, w.1 ≠ b) → memberStamped ev t ≠ some b := by
    intro b hb hstamped
    rw [memberStamped] at hstamped
    split at hstamped
    · cases hstamped
    · cases hstamped
    · obtain ⟨w, hw, rfl⟩ := Option.map_eq_some_iff.mp hstamped
      exact hb w hw rfl
  rw [applyEvent_members h, lookup_stamped, lookup_stamped, membersAfter]
  cases hwrite : memberWrite ev t with
  | none => simp [Stamps.after, hunstamped a (by simp [hwrite])]
  | some w =>
    by_cases ha : a = w.1
    · simp [Stamps.after, Table.lookup_insert, ha]
    · have hstamped := hunstamped a (by simpa [hwrite] using Ne.symm ha)
      simp [Stamps.after, ha, hstamped]

theorem membersList_after (h : applyEvent ev t = .ok (channels, t')) (hchannel : .members ∉ channelsOf ev)
    (hspares : SparesLists ev t) {limit : Nat} (hlimit : limit ≤ maxLimit) :
    membersList ⟨t', stamps.after ev t now⟩ limit = membersList ⟨t, stamps⟩ limit := by
  have hlookup := lookup_members_after stamps now h
  cases hwrite : memberWrite ev t with
  | none =>
    simp only [hwrite] at hlookup
    simp only [membersList, ordered_rows_congr memberOrder_nodup hlookup]
  | some w =>
    obtain ⟨row, hrow, hexited, hjoined⟩ := memberWrite_off_channel hchannel hwrite
    simp only [hwrite] at hlookup
    have hold : ∀ old, (t.members.stamped stamps.members).lookup w.1 = some old →
        old = (row, stamps.members w.1) := by
      intro old hlookup
      simpa [lookup_stamped, hrow, eq_comm] using hlookup
    rcases hspares w hwrite row hrow with ⟨hsame, hunstamped⟩ | hout
    · have hunchanged : ∀ a, (t'.members.stamped (stamps.after ev t now).members).lookup a =
          (t.members.stamped stamps.members).lookup a := by
        intro a
        rw [hlookup]
        by_cases ha : a = w.1
        · subst ha
          simp [lookup_stamped, hrow, hsame, hunstamped]
        · rw [if_neg ha]
      simp only [membersList, ordered_rows_congr memberOrder_nodup hunchanged]
    · apply page_written memberOrder_nodup hlookup
      · intro old hlookup
        rw [hold old hlookup]
        simp [memberOrder, hjoined]
      · rcases hout with hhidden | hfull
        · refine .inl ⟨by simpa [MemberRow.listed, hexited, hjoined] using hhidden, fun old hlookup => ?_⟩
          rw [hold old hlookup]
          exact hhidden
        · right
          rw [rows_stamped, List.countP_map]
          exact hlimit.trans hfull

theorem loanTotal_after (h : applyEvent ev t = .ok (channels, t')) {a : String} {p : LoanRow → Bool}
    {column : LoanRow → Nat}
    (hkept : ∀ w ∈ loanWrite ev t.loans, w.borrower = a → (t.loans.lookup w.id).map (·.status) = some w.status)
    (hcolumn : ∀ row row' : LoanRow, row'.status = row.status → row.status ≠ .defaulted →
      (if p row then column row else 0) = if p row' then column row' else 0) :
    loanTotal t' a p column = loanTotal t a p column := by
  rcases applyEvent_loans h with hsame | ⟨w, row', hwrite, hborrower, hstatus, hafter⟩
  · rw [loanTotal, loanTotal, hsame]
  have hcell : ∀ row, t.loans.lookup w.id = some row →
      (if row'.borrower = a && p row' then column row' else 0) =
          if row.borrower = a && p row then column row else 0 := by
    intro row hrow
    have hrow_borrower := loanWrite_borrower hwrite hrow
    by_cases ha : w.borrower = a
    · have hkept := hkept w hwrite ha
      have hdefault := loanWrite_status hwrite hkept
      simp only [hrow, Option.map_some, Option.some.injEq] at hkept
      have hsame := hcolumn row row' (by rw [hstatus, hkept]) (by rwa [hkept])
      simp [hborrower, hrow_borrower, ha, hsame]
    · simp [hborrower, hrow_borrower, ha]
  rw [loanTotal, loanTotal, hafter]
  cases hrow : t.loans.lookup w.id with
  | none =>
    have ha : w.borrower ≠ a := fun ha => by simpa [hrow] using hkept w hwrite ha
    rw [Table.total_insert_new _ hrow]
    simp [hborrower, ha]
  | some row =>
    have htotal := Table.total_insert (fun row => if row.borrower = a && p row then column row else 0)
        (v := row') hrow
    have hsame := hcell row hrow
    omega

/-- What an event leaves of the stamped loans. -/
theorem lookup_loans_after (stamps : Stamps) (now : Nat) (h : applyEvent ev t = .ok (channels, t')) :
    (∀ id, (t'.loans.stamped (stamps.after ev t now).loans).lookup id = (t.loans.stamped stamps.loans).lookup id) ∨
      ∃ w row, loanWrite ev t.loans = some w ∧ row.borrower = w.borrower ∧
        ∀ id, (t'.loans.stamped (stamps.after ev t now).loans).lookup id =
          if id = w.id then some (row, now) else (t.loans.stamped stamps.loans).lookup id := by
  rcases applyEvent_loans h with hsame | ⟨w, row, hwrite, hborrower, -, hafter⟩
  · cases hwrite : loanWrite ev t.loans with
    | none =>
      left
      simp [lookup_stamped, hsame, Stamps.after, hwrite]
    | some w =>
      cases hrow : t.loans.lookup w.id with
      | none =>
        left
        intro id
        by_cases hid : w.id = id
        · subst hid
          simp [lookup_stamped, hsame, hrow]
        · simp [lookup_stamped, hsame, Stamps.after, hwrite, hid]
      | some row =>
        refine .inr ⟨w, row, rfl, loanWrite_borrower hwrite hrow, fun id => ?_⟩
        by_cases hid : w.id = id
        · subst hid
          simp [lookup_stamped, hsame, Stamps.after, hwrite, hrow]
        · simp [lookup_stamped, hsame, Stamps.after, hwrite, hid, Ne.symm hid]
  · refine .inr ⟨w, row, hwrite, hborrower, fun id => ?_⟩
    by_cases hid : w.id = id
    · subst hid
      simp [lookup_stamped, hafter, Stamps.after, hwrite]
    · simp [lookup_stamped, hafter, Stamps.after, hwrite, hid, Ne.symm hid]

theorem embeddedLoans_after (h : applyEvent ev t = .ok (channels, t')) {a : String}
    (hkept : ∀ w ∈ loanWrite ev t.loans, w.borrower = a →
      LOANS_EMBED_LIMIT ≤ (Table.rows t.loans).countP fun r => w.id < r.1 ∧ r.2.borrower = a) :
    embeddedLoans ⟨t', stamps.after ev t now⟩ a = embeddedLoans ⟨t, stamps⟩ a := by
  rcases lookup_loans_after stamps now h with hsame | ⟨w, row, hwrite, hborrower, hafter⟩
  · simp only [embeddedLoans, ordered_rows_congr newestLoan_nodup hsame]
  · apply page_written newestLoan_nodup hafter (fun old _ => rfl)
    by_cases ha : w.borrower = a
    · right
      rw [rows_stamped, List.countP_map]
      refine (hkept w hwrite ha).trans (Eq.le ?_)
      congr 1
      funext r
      simp [newestLoan]
    · refine .inl ⟨by simpa [hborrower] using ha, fun old hold => ?_⟩
      rw [lookup_stamped] at hold
      obtain ⟨row', hrow', rfl⟩ := Option.map_eq_some_iff.mp hold
      simpa [loanWrite_borrower hwrite hrow'] using ha

theorem unreadNotifications_after (h : applyEvent ev t = .ok (channels, t')) {a : String}
    (ha : noticed ev t ≠ some a) : unreadNotifications t' a = unreadNotifications t a := by
  have hnotices := applyEvent_notices h ha
  apply Table.countP_rows_congr
  rintro ⟨eventId, address⟩ row hrow
  obtain ⟨rfl, -⟩ : address = a ∧ row.read = false := by simpa using hrow
  have hsame : t'.notifications.lookup (eventId, address) = t.notifications.lookup (eventId, address) :=
    congrFun hnotices eventId
  rw [hsame]

/-- A member that an event spares is told the same. -/
theorem fetchMemberSummary_after {truncDiv : Nat → Nat → Nat} (h : applyEvent ev t = .ok (channels, t')) {a : String}
    {row : MemberRow} (hrow : t'.members.lookup a = some row) (hspares : Spares truncDiv ev t a row) :
    fetchMemberSummary truncDiv ⟨t', stamps.after ev t now⟩ a = fetchMemberSummary truncDiv ⟨t, stamps⟩ a := by
  have hmembers := applyEvent_members h
  have hkept : ∀ w ∈ loanWrite ev t.loans, w.borrower = a → (t.loans.lookup w.id).map (·.status) = some w.status :=
    fun w hw ha => (hspares.loan w hw ha).1
  have hcount : loanTotal t' a (fun _ => true) (fun _ => 1) = loanTotal t a (fun _ => true) fun _ => 1 :=
    loanTotal_after h hkept fun row row' _ _ => rfl
  have hrepaid : loanTotal t' a (·.status = .repaid) (fun _ => 1) = loanTotal t a (·.status = .repaid) fun _ => 1 :=
    loanTotal_after h hkept fun row row' hstatus _ => by rw [hstatus]
  have hdefaulted (column : LoanRow → Nat) :
      loanTotal t' a (·.status = .defaulted) column = loanTotal t a (·.status = .defaulted) column :=
    loanTotal_after h hkept fun row row' hstatus hne => by simp [hstatus, hne]
  have hstamp : (stamps.after ev t now).members a = stamps.members a := if_neg hspares.written.2
  simp only [fetchMemberSummary, hrow, hspares.written.1, Option.map_some]
  rw [embeddedLoans_after h fun w hw ha => (hspares.loan w hw ha).2, unreadNotifications_after h hspares.notified,
    hcount, hrepaid, hdefaulted, hdefaulted, hstamp, hmembers, hspares.contribution_share, hspares.stake_share]

end

namespace MemberCache

variable {truncDiv : Nat → Nat → Nat} {s : MemberCache}

/-- A fold that spares every read it does not invalidate invalidates every read it changes. -/
theorem Covers.invalidates {path : FoldPath} {ev : DecodedEvent} {db : MemberDb}
    (h : Covers truncDiv path ev db.tables) (now : Nat) : Invalidates truncDiv path ev now db := by
  intro channels tables happly
  constructor
  · intro limit hlimit hchanged
    by_contra hlist
    refine hchanged (membersList_after happly ?_ (h.lists.resolve_left hlist) hlimit)
    cases path with
    | page | quarantine => simpa [invalidatesList] using hlist
    | replay => exact absurd rfl hlist
  · intro a hchanged
    by_contra hsummary
    have hmembers := applyEvent_members happly
    cases hrow : tables.members.lookup a with
    | some row =>
      have hmem : (a, row) ∈ Table.rows (membersAfter ev db.tables) := Table.mem_rows.mpr (hmembers ▸ hrow)
      exact hchanged (fetchMemberSummary_after happly hrow ((h.summaries (a, row) hmem).resolve_left hsummary))
    | none =>
      have hbefore : db.tables.members.lookup a = none := by
        rw [hmembers, membersAfter] at hrow
        split at hrow
        · exact hrow
        · rw [Table.lookup_insert] at hrow
          split at hrow
          · cases hrow
          · exact hrow
      exact hchanged (by simp [fetchMemberSummary, hrow, hbefore])

/-- A step keeps the cache fresh when its fold invalidates every read it changes. -/
theorem Fresh.act (h : Fresh truncDiv s) (e : MemberCacheEvent)
    (hinvalidates : ∀ path ev now, e = .fold path ev now → Invalidates truncDiv path ev now s.db) :
    Fresh truncDiv (s.act truncDiv e) := by
  cases e with
  | fold path ev now =>
    simp only [MemberCache.act]
    split
    case h_1 => exact h
    case h_2 channels tables happly =>
      obtain ⟨hlists, hsummaries⟩ := hinvalidates path ev now rfl channels tables happly
      constructor
      · intro limit list hcached
        dsimp only at hcached
        split at hcached
        · cases hcached
        · obtain ⟨hlimit, hlist⟩ := h.lists limit list hcached
          refine ⟨hlimit, hlist.trans (Eq.symm ?_)⟩
          by_contra hchanged
          exact absurd (hlists limit hlimit hchanged) (by assumption)
      · intro a summary hcached
        dsimp only at hcached
        split at hcached
        · cases hcached
        · refine (h.summaries a summary hcached).trans (Eq.symm ?_)
          by_contra hchanged
          exact absurd (hsummaries a hchanged) (by assumption)
  | getMembers limit =>
    simp only [MemberCache.act]
    split
    case isFalse => exact h
    case isTrue hlimit =>
      refine ⟨fun l list hcached => ?_, h.summaries⟩
      dsimp only at hcached
      by_cases hl : l = limit
      · subst hl
        simp only [if_true, Option.some.injEq] at hcached
        exact ⟨hlimit.1, hcached.symm⟩
      · rw [if_neg hl] at hcached
        exact h.lists l list hcached
  | getSummary address =>
    simp only [MemberCache.act]
    split
    case isFalse => exact h
    case isTrue =>
      refine ⟨h.lists, fun a summary hcached => ?_⟩
      dsimp only at hcached
      by_cases ha : a = address
      · subst ha
        simp only [if_true, Option.some.injEq] at hcached
        exact hcached.symm
      · rw [if_neg ha] at hcached
        exact h.summaries a summary hcached
  | expireList limit =>
    refine ⟨fun l list hcached => ?_, h.summaries⟩
    simp only [MemberCache.act] at hcached
    split at hcached
    · cases hcached
    · exact h.lists l list hcached
  | expireSummary address =>
    refine ⟨h.lists, fun a summary hcached => ?_⟩
    simp only [MemberCache.act] at hcached
    split at hcached
    · cases hcached
    · exact h.summaries a summary hcached

variable (truncDiv)

theorem fresh_after {start : MemberDb} {events : List MemberCacheEvent}
    (hfolds : ∀ past path ev now, past ++ [.fold path ev now] <+: events →
      Invalidates truncDiv path ev now (after truncDiv start past).db) :
    Fresh truncDiv (after truncDiv start events) := by
  refine Runs.all_along ?_ (fun past e hpast hfresh => hfresh.act e ?_) List.prefix_rfl
  · constructor <;> simp
  · rintro path ev now rfl
    exact hfolds past path ev now hpast

/-- **Every change behind a cached read is invalidated**, and a cached value is a fresh one, in a run whose folds
spare every read that they do not invalidate. -/
theorem member_reads_invalidated (start : MemberDb) (events : List MemberCacheEvent)
    (hcovered : ∀ past e, past ++ [e] <+: events → (after truncDiv start past).Covered truncDiv e) :
    (∀ past path ev now, past ++ [.fold path ev now] <+: events →
      Invalidates truncDiv path ev now (after truncDiv start past).db) ∧
    Fresh truncDiv (after truncDiv start events) := by
  have hfolds : ∀ past path ev now, past ++ [.fold path ev now] <+: events →
      Invalidates truncDiv path ev now (after truncDiv start past).db :=
    fun past path ev now hpast => Covers.invalidates (hcovered past _ hpast) now
  exact ⟨hfolds, fresh_after truncDiv hfolds⟩

section

variable {truncDiv} {ev : DecodedEvent} {t : Tables} {a : String} {row : MemberRow} {path : FoldPath}

instance : Decidable (Spares truncDiv ev t a row) :=
  decidable_of_iff (noticed ev t ≠ some a ∧ (t.members.lookup a = some row ∧ memberStamped ev t ≠ some a) ∧
    (∀ w ∈ loanWrite ev t.loans, w.borrower = a → (t.loans.lookup w.id).map (·.status) = some w.status ∧
      LOANS_EMBED_LIMIT ≤ (Table.rows t.loans).countP fun r => w.id < r.1 ∧ r.2.borrower = a) ∧
    shareBps truncDiv (membersAfter ev t) (·.contribution) row = shareBps truncDiv t.members (·.contribution) row ∧
    shareBps truncDiv (membersAfter ev t) (·.stake) row = shareBps truncDiv t.members (·.stake) row)
    ⟨fun ⟨hn, hw, hl, hc, hs⟩ => ⟨hn, hw, hl, hc, hs⟩, fun ⟨hn, hw, hl, hc, hs⟩ => ⟨hn, hw, hl, hc, hs⟩⟩

instance : Decidable (SparesLists ev t) := inferInstanceAs (Decidable (∀ w ∈ memberWrite ev t, _))

instance : Decidable (Covers truncDiv path ev t) :=
  decidable_of_iff ((invalidatesList path ev ∨ SparesLists ev t) ∧
    ∀ r ∈ Table.rows (membersAfter ev t), invalidatedSummary path ev = some r.1 ∨ Spares truncDiv ev t r.1 r.2)
    ⟨fun ⟨hl, hs⟩ => ⟨hl, hs⟩, fun ⟨hl, hs⟩ => ⟨hl, hs⟩⟩

end

def noMembers : MemberDb := { tables := {}, stamps := ⟨fun _ => 0, fun _ => 0⟩ }

/-- An event as it is decoded. -/
def publishedEvent (id : String) (ledger : Nat) (symbol : String) (fields : List (String × Json)) : DecodedEvent where
  id := id
  ledger := ledger
  closedAt := 0
  contractId := "C"
  txHash := none
  symbol := symbol
  topics := []
  data := fields.map Prod.snd
  fields := fields
  decodeError := none

def joinedEvent : DecodedEvent := publishedEvent "0001" 1 "joined" [("member", .str "GA"), ("fee", .str "100")]

/-- A member joins and is read, someone who is none asks for a loan, and the member stakes. -/
theorem member_reads_invalidated_stake : Fresh (· / ·) (after (· / ·) noMembers
    [.fold .page joinedEvent 1, .getSummary "GA", .getMembers 50,
      .fold .quarantine (publishedEvent "0002" 2 "loan_req"
        [("id", .num 1), ("borrower", .str "GB"), ("amount", .str "50"), ("total_repayment", .str "55")]) 2,
      .fold .replay (publishedEvent "0003" 3 "staked" [("member", .str "GA"), ("new_stake", .str "7")]) 3]) := by
  refine (member_reads_invalidated _ _ _ ?_).2
  simp only [Runs.forall_snoc_prefix_cons]
  refine ⟨?_, trivial, trivial, ?_, ?_, Runs.forall_snoc_prefix_nil⟩
  all_goals
    rw [Covered]
    decide +kernel

/-- A loan approved to a member changes its summary and every list, and invalidates nothing. -/
theorem loan_appr_leaves_stale_reads : ¬ ∀ past path ev now,
    past ++ [.fold path ev now] <+: [.fold .page joinedEvent 1, .getSummary "GA", .getMembers 50,
      .fold .page (publishedEvent "0002" 2 "loan_appr"
        [("id", .num 1), ("borrower", .str "GA"), ("amount", .str "50")]) 2] →
    Invalidates (· / ·) path ev now (after (· / ·) noMembers past).db := by
  intro h
  have hfresh := (fresh_after _ h).summaries "GA" (some (MemberSummary.mk
    ({ joined_ledger := some 1, contribution := 100 }, 1) [] 0 false 1 10000 0 0 0 0)) (by decide +kernel)
  revert hfresh
  decide +kernel

end MemberCache

end OurDao
