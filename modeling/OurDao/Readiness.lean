import OurDao.Rebuild

/-!
# Readiness

`GET /ready` decides whether an instance gets traffic, from the cursors of the tailed contracts and
the recorded halts. What it answers is a matter of what was written to the two tables so far: which
contracts were saved since the last reset, when each was last written, and whether a halt was recorded
after the last time the halts were cleared.
-/

namespace OurDao

/-- A row of `indexer_cursor`, as far as freshness goes. -/
structure FreshnessRow where
  last_ledger : Option Nat
  observed_tip_ledger : Option Nat
  /-- milliseconds since the epoch -/
  updated_at : Option Int
  deriving DecidableEq, Repr

structure FreshnessTables where
  indexer_cursor : Table String FreshnessRow := ∅
  reorg_halts : List ReorgHalt := []

/-- `ORDER BY updated_at ASC NULLS FIRST`. -/
def notAfter : Option Int → Option Int → Prop
  | none, _ => True
  | some _, none => False
  | some a, some b => a ≤ b

instance (a b : Option Int) : Decidable (notAfter a b) :=
  match a, b with
  | none, _ => .isTrue trivial
  | some _, none => .isFalse id
  | some a, some b => inferInstanceAs (Decidable (a ≤ b))

/-- What `ORDER BY updated_at ASC NULLS FIRST LIMIT 1` may select. -/
def SelectsWorst (cursors : Table String FreshnessRow) : Option FreshnessRow → Prop
  | none => cursors = ∅
  | some row => (∃ c, cursors.lookup c = some row) ∧
      ∀ c row', cursors.lookup c = some row' → notAfter row.updated_at row'.updated_at

/-- `WHERE cleared_at IS NULL ORDER BY id DESC LIMIT 1`. -/
def FreshnessTables.openHalt (s : FreshnessTables) : Option ReorgHalt :=
  (s.reorg_halts.filter (·.cleared_by.isNone)).getLast?

/-- Seconds a ledger takes to close, in `server.ts`. -/
def STELLAR_LEDGER_CLOSE_TIME_SECONDS : Nat := 5

/-- How many ledgers the fold is behind the chain, if it is. -/
def ledgersBehind (lastLedger tipLedger : Option Nat) : Option Nat :=
  match lastLedger, tipLedger with
  | some last, some tip => if tip > last then some (tip - last) else none
  | _, _ => none

structure Figures where
  lastIndexedLedger : Option Nat
  observedTipLedger : Option Nat
  ledgersBehind : Option Nat
  estimatedLagSeconds : Option Nat
  secondsSinceUpdate : Option Int
  deriving DecidableEq, Repr

inductive ReadyReply where
  /-- `postgres_timeout`, `postgres_unreachable` or `postgres_error` -/
  | postgres (reason : String)
  | reorgDetected (halt : ReorgHalt) (lastIndexedLedger observedTipLedger : Option Nat)
  | coldStart (observedTipLedger : Option Nat)
  | indexerStale (figures : Figures) (staleAfterMs : Int)
  | ok (figures : Figures)
  deriving DecidableEq, Repr

def ReadyReply.code : ReadyReply → Nat
  | postgres _ => 503
  | reorgDetected _ _ _ => 503
  | coldStart _ => 200
  | indexerStale _ _ => 503
  | ok _ => 200

/-- What becomes of `SELECT 1`. -/
inductive Ping where
  | answered
  | failed
  | timedOut
  deriving DecidableEq

/-- What becomes of a query. -/
inductive Queried (α : Type) where
  | rows (a : α)
  | undefinedTable
  | failed

/-- `GET /ready`; the clock is read twice. -/
def ready (staleAfterMs : Int) (ping : Ping) (cursor : Queried (Option FreshnessRow))
    (halt : Queried (Option ReorgHalt)) (now now' : Int) : ReadyReply :=
  match ping with
  | .timedOut => .postgres "postgres_timeout"
  | .failed => .postgres "postgres_unreachable"
  | .answered =>
    match cursor with
    | .failed => .postgres "postgres_error"
    | .undefinedTable => afterCursor none
    | .rows row => afterCursor row
where
  afterCursor (row : Option FreshnessRow) : ReadyReply :=
    match halt with
    | .failed => .postgres "postgres_error"
    | .rows (some halt) => .reorgDetected halt (row.bind (·.last_ledger)) (row.bind (·.observed_tip_ledger))
    | .rows none => afterHalt row
    | .undefinedTable => afterHalt row
  afterHalt (row : Option FreshnessRow) : ReadyReply :=
    match row with
    | some ⟨some lastLedger, tipLedger, some updatedAt⟩ =>
      let behind := ledgersBehind (some lastLedger) tipLedger
      let figures : Figures :=
        { lastIndexedLedger := some lastLedger
          observedTipLedger := tipLedger
          ledgersBehind := behind
          estimatedLagSeconds := behind.map (· * STELLAR_LEDGER_CLOSE_TIME_SECONDS)
          secondsSinceUpdate := some ((now - updatedAt) / 1000) }
      if now' - updatedAt > staleAfterMs then .indexerStale figures staleAfterMs else .ok figures
    | row => .coldStart (row.bind (·.observed_tip_ledger))

inductive FreshnessWrite where
  | saveCursor (contractId : String) (lastLedger observedTipLedger : Nat)
  | touchCursor (contractId : String)
  /-- `DELETE FROM indexer_cursor` -/
  | resetForContractChange
  | recordReorgHalt (contractId : String) (lastLedger : Option Nat) (lastLedgerHash : Option String) (detail : String)
  | clearReorgHalts (clearedBy : String)
  deriving DecidableEq, Repr

/-- A statement and the `now()` of its transaction. -/
def FreshnessTables.write (s : FreshnessTables) (w : Int × FreshnessWrite) : FreshnessTables :=
  match w.2 with
  | .saveCursor c lastLedger tip =>
    { s with indexer_cursor := s.indexer_cursor.insert c ⟨some lastLedger, some tip, some w.1⟩ }
  | .touchCursor c =>
    match s.indexer_cursor.lookup c with
    | some row => { s with indexer_cursor := s.indexer_cursor.insert c { row with updated_at := some w.1 } }
    | none => s
  | .resetForContractChange => { s with indexer_cursor := ∅ }
  | .recordReorgHalt c lastLedger hash detail =>
    { s with reorg_halts := s.reorg_halts ++
        [{ id := s.reorg_halts.length + 1, contract_id := c, last_ledger := lastLedger, last_ledger_hash := hash,
           detail, detected_at := w.1 }] }
  | .clearReorgHalts clearedBy =>
    { s with reorg_halts := s.reorg_halts.map (ReorgHalt.clear clearedBy) }

def freshnessAfter (history : List (Int × FreshnessWrite)) : FreshnessTables :=
  history.foldl FreshnessTables.write {}

section

variable {α : Type} {P Q : α → Prop} {l : List α} {a : α}

/-- There is a `P` with no `Q` after it. -/
def Stands (P Q : α → Prop) (l : List α) : Prop := ∃ l₁ a l₂, l = l₁ ++ a :: l₂ ∧ P a ∧ ∀ b ∈ l₂, ¬ Q b

theorem not_stands_nil : ¬ Stands P Q [] := by
  rintro ⟨l₁, a, l₂, h, -⟩
  exact absurd h.symm (List.append_ne_nil_of_right_ne_nil _ (List.cons_ne_nil _ _))

theorem stands_concat : Stands P Q (l ++ [a]) ↔ P a ∨ ¬ Q a ∧ Stands P Q l := by
  constructor
  · rintro ⟨l₁, b, l₂, h, hb, hafter⟩
    cases l₂ using List.reverseRecOn with
    | nil =>
      obtain ⟨-, hab⟩ := List.append_inj' h rfl
      cases hab
      exact .inl hb
    | append_singleton l₂ c =>
      rw [← List.cons_append, ← List.append_assoc] at h
      obtain ⟨rfl, hc⟩ := List.append_inj' h rfl
      cases hc
      exact .inr ⟨hafter a (by simp), l₁, b, l₂, rfl, hb, fun d hd => hafter d (List.mem_append_left _ hd)⟩
  · rintro (ha | ⟨ha, l₁, b, l₂, rfl, hb, hafter⟩)
    · exact ⟨l, a, [], rfl, ha, fun b hb => by cases hb⟩
    · refine ⟨l₁, b, l₂ ++ [a], by simp, hb, fun d hd => ?_⟩
      obtain hd | hd := List.mem_append.mp hd
      · exact hafter d hd
      · cases List.mem_singleton.mp hd
        exact ha

end

namespace FreshnessWrite

def Saves (c : String) : FreshnessWrite → Prop
  | saveCursor c' _ _ => c' = c
  | _ => False

/-- It sets the `updated_at` of the contract's row, if there is one. -/
def Writes (c : String) : FreshnessWrite → Prop
  | saveCursor c' _ _ => c' = c
  | touchCursor c' => c' = c
  | _ => False

def Records : FreshnessWrite → Prop
  | recordReorgHalt _ _ _ _ => True
  | _ => False

def Clears : FreshnessWrite → Prop
  | clearReorgHalts _ => True
  | _ => False

end FreshnessWrite

/-- The contract was saved since the last reset. -/
def Tailed (history : List (Int × FreshnessWrite)) (c : String) : Prop :=
  Stands (fun w => w.2.Saves c) (fun w => w.2 = .resetForContractChange) history

/-- The contract was last written at `t`, and there was no reset after that. -/
def LastWritten (history : List (Int × FreshnessWrite)) (c : String) (t : Int) : Prop :=
  Stands (fun w => w.1 = t ∧ w.2.Writes c) (fun w => w.2.Writes c ∨ w.2 = .resetForContractChange) history

/-- A halt was recorded after the halts were last cleared. -/
def HaltOpen (history : List (Int × FreshnessWrite)) : Prop :=
  Stands (fun w => w.2.Records) (fun w => w.2.Clears) history

theorem freshnessAfter_concat (history : List (Int × FreshnessWrite)) (w : Int × FreshnessWrite) :
    freshnessAfter (history ++ [w]) = (freshnessAfter history).write w := by
  rw [freshnessAfter, freshnessAfter, List.foldl_append]
  rfl

/-- What the tables tell of the history. -/
structure Tells (history : List (Int × FreshnessWrite)) (s : FreshnessTables) : Prop where
  tailed : ∀ c, (∃ row, s.indexer_cursor.lookup c = some row) ↔ Tailed history c
  saved : ∀ c row, s.indexer_cursor.lookup c = some row → row.last_ledger ≠ none ∧ row.updated_at ≠ none
  written : ∀ c row, s.indexer_cursor.lookup c = some row → ∀ t, row.updated_at = some t ↔ LastWritten history c t
  halts : s.openHalt ≠ none ↔ HaltOpen history

variable {history : List (Int × FreshnessWrite)} {s : FreshnessTables}

/-- What a statement does to the row of a contract. -/
def FreshnessWrite.row (w : FreshnessWrite) (at_ : Int) (c : String) (old : Option FreshnessRow) :
    Option FreshnessRow :=
  match w with
  | saveCursor c' lastLedger tip => if c' = c then some ⟨some lastLedger, some tip, some at_⟩ else old
  | touchCursor c' => if c' = c then old.map fun row => { row with updated_at := some at_ } else old
  | resetForContractChange => none
  | recordReorgHalt _ _ _ _ => old
  | clearReorgHalts _ => old

theorem lookup_write (at_ : Int) (w : FreshnessWrite) (c : String) :
    (s.write (at_, w)).indexer_cursor.lookup c = w.row at_ c (s.indexer_cursor.lookup c) := by
  cases w with
  | saveCursor c' lastLedger tip =>
    rw [FreshnessTables.write, Table.lookup_insert, FreshnessWrite.row]
    simp only [eq_comm]
  | touchCursor c' =>
    rw [FreshnessTables.write, FreshnessWrite.row]
    by_cases hc : c' = c
    · subst hc
      cases hrow : s.indexer_cursor.lookup c' with
      | none => simp [hrow]
      | some row => simp [hrow]
    · cases hrow : s.indexer_cursor.lookup c' with
      | none => simp [hrow, hc]
      | some row => simp [hrow, hc, Ne.symm hc]
  | resetForContractChange => rfl
  | recordReorgHalt => rfl
  | clearReorgHalts => rfl

theorem Tells.tailed_write (h : Tells history s) (at_ : Int) (w : FreshnessWrite) (c : String) :
    (∃ row, w.row at_ c (s.indexer_cursor.lookup c) = some row) ↔ Tailed (history ++ [(at_, w)]) c := by
  rw [Tailed, stands_concat, ← Tailed, ← h.tailed c]
  cases w with
  | saveCursor c' =>
    by_cases hc : c' = c
    · simp [FreshnessWrite.row, FreshnessWrite.Saves, hc]
    · simp [FreshnessWrite.row, FreshnessWrite.Saves, hc]
  | touchCursor c' =>
    by_cases hc : c' = c
    · simp [FreshnessWrite.row, FreshnessWrite.Saves, hc]
    · simp [FreshnessWrite.row, FreshnessWrite.Saves, hc]
  | resetForContractChange | recordReorgHalt | clearReorgHalts =>
    simp [FreshnessWrite.row, FreshnessWrite.Saves]

theorem Tells.written_write (h : Tells history s) (at_ : Int) (w : FreshnessWrite) (c : String) (row : FreshnessRow)
    (hrow : w.row at_ c (s.indexer_cursor.lookup c) = some row) (t : Int) :
    row.updated_at = some t ↔ LastWritten (history ++ [(at_, w)]) c t := by
  rw [LastWritten, stands_concat, ← LastWritten]
  cases w with
  | saveCursor c' =>
    by_cases hc : c' = c
    · rw [FreshnessWrite.row, if_pos hc] at hrow
      cases hrow
      simp [FreshnessWrite.Writes, hc]
    · rw [FreshnessWrite.row, if_neg hc] at hrow
      simp [FreshnessWrite.Writes, hc, h.written c row hrow t]
  | touchCursor c' =>
    by_cases hc : c' = c
    · rw [FreshnessWrite.row, if_pos hc] at hrow
      obtain ⟨old, -, rfl⟩ := Option.map_eq_some_iff.mp hrow
      simp [FreshnessWrite.Writes, hc]
    · rw [FreshnessWrite.row, if_neg hc] at hrow
      simp [FreshnessWrite.Writes, hc, h.written c row hrow t]
  | resetForContractChange => cases hrow
  | recordReorgHalt => simp [FreshnessWrite.Writes, h.written c row hrow t]
  | clearReorgHalts => simp [FreshnessWrite.Writes, h.written c row hrow t]

theorem Tells.saved_write (h : Tells history s) (at_ : Int) (w : FreshnessWrite) (c : String) (row : FreshnessRow)
    (hrow : w.row at_ c (s.indexer_cursor.lookup c) = some row) :
    row.last_ledger ≠ none ∧ row.updated_at ≠ none := by
  cases w with
  | saveCursor c' =>
    rw [FreshnessWrite.row] at hrow
    split at hrow
    · cases hrow
      exact ⟨Option.some_ne_none _, Option.some_ne_none _⟩
    · exact h.saved c row hrow
  | touchCursor c' =>
    rw [FreshnessWrite.row] at hrow
    split at hrow
    · obtain ⟨old, hold, rfl⟩ := Option.map_eq_some_iff.mp hrow
      exact ⟨(h.saved c old hold).1, Option.some_ne_none _⟩
    · exact h.saved c row hrow
  | resetForContractChange => cases hrow
  | recordReorgHalt => exact h.saved c row hrow
  | clearReorgHalts => exact h.saved c row hrow

theorem Tells.halts_write (h : Tells history s) (w : Int × FreshnessWrite) :
    (s.write w).openHalt ≠ none ↔ HaltOpen (history ++ [w]) := by
  rw [HaltOpen, stands_concat, ← HaltOpen, ← h.halts]
  obtain ⟨at_, w⟩ := w
  cases w with
  | saveCursor => simp [FreshnessTables.write, FreshnessTables.openHalt, FreshnessWrite.Records, FreshnessWrite.Clears]
  | touchCursor c =>
    have hsame : (s.write (at_, .touchCursor c)).openHalt = s.openHalt := by
      cases hrow : s.indexer_cursor.lookup c <;> simp only [FreshnessTables.write, hrow, FreshnessTables.openHalt]
    simp [hsame, FreshnessWrite.Records, FreshnessWrite.Clears]
  | resetForContractChange =>
    simp [FreshnessTables.write, FreshnessTables.openHalt, FreshnessWrite.Records, FreshnessWrite.Clears]
  | recordReorgHalt =>
    simp [FreshnessTables.write, FreshnessTables.openHalt, FreshnessWrite.Records, List.filter_append]
  | clearReorgHalts clearedBy =>
    simp only [FreshnessTables.write, FreshnessTables.openHalt, ReorgHalt.filter_clear, FreshnessWrite.Records,
      FreshnessWrite.Clears]
    simp

theorem tells_freshnessAfter (history : List (Int × FreshnessWrite)) : Tells history (freshnessAfter history) := by
  induction history using List.reverseRecOn with
  | nil =>
    have hnone : ∀ c (row : FreshnessRow), (freshnessAfter []).indexer_cursor.lookup c ≠ some row :=
      fun c row h => by cases h
    constructor
    · intro c
      constructor
      · rintro ⟨row, hrow⟩
        exact absurd hrow (hnone c row)
      · exact fun h => absurd h not_stands_nil
    · exact fun c row hrow => absurd hrow (hnone c row)
    · exact fun c row hrow => absurd hrow (hnone c row)
    · exact iff_of_false (fun h => h rfl) not_stands_nil
  | append_singleton history w ih =>
    rw [freshnessAfter_concat]
    constructor
    · intro c
      rw [lookup_write]
      exact ih.tailed_write _ _ c
    · intro c row hrow
      rw [lookup_write] at hrow
      exact ih.saved_write _ _ c row hrow
    · intro c row hrow
      rw [lookup_write] at hrow
      exact ih.written_write _ _ c row hrow
    · exact ih.halts_write w

/-- The row that is selected decides whether every contract was written lately. -/
theorem all_fresh_iff {row : FreshnessRow} (h : SelectsWorst (freshnessAfter history).indexer_cursor (some row))
    {t : Int} (ht : row.updated_at = some t) (now staleAfterMs : Int) :
    now - t ≤ staleAfterMs ↔ ∀ c t', Tailed history c → LastWritten history c t' → now - t' ≤ staleAfterMs := by
  have htells := tells_freshnessAfter history
  obtain ⟨⟨c, hrow⟩, hworst⟩ := h
  constructor
  · intro hfresh c' t' htailed hwritten
    obtain ⟨row', hrow'⟩ := (htells.tailed c').mpr htailed
    have ht' := (htells.written c' row' hrow' t').mpr hwritten
    have hle := hworst c' row' hrow'
    rw [ht, ht', notAfter] at hle
    omega
  · intro hfresh
    exact hfresh c t ((htells.tailed c).mp ⟨row, hrow⟩) ((htells.written c row hrow t).mp ht)

theorem not_tailed_of_selectsNone (h : SelectsWorst (freshnessAfter history).indexer_cursor none) (c : String) :
    ¬ Tailed history c := by
  intro htailed
  obtain ⟨row, hrow⟩ := ((tells_freshnessAfter history).tailed c).mpr htailed
  rw [SelectsWorst] at h
  rw [h] at hrow
  cases hrow

/-- Every contract that is tailed was written within the limit. -/
def AllFresh (history : List (Int × FreshnessWrite)) (now staleAfterMs : Int) : Prop :=
  ∀ c t, Tailed history c → LastWritten history c t → now - t ≤ staleAfterMs

section

variable {later : List (Int × FreshnessWrite)} {ping : Ping} {cursor : Queried (Option FreshnessRow)}
  {halt : Queried (Option ReorgHalt)} {row : Option FreshnessRow} {staleAfterMs now now' : Int}

/-- Without a halt it is the cursors that decide. -/
theorem afterHalt_eq (now now' staleAfterMs : Int) (h : SelectsWorst (freshnessAfter history).indexer_cursor row) :
    (AllFresh history now' staleAfterMs ∧ (ready.afterHalt staleAfterMs now now' row).code = 200 ∧
      ∀ figures, ready.afterHalt staleAfterMs now now' row ≠ .indexerStale figures staleAfterMs) ∨
    ¬ AllFresh history now' staleAfterMs ∧
      ∃ figures, ready.afterHalt staleAfterMs now now' row = .indexerStale figures staleAfterMs := by
  cases row with
  | none =>
    refine .inl ⟨fun c t htailed => absurd htailed (not_tailed_of_selectsNone h c), rfl, fun figures h => ?_⟩
    cases h
  | some row =>
    obtain ⟨c, hrow⟩ := h.1
    have hsaved := (tells_freshnessAfter history).saved c row hrow
    obtain ⟨lastLedger, tipLedger, updatedAt⟩ := row
    cases lastLedger with
    | none => exact absurd rfl hsaved.1
    | some lastLedger =>
      cases updatedAt with
      | none => exact absurd rfl hsaved.2
      | some updatedAt =>
        have hfresh := all_fresh_iff h rfl now' staleAfterMs
        by_cases hstale : now' - updatedAt > staleAfterMs
        · right
          refine ⟨fun hall => ?_, _, if_pos hstale⟩
          have := hfresh.mpr hall
          omega
        · left
          have hok : ready.afterHalt staleAfterMs now now' (some ⟨some lastLedger, tipLedger, some updatedAt⟩) =
              .ok _ := if_neg hstale
          refine ⟨hfresh.mp (by omega), by rw [hok]; rfl, fun figures h => ?_⟩
          rw [hok] at h
          cases h

theorem afterHalt_ne_reorgDetected (staleAfterMs now now' : Int) (row : Option FreshnessRow) (x : ReorgHalt)
    (lastLedger tip : Option Nat) : ready.afterHalt staleAfterMs now now' row ≠ .reorgDetected x lastLedger tip := by
  cases row with
  | none =>
    intro h
    cases h
  | some row =>
    obtain ⟨last, tip', updated⟩ := row
    cases last <;> cases updated <;> intro h
    case some.some last updated =>
      simp only [ready.afterHalt] at h
      split at h <;> cases h
    all_goals cases h

/-- **What `/ready` tells of the history**: an instance gets traffic exactly if Postgres answers, neither query
fails, no halt was recorded after the last time halts were cleared, and no contract saved since the last reset
has gone without a write for longer than the limit. It reports a halt whenever one is open, and staleness only
when none is. The cursors are read after `history`, the halts after what is written `later`. -/
theorem ready_tells (hcursor : ∀ row, cursor = .rows row → SelectsWorst (freshnessAfter history).indexer_cursor row)
    (hhalt : ∀ x, halt = .rows x → x = (freshnessAfter (history ++ later)).openHalt) :
    ((ready staleAfterMs ping cursor halt now now').code = 200 ↔
      ping = .answered ∧ cursor ≠ .failed ∧ halt ≠ .failed ∧
        (halt = .undefinedTable ∨ ¬ HaltOpen (history ++ later)) ∧
        (cursor = .undefinedTable ∨ AllFresh history now' staleAfterMs)) ∧
    ((∃ x lastLedger tip, ready staleAfterMs ping cursor halt now now' = .reorgDetected x lastLedger tip) ↔
      ping = .answered ∧ cursor ≠ .failed ∧ (∃ x, halt = .rows x) ∧ HaltOpen (history ++ later)) ∧
    ((∃ figures, ready staleAfterMs ping cursor halt now now' = .indexerStale figures staleAfterMs) ↔
      ping = .answered ∧ (∃ row, cursor = .rows row) ∧ halt ≠ .failed ∧
        (halt = .undefinedTable ∨ ¬ HaltOpen (history ++ later)) ∧ ¬ AllFresh history now' staleAfterMs) := by
  have hopen : ∀ x, halt = .rows x → (HaltOpen (history ++ later) ↔ x ≠ none) := by
    intro x hx
    rw [hhalt x hx]
    exact (tells_freshnessAfter (history ++ later)).halts.symm
  clear hhalt
  cases ping with
  | failed | timedOut => simp [ready, ReadyReply.code]
  | answered =>
    cases cursor with
    | failed => simp [ready, ReadyReply.code]
    | undefinedTable =>
      cases halt with
      | failed => simp [ready, ready.afterCursor, ReadyReply.code]
      | undefinedTable => simp [ready, ready.afterCursor, ready.afterHalt, ReadyReply.code]
      | rows x => cases x <;> simp [ready, ready.afterCursor, ready.afterHalt, ReadyReply.code, hopen]
    | rows row =>
      have hdecided := afterHalt_eq now now' staleAfterMs (hcursor row rfl)
      have hnever := afterHalt_ne_reorgDetected staleAfterMs now now' row
      cases halt with
      | failed => simp [ready, ready.afterCursor, ReadyReply.code]
      | undefinedTable =>
        obtain ⟨hfresh, hcode, hstale⟩ | ⟨hfresh, figures, hstale⟩ := hdecided
        · simp [ready, ready.afterCursor, hcode, hstale, hnever, hfresh]
        · simp [ready, ready.afterCursor, hstale, hfresh, ReadyReply.code]
      | rows x =>
        cases x with
        | some x => simp [ready, ready.afterCursor, ReadyReply.code, hopen]
        | none =>
          obtain ⟨hfresh, hcode, hstale⟩ | ⟨hfresh, figures, hstale⟩ := hdecided
          · simp [ready, ready.afterCursor, hcode, hstale, hnever, hfresh, hopen]
          · simp [ready, ready.afterCursor, hstale, hfresh, ReadyReply.code, hopen]

end

def polledTwo : List (Int × FreshnessWrite) :=
  [(1000, .saveCursor "A" 7 9), (2000, .saveCursor "B" 5 9), (3000, .touchCursor "A")]

def haltedAfter : List (Int × FreshnessWrite) := [(4000, .recordReorgHalt "A" (some 7) none "rewound")]

/-- The row of `B`. -/
def leastRecent : FreshnessRow := ⟨some 5, some 9, some 2000⟩

theorem selects_leastRecent : SelectsWorst (freshnessAfter polledTwo).indexer_cursor (some leastRecent) := by
  have hrows : ∀ r ∈ Table.rows (freshnessAfter polledTwo).indexer_cursor,
      notAfter leastRecent.updated_at r.2.updated_at := by decide +kernel
  exact ⟨⟨"B", by decide +kernel⟩, fun c row hrow => hrows (c, row) (Table.mem_rows.mpr hrow)⟩

theorem ready_tells_haltedAfter : HaltOpen (polledTwo ++ haltedAfter) := by
  have hcursor : ∀ row, Queried.rows (some leastRecent) = .rows row →
      SelectsWorst (freshnessAfter polledTwo).indexer_cursor row := by
    intro row h
    cases h
    exact selects_leastRecent
  have hhalt : ∀ x, Queried.rows (freshnessAfter (polledTwo ++ haltedAfter)).openHalt = .rows x →
      x = (freshnessAfter (polledTwo ++ haltedAfter)).openHalt := by
    intro x h
    cases h
    rfl
  have hreported : ∃ x lastLedger tip, ready 120000 .answered (.rows (some leastRecent))
      (.rows (freshnessAfter (polledTwo ++ haltedAfter)).openHalt) 5000 5000 = .reorgDetected x lastLedger tip :=
    ⟨_, _, _, rfl⟩
  exact ((ready_tells hcursor hhalt).2.1.mp hreported).2.2.2

end OurDao
