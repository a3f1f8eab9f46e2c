import OurDao.Exchange
import OurDao.FoldingSessions

/-!
# Serializable operations

The operations that take the advisory lock, surrogate ids aside: a value that a `BIGSERIAL` gave
to a transaction that was rolled back is not given out again, so which ids the rows get depends
on what failed before. Everything else in the raw log and in the derived tables is what whole
transactions make of them one after the other.
-/

namespace OurDao

open Turns

/-- The tables without read flags, surrogate ids and the sequences these are taken from. -/
def Tables.idless (t : Tables) : Tables :=
  { t with
    notifications := Table.mapRows (fun _ row => { row.withoutId with read := false }) t.notifications
    interest_distributions := Table.mapRows (fun _ => InterestRow.withoutId) t.interest_distributions
    documents := Table.mapRows (fun _ => DocumentRow.withoutId) t.documents
    sequences := {} }

/-- The raw log and the derived tables, read flags and surrogate ids aside. -/
def Db.idless (db : Db) : Db where
  tables := db.tables.idless
  applied := db.applied
  events := db.events

theorem idless_clearReads (t : Tables) : (clearReads t).idless = t.idless := by
  simp only [Tables.idless, clearReads, mapRows_mapRows]
  rfl

theorem idless_guarded (db : Db) : db.guarded.idless = db.idless := by
  simp only [Db.idless, Db.guarded, idless_clearReads]

/-- What a statement does to the tables does not depend on surrogate ids or on what was read. -/
def Idless {α : Type} (m m' : Sql α) : Prop := ∀ s t a s', s.idless = t.idless → m s = .ok (a, s') →
  ∃ t', m' t = .ok (a, t') ∧ s'.idless = t'.idless

theorem idless_onRow {κ ν : Type} [DecidableEq κ] {r : Relation κ ν} (hget : ∀ t, r.get t.idless = r.get t)
    (hset : ∀ x t, (r.set x t).idless = r.set x t.idless) (k : κ) : OnRow Idless r k where
  select s t a s' hst h := by
    cases h
    have hsame : r.get s = r.get t := by rw [← hget s, hst, hget]
    exact ⟨t, by rw [hsame]; rfl, hst⟩
  write row s t a s' hst h := by
    cases h
    have hsame : r.get s = r.get t := by rw [← hget s, hst, hget]
    exact ⟨_, rfl, by rw [hset, hset, hst, hsame]⟩

theorem isSome_of_mapRows {κ ν : Type} [DecidableEq κ] {f : κ → ν → ν} {s t : Table κ ν}
    (hst : Table.mapRows f s = Table.mapRows f t) {k : κ} : (s.lookup k).isSome = (t.lookup k).isSome := by
  rw [← Option.isSome_map (f := f k), ← Table.lookup_mapRows, hst, Table.lookup_mapRows, Option.isSome_map]

/-- A row that is new to one table is new to the other, and the same up to its id. -/
theorem mapRows_insertNew {κ ν : Type} [DecidableEq κ] {f : κ → ν → ν} {s t : Table κ ν} {k : κ} {v w : ν}
    (hst : Table.mapRows f s = Table.mapRows f t) (hvw : f k v = f k w) :
    Table.mapRows f (if (s.lookup k).isSome then s else s.insert k v) =
      Table.mapRows f (if (t.lookup k).isSome then t else t.insert k w) := by
  have hlook : (s.lookup k).isSome = (t.lookup k).isSome := isSome_of_mapRows hst
  rw [hlook]
  rcases hnone : t.lookup k with _ | old
  · have hs : s.lookup k = none := by simpa [hnone] using hlook
    simp [mapRows_insert_new f hs, mapRows_insert_new f hnone, hst, hvw]
  · simpa using hst

section

variable (t : Tables) (id address : String)

theorem idless_insertNotification (row : Nat → NotificationRow) :
    ∃ t', Sql.insertNotification id address row t = .ok ((), t') ∧ t'.idless =
      { t.idless with
        notifications := Table.mapRows (fun _ r => { r.withoutId with read := false })
          (if (t.notifications.lookup (id, address)).isSome then t.notifications
            else t.notifications.insert (id, address) (row (t.sequences.notifications + 1))) } := by
  refine ⟨_, rfl, ?_⟩
  rcases hlook : t.notifications.lookup (id, address) with _ | old <;> simp [Tables.idless, hlook]

theorem idless_insertInterest (row : Nat → InterestRow) :
    ∃ t', Sql.insertInterest id row t = .ok (!(t.interest_distributions.lookup id).isSome, t') ∧ t'.idless =
      { t.idless with
        interest_distributions := Table.mapRows (fun _ => InterestRow.withoutId)
          (if (t.interest_distributions.lookup id).isSome then t.interest_distributions
            else t.interest_distributions.insert id (row (t.sequences.interest_distributions + 1))) } := by
  rw [Sql.insertInterest]
  cases (t.interest_distributions.lookup id).isSome <;> exact ⟨_, rfl, rfl⟩

theorem idless_insertDocument (row : Nat → DocumentRow) :
    ∃ t', Sql.insertDocument id row t = .ok ((), t') ∧ t'.idless =
      { t.idless with
        documents := Table.mapRows (fun _ => DocumentRow.withoutId)
          (if (t.documents.lookup id).isSome then t.documents
            else t.documents.insert id (row (t.sequences.documents + 1))) } := by
  refine ⟨_, rfl, ?_⟩
  rcases hlook : t.documents.lookup id with _ | old <;> simp [Tables.idless, hlook]

end

theorem statements_idless : Statements (fun _ => True) Idless where
  pure a s t b s' hst h := by
    cases h
    exact ⟨t, rfl, hst⟩
  bind hm hf s t b s' hst h := by
    obtain ⟨a, s₁, h₁, h₂⟩ := Faults.bind_eq_ok.mp h
    obtain ⟨t₁, ht₁, hst₁⟩ := hm s t a s₁ hst h₁
    obtain ⟨t', ht', hst'⟩ := hf a s₁ t₁ b s' hst₁ h₂
    exact ⟨t', Faults.bind_eq_ok.mpr ⟨a, t₁, ht₁, ht'⟩, hst'⟩
  liftBind {_ _ x y f f'} _ hxy hf s t b s' hst h := by
    cases x with
    | error m => cases h
    | ok a =>
      rw [hxy a rfl]
      exact hf a rfl s t b s' hst h
  member _ := idless_onRow (fun _ => rfl) (fun _ _ => rfl) _
  loanProposal _ := idless_onRow (fun _ => rfl) (fun _ _ => rfl) _
  loan _ := idless_onRow (fun _ => rfl) (fun _ _ => rfl) _
  treasury _ := idless_onRow (fun _ => rfl) (fun _ _ => rfl) _
  notification {id address row} _ hrow _ s t a s' hst h := by
    obtain ⟨s₁, hs, hs₁⟩ := idless_insertNotification s id address row
    obtain ⟨t', ht, ht'⟩ := idless_insertNotification t id address row
    rw [hs] at h
    cases h
    have hid : ∀ i j, (row i).withoutId = (row j).withoutId := fun i j => by rw [hrow i, hrow j]; rfl
    refine ⟨t', ht, ?_⟩
    have hrow' := congrArg (fun r : NotificationRow => { r with read := false })
      (hid (s.sequences.notifications + 1) (t.sequences.notifications + 1))
    rw [hs₁, ht', hst, mapRows_insertNew (congrArg Tables.notifications hst) hrow']
  interest {id row} _ hrow s t a s' hst h := by
    obtain ⟨s₁, hs, hs₁⟩ := idless_insertInterest s id row
    obtain ⟨t', ht, ht'⟩ := idless_insertInterest t id row
    rw [hs] at h
    cases h
    have hid : ∀ i j, (row i).withoutId = (row j).withoutId := fun i j => by rw [hrow i, hrow j]; rfl
    have hsame := congrArg Tables.interest_distributions hst
    refine ⟨t', by rw [ht, isSome_of_mapRows hsame], ?_⟩
    rw [hs₁, ht', hst, mapRows_insertNew hsame (hid _ (t.sequences.interest_distributions + 1))]
  document {id row} _ hrow s t a s' hst h := by
    obtain ⟨s₁, hs, hs₁⟩ := idless_insertDocument s id row
    obtain ⟨t', ht, ht'⟩ := idless_insertDocument t id row
    rw [hs] at h
    cases h
    have hid : ∀ i j, (row i).withoutId = (row j).withoutId := fun i j => by rw [hrow i, hrow j]; rfl
    refine ⟨t', ht, ?_⟩
    rw [hs₁, ht', hst, mapRows_insertNew (congrArg Tables.documents hst) (hid _ (t.sequences.documents + 1))]
  totals delta s t a s' hst h := by
    have hsame : s.idless.dao_totals = t.idless.dao_totals := congrArg Tables.dao_totals hst
    have hs : s.dao_totals = t.dao_totals := hsame
    simp only [Sql.addTotals] at h ⊢
    rw [← hs]
    split at h <;> cases h
    next hfits =>
      refine ⟨_, if_pos hfits, ?_⟩
      exact congrArg (fun u : Tables => { u with dao_totals := s.dao_totals.add delta }) hst
  daily day delta s t a s' hst h := by
    have hsame : s.idless.daily_loan_stats = t.idless.daily_loan_stats := congrArg Tables.daily_loan_stats hst
    have hs : s.daily_loan_stats = t.daily_loan_stats := hsame
    have hafter : Sql.dailyAfter t day delta = Sql.dailyAfter s day delta := by rw [Sql.dailyAfter, Sql.dailyAfter, hs]
    simp only [Sql.addDaily] at h ⊢
    rw [hafter, ← hs]
    split at h <;> cases h
    next hfits =>
      refine ⟨_, if_pos hfits, ?_⟩
      exact congrArg (fun u : Tables =>
        { u with daily_loan_stats := s.daily_loan_stats.insert day (Sql.dailyAfter s day delta) }) hst

theorem idless_inj {d e : Db} (h : d.idless = e.idless) :
    d.tables.idless = e.tables.idless ∧ d.applied = e.applied ∧ d.events = e.events :=
  ⟨congrArg Db.tables h, (Db.mk.inj h).2.1, (Db.mk.inj h).2.2.1⟩

theorem determined_foldEvent (ev : DecodedEvent) : Determined Db.idless (foldEvent ev) Eq := by
  intro d e channels d' hde hrun
  obtain ⟨tables, happly, rfl⟩ := foldEvent_eq_ok.mp hrun
  obtain ⟨htables, happlied, hevents⟩ := idless_inj hde
  obtain ⟨tables', happly', hsame⟩ :=
    statements_idless.applyEvent (.refl ev) (fun _ _ => trivial) _ _ _ _ htables happly
  refine ⟨channels, _, foldEvent_eq_ok.mpr ⟨tables', happly', rfl⟩, ?_, rfl⟩
  simp only [Db.idless, hsame, happlied, hevents]

theorem determined_insertRawEvent (ev : DecodedEvent) : Determined Db.idless (insertRawEvent ev) Eq := by
  intro d e needsFold d' hde hrun
  obtain ⟨htables, happlied, hevents⟩ := idless_inj hde
  obtain ⟨hfault, ⟨row, hrow, hfolded, rfl⟩ | ⟨hnone, hneeds, rfl⟩⟩ := insertRawEvent_eq_ok.mp hrun
  · exact ⟨needsFold, e, insertRawEvent_eq_ok.mpr ⟨hfault, .inl ⟨row, hevents ▸ hrow, hfolded, rfl⟩⟩, hde, rfl⟩
  · refine ⟨needsFold, _, insertRawEvent_eq_ok.mpr ⟨hfault, .inr ⟨hevents ▸ hnone, hneeds, rfl⟩⟩, ?_, rfl⟩
    simp only [Db.idless, htables, happlied, hevents]

/-- A query of the raw log. -/
theorem determined_events {α : Type} (f : Table String EventRow → α) :
    Determined (ε := Failure) Db.idless (fun db => .ok (f db.events, db)) Eq := by
  intro d e a d' hde hrun
  cases hrun
  obtain ⟨-, -, hevents⟩ := idless_inj hde
  exact ⟨_, e, by rw [hevents], hde, rfl⟩

/-- A statement that answers nothing. -/
theorem determined_modify {f : Db → Db} (hf : ∀ d e, d.idless = e.idless → (f d).idless = (f e).idless) :
    Determined Db.idless (modify f : Tx Unit) Eq := by
  intro d e a d' hde hrun
  cases hrun
  exact ⟨(), _, rfl, hf d e hde, rfl⟩

theorem determined_markFolded (id : String) : Determined Db.idless (markFolded id) Eq := by
  refine determined_modify fun d e hde => ?_
  obtain ⟨htables, happlied, hevents⟩ := idless_inj hde
  simp only [Db.idless, htables, happlied, hevents]

theorem determined_truncateTables : Determined Db.idless truncateTables Eq := by
  refine determined_modify fun d e hde => ?_
  obtain ⟨-, -, hevents⟩ := idless_inj hde
  simp only [Db.idless, Db.truncate, hevents]

theorem determined_resetTx : Determined Db.idless resetTx Eq := by
  refine determined_modify fun d e hde => ?_
  obtain ⟨-, -, hevents⟩ := idless_inj hde
  simp only [Db.idless, Db.truncate, hevents]

theorem determined_resolveAll : Determined Db.idless resolveAll Eq := determined_modify fun _ _ hde => hde

theorem determined_clearHalts : Determined Db.idless clearHalts Eq := determined_modify fun _ _ hde => hde

theorem determined_updateUnresolved (eventId : String) (f : FailedEventRow → FailedEventRow) :
    Determined Db.idless (updateUnresolved eventId f) Eq := determined_modify fun _ _ hde => hde

/-- Marking notifications as read. -/
theorem idless_markRead (p : String × String → NotificationRow → Bool) (db : Db) :
    Db.idless { db with tables := { db.tables with
      notifications := Table.mapRows (fun k row => if p k row then { row with read := true } else row)
        db.tables.notifications } } = db.idless := by
  simp only [Db.idless, Tables.idless, mapRows_mapRows]
  congr 3
  funext k row
  split <;> rfl

section

variable {next finish : Sends}

theorem dependsOn_rollBack : rollBack.DependsOn Db.idless := trivial

theorem dependsOn_sendFold (ev : DecodedEvent) {failed : Failure → Sends}
    (hfailed : ∀ e, (failed e).DependsOn Db.idless) (hnext : next.DependsOn Db.idless) :
    (sendFold ev failed next).DependsOn Db.idless := by
  refine Code.dependsOn_query (determined_foldEvent ev) hfailed fun channels => ?_
  exact Code.dependsOn_query (determined_markFolded ev.id) hfailed fun _ => hnext

theorem dependsOn_sendPage (lastLedger : Nat) (events : List EventResponse) :
    (sendPage lastLedger events).DependsOn Db.idless := by
  induction events with
  | nil => rintro (e | _) <;> trivial
  | cons raw events ih =>
    rw [sendPage]
    rcases decodeEvent raw with m | ev
    · trivial
    · dsimp only
      split
      · trivial
      · refine Code.dependsOn_query (determined_insertRawEvent ev) (fun _ => dependsOn_rollBack) fun needsFold => ?_
        cases needsFold with
        | false => exact ih
        | true => exact dependsOn_sendFold ev (fun _ => dependsOn_rollBack) ih

theorem dependsOn_sendRows (hnext : next.DependsOn Db.idless) (rows : List (String × EventRow)) :
    (sendRows next rows).DependsOn Db.idless := by
  induction rows with
  | nil => exact hnext
  | cons row rows ih =>
    rw [sendRows]
    rcases toDecodedEvent row.1 row.2 with m | ev
    · trivial
    · exact Code.dependsOn_query (determined_foldEvent ev) (fun _ => dependsOn_rollBack) fun _ => ih

theorem dependsOn_sendReads (hnext : next.DependsOn Db.idless) (reads : List (String × String)) :
    (sendReads next reads).DependsOn Db.idless := by
  induction reads with
  | nil => exact hnext
  | cons key reads ih =>
    refine And.intro (fun d e rows d' hde hrun => ?_) fun r => ?_
    · cases hrun
      exact ⟨_, _, rfl, by rw [idless_markRead, hde, idless_markRead], rfl⟩
    · rcases r with e | _
      · trivial
      · exact ih

theorem dependsOn_sendLog (limit : Nat) (hfinish : finish.DependsOn Db.idless) (fuel : Nat)
    (last : Option (ℕ ×ₗ String)) : (sendLog limit finish fuel last).DependsOn Db.idless := by
  induction fuel generalizing last with
  | zero => trivial
  | succ fuel ih =>
    refine Code.dependsOn_query (determined_events fun events => Keyset.page logKey (Table.rows events) limit last)
      (fun _ => dependsOn_rollBack) fun rows => ?_
    cases rows with
    | nil => exact hfinish
    | cons row rows => exact dependsOn_sendRows (ih _) _

theorem dependsOn_sendReindex (batchSize : Int) : (sendReindex batchSize).DependsOn Db.idless := by
  rintro (e | _)
  · trivial
  · intro reads
    refine Code.dependsOn_query determined_truncateTables (fun _ => dependsOn_rollBack) fun _ => ?_
    refine Code.dependsOn_query (determined_events fun events => (Table.rows events).length)
      (fun _ => dependsOn_rollBack) fun n => ?_
    refine dependsOn_sendLog _ (dependsOn_sendReads ?_ reads) _ _
    -- behind the log: the records, the halts, `COMMIT`
    refine Code.dependsOn_query determined_resolveAll (fun _ => dependsOn_rollBack) fun _ => ?_
    refine Code.dependsOn_query determined_clearHalts (fun _ => dependsOn_rollBack) fun _ => ?_
    rintro (e | _) <;> trivial

theorem dependsOn_sendStillFails (eventId : String) (err : Failure) :
    (sendStillFails eventId err).DependsOn Db.idless := by
  have hwrite := determined_updateUnresolved eventId fun r => { r with error := err.message }
  rw [sendStillFails, Code.DependsOn]
  exact Code.dependsOn_query hwrite (fun _ => Code.dependsOn_done) fun _ => Code.dependsOn_done

theorem dependsOn_sendReplay (eventId : String) (resolution : Resolution) :
    (sendReplay eventId resolution).DependsOn Db.idless := by
  have hfails : ∀ e, (sendStillFails eventId e).DependsOn Db.idless := dependsOn_sendStillFails eventId
  rintro (_ | _)
  · trivial
  · refine Code.dependsOn_query (determined_events fun events => events.lookup eventId) (fun _ => trivial) fun row => ?_
    cases row with
    | none => trivial
    | some row =>
      dsimp only
      split
      · exact Code.dependsOn_query (determined_updateUnresolved eventId _) (fun _ => trivial) fun _ => trivial
      · rcases toDecodedEvent eventId row with m | ev
        · trivial
        · rintro (e | _)
          · exact hfails e
          · refine dependsOn_sendFold ev hfails
              (Code.dependsOn_query (determined_updateUnresolved eventId _) hfails fun _ => ?_)
            rintro (e | _)
            · exact hfails e
            · rintro (_ | err)
              · trivial
              · exact hfails err

/-- What the operations do to the log and the tables does not depend on surrogate ids. -/
theorem Job.dependsOn (job : Job) : job.code.DependsOn Db.idless := by
  cases job with
  | ingestPage events lastLedger =>
    rintro (e | _)
    · trivial
    · exact dependsOn_sendPage lastLedger events
  | ingestEventQuarantined ev =>
    refine Code.dependsOn_query (determined_insertRawEvent ev) (fun _ => trivial) fun needsFold => ?_
    cases needsFold with
    | false => trivial
    | true =>
      rintro (e | _)
      · trivial
      · refine dependsOn_sendFold ev (fun _ => dependsOn_rollBack) ?_
        rintro (e | _) <;> trivial
  | reindexFromEventLog batchSize => exact dependsOn_sendReindex batchSize
  | replayFailedEvent eventId resolution => exact dependsOn_sendReplay eventId resolution
  | resetForContractChange =>
    rintro (e | _)
    · trivial
    · refine Code.dependsOn_query determined_resetTx (fun _ => dependsOn_rollBack) fun _ => ?_
      rintro (e | _) <;> trivial

end

section

variable {σ : Type} [DecidableEq σ] {S₀ S : System σ Db Failure}

omit [DecidableEq σ] in
theorem one_session {I : Db → Prop} (h : S.Orderly Db.idless I) {s s' : σ} (hs : S.running s ≠ none)
    (hs' : S.running s' ≠ none) : s = s' := by
  obtain ⟨w, hw⟩ := Option.ne_none_iff_exists'.mp hs
  obtain ⟨w', hw'⟩ := Option.ne_none_iff_exists'.mp hs'
  exact Option.some.inj ((h.exclusive s w hw).symm.trans (h.exclusive s' w' hw'))

/-- **Operations under the lock are serializable.** However the statements of any number of
sessions are interleaved, and wherever they fail or break off, the raw log and the derived tables
are, surrogate ids aside, what whole transactions make of them one after the other, and only one
session has anything under way. Values of the sequences may be lost at any moment. -/
theorem serial_of_sessions (hstart : ∀ s, S₀.running s = none)
    (h : Relation.ReflTransGen (Step Db.idless (Starts fun _ _ => True)) S₀ S) :
    (∃ y : Db, Relation.ReflTransGen (fun x y => ∃ job : Job, job.Commits x y) S₀.db.guarded y ∧
      S.db.idless = y.idless) ∧
      ∀ s s', S.running s ≠ none → S.running s' ≠ none → s = s' := by
  let Serial : Db → Prop := fun y => Relation.ReflTransGen (fun x y => ∃ job : Job, job.Commits x y) S₀.db.guarded y
  have horderly : S.Orderly Db.idless fun z => ∃ y : Db, y.idless = z ∧ Serial y.guarded := by
    refine System.orderly_of_steps hstart ⟨S₀.db, rfl, .refl⟩ ?_ h
    rintro z code ⟨y, rfl, hy⟩ ⟨job, rfl, -⟩
    have hkeeps : job.code.Keeps Db.guarded Serial .idle y.guarded :=
      job.keeps (guarded_guarded y) hy fun x hx => hy.tail ⟨job, hx⟩
    exact Code.Keeps.through job.dependsOn (b := .idle) hkeeps
  obtain ⟨y, hsame, hy⟩ := horderly.holds
  exact ⟨⟨y.guarded, hy, by rw [idless_guarded, hsame]⟩, fun s s' => one_session horderly⟩

end

/-- Tables that hold nothing: a transaction that was rolled back has drawn three values. -/
def drawn : Db := { tables := { Tables.empty with sequences := { notifications := 3 } } }

theorem serial_of_sessions_welcome : ∃ S : System Bool Db Failure,
    (Table.rows S.db.tables.notifications).map (·.2.id) = [4] ∧
      S.db.reorg_halts.map (·.detail) = ["history diverged"] ∧
      ∃ y : Db, Relation.ReflTransGen (fun x y => ∃ job : Job, job.Commits x y) Db.empty.guarded y ∧
        S.db.idless = y.idless := by
  have hmay : Starts (fun _ _ => True) drawn.idless (sendEventQuarantined (aWelcome "0001" 1 "GA")) :=
    ⟨.ingestEventQuarantined (aWelcome "0001" 1 "GA"), rfl, trivial⟩
  obtain ⟨S, hrun, hdb⟩ := welcome_run (fun _ _ => rfl) hmay rfl (by decide +kernel) (by decide +kernel)
  have hlost : Step Db.idless (Starts fun _ _ => True) ({ db := Db.empty } : System Bool Db Failure)
      { db := drawn } := .elsewhere rfl
  refine ⟨S, ?_, ?_, (serial_of_sessions (fun _ => rfl) (hrun.head hlost)).1⟩
  · rw [hdb]
    decide +kernel
  · rw [hdb]
    rfl

end OurDao
