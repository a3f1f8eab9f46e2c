import OurDao.ExactlyOnce
import OurDao.Routes

/-!
# Reading notifications while they are rebuilt

A rebuild saves the read flags, then truncates the tables under a lock that it holds to
its commit, refolds the log and restores the flags. `PATCH` requests run statement by
statement in between, wherever the lock lets them: they mark rows by surrogate id, which
a rebuild gives out anew, or by address.
-/

namespace OurDao

open Faults Op

/-- How far a rebuild has come, with the reads it saved. -/
inductive RebuildPhase where
  | idle
  | saved (reads : List (String × String))
  /-- from `TRUNCATE` to the commit -/
  | truncated (reads : List (String × String))

/-- How far `PATCH /notifications/:id/read` has come. -/
inductive PatchPhase where
  | authenticated
  /-- the notification with the id was the caller's -/
  | checked (key : String × String)
  | done

structure PatchRequest where
  id : Nat
  /-- the `G…` address the caller is authenticated as -/
  address : String
  phase : PatchPhase := .authenticated

structure Inbox where
  db : Db := {}
  rebuild : RebuildPhase := .idle
  requests : Table Nat PatchRequest := ∅
  /-- the notifications whose `PATCH` succeeded -/
  marked : List (String × String) := []

/-- The ownership check, on the row that was found. -/
def PatchRequest.check (r : PatchRequest) (found : Option ((String × String) × NotificationRow)) :
    PatchRequest :=
  match found with
  | none => { r with phase := .done }
  | some (key, _) => if key.2 ≠ r.address then { r with phase := .done } else { r with phase := .checked key }

namespace Inbox

def notifications (s : Inbox) : Table (String × String) NotificationRow := s.db.tables.notifications

/-- No transaction holds the lock on the table. -/
def Unlocked (s : Inbox) : Prop := ∀ reads, s.rebuild ≠ .truncated reads

/-- One statement, or the commit of a transaction. -/
inductive Step (s : Inbox) : Inbox → Prop
  | fold {ev : DecodedEvent} {channels : List StreamChannel} {db : Db} (hlock : s.rebuild = .idle)
      (h : foldEvent ev s.db = .ok (channels, db)) : Step s { s with db }
  | others {db : Db} (h : db.tables = s.db.tables) : Step s { s with db }
  | receive {rid : Nat} (id : Nat) (address : String) (h : s.requests.lookup rid = none) :
      Step s { s with requests := s.requests.insert rid { id, address } }
  | select {rid : Nat} {r : PatchRequest} {found : Option ((String × String) × NotificationRow)} {db : Db}
      (hlock : s.Unlocked) (hr : s.requests.lookup rid = some r) (hphase : r.phase = .authenticated)
      (h : selectNotification r.id s.db = .ok (found, db)) :
      Step s { s with db, requests := s.requests.insert rid (r.check found) }
  | update {rid : Nat} {r : PatchRequest} {key : String × String} {db : Db}
      {rows : List ((String × String) × NotificationRow)} (hlock : s.Unlocked)
      (hr : s.requests.lookup rid = some r) (hphase : r.phase = .checked key)
      (h : updateRead (fun _ row => row.id = r.id) s.db = .ok (rows, db)) :
      Step s { s with
        db
        requests := s.requests.insert rid { r with phase := .done }
        marked := rows.map Prod.fst ++ s.marked }
  | readAll {address : String} {db : Db} {rows : List ((String × String) × NotificationRow)}
      (hlock : s.Unlocked)
      (h : updateRead (fun key row => key.2 = address && !row.read) s.db = .ok (rows, db)) :
      Step s { s with
        db, marked := s.notifications.keys.filter (·.2 = address) ++ s.marked }
  | save (h : s.rebuild = .idle) : Step s { s with rebuild := .saved (savedReads s.db.tables) }
  | truncate {reads : List (String × String)} (h : s.rebuild = .saved reads) :
      Step s { s with rebuild := .truncated reads }
  | commit {reads : List (String × String)} {batchSize : Int} {summary : Rebuilt} {db : Db}
      (hphase : s.rebuild = .truncated reads) (h : rebuildWith reads batchSize s.db = .ok (summary, db)) :
      Step s { s with db, rebuild := .idle }
  | abort : Step s { s with rebuild := .idle }

end Inbox

section

variable {db db' : Db} {t t' : Tables} {k : String × String} {row : NotificationRow}

theorem lookup_updateRead {p : String × String → NotificationRow → Bool}
    {rows : List ((String × String) × NotificationRow)} (h : updateRead p db = .ok (rows, db')) :
    db'.tables.notifications.lookup k = (db.tables.notifications.lookup k).map fun row =>
      if p k row then { row with read := true } else row := by
  cases h
  exact Table.lookup_mapRows _

theorem mem_updateRead {p : String × String → NotificationRow → Bool}
    {rows : List ((String × String) × NotificationRow)} (h : updateRead p db = .ok (rows, db')) :
    k ∈ rows.map Prod.fst ↔ ∃ row, db.tables.notifications.lookup k = some row ∧ p k row := by
  cases h
  rw [List.map_map]
  exact Table.mem_filter_rows

theorem mem_savedReads : k ∈ savedReads t ↔ ∃ row, t.notifications.lookup k = some row ∧ row.read = true :=
  Table.mem_filter_rows

theorem lookup_markRead (notifications : Table (String × String) NotificationRow) (key : String × String) :
    (markRead notifications key).lookup k =
      (notifications.lookup k).map fun row => if k = key then { row with read := true } else row := by
  rw [markRead]
  rcases hkey : notifications.lookup key with _ | row <;> rcases eq_or_ne k key with rfl | hk
  · simp [hkey]
  · simp [hk]
  · simp [hkey]
  · simp [hk, AList.lookup_insert_ne hk]

theorem lookup_restoreReads (reads : List (String × String)) :
    (restoreReads reads t).notifications.lookup k =
      (t.notifications.lookup k).map fun row => if k ∈ reads then { row with read := true } else row := by
  rw [restoreReads]
  generalize t.notifications = notifications
  induction reads generalizing notifications with
  | nil => simp
  | cons key reads ih =>
    rw [List.foldl_cons, ih, lookup_markRead, Option.map_map]
    congr 1
    funext row
    by_cases hkey : k = key <;> by_cases hreads : k ∈ reads <;> simp [hkey, hreads]

/-- A fold leaves the notifications that are there as they are. -/
theorem applyEvent_keeps_notification {ev : DecodedEvent} :
    Preserves (fun t => t.notifications.lookup k = some row) (applyEvent ev) := by
  refine (statements_notifications (fun t t' hsame _ h => by rw [hsame, h]) ?_).applyEvent (.refl ev)
    fun _ _ => trivial
  intro id address newRow _ _ t a t' h hrow
  cases h
  dsimp only
  split
  · exact hrow
  · rename_i hnew
    rw [AList.lookup_insert_ne, hrow]
    rintro rfl
    rw [hrow] at hnew
    exact hnew rfl

/-- What a rebuild makes of the notifications: those of the log, read if saved as such. -/
theorem lookup_rebuildWith {reads : List (String × String)} {batchSize : Int} {summary : Rebuilt}
    (h : rebuildWith reads batchSize db = .ok (summary, db'))
    (hrow : db'.tables.notifications.lookup k = some row) : row.read = true ↔ k ∈ reads := by
  obtain ⟨evs, t, -, hfold, -, rfl⟩ := rebuildWith_eq_ok h
  dsimp only at hrow
  rw [lookup_restoreReads, Option.map_eq_some_iff] at hrow
  obtain ⟨row₀, hrow₀, rfl⟩ := hrow
  have hunread := foldTables_unread hfold unread_empty k row₀ hrow₀
  split
  next hmem => simp [hmem]
  next hmem => simp [hmem, hunread]

end

namespace Inbox

variable {s s' : Inbox} {k : String × String}

def IsRead (s : Inbox) (k : String × String) : Prop :=
  ∃ row, s.notifications.lookup k = some row ∧ row.read = true

/-- What was marked is read, and known to a rebuild under way. -/
structure ReadsKept (s : Inbox) : Prop where
  read : ∀ k ∈ s.marked, s.IsRead k
  saved : ∀ reads, s.rebuild = .saved reads ∨ s.rebuild = .truncated reads → ∀ k ∈ s.marked, k ∈ reads

/-- No notification is marked behind the back of a rebuild that has saved the reads, and none that
was marked is dropped. -/
def Timely (s s' : Inbox) : Prop :=
  (∀ reads, s.rebuild = .saved reads → ∀ k ∈ s'.marked, k ∈ s.marked ∨ k ∈ reads) ∧
    ∀ k ∈ s.marked, (s'.notifications.lookup k).isSome

theorem IsRead.updateRead {p : String × String → NotificationRow → Bool} {db : Db}
    {rows : List ((String × String) × NotificationRow)} (h : s.IsRead k)
    (hupdate : updateRead p s.db = .ok (rows, db)) :
    ∃ row, db.tables.notifications.lookup k = some row ∧ row.read = true := by
  obtain ⟨row, hrow, hread⟩ := h
  rw [notifications] at hrow
  refine ⟨_, by rw [lookup_updateRead hupdate, hrow]; rfl, ?_⟩
  dsimp only
  split
  · rfl
  · exact hread

/-- A statement that marks rows. -/
theorem ReadsKept.mark {p : String × String → NotificationRow → Bool} {db : Db}
    {rows : List ((String × String) × NotificationRow)} {requests : Table Nat PatchRequest}
    {keys : List (String × String)} (h : s.ReadsKept) (hlock : s.Unlocked)
    (hupdate : OurDao.updateRead p s.db = .ok (rows, db))
    (hkeys : ∀ k ∈ keys, ∃ row, db.tables.notifications.lookup k = some row ∧ row.read = true)
    (htimely : s.Timely { s with db, requests, marked := keys ++ s.marked }) :
    ReadsKept { s with db, requests, marked := keys ++ s.marked } := by
  refine ⟨fun k hk => ?_, fun reads hphase k hk => ?_⟩
  · rcases List.mem_append.mp hk with hk | hk
    · exact hkeys k hk
    · exact (h.read k hk).updateRead hupdate
  · rcases hphase with hphase | hphase
    · rcases htimely.1 reads hphase k hk with hold | hold
      · exact h.saved reads (.inl hphase) k hold
      · exact hold
    · exact absurd hphase (hlock reads)

theorem ReadsKept.step (h : s.ReadsKept) (hstep : s.Step s') (htimely : s.Timely s') : s'.ReadsKept := by
  cases hstep with
  | fold hlock hfold =>
    obtain ⟨tables, happly, rfl⟩ := foldEvent_eq_ok.mp hfold
    refine ⟨fun k hk => ?_, fun reads hphase => h.saved reads hphase⟩
    obtain ⟨row, hrow, hread⟩ := h.read k hk
    exact ⟨row, applyEvent_keeps_notification _ _ _ happly hrow, hread⟩
  | others hsame =>
    refine ⟨fun k hk => ?_, h.saved⟩
    obtain ⟨row, hrow, hread⟩ := h.read k hk
    exact ⟨row, by rw [notifications, hsame]; exact hrow, hread⟩
  | receive id address hnew => exact ⟨h.read, h.saved⟩
  | select hlock hr hphase hselect =>
    cases hselect
    exact ⟨h.read, h.saved⟩
  | update hlock hr hphase hupdate =>
    refine h.mark hlock hupdate (fun k hk => ?_) htimely
    obtain ⟨row, hrow, hid⟩ := (mem_updateRead hupdate).mp hk
    exact ⟨_, by rw [lookup_updateRead hupdate, hrow]; rfl, by simp [hid]⟩
  | @readAll address db rows hlock hupdate =>
    refine h.mark hlock hupdate (fun k hk => ?_) htimely
    obtain ⟨hmem, haddress⟩ := List.mem_filter.mp hk
    obtain ⟨row, hrow⟩ := Option.isSome_iff_exists.mp
      (AList.lookup_isSome.mpr (AList.mem_keys.mpr hmem))
    rw [notifications] at hrow
    refine ⟨_, by rw [lookup_updateRead hupdate, hrow]; rfl, ?_⟩
    cases hread : row.read <;> simp_all
  | save hphase =>
    refine ⟨h.read, fun reads hsaved k hk => ?_⟩
    rcases hsaved with hsaved | hsaved
    · cases hsaved
      exact mem_savedReads.mpr (h.read k hk)
    · cases hsaved
  | truncate hphase =>
    refine ⟨h.read, fun reads htruncated k hk => ?_⟩
    rcases htruncated with htruncated | htruncated
    · cases htruncated
    · cases htruncated
      exact h.saved _ (.inl hphase) k hk
  | commit hphase hrebuild =>
    refine ⟨fun k hk => ?_, fun _ hidle => by rcases hidle with hidle | hidle <;> cases hidle⟩
    obtain ⟨row, hrow⟩ := Option.isSome_iff_exists.mp (htimely.2 k hk)
    exact ⟨row, hrow, (lookup_rebuildWith hrebuild hrow).mpr (h.saved _ (.inr hphase) k hk)⟩
  | abort => exact ⟨h.read, fun _ hidle => by rcases hidle with hidle | hidle <;> cases hidle⟩

end Inbox

/-- **Read flags survive a rebuild** in every run in which no request marks a notification between
the statement that saves the flags and the one that locks the table, other than one that is saved
as read, and no rebuild drops a marked one. At the commit of any rebuild the marked notifications
are read exactly if they were saved and are there again. -/
theorem reads_survive_iff (s : Inbox) :
    (∀ db : Db, Relation.ReflTransGen (fun s s' : Inbox => s.Step s' ∧ s.Timely s') { db } s →
      ∀ k ∈ s.marked, s.IsRead k) ∧
    ∀ (reads : List (String × String)) (batchSize : Int) (summary : Rebuilt) (db : Db),
      s.rebuild = .truncated reads → rebuildWith reads batchSize s.db = .ok (summary, db) →
      ((∀ k ∈ s.marked, Inbox.IsRead { s with db, rebuild := .idle } k) ↔
        ∀ k ∈ s.marked, k ∈ reads ∧ (db.tables.notifications.lookup k).isSome) := by
  constructor
  · intro db hrun
    have hkept : s.ReadsKept := by
      induction hrun with
      | refl => exact ⟨by simp, by simp⟩
      | tail _ hstep ih => exact ih.step hstep.1 hstep.2
    exact hkept.read
  · intro reads batchSize summary db _ hrebuild
    refine forall₂_congr fun k _ => ⟨?_, ?_⟩
    · rintro ⟨row, hrow, hread⟩
      rw [Inbox.notifications] at hrow
      exact ⟨(lookup_rebuildWith hrebuild hrow).mp hread, by rw [hrow]; rfl⟩
    · rintro ⟨hmem, hsome⟩
      obtain ⟨row, hrow⟩ := Option.isSome_iff_exists.mp hsome
      exact ⟨row, hrow, (lookup_rebuildWith hrebuild hrow).mpr hmem⟩

/-- The database after a transaction, if it commits. -/
def Tx.after {α : Type} (m : Tx α) (db : Db) : Db :=
  match m db with
  | .ok (_, db) => db
  | .error _ => db

theorem Tx.after_eq {α : Type} (m : Tx α) (db : Db) (h : (m db).isOk) : ∃ a, m db = .ok (a, m.after db) := by
  rw [Tx.after]
  rcases hm : m db with e | ⟨a, db'⟩
  · rw [hm] at h
    cases h
  · exact ⟨a, rfl⟩

/-- A member joins. -/
def aWelcome (id : String) (ledger : Nat) (member : String) : DecodedEvent where
  id := id
  ledger := ledger
  closedAt := 0
  contractId := "C"
  txHash := none
  symbol := "joined"
  topics := []
  data := [.str member, .str "100"]
  fields := [("member", .str member), ("fee", .str "100")]
  decodeError := none

/-- A log with some events, none of them folded. -/
def loggedDb (evs : List DecodedEvent) : Db where
  events := evs.foldl (fun events ev => events.insert ev.id (rawRow ev)) ∅

def welcomedDb : Db := (foldEvent (aWelcome "0001" 1 "GA")).after (loggedDb [aWelcome "0001" 1 "GA"])

/-- A notification is marked before a rebuild saves the flags. -/
def markedInbox : Inbox where
  db := (updateRead fun key row => key.2 = "GA" && !row.read).after welcomedDb
  marked := welcomedDb.tables.notifications.keys.filter (·.2 = "GA") ++ []

def savedInbox : Inbox := { markedInbox with rebuild := .saved [("0001", "GA")] }

def restoredInbox : Inbox := { markedInbox with db := (rebuildWith [("0001", "GA")] 1000).after markedInbox.db }

/-- It is read after the rebuild. -/
theorem reads_survive_marked_before :
    restoredInbox.marked = [("0001", "GA")] ∧ restoredInbox.IsRead ("0001", "GA") := by
  have hmarked : markedInbox.marked = [("0001", "GA")] := by decide +kernel
  refine ⟨hmarked, ?_⟩
  obtain ⟨rows, hupdate⟩ := Tx.after_eq (updateRead fun key row => key.2 = "GA" && !row.read)
    welcomedDb rfl
  obtain ⟨summary, hrebuild⟩ := Tx.after_eq (rebuildWith [("0001", "GA")] 1000)
    markedInbox.db (by decide +kernel)
  have hthere : (markedInbox.notifications.lookup ("0001", "GA")).isSome := by decide +kernel
  have hagain : (restoredInbox.notifications.lookup ("0001", "GA")).isSome := by decide +kernel
  have hmark : Inbox.Step { db := welcomedDb } markedInbox := .readAll (fun _ h => by cases h) hupdate
  have hsave : markedInbox.Step savedInbox := by
    have hsaved : savedReads markedInbox.db.tables = [("0001", "GA")] := by decide +kernel
    have hstep := Inbox.Step.save (s := markedInbox) rfl
    rwa [hsaved] at hstep
  have htruncate : savedInbox.Step { savedInbox with rebuild := .truncated [("0001", "GA")] } := .truncate rfl
  have hcommit : Inbox.Step { savedInbox with rebuild := .truncated [("0001", "GA")] } restoredInbox :=
    .commit rfl hrebuild
  have htimely : ∀ s s' : Inbox, s.marked = [("0001", "GA")] → s'.marked = s.marked →
      (s'.notifications.lookup ("0001", "GA")).isSome → s.Timely s' := by
    intro s s' hs hs' hsome
    refine ⟨fun reads _ k hk => .inl (hs' ▸ hk), fun k hk => ?_⟩
    rw [hs, List.mem_singleton] at hk
    rw [hk]
    exact hsome
  refine (reads_survive_iff restoredInbox).1 welcomedDb (.tail (.tail (.tail (.tail .refl ⟨hmark, ?_⟩)
    ⟨hsave, htimely _ _ hmarked rfl hthere⟩) ⟨htruncate, htimely _ _ hmarked rfl hthere⟩)
    ⟨hcommit, htimely _ _ hmarked rfl hagain⟩) _ ?_
  · exact ⟨fun _ h => (by cases h), fun _ h => (by cases h)⟩
  · rw [show restoredInbox.marked = [("0001", "GA")] from hmarked]
    exact List.mem_singleton_self _

/-- A notification is marked between the statement that saves the flags and the lock. -/
theorem read_flag_lost : ∃ s, Relation.ReflTransGen Inbox.Step { db := welcomedDb } s ∧
    s.rebuild = .idle ∧ ("0001", "GA") ∈ s.marked ∧ ¬ s.IsRead ("0001", "GA") := by
  obtain ⟨rows, hupdate⟩ := Tx.after_eq (updateRead fun key row => key.2 = "GA" && !row.read)
    welcomedDb rfl
  obtain ⟨summary, hrebuild⟩ := Tx.after_eq (rebuildWith [] 1000)
    ((updateRead fun key row => key.2 = "GA" && !row.read).after welcomedDb) (by decide +kernel)
  have hsaved : savedReads welcomedDb.tables = [] := by decide +kernel
  have hmarked : ("0001", "GA") ∈ welcomedDb.tables.notifications.keys.filter (·.2 = "GA") := by decide +kernel
  have hsave : Inbox.Step { db := welcomedDb } { db := welcomedDb, rebuild := .saved [] } := by
    have hstep := Inbox.Step.save (s := { db := welcomedDb }) rfl
    rwa [hsaved] at hstep
  refine ⟨_, .tail (.tail (.tail (.tail .refl hsave) (.readAll (by simp [Inbox.Unlocked]) hupdate))
    (.truncate rfl)) (.commit rfl hrebuild), rfl, List.mem_append_left _ hmarked, ?_⟩
  rintro ⟨row, hrow, hread⟩
  have hmem := (lookup_rebuildWith hrebuild hrow).mp hread
  cases hmem

/-- Every notification has an id of its own, that the sequence has given out. -/
structure IdsFresh (t : Tables) : Prop where
  given : ∀ k row, t.notifications.lookup k = some row → row.id ≤ t.sequences.notifications
  unique : ∀ k k' row row', t.notifications.lookup k = some row → t.notifications.lookup k' = some row' →
    row.id = row'.id → k = k'

theorem idsFresh_empty : IdsFresh Tables.empty := ⟨by simp [Tables.empty], by simp [Tables.empty]⟩

theorem applyEvent_idsFresh {ev : DecodedEvent} : Preserves IdsFresh (applyEvent ev) := by
  refine (statements_notifications (fun t t' hsame hseq h => ?_) ?_).applyEvent (.refl ev) fun _ _ => trivial
  · exact ⟨fun k row => by rw [hsame, hseq]; exact h.given k row, fun k k' row row' => by
      rw [hsame]; exact h.unique k k' row row'⟩
  · intro id address newRow hrow _ t a t' h hI
    cases h
    dsimp only
    split
    · exact ⟨fun k row hk => Nat.le_succ_of_le (hI.given k row hk), hI.unique⟩
    · have hid : ∀ i, (newRow i).id = i := fun i => by rw [hrow]
      refine ⟨fun k row hk => ?_, fun k k' row row' hk hk' heq => ?_⟩
      · dsimp only at hk
        rw [Table.lookup_insert] at hk
        split at hk
        · cases hk
          rw [hid]
        · exact Nat.le_succ_of_le (hI.given k row hk)
      · dsimp only at hk hk'
        rw [Table.lookup_insert] at hk hk'
        split at hk <;> split at hk'
        · exact ‹k = _›.trans (‹k' = _›).symm
        · cases hk
          have hbound := hI.given k' row' hk'
          rw [hid] at heq
          omega
        · cases hk'
          have hbound := hI.given k row hk
          rw [hid] at heq
          omega
        · exact hI.unique k k' row row' hk hk' heq

theorem foldTables_idsFresh {evs : List DecodedEvent} {t t' : Tables} (h : foldTables evs t = .ok t')
    (ht : IdsFresh t) : IdsFresh t' := by
  induction evs generalizing t with
  | nil =>
    cases h
    exact ht
  | cons ev evs ih =>
    obtain ⟨channels, t₁, h₁, h₂⟩ := foldTables_cons_ok.mp h
    exact ih h₂ (applyEvent_idsFresh _ _ _ h₁ ht)

/-- Rewriting read flags in place. -/
theorem IdsFresh.mapped {t t' : Tables} (h : IdsFresh t) (f : String × String → NotificationRow → NotificationRow)
    (hf : ∀ k row, (f k row).id = row.id) (hseq : t'.sequences = t.sequences)
    (hlookup : ∀ k, t'.notifications.lookup k = (t.notifications.lookup k).map (f k)) : IdsFresh t' := by
  refine ⟨fun k row hk => ?_, fun k k' row row' hk hk' heq => ?_⟩
  · rw [hlookup, Option.map_eq_some_iff] at hk
    obtain ⟨row₀, hrow₀, rfl⟩ := hk
    rw [hf, hseq]
    exact h.given k row₀ hrow₀
  · rw [hlookup, Option.map_eq_some_iff] at hk hk'
    obtain ⟨row₀, hrow₀, rfl⟩ := hk
    obtain ⟨row₀', hrow₀', rfl⟩ := hk'
    rw [hf, hf] at heq
    exact h.unique k k' row₀ row₀' hrow₀ hrow₀' heq

theorem updateRead_idsFresh {p : String × String → NotificationRow → Bool} {db db' : Db}
    {rows : List ((String × String) × NotificationRow)} (h : updateRead p db = .ok (rows, db'))
    (ht : IdsFresh db.tables) : IdsFresh db'.tables := by
  refine ht.mapped (fun k row => if p k row then { row with read := true } else row) (fun k row => ?_) ?_
    fun k => lookup_updateRead h
  · split <;> rfl
  · cases h
    rfl

theorem rebuildWith_idsFresh {reads : List (String × String)} {batchSize : Int} {summary : Rebuilt}
    {db db' : Db} (h : rebuildWith reads batchSize db = .ok (summary, db')) : IdsFresh db'.tables := by
  obtain ⟨evs, t, -, hfold, -, rfl⟩ := rebuildWith_eq_ok h
  refine (foldTables_idsFresh hfold idsFresh_empty).mapped
    (fun k row => if k ∈ reads then { row with read := true } else row) (fun k row => ?_) rfl
    fun k => lookup_restoreReads reads
  split <;> rfl

/-- A request that passes the check has found its caller's row. -/
theorem PatchRequest.check_eq_checked {r : PatchRequest} {found : Option ((String × String) × NotificationRow)}
    {db db' : Db} {key : String × String} (h : selectNotification r.id db = .ok (found, db'))
    (hphase : (r.check found).phase = .checked key) :
    key.2 = (r.check found).address ∧
      ∃ row, db.tables.notifications.lookup key = some row ∧ row.id = (r.check found).id := by
  cases h
  rcases hfound : (Table.rows db.tables.notifications).find? fun row => row.2.id = r.id with _ | ⟨key', row⟩ <;>
    rw [hfound] at hphase ⊢
  · cases hphase
  · by_cases haddress : key'.2 = r.address
    · have hcheck : r.check (some (key', row)) = { r with phase := .checked key' } :=
        if_neg (not_not.mpr haddress)
      rw [hcheck] at hphase ⊢
      cases hphase
      have hmem := Table.mem_rows.mp (List.mem_of_find?_eq_some hfound)
      exact ⟨haddress, row, hmem, by simpa using List.find?_some hfound⟩
    · have hcheck : r.check (some (key', row)) = { r with phase := .done } := if_pos haddress
      rw [hcheck] at hphase
      cases hphase

namespace Inbox

variable {s s' : Inbox} {k : String × String}

/-- A request that has passed the check names its caller's notification by the id it has now. -/
structure Owned (s : Inbox) : Prop where
  fresh : IdsFresh s.db.tables
  checked : ∀ rid r key, s.requests.lookup rid = some r → r.phase = .checked key →
    key.2 = r.address ∧ ∃ row, s.notifications.lookup key = some row ∧ row.id = r.id

/-- The notifications that requests have checked keep their ids. -/
def KeepsChecked (s s' : Inbox) : Prop :=
  ∀ rid r key row, s.requests.lookup rid = some r → r.phase = .checked key →
    s.notifications.lookup key = some row → ∃ row', s'.notifications.lookup key = some row' ∧ row'.id = row.id

/-- A step of a run that keeps the ids of what was checked. -/
def Kept (s s' : Inbox) : Prop := s.Step s' ∧ s.KeepsChecked s'

/-- Nothing but the commit of a rebuild gives a notification another id. -/
theorem Step.keepsChecked (hstep : s.Step s') (hlock : s.Unlocked) : s.KeepsChecked s' := by
  intro rid r key row hr hphase hrow
  cases hstep with
  | fold hidle hfold =>
    obtain ⟨tables, happly, rfl⟩ := foldEvent_eq_ok.mp hfold
    exact ⟨row, applyEvent_keeps_notification _ _ _ happly hrow, rfl⟩
  | others hsame => exact ⟨row, by rw [notifications, hsame]; exact hrow, rfl⟩
  | receive id address hnew => exact ⟨row, hrow, rfl⟩
  | select hunlocked hr' hphase' hselect =>
    cases hselect
    exact ⟨row, hrow, rfl⟩
  | update hunlocked hr' hphase' hupdate =>
    rw [notifications] at hrow
    refine ⟨_, by rw [notifications, lookup_updateRead hupdate, hrow]; rfl, ?_⟩
    dsimp only
    split <;> rfl
  | readAll hunlocked hupdate =>
    rw [notifications] at hrow
    refine ⟨_, by rw [notifications, lookup_updateRead hupdate, hrow]; rfl, ?_⟩
    dsimp only
    split <;> rfl
  | save hidle => exact ⟨row, hrow, rfl⟩
  | truncate hsaved => exact ⟨row, hrow, rfl⟩
  | commit htruncated hrebuild => exact absurd htruncated (hlock _)
  | abort => exact ⟨row, hrow, rfl⟩

theorem Owned.step (h : s.Owned) (hstep : s.Step s') (hkeeps : s.KeepsChecked s') : s'.Owned := by
  -- the requests that had passed the check before
  have hold : ∀ rid r key, s.requests.lookup rid = some r → r.phase = .checked key →
      key.2 = r.address ∧ ∃ row, s'.notifications.lookup key = some row ∧ row.id = r.id := by
    intro rid r key hr hphase
    obtain ⟨haddress, row, hrow, hid⟩ := h.checked rid r key hr hphase
    obtain ⟨row', hrow', hid'⟩ := hkeeps rid r key row hr hphase hrow
    exact ⟨haddress, row', hrow', hid'.trans hid⟩
  cases hstep with
  | fold hidle hfold =>
    obtain ⟨tables, happly, rfl⟩ := foldEvent_eq_ok.mp hfold
    exact ⟨applyEvent_idsFresh _ _ _ happly h.fresh, hold⟩
  | others hsame => exact ⟨by rw [hsame]; exact h.fresh, hold⟩
  | @receive rid id address hnew =>
    refine ⟨h.fresh, fun rid' r key hr hphase => ?_⟩
    dsimp only at hr
    rw [Table.lookup_insert] at hr
    split at hr
    · cases hr
      cases hphase
    · exact hold rid' r key hr hphase
  | @select rid r found db hlock hr hphase hselect =>
    refine ⟨by cases hselect; exact h.fresh, fun rid' r' key hr' hphase' => ?_⟩
    dsimp only at hr'
    rw [Table.lookup_insert] at hr'
    split at hr'
    · cases hr'
      have hchecked := PatchRequest.check_eq_checked hselect hphase'
      cases hselect
      exact hchecked
    · exact hold rid' r' key hr' hphase'
  | @update rid r key₀ db rows hlock hr hphase hupdate =>
    refine ⟨updateRead_idsFresh hupdate h.fresh, fun rid' r' key hr' hphase' => ?_⟩
    dsimp only at hr'
    rw [Table.lookup_insert] at hr'
    split at hr'
    · cases hr'
      cases hphase'
    · exact hold rid' r' key hr' hphase'
  | readAll hlock hupdate => exact ⟨updateRead_idsFresh hupdate h.fresh, hold⟩
  | save hidle => exact ⟨h.fresh, hold⟩
  | truncate hsaved => exact ⟨h.fresh, hold⟩
  | commit htruncated hrebuild => exact ⟨rebuildWith_idsFresh hrebuild, hold⟩
  | abort => exact ⟨h.fresh, hold⟩

theorem owned (hrun : Relation.ReflTransGen Kept {} s) : s.Owned := by
  induction hrun with
  | refl => exact ⟨idsFresh_empty, by simp⟩
  | tail _ hstep ih => exact ih.step hstep.1 hstep.2

end Inbox

/-- **Marking one notification touches the caller's only** in every run in which no rebuild that
commits between a request's check and its update gives the checked notification another id, or
drops it; no other step can. -/
theorem patch_touches_own (s : Inbox) :
    (∀ (rid : Nat) (r : PatchRequest) (key : String × String) (db : Db)
      (rows : List ((String × String) × NotificationRow)),
      Relation.ReflTransGen Inbox.Kept {} s →
      s.requests.lookup rid = some r → r.phase = .checked key →
      updateRead (fun _ row => row.id = r.id) s.db = .ok (rows, db) →
      ∀ k row row', s.notifications.lookup k = some row → db.tables.notifications.lookup k = some row' →
        row'.read ≠ row.read → k.2 = r.address) ∧
    ∀ s' : Inbox, s.Step s' → s.Unlocked → s.KeepsChecked s' := by
  refine ⟨?_, fun _ hstep hlock => hstep.keepsChecked hlock⟩
  intro rid r key db rows hrun hr hphase hupdate k row row' hrow hrow' hchanged
  have howned := Inbox.owned hrun
  obtain ⟨haddress, checkedRow, hchecked, hid⟩ := howned.checked rid r key hr hphase
  rw [Inbox.notifications] at hrow hchecked
  rw [lookup_updateRead hupdate, hrow] at hrow'
  have hmatch : row.id = r.id := by
    by_contra hne
    simp only [Option.map_some, hne, decide_false, Bool.false_eq_true, if_false, Option.some.injEq] at hrow'
    exact hchanged (by rw [hrow'])
  rw [howned.fresh.unique k key row checkedRow hrow hchecked (hmatch.trans hid.symm), haddress]

def twoWelcomes : Db := loggedDb [aWelcome "0001" 1 "GA", aWelcome "0002" 2 "GB"]

/-- The second event is folded first, and a rebuild numbers the notifications the other way. -/
def secondDb : Db := (foldEvent (aWelcome "0002" 2 "GB")).after twoWelcomes

def swappedDb : Db := (foldEvent (aWelcome "0001" 1 "GA")).after secondDb

def renumberedDb : Db := (rebuildWith [] 1000).after swappedDb

def welcomeRow (id ledger : Nat) : NotificationRow where
  id := id
  type := .success
  title := "Welcome to OurDAO"
  message := "Your membership is active."
  ledger := ledger
  tx_hash := none

def swappedInbox : Inbox := { db := swappedDb }

theorem Inbox.Step.kept {s s' : Inbox} (h : s.Step s') (hidle : s.rebuild = .idle) : s.Kept s' :=
  ⟨h, h.keepsChecked fun _ htruncated => by rw [hidle] at htruncated; cases htruncated⟩

theorem swappedInbox_reachable : Relation.ReflTransGen Inbox.Kept {} swappedInbox := by
  obtain ⟨channels₂, hsecond⟩ := Tx.after_eq (foldEvent (aWelcome "0002" 2 "GB"))
    twoWelcomes (by decide +kernel)
  obtain ⟨channels₁, hfirst⟩ := Tx.after_eq (foldEvent (aWelcome "0001" 1 "GA"))
    secondDb (by decide +kernel)
  have hlogged : Inbox.Step {} { db := twoWelcomes } := .others rfl
  have hfolded : Inbox.Step { db := twoWelcomes } { db := secondDb } := .fold rfl hsecond
  have hreplayed : Inbox.Step { db := secondDb } swappedInbox := .fold rfl hfirst
  exact .tail (.tail (.tail .refl (hlogged.kept rfl)) (hfolded.kept rfl)) (hreplayed.kept rfl)

/-- A request of `GB` that has passed the check, before a rebuild and after it. -/
def checkedInbox : Inbox where
  db := swappedDb
  requests := (AList.insert 0 { id := 1, address := "GB" } ∅).insert 0
    { id := 1, address := "GB", phase := .checked ("0002", "GB") }

def renumberedInbox : Inbox := { checkedInbox with db := renumberedDb }

theorem checkedInbox_reachable : Relation.ReflTransGen Inbox.Kept {} checkedInbox := by
  have hfound : (Table.rows swappedDb.tables.notifications).find? (fun r => decide (r.2.id = 1)) =
      some (("0002", "GB"), welcomeRow 1 2) := by decide +kernel
  have hselect : selectNotification 1 swappedDb =
      .ok (some (("0002", "GB"), welcomeRow 1 2), swappedDb) := by
    rw [selectNotification, hfound]
  have hreceived : swappedInbox.Step { swappedInbox with
      requests := AList.insert 0 { id := 1, address := "GB" } ∅ } := .receive 1 "GB" rfl
  have hlock : Inbox.Unlocked { swappedInbox with requests := AList.insert 0 { id := 1, address := "GB" } ∅ } :=
    fun _ h => by cases h
  have hchecked : Inbox.Step { swappedInbox with requests := AList.insert 0 { id := 1, address := "GB" } ∅ }
      checkedInbox := .select hlock (AList.lookup_insert _) rfl hselect
  exact .tail (.tail swappedInbox_reachable (hreceived.kept rfl)) (hchecked.kept rfl)

/-- Without a rebuild in between, the update marks the caller's notification. -/
theorem patch_touches_own_notification : ∃ k row row',
    checkedInbox.notifications.lookup k = some row ∧
    ((updateRead fun _ row => row.id = 1).after swappedDb).tables.notifications.lookup k = some row' ∧
    row'.read ≠ row.read ∧ k.2 = "GB" := by
  have hrow : checkedInbox.notifications.lookup ("0002", "GB") = some (welcomeRow 1 2) := by decide +kernel
  obtain ⟨rows, hupdate⟩ := Tx.after_eq (updateRead fun _ row => row.id = 1) swappedDb rfl
  have hrow' : ((updateRead fun _ row => row.id = 1).after swappedDb).tables.notifications.lookup
      ("0002", "GB") = some { welcomeRow 1 2 with read := true } := by
    have hbefore : swappedDb.tables.notifications.lookup ("0002", "GB") = some (welcomeRow 1 2) := hrow
    rw [lookup_updateRead hupdate, hbefore]
    rfl
  refine ⟨_, _, _, hrow, hrow', by decide, ?_⟩
  exact (patch_touches_own checkedInbox).1 0 _ _ _ rows checkedInbox_reachable (AList.lookup_insert _) rfl
    hupdate _ _ _ hrow hrow' (by decide)

theorem renumberedInbox_reachable : Relation.ReflTransGen Inbox.Step {} renumberedInbox := by
  obtain ⟨summary, hrebuild⟩ := Tx.after_eq (rebuildWith [] 1000) swappedDb (by decide +kernel)
  have hsaved : savedReads checkedInbox.db.tables = [] := by decide +kernel
  have hsave : checkedInbox.Step { checkedInbox with rebuild := .saved [] } := by
    have hstep := Inbox.Step.save (s := checkedInbox) rfl
    rwa [hsaved] at hstep
  have htruncate : Inbox.Step { checkedInbox with rebuild := .saved [] }
      { checkedInbox with rebuild := .truncated [] } := .truncate rfl
  have hcommit : Inbox.Step { checkedInbox with rebuild := .truncated [] } renumberedInbox := .commit rfl hrebuild
  have hchecked : Relation.ReflTransGen Inbox.Step {} checkedInbox :=
    Relation.ReflTransGen.mono (show Inbox.Kept ≤ Inbox.Step from fun _ _ h => h.1) _ _ checkedInbox_reachable
  exact .tail (.tail (.tail hchecked hsave) htruncate) hcommit

/-- The caller's notification had the id when it was checked, and another's has it at the update. -/
theorem patch_touches_another : ∃ s rid r key db rows, Relation.ReflTransGen Inbox.Step {} s ∧
    s.requests.lookup rid = some r ∧ r.phase = .checked key ∧
    updateRead (fun _ row => row.id = r.id) s.db = .ok (rows, db) ∧
    ∃ k row row', s.notifications.lookup k = some row ∧ db.tables.notifications.lookup k = some row' ∧
      row'.read ≠ row.read ∧ k.2 ≠ r.address := by
  have hrow : renumberedDb.tables.notifications.lookup ("0001", "GA") = some (welcomeRow 1 1) := by
    decide +kernel
  obtain ⟨rows, hupdate⟩ := Tx.after_eq (updateRead fun _ row => row.id = 1) renumberedDb rfl
  refine ⟨renumberedInbox, 0, _, _, _, rows, renumberedInbox_reachable, AList.lookup_insert _, rfl, hupdate,
    ("0001", "GA"), welcomeRow 1 1, { welcomeRow 1 1 with read := true }, hrow, ?_, by decide, by decide⟩
  rw [lookup_updateRead hupdate, hrow]
  rfl

end OurDao
