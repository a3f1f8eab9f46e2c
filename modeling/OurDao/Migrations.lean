import Mathlib.Data.List.Sort
import OurDao.Runs
import OurDao.Runtime
import OurDao.Stream

/-!
# Migrations

`migrate` brings the database up to date when a process starts. Whether a database is new
it reads off the table of what has been applied, which it fills for a new database one
statement at a time. A process that dies on the way is started again on what it left.
-/

namespace OurDao

open Faults Op

structure MigrationFile where
  version : Int
  name : String
  deriving DecidableEq, Repr

def isLineTerminator (c : Char) : Bool := c = '\n' || c = '\r' || c = '\u2028' || c = '\u2029'

/-- `/^\d+_.*\.sql$/` -/
def isMigrationName (f : String) : Bool :=
  match f.toList.dropWhile Char.isDigit with
  | '_' :: rest =>
    f.toList.head?.any Char.isDigit && rest.all (!isLineTerminator ·) && ".sql".toList.isSuffixOf rest
  | _ => false

/-- The migrations among the entries of the directory, in the order of their versions. Versions
that a JavaScript number would round are beyond what the table can hold. -/
def migrationFiles (entries : List String) : List MigrationFile :=
  ((entries.filter isMigrationName).map fun f =>
    { version := (parseInt (String.ofList (f.toList.takeWhile (· ≠ '_')))).getD 0, name := f }).insertionSort
    (·.version ≤ ·.version)

/-- One turn of `assertNoDuplicateVersions`; an empty name counts as none. -/
def claimVersion (seenBy : Table Int String) (file : MigrationFile) : Except String (Table Int String) :=
  match (seenBy.lookup file.version).filter (· ≠ "") with
  | some prior =>
    .error s!"duplicate migration version {file.version}: {prior} and {file.name} both claim it"
  | none => .ok (seenBy.insert file.version file.name)

def assertNoDuplicateVersions (files : List MigrationFile) : Except String Unit := do
  let _ ← files.foldlM claimVersion ∅

/-- The directory may be missing. -/
def loadMigrationFiles (dir : Option (List String)) : Except String (List MigrationFile) :=
  match dir with
  | none => .ok []
  | some entries => do
    assertNoDuplicateVersions (migrationFiles entries)
    return migrationFiles entries

/-- What `migrate` reads and writes of a database. -/
structure MigrationDb where
  /-- none before `schema.sql` has created the table -/
  schema_migrations : Option (Table Int String) := none
  /-- the files whose SQL was executed; no statement reads it -/
  executed : List String := []

/-- The database as committed, and as the open transaction sees it. -/
structure MigrationSession (ρ : Type) where
  db : MigrationDb
  transaction : Option MigrationDb := none
  env : ρ

abbrev Migration (ρ : Type) : Type → Type := Op (MigrationSession ρ) Failure

namespace Migration

variable {ρ α : Type} (E : Environment ρ)

def await (m : Op ρ Failure α) : Migration ρ α := fun s => ((m s.env).1, { s with env := (m s.env).2 })

/-- A call that leaves the database alone. -/
abbrev call : Migration ρ Unit := await E.statement

def execute (statement : StateT MigrationDb (Except Failure) α) : Migration ρ α := fun s =>
  match statement (s.transaction.getD s.db), s.transaction with
  | .ok (a, db), some _ => (.done a, { s with transaction := some db })
  | .ok (a, db), none => (.done a, { s with db })
  | .error e, _ => (.raised e, s)

/-- A statement takes effect in the open transaction, or at once where there is none. -/
def query (statement : StateT MigrationDb (Except Failure) α) : Migration ρ α := do
  call E
  execute statement

/-- `BEGIN` -/
def openTransaction : Migration ρ Unit := do
  call E
  update fun s => { s with transaction := some s.db }

/-- `COMMIT` -/
def closeTransaction : Migration ρ Unit := do
  call E
  update fun s => { s with db := s.transaction.getD s.db, transaction := none }

/-- `ROLLBACK` -/
def rollback : Migration ρ Unit := do
  call E
  update fun s => { s with transaction := none }

/-- `try … finally` -/
def ensuring (cleanup : Migration ρ Unit) (body : Migration ρ α) : Migration ρ α := do
  let a ← tryCatch body fun err => do
    cleanup
    throw err
  cleanup
  return a

end Migration

namespace MigrationDb

/-- `schema.sql`, of which only the table of the migrations matters here. -/
def createTables : StateT MigrationDb (Except Failure) Unit := fun db =>
  .ok ((), { db with schema_migrations := some (db.schema_migrations.getD ∅) })

/-- `SELECT version FROM schema_migrations` -/
def selectVersions : StateT MigrationDb (Except Failure) (List Int) := fun db =>
  match db.schema_migrations with
  | none => .error (.error "relation \"schema_migrations\" does not exist")
  | some t => .ok (t.keys, db)

/-- The rows after `INSERT … ON CONFLICT (version) DO NOTHING`. -/
def record (t : Table Int String) (m : MigrationFile) : Table Int String :=
  if (t.lookup m.version).isSome then t else t.insert m.version m.name

/-- The `INSERT`; the column is an `INTEGER`. -/
def insertVersion (m : MigrationFile) : StateT MigrationDb (Except Failure) Unit := fun db =>
  match db.schema_migrations with
  | none => .error (.error "relation \"schema_migrations\" does not exist")
  | some t =>
    if m.version ≤ 2147483647 then .ok ((), { db with schema_migrations := some (record t m) })
    else .error (.error s!"value \"{m.version}\" is out of range for type integer")

/-- The SQL of the file. -/
def executeFile (m : MigrationFile) : StateT MigrationDb (Except Failure) Unit := fun db =>
  .ok ((), { db with executed := db.executed ++ [m.name] })

end MigrationDb

open Migration MigrationDb

variable {ρ : Type} (E : Environment ρ)

/-- Run one migration and record it, in a transaction of its own. -/
def applyMigration (m : MigrationFile) : Migration ρ Unit := do
  call E -- read the file
  openTransaction E
  tryCatch (do
    query E (executeFile m)
    query E (insertVersion m)
    closeTransaction E) fun err => do
      rollback E
      throw (.error s!"migration {m.name} failed: {err.message}")

/-- The loop over the migrations. -/
def applyMigrations (isFreshDatabase : Bool) : List Int → List MigrationFile → Migration ρ Unit
  | _, [] => pure ()
  | appliedVersions, m :: migrations =>
    if appliedVersions.contains m.version then applyMigrations isFreshDatabase appliedVersions migrations
    else do
      if isFreshDatabase then query E (insertVersion m) else applyMigration E m
      applyMigrations isFreshDatabase (m.version :: appliedVersions) migrations

/-- The part of `migrate` that the unlocking follows. -/
def migrateLocked (dir : Option (List String)) : Migration ρ Unit := do
  call E -- read schema.sql
  query E createTables
  call E -- read the directory
  match loadMigrationFiles dir with
  | .error message => throw (.error message)
  | .ok migrations =>
    if migrations.isEmpty then return ()
    else do
      let appliedVersions ← query E selectVersions
      applyMigrations E appliedVersions.isEmpty appliedVersions migrations

/-- The lock is one answer: whether it was free within the 30 seconds. -/
def migrate (dir : Option (List String)) : Migration ρ Unit := do
  call E -- connect
  let lockAcquired ← await E.pg_try_advisory_lock
  if !lockAcquired then
    throw (.error ("Failed to acquire migration lock within 30 seconds. Another migration may be in progress, " ++
      "or a previous migration process may have died while holding the lock. " ++
      "If you are certain no other migration is running, restart the database connection pool " ++
      "to clear stale session locks."))
  else do
    call E -- SET statement_timeout = 0
    -- RESET statement_timeout, and unlock
    ensuring (do call E; call E) (migrateLocked E dir)

/-- A process with a session of its own, on the database as committed. -/
def MigrationDb.boot (db : MigrationDb) (r : ρ) : MigrationSession ρ := { db, env := r }

/-- The database after a run, however it ended. -/
def leftBy (dir : Option (List String)) (db : MigrationDb) (r : ρ) : MigrationDb :=
  (migrate E dir (db.boot r)).2.db

/-- A database whose `schema_migrations` is as given, before any file was executed. -/
def MigrationDb.of (schema_migrations : Option (Table Int String)) : MigrationDb := { schema_migrations }

variable {files : List MigrationFile}

theorem claimVersion_eq_ok {seenBy t : Table Int String} {file : MigrationFile}
    (hseen : ∀ version prior, seenBy.lookup version = some prior → prior ≠ "") :
    claimVersion seenBy file = .ok t ↔
      seenBy.lookup file.version = none ∧ t = seenBy.insert file.version file.name := by
  rw [claimVersion]
  rcases h : seenBy.lookup file.version with _ | prior
  · simp [eq_comm]
  · have hprior := hseen _ _ h
    simp [Option.filter, hprior]

theorem foldlM_claimVersion {seenBy : Table Int String} (hnames : ∀ file ∈ files, file.name ≠ "")
    (hseen : ∀ version prior, seenBy.lookup version = some prior → prior ≠ "") :
    (∃ t, files.foldlM claimVersion seenBy = .ok t) ↔
      (∀ file ∈ files, seenBy.lookup file.version = none) ∧ (files.map MigrationFile.version).Nodup := by
  induction files generalizing seenBy with
  | nil => simp [pure, Except.pure]
  | cons file files ih =>
    rw [List.foldlM_cons, List.map_cons, List.nodup_cons]
    rcases h : claimVersion seenBy file with e | t
    · have hclaimed : seenBy.lookup file.version ≠ none := by
        intro hnone
        rw [(claimVersion_eq_ok hseen).mpr ⟨hnone, rfl⟩] at h
        cases h
      simp [bind, Except.bind, hclaimed]
    · obtain ⟨hnone, rfl⟩ := (claimVersion_eq_ok hseen).mp h
      have hseen' : ∀ version prior,
          (seenBy.insert file.version file.name).lookup version = some prior → prior ≠ "" := by
        intro version prior hprior
        rw [Table.lookup_insert] at hprior
        split at hprior
        · cases hprior
          exact hnames file (by simp)
        · exact hseen version prior hprior
      have hrest := ih (fun f hf => hnames f (by simp [hf])) hseen'
      simp only [bind, Except.bind, hrest, Table.lookup_insert]
      constructor
      · rintro ⟨hfree, hnodup⟩
        refine ⟨fun f hf => ?_, fun hmem => ?_, hnodup⟩
        · rcases List.mem_cons.mp hf with rfl | hf
          · exact hnone
          · have hf := hfree f hf
            split at hf
            · cases hf
            · exact hf
        · obtain ⟨f, hf, hv⟩ := List.mem_map.mp hmem
          have hf := hfree f hf
          simp [hv] at hf
      · rintro ⟨hfree, hnew, hnodup⟩
        refine ⟨fun f hf => ?_, hnodup⟩
        rw [if_neg fun hv => hnew (List.mem_map.mpr ⟨f, hf, hv⟩)]
        exact hfree f (by simp [hf])

/-- The check throws exactly where two files claim one version. -/
theorem assertNoDuplicateVersions_eq_ok (hnames : ∀ file ∈ files, file.name ≠ "") :
    assertNoDuplicateVersions files = .ok () ↔ (files.map MigrationFile.version).Nodup := by
  have h : (∃ t, files.foldlM claimVersion ∅ = .ok t) ↔ _ := foldlM_claimVersion hnames (by simp)
  simp only [AList.lookup_empty, implies_true, true_and] at h
  rw [assertNoDuplicateVersions, ← h]
  rcases files.foldlM claimVersion ∅ with e | t <;> simp [bind, Except.bind, pure, Except.pure]

theorem loadMigrationFiles_eq (dir : Option (List String)) :
    (((migrationFiles (dir.getD [])).map MigrationFile.version).Nodup ∧
        loadMigrationFiles dir = .ok (migrationFiles (dir.getD []))) ∨
      (¬ ((migrationFiles (dir.getD [])).map MigrationFile.version).Nodup ∧
        ∃ e, loadMigrationFiles dir = .error e) := by
  cases dir with
  | none => exact .inl ⟨List.nodup_nil, rfl⟩
  | some entries =>
    have hnames : ∀ file ∈ migrationFiles entries, file.name ≠ "" := by
      intro file hfile hname
      rw [migrationFiles, List.mem_insertionSort, List.mem_map] at hfile
      obtain ⟨f, hf, rfl⟩ := hfile
      have hmatches : isMigrationName f = true := (List.mem_filter.mp hf).2
      rw [show f = "" from hname] at hmatches
      revert hmatches
      decide
    have h := assertNoDuplicateVersions_eq_ok hnames
    rw [Option.getD_some, loadMigrationFiles]
    rcases hassert : assertNoDuplicateVersions (migrationFiles entries) with e | u <;> rw [hassert] at h
    · exact .inr ⟨by simpa using h, e, rfl⟩
    · exact .inl ⟨h.mp rfl, rfl⟩

namespace MigrationDb

variable {db : MigrationDb} {m m' : MigrationFile} {fresh : Bool}

def table (db : MigrationDb) : Table Int String := db.schema_migrations.getD ∅

def Applied (db : MigrationDb) (m : MigrationFile) : Prop := (db.table.lookup m.version).isSome

instance : Decidable (db.Applied m) := inferInstanceAs (Decidable (_ = true))

def isFresh (db : MigrationDb) : Bool := db.table.keys.isEmpty

/-- The database once its tables are there. -/
def created (db : MigrationDb) : MigrationDb := { db with schema_migrations := some db.table }

/-- The database after one more migration. -/
def apply (fresh : Bool) (db : MigrationDb) (m : MigrationFile) : MigrationDb :=
  if db.Applied m then db
  else { schema_migrations := some (db.table.insert m.version m.name),
         executed := if fresh then db.executed else db.executed ++ [m.name] }

/-- What a whole run over the files leaves of a database. -/
def migrated (db : MigrationDb) (files : List MigrationFile) : MigrationDb :=
  files.foldl (apply db.isFresh) db.created

@[simp] theorem table_created : db.created.table = db.table := rfl

theorem created_of_isSome (h : db.schema_migrations.isSome) : db.created = db := by
  obtain ⟨⟨t⟩, executed⟩ := db
  · cases h
  · rfl

theorem record_known {t : Table Int String} (h : (t.lookup m.version).isSome) : record t m = t := if_pos h

theorem record_new {t : Table Int String} (h : ¬ (t.lookup m.version).isSome) :
    record t m = t.insert m.version m.name := if_neg h

theorem isSome_lookup_record {t : Table Int String} {version : Int} :
    ((record t m).lookup version).isSome ↔ version = m.version ∨ (t.lookup version).isSome := by
  by_cases h : (t.lookup m.version).isSome
  · rw [record_known h]
    exact ⟨.inr, fun hv => hv.elim (fun hv => hv ▸ h) id⟩
  · rw [record_new h, Table.lookup_insert]
    by_cases hv : version = m.version <;> simp [hv]

theorem apply_of_applied (h : db.Applied m) : apply fresh db m = db := if_pos h

theorem table_apply : (apply fresh db m).table = record db.table m := by
  by_cases h : db.Applied m
  · rw [apply_of_applied h, record_known h]
  · rw [record_new h, apply, if_neg h]
    rfl

theorem applied_apply_iff : (apply fresh db m).Applied m' ↔ m'.version = m.version ∨ db.Applied m' := by
  rw [Applied, table_apply, isSome_lookup_record, Applied]

theorem isSome_apply (h : db.schema_migrations.isSome) : (apply fresh db m).schema_migrations.isSome := by
  by_cases ha : db.Applied m <;> simp [apply, ha, h]

theorem isSome_foldl (h : db.schema_migrations.isSome) :
    (files.foldl (apply fresh) db).schema_migrations.isSome := by
  induction files generalizing db with
  | nil => exact h
  | cons m files ih => exact ih (isSome_apply h)

theorem applied_foldl_iff :
    (files.foldl (apply fresh) db).Applied m ↔ (∃ m' ∈ files, m'.version = m.version) ∨ db.Applied m := by
  induction files generalizing db with
  | nil => simp
  | cons m' files ih =>
    rw [List.foldl_cons, ih, applied_apply_iff, ← or_assoc]
    simp [eq_comm, or_comm]

theorem table_foldl : (files.foldl (apply fresh) db).table = files.foldl record db.table := by
  induction files generalizing db with
  | nil => rfl
  | cons m files ih => rw [List.foldl_cons, ih, table_apply, List.foldl_cons]

/-- A fresh database executes nothing. -/
theorem executed_foldl_fresh : (files.foldl (apply true) db).executed = db.executed := by
  induction files generalizing db with
  | nil => rfl
  | cons m files ih =>
    rw [List.foldl_cons, ih]
    by_cases h : db.Applied m <;> simp [apply, h]

theorem executed_mono {name : String} (h : name ∈ db.executed) :
    name ∈ (files.foldl (apply fresh) db).executed := by
  induction files generalizing db with
  | nil => exact h
  | cons m files ih =>
    apply ih
    by_cases ha : db.Applied m <;> cases fresh <;> simp [apply, ha, h]

/-- Any other database executes what it has not applied. -/
theorem executed_of_not_applied (hm : m ∈ files) (h : ¬ db.Applied m)
    (hnodup : (files.map MigrationFile.version).Nodup) : m.name ∈ (files.foldl (apply false) db).executed := by
  induction files generalizing db with
  | nil => simp at hm
  | cons m' files ih =>
    rw [List.map_cons, List.nodup_cons] at hnodup
    rw [List.foldl_cons]
    rcases List.mem_cons.mp hm with rfl | hm
    · exact executed_mono (by simp [apply, h])
    · apply ih hm _ hnodup.2
      rw [applied_apply_iff, not_or]
      exact ⟨fun hv => hnodup.1 (List.mem_map.mpr ⟨m, hm, hv⟩), h⟩

theorem isFresh_iff : db.isFresh ↔ ∀ m, ¬ db.Applied m := by
  rw [isFresh, List.isEmpty_iff, List.eq_nil_iff_forall_not_mem]
  simp only [Applied, AList.lookup_isSome, AList.mem_keys]
  exact ⟨fun h m => h m.version, fun h v => h ⟨v, ""⟩⟩

/-- What is left of a fresh database is fresh as long as nothing is recorded. -/
theorem isFresh_left {n : Nat} (hfresh : db.isFresh) :
    ((files.take n).foldl (apply db.isFresh) db.created).isFresh ↔ n = 0 ∨ files = [] := by
  rw [← List.take_eq_nil_iff, isFresh_iff, List.eq_nil_iff_forall_not_mem]
  constructor
  · exact fun h m hm => h m (applied_foldl_iff.mpr (.inl ⟨m, hm, rfl⟩))
  · intro h m hm
    rcases applied_foldl_iff.mp hm with ⟨m', hm', -⟩ | hm
    · exact h m' hm'
    · exact isFresh_iff.mp hfresh m hm

/-- A file beyond the first `n` is not applied after them. -/
theorem not_applied_of_drop {n : Nat} (hfresh : db.isFresh) (hnodup : (files.map MigrationFile.version).Nodup)
    (hm : m ∈ files.drop n) : ¬ ((files.take n).foldl (apply fresh) db.created).Applied m := by
  rw [← List.take_append_drop n files, List.map_append, List.nodup_append] at hnodup
  intro happlied
  rcases applied_foldl_iff.mp happlied with ⟨m', hm', hv⟩ | happlied
  · exact hnodup.2.2 m'.version (List.mem_map_of_mem hm') m.version (List.mem_map_of_mem hm) hv
  · exact isFresh_iff.mp hfresh m happlied

/-- A run that goes over the files again, as it did the first time. -/
theorem migrated_foldl (n : Nat) (h : ((files.take n).foldl (apply db.isFresh) db.created).isFresh = db.isFresh) :
    migrated ((files.take n).foldl (apply db.isFresh) db.created) files = db.migrated files := by
  rw [migrated, migrated, h, created_of_isSome (isSome_foldl rfl)]
  have hskip : ∀ x m, x.Applied m → apply db.isFresh x m = x := fun _ _ => apply_of_applied
  exact Runs.resume hskip (fun _ _ => applied_apply_iff.mpr (.inl rfl))
    (fun _ _ _ h => applied_apply_iff.mpr (.inr h)) n

theorem table_migrated (n : Nat) :
    (migrated ((files.take n).foldl (apply db.isFresh) db.created) files).table = (db.migrated files).table := by
  rw [migrated, migrated, table_foldl, table_foldl, table_created, table_created, table_foldl, table_created]
  have hskip : ∀ (t : Table Int String) (m : MigrationFile), (t.lookup m.version).isSome → record t m = t :=
    fun _ _ => record_known
  exact Runs.resume hskip (fun _ _ => isSome_lookup_record.mpr (.inl rfl))
    (fun _ _ _ h => isSome_lookup_record.mpr (.inr h)) n

end MigrationDb

end OurDao
