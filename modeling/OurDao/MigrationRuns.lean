import OurDao.Migrations

/-!
# Migrations broken off and started again

A run on a new database that dies between two of its records leaves one that no longer
looks new. Everywhere else the next run ends as the first would have.
-/

namespace OurDao

open Faults Op Migration MigrationDb

variable {ρ : Type} (E : Environment ρ)

/-- The next `n` calls are all answered. -/
def Environment.answers : Nat → ρ → Bool
  | 0, _ => true
  | n + 1, r => (E.statement r).1 = .done () && Environment.answers n (E.statement r).2

/-- The connection and the lock are had, and the next `n` calls are all answered. -/
def Environment.answersLocked (n : Nat) (r : ρ) : Bool :=
  (E.statement r).1 = .done () && (E.pg_try_advisory_lock (E.statement r).2).1 = .done true &&
    E.answers n (E.pg_try_advisory_lock (E.statement r).2).2

/-- The versions are distinct, and the column can hold them. -/
def Fits (files : List MigrationFile) : Prop :=
  (files.map MigrationFile.version).Nodup ∧ ∀ m ∈ files, m.version ≤ 2147483647

variable {E} {α β : Type} {db : MigrationDb} {m : MigrationFile} {files : List MigrationFile} {fresh : Bool}
  {s : MigrationSession ρ}

theorem answers_of_le {n k : Nat} {r : ρ} (hn : n ≤ k) (h : E.answers k r) : E.answers n r := by
  induction n generalizing k r with
  | zero => rfl
  | succ n ih =>
    obtain ⟨k, rfl⟩ : ∃ k', k = k' + 1 := ⟨k - 1, by omega⟩
    simp only [Environment.answers, Bool.and_eq_true] at h ⊢
    exact ⟨h.1, ih (by omega) h.2⟩

theorem answersLocked_of_le {n k : Nat} {r : ρ} (hn : n ≤ k) (h : E.answersLocked k r) : E.answersLocked n r := by
  simp only [Environment.answersLocked, Bool.and_eq_true] at h ⊢
  exact ⟨h.1, answers_of_le hn h.2⟩

namespace Migration

/-- A call is answered and the run goes on, or the run ends there. -/
theorem await_bind (m : Op ρ Failure α) (f : α → Migration ρ β) (s : MigrationSession ρ) :
    (∃ a, (m s.env).1 = .done a ∧ (await m >>= f) s = f a { s with env := (m s.env).2 }) ∨
      ((∀ a, (m s.env).1 ≠ .done a) ∧ (∀ b, ((await m >>= f) s).1 ≠ .done b) ∧
        ((await m >>= f) s).2.db = s.db) := by
  rcases h : m s.env with ⟨a | e | _, r⟩ <;> simp [bind_run, await, h]

theorem execute_bind {statement : StateT MigrationDb (Except Failure) α} {a : α} {db' : MigrationDb}
    (f : α → Migration ρ β) (hs : s.transaction = none) (h : statement s.db = .ok (a, db')) :
    (execute statement >>= f) s = f a { s with db := db' } := by
  apply bind_done
  rw [execute, hs, Option.getD_none, h]

theorem query_bind (statement : StateT MigrationDb (Except Failure) α) (f : α → Migration ρ β) :
    query E statement >>= f = call E >>= fun _ => execute statement >>= f := bind_assoc _ _ _

end Migration

section

/-- In the middle of a migration: nothing is committed, and the transaction is at `x`. -/
def During (db : MigrationDb) (x : Option MigrationDb) (s : MigrationSession ρ) : Prop :=
  s.db = db ∧ s.transaction = x

/-- A turn of the loop: the migration is there, or the database is as it was. -/
def Turned (fresh : Bool) (db : MigrationDb) (m : MigrationFile) (o : Outcome Failure Unit)
    (s : MigrationSession ρ) : Prop :=
  (o = .done () ∧ During (apply fresh db m) none s ∧ m.version ≤ 2147483647) ∨ (o ≠ .done () ∧ s.db = db)

variable {x : Option MigrationDb}

theorem keeps_call : Keeps (During db x) (call E) := fun _ h => h

theorem ensures_query {y : MigrationDb} {statement : StateT MigrationDb (Except Failure) α} :
    Ensures (During db (some y)) (query E statement) fun o s =>
      s.db = db ∧ ∀ a, o = .done a → ∃ z, statement y = .ok (a, z) ∧ During db (some z) s := by
  refine Ensures.bind keeps_call (fun _ s hs => ?_) (fun _ s hs => ⟨hs.1, nofun⟩) fun s hs => ⟨hs.1, nofun⟩
  obtain ⟨hdb, hx⟩ := hs
  rw [execute, hx, Option.getD_some]
  rcases h : statement y with e | ⟨a, z⟩
  · exact ⟨hdb, nofun⟩
  · refine ⟨hdb, fun a' ha => ?_⟩
    cases ha
    exact ⟨z, rfl, hdb, rfl⟩

theorem insertVersion_eq_ok {db' : MigrationDb} {u : Unit} (h : insertVersion m db = .ok (u, db')) :
    m.version ≤ 2147483647 ∧ db' = { db with schema_migrations := some (record db.table m) } := by
  rw [insertVersion] at h
  split at h
  · cases h
  next t ht =>
    split at h
    next hmax =>
      cases h
      exact ⟨hmax, by rw [table, ht, Option.getD_some]⟩
    · cases h

theorem insertVersion_of_le (hsome : db.schema_migrations.isSome) (hmax : m.version ≤ 2147483647)
    (h : ¬ db.Applied m) : insertVersion m db = .ok ((), apply true db m) := by
  obtain ⟨t, ht⟩ := Option.isSome_iff_exists.mp hsome
  have htable : db.table = t := by rw [table, ht, Option.getD_some]
  simp only [insertVersion, ht, hmax, if_true, apply, h, if_false, ← htable]
  rw [record_new h]

theorem applyMigration_spec (h : ¬ db.Applied m) :
    Ensures (During db none) (applyMigration E m) (Turned false db m) := by
  have hraised : ∀ (e : Failure) (s : MigrationSession ρ), s.db = db → Turned false db m (.raised e) s :=
    fun _ _ hdb => .inr ⟨nofun, hdb⟩
  have hcrashed : ∀ s : MigrationSession ρ, s.db = db → Turned false db m .crashed s :=
    fun _ hdb => .inr ⟨nofun, hdb⟩
  have hopen : Ensures (During db none) (openTransaction E) fun o s =>
      s.db = db ∧ (o = .done () → During db (some db) s) := by
    refine Ensures.bind keeps_call (fun _ s hs => ?_) (fun _ s hs => ⟨hs.1, nofun⟩) fun s hs => ⟨hs.1, nofun⟩
    exact ⟨hs.1, fun _ => ⟨hs.1, congrArg some hs.1⟩⟩
  have hclose : ∀ y : MigrationDb, Ensures (During db (some y)) (closeTransaction E) fun o s =>
      (o = .done () ∧ During y none s) ∨ (o ≠ .done () ∧ s.db = db) := by
    intro y
    refine Ensures.bind keeps_call (fun _ s hs => ?_) (fun _ s hs => .inr ⟨nofun, hs.1⟩)
      fun s hs => .inr ⟨nofun, hs.1⟩
    obtain ⟨-, hx⟩ := hs
    simp [update, During, hx]
  have hrollback : ∀ e : Failure, Ensures (fun s : MigrationSession ρ => s.db = db) (do rollback E; throw e)
      (Turned false db m) := by
    intro e
    have hdone : Ensures (fun s : MigrationSession ρ => s.db = db) (rollback E) fun _ s => s.db = db :=
      Ensures.bind (R := fun _ s => s.db = db) (fun _ h => h) (fun _ _ h => h) (fun _ _ h => h) fun _ h => h
    exact Ensures.bind hdone (fun _ s hs => hraised e s hs) hraised hcrashed
  have hrecorded : { schema_migrations := some (record db.table m), executed := db.executed ++ [m.name] } =
      apply false db m := by simp [apply, h, record_new (show ¬ (db.table.lookup m.version).isSome from h)]
  have hbody : Ensures (During db (some db)) (do
      query E (executeFile m)
      query E (insertVersion m)
      closeTransaction E) (Turned false db m) := by
    refine Ensures.bind ensures_query (fun _ s hs => ?_) (fun e s hs => hraised e s hs.1) fun s hs => hcrashed s hs.1
    obtain ⟨y, hy, hs⟩ := hs.2 _ rfl
    cases hy
    refine Ensures.bind ensures_query (fun _ s hs => ?_) (fun e s hs => hraised e s hs.1)
      (fun s hs => hcrashed s hs.1) s hs
    obtain ⟨y, hy, hs⟩ := hs.2 _ rfl
    obtain ⟨hmax, rfl⟩ := insertVersion_eq_ok hy
    rcases hclose _ s hs with ⟨hdone, hs⟩ | hs
    · have hafter : During (apply false db m) none (closeTransaction E _).2 := hrecorded ▸ hs
      exact .inl ⟨hdone, hafter, hmax⟩
    · exact .inr hs
  refine Ensures.bind keeps_call (fun _ => ?_) (fun e s hs => hraised e s hs.1) fun s hs => hcrashed s hs.1
  refine Ensures.bind hopen (fun _ => ?_) (fun e s hs => hraised e s hs.1) fun s hs => hcrashed s hs.1
  refine Ensures.tryCatch (R := Turned false db m) (fun s hs => hbody s (hs.2 rfl)) (fun _ _ h => h)
    (fun e s hs => ?_) fun _ h => h
  rcases hs with ⟨hdone, -⟩ | ⟨-, hdb⟩
  · cases hdone
  · exact hrollback _ s hdb

/-- Of a fresh database the migration is only recorded. -/
theorem recordOnly_spec (hs : During db none s) (hsome : db.schema_migrations.isSome) (h : ¬ db.Applied m) :
    Turned true db m (query E (insertVersion m) s).1 (query E (insertVersion m) s).2 ∧
      (m.version ≤ 2147483647 → (query E (insertVersion m) s).2.env = (E.statement s.env).2 ∧
        ((query E (insertVersion m) s).1 = .done () ↔ (E.statement s.env).1 = .done ())) := by
  obtain ⟨rfl, hx⟩ := hs
  rcases hcall : E.statement s.env with ⟨a | e | _, r⟩
  · have hrun : query E (insertVersion m) s = execute (insertVersion m) { s with env := r } := by
      simp [query, bind_run, call, await, hcall]
    rw [hrun, execute, hx, Option.getD_none]
    by_cases hmax : m.version ≤ 2147483647
    · rw [insertVersion_of_le hsome hmax h]
      exact ⟨.inl ⟨rfl, ⟨rfl, rfl⟩, hmax⟩, fun _ => ⟨rfl, iff_of_true rfl rfl⟩⟩
    · rcases hinsert : insertVersion m s.db with e | ⟨u, db'⟩
      · exact ⟨.inr ⟨nofun, rfl⟩, fun h => absurd h hmax⟩
      · exact absurd (insertVersion_eq_ok hinsert).1 hmax
  · simp [query, bind_run, call, await, hcall, Turned]
  · simp [query, bind_run, call, await, hcall, Turned]

end

/-- How the loop over `files` ends: it got to the first `n` of them. -/
structure Looped (E : Environment ρ) (fresh : Bool) (files : List MigrationFile) (s : MigrationSession ρ)
    (o : Outcome Failure Unit × MigrationSession ρ) (n : Nat) : Prop where
  left : o.2.db = (files.take n).foldl (apply fresh) s.db
  whole : o.1 = .done () → files.length ≤ n ∧ ∀ m ∈ files, s.db.Applied m ∨ m.version ≤ 2147483647
  /-- one call is one record -/
  counted : fresh = true → (∀ m ∈ files, ¬ s.db.Applied m) → Fits files →
    ∀ j ≤ files.length, (E.answers j s.env ↔ j ≤ n)

theorem Looped.stopped {o : Outcome Failure Unit × MigrationSession ρ} (hdone : o.1 ≠ .done ()) (hdb : o.2.db = s.db)
    (hcall : fresh = true → m.version ≤ 2147483647 → (E.statement s.env).1 ≠ .done ()) :
    Looped E fresh (m :: files) s o 0 where
  left := hdb
  whole h := absurd h hdone
  counted hfresh _ hfits j _ := by
    have hnot := hcall hfresh (hfits.2 m (by simp))
    cases j with
    | zero => simp [Environment.answers]
    | succ j => simp [Environment.answers, hnot]

/-- One turn, and the rest of the loop after it. -/
theorem Looped.turn {step : Migration ρ Unit} {rest : Unit → Migration ρ Unit} (ha : ¬ s.db.Applied m)
    (hstep : Turned fresh s.db m (step s).1 (step s).2)
    (hcall : fresh = true → m.version ≤ 2147483647 → (step s).2.env = (E.statement s.env).2 ∧
      ((step s).1 = .done () ↔ (E.statement s.env).1 = .done ()))
    (hrest : ∀ s', During (apply fresh s.db m) none s' → ∃ n, Looped E fresh files s' (rest () s') n) :
    ∃ n, Looped E fresh (m :: files) s ((step >>= rest) s) n := by
  rcases hrun : step s with ⟨o, s'⟩
  rw [hrun] at hstep hcall
  dsimp only at hstep hcall
  rcases hstep with ⟨hdone, hs', hmax⟩ | ⟨hdone, hdb⟩
  · have hgo : (step >>= rest) s = rest () s' := bind_done (by rw [hrun, hdone])
    obtain ⟨n, h⟩ := hrest s' hs'
    rw [hgo]
    refine ⟨n + 1, ?_, fun hall => ?_, fun hfresh hnone hfits j hj => ?_⟩
    · rw [List.take_succ_cons, List.foldl_cons, ← hs'.1]
      exact h.left
    · obtain ⟨hlen, hsmall⟩ := h.whole hall
      refine ⟨by simpa using hlen, fun m' hm' => ?_⟩
      rcases List.mem_cons.mp hm' with rfl | hm'
      · exact .inr hmax
      · rcases hsmall m' hm' with hm' | hm'
        · rw [hs'.1, applied_apply_iff] at hm'
          rcases hm' with hv | hm'
          · exact .inr (by rw [hv]; exact hmax)
          · exact .inl hm'
        · exact .inr hm'
    · obtain ⟨hnodup, hsmall⟩ := hfits
      rw [List.map_cons, List.nodup_cons] at hnodup
      obtain ⟨henv, hanswer⟩ := hcall hfresh hmax
      have hrest := h.counted hfresh (fun m' hm' => ?_) ⟨hnodup.2, fun m' hm' => hsmall m' (by simp [hm'])⟩
      · cases j with
        | zero => simp [Environment.answers]
        | succ j =>
          have hj' := hrest j (by simpa using hj)
          rw [henv] at hj'
          simp [Environment.answers, hanswer.mp hdone, hj']
      · rw [hs'.1, applied_apply_iff, not_or]
        exact ⟨fun hv => hnodup.1 (List.mem_map.mpr ⟨m', hm', hv⟩), hnone m' (by simp [hm'])⟩
  · have hstop : ((step >>= rest) s).1 ≠ .done () ∧ ((step >>= rest) s).2 = s' := by
      rw [bind_run, hrun]
      cases o with
      | done a => exact absurd rfl hdone
      | raised e => exact ⟨nofun, rfl⟩
      | crashed => exact ⟨nofun, rfl⟩
    refine ⟨0, Looped.stopped hstop.1 (by rw [hstop.2]; exact hdb) fun hfresh hmax => ?_⟩
    exact fun hanswer => hdone ((hcall hfresh hmax).2.mpr hanswer)

theorem applyMigrations_looped (appliedVersions : List Int) (hx : s.transaction = none)
    (hsome : s.db.schema_migrations.isSome)
    (happlied : ∀ m ∈ files, m.version ∈ appliedVersions ↔ s.db.Applied m) :
    ∃ n, Looped E fresh files s (applyMigrations E fresh appliedVersions files s) n := by
  induction files generalizing appliedVersions s with
  | nil => exact ⟨0, rfl, fun _ => by simp, fun _ _ _ j hj => by simp_all [Environment.answers]⟩
  | cons m files ih =>
    have hhead := happlied m (by simp)
    rw [applyMigrations]
    by_cases ha : s.db.Applied m
    · -- recorded before: the loop goes on
      obtain ⟨n, h⟩ := ih appliedVersions hx hsome fun m' hm' => happlied m' (by simp [hm'])
      rw [if_pos (by simpa using hhead.mpr ha)]
      refine ⟨n + 1, ?_, fun hdone => ?_, fun _ hnone => absurd ha (hnone m (by simp))⟩
      · rw [List.take_succ_cons, List.foldl_cons, apply_of_applied ha]
        exact h.left
      · obtain ⟨hlen, hmax⟩ := h.whole hdone
        refine ⟨by simpa using hlen, fun m' hm' => ?_⟩
        rcases List.mem_cons.mp hm' with rfl | hm'
        · exact .inl ha
        · exact hmax m' hm'
    · rw [if_neg (by simpa using fun hm => ha (hhead.mp hm))]
      have hrest : ∀ s', During (apply fresh s.db m) none s' →
          ∃ n, Looped E fresh files s' (applyMigrations E fresh (m.version :: appliedVersions) files s') n := by
        rintro s' ⟨hdb, hx'⟩
        refine ih (m.version :: appliedVersions) hx' (hdb ▸ isSome_apply hsome) fun m' hm' => ?_
        rw [List.mem_cons, hdb, applied_apply_iff, happlied m' (by simp [hm'])]
      cases fresh with
      | true =>
        obtain ⟨hturn, hcall⟩ := recordOnly_spec (E := E) ⟨rfl, hx⟩ hsome ha
        exact Looped.turn ha hturn (fun _ => hcall) hrest
      | false => exact Looped.turn ha (applyMigration_spec ha s ⟨rfl, hx⟩) nofun hrest

/-- How a run on `db` ends that got to the first `n` files, where `answered j` says that `j` of
the calls of the loop are answered. -/
structure Got (db : MigrationDb) (files : List MigrationFile) (answered : Nat → Prop)
    (o : Outcome Failure Unit × MigrationSession ρ) (n : Nat) : Prop where
  left : n = 0 ∧ o.2.db = db ∨ o.2.db = (files.take n).foldl (apply db.isFresh) db.created
  whole : o.1 = .done () → (files.map MigrationFile.version).Nodup ∧
    (∀ m ∈ files, db.Applied m ∨ m.version ≤ 2147483647) ∧ o.2.db = db.migrated files
  counted : db.isFresh → Fits files → ∀ j, 1 ≤ j → j ≤ files.length → (answered j ↔ j ≤ n)

theorem Got.stopped {answered : Nat → Prop} {o : Outcome Failure Unit × MigrationSession ρ}
    (hdb : o.2.db = db ∨ o.2.db = db.created) (hdone : o.1 ≠ .done ())
    (hanswered : Fits files → ∀ j, 1 ≤ j → ¬ answered j) : Got db files answered o 0 where
  left := hdb.imp (fun h => ⟨rfl, h⟩) fun h => h
  whole h := absurd h hdone
  counted _ hfits j hj _ := iff_of_false (hanswered hfits j hj) (by omega)

theorem Got.await {answered : Nat → Prop} {r : ρ} {m : Op ρ Failure α} {f : α → Migration ρ Unit} (hr : s.env = r)
    (hdb : s.db = db ∨ s.db = db.created) (hstop : (∀ a, (m r).1 ≠ .done a) → ∀ j, 1 ≤ j → ¬ answered j)
    (h : ∀ a, (m r).1 = .done a → ∃ n, Got db files answered (f a { s with env := (m r).2 }) n) :
    ∃ n, Got db files answered ((Migration.await m >>= f) s) n := by
  subst hr
  rcases await_bind m f s with ⟨a, hdone, hrun⟩ | ⟨hnot, hdone, hsame⟩
  · rw [hrun]
    exact h a hdone
  · exact ⟨0, Got.stopped (by rw [hsame]; exact hdb) (hdone ()) fun _ => hstop hnot⟩

theorem Got.call {k : Nat} {r : ρ} {f : Unit → Migration ρ Unit} (hr : s.env = r)
    (hdb : s.db = db ∨ s.db = db.created)
    (h : ∃ n, Got db files (fun j => E.answers (k + j) (E.statement r).2)
      (f () { s with env := (E.statement r).2 }) n) :
    ∃ n, Got db files (fun j => E.answers (k + 1 + j) r) ((Migration.call E >>= f) s) n := by
  have hsucc : ∀ j, E.answers (k + 1 + j) r =
      ((E.statement r).1 = .done () && E.answers (k + j) (E.statement r).2) := by
    intro j
    rw [show k + 1 + j = k + j + 1 by omega, Environment.answers]
  simp only [hsucc]
  refine Got.await hr hdb (fun hnot j _ => ?_) fun a hdone => ?_
  · simp [hnot ()]
  · cases a
    simpa [hdone] using h

theorem Got.query {k : Nat} {r : ρ} {statement : StateT MigrationDb (Except Failure) α} {a : α} {db' : MigrationDb}
    {f : α → Migration ρ Unit} (hr : s.env = r) (hx : s.transaction = none) (hdb : s.db = db ∨ s.db = db.created)
    (hok : statement s.db = .ok (a, db'))
    (h : ∃ n, Got db files (fun j => E.answers (k + j) (E.statement r).2)
      (f a { s with db := db', env := (E.statement r).2 }) n) :
    ∃ n, Got db files (fun j => E.answers (k + 1 + j) r) ((Migration.query E statement >>= f) s) n := by
  rw [query_bind]
  refine Got.call hr hdb ?_
  have hrun : (execute statement >>= f) { s with env := (E.statement r).2 } =
      f a { s with db := db', env := (E.statement r).2 } := execute_bind f hx hok
  rw [hrun]
  exact h

theorem Looped.got {o : Outcome Failure Unit × MigrationSession ρ} {n : Nat} (hdb : s.db = db.created)
    (hnodup : (files.map MigrationFile.version).Nodup) (h : Looped E db.isFresh files s o n) :
    Got db files (fun j => E.answers (0 + j) s.env) o n where
  left := .inr (hdb ▸ h.left)
  whole hdone := by
    obtain ⟨hlen, hmax⟩ := h.whole hdone
    have hleft := h.left
    rw [hdb, List.take_of_length_le hlen] at hleft
    refine ⟨hnodup, fun m hm => ?_, hleft⟩
    have hm := hmax m hm
    rw [hdb] at hm
    exact hm
  counted hfresh hfits j _ hlen := by
    rw [Nat.zero_add]
    refine h.counted hfresh (fun m _ => ?_) hfits j hlen
    rw [hdb]
    exact isFresh_iff.mp hfresh m

theorem migrateLocked_got (dir : Option (List String)) (hx : s.transaction = none) :
    ∃ n, Got s.db (migrationFiles (dir.getD [])) (fun j => E.answers (4 + j) s.env) (migrateLocked E dir s) n := by
  rw [migrateLocked]
  refine Got.call rfl (.inl rfl) ?_
  refine Got.query rfl hx (.inl rfl) (show createTables s.db = .ok ((), s.db.created) from rfl) ?_
  refine Got.call rfl (.inr rfl) ?_
  rcases loadMigrationFiles_eq dir with ⟨hnodup, hload⟩ | ⟨hdup, e, hload⟩ <;> rw [hload] <;> dsimp only
  · by_cases hempty : (migrationFiles (dir.getD [])).isEmpty
    · rw [if_pos hempty, List.isEmpty_iff.mp hempty]
      exact ⟨0, .inr rfl, fun _ => ⟨List.nodup_nil, by simp, rfl⟩, fun _ _ j hj hlen => by simp at hlen; omega⟩
    · rw [if_neg hempty]
      have hselect : selectVersions s.db.created = .ok (s.db.table.keys, s.db.created) := rfl
      refine Got.query rfl hx (.inr rfl) hselect ?_
      have happlied : ∀ m ∈ migrationFiles (dir.getD []), m.version ∈ s.db.table.keys ↔ s.db.created.Applied m := by
        intro m _
        rw [Applied, AList.lookup_isSome, table_created, AList.mem_keys]
      obtain ⟨n, h⟩ : ∃ n, Looped E s.db.isFresh _ _ _ n := applyMigrations_looped
        (s := { db := s.db.created, transaction := s.transaction, env := _ }) s.db.table.keys hx rfl happlied
      exact ⟨n, h.got rfl hnodup⟩
  · exact ⟨0, Got.stopped (.inr rfl) (fun h => by cases h) fun hfits => absurd hfits.1 hdup⟩

/-- Cleaning up leaves the database alone, and does not make a run that failed into one that did not. -/
theorem ensuring_run (body : Migration ρ Unit) (s : MigrationSession ρ) :
    (ensuring (do call E; call E) body s).2.db = (body s).2.db ∧
      ((ensuring (do call E; call E) body s).1 = .done () → (body s).1 = .done ()) := by
  have hcall : ∀ P : Prop, Keeps (fun t : MigrationSession ρ => t.db = (body s).2.db ∧ P) (call E) := fun _ _ h => h
  have hcleanup := fun P => (hcall P).bind fun _ => hcall P
  have hcaught : Ensures (· = s) (tryCatch body fun err => do
      (do call E; call E)
      throw err) fun o t => t.db = (body s).2.db ∧ (o = .done () → (body s).1 = .done ()) := by
    refine Ensures.tryCatch (R := fun o t => t.db = (body s).2.db ∧ o = (body s).1) ?_ ?_ (fun e => ?_) ?_
    · rintro _ rfl
      exact ⟨rfl, rfl⟩
    · exact fun _ _ h => ⟨h.1, fun _ => h.2.symm⟩
    · exact Ensures.bind (hcleanup _) (fun _ _ h => ⟨h.1, nofun⟩) (fun _ _ h => ⟨h.1, nofun⟩)
        fun _ h => ⟨h.1, nofun⟩
    · exact fun _ h => ⟨h.1, nofun⟩
  have hall : Ensures (· = s) (ensuring (do call E; call E) body) fun o t =>
      t.db = (body s).2.db ∧ (o = .done () → (body s).1 = .done ()) := by
    refine Ensures.bind hcaught (fun _ => ?_) (fun _ _ h => ⟨h.1, nofun⟩) fun _ h => ⟨h.1, nofun⟩
    exact Ensures.bind (hcleanup _) (fun _ _ h => ⟨h.1, fun _ => h.2 rfl⟩) (fun _ _ h => ⟨h.1, nofun⟩)
      fun _ h => ⟨h.1, nofun⟩
  exact hall s rfl

theorem Got.ensuring {answered : Nat → Prop} {body : Migration ρ Unit} {n : Nat}
    (h : Got db files answered (body s) n) :
    Got db files answered (Migration.ensuring (do Migration.call E; Migration.call E) body s) n := by
  obtain ⟨hdb, hdone⟩ := ensuring_run (E := E) body s
  exact ⟨by rw [hdb]; exact h.left, fun hd => by rw [hdb]; exact h.whole (hdone hd), h.counted⟩

theorem migrate_got (dir : Option (List String)) (db : MigrationDb) (r : ρ) :
    ∃ n, Got db (migrationFiles (dir.getD [])) (fun j => E.answersLocked (5 + j) r)
      (migrate E dir (db.boot r)) n := by
  rw [migrate]
  simp only [Environment.answersLocked]
  refine Got.await (r := r) rfl (.inl rfl) (fun hnot j _ => ?_) fun a hcall => ?_
  · simp [hnot ()]
  cases a
  refine Got.await (r := (E.statement r).2) rfl (.inl rfl) (fun hnot j _ => ?_) fun locked hlock => ?_
  · simp [hnot true]
  simp only [hcall, hlock, decide_true, Bool.true_and]
  cases locked with
  | false => exact ⟨0, Got.stopped (.inl rfl) nofun fun _ j _ => by simp⟩
  | true =>
    refine Got.call rfl (.inl rfl) ?_
    obtain ⟨n, h⟩ := migrateLocked_got (E := E) (s := { db, env := _ }) dir rfl
    exact ⟨n, h.ensuring⟩

/-- Between two statements, in a transaction or not. -/
def Ready (inside : Bool) (s : MigrationSession ρ) : Prop :=
  s.transaction.isSome = inside ∧ s.db.schema_migrations.isSome ∧
    (s.transaction.getD s.db).schema_migrations.isSome

section

variable {inside : Bool} (hcall : ∀ r, (E.statement r).1 = .done ())

include hcall

theorem returns_call {P : MigrationSession ρ → Prop} (hP : ∀ s r, P s → P { s with env := r }) :
    Returns P (call E) fun _ => P := fun s hs => ⟨(), hcall s.env, hP s _ hs⟩

theorem returns_query {statement : StateT MigrationDb (Except Failure) α}
    (hok : ∀ x : MigrationDb, x.schema_migrations.isSome →
      ∃ a y, statement x = .ok (a, y) ∧ y.schema_migrations.isSome) :
    Returns (Ready inside) (query E statement) fun _ => Ready inside := by
  refine (returns_call hcall fun _ _ h => h).bind fun _ s hs => ?_
  obtain ⟨a, y, hy, hsome⟩ := hok _ hs.2.2
  rw [execute, hy]
  rcases hx : s.transaction with _ | x <;> refine ⟨a, rfl, ?_⟩ <;> simp_all [Ready]

theorem returns_insertVersion (hmax : m.version ≤ 2147483647) :
    Returns (Ready inside) (query E (insertVersion m)) fun _ => Ready inside := by
  refine returns_query hcall fun x hx => ?_
  obtain ⟨t, ht⟩ := Option.isSome_iff_exists.mp hx
  exact ⟨(), { x with schema_migrations := some (record t m) }, by simp [insertVersion, ht, hmax], rfl⟩

theorem returns_applyMigration (hmax : m.version ≤ 2147483647) :
    Returns (Ready false) (applyMigration E m) fun _ => Ready false := by
  have hopen : Returns (Ready false) (openTransaction E) fun _ => Ready true := by
    refine (returns_call hcall fun _ _ h => h).bind fun _ => returns_update fun s hs => ?_
    exact ⟨rfl, hs.2.1, hs.2.1⟩
  have hclose : Returns (Ready true) (closeTransaction E) fun _ => Ready false := by
    refine (returns_call hcall fun _ _ h => h).bind fun _ => returns_update fun s hs => ?_
    exact ⟨rfl, hs.2.2, hs.2.2⟩
  have hexecute : Returns (Ready true) (query E (executeFile m)) fun _ => Ready true :=
    returns_query hcall fun x hx => ⟨(), { x with executed := x.executed ++ [m.name] }, rfl, hx⟩
  refine (returns_call hcall fun _ _ h => h).bind fun _ => hopen.bind fun _ => Returns.tryCatch ?_
  exact hexecute.bind fun _ => (returns_insertVersion hcall hmax).bind fun _ => hclose

theorem returns_applyMigrations (hmax : ∀ m ∈ files, m.version ≤ 2147483647) (appliedVersions : List Int) :
    Returns (Ready false) (applyMigrations E fresh appliedVersions files) fun _ => Ready false := by
  induction files generalizing appliedVersions with
  | nil => exact returns_pure fun _ h => h
  | cons m files ih =>
    have hrest := ih fun m' hm' => hmax m' (by simp [hm'])
    have hm := hmax m (by simp)
    rw [applyMigrations]
    split
    · exact hrest appliedVersions
    · cases fresh with
      | true => exact (returns_insertVersion hcall hm).bind fun _ => hrest _
      | false => exact (returns_applyMigration hcall hm).bind fun _ => hrest _

theorem returns_migrateLocked {dir : Option (List String)} (hfits : Fits (migrationFiles (dir.getD []))) :
    Returns (fun s => s.transaction = none) (migrateLocked E dir) fun _ => Ready false := by
  have hload : loadMigrationFiles dir = .ok (migrationFiles (dir.getD [])) := by
    rcases loadMigrationFiles_eq dir with ⟨-, hload⟩ | ⟨hdup, -⟩
    · exact hload
    · exact absurd hfits.1 hdup
  have hcreate : Returns (fun s => s.transaction = none) (query E createTables) fun _ => Ready false := by
    refine (returns_call hcall fun _ _ h => h).bind fun _ s hs => ⟨(), ?_⟩
    rw [execute, show s.transaction = none from hs, Option.getD_none]
    exact ⟨rfl, rfl, rfl, rfl⟩
  have hselect : Returns (Ready false) (query E selectVersions) fun _ => Ready false := by
    refine returns_query hcall fun x hx => ?_
    obtain ⟨t, ht⟩ := Option.isSome_iff_exists.mp hx
    exact ⟨t.keys, x, by rw [selectVersions, ht], hx⟩
  rw [migrateLocked]
  refine (returns_call hcall fun _ _ h => h).bind fun _ => hcreate.bind fun _ =>
    (returns_call hcall fun _ _ h => h).bind fun _ => ?_
  rw [hload]
  dsimp only
  split
  · exact returns_pure fun _ h => h
  · exact hselect.bind fun _ => returns_applyMigrations hcall hfits.2 _

/-- Where the connection holds and the lock is free, migrations of distinct versions all go through. -/
theorem migrate_returns (hlock : ∀ r, (E.pg_try_advisory_lock r).1 = .done true) {dir : Option (List String)}
    (hfits : Fits (migrationFiles (dir.getD []))) (db : MigrationDb) (r : ρ) :
    (migrate E dir (db.boot r)).1 = .done () := by
  have hcleanup : Returns (Ready false) (do call E; call E) fun _ => Ready false :=
    (returns_call hcall fun _ _ h => h).bind fun _ => returns_call hcall fun _ _ h => h
  have hensuring : Returns (fun s => s.transaction = none) (ensuring (do call E; call E) (migrateLocked E dir))
      fun _ => Ready false :=
    (Returns.tryCatch (returns_migrateLocked hcall hfits)).bind fun _ =>
      hcleanup.bind fun _ => returns_pure fun _ h => h
  have hrun : Returns (fun s => s.transaction = none) (migrate E dir) fun _ => Ready false := by
    refine (returns_call hcall fun _ _ h => h).bind fun _ => ?_
    refine Returns.bind (R := fun locked s => locked = true ∧ s.transaction = none)
      (fun s hs => ⟨true, hlock s.env, rfl, hs⟩) fun locked s hs => ?_
    obtain ⟨rfl, hs⟩ := hs
    exact (returns_call hcall fun _ _ h => h).bind (fun _ => hensuring) s hs
  obtain ⟨u, hdone, -⟩ := hrun (db.boot r) rfl
  exact hdone

end

/-- A rerun ends as an uninterrupted run on the same `schema_migrations` does: the same rows, the
same files executed, and none where the database was new. -/
structure Resumed (schema_migrations : Option (Table Int String)) (rerun whole : MigrationDb) : Prop where
  rows : ∀ version, rerun.table.lookup version = whole.table.lookup version
  executed : ∀ name, name ∈ rerun.executed ↔ name ∈ whole.executed
  fresh : (MigrationDb.of schema_migrations).isFresh → ∀ name, name ∉ rerun.executed

theorem resumed_self {schema_migrations : Option (Table Int String)} :
    Resumed schema_migrations ((MigrationDb.of schema_migrations).migrated files)
      ((MigrationDb.of schema_migrations).migrated files) where
  rows _ := rfl
  executed _ := Iff.rfl
  fresh hfresh name := by
    rw [migrated, hfresh, executed_foldl_fresh]
    exact List.not_mem_nil

theorem resumed_iff {schema_migrations : Option (Table Int String)} {left : MigrationDb} {n : Nat}
    (hnodup : (files.map MigrationFile.version).Nodup)
    (hleft : n = 0 ∧ left = .of schema_migrations ∨ left = (files.take n).foldl
      (apply (MigrationDb.of schema_migrations).isFresh) (MigrationDb.of schema_migrations).created) :
    Resumed schema_migrations (left.migrated files) ((MigrationDb.of schema_migrations).migrated files) ↔
      ((MigrationDb.of schema_migrations).isFresh → n = 0 ∨ files.length ≤ n) := by
  rcases hleft with ⟨rfl, rfl⟩ | hleft
  · exact iff_of_true resumed_self fun _ => .inl rfl
  by_cases hsame : left.isFresh = (MigrationDb.of schema_migrations).isFresh
  · have hwhole : left.migrated files = (MigrationDb.of schema_migrations).migrated files := by
      rw [hleft] at hsame ⊢
      exact migrated_foldl n hsame
    rw [hwhole]
    refine iff_of_true resumed_self fun hfresh => ?_
    have hn : left.isFresh ↔ n = 0 ∨ files = [] := hleft ▸ isFresh_left hfresh
    rw [hsame] at hn
    rcases hn.mp hfresh with h | h
    · exact .inl h
    · exact .inr (by simp [h])
  · have hfresh : (MigrationDb.of schema_migrations).isFresh := by
      by_contra hold
      obtain ⟨m, hm⟩ : ∃ m, (MigrationDb.of schema_migrations).Applied m := by
        simpa [isFresh_iff] using hold
      have hm : left.Applied m := hleft ▸ applied_foldl_iff.mpr (.inr hm)
      have hnew : ¬ left.isFresh := fun h => isFresh_iff.mp h m hm
      exact hsame (by simp_all)
    have hstale : left.isFresh = false := by simpa [hfresh] using hsame
    constructor
    · intro h _
      by_contra hn
      obtain ⟨m, hm⟩ : ∃ m, m ∈ files.drop n := List.exists_mem_of_ne_nil _ (by simp; omega)
      have hnew : ¬ left.Applied m := hleft ▸ not_applied_of_drop hfresh hnodup hm
      refine h.fresh hfresh m.name ?_
      rw [migrated, hstale]
      exact executed_of_not_applied (List.mem_of_mem_drop hm) hnew hnodup
    · intro h
      have hlen : files.length ≤ n := by
        rcases h hfresh with rfl | hlen
        · exact absurd (hleft ▸ (isFresh_left hfresh).mpr (.inl rfl)) (by simp [hstale])
        · exact hlen
      have hwhole : left.migrated files = (MigrationDb.of schema_migrations).migrated files := by
        rw [List.take_of_length_le hlen] at hleft
        have hskip : ∀ x m, x.Applied m → apply left.isFresh x m = x := fun _ _ => apply_of_applied
        rw [migrated, Runs.foldl_settled hskip, created_of_isSome, hleft]
        · rfl
        · exact hleft ▸ isSome_foldl rfl
        · exact fun m hm => hleft ▸ applied_foldl_iff.mpr (.inl ⟨m, hm, rfl⟩)
      rw [hwhole]
      exact resumed_self

section

variable {ρ' ρ'' : Type} {E' : Environment ρ'} {E'' : Environment ρ''} {dir : Option (List String)}
  {schema_migrations : Option (Table Int String)} {r : ρ} {r' : ρ'} {r'' : ρ''}

/-- Wherever a run is broken off, the next one records what it would have recorded. -/
theorem migrate_rows
    (hrerun : (migrate E' dir ((leftBy E dir (.of schema_migrations) r).boot r')).1 = .done ())
    (hwhole : (migrate E'' dir ((MigrationDb.of schema_migrations).boot r'')).1 = .done ()) :
    (leftBy E' dir (leftBy E dir (.of schema_migrations) r) r').table =
      (leftBy E'' dir (.of schema_migrations) r'').table := by
  obtain ⟨n, hleft, -, -⟩ := migrate_got (E := E) dir (.of schema_migrations) r
  obtain ⟨-, -, hrerun', -⟩ := migrate_got (E := E') dir (leftBy E dir (.of schema_migrations) r) r'
  obtain ⟨-, -, hwhole', -⟩ := migrate_got (E := E'') dir (.of schema_migrations) r''
  rw [leftBy, (hrerun' hrerun).2.2, leftBy, leftBy, (hwhole' hwhole).2.2]
  rcases hleft with ⟨-, hleft⟩ | hleft
  · rw [hleft]
  · rw [hleft, table_migrated]

/-- A migration that is broken off is taken up again as it should be unless the database was new
and the first record was written, but not the last. -/
theorem migrate_resumes
    (hrerun : (migrate E' dir ((leftBy E dir (.of schema_migrations) r).boot r')).1 = .done ())
    (hwhole : (migrate E'' dir ((MigrationDb.of schema_migrations).boot r'')).1 = .done ()) :
    Resumed schema_migrations (leftBy E' dir (leftBy E dir (.of schema_migrations) r) r')
        (leftBy E'' dir (.of schema_migrations) r'') ↔
      ((MigrationDb.of schema_migrations).isFresh → E.answersLocked 6 r →
        E.answersLocked (5 + (migrationFiles (dir.getD [])).length) r) := by
  obtain ⟨n, hleft, -, hcounted⟩ := migrate_got (E := E) dir (.of schema_migrations) r
  obtain ⟨-, -, hrerun', -⟩ := migrate_got (E := E') dir (leftBy E dir (.of schema_migrations) r) r'
  obtain ⟨-, -, hwhole', -⟩ := migrate_got (E := E'') dir (.of schema_migrations) r''
  obtain ⟨hnodup, hsmall, hwhole⟩ := hwhole' hwhole
  have hrerun : leftBy E' dir (leftBy E dir (.of schema_migrations) r) r' = _ := (hrerun' hrerun).2.2
  rw [hrerun, leftBy, leftBy, hwhole, resumed_iff hnodup hleft]
  refine forall_congr' fun hfresh => ?_
  have hfits : Fits (migrationFiles (dir.getD [])) :=
    ⟨hnodup, fun m hm => (hsmall m hm).resolve_left (isFresh_iff.mp hfresh m)⟩
  by_cases hlen : (migrationFiles (dir.getD [])).length = 0
  · refine iff_of_true (.inr (by omega)) fun h => ?_
    rw [hlen]
    exact answersLocked_of_le (by omega) h
  · rw [hcounted hfresh hfits 1 (by omega) (by omega), hcounted hfresh hfits _ (by omega) (le_refl _)]
    omega

end

/-- A directory of two migrations. -/
def twoMigrations : Option (List String) := some ["0002_tags.sql", "0001_users.sql"]

/-- A process that dies with call number `n`. -/
def dyingAt (n : Nat) : Environment Nat := .scripted fun k => if k = n then .crashed else .done ()

/-- It dies before the first record. -/
theorem migrate_resumes_unrecorded :
    Resumed none (leftBy .healthy twoMigrations (leftBy (dyingAt 6) twoMigrations (.of none) 0) 0)
      (leftBy .healthy twoMigrations (.of none) 0) :=
  (migrate_resumes (by decide +kernel) (by decide +kernel)).mpr (by decide +kernel)

/-- It dies after the first record. The rerun takes the database for an old one and executes what
its tables already have. -/
theorem migrate_executes_after_crash :
    (migrate .healthy twoMigrations ((leftBy (dyingAt 7) twoMigrations (.of none) 0).boot 0)).1 = .done () ∧
      (migrate .healthy twoMigrations ((MigrationDb.of none).boot 0)).1 = .done () ∧
      (leftBy .healthy twoMigrations (.of none) 0).executed = [] ∧
      (leftBy .healthy twoMigrations (leftBy (dyingAt 7) twoMigrations (.of none) 0) 0).executed =
        ["0002_tags.sql"] ∧
      ¬ Resumed none (leftBy .healthy twoMigrations (leftBy (dyingAt 7) twoMigrations (.of none) 0) 0)
        (leftBy .healthy twoMigrations (.of none) 0) := by
  have hrerun : (leftBy .healthy twoMigrations
      (leftBy (dyingAt 7) twoMigrations (.of none) 0) 0).executed = ["0002_tags.sql"] := by decide +kernel
  refine ⟨by decide +kernel, by decide +kernel, by decide +kernel, hrerun, fun h => ?_⟩
  exact h.fresh (by decide) "0002_tags.sql" (by simp [hrerun])

end OurDao
