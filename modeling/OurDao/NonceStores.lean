import OurDao.Auth
import OurDao.Runs

/-!
# The two nonce stores

`MemoryNonceStore` and `PostgresNonceStore` answer the same calls. The memory store counts
expired nonces against its caps until they are swept, and takes a nonce at the very
millisecond it expires; the table of the other store counts and takes unexpired rows only.
The two answer alike, call by call, where neither matters.
-/

namespace OurDao

/-- The table `auth_nonces`. -/
structure PostgresNonceStore where
  auth_nonces : Table String NonceEntry := ∅

/-- What can go wrong when a nonce is stored: the caps, or the primary key. -/
inductive NonceStoreError where
  | capacity (message : String)
  | database (message : String)

namespace PostgresNonceStore

/-- What the cleanup timer does at `now`. -/
def cleanup (s : PostgresNonceStore) (now : Nat) : PostgresNonceStore where
  auth_nonces := s.auth_nonces.deleteWhere fun _ row => row.expiresAt ≤ now

def issue (config : NonceConfig) (s : PostgresNonceStore) (address : String) (timestamp now : Nat)
    (randomHex : String) : Except NonceStoreError (String × PostgresNonceStore) :=
  let total := (Table.rows s.auth_nonces).countP fun row => now < row.2.expiresAt
  let addressTotal := (Table.rows s.auth_nonces).countP fun row => now < row.2.expiresAt ∧ row.2.address = address
  if config.nonceMaxEntries ≤ total then .error (.capacity "Nonce store capacity exceeded")
  else if MAX_NONCES_PER_ADDRESS ≤ addressTotal then
    .error (.capacity s!"Too many outstanding nonces for {truncateAddress address}")
  else
    let nonce := mintNonce timestamp randomHex
    if (s.auth_nonces.lookup nonce).isSome then
      .error (.database "duplicate key value violates unique constraint \"auth_nonces_pkey\"")
    else .ok (nonce, { auth_nonces := s.auth_nonces.insert nonce { address, expiresAt := now + config.nonceTtlMs } })

def consume (s : PostgresNonceStore) (address nonce : String) (now : Nat) : Bool × PostgresNonceStore :=
  match s.auth_nonces.lookup nonce with
  | none => (false, s)
  | some row =>
    if row.address = address ∧ now < row.expiresAt then (true, { auth_nonces := s.auth_nonces.erase nonce })
    else (false, s)

theorem issue_eq_ok {config : NonceConfig} {s s' : PostgresNonceStore} {address randomHex nonce : String}
    {timestamp now : Nat} (h : s.issue config address timestamp now randomHex = .ok (nonce, s')) :
    s'.auth_nonces = s.auth_nonces.insert nonce { address, expiresAt := now + config.nonceTtlMs } := by
  simp only [issue] at h
  split at h
  · cases h
  split at h
  · cases h
  split at h
  · cases h
  · cases h
    rfl

end PostgresNonceStore

/-- A call of either store, or a run of the timer of one of them, with what the clock reads. -/
inductive NonceCall where
  | issue (address : String) (timestamp now : Nat) (randomHex : String)
  | consume (address nonce : String) (now : Nat)
  | sweep (now : Nat)
  | cleanup (now : Nat)

def NonceCall.now : NonceCall → Nat
  | issue _ _ now _ => now
  | consume _ _ now => now
  | sweep now => now
  | cleanup now => now

inductive NonceAnswer where
  | issued (nonce : String)
  | capacityExceeded
  | failed
  | consumed (valid : Bool)
  | silent
  deriving DecidableEq

def MemoryNonceStore.call (config : NonceConfig) (s : MemoryNonceStore) : NonceCall → NonceAnswer × MemoryNonceStore
  | .issue address timestamp now randomHex =>
    match s.issue config address timestamp now randomHex with
    | .error _ => (.capacityExceeded, s)
    | .ok (nonce, s) => (.issued nonce, s)
  | .consume address nonce now => ((s.consume address nonce now).map .consumed id)
  | .sweep now => (.silent, s.sweep now)
  | .cleanup _ => (.silent, s)

def PostgresNonceStore.call (config : NonceConfig) (s : PostgresNonceStore) :
    NonceCall → NonceAnswer × PostgresNonceStore
  | .issue address timestamp now randomHex =>
    match s.issue config address timestamp now randomHex with
    | .error (.capacity _) => (.capacityExceeded, s)
    | .error (.database _) => (.failed, s)
    | .ok (nonce, s) => (.issued nonce, s)
  | .consume address nonce now => ((s.consume address nonce now).map .consumed id)
  | .sweep _ => (.silent, s)
  | .cleanup now => (.silent, s.cleanup now)

/-- Both stores after the same calls, and the last reading of their clock. -/
structure NonceStores where
  memory : MemoryNonceStore := {}
  postgres : PostgresNonceStore := {}
  clock : Nat := 0

namespace NonceStores

def call (config : NonceConfig) (s : NonceStores) (c : NonceCall) : NonceStores where
  memory := (s.memory.call config c).2
  postgres := (s.postgres.call config c).2
  clock := c.now

def after (config : NonceConfig) (calls : List NonceCall) : NonceStores := calls.foldl (call config) {}

/-- Both stores give the same answer to a call. -/
def Same (config : NonceConfig) (s : NonceStores) (c : NonceCall) : Prop :=
  (s.memory.call config c).1 = (s.postgres.call config c).1

instance (config : NonceConfig) (s : NonceStores) (c : NonceCall) : Decidable (Same config s c) :=
  inferInstanceAs (Decidable (_ = _))

/-- The nonces of an address that the memory store holds, expired or not. -/
def held (s : NonceStores) (address : String) : Nat :=
  (Table.rows s.memory.store).countP fun entry => entry.2.address = address

/-- The nonces that the memory store holds and that have not expired. -/
def unexpired (s : NonceStores) (now : Nat) : Nat :=
  (Table.rows s.memory.store).countP fun entry => now < entry.2.expiresAt

def unexpiredOf (s : NonceStores) (address : String) (now : Nat) : Nat :=
  (Table.rows s.memory.store).countP fun entry => now < entry.2.expiresAt ∧ entry.2.address = address

/-- The clock does not go back, a nonce is minted once, and an expired one is not presented for an address that
is not its own. -/
def Steady (s : NonceStores) (c : NonceCall) : Prop :=
  s.clock ≤ c.now ∧
    match c with
    | .issue _ timestamp _ randomHex =>
      s.memory.store.lookup (mintNonce timestamp randomHex) = none ∧
        s.postgres.auth_nonces.lookup (mintNonce timestamp randomHex) = none
    | .consume address nonce now =>
      ∀ entry, s.memory.store.lookup nonce = some entry → entry.expiresAt < now → entry.address = address
    | _ => True

/-- A nonce is not consumed at the millisecond at which it expires, and where the unexpired nonces leave room for
a new one, those that expired and were not swept leave it as well. -/
def Clear (config : NonceConfig) (s : NonceStores) : NonceCall → Prop
  | .issue address _ now _ =>
    s.unexpired now < config.nonceMaxEntries → s.unexpiredOf address now < MAX_NONCES_PER_ADDRESS →
      s.memory.store.keys.length < config.nonceMaxEntries ∧ s.held address < MAX_NONCES_PER_ADDRESS
  | .consume address nonce now => s.memory.store.lookup nonce ≠ some { address, expiresAt := now }
  | _ => True

/-- Both stores hold the same unexpired nonces, and the memory store counts those that it holds. -/
structure Paired (s : NonceStores) : Prop where
  same : ∀ nonce e, s.clock < e.expiresAt →
    (s.memory.store.lookup nonce = some e ↔ s.postgres.auth_nonces.lookup nonce = some e)
  counts : ∀ address, (s.memory.addressIssueCounts.lookup address).getD 0 = s.held address

variable {config : NonceConfig} {s : NonceStores}

theorem paired_start : Paired {} where
  same nonce e _ := by simp
  counts address := by simp [held]

theorem Paired.total (h : Paired s) {now : Nat} (hnow : s.clock ≤ now) :
    ((Table.rows s.postgres.auth_nonces).countP fun row => now < row.2.expiresAt) = s.unexpired now := by
  symm
  apply Table.countP_rows_congr
  intro nonce e he
  apply h.same
  simp at he
  omega

theorem Paired.addressTotal (h : Paired s) {now : Nat} (hnow : s.clock ≤ now) (address : String) :
    ((Table.rows s.postgres.auth_nonces).countP fun row => now < row.2.expiresAt ∧ row.2.address = address) =
      s.unexpiredOf address now := by
  symm
  apply Table.countP_rows_congr
  intro nonce e he
  apply h.same
  simp at he
  omega

theorem unexpired_le (s : NonceStores) (now : Nat) : s.unexpired now ≤ s.memory.store.keys.length :=
  Table.length_rows (t := s.memory.store) ▸ List.countP_le_length

theorem unexpiredOf_le (s : NonceStores) (address : String) (now : Nat) :
    s.unexpiredOf address now ≤ s.held address := by
  apply List.countP_mono_left
  intro entry _ hentry
  simp at hentry ⊢
  exact hentry.2

theorem Paired.memory_issue (h : Paired s) (address randomHex : String) (timestamp now : Nat) :
    (s.memory.call config (.issue address timestamp now randomHex)).1 =
      if s.memory.store.keys.length < config.nonceMaxEntries ∧ s.held address < MAX_NONCES_PER_ADDRESS then
        .issued (mintNonce timestamp randomHex)
      else .capacityExceeded := by
  rw [MemoryNonceStore.call, MemoryNonceStore.issue, h.counts]
  by_cases htotal : config.nonceMaxEntries ≤ s.memory.store.keys.length
  · simp [htotal, Nat.not_lt.mpr htotal]
  · by_cases hheld : MAX_NONCES_PER_ADDRESS ≤ s.held address
    · simp [htotal, hheld, Nat.not_lt.mpr hheld]
    · simp [htotal, hheld, Nat.not_le.mp htotal, Nat.not_le.mp hheld]

theorem Paired.postgres_issue (h : Paired s) {address randomHex : String} {timestamp now : Nat}
    (hs : s.Steady (.issue address timestamp now randomHex)) :
    (s.postgres.call config (.issue address timestamp now randomHex)).1 =
      if s.unexpired now < config.nonceMaxEntries ∧ s.unexpiredOf address now < MAX_NONCES_PER_ADDRESS then
        .issued (mintNonce timestamp randomHex)
      else .capacityExceeded := by
  obtain ⟨hnow, -, hnew⟩ := hs
  replace hnow : s.clock ≤ now := hnow
  rw [PostgresNonceStore.call, PostgresNonceStore.issue, h.total hnow, h.addressTotal hnow]
  by_cases htotal : config.nonceMaxEntries ≤ s.unexpired now
  · simp [htotal, Nat.not_lt.mpr htotal]
  · by_cases hheld : MAX_NONCES_PER_ADDRESS ≤ s.unexpiredOf address now
    · simp [htotal, hheld, Nat.not_lt.mpr hheld]
    · simp [htotal, hheld, hnew, Nat.not_le.mp htotal, Nat.not_le.mp hheld]

theorem memory_consume (s : NonceStores) (address nonce : String) (now : Nat) :
    (s.memory.call config (.consume address nonce now)).1 = .consumed true ↔
      ∃ expiresAt, s.memory.store.lookup nonce = some { address, expiresAt } ∧ now ≤ expiresAt := by
  simp only [MemoryNonceStore.call, MemoryNonceStore.consume]
  cases s.memory.store.lookup nonce with
  | none => simp
  | some entry =>
    obtain ⟨owner, expiresAt⟩ := entry
    by_cases hexpired : expiresAt < now <;> by_cases howner : owner = address <;> simp [hexpired, howner]
    omega

theorem postgres_consume (s : NonceStores) (address nonce : String) (now : Nat) :
    (s.postgres.call config (.consume address nonce now)).1 = .consumed true ↔
      ∃ expiresAt, s.postgres.auth_nonces.lookup nonce = some { address, expiresAt } ∧ now < expiresAt := by
  simp only [PostgresNonceStore.call, PostgresNonceStore.consume]
  cases s.postgres.auth_nonces.lookup nonce with
  | none => simp
  | some row =>
    obtain ⟨owner, expiresAt⟩ := row
    by_cases hlive : now < expiresAt <;> by_cases howner : owner = address <;> simp [hlive, howner]

/-- In step so far, the two stores answer a call alike exactly where expired nonces do not matter to it. -/
theorem Paired.same_iff (h : Paired s) {c : NonceCall} (hs : s.Steady c) : Same config s c ↔ Clear config s c := by
  cases c with
  | issue address timestamp now randomHex =>
    have hall := unexpired_le s now
    have hown := unexpiredOf_le s address now
    rw [Same, h.memory_issue, h.postgres_issue hs, Clear]
    split <;> split <;> simp <;> omega
  | consume address nonce now =>
    have hanswer : Same config s (.consume address nonce now) ↔
        ((s.memory.call config (.consume address nonce now)).1 = .consumed true ↔
          (s.postgres.call config (.consume address nonce now)).1 = .consumed true) := by
      simp only [Same, MemoryNonceStore.call, PostgresNonceStore.call, Prod.map_fst]
      cases (s.memory.consume address nonce now).1 <;> cases (s.postgres.consume address nonce now).1 <;> simp
    have hnow : s.clock ≤ now := hs.1
    rw [hanswer, memory_consume, postgres_consume, Clear]
    constructor
    · rintro htwo hexpires
      obtain ⟨expiresAt, hrow, hlive⟩ := htwo.mp ⟨now, hexpires, le_rfl⟩
      have hentry := (h.same nonce ⟨address, expiresAt⟩ (hnow.trans_lt hlive)).mpr hrow
      rw [hexpires] at hentry
      cases hentry
      exact lt_irrefl _ hlive
    · intro hclear
      constructor
      · rintro ⟨expiresAt, hentry, hlive⟩
        have hlater : now < expiresAt := lt_of_le_of_ne hlive fun heq => hclear (heq ▸ hentry)
        exact ⟨expiresAt, (h.same nonce ⟨address, expiresAt⟩ (hnow.trans_lt hlater)).mp hentry, hlater⟩
      · rintro ⟨expiresAt, hrow, hlive⟩
        exact ⟨expiresAt, (h.same nonce ⟨address, expiresAt⟩ (hnow.trans_lt hlive)).mpr hrow, hlive.le⟩
  | sweep now => exact iff_of_true rfl trivial
  | cleanup now => exact iff_of_true rfl trivial

theorem getD_uncount (counts : Table String Nat) (address other : String) :
    ((MemoryNonceStore.uncount address counts).lookup other).getD 0 =
      (counts.lookup other).getD 0 - if address = other then 1 else 0 := by
  unfold MemoryNonceStore.uncount
  by_cases hsame : other = address
  · subst hsame
    by_cases hmore : (counts.lookup other).getD 0 > 1
    · simp [hmore]
    · simp [hmore]
      omega
  · have hother : address ≠ other := Ne.symm hsame
    by_cases hmore : (counts.lookup address).getD 0 > 1 <;>
      simp [hmore, hother, AList.lookup_insert_ne hsame, AList.lookup_erase_ne hsame]

/-- The counters of a memory store are those of its nonces. -/
def Counted (s : MemoryNonceStore) : Prop :=
  ∀ address, (s.addressIssueCounts.lookup address).getD 0 =
    (Table.rows s.store).countP fun entry => entry.2.address = address

theorem Counted.delete {s : MemoryNonceStore} (h : Counted s) {nonce : String} {entry : NonceEntry}
    (hentry : s.store.lookup nonce = some entry) : Counted (s.delete nonce entry.address) := by
  intro address
  have hbefore := h address
  rw [Table.countP_rows_erase hentry] at hbefore
  simp only [MemoryNonceStore.delete, getD_uncount, hbefore]
  simp

/-- What holds of a store and of the store without an expired nonce holds after a sweep. -/
theorem sweep_induction {P : MemoryNonceStore → Prop} {s : MemoryNonceStore} {now : Nat} (h : P s)
    (hdelete : ∀ s nonce entry, P s → s.store.lookup nonce = some entry → entry.expiresAt < now →
      P (s.delete nonce entry.address)) : P (s.sweep now) := by
  rw [MemoryNonceStore.sweep]
  have hnodup : ((Table.rows s.store).map Prod.fst).Nodup := Table.rows_keys_nodup s.store
  have hstored : ∀ entry ∈ Table.rows s.store, s.store.lookup entry.1 = some entry.2 := fun _ => Table.mem_rows.mp
  generalize Table.rows s.store = entries at hnodup hstored
  induction entries generalizing s with
  | nil => exact h
  | cons entry entries ih =>
    rw [List.map_cons, List.nodup_cons] at hnodup
    rw [List.foldl_cons]
    split
    next hexpired =>
      apply ih (hdelete s _ _ h (hstored entry List.mem_cons_self) hexpired) hnodup.2
      intro other hother
      have hne : other.1 ≠ entry.1 := fun heq => hnodup.1 (heq ▸ List.mem_map_of_mem hother)
      rw [MemoryNonceStore.lookup_delete, if_neg hne]
      exact hstored other (List.mem_cons_of_mem _ hother)
    next => exact ih h hnodup.2 fun other hother => hstored other (List.mem_cons_of_mem _ hother)

theorem Counted.sweep {s : MemoryNonceStore} (h : Counted s) (now : Nat) : Counted (s.sweep now) :=
  sweep_induction h fun _ _ _ h hentry _ => h.delete hentry

theorem Counted.issue {s s' : MemoryNonceStore} (h : Counted s) {address randomHex nonce : String}
    {timestamp now : Nat}
    (hnew : s.store.lookup (mintNonce timestamp randomHex) = none)
    (hissue : s.issue config address timestamp now randomHex = .ok (nonce, s')) : Counted s' := by
  have hstore := MemoryNonceStore.issue_eq_ok hissue
  rw [MemoryNonceStore.issue] at hissue
  dsimp only at hissue
  split at hissue
  · cases hissue
  split at hissue
  · cases hissue
  cases hissue
  intro other
  have hbefore := h other
  rw [Table.rows_insert_new hnew, List.countP_cons, ← hbefore]
  by_cases hother : other = address
  · subst hother
    simp
  · simp [AList.lookup_insert_ne hother, Ne.symm hother]

theorem Counted.consume {s : MemoryNonceStore} (h : Counted s) {address nonce : String} {now : Nat}
    (hown : ∀ entry, s.store.lookup nonce = some entry → entry.expiresAt < now → entry.address = address) :
    Counted (s.consume address nonce now).2 := by
  rw [MemoryNonceStore.consume]
  cases hentry : s.store.lookup nonce with
  | none => exact h
  | some entry =>
    have hdelete := h.delete hentry
    by_cases hexpired : entry.expiresAt < now
    · rw [hown entry hentry hexpired] at hdelete
      simpa [hexpired] using hdelete
    · by_cases howner : entry.address = address
      · rw [howner] at hdelete
        simpa [hexpired, howner] using hdelete
      · simpa [hexpired, howner] using h

/-- A sweep keeps what has not expired. -/
theorem lookup_sweep {s : MemoryNonceStore} {now : Nat} {nonce : String} {e : NonceEntry}
    (hlive : now ≤ e.expiresAt) :
    (s.sweep now).store.lookup nonce = some e ↔ s.store.lookup nonce = some e := by
  constructor
  · exact MemoryNonceStore.sweep_sub s now
  · intro hstored
    apply sweep_induction (P := fun s => s.store.lookup nonce = some e) hstored
    intro s other entry hstored hentry hexpired
    rw [MemoryNonceStore.lookup_delete, if_neg]
    · exact hstored
    · rintro rfl
      rw [hstored] at hentry
      cases hentry
      omega

theorem lookup_cleanup {s : PostgresNonceStore} {now : Nat} {nonce : String} {e : NonceEntry}
    (hlive : now < e.expiresAt) :
    (s.cleanup now).auth_nonces.lookup nonce = some e ↔ s.auth_nonces.lookup nonce = some e := by
  rw [PostgresNonceStore.cleanup, Table.lookup_deleteWhere, Option.filter_eq_some_iff]
  simp [hlive]

/-- Of the unexpired nonces, a consume takes the one it names, if it names its address. -/
theorem lookup_consume_memory {s : MemoryNonceStore} {address nonce other : String} {now : Nat} {e : NonceEntry}
    (hlive : now < e.expiresAt) :
    (s.consume address nonce now).2.store.lookup other = some e ↔
      s.store.lookup other = some e ∧ ¬(other = nonce ∧ e.address = address) := by
  rw [MemoryNonceStore.consume]
  by_cases hother : other = nonce
  · subst hother
    cases hentry : s.store.lookup other with
    | none => simp [hentry]
    | some entry =>
      by_cases hexpired : entry.expiresAt < now
      · have hne : entry ≠ e := by
          rintro rfl
          omega
        simp [hexpired, MemoryNonceStore.lookup_delete, hne]
      · by_cases howner : entry.address = address
        · simp only [hexpired, howner, if_false, ne_eq, not_true_eq_false, MemoryNonceStore.lookup_delete, if_true]
          simp
          rintro rfl
          exact howner
        · simp only [hexpired, howner, if_false, ne_eq, not_false_eq_true, if_true, hentry]
          simp
          rintro rfl
          exact howner
  · cases hentry : s.store.lookup nonce with
    | none => simp [hother]
    | some entry =>
      by_cases hexpired : entry.expiresAt < now <;> by_cases howner : entry.address = address <;>
        simp [hexpired, howner, MemoryNonceStore.lookup_delete, hother]

theorem lookup_consume_postgres {s : PostgresNonceStore} {address nonce other : String} {now : Nat} {e : NonceEntry}
    (hlive : now < e.expiresAt) :
    (s.consume address nonce now).2.auth_nonces.lookup other = some e ↔
      s.auth_nonces.lookup other = some e ∧ ¬(other = nonce ∧ e.address = address) := by
  rw [PostgresNonceStore.consume]
  by_cases hother : other = nonce
  · subst hother
    cases hrow : s.auth_nonces.lookup other with
    | none => simp [hrow]
    | some row =>
      by_cases htaken : row.address = address ∧ now < row.expiresAt
      · simp only [htaken, and_self, if_true, AList.lookup_erase]
        simp
        rintro rfl
        exact htaken.1
      · simp only [htaken, if_false, hrow]
        simp
        rintro rfl howner
        exact htaken ⟨howner, hlive⟩
  · cases hrow : s.auth_nonces.lookup nonce with
    | none => simp [hother]
    | some row =>
      by_cases htaken : row.address = address ∧ now < row.expiresAt <;> simp [htaken, hother, AList.lookup_erase_ne]

theorem Paired.issue (h : Paired s) {address randomHex : String} {timestamp now : Nat}
    (hs : s.Steady (.issue address timestamp now randomHex))
    (hsame : Same config s (.issue address timestamp now randomHex)) :
    Paired (s.call config (.issue address timestamp now randomHex)) := by
  have hnow : s.clock ≤ now := hs.1
  rw [Same, MemoryNonceStore.call, PostgresNonceStore.call] at hsame
  cases hmemory : s.memory.issue config address timestamp now randomHex with
  | error message =>
    cases hpostgres : s.postgres.issue config address timestamp now randomHex with
    | error error =>
      constructor
      case same =>
        intro nonce e hlive
        cases error <;>
          simpa [call, MemoryNonceStore.call, PostgresNonceStore.call, hmemory, hpostgres] using
            h.same nonce e (lt_of_le_of_lt hnow hlive)
      case counts =>
        intro address
        simpa [call, MemoryNonceStore.call, hmemory, held] using h.counts address
    | ok issued => simp [hmemory, hpostgres] at hsame
  | ok issued =>
    cases hpostgres : s.postgres.issue config address timestamp now randomHex with
    | error error => cases error <;> simp [hmemory, hpostgres] at hsame
    | ok issued' =>
      have hnonce : issued.1 = issued'.1 := by simpa [hmemory, hpostgres] using hsame
      have hstore := MemoryNonceStore.issue_eq_ok hmemory
      have hrows := PostgresNonceStore.issue_eq_ok hpostgres
      constructor
      case same =>
        intro nonce e hlive
        have hold := h.same nonce e (lt_of_le_of_lt hnow hlive)
        simp only [call, MemoryNonceStore.call, PostgresNonceStore.call, hmemory, hpostgres, hstore, hrows, ← hnonce]
        by_cases hthis : nonce = issued.1
        · subst hthis
          simp
        · rw [AList.lookup_insert_ne hthis, AList.lookup_insert_ne hthis]
          exact hold
      case counts =>
        have hcounted := Counted.issue h.counts hs.2.1 hmemory
        intro address
        simpa [call, MemoryNonceStore.call, hmemory, held] using hcounted address

/-- After a call that both answered alike, the two stores are still in step. -/
theorem Paired.call (h : Paired s) {c : NonceCall} (hs : s.Steady c) (hsame : Same config s c) :
    Paired (s.call config c) := by
  have hnow := hs.1
  cases c with
  | issue address timestamp now randomHex => exact h.issue hs hsame
  | consume address nonce now =>
    constructor
    case same =>
      intro other e hlive
      have hold := h.same other e (lt_of_le_of_lt hnow hlive)
      exact (lookup_consume_memory hlive).trans ((and_congr_left' hold).trans (lookup_consume_postgres hlive).symm)
    case counts => exact Counted.consume h.counts hs.2
  | sweep now =>
    constructor
    case same => exact fun nonce e hlive => (lookup_sweep hlive.le).trans (h.same nonce e (lt_of_le_of_lt hnow hlive))
    case counts => exact Counted.sweep h.counts now
  | cleanup now =>
    constructor
    case same =>
      exact fun nonce e hlive => (h.same nonce e (lt_of_le_of_lt hnow hlive)).trans (lookup_cleanup hlive).symm
    case counts => exact h.counts

variable {calls : List NonceCall}

theorem paired_after (hsteady : ∀ past c, past ++ [c] <+: calls → (after config past).Steady c)
    (hsame : ∀ past c, past ++ [c] <+: calls → Same config (after config past) c) {past : List NonceCall}
    (hpast : past <+: calls) : Paired (after config past) :=
  Runs.all_along paired_start (fun past c hpast h => h.call (hsteady past c hpast) (hsame past c hpast)) hpast

/-- **The two stores give the same answers** to all calls of a run if and only if expired nonces matter to none of
them. -/
theorem nonce_stores_agree (config : NonceConfig) (calls : List NonceCall)
    (hsteady : ∀ past c, past ++ [c] <+: calls → (after config past).Steady c) :
    (∀ past c, past ++ [c] <+: calls → Same config (after config past) c) ↔
      ∀ past c, past ++ [c] <+: calls → Clear config (after config past) c := by
  constructor
  · intro hsame past c hpast
    have hpaired := paired_after hsteady hsame (Runs.prefix_of_snoc hpast)
    exact (hpaired.same_iff (hsteady past c hpast)).mp (hsame past c hpast)
  · intro hclear past c hpast
    have hpaired : Paired (after config past) := by
      refine Runs.all_along paired_start (fun past c hpast hbefore => ?_) (Runs.prefix_of_snoc hpast)
      have hsteady := hsteady past c hpast
      exact hbefore.call hsteady ((hbefore.same_iff hsteady).mpr (hclear past c hpast))
    exact (hpaired.same_iff (hsteady past c hpast)).mpr (hclear past c hpast)

/-- A nonce that is consumed one millisecond before it expires. -/
theorem nonce_stores_agree_consumed :
    Same {} (after {} [.issue "GA" 0 0 "5e"]) (.consume "GA" "0000000000005e" 299999) := by
  have hstored : (after {} [.issue "GA" 0 0 "5e"]).memory.store.lookup "0000000000005e" = some ⟨"GA", 300000⟩ := by
    decide
  refine (nonce_stores_agree {} [.issue "GA" 0 0 "5e", .consume "GA" "0000000000005e" 299999] ?_).mpr ?_ _ _
    List.prefix_rfl
  · rw [Runs.forall_snoc_prefix_cons, Runs.forall_snoc_prefix_cons]
    refine ⟨⟨le_rfl, rfl, rfl⟩, ⟨by decide, fun entry hentry _ => ?_⟩, Runs.forall_snoc_prefix_nil⟩
    rw [hstored] at hentry
    cases hentry
    rfl
  · rw [Runs.forall_snoc_prefix_cons, Runs.forall_snoc_prefix_cons]
    refine ⟨fun _ _ => by decide, ?_, Runs.forall_snoc_prefix_nil⟩
    rw [Clear, hstored]
    decide

/-- The memory store takes a nonce at the millisecond at which it expires, and refuses a new one while one that
expired was not swept; the other store does neither. -/
theorem nonce_stores_differ :
    ¬ Same {} (after {} [.issue "GA" 0 0 "5e"]) (.consume "GA" "0000000000005e" 300000) ∧
      ¬ Same { nonceMaxEntries := 1 } (after { nonceMaxEntries := 1 } [.issue "GA" 0 0 "5e"])
        (.issue "GB" 300001 300001 "5f") := by
  constructor <;> decide

end NonceStores

end OurDao
