import OurDao.NonceStores

/-!
# The caps of the nonce table

`PostgresNonceStore.issue` counts the unexpired nonces in one statement and inserts its own in
another. Calls that count before any of them inserts are all let through. The caps hold as
long as each insert still finds the room that its call has counted.
-/

namespace OurDao

namespace Table

variable {κ ν : Type} [DecidableEq κ] {t t' : Table κ ν}

/-- Rows that were all there before, and counted, are no more of them. -/
theorem countP_rows_le {p q : κ × ν → Bool}
    (h : ∀ k v, t'.lookup k = some v → p (k, v) = true → t.lookup k = some v ∧ q (k, v) = true) :
    (rows t').countP p ≤ (rows t).countP q := by
  rw [List.countP_eq_length_filter, List.countP_eq_length_filter]
  refine (List.Nodup.subperm (rows_nodup.filter p) fun r hr => ?_).length_le
  obtain ⟨hmem, hp⟩ := List.mem_filter.mp hr
  obtain ⟨hold, hq⟩ := h r.1 r.2 (mem_rows.mp hmem) hp
  exact List.mem_filter.mpr ⟨mem_rows.mpr hold, hq⟩

end Table

/-- The table that all instances share, with the clock of the database and the addresses of the `issue` calls that
counted and have not inserted yet. -/
structure NonceTable where
  auth_nonces : Table String NonceEntry := ∅
  clock : Nat := 0
  counted : List String := []

namespace NonceTable

/-- Whether a row is unexpired. -/
def live (s : NonceTable) (row : String × NonceEntry) : Bool := s.clock < row.2.expiresAt

def total (s : NonceTable) : Nat := (Table.rows s.auth_nonces).countP s.live

def addressTotal (s : NonceTable) (address : String) : Nat :=
  (Table.rows s.auth_nonces).countP fun row => s.live row && row.2.address = address

/-- The first statement of `issue`, whose answer lets the call go on or not. -/
def count (config : NonceConfig) (s : NonceTable) (address : String) : NonceTable :=
  if config.nonceMaxEntries ≤ s.total then s
  else if MAX_NONCES_PER_ADDRESS ≤ s.addressTotal address then s
  else { s with counted := address :: s.counted }

/-- The second, of a call that went on; `instant` and `timestamp` are readings of the clock of its process. -/
def insert (config : NonceConfig) (s : NonceTable) (address : String) (instant timestamp : Nat) (randomHex : String) :
    NonceTable :=
  if address ∈ s.counted then
    let s := { s with counted := s.counted.erase address }
    let nonce := mintNonce timestamp randomHex
    -- the primary key refuses a nonce that is stored already
    if (s.auth_nonces.lookup nonce).isSome then s
    else { s with auth_nonces := s.auth_nonces.insert nonce { address, expiresAt := instant + config.nonceTtlMs } }
  else s

inductive Event where
  /-- time goes by -/
  | tick (ms : Nat)
  | count (address : String)
  | insert (address : String) (instant timestamp : Nat) (randomHex : String)
  /-- an `issue` call ends between its statements, by a failure or with its process -/
  | abandon (address : String)
  | consume (address nonce : String)
  | cleanup

def act (config : NonceConfig) (s : NonceTable) : Event → NonceTable
  | .tick ms => { s with clock := s.clock + ms }
  | .count address => s.count config address
  | .insert address instant timestamp randomHex => s.insert config address instant timestamp randomHex
  | .abandon address => { s with counted := s.counted.erase address }
  | .consume address nonce =>
    { s with auth_nonces := ((PostgresNonceStore.mk s.auth_nonces).consume address nonce s.clock).2.auth_nonces }
  | .cleanup => { s with auth_nonces := ((PostgresNonceStore.mk s.auth_nonces).cleanup s.clock).auth_nonces }

/-- The table after the statements of any calls, in any order. -/
def after (config : NonceConfig) (events : List Event) : NonceTable := events.foldl (act config) {}

structure WithinCaps (config : NonceConfig) (s : NonceTable) : Prop where
  total : s.total ≤ config.nonceMaxEntries
  perAddress : ∀ address, s.addressTotal address ≤ MAX_NONCES_PER_ADDRESS

/-- An insert that adds an unexpired row still finds room for it. -/
def Room (config : NonceConfig) (s : NonceTable) : Event → Prop
  | .insert address instant timestamp randomHex =>
    address ∈ s.counted → s.auth_nonces.lookup (mintNonce timestamp randomHex) = none →
      s.clock < instant + config.nonceTtlMs →
      s.total < config.nonceMaxEntries ∧ s.addressTotal address < MAX_NONCES_PER_ADDRESS
  | _ => True

variable {config : NonceConfig} {s s' : NonceTable} {address : String}

theorem withinCaps_start : WithinCaps config {} := by
  constructor
  case total => simp [total]
  case perAddress => simp [addressTotal]

/-- Rows only go, and clocks only go on. -/
theorem WithinCaps.mono (h : WithinCaps config s) (hclock : s.clock ≤ s'.clock)
    (hrows : ∀ nonce row, s'.auth_nonces.lookup nonce = some row → s.auth_nonces.lookup nonce = some row) :
    WithinCaps config s' := by
  have hlive : ∀ row, s'.live row = true → s.live row = true := by
    intro row hrow
    simp only [live, decide_eq_true_eq] at hrow ⊢
    omega
  constructor
  case total => exact (Table.countP_rows_le fun k v hk hv => ⟨hrows k v hk, hlive _ hv⟩).trans h.total
  case perAddress =>
    intro address
    refine (Table.countP_rows_le fun k v hk hv => ⟨hrows k v hk, ?_⟩).trans (h.perAddress address)
    simp only [Bool.and_eq_true] at hv ⊢
    exact ⟨hlive _ hv.1, hv.2⟩

theorem lookup_consume {nonce : String} {now : Nat} {store : PostgresNonceStore} {k : String} {row : NonceEntry}
    (h : (store.consume address nonce now).2.auth_nonces.lookup k = some row) :
    store.auth_nonces.lookup k = some row := by
  unfold PostgresNonceStore.consume at h
  split at h
  next => exact h
  next =>
    split at h
    next =>
      by_cases hk : k = nonce
      · subst hk
        rw [AList.lookup_erase] at h
        cases h
      · rwa [AList.lookup_erase_ne hk] at h
    next => exact h

theorem lookup_cleanup {now : Nat} {store : PostgresNonceStore} {k : String} {row : NonceEntry}
    (h : (store.cleanup now).auth_nonces.lookup k = some row) : store.auth_nonces.lookup k = some row := by
  rw [PostgresNonceStore.cleanup, Table.lookup_deleteWhere] at h
  exact (Option.filter_eq_some_iff.mp h).1

/-- What an insert that goes through adds to the counts. -/
theorem insert_counts (config : NonceConfig) (instant : Nat) {timestamp : Nat} {randomHex : String}
    (hcounted : address ∈ s.counted)
    (hnew : s.auth_nonces.lookup (mintNonce timestamp randomHex) = none) :
    (s.insert config address instant timestamp randomHex).total =
        s.total + (if s.clock < instant + config.nonceTtlMs then 1 else 0) ∧
      ∀ other, (s.insert config address instant timestamp randomHex).addressTotal other =
        s.addressTotal other + (if s.clock < instant + config.nonceTtlMs ∧ address = other then 1 else 0) := by
  have heq : s.insert config address instant timestamp randomHex = { s with
      counted := s.counted.erase address
      auth_nonces := s.auth_nonces.insert (mintNonce timestamp randomHex)
        { address, expiresAt := instant + config.nonceTtlMs } } := by
    simp [insert, hcounted, hnew]
  rw [heq]
  constructor
  · simp only [total, Table.rows_insert_new hnew, List.countP_cons, live, decide_eq_true_eq]
    rfl
  · intro other
    simp only [addressTotal, Table.rows_insert_new hnew, List.countP_cons, live, Bool.and_eq_true, decide_eq_true_eq]

/-- An insert that stores nothing changes no count. -/
theorem insert_idle (config : NonceConfig) (instant : Nat) {timestamp : Nat} {randomHex : String}
    (h : ¬ (address ∈ s.counted ∧ s.auth_nonces.lookup (mintNonce timestamp randomHex) = none)) :
    (s.insert config address instant timestamp randomHex).auth_nonces = s.auth_nonces ∧
      (s.insert config address instant timestamp randomHex).clock = s.clock := by
  unfold insert
  split
  next hcounted =>
    have hsome : (s.auth_nonces.lookup (mintNonce timestamp randomHex)).isSome = true := by
      rw [Option.isSome_iff_ne_none]
      exact fun hnone => h ⟨hcounted, hnone⟩
    dsimp only
    rw [if_pos hsome]
    exact ⟨rfl, rfl⟩
  next => exact ⟨rfl, rfl⟩

theorem withinCaps_insert (h : WithinCaps config s) {instant timestamp : Nat} {randomHex : String} :
    WithinCaps config (s.insert config address instant timestamp randomHex) ↔
      Room config s (.insert address instant timestamp randomHex) := by
  by_cases hstored : address ∈ s.counted ∧ s.auth_nonces.lookup (mintNonce timestamp randomHex) = none
  · obtain ⟨htotal, haddress⟩ := insert_counts config instant hstored.1 hstored.2
    constructor
    · intro hafter _ _ hlive
      have ht := hafter.total
      have ha := hafter.perAddress address
      rw [htotal, if_pos hlive] at ht
      rw [haddress, if_pos ⟨hlive, rfl⟩] at ha
      omega
    · intro hroom
      by_cases hlive : s.clock < instant + config.nonceTtlMs
      · obtain ⟨ht, ha⟩ := hroom hstored.1 hstored.2 hlive
        constructor
        case total => rw [htotal, if_pos hlive]; omega
        case perAddress =>
          intro other
          rw [haddress]
          by_cases hother : address = other
          · subst hother
            rw [if_pos ⟨hlive, rfl⟩]
            omega
          · rw [if_neg fun hboth => hother hboth.2]
            exact h.perAddress other
      · constructor
        case total => rw [htotal, if_neg hlive]; exact h.total
        case perAddress =>
          intro other
          rw [haddress, if_neg fun hboth => hlive hboth.1]
          exact h.perAddress other
  · obtain ⟨hrows, hclock⟩ := insert_idle config instant hstored
    refine iff_of_true (h.mono hclock.ge fun nonce row hrow => hrows ▸ hrow) fun hcounted hnew _ => ?_
    exact absurd ⟨hcounted, hnew⟩ hstored

theorem withinCaps_act (h : WithinCaps config s) (e : Event) :
    WithinCaps config (s.act config e) ↔ Room config s e := by
  cases e with
  | tick ms => exact iff_of_true (h.mono (Nat.le_add_right _ _) fun _ _ hrow => hrow) trivial
  | count address =>
    refine iff_of_true ?_ trivial
    simp only [act, count]
    split
    next => exact h
    next =>
      split
      next => exact h
      next => exact ⟨h.total, h.perAddress⟩
  | insert address instant timestamp randomHex => exact withinCaps_insert h
  | abandon address => exact iff_of_true ⟨h.total, h.perAddress⟩ trivial
  | consume address nonce => exact iff_of_true (h.mono le_rfl fun _ _ hrow => lookup_consume hrow) trivial
  | cleanup => exact iff_of_true (h.mono le_rfl fun _ _ hrow => lookup_cleanup hrow) trivial

/-- **The caps hold** in every state of a run exactly if every insert still finds room. -/
theorem nonce_caps_iff (config : NonceConfig) (events : List Event) :
    (∀ past, past <+: events → WithinCaps config (after config past)) ↔
      ∀ past e, past ++ [e] <+: events → Room config (after config past) e := by
  constructor
  · intro h past e hpast
    have hact := h (past ++ [e]) hpast
    rw [after, List.foldl_concat] at hact
    exact (withinCaps_act (h past (Runs.prefix_of_snoc hpast)) e).mp hact
  · exact fun h past hpast => Runs.all_along withinCaps_start
      (fun past e hpast hcaps => (withinCaps_act hcaps e).mpr (h past e hpast)) hpast

/-- An `issue` that nothing comes between is its two statements. -/
theorem issue_eq_two {store store' : PostgresNonceStore} {timestamp now : Nat} {randomHex nonce : String}
    (h : store.issue config address timestamp now randomHex = .ok (nonce, store')) :
    ((({ auth_nonces := store.auth_nonces, clock := now } : NonceTable).count config address).insert config address
      now timestamp randomHex).auth_nonces = store'.auth_nonces := by
  unfold PostgresNonceStore.issue at h
  dsimp only at h
  split at h
  next => cases h
  next htotal =>
    split at h
    next => cases h
    next haddress =>
      split at h
      next => cases h
      next hnew =>
        cases h
        have htotal' : ¬ config.nonceMaxEntries ≤
            ({ auth_nonces := store.auth_nonces, clock := now } : NonceTable).total := htotal
        have haddress' : ¬ MAX_NONCES_PER_ADDRESS ≤
            ({ auth_nonces := store.auth_nonces, clock := now } : NonceTable).addressTotal address := by
          simpa [addressTotal, live] using haddress
        rw [count, if_neg htotal', if_neg haddress', insert, if_pos List.mem_cons_self]
        dsimp only
        rw [if_neg hnew]

/-- An insert right after its count finds room. -/
theorem room_prompt (instant timestamp : Nat) (randomHex : String) (hcounted : address ∉ s.counted) :
    Room config (s.count config address) (.insert address instant timestamp randomHex) := by
  intro hmem _ _
  unfold count at hmem ⊢
  split at hmem
  next => exact absurd hmem hcounted
  next htotal =>
    split at hmem
    next => exact absurd hmem hcounted
    next haddress =>
      rw [if_neg htotal, if_neg haddress]
      exact ⟨Nat.lt_of_not_le htotal, Nat.lt_of_not_le haddress⟩

/-- Two calls count, then both insert. -/
def sideBySide : List Event :=
  [.count "GA", .count "GB", .insert "GA" 0 0 (String.ofList (List.replicate 52 'a')),
    .insert "GB" 0 0 (String.ofList (List.replicate 52 'b'))]

theorem concurrent_issues_pass_the_cap : ¬ ∀ past, past <+: sideBySide →
    WithinCaps { nonceMaxEntries := 1 } (after { nonceMaxEntries := 1 } past) := by
  intro h
  have htotal := (h sideBySide List.prefix_rfl).total
  revert htotal
  decide +kernel

end NonceTable

end OurDao
