import OurDao.NonceStores

/-!
# The counters of the memory store

`addressIssueCounts` keeps, beside the nonces, how many of them each address has: an issue
counts its address up, and whatever takes a nonce out counts an address down. The sweep
counts the owner of the nonce. A consume counts its caller, and takes an expired nonce out
before it compares the two.
-/

namespace OurDao

namespace MemoryNonceStore

/-- The nonces of an address that are in the store, expired or not. -/
def held (s : MemoryNonceStore) (address : String) : Nat :=
  (Table.rows s.store).countP fun entry => entry.2.address = address

/-- The store after these calls. -/
def after (config : NonceConfig) (calls : List NonceCall) : MemoryNonceStore :=
  calls.foldl (fun s c => (s.call config c).2) {}

/-- Every address is counted right, none holds more than its limit, and none is refused below it while there
is room. -/
structure CountsExact (config : NonceConfig) (s : MemoryNonceStore) : Prop where
  counts : ∀ address, s.addressIssueCounts.lookup address = if s.held address = 0 then none else some (s.held address)
  limit : ∀ address, s.held address ≤ MAX_NONCES_PER_ADDRESS
  served : ∀ address timestamp now randomHex, s.held address < MAX_NONCES_PER_ADDRESS →
    s.store.keys.length < config.nonceMaxEntries →
      (s.call config (.issue address timestamp now randomHex)).1 = .issued (mintNonce timestamp randomHex)

/-- An expired nonce is presented for its own address, and a nonce that is issued is not in the store already. -/
def CountsOwner (config : NonceConfig) (s : MemoryNonceStore) : NonceCall → Prop
  | .issue address timestamp _ randomHex =>
    s.held address < MAX_NONCES_PER_ADDRESS → s.store.keys.length < config.nonceMaxEntries →
      s.store.lookup (mintNonce timestamp randomHex) = none
  | .consume address nonce now =>
    ∀ entry, s.store.lookup nonce = some entry → entry.expiresAt < now → entry.address = address
  | _ => True

variable {config : NonceConfig} {s s' : MemoryNonceStore} {nonce address : String} {entry : NonceEntry}

/-- What the counters say of an address is what there is. -/
theorem CountsExact.count (h : CountsExact config s) (address : String) :
    (s.addressIssueCounts.lookup address).getD 0 = s.held address := by
  rw [h.counts address]
  by_cases hnone : s.held address = 0 <;> simp [hnone]

/-- The counters decide. -/
theorem exact_of_counts
    (hcounts : ∀ address, s.addressIssueCounts.lookup address =
      if s.held address = 0 then none else some (s.held address))
    (hlimit : ∀ address, s.held address ≤ MAX_NONCES_PER_ADDRESS) : CountsExact config s where
  counts := hcounts
  limit := hlimit
  served address timestamp now randomHex hbelow hroom := by
    have hcount : (s.addressIssueCounts.lookup address).getD 0 = s.held address := by
      rw [hcounts address]
      by_cases hnone : s.held address = 0 <;> simp [hnone]
    simp [call, issue, hcount, Nat.not_le.mpr hbelow, Nat.not_le.mpr hroom]

theorem exact_start : CountsExact config {} :=
  exact_of_counts (fun address => by simp [held]) fun address => by simp [held]

theorem held_delete (hentry : s.store.lookup nonce = some entry) (address other : String) :
    s.held other = (s.delete nonce address).held other + if entry.address = other then 1 else 0 := by
  simp [held, delete, Table.countP_rows_erase hentry]

theorem lookup_uncount (counts : Table String Nat) (address other : String) :
    (uncount address counts).lookup other =
      if other = address then
        if (counts.lookup address).getD 0 > 1 then some ((counts.lookup address).getD 0 - 1) else none
      else counts.lookup other := by
  unfold uncount
  by_cases hother : other = address
  · subst hother
    by_cases hmore : (counts.lookup other).getD 0 > 1 <;> simp [hmore]
  · by_cases hmore : (counts.lookup address).getD 0 > 1 <;>
      simp [hmore, hother, AList.lookup_insert_ne hother, AList.lookup_erase_ne hother]

/-- Taking a nonce out keeps the counters exact if and only if its owner is counted down. -/
theorem exact_delete (h : CountsExact config s) (hentry : s.store.lookup nonce = some entry) :
    CountsExact config (s.delete nonce address) ↔ entry.address = address := by
  have hheld := held_delete hentry address
  have hlookup : ∀ other, (s.delete nonce address).addressIssueCounts.lookup other =
      if other = address then if s.held address > 1 then some (s.held address - 1) else none
      else s.addressIssueCounts.lookup other := by
    intro other
    rw [← h.count address]
    exact lookup_uncount s.addressIssueCounts address other
  constructor
  · intro hafter
    by_contra howner
    have hcount := hafter.count entry.address
    have howned := hheld entry.address
    rw [hlookup, if_neg howner, h.count] at hcount
    rw [if_pos rfl] at howned
    omega
  · rintro rfl
    refine exact_of_counts (fun other => ?_) fun other => ?_
    · have hother := hheld other
      rw [hlookup]
      by_cases hsame : other = entry.address
      · subst hsame
        rw [if_pos rfl] at hother
        rw [if_pos rfl, hother]
        by_cases hlast : (s.delete nonce entry.address).held entry.address = 0
        · simp [hlast]
        · simp [hlast]
      · rw [if_neg (Ne.symm hsame)] at hother
        rw [if_neg hsame, h.counts, hother, Nat.add_zero]
    · have hlimit := h.limit other
      have hother := hheld other
      omega

theorem exact_sweep (h : CountsExact config s) (now : Nat) : CountsExact config (s.sweep now) :=
  NonceStores.sweep_induction h fun _ _ _ hbefore hentry _ => (exact_delete hbefore hentry).mpr rfl

theorem exact_consume (h : CountsExact config s) (address nonce : String) (now : Nat) :
    CountsExact config (s.consume address nonce now).2 ↔ CountsOwner config s (.consume address nonce now) := by
  rw [consume, CountsOwner]
  cases hentry : s.store.lookup nonce with
  | none => simpa using h
  | some entry =>
    by_cases hexpired : entry.expiresAt < now
    · have hdelete : CountsExact config (s.delete nonce address) ↔ entry.address = address := exact_delete h hentry
      simpa [hexpired] using hdelete
    · by_cases howner : entry.address = address
      · simpa [hexpired, howner] using (exact_delete h hentry).mpr howner
      · simpa [hexpired, howner] using h

/-- A nonce that is not in the store yet is one more of its address. -/
theorem held_insert_new (hnew : s.store.lookup nonce = none) (hstore : s'.store = s.store.insert nonce entry)
    (other : String) : s'.held other = s.held other + if entry.address = other then 1 else 0 := by
  simp [held, hstore, Table.rows_insert_new hnew, List.countP_cons]

/-- One that is in the store already takes the place of the nonce that was there. -/
theorem held_insert_again {old : NonceEntry} (hold : s.store.lookup nonce = some old)
    (hstore : s'.store = s.store.insert nonce entry) (other : String) :
    s'.held other + (if old.address = other then 1 else 0) =
      s.held other + if entry.address = other then 1 else 0 := by
  have hnew : s'.store.lookup nonce = some entry := by simp [hstore]
  have hrest : (s'.delete nonce other).held other = (s.delete nonce other).held other := by
    apply Table.countP_rows_congr
    intro k v _
    by_cases hk : k = nonce
    · subst hk
      simp [delete]
    · simp [delete, hstore, AList.lookup_erase_ne hk, AList.lookup_insert_ne hk]
  have hbefore := held_delete hold other other
  have hafter := held_delete hnew other other
  omega

/-- An issue keeps the counters exact if and only if it adds a nonce to the store. -/
theorem exact_issued (h : CountsExact config s) (hbelow : s.held address < MAX_NONCES_PER_ADDRESS)
    (hentry : entry.address = address) (hstore : s'.store = s.store.insert nonce entry)
    (hcounts : s'.addressIssueCounts = s.addressIssueCounts.insert address (s.held address + 1)) :
    CountsExact config s' ↔ s.store.lookup nonce = none := by
  subst hentry
  have hlookup : ∀ other, s'.addressIssueCounts.lookup other =
      if other = entry.address then some (s.held entry.address + 1) else s.addressIssueCounts.lookup other := by
    intro other
    rw [hcounts, Table.lookup_insert]
  constructor
  · intro hafter
    by_contra hstored
    obtain ⟨old, hold⟩ := Option.ne_none_iff_exists'.mp hstored
    have hnew := hafter.count entry.address
    have hagain := held_insert_again hold hstore entry.address
    rw [hlookup, if_pos rfl, Option.getD_some] at hnew
    rw [if_pos rfl] at hagain
    split at hagain
    next => omega
    next hother =>
      -- the address whose nonce was overwritten still counts it
      have hlost := held_insert_again hold hstore old.address
      have hcount := hafter.count old.address
      rw [hlookup, if_neg hother, h.count] at hcount
      rw [if_pos rfl, if_neg (Ne.symm hother)] at hlost
      omega
  · intro hnew
    have hheld := held_insert_new hnew hstore
    refine exact_of_counts (fun other => ?_) fun other => ?_
    · rw [hlookup, hheld]
      by_cases hsame : other = entry.address
      · subst hsame
        simp
      · simp [hsame, Ne.symm hsame, h.counts]
    · rw [hheld]
      by_cases hsame : entry.address = other
      · subst hsame
        rw [if_pos rfl]
        omega
      · rw [if_neg hsame]
        exact h.limit other

theorem exact_issue (h : CountsExact config s) (address : String) (timestamp now : Nat) (randomHex : String) :
    CountsExact config (s.call config (.issue address timestamp now randomHex)).2 ↔
      CountsOwner config s (.issue address timestamp now randomHex) := by
  by_cases hroom : config.nonceMaxEntries ≤ s.store.keys.length
  · simpa [call, issue, CountsOwner, hroom, Nat.not_lt.mpr hroom] using h
  · by_cases hfull : MAX_NONCES_PER_ADDRESS ≤ s.held address
    · simpa [call, issue, CountsOwner, h.count, hroom, hfull, Nat.not_lt.mpr hfull] using h
    · have hbelow := Nat.lt_of_not_le hfull
      have hissued : (s.call config (.issue address timestamp now randomHex)).2 =
          { store := s.store.insert (mintNonce timestamp randomHex) { address, expiresAt := now + config.nonceTtlMs }
            addressIssueCounts := s.addressIssueCounts.insert address (s.held address + 1) } := by
        simp [call, issue, h.count, hroom, hfull]
      rw [hissued, exact_issued h hbelow rfl rfl rfl]
      simp [CountsOwner, hbelow, Nat.lt_of_not_le hroom]

/-- A call keeps the counters exact if and only if it counts the owner of what it adds or takes out. -/
theorem exact_call (h : CountsExact config s) (c : NonceCall) :
    CountsExact config (s.call config c).2 ↔ CountsOwner config s c := by
  cases c with
  | issue address timestamp now randomHex => exact exact_issue h address timestamp now randomHex
  | consume address nonce now => exact exact_consume h address nonce now
  | sweep now => exact iff_of_true (exact_sweep h now) trivial
  | cleanup now => exact iff_of_true h trivial

/-- **The counters are exact** in every state of a run if and only if every call in it counts the owner of the nonce
that it adds or takes out. -/
theorem counts_exact_iff (config : NonceConfig) (calls : List NonceCall) :
    (∀ past, past <+: calls → CountsExact config (after config past)) ↔
      ∀ past c, past ++ [c] <+: calls → CountsOwner config (after config past) c := by
  constructor
  · intro hexact past c hpast
    have hafter := hexact (past ++ [c]) hpast
    rw [after, List.foldl_concat] at hafter
    exact (exact_call (hexact past (Runs.prefix_of_snoc hpast)) c).mp hafter
  · exact fun howner past hpast => Runs.all_along exact_start
      (fun past c hpast hbefore => (exact_call hbefore c).mpr (howner past c hpast)) hpast

/-- A nonce of one address, presented for another when it has expired. -/
def misattributed : List NonceCall :=
  [.issue "GA" 0 0 "5e", .consume "GB" "0000000000005e" 300001]

/-- The nonce is gone and its owner still counts it; what another address holds is no longer counted. -/
theorem expired_nonce_counts_its_caller :
    (after {} misattributed).held "GA" = 0 ∧ (after {} misattributed).addressIssueCounts.lookup "GA" = some 1 ∧
      (after {} (.issue "GB" 1 1 "5f" :: misattributed)).held "GB" = 1 ∧
      (after {} (.issue "GB" 1 1 "5f" :: misattributed)).addressIssueCounts.lookup "GB" = none ∧
      ¬ ∀ past, past <+: misattributed → CountsExact {} (after {} past) := by
  have hgone : (after {} misattributed).held "GA" = 0 := by decide
  have hcounted : (after {} misattributed).addressIssueCounts.lookup "GA" = some 1 := by decide
  refine ⟨hgone, hcounted, by decide, by decide, fun hexact => ?_⟩
  have hcounts := (hexact misattributed List.prefix_rfl).counts "GA"
  simp [hgone, hcounted] at hcounts

end MemoryNonceStore

end OurDao
