import OurDao.Runs
import OurDao.Table

/-!
# The read-through cache

`getOrSetCache` asks Redis, reads the database and stores what it read, in three steps; an
invalidation deletes keys from Redis once its change is committed. A read that was under
way at the commit can store its old answer behind the deletion. As long as none does, no
read that begins after an invalidation is served anything older than the change.
-/

namespace OurDao

def membersListCacheKey (limit : Nat) : String := s!"members:list:{limit}"

/-- `MEMBERS_LIST_CACHE_KEY_PATTERN`, which is `members:list:*`. -/
def isMembersListKey (key : String) : Bool := "members:list:".toList.isPrefixOf key.toList

def memberSummaryCacheKey (address : String) : String := s!"members:summary:{address}"

/-- Something read from the database, and how many changes had been committed by then. -/
structure Copy (α : Type) where
  value : α
  version : Nat
  deriving DecidableEq

/-- A call of `getOrSetCache`, by the step it takes next. -/
inductive CacheRead (α : Type) where
  | idle
  | get (key : String)
  | fetch (key : String)
  | fallBack (key : String)
  | set (key : String) (copy : Copy α)
  | returned (key : String) (copy : Copy α)
  deriving DecidableEq

inductive Invalidation where
  | invalidateCache (keys : List String)
  | invalidateMembersListCache

def Invalidation.names : Invalidation → String → Bool
  | invalidateCache keys, key => keys.contains key
  | invalidateMembersListCache, key => isMembersListKey key

/-- A writer, from its commit to the end of its invalidation. Between two `SCAN`s it has the keys returned so far;
`held` are the members list keys that Redis has held all the time since the first. -/
inductive CacheWrite where
  | idle
  | committed (target : Invalidation) (version : Nat)
  | scanning (version : Nat) (keys held : List String)
  | scanned (version : Nat) (keys : List String)
  | done (target : Invalidation) (version : Nat)

/-- The call is about the key, and has nothing in hand that is older than the version. -/
def CacheRead.UpToDate {α : Type} (key : String) (version : Nat) : CacheRead α → Prop
  | idle => False
  | get key' | fetch key' | fallBack key' => key' = key
  | set key' copy | returned key' copy => key' = key ∧ version ≤ copy.version

namespace CacheWrite

/-- The version of the database that the writer's change made. -/
def change : CacheWrite → Nat
  | idle => 0
  | committed _ version | scanning version _ _ | scanned version _ | done _ version => version

/-- The invalidation names the key, and need not delete it any more. -/
def Passed : CacheWrite → String → Prop
  | scanning _ keys held, key => isMembersListKey key ∧ key ∉ keys ∧ key ∉ held
  | scanned _ keys, key => isMembersListKey key ∧ key ∉ keys
  | done target _, key => target.names key
  | _, _ => False

/-- Keys that Redis has lost during an iteration need not be returned by it. -/
def lose (keys : List String) : CacheWrite → CacheWrite
  | scanning version found held => scanning version found (held.filter (· ∉ keys))
  | w => w

end CacheWrite

/-- Redis and the calls of every process, each under a number of its own. -/
structure ReadCache (α : Type) where
  version : Nat := 0
  redis : Table String (Copy String) := ∅
  reads : Nat → CacheRead α := fun _ => .idle
  writes : Nat → CacheWrite := fun _ => .idle

inductive CacheEvent where
  | begin (r : Nat) (key : String)
  | get (r : Nat)
  | fetch (r : Nat)
  | set (r : Nat)
  | expire (key : String)
  | commit (w : Nat) (target : Invalidation)
  | scan (w : Nat) (batch : List String) (more : Bool)
  | del (w : Nat)

namespace ReadCache

variable {α : Type}

def setRead (s : ReadCache α) (r : Nat) (read : CacheRead α) : ReadCache α :=
  { s with reads := fun r' => if r' = r then read else s.reads r' }

def setWrite (s : ReadCache α) (w : Nat) (write : CacheWrite) : ReadCache α :=
  { s with writes := fun w' => if w' = w then write else s.writes w' }

def del (s : ReadCache α) (keys : List String) : ReadCache α :=
  { s with
    redis := s.redis.deleteWhere fun key _ => key ∈ keys
    writes := fun w => (s.writes w).lose keys }

def membersListKeys (s : ReadCache α) : List String := s.redis.keys.filter isMembersListKey

/-- One round trip of `SCAN`. Redis ends an iteration only when it has returned every key that was there from its
start on; any other key it may return or not. -/
def scan (s : ReadCache α) (version : Nat) (keys held batch : List String) (more : Bool) : CacheWrite :=
  let keys := keys ++ batch.filter fun key => isMembersListKey key && (s.redis.lookup key).isSome
  if more ∨ ∃ key ∈ held, key ∉ keys then .scanning version keys held
  else if keys = [] then .done .invalidateMembersListCache version
  else .scanned version keys

variable (fetcher : String → Nat → α) (stringify : α → String) (parse : String → Option α)

/-- What `redis.get` answers, and what the call makes of it. -/
def answer (s : ReadCache α) (key : String) : CacheRead α :=
  match s.redis.lookup key with
  | none => .fetch key
  | some cached =>
    match parse cached.value with
    | none => .fallBack key
    | some value => .returned key ⟨value, cached.version⟩

/-- `fetcher key n` is what the fetcher of the key reads from the database after `n` changes. -/
def act (s : ReadCache α) : CacheEvent → ReadCache α
  | .begin r key =>
    match s.reads r with
    | .idle => s.setRead r (.get key)
    | _ => s
  | .get r =>
    match s.reads r with
    | .get key => s.setRead r (s.answer parse key)
    | _ => s
  | .fetch r =>
    match s.reads r with
    | .fetch key => s.setRead r (.set key ⟨fetcher key s.version, s.version⟩)
    | .fallBack key => s.setRead r (.returned key ⟨fetcher key s.version, s.version⟩)
    | _ => s
  | .set r =>
    match s.reads r with
    | .set key copy =>
      { s with redis := s.redis.insert key ⟨stringify copy.value, copy.version⟩ }.setRead r (.returned key copy)
    | _ => s
  | .expire key => s.del [key]
  | .commit w target =>
    match s.writes w with
    | .idle => { s with version := s.version + 1 }.setWrite w (.committed target (s.version + 1))
    | _ => s
  | .scan w batch more =>
    match s.writes w with
    | .committed .invalidateMembersListCache version =>
      s.setWrite w (s.scan version [] s.membersListKeys batch more)
    | .scanning version keys held => s.setWrite w (s.scan version keys held batch more)
    | _ => s
  | .del w =>
    match s.writes w with
    | .committed (.invalidateCache keys) version =>
      (s.del keys).setWrite w (.done (.invalidateCache keys) version)
    | .scanned version keys => (s.del keys).setWrite w (.done .invalidateMembersListCache version)
    | _ => s

def after (events : List CacheEvent) : ReadCache α := events.foldl (act fetcher stringify parse) {}

/-- A copy is stored under a key only while no newer change has an invalidation that is past the key. -/
def Timely (s : ReadCache α) : CacheEvent → Prop
  | .set r => ∀ key copy, s.reads r = .set key copy →
      ∀ w, (s.writes w).Passed key → (s.writes w).change ≤ copy.version
  | _ => True

/-- What Redis holds is as new as every change whose invalidation is past the key. -/
structure Fresh (s : ReadCache α) : Prop where
  committed : ∀ w, (s.writes w).change ≤ s.version
  cached : ∀ w key copy, (s.writes w).Passed key → s.redis.lookup key = some copy → (s.writes w).change ≤ copy.version

/-- The value is what the fetcher read at a version the database has had, or has been through JSON since. -/
def Genuine (s : ReadCache α) (key : String) (copy : Copy α) : Prop :=
  copy.version ≤ s.version ∧
    (copy.value = fetcher key copy.version ∨ parse (stringify (fetcher key copy.version)) = some copy.value)

/-- A read of the key that begins once an invalidation of the key is done returns what some version of the database
not older than its change gave. -/
def NoStaleRead (events : List CacheEvent) : Prop :=
  ∀ past r key w target version copy, past ++ [.begin r key] <+: events →
    (after fetcher stringify parse past).reads r = .idle →
    (after fetcher stringify parse past).writes w = .done target version → target.names key →
    (after fetcher stringify parse events).reads r = .returned key copy →
    version ≤ copy.version ∧ Genuine fetcher stringify parse (after fetcher stringify parse events) key copy

variable {fetcher stringify parse} {s : ReadCache α} {r w : Nat} {key : String} {copy : Copy α}

@[simp] theorem setRead_self (read : CacheRead α) : (s.setRead r read).reads r = read := by simp [setRead]

theorem setRead_ne {r' : Nat} (h : r' ≠ r) (read : CacheRead α) : (s.setRead r read).reads r' = s.reads r' := by
  simp [setRead, h]

@[simp] theorem setWrite_self (write : CacheWrite) : (s.setWrite w write).writes w = write := by simp [setWrite]

theorem setWrite_ne {w' : Nat} (h : w' ≠ w) (write : CacheWrite) : (s.setWrite w write).writes w' = s.writes w' := by
  simp [setWrite, h]

theorem lookup_del {keys : List String} {cached : Copy String} :
    (s.del keys).redis.lookup key = some cached ↔ s.redis.lookup key = some cached ∧ key ∉ keys := by
  simp [del, Table.lookup_deleteWhere, Option.filter_eq_some_iff]

@[simp] theorem change_lose (keys : List String) (write : CacheWrite) : (write.lose keys).change = write.change := by
  cases write <;> rfl

/-- An iteration is past no key that it was not past before, but for those that were deleted. -/
theorem passed_lose {keys : List String} {write : CacheWrite} (h : (write.lose keys).Passed key) :
    write.Passed key ∨ key ∈ keys := by
  cases write with
  | scanning version found held =>
    obtain ⟨hlist, hfound, hheld⟩ := h
    by_cases hkey : key ∈ keys
    · exact .inr hkey
    · exact .inl ⟨hlist, hfound, fun hmem => hheld (by simp [hmem, hkey])⟩
  | _ => exact .inl h

theorem Fresh.setRead (h : Fresh s) (read : CacheRead α) : Fresh (s.setRead r read) := ⟨h.committed, h.cached⟩

theorem Fresh.setWrite (h : Fresh s) {write : CacheWrite} (hchange : write.change ≤ s.version)
    (hpassed : ∀ key cached, write.Passed key → s.redis.lookup key = some cached → write.change ≤ cached.version) :
    Fresh (s.setWrite w write) := by
  constructor
  case committed =>
    intro w'
    by_cases hw : w' = w
    · subst hw
      rw [setWrite_self]
      exact hchange
    · rw [setWrite_ne hw]
      exact h.committed w'
  case cached =>
    intro w' key cached
    by_cases hw : w' = w
    · subst hw
      rw [setWrite_self]
      exact hpassed key cached
    · rw [setWrite_ne hw]
      exact h.cached w' key cached

theorem Fresh.del (h : Fresh s) (keys : List String) : Fresh (s.del keys) := by
  constructor
  case committed =>
    intro w
    have hcommitted := h.committed w
    simpa [ReadCache.del] using hcommitted
  case cached =>
    intro w key cached hpassed hlookup
    obtain ⟨hold, hkey⟩ := lookup_del.mp hlookup
    obtain hbefore | hlost := passed_lose hpassed
    · simpa [ReadCache.del] using h.cached w key cached hbefore hold
    · exact absurd hlost hkey

/-- The keys that an iteration leaves out were not there all the time. -/
theorem passed_scan {version : Nat} {keys held batch : List String} {more : Bool}
    (h : (s.scan version keys held batch more).Passed key) : isMembersListKey key ∧ key ∉ keys ∧ key ∉ held := by
  simp only [scan] at h
  split at h
  case isTrue =>
    obtain ⟨hlist, hkeys, hheld⟩ := h
    exact ⟨hlist, fun hmem => hkeys (by simp [hmem]), hheld⟩
  case isFalse hall =>
    simp only [not_or, not_exists, not_and, not_not] at hall
    split at h
    case isTrue hnone =>
      have hheld : key ∉ held := fun hmem => by simpa [hnone] using hall.2 key hmem
      have hkeys : keys = [] := (List.append_eq_nil_iff.mp hnone).1
      exact ⟨h, by simp [hkeys], hheld⟩
    case isFalse =>
      obtain ⟨hlist, hkeys⟩ := h
      exact ⟨hlist, fun hmem => hkeys (by simp [hmem]), fun hmem => hkeys (hall.2 key hmem)⟩

theorem change_scan (version : Nat) (keys held batch : List String) (more : Bool) :
    (s.scan version keys held batch more).change = version := by
  simp only [scan]
  split
  · rfl
  · split <;> rfl

theorem mem_membersListKeys {cached : Copy String} (hlookup : s.redis.lookup key = some cached)
    (hlist : isMembersListKey key) : key ∈ s.membersListKeys := by
  have hkey : key ∈ s.redis := AList.lookup_isSome.mp (by simp [hlookup])
  exact List.mem_filter.mpr ⟨AList.mem_keys.mp hkey, hlist⟩

/-- A step keeps Redis as new as that when a copy it stores is. -/
theorem Fresh.act (h : Fresh s) (e : CacheEvent) (htimely : s.Timely e) : Fresh
    (s.act fetcher stringify parse e) := by
  cases e with
  | begin r key =>
    simp only [ReadCache.act]
    split
    · exact h.setRead _
    · exact h
  | get r =>
    simp only [ReadCache.act]
    split
    · exact h.setRead _
    · exact h
  | fetch r =>
    simp only [ReadCache.act]
    split
    · exact h.setRead _
    · exact h.setRead _
    · exact h
  | set r =>
    simp only [ReadCache.act]
    split
    case h_1 key copy hset =>
      refine ⟨h.committed, ?_⟩
      intro w key' cached hpassed hlookup
      change (s.redis.insert key ⟨stringify copy.value, copy.version⟩).lookup key' = some cached at hlookup
      rw [Table.lookup_insert] at hlookup
      by_cases hkey : key' = key
      · subst hkey
        simp only [if_true, Option.some.injEq] at hlookup
        rw [← hlookup]
        exact htimely key' copy hset w hpassed
      · rw [if_neg hkey] at hlookup
        exact h.cached w key' cached hpassed hlookup
    case h_2 => exact h
  | expire key => exact h.del [key]
  | commit w target =>
    simp only [ReadCache.act]
    split
    · have hnext : Fresh { s with version := s.version + 1 } :=
        ⟨fun w => Nat.le_succ_of_le (h.committed w), h.cached⟩
      exact hnext.setWrite (by simp [CacheWrite.change]) (fun key cached hpassed => hpassed.elim)
    · exact h
  | scan w batch more =>
    have hcommitted := h.committed w
    simp only [ReadCache.act]
    split
    case h_1 version hw =>
      rw [hw] at hcommitted
      refine h.setWrite (by rw [change_scan]; exact hcommitted) ?_
      intro key cached hpassed hlookup
      obtain ⟨hlist, -, hheld⟩ := passed_scan hpassed
      exact absurd (mem_membersListKeys hlookup hlist) hheld
    case h_2 version keys held hw =>
      rw [hw] at hcommitted
      refine h.setWrite (by rw [change_scan]; exact hcommitted) ?_
      intro key cached hpassed hlookup
      have hold := h.cached w key cached (by rw [hw]; exact passed_scan hpassed) hlookup
      rw [hw] at hold
      rw [change_scan]
      exact hold
    case h_3 => exact h
  | del w =>
    have hcommitted := h.committed w
    simp only [ReadCache.act]
    split
    case h_1 keys version hw =>
      rw [hw] at hcommitted
      refine (h.del keys).setWrite hcommitted ?_
      intro key cached hpassed hlookup
      obtain ⟨-, hkey⟩ := lookup_del.mp hlookup
      simp [CacheWrite.Passed, Invalidation.names, hkey] at hpassed
    case h_2 version keys hw =>
      rw [hw] at hcommitted
      refine (h.del keys).setWrite hcommitted ?_
      intro key cached hpassed hlookup
      obtain ⟨hold, hkey⟩ := lookup_del.mp hlookup
      have hbefore := h.cached w key cached (by rw [hw]; exact ⟨hpassed, hkey⟩) hold
      rw [hw] at hbefore
      exact hbefore
    case h_3 => exact h

/-- Redis and the calls hold nothing but what fetchers read. -/
structure Sound (fetcher : String → Nat → α) (stringify : α → String) (parse : String → Option α)
    (s : ReadCache α) : Prop where
  cached : ∀ key cached, s.redis.lookup key = some cached →
    cached.version ≤ s.version ∧ cached.value = stringify (fetcher key cached.version)
  set : ∀ r key copy, s.reads r = .set key copy → copy.version ≤ s.version ∧ copy.value = fetcher key copy.version
  returned : ∀ r key copy, s.reads r = .returned key copy → Genuine fetcher stringify parse s key copy

theorem Sound.mono (h : Sound fetcher stringify parse s) {s' : ReadCache α} (hversion : s.version ≤ s'.version)
    (hredis : ∀ key cached, s'.redis.lookup key = some cached → s.redis.lookup key = some cached)
    (hreads : s'.reads = s.reads) : Sound fetcher stringify parse s' := by
  constructor
  case cached =>
    intro key cached hlookup
    obtain ⟨hle, hvalue⟩ := h.cached key cached (hredis key cached hlookup)
    exact ⟨by omega, hvalue⟩
  case set =>
    intro r key copy hset
    obtain ⟨hle, hvalue⟩ := h.set r key copy (hreads ▸ hset)
    exact ⟨by omega, hvalue⟩
  case returned =>
    intro r key copy hreturned
    obtain ⟨hle, hvalue⟩ := h.returned r key copy (hreads ▸ hreturned)
    exact ⟨by omega, hvalue⟩

theorem Sound.setRead (h : Sound fetcher stringify parse s) {read : CacheRead α}
    (hset : ∀ key copy, read = .set key copy → copy.version ≤ s.version ∧ copy.value = fetcher key copy.version)
    (hreturned : ∀ key copy, read = .returned key copy → Genuine fetcher stringify parse s key copy) :
    Sound fetcher stringify parse (s.setRead r read) := by
  constructor
  case cached => exact h.cached
  case set =>
    intro r' key copy
    by_cases hr : r' = r
    · subst hr
      rw [setRead_self]
      exact hset key copy
    · rw [setRead_ne hr]
      exact h.set r' key copy
  case returned =>
    intro r' key copy
    by_cases hr : r' = r
    · subst hr
      rw [setRead_self]
      exact hreturned key copy
    · rw [setRead_ne hr]
      exact h.returned r' key copy

/-- A hit is as new as what Redis holds. -/
theorem Sound.answer (h : Sound fetcher stringify parse s) (hanswer : s.answer parse key = .returned key copy) :
    Genuine fetcher stringify parse s key copy := by
  simp only [ReadCache.answer] at hanswer
  split at hanswer
  · cases hanswer
  case h_2 cached hlookup =>
    obtain ⟨hle, hvalue⟩ := h.cached key cached hlookup
    split at hanswer
    · cases hanswer
    case h_2 value hparse =>
      cases hanswer
      exact ⟨hle, .inr (by rw [← hvalue, hparse])⟩

theorem Sound.act (h : Sound fetcher stringify parse s) (e : CacheEvent) :
    Sound fetcher stringify parse (s.act fetcher stringify parse e) := by
  cases e with
  | begin r key =>
    simp only [ReadCache.act]
    split
    · exact h.setRead (by simp) (by simp)
    · exact h
  | get r =>
    simp only [ReadCache.act]
    split
    case h_1 key hget =>
      refine h.setRead ?_ ?_
      · intro key' copy hset
        simp only [ReadCache.answer] at hset
        split at hset
        · cases hset
        · split at hset <;> cases hset
      · intro key' copy hreturned
        have hkey : key' = key := by
          simp only [ReadCache.answer] at hreturned
          split at hreturned
          · cases hreturned
          · split at hreturned <;> cases hreturned
            rfl
        subst hkey
        exact h.answer hreturned
    case h_2 => exact h
  | fetch r =>
    simp only [ReadCache.act]
    split
    · refine h.setRead ?_ (by simp)
      rintro key copy ⟨⟩
      exact ⟨le_rfl, rfl⟩
    · refine h.setRead (by simp) ?_
      rintro key copy ⟨⟩
      exact ⟨le_rfl, .inl rfl⟩
    · exact h
  | set r =>
    simp only [ReadCache.act]
    split
    case h_1 key copy hset =>
      obtain ⟨hle, hvalue⟩ := h.set r key copy hset
      have hstored : Sound fetcher stringify parse
          { s with redis := s.redis.insert key ⟨stringify copy.value, copy.version⟩ } := by
        refine ⟨?_, h.set, h.returned⟩
        intro key' cached hlookup
        change (s.redis.insert key ⟨stringify copy.value, copy.version⟩).lookup key' = some cached at hlookup
        rw [Table.lookup_insert] at hlookup
        by_cases hkey : key' = key
        · subst hkey
          simp only [if_true, Option.some.injEq] at hlookup
          subst hlookup
          exact ⟨hle, by rw [hvalue]⟩
        · rw [if_neg hkey] at hlookup
          exact h.cached key' cached hlookup
      refine hstored.setRead (by simp) ?_
      rintro key' copy' ⟨⟩
      exact ⟨hle, .inl hvalue⟩
    case h_2 => exact h
  | expire key => exact h.mono le_rfl (fun key' cached hlookup => (lookup_del.mp hlookup).1) rfl
  | commit w target =>
    simp only [ReadCache.act]
    split
    · exact h.mono (Nat.le_succ _) (fun key cached hlookup => hlookup) rfl
    · exact h
  | scan w batch more =>
    simp only [ReadCache.act]
    split
    · exact h.mono le_rfl (fun key cached hlookup => hlookup) rfl
    · exact h.mono le_rfl (fun key cached hlookup => hlookup) rfl
    · exact h
  | del w =>
    simp only [ReadCache.act]
    split
    · exact h.mono le_rfl (fun key cached hlookup => (lookup_del.mp hlookup).1) rfl
    · exact h.mono le_rfl (fun key cached hlookup => (lookup_del.mp hlookup).1) rfl
    · exact h

/-- A read that has nothing too old in hand gets nothing too old. -/
theorem upToDate_act (h : Fresh s) {target : Invalidation} {version : Nat} (hw : s.writes w = .done target version)
    (hnames : target.names key) (hr : (s.reads r).UpToDate key version) (e : CacheEvent) :
    ((s.act fetcher stringify parse e).reads r).UpToDate key version := by
  have hversion : version ≤ s.version := by
    have hcommitted := h.committed w
    rw [hw] at hcommitted
    exact hcommitted
  have hset : ∀ r' read, (r' = r → read.UpToDate key version) →
      ((s.setRead r' read).reads r).UpToDate key version := by
    intro r' read hread
    by_cases hr' : r = r'
    · subst hr'
      simpa using hread rfl
    · rwa [setRead_ne hr']
  cases e with
  | begin r' key' =>
    simp only [ReadCache.act]
    split
    case h_1 hidle =>
      apply hset
      rintro rfl
      rw [hidle] at hr
      exact hr.elim
    case h_2 => exact hr
  | get r' =>
    simp only [ReadCache.act]
    split
    case h_1 key' hget =>
      apply hset
      rintro rfl
      rw [hget] at hr
      have hkey : key' = key := hr
      subst hkey
      simp only [answer]
      split
      · exact rfl
      case h_2 cached hlookup =>
        have hcached := h.cached w key' cached (by rw [hw]; exact hnames) hlookup
        rw [hw] at hcached
        split
        · exact rfl
        · exact ⟨rfl, hcached⟩
    case h_2 => exact hr
  | fetch r' =>
    simp only [ReadCache.act]
    split
    case h_1 key' hfetch =>
      apply hset
      rintro rfl
      rw [hfetch] at hr
      exact ⟨hr, hversion⟩
    case h_2 key' hfallBack =>
      apply hset
      rintro rfl
      rw [hfallBack] at hr
      exact ⟨hr, hversion⟩
    case h_3 => exact hr
  | set r' =>
    simp only [ReadCache.act]
    split
    case h_1 key' copy hcopy =>
      apply hset
      rintro rfl
      rw [hcopy] at hr
      exact hr
    case h_2 => exact hr
  | expire key' => exact hr
  | commit w' target' =>
    simp only [ReadCache.act]
    split <;> exact hr
  | scan w' batch more =>
    simp only [ReadCache.act]
    split <;> exact hr
  | del w' =>
    simp only [ReadCache.act]
    split <;> exact hr

/-- An invalidation that is done stays so. -/
theorem done_act {target : Invalidation} {version : Nat} (hw : s.writes w = .done target version) (e : CacheEvent) :
    (s.act fetcher stringify parse e).writes w = .done target version := by
  have hset : ∀ w' write, w' ≠ w → (s.setWrite w' write).writes w = .done target version := by
    intro w' write hw'
    rwa [setWrite_ne hw'.symm]
  have hdel : ∀ keys, (s.del keys).writes w = .done target version := by
    intro keys
    simp [del, hw, CacheWrite.lose]
  cases e with
  | begin r key | get r | fetch r | set r =>
    simp only [ReadCache.act]
    split <;> exact hw
  | expire key => exact hdel [key]
  | commit w' target' =>
    simp only [ReadCache.act]
    split
    case h_1 hidle => exact hset w' _ (by rintro rfl; simp [hw] at hidle)
    case h_2 => exact hw
  | scan w' batch more =>
    simp only [ReadCache.act]
    split
    case h_1 version' hw' => exact hset w' _ (by rintro rfl; simp [hw] at hw')
    case h_2 version' keys held hw' => exact hset w' _ (by rintro rfl; simp [hw] at hw')
    case h_3 => exact hw
  | del w' =>
    simp only [ReadCache.act]
    split
    case h_1 keys version' hw' =>
      rw [setWrite_ne (by rintro rfl; simp [hw] at hw')]
      exact hdel keys
    case h_2 version' keys hw' =>
      rw [setWrite_ne (by rintro rfl; simp [hw] at hw')]
      exact hdel keys
    case h_3 => exact hw

variable (fetcher stringify parse)

theorem fresh_after {events : List CacheEvent}
    (htimely : ∀ past e, past ++ [e] <+: events → (after fetcher stringify parse past).Timely e) :
    Fresh (after fetcher stringify parse events) := by
  refine Runs.all_along ?_ (fun past e hpast hfresh => hfresh.act e (htimely past e hpast)) List.prefix_rfl
  constructor
  case committed => simp [CacheWrite.change]
  case cached => simp [CacheWrite.Passed]

theorem sound_after (events : List CacheEvent) :
    Sound fetcher stringify parse (after fetcher stringify parse events) := by
  refine Runs.all_along ?_ (fun past e _ hsound => hsound.act e) List.prefix_rfl
  constructor <;> simp

/-- **No stale read**: in a run that stores no copy under a key when the invalidation of a newer change is already
past the key, a read that begins after an invalidation is served nothing older than its change. -/
theorem no_stale_read (events : List CacheEvent)
    (htimely : ∀ past e, past ++ [e] <+: events → (after fetcher stringify parse past).Timely e) :
    NoStaleRead fetcher stringify parse events := by
  intro past r key w target version copy hpast hidle hdone hnames hreturned
  have hbegun : (after fetcher stringify parse (past ++ [.begin r key])).writes w = .done target version ∧
      ((after fetcher stringify parse (past ++ [.begin r key])).reads r).UpToDate key version := by
    rw [after, List.foldl_concat, ← after]
    simp [act, hidle, hdone, setRead, CacheRead.UpToDate]
  have hserved : (after fetcher stringify parse events).writes w = .done target version ∧
      ((after fetcher stringify parse events).reads r).UpToDate key version := by
    refine Runs.ever_after
      (P := fun s : ReadCache α => s.writes w = .done target version ∧ (s.reads r).UpToDate key version) hpast hbegun ?_
    rintro later e - hwithin ⟨hw, hr⟩
    have hfresh := fresh_after fetcher stringify parse fun past' e' hpast' =>
      htimely past' e' (hpast'.trans (Runs.prefix_of_snoc hwithin))
    exact ⟨done_act hw e, upToDate_act hfresh hw hnames hr e⟩
  have hr := hserved.2
  rw [hreturned] at hr
  exact ⟨hr.2, (sound_after fetcher stringify parse _).returned r key copy hreturned⟩

/-- Whether an address is a member, once one change has made it one. -/
def joinedAfterOne (_ : String) (changes : Nat) : Bool := 1 ≤ changes

def boolToJson : Bool → String
  | true => "true"
  | false => "false"

def boolOfJson (text : String) : Option Bool :=
  if text = "true" then some true else if text = "false" then some false else none

theorem no_stale_read_join : NoStaleRead joinedAfterOne boolToJson boolOfJson
    [.begin 0 "members:list:50", .get 0, .fetch 0, .commit 0 .invalidateMembersListCache, .set 0,
      .scan 0 ["members:list:50"] false, .del 0, .begin 1 "members:list:50", .get 1, .fetch 1, .set 1] := by
  apply no_stale_read
  simp only [Runs.forall_snoc_prefix_cons]
  refine ⟨trivial, trivial, trivial, trivial, ?_, trivial, trivial, trivial, trivial, trivial, ?_,
    Runs.forall_snoc_prefix_nil⟩
  · intro key copy _ w hpassed
    cases w with
    | zero => exact hpassed.elim
    | succ w => exact hpassed.elim
  · intro key copy hset w _
    have hread : CacheRead.set "members:list:50" ⟨true, 1⟩ = .set key copy := hset
    cases hread
    cases w with
    | zero => exact le_refl 1
    | succ w => exact Nat.zero_le 1

/-- The answer that the address is no member is stored behind the deletion that the join ran, and served after it. -/
theorem stale_read_after_join : ¬ NoStaleRead joinedAfterOne boolToJson boolOfJson
    [.begin 0 "members:summary:GA", .get 0, .fetch 0, .commit 0 (.invalidateCache ["members:summary:GA"]), .del 0,
      .set 0, .begin 1 "members:summary:GA", .get 1] := by
  intro h
  have hversion := (h [.begin 0 "members:summary:GA", .get 0, .fetch 0,
    .commit 0 (.invalidateCache ["members:summary:GA"]), .del 0, .set 0] 1 "members:summary:GA" 0
    (.invalidateCache ["members:summary:GA"]) 1 ⟨false, 0⟩ ⟨[.get 1], rfl⟩ rfl rfl (by decide) (by decide +kernel)).1
  exact absurd hversion (by decide)

end ReadCache

end OurDao
