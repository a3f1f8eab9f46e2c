import Mathlib.Logic.Function.Basic
import OurDao.ReadCache

/-!
# The cache of the loan history

`GET /stats/history` looks into Redis, where one is configured, then into a copy that the
API process keeps for an hour, then into the database. A fold deletes the Redis key, but
while its transaction is open, and nothing reaches the copy of the API process. What is
served is fresh as long as no old copy is held when a fold is over.
-/

namespace OurDao

def HISTORY_CACHE_TTL_SECONDS : Nat := 3600

/-- `localValue`, with the clock in milliseconds. -/
structure LocalValue (ρ : Type) where
  expiresAt : Nat
  copy : Copy (List ρ)

/-- A request, by the step it takes next. -/
inductive HistoryRead (ρ : Type) where
  | idle
  | getRedis
  | getLocal
  | query
  | setLocal (copy : Copy (List ρ))
  | setRedis (copy : Copy (List ρ))
  | returned (copy : Copy (List ρ))
  deriving DecidableEq

/-- A fold that changes `daily_loan_stats`: its transaction is open until it is committed, and the work after that
goes on until it is done. -/
inductive HistoryFold where
  | folding
  | committed (version : Nat)
  | done (version : Nat)
  deriving DecidableEq

/-- The request has nothing in hand that is older than the version. -/
def HistoryRead.UpToDate {ρ : Type} (version : Nat) : HistoryRead ρ → Prop
  | idle => False
  | getRedis | getLocal | query => True
  | setLocal copy | setRedis copy | returned copy => version ≤ copy.version

def HistoryFold.change : HistoryFold → Nat
  | folding => 0
  | committed version | done version => version

/-- The cache object of the API process and Redis, with the requests and folds under way. `version` counts the folds
committed so far. -/
structure HistoryCache (ρ : Type) where
  now : Nat := 0
  version : Nat := 0
  localValue : Option (LocalValue ρ) := none
  redis : Option (Copy String) := none
  reads : Nat → HistoryRead ρ := fun _ => .idle
  folds : Nat → HistoryFold := fun _ => .folding

/-- A fold, a replay or a rebuild invalidates any number of times before it commits; a rebuild does so `again` when it
is over. -/
inductive HistoryEvent where
  | begin (r : Nat)
  | getRedis (r : Nat)
  | getLocal (r : Nat)
  | query (r : Nat)
  | setLocal (r : Nat)
  | setRedis (r : Nat)
  | expire
  | tick (ms : Nat)
  | invalidate (w : Nat)
  | commit (w : Nat)
  | finish (w : Nat) (again : Bool)

namespace HistoryCache

variable {ρ : Type}

/-- The object a handler creates to invalidate has a `localValue` of its own; only the key in Redis is shared. -/
def invalidate (s : HistoryCache ρ) : HistoryCache ρ := { s with redis := none }

def setRead (s : HistoryCache ρ) (r : Nat) (read : HistoryRead ρ) : HistoryCache ρ :=
  { s with reads := Function.update s.reads r read }

variable (shared : Bool) (history : Nat → Nat → List ρ)
    (stringify : List ρ → String) (parse : String → Option (List ρ))

/-- What the look into Redis comes to. -/
def fromRedis (s : HistoryCache ρ) : HistoryRead ρ :=
  match s.redis with
  | none => .getLocal
  | some cached =>
    match parse cached.value with
    | none => .getLocal
    | some value => .returned ⟨value, cached.version⟩

def fromLocal (s : HistoryCache ρ) : HistoryRead ρ :=
  match s.localValue with
  | none => .query
  | some held => if s.now < held.expiresAt then .returned held.copy else .query

/-- `history n now` is what the query gives after `n` folds; `shared` says whether there is a Redis. -/
def act (s : HistoryCache ρ) : HistoryEvent → HistoryCache ρ
  | .begin r =>
    match s.reads r with
    | .idle => s.setRead r .getRedis
    | _ => s
  | .getRedis r =>
    match s.reads r with
    | .getRedis => s.setRead r (if shared then s.fromRedis parse else .getLocal)
    | _ => s
  | .getLocal r =>
    match s.reads r with
    | .getLocal => s.setRead r s.fromLocal
    | _ => s
  | .query r =>
    match s.reads r with
    | .query =>
      let copy : Copy (List ρ) := ⟨history s.version s.now, s.version⟩
      s.setRead r (if copy.value.isEmpty then .returned copy else .setLocal copy)
    | _ => s
  | .setLocal r =>
    match s.reads r with
    | .setLocal copy =>
      { s with localValue := some ⟨s.now + HISTORY_CACHE_TTL_SECONDS * 1000, copy⟩ }.setRead r (.setRedis copy)
    | _ => s
  | .setRedis r =>
    match s.reads r with
    | .setRedis copy =>
      { s with redis := if shared then some ⟨stringify copy.value, copy.version⟩ else s.redis }.setRead r
        (.returned copy)
    | _ => s
  | .expire => { s with redis := none }
  | .tick ms => { s with now := s.now + ms }
  | .invalidate w =>
    match s.folds w with
    | .folding => s.invalidate
    | _ => s
  | .commit w =>
    match s.folds w with
    | .folding =>
      { s with
        version := s.version + 1
        folds := Function.update s.folds w (.committed (s.version + 1)) }
    | _ => s
  | .finish w again =>
    match s.folds w with
    | .committed version =>
      let s := { s with folds := Function.update s.folds w (.done version) }
      if again then s.invalidate else s
    | _ => s

def after (events : List HistoryEvent) : HistoryCache ρ := events.foldl (act shared history stringify parse) {}

/-- When a fold is over neither the API process nor Redis holds an older copy, and none is stored later. -/
def Timely (s : HistoryCache ρ) : HistoryEvent → Prop
  | .setLocal r => ∀ copy, s.reads r = .setLocal copy →
      ∀ w version, s.folds w = .done version → version ≤ copy.version
  | .setRedis r => shared → ∀ copy, s.reads r = .setRedis copy →
    ∀ w version, s.folds w = .done version → version ≤ copy.version
  | .finish w again => ∀ version, s.folds w = .committed version →
    (∀ held, s.localValue = some held → s.now < held.expiresAt → version ≤ held.copy.version) ∧
    (again = false → ∀ cached, s.redis = some cached → version ≤ cached.version)
  | _ => True

/-- What is held is as new as every fold that is over. -/
structure Fresh (s : HistoryCache ρ) : Prop where
  committed : ∀ w, (s.folds w).change ≤ s.version
  inProcess : ∀ w version held, s.folds w = .done version → s.localValue = some held → s.now < held.expiresAt →
    version ≤ held.copy.version
  inRedis : ∀ w version cached, s.folds w = .done version → s.redis = some cached → version ≤ cached.version

/-- The data was computed from a version the database has had, or has been through JSON since. -/
def Genuine (s : HistoryCache ρ) (copy : Copy (List ρ)) : Prop :=
  copy.version ≤ s.version ∧ ∃ instant ≤ s.now,
    copy.value = history copy.version instant ∨ parse (stringify (history copy.version instant)) = some copy.value

/-- A request that begins once a fold is over is served data that includes the fold. -/
def NoStaleRead (events : List HistoryEvent) : Prop :=
  ∀ past r w version copy, past ++ [.begin r] <+: events →
    (after shared history stringify parse past).reads r = .idle →
    (after shared history stringify parse past).folds w = .done version →
    (after shared history stringify parse events).reads r = .returned copy →
    version ≤ copy.version ∧ Genuine history stringify parse (after shared history stringify parse events) copy

variable {shared history stringify parse} {s : HistoryCache ρ} {r w : Nat}

theorem Fresh.setRead (h : Fresh s) (read : HistoryRead ρ) : Fresh (s.setRead r read) :=
  ⟨h.committed, h.inProcess, h.inRedis⟩

theorem Fresh.invalidate (h : Fresh s) : Fresh s.invalidate :=
  ⟨h.committed, h.inProcess, by simp [HistoryCache.invalidate]⟩

/-- The fold `w` is over; what is held includes it. -/
theorem Fresh.finish (h : Fresh s) {version : Nat} (hw : s.folds w = .committed version)
    (hprocess : ∀ held, s.localValue = some held → s.now < held.expiresAt → version ≤ held.copy.version)
    (hredis : ∀ cached, s.redis = some cached → version ≤ cached.version) :
    Fresh { s with folds := Function.update s.folds w (.done version) } := by
  have hdone : ∀ w' version', Function.update s.folds w (.done version) w' = .done version' →
      version' = version ∨ s.folds w' = .done version' := by
    intro w' version' hw'
    by_cases heq : w' = w
    · subst heq
      rw [Function.update_self] at hw'
      cases hw'
      exact .inl rfl
    · rw [Function.update_of_ne heq] at hw'
      exact .inr hw'
  constructor
  case committed =>
    intro w'
    by_cases heq : w' = w
    · subst heq
      have hcommitted := h.committed w'
      rw [hw] at hcommitted
      simpa [HistoryFold.change] using hcommitted
    · simpa [Function.update_of_ne heq] using h.committed w'
  case inProcess =>
    intro w' version' held hw' hheld hlive
    obtain rfl | hold := hdone w' version' hw'
    · exact hprocess held hheld hlive
    · exact h.inProcess w' version' held hold hheld hlive
  case inRedis =>
    intro w' version' cached hw' hcached
    obtain rfl | hold := hdone w' version' hw'
    · exact hredis cached hcached
    · exact h.inRedis w' version' cached hold hcached

/-- A timely step keeps what is held as new as that. -/
theorem Fresh.act (h : Fresh s) (e : HistoryEvent) (htimely : s.Timely shared e) :
    Fresh (s.act shared history stringify parse e) := by
  cases e with
  | begin r | getRedis r | getLocal r | query r =>
    simp only [HistoryCache.act]
    split
    · exact h.setRead _
    · exact h
  | setLocal r =>
    simp only [HistoryCache.act]
    split
    case h_1 copy hset =>
      refine ⟨h.committed, ?_, h.inRedis⟩
      intro w version held hw hheld _
      cases hheld
      exact htimely copy hset w version hw
    case h_2 => exact h
  | setRedis r =>
    simp only [HistoryCache.act]
    split
    case h_1 copy hset =>
      refine ⟨h.committed, h.inProcess, ?_⟩
      intro w version cached hw hcached
      cases shared with
      | true =>
        cases hcached
        exact htimely rfl copy hset w version hw
      | false => exact h.inRedis w version cached hw hcached
    case h_2 => exact h
  | expire => exact h.invalidate
  | tick ms =>
    refine ⟨h.committed, fun w version held hw hheld hlive => ?_, h.inRedis⟩
    exact h.inProcess w version held hw hheld (Nat.lt_of_le_of_lt (Nat.le_add_right s.now ms) hlive)
  | invalidate w =>
    simp only [HistoryCache.act]
    split
    · exact h.invalidate
    · exact h
  | commit w =>
    simp only [HistoryCache.act]
    split
    case h_1 hw =>
      have hdone : ∀ w' version, Function.update s.folds w (.committed (s.version + 1)) w' = .done version →
          s.folds w' = .done version := by
        intro w' version hw'
        by_cases heq : w' = w
        · subst heq
          simp at hw'
        · rwa [Function.update_of_ne heq] at hw'
      constructor
      case committed =>
        intro w'
        by_cases heq : w' = w
        · subst heq
          simp [HistoryFold.change]
        · have hcommitted := h.committed w'
          simp only [Function.update_of_ne heq]
          omega
      case inProcess => exact fun w' version held hw' => h.inProcess w' version held (hdone w' version hw')
      case inRedis => exact fun w' version cached hw' => h.inRedis w' version cached (hdone w' version hw')
    case h_2 => exact h
  | finish w again =>
    simp only [HistoryCache.act]
    split
    case h_1 version hw =>
      obtain ⟨hprocess, hredis⟩ := htimely version hw
      cases again with
      | false => exact h.finish hw hprocess (hredis rfl)
      | true => exact h.invalidate.finish hw hprocess (by simp [HistoryCache.invalidate])
    case h_2 => exact h

/-- The copy came from the database. -/
def Fetched (history : Nat → Nat → List ρ) (s : HistoryCache ρ) (copy : Copy (List ρ)) : Prop :=
  copy.version ≤ s.version ∧ ∃ instant ≤ s.now, copy.value = history copy.version instant

/-- The cache and the requests hold nothing but what the query gave. -/
structure Sound (history : Nat → Nat → List ρ) (stringify : List ρ → String) (parse : String → Option (List ρ))
    (s : HistoryCache ρ) : Prop where
  inProcess : ∀ held, s.localValue = some held → Fetched history s held.copy
  inRedis : ∀ cached, s.redis = some cached →
    cached.version ≤ s.version ∧ ∃ instant ≤ s.now, cached.value = stringify (history cached.version instant)
  setLocal : ∀ r copy, s.reads r = .setLocal copy → Fetched history s copy
  setRedis : ∀ r copy, s.reads r = .setRedis copy → Fetched history s copy
  returned : ∀ r copy, s.reads r = .returned copy → Genuine history stringify parse s copy

theorem Fetched.genuine {copy : Copy (List ρ)} (h : Fetched history s copy) :
    Genuine history stringify parse s copy := by
  obtain ⟨hle, instant, hinstant, hvalue⟩ := h
  exact ⟨hle, instant, hinstant, .inl hvalue⟩

/-- Time and further folds do not make a copy unsound. -/
theorem Sound.mono (h : Sound history stringify parse s) {s' : HistoryCache ρ} (hnow : s.now ≤ s'.now)
    (hversion : s.version ≤ s'.version) (hlocal : s'.localValue = s.localValue)
    (hredis : ∀ cached, s'.redis = some cached → s.redis = some cached) (hreads : s'.reads = s.reads) :
    Sound history stringify parse s' := by
  have hfetched : ∀ copy, Fetched history s copy → Fetched history s' copy := by
    rintro copy ⟨hle, instant, hinstant, hvalue⟩
    exact ⟨by omega, instant, by omega, hvalue⟩
  constructor
  case inProcess => exact fun held hheld => hfetched _ (h.inProcess held (hlocal ▸ hheld))
  case inRedis =>
    intro cached hcached
    obtain ⟨hle, instant, hinstant, hvalue⟩ := h.inRedis cached (hredis cached hcached)
    exact ⟨by omega, instant, by omega, hvalue⟩
  case setLocal => exact fun r copy hset => hfetched copy (h.setLocal r copy (hreads ▸ hset))
  case setRedis => exact fun r copy hset => hfetched copy (h.setRedis r copy (hreads ▸ hset))
  case returned =>
    intro r copy hreturned
    obtain ⟨hle, instant, hinstant, hvalue⟩ := h.returned r copy (hreads ▸ hreturned)
    exact ⟨by omega, instant, by omega, hvalue⟩

theorem Sound.setRead (h : Sound history stringify parse s) {read : HistoryRead ρ}
    (hset : ∀ copy, read = .setLocal copy ∨ read = .setRedis copy → Fetched history s copy)
    (hreturned : ∀ copy, read = .returned copy → Genuine history stringify parse s copy) :
    Sound history stringify parse (s.setRead r read) := by
  have hread : ∀ r', (s.setRead r read).reads r' = if r' = r then read else s.reads r' := by
    intro r'
    simp [HistoryCache.setRead, Function.update_apply]
  constructor
  case inProcess => exact h.inProcess
  case inRedis => exact h.inRedis
  case setLocal =>
    intro r' copy hcopy
    rw [hread] at hcopy
    split at hcopy
    · exact hset copy (.inl hcopy)
    · exact h.setLocal r' copy hcopy
  case setRedis =>
    intro r' copy hcopy
    rw [hread] at hcopy
    split at hcopy
    · exact hset copy (.inr hcopy)
    · exact h.setRedis r' copy hcopy
  case returned =>
    intro r' copy hcopy
    rw [hread] at hcopy
    split at hcopy
    · exact hreturned copy hcopy
    · exact h.returned r' copy hcopy

theorem fromRedis_eq_returned {copy : Copy (List ρ)} (h : s.fromRedis parse = .returned copy) :
    ∃ cached, s.redis = some cached ∧ parse cached.value = some copy.value ∧ copy.version = cached.version := by
  simp only [fromRedis] at h
  split at h
  · cases h
  case h_2 cached hcached =>
    split at h
    · cases h
    case h_2 value hparse =>
      cases h
      exact ⟨cached, hcached, hparse, rfl⟩

theorem fromLocal_eq_returned {copy : Copy (List ρ)} (h : s.fromLocal = .returned copy) :
    ∃ held, s.localValue = some held ∧ s.now < held.expiresAt ∧ held.copy = copy := by
  simp only [fromLocal] at h
  split at h
  · cases h
  case h_2 held hheld =>
    split at h
    case isTrue hlive =>
      cases h
      exact ⟨held, hheld, hlive, rfl⟩
    case isFalse => cases h

theorem fromRedis_ne_set (copy : Copy (List ρ)) :
    s.fromRedis parse ≠ .setLocal copy ∧ s.fromRedis parse ≠ .setRedis copy := by
  simp only [fromRedis]
  split
  · simp
  · split <;> simp

theorem fromLocal_ne_set (copy : Copy (List ρ)) : s.fromLocal ≠ .setLocal copy ∧ s.fromLocal ≠ .setRedis copy := by
  simp only [fromLocal]
  split
  · simp
  · split <;> simp

theorem Sound.act (h : Sound history stringify parse s) (e : HistoryEvent) :
    Sound history stringify parse (s.act shared history stringify parse e) := by
  cases e with
  | begin r =>
    simp only [HistoryCache.act]
    split
    · exact h.setRead (by simp) (by simp)
    · exact h
  | getRedis r =>
    simp only [HistoryCache.act]
    split
    case h_1 =>
      cases shared with
      | false => exact h.setRead (by simp) (by simp)
      | true =>
        refine h.setRead ?_ ?_
        · rintro copy (hset | hset)
          · exact absurd hset (fromRedis_ne_set copy).1
          · exact absurd hset (fromRedis_ne_set copy).2
        · intro copy hreturned
          obtain ⟨cached, hcached, hparse, hversion⟩ := fromRedis_eq_returned hreturned
          obtain ⟨hle, instant, hinstant, hvalue⟩ := h.inRedis cached hcached
          exact ⟨hversion ▸ hle, instant, hinstant, .inr (by rw [hversion, ← hvalue, hparse])⟩
    case h_2 => exact h
  | getLocal r =>
    simp only [HistoryCache.act]
    split
    case h_1 =>
      refine h.setRead ?_ ?_
      · rintro copy (hset | hset)
        · exact absurd hset (fromLocal_ne_set copy).1
        · exact absurd hset (fromLocal_ne_set copy).2
      · intro copy hreturned
        obtain ⟨held, hheld, -, rfl⟩ := fromLocal_eq_returned hreturned
        exact (h.inProcess held hheld).genuine
    case h_2 => exact h
  | query r =>
    have hfetched : Fetched history s ⟨history s.version s.now, s.version⟩ := ⟨le_rfl, s.now, le_rfl, rfl⟩
    simp only [HistoryCache.act]
    split
    case h_1 =>
      refine h.setRead ?_ ?_
      · rintro copy (hset | hset)
        · split at hset <;> cases hset
          exact hfetched
        · split at hset <;> cases hset
      · intro copy hreturned
        split at hreturned <;> cases hreturned
        exact hfetched.genuine
    case h_2 => exact h
  | setLocal r =>
    simp only [HistoryCache.act]
    split
    case h_1 copy hset =>
      have hfetched := h.setLocal r copy hset
      have hheld : Sound history stringify parse
          { s with localValue := some ⟨s.now + HISTORY_CACHE_TTL_SECONDS * 1000, copy⟩ } := by
        refine ⟨?_, h.inRedis, h.setLocal, h.setRedis, h.returned⟩
        rintro held ⟨⟩
        exact hfetched
      refine hheld.setRead ?_ (by simp)
      intro copy' hcopy
      obtain hcopy | hcopy := hcopy
      · cases hcopy
      · cases hcopy
        exact hfetched
    case h_2 => exact h
  | setRedis r =>
    simp only [HistoryCache.act]
    split
    case h_1 copy hset =>
      have hfetched := h.setRedis r copy hset
      have hcached : Sound history stringify parse
          { s with redis := if shared then some ⟨stringify copy.value, copy.version⟩ else s.redis } := by
        refine ⟨h.inProcess, ?_, h.setLocal, h.setRedis, h.returned⟩
        intro cached hcached
        cases shared with
        | false => exact h.inRedis cached hcached
        | true =>
          obtain ⟨hle, instant, hinstant, hvalue⟩ := hfetched
          cases hcached
          exact ⟨hle, instant, hinstant, by rw [hvalue]⟩
      refine hcached.setRead (by simp) ?_
      rintro copy' ⟨⟩
      exact hfetched.genuine
    case h_2 => exact h
  | expire => exact h.mono le_rfl le_rfl rfl (by simp [HistoryCache.act]) rfl
  | tick ms => exact h.mono (Nat.le_add_right _ _) le_rfl rfl (fun cached hcached => hcached) rfl
  | invalidate w =>
    simp only [HistoryCache.act]
    split
    · exact h.mono le_rfl le_rfl rfl (by simp [HistoryCache.invalidate]) rfl
    · exact h
  | commit w =>
    simp only [HistoryCache.act]
    split
    · exact h.mono le_rfl (Nat.le_succ _) rfl (fun cached hcached => hcached) rfl
    · exact h
  | finish w again =>
    simp only [HistoryCache.act]
    split
    · cases again with
      | false => exact h.mono le_rfl le_rfl rfl (fun cached hcached => hcached) rfl
      | true => exact h.mono le_rfl le_rfl rfl (by simp [HistoryCache.invalidate]) rfl
    · exact h

/-- A request that has nothing too old in hand gets nothing too old. -/
theorem upToDate_act (h : Fresh s) {version : Nat} (hw : s.folds w = .done version)
    (hr : (s.reads r).UpToDate version) (e : HistoryEvent) :
    ((s.act shared history stringify parse e).reads r).UpToDate version := by
  have hversion : version ≤ s.version := by
    have hcommitted := h.committed w
    rw [hw] at hcommitted
    exact hcommitted
  have hset : ∀ r' read, (r' = r → read.UpToDate version) → ((s.setRead r' read).reads r).UpToDate version := by
    intro r' read hread
    by_cases hr' : r = r'
    · subst hr'
      simpa [HistoryCache.setRead] using hread rfl
    · simpa [HistoryCache.setRead, Function.update_of_ne hr'] using hr
  cases e with
  | begin r' =>
    simp only [HistoryCache.act]
    split
    case h_1 hidle =>
      apply hset
      rintro rfl
      trivial
    case h_2 => exact hr
  | getRedis r' =>
    simp only [HistoryCache.act]
    split
    case h_1 hget =>
      apply hset
      rintro rfl
      cases shared with
      | false => trivial
      | true =>
        simp only [if_true, fromRedis]
        split
        · trivial
        case h_2 cached hcached =>
          split
          · trivial
          · exact h.inRedis w version cached hw hcached
    case h_2 => exact hr
  | getLocal r' =>
    simp only [HistoryCache.act]
    split
    case h_1 hget =>
      apply hset
      rintro rfl
      simp only [fromLocal]
      split
      · trivial
      case h_2 held hheld =>
        split
        case isTrue hlive => exact h.inProcess w version held hw hheld hlive
        case isFalse => trivial
    case h_2 => exact hr
  | query r' =>
    simp only [HistoryCache.act]
    split
    case h_1 hquery =>
      apply hset
      rintro rfl
      split <;> exact hversion
    case h_2 => exact hr
  | setLocal r' =>
    simp only [HistoryCache.act]
    split
    case h_1 copy hcopy =>
      apply hset
      rintro rfl
      rw [hcopy] at hr
      exact hr
    case h_2 => exact hr
  | setRedis r' =>
    simp only [HistoryCache.act]
    split
    case h_1 copy hcopy =>
      apply hset
      rintro rfl
      rw [hcopy] at hr
      exact hr
    case h_2 => exact hr
  | expire | tick ms => exact hr
  | invalidate w' | commit w' =>
    simp only [HistoryCache.act]
    split <;> exact hr
  | finish w' again =>
    simp only [HistoryCache.act]
    split
    · cases again <;> exact hr
    · exact hr

/-- A fold that is over stays so. -/
theorem done_act {version : Nat} (hw : s.folds w = .done version) (e : HistoryEvent) :
    (s.act shared history stringify parse e).folds w = .done version := by
  have hset : ∀ w' fold, w' ≠ w → Function.update s.folds w' fold w = .done version := by
    intro w' fold hw'
    rw [Function.update_of_ne hw'.symm, hw]
  cases e with
  | begin r | getRedis r | getLocal r | query r | setLocal r | setRedis r | invalidate w' =>
    simp only [HistoryCache.act]
    split <;> exact hw
  | expire | tick ms => exact hw
  | commit w' =>
    simp only [HistoryCache.act]
    split
    case h_1 hfolding => exact hset w' _ (by rintro rfl; simp [hw] at hfolding)
    case h_2 => exact hw
  | finish w' again =>
    simp only [HistoryCache.act]
    split
    case h_1 version' hcommitted =>
      have hne : w' ≠ w := by
        rintro rfl
        simp [hw] at hcommitted
      cases again <;> exact hset w' _ hne
    case h_2 => exact hw

variable (shared history stringify parse)

theorem fresh_after {events : List HistoryEvent}
    (htimely : ∀ past e, past ++ [e] <+: events → (after shared history stringify parse past).Timely shared e) :
    Fresh (after shared history stringify parse events) := by
  refine Runs.all_along ?_ (fun past e hpast hfresh => hfresh.act e (htimely past e hpast)) List.prefix_rfl
  constructor <;> simp [HistoryFold.change]

theorem sound_after (events : List HistoryEvent) :
    Sound history stringify parse (after shared history stringify parse events) := by
  refine Runs.all_along ?_ (fun past e _ hsound => hsound.act e) List.prefix_rfl
  constructor <;> simp

/-- **The loan history is fresh after a fold** in a run where no older copy is held when a fold is over, and none is
stored after that. -/
theorem loan_history_fresh (events : List HistoryEvent)
    (htimely : ∀ past e, past ++ [e] <+: events → (after shared history stringify parse past).Timely shared e) :
    NoStaleRead shared history stringify parse events := by
  intro past r w version copy hpast hidle hdone hreturned
  have hbegun : (after shared history stringify parse (past ++ [.begin r])).folds w = .done version ∧
      ((after shared history stringify parse (past ++ [.begin r])).reads r).UpToDate version := by
    rw [after, List.foldl_concat, ← after]
    simp [act, hidle, hdone, setRead, HistoryRead.UpToDate]
  have hserved : (after shared history stringify parse events).folds w = .done version ∧
      ((after shared history stringify parse events).reads r).UpToDate version := by
    refine Runs.ever_after
      (P := fun s : HistoryCache ρ => s.folds w = .done version ∧ (s.reads r).UpToDate version) hpast hbegun ?_
    rintro later e - hwithin ⟨hw, hr⟩
    have hfresh := fresh_after shared history stringify parse fun past' e' hpast' =>
      htimely past' e' (hpast'.trans (Runs.prefix_of_snoc hwithin))
    exact ⟨done_act hw e, upToDate_act hfresh hw hr e⟩
  have hr := hserved.2
  rw [hreturned] at hr
  exact ⟨hr, (sound_after shared history stringify parse _).returned r copy hreturned⟩

/-- Loans by day, once a fold has counted one. -/
def oneLoan (version _now : Nat) : List Nat := [version]

def natsToJson (ns : List Nat) : String := if ns = [0] then "[0]" else "[1]"

def natsOfJson (text : String) : Option (List Nat) :=
  if text = "[0]" then some [0] else if text = "[1]" then some [1] else none

/-- The hour of the first answer is over when the fold is. -/
theorem loan_history_fresh_after_hour : NoStaleRead true oneLoan natsToJson natsOfJson
    [.begin 0, .getRedis 0, .getLocal 0, .query 0, .setLocal 0, .setRedis 0, .invalidate 0, .tick 3600000, .commit 0,
      .finish 0 false, .begin 1, .getRedis 1, .getLocal 1, .query 1, .setLocal 1, .setRedis 1] := by
  apply loan_history_fresh
  simp only [Runs.forall_snoc_prefix_cons]
  refine ⟨trivial, trivial, trivial, trivial, ?_, ?_, trivial, trivial, trivial, ?_, trivial, trivial, trivial,
    trivial, ?_, ?_, Runs.forall_snoc_prefix_nil⟩
  · intro copy _ w version hw
    have hw : HistoryFold.folding = .done version := hw
    cases hw
  · intro _ copy _ w version hw
    have hw : HistoryFold.folding = .done version := hw
    cases hw
  · intro version hw
    constructor
    · intro held hheld hlive
      have hheld : some (LocalValue.mk 3600000 ⟨[0], 0⟩) = some held := hheld
      cases hheld
      exact absurd hlive (by decide +kernel)
    · intro _ cached hcached
      have hcached : (none : Option (Copy String)) = some cached := hcached
      cases hcached
  · intro copy hset w version hw
    have hset : HistoryRead.setLocal ⟨[1], 1⟩ = .setLocal copy := hset
    cases hset
    cases w with
    | zero =>
      have hw : HistoryFold.done 1 = .done version := hw
      cases hw
      exact le_rfl
    | succ w =>
      have hw : HistoryFold.folding = .done version := hw
      cases hw
  · intro _ copy hset w version hw
    have hset : HistoryRead.setRedis ⟨[1], 1⟩ = .setRedis copy := hset
    cases hset
    cases w with
    | zero =>
      have hw : HistoryFold.done 1 = .done version := hw
      cases hw
      exact le_rfl
    | succ w =>
      have hw : HistoryFold.folding = .done version := hw
      cases hw

/-- A fold right after an answer: without Redis, and with it, the next request is served what was held. -/
theorem stale_history_after_fold : ¬ NoStaleRead false oneLoan natsToJson natsOfJson
    [.begin 0, .getRedis 0, .getLocal 0, .query 0, .setLocal 0, .setRedis 0, .invalidate 0, .commit 0,
      .finish 0 false, .begin 1, .getRedis 1, .getLocal 1] := by
  intro h
  have hversion := (h [.begin 0, .getRedis 0, .getLocal 0, .query 0, .setLocal 0, .setRedis 0, .invalidate 0,
    .commit 0, .finish 0 false] 1 0 1 ⟨[0], 0⟩ ⟨[.getRedis 1, .getLocal 1], rfl⟩ rfl rfl (by decide +kernel)).1
  exact absurd hversion (by decide)

end HistoryCache

end OurDao
