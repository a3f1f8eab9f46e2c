import OurDao.ErrorEnvelope
import OurDao.Runs

/-!
# Overlapping stats requests

`GET /stats` answers from a short cache, or recomputes behind a gate that sheds instead of
queueing. The gate keeps its bound and gives every slot back. Both answers of a recomputation read
a name that is declared nowhere, so no recomputation ends well: stats stay available for as long
as nobody needs one.
-/

namespace OurDao

structure ConcurrencyGate where
  limit : Nat
  active : Nat := 0
  deriving DecidableEq, Repr

namespace ConcurrencyGate

def tryAcquire (gate : ConcurrencyGate) : Option ConcurrencyGate :=
  if gate.limit ≤ gate.active then none else some { gate with active := gate.active + 1 }

def release (gate : ConcurrencyGate) : ConcurrencyGate :=
  if 0 < gate.active then { gate with active := gate.active - 1 } else gate

end ConcurrencyGate

structure StatsConfig where
  statsCacheMs : Int := 5000
  statsMaxConcurrent : Int := 1
  statsRetryAfterSeconds : Int := 1
  deriving DecidableEq, Repr

/-- The limit that the gate is made with. -/
def StatsConfig.limit (config : StatsConfig) : Nat := (max 1 config.statsMaxConcurrent).toNat

/-- The counters of the process. -/
structure LiveCounts where
  connectedStreams : Nat
  notificationFailures : Nat
  deriving DecidableEq, Repr

/-- The stats: the fields that come from the database, and the two that do not. -/
structure DAOStats (φ : Type) where
  figures : φ
  connectedStreams : Nat
  notificationFailures : Nat
  deriving DecidableEq, Repr

structure StatsCache (φ : Type) where
  computedAt : Int
  value : DAOStats φ
  deriving DecidableEq, Repr

/-- An answer, with `X-Data-Stale` where the header is set. -/
inductive StatsAnswer (φ : Type) where
  | stats (value : DAOStats φ) (stale : Bool)
  | shed (retryAfter : Int)
  | failed (err : Thrown) (stale : Bool)
  deriving DecidableEq

def StatsAnswer.statusCode {φ : Type} : StatsAnswer φ → Option JsNumber
  | stats _ _ => some (.finite 200)
  | shed _ => some (.finite 503)
  | failed err _ => (classifyError err).status

/-- Where a request is: in `computeStats`, before the `finally` of the gate, or answered. -/
inductive StatsPhase (φ : Type) where
  | computing
  | settled (answer : StatsAnswer φ)
  | answered (answer : StatsAnswer φ)
  deriving DecidableEq

/-- A request has a slot of the gate until it is answered. -/
def StatsPhase.holds {φ : Type} : StatsPhase φ → Bool
  | answered _ => false
  | _ => true

/-- A request with the counters that it read when it came. -/
structure StatsRequest (φ : Type) where
  live : LiveCounts
  phase : StatsPhase φ
  deriving DecidableEq

structure StatsServer (φ : Type) where
  statsGate : ConcurrencyGate
  statsCache : Option (StatsCache φ) := none
  live : LiveCounts := ⟨0, 0⟩
  /-- in the order in which they came -/
  requests : List (StatsRequest φ) := []
  deriving DecidableEq

inductive StatsEvent (φ : Type) where
  | arrive (now : Int)
  /-- `computeStats` of a request resolves with figures or rejects. -/
  | settle (r : Nat) (computed : Except Thrown φ) (now : Int)
  | release (r : Nat)
  | count (live : LiveCounts)

/-- No declaration of the name is in scope: to read it throws. -/
def liveStreams : Except Thrown Nat := .error { message := some "liveStreams is not defined" }

section

variable {φ : Type}

/-- `{ ...value, connectedStreams: liveStreams }` -/
def DAOStats.withStreams (value : DAOStats φ) : Except Thrown (DAOStats φ) := do
  let connectedStreams ← liveStreams
  return { value with connectedStreams }

/-- The task behind the gate, once `computeStats` is settled: the cache it leaves, and how the
request is answered. -/
def recompute (statsCache : Option (StatsCache φ)) (now : Int) (computed : Except Thrown (DAOStats φ)) :
    Option (StatsCache φ) × StatsAnswer φ :=
  let (statsCache, tried) : Option (StatsCache φ) × Except Thrown (DAOStats φ) := match computed with
    | .ok value => (some ⟨now, value⟩, value.withStreams)
    | .error err => (statsCache, .error err)
  match tried with
  | .ok stats => (statsCache, .stats stats false)
  | .error err =>
    match statsCache with
    | none => (statsCache, .failed err false)
    | some cached =>
      match cached.value.withStreams with
      | .ok stats => (statsCache, .stats stats true)
      | .error err => (statsCache, .failed err true)

namespace StatsServer

def fresh (config : StatsConfig) (s : StatsServer φ) (now : Int) : Option (StatsCache φ) :=
  s.statsCache.filter fun cached => now - cached.computedAt < config.statsCacheMs

def push (s : StatsServer φ) (phase : StatsPhase φ) : StatsServer φ :=
  { s with requests := s.requests ++ [⟨s.live, phase⟩] }

def arrive (config : StatsConfig) (s : StatsServer φ) (now : Int) : StatsServer φ :=
  match s.fresh config now with
  | some cached =>
    s.push (.answered (.stats ⟨cached.value.figures, s.live.connectedStreams, s.live.notificationFailures⟩ false))
  | none =>
    match s.statsGate.tryAcquire with
    | none => s.push (.answered (.shed config.statsRetryAfterSeconds))
    | some gate => { s with statsGate := gate }.push .computing

def phase (s : StatsServer φ) (r : Nat) : Option (StatsPhase φ) := s.requests[r]?.map StatsRequest.phase

def setPhase (s : StatsServer φ) (r : Nat) (phase : StatsPhase φ) : StatsServer φ :=
  { s with requests := s.requests.modify r fun request => { request with phase } }

def settle (s : StatsServer φ) (r : Nat) (computed : Except Thrown φ) (now : Int) : StatsServer φ :=
  if s.phase r matches some .computing then
    let value := computed.map fun figures => ⟨figures, s.live.connectedStreams, s.live.notificationFailures⟩
    let (statsCache, answer) := recompute s.statsCache now value
    { s with statsCache }.setPhase r (.settled answer)
  else s

def release (s : StatsServer φ) (r : Nat) : StatsServer φ :=
  match s.phase r with
  | some (.settled answer) => { s with statsGate := s.statsGate.release }.setPhase r (.answered answer)
  | _ => s

def act (config : StatsConfig) (s : StatsServer φ) : StatsEvent φ → StatsServer φ
  | .arrive now => s.arrive config now
  | .settle r computed now => s.settle r computed now
  | .release r => s.release r
  | .count live => { s with live }

def after (config : StatsConfig) (events : List (StatsEvent φ)) : StatsServer φ :=
  events.foldl (act config) { statsGate := { limit := config.limit } }

/-- The requests that hold a slot. -/
def holding (s : StatsServer φ) : Nat := s.requests.countP fun request => request.phase.holds

/-- A computation has succeeded. -/
def Succeeded (config : StatsConfig) (events : List (StatsEvent φ)) : Prop :=
  ∃ past r figures now, past ++ [.settle r (.ok figures) now] <+: events ∧
    (after config past).phase r = some .computing

/-- What stats are to be in a run. A request is known by its place among those that came. -/
structure Available (config : StatsConfig) (events : List (StatsEvent φ)) : Prop where
  bounded : ∀ past, past <+: events → (after config past).holding ≤ config.limit
  counted : ∀ past, past <+: events → (after config past).statsGate.active = (after config past).holding
  enters : ∀ past now, past ++ [.arrive now] <+: events →
    (∃ answer,
      (after config (past ++ [.arrive now])).phase (after config past).requests.length = some (.answered answer)) ∨
      (after config (past ++ [.arrive now])).phase (after config past).requests.length = some .computing
  settles : ∀ past r computed now, past ++ [.settle r computed now] <+: events →
    (after config past).phase r = some .computing →
      ∃ answer, (after config (past ++ [.settle r computed now])).phase r = some (.settled answer) ∧
        ∀ value stale, answer = .stats value stale → (stale = true ↔ ∃ err, computed = .error err)
  alone : ∀ past e r phase, past ++ [e] <+: events → (after config past).phase r = some phase →
    (after config (past ++ [e])).phase r = some phase ∨ (∃ computed now, e = .settle r computed now) ∨ e = .release r
  releases : ∀ past r answer, past ++ [.release r] <+: events → (after config past).phase r = some (.settled answer) →
    (after config (past ++ [.release r])).phase r = some (.answered answer) ∧
      (after config (past ++ [.release r])).statsGate.active + 1 = (after config past).statsGate.active
  answers : ∀ past now answer, past ++ [.arrive now] <+: events → Succeeded config past →
    (after config events).phase (after config past).requests.length = some (.answered answer) →
      (∃ value stale, answer = .stats value stale) ∨ ∃ retryAfter, answer = .shed retryAfter
  live : ∀ past now value stale, past ++ [.arrive now] <+: events →
    (after config events).phase (after config past).requests.length = some (.answered (.stats value stale)) →
      value.connectedStreams = (after config past).live.connectedStreams ∧
        value.notificationFailures = (after config past).live.notificationFailures

/-- No request that comes when a value is cached has to recompute it: the value is fresh, or the
gate is full. -/
def NoRecompute (config : StatsConfig) (s : StatsServer φ) : StatsEvent φ → Prop
  | .arrive now => s.statsCache.isSome → (s.fresh config now).isSome ∨ s.statsGate.limit ≤ s.statsGate.active
  | _ => True

variable {config : StatsConfig} {s : StatsServer φ} {r other : Nat} {events past : List (StatsEvent φ)}

@[simp] theorem withStreams_eq (value : DAOStats φ) :
    value.withStreams = .error { message := some "liveStreams is not defined" } := rfl

/-- A recomputation fails, whatever its computation comes to. -/
theorem recompute_spec (statsCache : Option (StatsCache φ)) (now : Int) (computed : Except Thrown (DAOStats φ)) :
    ∃ err stale, recompute statsCache now computed =
      (match computed with | .ok value => some ⟨now, value⟩ | .error _ => statsCache, .failed err stale) := by
  cases computed with
  | ok value => exact ⟨_, true, rfl⟩
  | error err =>
    cases statsCache with
    | none => exact ⟨err, false, rfl⟩
    | some cached => exact ⟨_, true, rfl⟩

theorem phase_push (s : StatsServer φ) (phase : StatsPhase φ) :
    (s.push phase).phase other = if other = s.requests.length then some phase else s.phase other := by
  rw [StatsServer.phase, push, List.getElem?_append]
  by_cases heq : other = s.requests.length
  · simp [heq]
  · rw [if_neg heq]
    by_cases hlt : other < s.requests.length
    · rw [if_pos hlt, StatsServer.phase]
    · rw [if_neg hlt, StatsServer.phase, List.getElem?_eq_none (by simp; omega), List.getElem?_eq_none (by omega)]

theorem phase_setPhase (s : StatsServer φ) (phase : StatsPhase φ) (hthere : (s.phase r).isSome) :
    (s.setPhase r phase).phase other = if other = r then some phase else s.phase other := by
  rw [StatsServer.phase, setPhase, List.getElem?_modify]
  by_cases heq : other = r
  · subst heq
    obtain ⟨p, hp⟩ := Option.isSome_iff_exists.mp hthere
    rw [StatsServer.phase, Option.map_eq_some_iff] at hp
    obtain ⟨request, hrequest, -⟩ := hp
    simp [hrequest]
  · simp [Ne.symm heq, heq, StatsServer.phase]

/-- The three ends of an arrival. -/
theorem arrive_cases (config : StatsConfig) (s : StatsServer φ) (now : Int) :
    (∃ cached, s.fresh config now = some cached ∧ s.arrive config now = s.push (.answered
        (.stats ⟨cached.value.figures, s.live.connectedStreams, s.live.notificationFailures⟩ false))) ∨
      (s.statsGate.limit ≤ s.statsGate.active ∧
        s.arrive config now = s.push (.answered (.shed config.statsRetryAfterSeconds))) ∨
      (s.fresh config now = none ∧ s.statsGate.active < s.statsGate.limit ∧
        s.arrive config now =
          { s with statsGate := { s.statsGate with active := s.statsGate.active + 1 } }.push .computing) := by
  rw [arrive]
  cases hfresh : s.fresh config now with
  | some cached => exact .inl ⟨cached, rfl, rfl⟩
  | none =>
    by_cases hfull : s.statsGate.limit ≤ s.statsGate.active
    · exact .inr (.inl ⟨hfull, by simp [ConcurrencyGate.tryAcquire, hfull]⟩)
    · exact .inr (.inr ⟨rfl, Nat.lt_of_not_le hfull, by simp [ConcurrencyGate.tryAcquire, hfull]⟩)

theorem settle_cases (s : StatsServer φ) (r : Nat) (computed : Except Thrown φ) (now : Int) :
    (s.phase r = some .computing ∧ ∃ statsCache err stale, s.settle r computed now =
        { s with statsCache }.setPhase r (.settled (.failed err stale)) ∧
          (s.statsCache.isSome ∨ (∃ figures, computed = .ok figures) → statsCache.isSome)) ∨
      (s.phase r ≠ some .computing ∧ s.settle r computed now = s) := by
  rw [settle]
  by_cases hphase : s.phase r = some .computing
  · refine .inl ⟨hphase, ?_⟩
    rw [hphase, if_pos rfl]
    obtain ⟨err, stale, hspec⟩ := recompute_spec s.statsCache now
      (computed.map fun figures => ⟨figures, s.live.connectedStreams, s.live.notificationFailures⟩)
    dsimp only
    rw [hspec]
    refine ⟨_, err, stale, rfl, ?_⟩
    cases computed with
    | ok figures => exact fun _ => rfl
    | error err =>
      rintro (hcached | ⟨figures, hfigures⟩)
      · exact hcached
      · cases hfigures
  · refine .inr ⟨hphase, if_neg ?_⟩
    cases hthere : s.phase r with
    | none => exact Bool.false_ne_true
    | some phase =>
      rw [hthere] at hphase
      cases phase with
      | computing => exact absurd rfl hphase
      | settled answer => exact Bool.false_ne_true
      | answered answer => exact Bool.false_ne_true

theorem release_cases (s : StatsServer φ) (r : Nat) :
    (∃ answer, s.phase r = some (.settled answer) ∧
      s.release r = { s with statsGate := s.statsGate.release }.setPhase r (.answered answer)) ∨
      ((∀ answer, s.phase r ≠ some (.settled answer)) ∧ s.release r = s) := by
  rw [release]
  split
  next answer hphase => exact .inl ⟨answer, hphase, rfl⟩
  next hother => exact .inr ⟨fun answer => hother answer, rfl⟩

theorem phase_act (config : StatsConfig) {phase : StatsPhase φ} (h : s.phase r = some phase) (e : StatsEvent φ) :
    (act config s e).phase r = some phase ∨
      (phase = .computing ∧ ∃ computed now, e = .settle r computed now) ∨
        ∃ answer, phase = .settled answer ∧ e = .release r := by
  have hlt : r < s.requests.length := by
    obtain ⟨request, hrequest, -⟩ := Option.map_eq_some_iff.mp h
    exact (List.getElem?_eq_some_iff.mp hrequest).1
  cases e with
  | arrive now =>
    refine .inl ?_
    rw [act]
    obtain ⟨cached, -, heq⟩ | ⟨-, heq⟩ | ⟨-, -, heq⟩ := arrive_cases config s now
    · rw [heq, phase_push, if_neg hlt.ne, h]
    · rw [heq, phase_push, if_neg hlt.ne, h]
    · rw [heq, phase_push, if_neg hlt.ne]
      exact h
  | settle other computed now =>
    rw [act]
    obtain ⟨hphase, statsCache, err, stale, heq, -⟩ | ⟨-, heq⟩ := settle_cases s other computed now
    · by_cases hother : r = other
      · subst hother
        exact .inr (.inl ⟨Option.some.inj (h.symm.trans hphase), computed, now, rfl⟩)
      · rw [heq, phase_setPhase { s with statsCache } _ (Option.isSome_of_eq_some hphase), if_neg hother]
        exact .inl h
    · rw [heq]
      exact .inl h
  | release other =>
    rw [act]
    obtain ⟨answer, hphase, heq⟩ | ⟨-, heq⟩ := release_cases s other
    · by_cases hother : r = other
      · subst hother
        exact .inr (.inr ⟨answer, Option.some.inj (h.symm.trans hphase), rfl⟩)
      · rw [heq, phase_setPhase { s with statsGate := s.statsGate.release } _ (Option.isSome_of_eq_some hphase),
          if_neg hother]
        exact .inl h
    · rw [heq]
      exact .inl h
  | count live => exact .inl h

theorem holding_push (s : StatsServer φ) (phase : StatsPhase φ) :
    (s.push phase).holding = s.holding + if phase.holds then 1 else 0 := by
  simp [holding, push, List.countP_append, List.countP_cons]

theorem holding_setPhase {before : StatsPhase φ} (h : s.phase r = some before) (phase : StatsPhase φ) :
    (s.setPhase r phase).holding + (if before.holds then 1 else 0) =
      s.holding + if phase.holds then 1 else 0 := by
  obtain ⟨request, hrequest, rfl⟩ := Option.map_eq_some_iff.mp h
  obtain ⟨hlt, hget⟩ := List.getElem?_eq_some_iff.mp hrequest
  have hsplit : s.requests = s.requests.take r ++ request :: s.requests.drop (r + 1) := by
    rw [← hget, List.getElem_cons_drop, List.take_append_drop]
  have hcount := congrArg (List.countP fun request : StatsRequest φ => request.phase.holds) hsplit
  rw [holding, holding, setPhase]
  dsimp only
  rw [List.modify_eq_take_cons_drop hlt, hget, hcount]
  simp only [List.countP_append, List.countP_cons]
  omega

theorem holding_pos {phase : StatsPhase φ} (h : s.phase r = some phase) (hholds : phase.holds = true) :
    0 < s.holding := by
  obtain ⟨request, hrequest, rfl⟩ := Option.map_eq_some_iff.mp h
  exact List.countP_pos_iff.mpr ⟨request, List.mem_of_getElem? hrequest, hholds⟩

/-- The gate counts the requests that hold a slot. -/
structure Slots (config : StatsConfig) (s : StatsServer φ) : Prop where
  limit : s.statsGate.limit = config.limit
  counted : s.statsGate.active = s.holding
  bounded : s.statsGate.active ≤ s.statsGate.limit

/-- A settled request has a slot to give back. -/
theorem Slots.release_slot (h : Slots config s) {answer : StatsAnswer φ}
    (hphase : s.phase r = some (.settled answer)) :
    s.statsGate.release = { s.statsGate with active := s.statsGate.active - 1 } ∧ 0 < s.statsGate.active := by
  have hpos : 0 < s.statsGate.active := h.counted ▸ holding_pos hphase rfl
  exact ⟨if_pos hpos, hpos⟩

theorem Slots.act (h : Slots config s) (e : StatsEvent φ) : Slots config (s.act config e) := by
  cases e with
  | arrive now =>
    rw [StatsServer.act]
    obtain ⟨cached, -, heq⟩ | ⟨-, heq⟩ | ⟨-, hroom, heq⟩ := arrive_cases config s now
    · rw [heq]
      exact ⟨h.limit, by rw [holding_push]; exact h.counted, h.bounded⟩
    · rw [heq]
      exact ⟨h.limit, by rw [holding_push]; exact h.counted, h.bounded⟩
    · rw [heq]
      refine ⟨h.limit, ?_, hroom⟩
      rw [holding_push]
      exact congrArg (· + 1) h.counted
  | settle r computed now =>
    rw [StatsServer.act]
    obtain ⟨hphase, statsCache, err, stale, heq, -⟩ | ⟨-, heq⟩ := settle_cases s r computed now
    · have hholding := holding_setPhase (s := { s with statsCache }) hphase (.settled (.failed err stale))
      rw [heq]
      exact ⟨h.limit, h.counted.trans (Nat.add_right_cancel hholding).symm, h.bounded⟩
    · rw [heq]
      exact h
  | release r =>
    rw [StatsServer.act]
    obtain ⟨answer, hphase, heq⟩ | ⟨-, heq⟩ := release_cases s r
    · obtain ⟨hrelease, hpos⟩ := h.release_slot hphase
      have hholding : (({ s with statsGate := s.statsGate.release }).setPhase r (.answered answer)).holding + 1 =
          s.holding := holding_setPhase (s := { s with statsGate := s.statsGate.release }) hphase _
      rw [heq]
      refine ⟨?_, ?_, ?_⟩
      · exact (congrArg ConcurrencyGate.limit hrelease).trans h.limit
      · have hcounted := h.counted
        have hactive : s.statsGate.release.active = s.statsGate.active - 1 := by rw [hrelease]
        refine hactive.trans ?_
        omega
      · change s.statsGate.release.active ≤ s.statsGate.release.limit
        rw [hrelease]
        exact (Nat.sub_le _ _).trans h.bounded
    · rw [heq]
      exact h
  | count live => exact ⟨h.limit, h.counted, h.bounded⟩

theorem isSome_statsCache_act (h : s.statsCache.isSome) (e : StatsEvent φ) : (s.act config e).statsCache.isSome := by
  cases e with
  | arrive now =>
    rw [act]
    obtain ⟨cached, -, heq⟩ | ⟨-, heq⟩ | ⟨-, -, heq⟩ := arrive_cases config s now
    · rw [heq]
      exact h
    · rw [heq]
      exact h
    · rw [heq]
      exact h
  | settle r computed now =>
    rw [act]
    obtain ⟨-, statsCache, err, stale, heq, hkept⟩ | ⟨-, heq⟩ := settle_cases s r computed now
    · rw [heq]
      exact hkept (.inl h)
    · rw [heq]
      exact h
  | release r =>
    rw [act]
    obtain ⟨answer, -, heq⟩ | ⟨-, heq⟩ := release_cases s r
    · rw [heq]
      exact h
    · rw [heq]
      exact h
  | count live => exact h

theorem after_snoc (config : StatsConfig) (past : List (StatsEvent φ)) (e : StatsEvent φ) :
    after config (past ++ [e]) = (after config past).act config e := List.foldl_concat _ _ _ _

theorem slots_after (config : StatsConfig) (events : List (StatsEvent φ)) : Slots config (after config events) :=
  Runs.all_along ⟨rfl, rfl, Nat.zero_le _⟩ (fun _ e _ h => h.act e) List.prefix_rfl

/-- What has come of a request stays. -/
theorem answered_stays {answer : StatsAnswer φ} (hpast : past <+: events)
    (h : (after config past).phase r = some (.answered answer)) :
    (after config events).phase r = some (.answered answer) := by
  refine Runs.ever_after (P := fun s : StatsServer φ => s.phase r = some (.answered answer)) hpast h ?_
  intro later e _ _ hlater
  obtain hsame | ⟨heq, -⟩ | ⟨other, heq, -⟩ := phase_act config hlater e
  · exact hsame
  · cases heq
  · cases heq

theorem answered_once {answer later : StatsAnswer φ} (hpast : past <+: events)
    (h : (after config past).phase r = some (.answered answer))
    (hlater : (after config events).phase r = some (.answered later)) : later = answer := by
  have hsame := hlater.symm.trans (answered_stays hpast h)
  cases hsame
  rfl

theorem isSome_statsCache_of_succeeded (h : Succeeded config events) : (after config events).statsCache.isSome := by
  obtain ⟨past, r, figures, now, hpast, hphase⟩ := h
  have hsettled : (after config (past ++ [.settle r (.ok figures) now])).statsCache.isSome := by
    rw [after_snoc, act]
    obtain ⟨-, statsCache, err, stale, heq, hkept⟩ | ⟨hother, -⟩ :=
      settle_cases (after config past) r (.ok figures) now
    · rw [heq]
      exact hkept (.inr ⟨figures, rfl⟩)
    · exact absurd hphase hother
  exact Runs.ever_after (P := fun s : StatsServer φ => s.statsCache.isSome) hpast hsettled
    fun _ e _ _ hlater => isSome_statsCache_act hlater e

/-- The phases of a request that came to recompute. -/
def Failing : StatsPhase φ → Prop
  | .computing => True
  | .settled answer => ∃ err stale, answer = .failed err stale
  | .answered answer => ∃ err stale, answer = .failed err stale

theorem failing_act {phase : StatsPhase φ} (h : s.phase r = some phase) (hfailing : Failing phase)
    (e : StatsEvent φ) :
    ∃ phase, (s.act config e).phase r = some phase ∧ Failing phase := by
  have hthere : (s.phase r).isSome := Option.isSome_of_eq_some h
  obtain hsame | ⟨rfl, computed, now, rfl⟩ | ⟨answer, rfl, rfl⟩ := phase_act config h e
  · exact ⟨phase, hsame, hfailing⟩
  · rw [act]
    obtain ⟨-, statsCache, err, stale, heq, -⟩ | ⟨hother, -⟩ := settle_cases s r computed now
    · refine ⟨.settled (.failed err stale), ?_, err, stale, rfl⟩
      rw [heq, phase_setPhase { s with statsCache } _ hthere, if_pos rfl]
    · exact absurd h hother
  · rw [act]
    obtain ⟨settled, hsettled, heq⟩ | ⟨hother, -⟩ := release_cases s r
    · obtain rfl : answer = settled := by simpa [h] using hsettled
      refine ⟨.answered answer, ?_, hfailing⟩
      rw [heq, phase_setPhase { s with statsGate := s.statsGate.release } _ hthere, if_pos rfl]
    · exact absurd h (hother answer)

theorem failing_after (hpast : past <+: events) {phase : StatsPhase φ} (h : (after config past).phase r = some phase)
    (hfailing : Failing phase) : ∃ phase, (after config events).phase r = some phase ∧ Failing phase := by
  refine Runs.ever_after (P := fun s : StatsServer φ => ∃ phase, s.phase r = some phase ∧ Failing phase) hpast
    ⟨phase, h, hfailing⟩ ?_
  rintro later e - - ⟨now, hnow, hstill⟩
  exact failing_act hnow hstill e

/-- A request that recomputes ends in an error. -/
theorem failed_of_computing (hpast : past <+: events) (h : (after config past).phase r = some .computing)
    {answer : StatsAnswer φ} (hanswer : (after config events).phase r = some (.answered answer)) :
    ∃ err stale, answer = .failed err stale := by
  obtain ⟨phase, hlater, hfailing⟩ := failing_after hpast h trivial
  obtain rfl : phase = .answered answer := Option.some.inj (hlater.symm.trans hanswer)
  exact hfailing

/-- Where a request stands right after it came, its counters read. -/
theorem phase_arrived (config : StatsConfig) (past : List (StatsEvent φ)) (now : Int) :
    let s := after config past
    let arrived := after config (past ++ [.arrive now])
    (∃ figures, arrived.phase s.requests.length = some (.answered
        (.stats ⟨figures, s.live.connectedStreams, s.live.notificationFailures⟩ false))) ∨
      arrived.phase s.requests.length = some (.answered (.shed config.statsRetryAfterSeconds)) ∨
      (arrived.phase s.requests.length = some .computing ∧ s.fresh config now = none ∧
        s.statsGate.active < s.statsGate.limit) := by
  intro s arrived
  have harrived : arrived = s.arrive config now := after_snoc config past (.arrive now)
  rw [harrived]
  obtain ⟨cached, -, heq⟩ | ⟨-, heq⟩ | ⟨hfresh, hroom, heq⟩ := arrive_cases config s now
  · exact .inl ⟨cached.value.figures, by rw [heq, phase_push, if_pos rfl]⟩
  · exact .inr (.inl (by rw [heq, phase_push, if_pos rfl]))
  · refine .inr (.inr ⟨?_, hfresh, hroom⟩)
    rw [heq, phase_push]
    exact if_pos rfl

/-- Whoever has to recompute what is cached is not served: the request ends in an error. -/
theorem failed_of_recompute {now : Int} (hnot : ¬ NoRecompute config (after config past) (.arrive now))
    (hpast : past ++ [.arrive now] <+: events) {answer : StatsAnswer φ}
    (hanswer : (after config events).phase (after config past).requests.length = some (.answered answer)) :
    ∃ err stale, answer = .failed err stale := by
  rw [NoRecompute, Classical.not_imp, not_or, Option.not_isSome_iff_eq_none] at hnot
  obtain ⟨-, hstale, hroom⟩ := hnot
  obtain ⟨cached, hfresh, -⟩ | ⟨hfull, -⟩ | ⟨-, -, heq⟩ := arrive_cases config (after config past) now
  · rw [hstale] at hfresh
    cases hfresh
  · exact absurd hfull hroom
  · refine failed_of_computing hpast ?_ hanswer
    rw [after_snoc, act, heq, phase_push]
    exact if_pos rfl

/-- Stats stay available in every run in which no request has to recompute what is cached. -/
theorem available_of_noRecompute
    (hrun : ∀ past e, past ++ [e] <+: events → NoRecompute config (after config past) e) :
    Available config events where
  bounded past _ := by
    have hslots := slots_after config past
    rw [← hslots.counted, ← hslots.limit]
    exact hslots.bounded
  counted past _ := (slots_after config past).counted
  enters past now _ := by
    obtain ⟨figures, hphase⟩ | hphase | ⟨hphase, -⟩ := phase_arrived config past now
    · exact .inl ⟨_, hphase⟩
    · exact .inl ⟨_, hphase⟩
    · exact .inr hphase
  settles past r computed now _ hphase := by
    rw [after_snoc, act]
    obtain ⟨-, statsCache, err, stale, heq, -⟩ | ⟨hother, -⟩ := settle_cases (after config past) r computed now
    · refine ⟨.failed err stale, ?_, fun value stale heq => nomatch heq⟩
      rw [heq, phase_setPhase { after config past with statsCache } _ (Option.isSome_of_eq_some hphase), if_pos rfl]
    · exact absurd hphase hother
  alone past e r phase _ hphase := by
    rw [after_snoc]
    obtain hsame | ⟨-, hsettle⟩ | ⟨-, -, hrelease⟩ := phase_act config hphase e
    · exact .inl hsame
    · exact .inr (.inl hsettle)
    · exact .inr (.inr hrelease)
  releases past r answer _ hphase := by
    rw [after_snoc, act]
    obtain ⟨settled, hsettled, heq⟩ | ⟨hother, -⟩ := release_cases (after config past) r
    · obtain rfl : answer = settled := by simpa [hphase] using hsettled
      obtain ⟨hrelease, hpos⟩ := (slots_after config past).release_slot hphase
      rw [heq]
      refine ⟨?_, ?_⟩
      · have hthere : ((after config past).phase r).isSome := Option.isSome_of_eq_some hphase
        rw [phase_setPhase { after config past with statsGate := (after config past).statsGate.release } _ hthere,
          if_pos rfl]
      · have hactive : (after config past).statsGate.release.active = (after config past).statsGate.active - 1 := by
          rw [hrelease]
        change (after config past).statsGate.release.active + 1 = _
        omega
    · exact absurd hphase (hother answer)
  answers past now answer hpast hsucceeded hanswer := by
    obtain ⟨figures, hphase⟩ | hphase | ⟨-, hfresh, hroom⟩ := phase_arrived config past now
    · exact .inl ⟨_, _, answered_once hpast hphase hanswer⟩
    · exact .inr ⟨_, answered_once hpast hphase hanswer⟩
    · obtain hkept | hfull := hrun past _ hpast (isSome_statsCache_of_succeeded hsucceeded)
      · rw [hfresh] at hkept
        cases hkept
      · omega
  live past now value stale hpast hanswer := by
    obtain ⟨figures, hphase⟩ | hphase | ⟨hphase, -⟩ := phase_arrived config past now
    · have hsame := answered_once hpast hphase hanswer
      cases hsame
      exact ⟨rfl, rfl⟩
    · have hsame := answered_once hpast hphase hanswer
      cases hsame
    · obtain ⟨err, other, heq⟩ := failed_of_computing hpast hphase hanswer
      cases heq

/-- One computation, and a request while its value is fresh. -/
def earlyRequest : List (StatsEvent Unit) :=
  [.arrive 0, .settle 0 (.ok ()) 0, .release 0, .count ⟨2, 1⟩, .arrive 100]

theorem available_of_noRecompute_earlyRequest :
    (∀ past e, past ++ [e] <+: earlyRequest → NoRecompute {} (after {} past) e) ∧ Available {} earlyRequest := by
  have hrun : ∀ past e, past ++ [e] <+: earlyRequest → NoRecompute {} (after {} past) e := by
    refine Runs.forall_snoc_prefix_cons.mpr ⟨nofun, ?_⟩
    refine Runs.forall_snoc_prefix_cons.mpr ⟨trivial, ?_⟩
    refine Runs.forall_snoc_prefix_cons.mpr ⟨trivial, ?_⟩
    refine Runs.forall_snoc_prefix_cons.mpr ⟨trivial, ?_⟩
    exact Runs.forall_snoc_prefix_cons.mpr ⟨fun _ => .inl (by decide +kernel), Runs.forall_snoc_prefix_nil⟩
  exact ⟨hrun, available_of_noRecompute hrun⟩

/-- One computation, and a request a cache lifetime later. -/
def lateRequest : List (StatsEvent Unit) :=
  [.arrive 0, .settle 0 (.ok ()) 0, .release 0, .arrive 5000, .settle 1 (.ok ()) 5000, .release 1]

/-- The request that comes when the cache has expired ends in an error. -/
theorem not_available_lateRequest : ¬ Available {} lateRequest := by
  intro h
  have hsucceeded : Succeeded {} (lateRequest.take 3) :=
    ⟨[.arrive 0], 0, (), 0, ⟨[.release 0], rfl⟩, by decide +kernel⟩
  have hanswer : (after {} lateRequest).phase 1 =
      some (.answered (.failed { message := some "liveStreams is not defined" } true)) := by decide +kernel
  obtain ⟨value, stale, heq⟩ | ⟨retryAfter, heq⟩ :=
    h.answers (lateRequest.take 3) 5000 _ ⟨lateRequest.drop 4, rfl⟩ hsucceeded hanswer
  · cases heq
  · cases heq

end StatsServer

end

end OurDao
