import Mathlib.Algebra.Group.Nat.Defs
import OurDao.Runs

/-!
# The shared listener

One object holds the connection on which the process listens. Its fields are read and
written between the awaits of a setup, of the end of a connection, of the reconnect timer
and of `shutdown`. An error handler takes whatever connection is current to be its own, and
neither a setup nor `ensureStarted` looks whether an end or a shutdown is under way.
-/

namespace OurDao

/-- `sharedListenerReconnect`. -/
structure ReconnectDelays where
  initialMs : Nat := 1000
  maxMs : Nat := 30000

/-- Who waits for the end of a connection that was installed. -/
inductive Ender where
  | onError | onShutdown
  deriving DecidableEq

/-- A connection of `createDedicatedClient`. -/
inductive Link where
  | unopened
  /-- `connect` sets it up -/
  | opening
  /-- its setup failed, and `connect` waits for its end -/
  | failed
  | dropped
  /-- its handlers are attached -/
  | installed
  | ending (ender : Ender)
  | ended
  deriving DecidableEq

namespace Link

def isOpen : Link → Bool
  | unopened | dropped | ended => false
  | _ => true

/-- It was installed, and is not closed yet. -/
def listens : Link → Bool
  | installed | ending _ => true
  | _ => false

/-- It was installed once, so that its error events are handled. -/
def hasHandlers : Link → Bool
  | installed | ending _ | ended => true
  | _ => false

/-- `end()` was called on it. -/
def endCalled : Link → Bool
  | failed | dropped | ending _ | ended => true
  | _ => false

end Link

structure SharedListener where
  client : Option Nat := none
  /-- the connection of the `connect` call that is not settled -/
  connecting : Option Nat := none
  /-- the reconnect timer's callback waits for that call -/
  retrying : Bool := false
  reconnecting : Bool := false
  /-- the delay of the timer that is set -/
  reconnectTimer : Option Nat := none
  reconnectAttempt : Nat := 0
  stopped : Bool := false
  links : Nat → Link := fun _ => .unopened
  opened : Nat := 0
  /-- the calls of `shutdown` that wait for a reconnection to end -/
  waiting : Nat := 0
  /-- a call of `shutdown` has resolved, and `ensureStarted` was not called since -/
  resolved : Bool := false

namespace SharedListener

def setLink (i : Nat) (link : Link) (s : SharedListener) : SharedListener :=
  { s with links := fun j => if j = i then link else s.links j }

/-- The beginning of `connect`: a new connection is opened. -/
def connect (s : SharedListener) : SharedListener :=
  { s.setLink s.opened .opening with connecting := some s.opened, opened := s.opened + 1 }

/-- The body of `ensureStarted`. -/
def start (s : SharedListener) : SharedListener :=
  let s := { s with stopped := false }
  if s.client.isSome || s.connecting.isSome then s else s.connect

def ensureStarted (s : SharedListener) : SharedListener := { s.start with resolved := false }

def scheduleReconnect (delays : ReconnectDelays) (s : SharedListener) : SharedListener :=
  if s.stopped || s.reconnectTimer.isSome || s.client.isSome || s.connecting.isSome then s
  else { s with
    reconnectTimer := some (min (delays.initialMs * 2 ^ s.reconnectAttempt) delays.maxMs)
    reconnectAttempt := s.reconnectAttempt + 1 }

/-- The callback of the timer, up to its wait for `ensureStarted`. -/
def timerFires (s : SharedListener) : SharedListener :=
  if s.reconnectTimer.isNone then s
  else
    let s := { s with reconnectTimer := none }
    if s.stopped then s
    else
      let s := s.start
      if s.client.isSome then { s with reconnectAttempt := 0 } else { s with retrying := true }

/-- The last `LISTEN` of a setup is answered: the handlers are attached and the promise settles. -/
def connected (s : SharedListener) : SharedListener :=
  match s.connecting with
  | none => s
  | some i =>
    if s.links i = .opening then
      { s.setLink i .installed with
        client := some i, connecting := none, retrying := false
        reconnectAttempt := if s.retrying then 0 else s.reconnectAttempt }
    else s

/-- A setup fails, and ends its connection. -/
def setupFailed (s : SharedListener) : SharedListener :=
  match s.connecting with
  | none => s
  | some i => if s.links i = .opening then s.setLink i .failed else s

/-- That end is over, and the promise is rejected. -/
def failureEnded (delays : ReconnectDelays) (s : SharedListener) : SharedListener :=
  match s.connecting with
  | none => s
  | some i =>
    if s.links i = .failed then
      let settled := { s.setLink i .dropped with connecting := none, retrying := false }
      if s.retrying then settled.scheduleReconnect delays else settled
    else s

/-- The `error` handler of a connection. -/
def errorEvent (i : Nat) (s : SharedListener) : SharedListener :=
  if !(s.links i).hasHandlers || s.reconnecting then s
  else
    match s.client with
    -- no end to wait for, and nothing resets `reconnecting`
    | none => { s with reconnecting := true }
    | some deadClient => { s.setLink deadClient (.ending .onError) with reconnecting := true, client := none }

/-- The end of a connection is over. -/
def endResolved (delays : ReconnectDelays) (i : Nat) (s : SharedListener) : SharedListener :=
  match s.links i with
  | .ending .onError => { s.setLink i .ended with reconnecting := false }.scheduleReconnect delays
  | .ending .onShutdown => { s.setLink i .ended with resolved := true }
  | _ => s

/-- `shutdown` after its wait. -/
def stop (s : SharedListener) : SharedListener :=
  let stopped := { s with stopped := true, reconnectTimer := none, reconnectAttempt := 0, client := none }
  match s.client with
  | none => { stopped with resolved := true }
  | some client => stopped.setLink client (.ending .onShutdown)

def shutdown (s : SharedListener) : SharedListener :=
  if s.reconnecting then { s with waiting := s.waiting + 1 } else s.stop

/-- A waiting `shutdown` looks again. -/
def wake (s : SharedListener) : SharedListener :=
  if s.waiting = 0 || s.reconnecting then s else { s with waiting := s.waiting - 1 }.stop

inductive Event where
  | ensureStarted
  | connected
  | setupFailed
  | failureEnded
  | error (i : Nat)
  | endResolved (i : Nat)
  | timer
  | shutdown
  | wake

def act (delays : ReconnectDelays) (s : SharedListener) : Event → SharedListener
  | .ensureStarted => s.ensureStarted
  | .connected => s.connected
  | .setupFailed => s.setupFailed
  | .failureEnded => s.failureEnded delays
  | .error i => s.errorEvent i
  | .endResolved i => s.endResolved delays i
  | .timer => s.timerFires
  | .shutdown => s.shutdown
  | .wake => s.wake

def after (delays : ReconnectDelays) (events : List Event) : SharedListener := events.foldl (act delays) {}

/-- At most one connection that was installed is not closed, what is not in use was ended, and a shutdown that
resolved leaves nothing open. -/
structure OneListener (s : SharedListener) : Prop where
  one : ∀ i j, (s.links i).listens = true → (s.links j).listens = true → i = j
  used : ∀ i, i < s.opened → s.client = some i ∨ s.connecting = some i ∨ (s.links i).endCalled = true
  quiet : s.resolved = true → s.client = none ∧ ∀ i, (s.links i).isOpen = false

/-- One listener in every state, and an error of a former connection leaves the current one alone. -/
structure KeepsOne (delays : ReconnectDelays) (events : List Event) : Prop where
  holds : ∀ past, past <+: events → OneListener (after delays past)
  spared : ∀ past i, past ++ [.error i] <+: events → ∀ c, (after delays past).client = some c → c ≠ i →
    (after delays (past ++ [.error i])).client = some c

/-- No setup is under way, and no end of an installed connection. -/
structure Settled (s : SharedListener) : Prop where
  connecting : s.connecting = none
  ends : ∀ i ender, s.links i ≠ .ending ender

/-- An error is one of the current connection, or comes while there is none or it is ending; a setup succeeds when no
end is pending; and a shutdown goes on, and resolves, when no setup is under way and no other end pending. -/
def InOrder (s : SharedListener) : Event → Prop
  | .error i => (s.links i).hasHandlers = true → s.reconnecting = true ∨ ∀ c, s.client = some c → c = i
  | .connected => (∃ i, s.connecting = some i ∧ s.links i = .opening) → ∀ i ender, s.links i ≠ .ending ender
  | .shutdown => s.reconnecting = false → s.Settled
  | .wake => s.waiting ≠ 0 → s.reconnecting = false → s.Settled
  | .endResolved i => s.links i = .ending .onShutdown → s.client = none ∧ s.connecting = none
  | _ => True

/-- The fields and the connections agree. -/
structure Wired (s : SharedListener) : Prop where
  current : ∀ c, s.client = some c → s.links c = .installed ∧ s.connecting = none
  installed : ∀ i, s.links i = .installed → s.client = some i
  attempt : ∀ i, s.connecting = some i ↔ s.links i = .opening ∨ s.links i = .failed
  retrying : s.retrying = true → s.connecting ≠ none
  unopened : ∀ i, s.opened ≤ i ↔ s.links i = .unopened

variable {delays : ReconnectDelays} {s s' : SharedListener}

theorem setLink_same (i : Nat) (link : Link) : (s.setLink i link).links i = link := if_pos rfl

theorem setLink_other {i j : Nat} (link : Link) (h : j ≠ i) : (s.setLink i link).links j = s.links j := if_neg h

theorem wired_start : Wired {} := by
  constructor <;> simp

/-- Only these fields and the connections matter. -/
theorem Wired.congr (h : s.Wired) (hclient : s'.client = s.client) (hconnecting : s'.connecting = s.connecting)
    (hretrying : s'.retrying = true → s'.connecting ≠ none) (hlinks : s'.links = s.links)
    (hopened : s'.opened = s.opened) : s'.Wired where
  current c hc := by
    rw [hclient] at hc
    rw [hlinks, hconnecting]
    exact h.current c hc
  installed i hi := by
    rw [hlinks] at hi
    rw [hclient]
    exact h.installed i hi
  attempt i := by
    rw [hlinks, hconnecting]
    exact h.attempt i
  retrying := hretrying
  unopened i := by
    rw [hlinks, hopened]
    exact h.unopened i

theorem Wired.connect (h : s.Wired) (hclient : s.client = none) (hconnecting : s.connecting = none) :
    s.connect.Wired := by
  have hnew : s.links s.opened = .unopened := (h.unopened s.opened).mp le_rfl
  have hidle : ∀ i, s.links i ≠ .opening ∧ s.links i ≠ .failed := by
    intro i
    have hi := h.attempt i
    rw [hconnecting] at hi
    simpa using hi
  refine ⟨fun c hc => ?_, fun i hi => ?_, fun i => ?_, fun _ => by simp [SharedListener.connect], fun i => ?_⟩
  · rw [show s.connect.client = s.client from rfl, hclient] at hc
    cases hc
  · by_cases hs : i = s.opened
    · subst hs
      rw [show s.connect.links s.opened = .opening from setLink_same _ _] at hi
      cases hi
    · rw [show s.connect.links i = s.links i from setLink_other _ hs] at hi
      exact h.installed i hi
  · rw [show s.connect.connecting = some s.opened from rfl]
    by_cases hs : i = s.opened
    · subst hs
      rw [show s.connect.links s.opened = .opening from setLink_same _ _]
      simp
    · rw [show s.connect.links i = s.links i from setLink_other _ hs]
      simp [hidle i, Ne.symm hs]
  · rw [show s.connect.opened = s.opened + 1 from rfl]
    by_cases hs : i = s.opened
    · subst hs
      rw [show s.connect.links s.opened = .opening from setLink_same _ _]
      simp
    · rw [show s.connect.links i = s.links i from setLink_other _ hs, ← h.unopened i]
      omega

theorem Wired.start (h : s.Wired) : s.start.Wired := by
  have hstopped : Wired { s with stopped := false } := h.congr rfl rfl h.retrying rfl rfl
  unfold SharedListener.start
  dsimp only
  split
  next => exact hstopped
  next hidle =>
    simp only [Bool.or_eq_true, Option.isSome_iff_ne_none, not_or, not_not] at hidle
    exact hstopped.connect hidle.1 hidle.2

theorem Wired.ensureStarted (h : s.Wired) : s.ensureStarted.Wired := h.start.congr rfl rfl h.start.retrying rfl rfl

theorem Wired.scheduleReconnect (h : s.Wired) : (s.scheduleReconnect delays).Wired := by
  unfold SharedListener.scheduleReconnect
  split
  next => exact h
  next => exact h.congr rfl rfl h.retrying rfl rfl

/-- The fields that name a connection follow a change of it. -/
structure Follows (s s' : SharedListener) (i : Nat) (link : Link) : Prop where
  links : s'.links = (s.setLink i link).links
  opened : s'.opened = s.opened
  known : s.links i ≠ .unopened ∧ link ≠ .unopened
  client : s'.client = some i ↔ link = .installed
  otherClient : ∀ c, c ≠ i → (s'.client = some c ↔ s.client = some c)
  connecting : s'.connecting = some i ↔ link = .opening ∨ link = .failed
  otherConnecting : ∀ j, j ≠ i → (s'.connecting = some j ↔ s.connecting = some j)
  apart : ∀ c, s'.client = some c → s'.connecting = none
  retrying : s'.retrying = true → s'.connecting ≠ none

theorem Wired.follows (h : s.Wired) (i : Nat) (link : Link) (hf : Follows s s' i link) : s'.Wired where
  current c hc := by
    refine ⟨?_, hf.apart c hc⟩
    rw [hf.links]
    by_cases hci : c = i
    · subst hci
      rw [setLink_same]
      exact hf.client.mp hc
    · rw [setLink_other _ hci]
      exact (h.current c ((hf.otherClient c hci).mp hc)).1
  installed j hj := by
    rw [hf.links] at hj
    by_cases hji : j = i
    · subst hji
      rw [setLink_same] at hj
      exact hf.client.mpr hj
    · rw [setLink_other _ hji] at hj
      exact (hf.otherClient j hji).mpr (h.installed j hj)
  attempt j := by
    rw [hf.links]
    by_cases hji : j = i
    · subst hji
      rw [setLink_same]
      exact hf.connecting
    · rw [setLink_other _ hji, hf.otherConnecting j hji]
      exact h.attempt j
  retrying := hf.retrying
  unopened j := by
    rw [hf.links, hf.opened, h.unopened j]
    by_cases hji : j = i
    · subst hji
      rw [setLink_same]
      exact iff_of_false hf.known.1 hf.known.2
    · rw [setLink_other _ hji]

/-- While a setup is under way nothing is current. -/
theorem Wired.idle (h : s.Wired) {i : Nat} (hi : s.connecting = some i) : s.client = none := by
  cases hc : s.client with
  | none => rfl
  | some c =>
    rw [(h.current c hc).2] at hi
    cases hi

theorem Wired.connected (h : s.Wired) : s.connected.Wired := by
  unfold SharedListener.connected
  split
  next => exact h
  next i hi =>
    split
    next hopening =>
      have hidle := h.idle hi
      refine h.follows i .installed
        ⟨rfl, rfl, ⟨by simp [hopening], by decide⟩, by simp, fun c hc => ?_, by simp, fun j hj => ?_, by simp,
          by simp⟩
      · simp [hidle, Ne.symm hc]
      · simp [hi, Ne.symm hj]
    next => exact h

theorem Wired.setupFailed (h : s.Wired) : s.setupFailed.Wired := by
  unfold SharedListener.setupFailed
  split
  next => exact h
  next i hi =>
    split
    next hopening =>
      have hidle := h.idle hi
      exact h.follows i .failed
        ⟨rfl, rfl, ⟨by simp [hopening], by decide⟩, by simp [setLink, hidle], fun _ _ => .rfl, by simp [setLink, hi],
          fun _ _ => .rfl, by simp [setLink, hidle], h.retrying⟩
    next => exact h

theorem Wired.failureEnded (h : s.Wired) : (s.failureEnded delays).Wired := by
  unfold SharedListener.failureEnded
  split
  next => exact h
  next i hi =>
    split
    next hfailed =>
      have hidle := h.idle hi
      have hsettled : Wired { s.setLink i .dropped with connecting := none, retrying := false } :=
        h.follows i .dropped
          ⟨rfl, rfl, ⟨by simp [hfailed], by decide⟩, by simp [setLink, hidle], fun _ _ => .rfl, by simp,
            fun j hj => by simp [hi, Ne.symm hj], by simp, by simp⟩
      dsimp only
      split
      next => exact hsettled.scheduleReconnect
      next => exact hsettled
    next => exact h

/-- The current connection is given up and ended. -/
theorem Wired.release (h : s.Wired) {c : Nat} (hc : s.client = some c) {ender : Ender}
    (hlinks : s'.links = (s.setLink c (.ending ender)).links) (hopened : s'.opened = s.opened)
    (hclient : s'.client = none) (hconnecting : s'.connecting = s.connecting) (hretrying : s'.retrying = s.retrying) :
    s'.Wired := by
  obtain ⟨hinstalled, hidle⟩ := h.current c hc
  refine h.follows c (.ending ender) ⟨hlinks, hopened, ⟨by simp [hinstalled], by simp⟩, by simp [hclient],
    fun j hj => by simp [hclient, hc, Ne.symm hj], by simp [hconnecting, hidle], fun j _ => by rw [hconnecting],
    by simp [hclient], ?_⟩
  rw [hretrying, hconnecting]
  exact h.retrying

theorem Wired.errorEvent (h : s.Wired) (i : Nat) : (s.errorEvent i).Wired := by
  unfold SharedListener.errorEvent
  split
  next => exact h
  next =>
    split
    next => exact h.congr rfl rfl h.retrying rfl rfl
    next c hc => exact h.release hc rfl rfl rfl rfl rfl

theorem Wired.stop (h : s.Wired) : s.stop.Wired := by
  unfold SharedListener.stop
  dsimp only
  split
  next hc => exact h.congr hc.symm rfl h.retrying rfl rfl
  next c hc => exact h.release hc rfl rfl rfl rfl rfl

theorem Wired.ended (h : s.Wired) {i : Nat} {ender : Ender} (hi : s.links i = .ending ender)
    (hlinks : s'.links = (s.setLink i .ended).links) (hopened : s'.opened = s.opened)
    (hclient : s'.client = s.client) (hconnecting : s'.connecting = s.connecting)
    (hretrying : s'.retrying = s.retrying) : s'.Wired := by
  refine h.follows i .ended ⟨hlinks, hopened, ⟨by simp [hi], by decide⟩, ?_, fun j _ => by rw [hclient],
    ?_, fun j _ => by rw [hconnecting], fun c hc => ?_, ?_⟩
  · refine iff_of_false (fun hc => ?_) (by decide)
    rw [(h.current i (hclient ▸ hc)).1] at hi
    cases hi
  · refine iff_of_false (fun hc => ?_) (by decide)
    rw [hconnecting, h.attempt i, hi] at hc
    obtain hc | hc := hc <;> cases hc
  · rw [hconnecting]
    exact (h.current c (hclient ▸ hc)).2
  · rw [hretrying, hconnecting]
    exact h.retrying

theorem Wired.endResolved (h : s.Wired) (i : Nat) : (s.endResolved delays i).Wired := by
  unfold SharedListener.endResolved
  split
  next hi =>
    have hended : Wired { s.setLink i .ended with reconnecting := false } := h.ended hi rfl rfl rfl rfl rfl
    exact hended.scheduleReconnect
  next hi => exact h.ended hi rfl rfl rfl rfl rfl
  next => exact h

theorem Wired.timerFires (h : s.Wired) : s.timerFires.Wired := by
  have hcleared : Wired { s with reconnectTimer := none } := h.congr rfl rfl h.retrying rfl rfl
  unfold SharedListener.timerFires
  split
  next => exact h
  next =>
    dsimp only
    split
    next => exact hcleared
    next =>
      have hstart := hcleared.start
      split
      next => exact hstart.congr rfl rfl hstart.retrying rfl rfl
      next hnone =>
        refine hstart.congr rfl rfl (fun _ => ?_) rfl rfl
        -- with nothing current, a setup is under way after `ensureStarted`
        unfold SharedListener.start at hnone ⊢
        dsimp only at hnone ⊢
        split at hnone
        next hany =>
          rw [if_pos hany]
          rw [Bool.or_eq_true] at hany
          exact Option.isSome_iff_ne_none.mp (hany.resolve_left hnone)
        next hany =>
          rw [if_neg hany]
          simp [SharedListener.connect]

theorem wired_act (h : s.Wired) (e : Event) : (s.act delays e).Wired := by
  cases e with
  | ensureStarted => exact h.ensureStarted
  | connected => exact h.connected
  | setupFailed => exact h.setupFailed
  | failureEnded => exact h.failureEnded
  | error i => exact h.errorEvent i
  | endResolved i => exact h.endResolved i
  | timer => exact h.timerFires
  | shutdown =>
    simp only [act, SharedListener.shutdown]
    split
    next => exact h.congr rfl rfl h.retrying rfl rfl
    next => exact h.stop
  | wake =>
    simp only [act, SharedListener.wake]
    split
    next => exact h
    next => exact Wired.stop (h.congr rfl rfl h.retrying rfl rfl)

theorem wired_after (delays : ReconnectDelays) (past : List Event) : (after delays past).Wired :=
  Runs.all_along wired_start (fun _ e _ h => wired_act h e) List.prefix_rfl

theorem Wired.oneListener (h : s.Wired)
    (hone : ∀ i j, (s.links i).listens = true → (s.links j).listens = true → i = j)
    (hquiet : s.resolved = true → s.client = none ∧ ∀ i, (s.links i).isOpen = false) : s.OneListener where
  one := hone
  quiet := hquiet
  used i hi := by
    cases hl : s.links i with
    | unopened =>
      have hle := (h.unopened i).mpr hl
      omega
    | opening => exact .inr (.inl ((h.attempt i).mpr (.inl hl)))
    | failed => exact .inr (.inl ((h.attempt i).mpr (.inr hl)))
    | installed => exact .inl (h.installed i hl)
    | dropped => exact .inr (.inr rfl)
    | ending => exact .inr (.inr rfl)
    | ended => exact .inr (.inr rfl)

/-- One listener, and no timer once a shutdown is under way. -/
structure Orderly (s : SharedListener) : Prop where
  wired : s.Wired
  one : ∀ i j, (s.links i).listens = true → (s.links j).listens = true → i = j
  quiet : s.resolved = true → s.client = none ∧ ∀ i, (s.links i).isOpen = false
  leaving : (s.resolved = true ∨ ∃ i, s.links i = .ending .onShutdown) → s.reconnectTimer = none ∧ s.retrying = false

theorem orderly_start : Orderly {} := by
  refine ⟨wired_start, ?_, ?_, ?_⟩ <;> simp [Link.listens]

/-- With nothing current or under way, only an end that is pending is open. -/
theorem Wired.closed (h : s.Wired) (hclient : s.client = none) (hconnecting : s.connecting = none) {i : Nat}
    (hend : ∀ ender, s.links i ≠ .ending ender) : (s.links i).isOpen = false := by
  cases hl : s.links i with
  | unopened => rfl
  | dropped => rfl
  | ended => rfl
  | ending ender => exact absurd hl (hend ender)
  | opening => exact absurd (hconnecting.symm.trans ((h.attempt i).mpr (.inl hl))) (by simp)
  | failed => exact absurd (hconnecting.symm.trans ((h.attempt i).mpr (.inr hl))) (by simp)
  | installed => exact absurd (hclient.symm.trans (h.installed i hl)) (by simp)

theorem Wired.connecting_of_closed (h : s.Wired) (hclosed : ∀ i, (s.links i).isOpen = false) :
    s.connecting = none := by
  cases hc : s.connecting with
  | none => rfl
  | some i =>
    have hi := hclosed i
    obtain hl | hl := (h.attempt i).mp hc <;> rw [hl] at hi <;> cases hi

/-- `ensureStarted` opens a connection at most. -/
theorem start_links (h : s.Wired) (i : Nat) :
    s.start.links i = s.links i ∨ s.links i = .unopened ∧ s.start.links i = .opening := by
  unfold start
  dsimp only
  split
  next => exact .inl rfl
  next =>
    by_cases hi : i = s.opened
    · subst hi
      exact .inr ⟨(h.unopened _).mp le_rfl, if_pos rfl⟩
    · exact .inl (if_neg hi)

theorem start_fields (s : SharedListener) : s.start.client = s.client ∧ s.start.reconnectTimer = s.reconnectTimer ∧
    s.start.retrying = s.retrying ∧ s.start.resolved = s.resolved := by
  unfold start
  dsimp only
  split
  next => exact ⟨rfl, rfl, rfl, rfl⟩
  next => exact ⟨rfl, rfl, rfl, rfl⟩

theorem start_listens (h : s.Wired) (i : Nat) : (s.start.links i).listens = (s.links i).listens := by
  obtain hi | ⟨hold, hnew⟩ := start_links h i
  · rw [hi]
  · rw [hold, hnew]
    rfl

theorem start_ending (h : s.Wired) {i : Nat} {ender : Ender} (hi : s.start.links i = .ending ender) :
    s.links i = .ending ender := by
  obtain hsame | ⟨-, hnew⟩ := start_links h i
  · rwa [← hsame]
  · rw [hnew] at hi
    cases hi

theorem scheduleReconnect_fields (delays : ReconnectDelays) (s : SharedListener) :
    (s.scheduleReconnect delays).client = s.client ∧ (s.scheduleReconnect delays).links = s.links ∧
      (s.scheduleReconnect delays).resolved = s.resolved := by
  unfold scheduleReconnect
  split
  next => exact ⟨rfl, rfl, rfl⟩
  next => exact ⟨rfl, rfl, rfl⟩

/-- A step that makes no listener keeps there being one. -/
theorem Orderly.mono (h : s.Orderly) (hwired : s'.Wired)
    (hlistens : ∀ i, (s'.links i).listens = true → (s.links i).listens = true)
    (hquiet : s'.resolved = true → s'.client = none ∧ ∀ i, (s'.links i).isOpen = false)
    (hleaving : (s'.resolved = true ∨ ∃ i, s'.links i = .ending .onShutdown) →
      s'.reconnectTimer = none ∧ s'.retrying = false) : s'.Orderly :=
  ⟨hwired, fun i j hi hj => h.one i j (hlistens i hi) (hlistens j hj), hquiet, hleaving⟩

/-- What is open refutes that a shutdown has resolved. -/
theorem Orderly.unresolved (h : s.Orderly) {i : Nat} (hi : (s.links i).isOpen = true) : s.resolved = false := by
  by_contra hr
  have hclosed := (h.quiet (by simpa using hr)).2 i
  rw [hi] at hclosed
  cases hclosed

theorem Orderly.ensureStarted (h : s.Orderly) : s.ensureStarted.Orderly := by
  obtain ⟨-, htimer, hretrying, -⟩ := start_fields s
  refine h.mono h.wired.ensureStarted ?_ (fun hr => by cases hr) ?_
  · intro i hi
    rwa [← start_listens h.wired i]
  · rintro (hr | ⟨i, hi⟩)
    · cases hr
    · rw [show s.ensureStarted.reconnectTimer = s.reconnectTimer from htimer,
        show s.ensureStarted.retrying = s.retrying from hretrying]
      exact h.leaving (.inr ⟨i, start_ending h.wired hi⟩)

theorem connected_cases (s : SharedListener) : s.connected = s ∨ ∃ i, s.connecting = some i ∧ s.links i = .opening ∧
    s.connected.links = (s.setLink i .installed).links ∧ s.connected.resolved = s.resolved := by
  unfold connected
  split
  next => exact .inl rfl
  next i hi =>
    split
    next hopening => exact .inr ⟨i, hi, hopening, rfl, rfl⟩
    next => exact .inl rfl

theorem setupFailed_cases (s : SharedListener) : s.setupFailed = s ∨ ∃ i, s.links i = .opening ∧
    s.setupFailed = s.setLink i .failed := by
  unfold setupFailed
  split
  next => exact .inl rfl
  next i hi =>
    split
    next hopening => exact .inr ⟨i, hopening, rfl⟩
    next => exact .inl rfl

theorem failureEnded_cases (delays : ReconnectDelays) (s : SharedListener) : s.failureEnded delays = s ∨
    ∃ i, s.links i = .failed ∧ (s.failureEnded delays).links = (s.setLink i .dropped).links ∧
      (s.failureEnded delays).resolved = s.resolved ∧
      (s.retrying = false → (s.failureEnded delays).reconnectTimer = s.reconnectTimer ∧
        (s.failureEnded delays).retrying = false) := by
  unfold failureEnded
  split
  next => exact .inl rfl
  next i hi =>
    split
    next hfailed =>
      refine .inr ⟨i, hfailed, ?_⟩
      cases s.retrying with
      | false => exact ⟨rfl, rfl, fun _ => ⟨rfl, rfl⟩⟩
      | true =>
        obtain ⟨-, hlinks, hresolved⟩ := scheduleReconnect_fields delays
          { s.setLink i .dropped with connecting := none, retrying := false }
        exact ⟨hlinks, hresolved, fun hr => by cases hr⟩
    next => exact .inl rfl

/-- An error is ignored, finds nothing to end, or ends what is current. -/
theorem errorEvent_cases (i : Nat) (s : SharedListener) : s.errorEvent i = s ∨
    ((s.links i).hasHandlers = true ∧ s.reconnecting = false ∧
      (s.client = none ∧ s.errorEvent i = { s with reconnecting := true } ∨
        ∃ c, s.client = some c ∧ s.errorEvent i =
          { s.setLink c (.ending .onError) with reconnecting := true, client := none })) := by
  unfold errorEvent
  split
  next => exact .inl rfl
  next hany =>
    simp only [Bool.or_eq_true, not_or, Bool.not_eq_true, Bool.not_eq_false'] at hany
    refine .inr ⟨hany.1, hany.2, ?_⟩
    split
    next hc => exact .inl ⟨hc, rfl⟩
    next c hc => exact .inr ⟨c, hc, rfl⟩

theorem endResolved_cases (delays : ReconnectDelays) (i : Nat) (s : SharedListener) : s.endResolved delays i = s ∨
    ∃ ender, s.links i = .ending ender ∧ (s.endResolved delays i).links = (s.setLink i .ended).links ∧
      (s.endResolved delays i).client = s.client ∧
      (ender = .onError ∧ (s.endResolved delays i).resolved = s.resolved ∨
        ender = .onShutdown ∧ s.endResolved delays i = { s.setLink i .ended with resolved := true }) := by
  unfold endResolved
  split
  next hi =>
    obtain ⟨hclient, hlinks, hresolved⟩ := scheduleReconnect_fields delays
      { s.setLink i .ended with reconnecting := false }
    exact .inr ⟨.onError, hi, hlinks, hclient, .inl ⟨rfl, hresolved⟩⟩
  next hi => exact .inr ⟨.onShutdown, hi, rfl, rfl, .inr ⟨rfl, rfl⟩⟩
  next => exact .inl rfl

theorem stop_cases (s : SharedListener) : s.stop.reconnectTimer = none ∧ s.stop.retrying = s.retrying ∧
    (s.client = none ∧ s.stop.links = s.links ∧ s.stop.client = none ∧ s.stop.connecting = s.connecting ∧
        s.stop.resolved = true ∨
      ∃ c, s.client = some c ∧ s.stop.links = (s.setLink c (.ending .onShutdown)).links ∧
        s.stop.resolved = s.resolved) := by
  unfold stop
  dsimp only
  split
  next hc => exact ⟨rfl, rfl, .inl ⟨hc, rfl, rfl, rfl, rfl⟩⟩
  next c hc => exact ⟨rfl, rfl, .inr ⟨c, hc, rfl, rfl⟩⟩

theorem timerFires_cases (s : SharedListener) : s.timerFires = s ∨ s.reconnectTimer ≠ none ∧
    ((s.timerFires.links = s.links ∨ s.timerFires.links = s.start.links) ∧ s.timerFires.resolved = s.resolved) := by
  unfold timerFires
  split
  next => exact .inl rfl
  next hset =>
    refine .inr ⟨by simpa using hset, ?_⟩
    dsimp only
    split
    next => exact ⟨.inl rfl, rfl⟩
    next =>
      have hlinks : (start { s with reconnectTimer := none }).links = s.start.links := by
        unfold start
        dsimp only
        split
        next => rfl
        next => rfl
      have hresolved := (start_fields { s with reconnectTimer := none }).2.2.2
      split
      next => exact ⟨.inr hlinks, hresolved⟩
      next => exact ⟨.inr hlinks, hresolved⟩

/-- A step that changes one connection, which is not resolved before. -/
theorem Orderly.relink (h : s.Orderly) (hwired : s'.Wired) {i : Nat} {link : Link}
    (hlinks : s'.links = (s.setLink i link).links) (hopen : (s.links i).isOpen = true)
    (hlistens : link.listens = true → (s.links i).listens = true) (hresolved : s'.resolved = s.resolved)
    (hleaving : (link = .ending .onShutdown ∨ ∃ j, j ≠ i ∧ s.links j = .ending .onShutdown) →
      s'.reconnectTimer = none ∧ s'.retrying = false) : s'.Orderly := by
  have hfalse : s'.resolved = false := hresolved.trans (h.unresolved hopen)
  refine h.mono hwired (fun j hj => ?_) (fun hr => absurd (hfalse.symm.trans hr) (by decide)) ?_
  · rw [hlinks] at hj
    by_cases hji : j = i
    · subst hji
      rw [setLink_same] at hj
      exact hlistens hj
    · rwa [setLink_other _ hji] at hj
  · rintro (hr | ⟨j, hj⟩)
    · exact absurd (hfalse.symm.trans hr) (by decide)
    · rw [hlinks] at hj
      by_cases hji : j = i
      · subst hji
        rw [setLink_same] at hj
        exact hleaving (.inl hj)
      · rw [setLink_other _ hji] at hj
        exact hleaving (.inr ⟨j, hji, hj⟩)

theorem Orderly.connected (h : s.Orderly) (horder : s.InOrder .connected) : s.connected.Orderly := by
  have hwired := h.wired.connected
  obtain hsame | ⟨i, hi, hopening, hlinks, hresolved⟩ := connected_cases s
  · rwa [hsame]
  · have hends := horder ⟨i, hi, hopening⟩
    have hidle := h.wired.idle hi
    have hfalse : s.connected.resolved = false := hresolved.trans (h.unresolved (i := i) (by rw [hopening]; rfl))
    -- nothing listened before
    have hlistens : ∀ j, (s.connected.links j).listens = true → j = i := by
      intro j hj
      by_contra hji
      rw [hlinks, setLink_other _ hji] at hj
      cases hl : s.links j with
      | installed => exact absurd (hidle.symm.trans (h.wired.installed j hl)) (by simp)
      | ending ender => exact hends j ender hl
      | _ => simp [hl, Link.listens] at hj
    refine ⟨hwired, fun j k hj hk => (hlistens j hj).trans (hlistens k hk).symm,
      fun hr => absurd (hfalse.symm.trans hr) (by decide), ?_⟩
    rintro (hr | ⟨j, hj⟩)
    · exact absurd (hfalse.symm.trans hr) (by decide)
    · obtain rfl := hlistens j (by rw [hj]; rfl)
      rw [hlinks, setLink_same] at hj
      cases hj

theorem Orderly.setupFailed (h : s.Orderly) : s.setupFailed.Orderly := by
  have hwired := h.wired.setupFailed
  obtain hsame | ⟨i, hopening, heq⟩ := setupFailed_cases s
  · rwa [hsame]
  · rw [heq] at hwired ⊢
    refine h.relink hwired rfl (by rw [hopening]; rfl) (fun hl => by cases hl) rfl ?_
    rintro (hlink | ⟨j, -, hj⟩)
    · cases hlink
    · exact h.leaving (.inr ⟨j, hj⟩)

theorem Orderly.failureEnded (h : s.Orderly) : (s.failureEnded delays).Orderly := by
  have hwired : (s.failureEnded delays).Wired := h.wired.failureEnded
  obtain hsame | ⟨i, hfailed, hlinks, hresolved, hfields⟩ := failureEnded_cases delays s
  · rwa [hsame]
  · refine h.relink hwired hlinks (by rw [hfailed]; rfl) (fun hl => by cases hl) hresolved ?_
    rintro (hlink | ⟨j, -, hj⟩)
    · cases hlink
    · obtain ⟨htimer, hretrying⟩ := h.leaving (.inr ⟨j, hj⟩)
      rw [(hfields hretrying).1]
      exact ⟨htimer, (hfields hretrying).2⟩

theorem Orderly.errorEvent (h : s.Orderly) (i : Nat) : (s.errorEvent i).Orderly := by
  have hwired := h.wired.errorEvent i
  obtain hsame | ⟨-, -, ⟨-, heq⟩ | ⟨c, hc, heq⟩⟩ := errorEvent_cases i s
  · rwa [hsame]
  · rw [heq] at hwired ⊢
    exact ⟨hwired, h.one, h.quiet, h.leaving⟩
  · have hinstalled := (h.wired.current c hc).1
    rw [heq] at hwired ⊢
    refine h.relink hwired rfl (by rw [hinstalled]; rfl) (fun _ => by rw [hinstalled]; rfl) rfl ?_
    rintro (hlink | ⟨j, hj, hending⟩)
    · cases hlink
    · exact absurd (h.one j c (by rw [hending]; rfl) (by rw [hinstalled]; rfl)) hj

theorem Orderly.endResolved (h : s.Orderly) (i : Nat) (horder : s.InOrder (.endResolved i)) :
    (s.endResolved delays i).Orderly := by
  have hwired : (s.endResolved delays i).Wired := h.wired.endResolved i
  obtain hsame | ⟨ender, hending, hlinks, -, ⟨rfl, hresolved⟩ | ⟨rfl, heq⟩⟩ := endResolved_cases delays i s
  · rwa [hsame]
  · refine h.relink hwired hlinks (by rw [hending]; rfl) (fun hl => by cases hl) hresolved ?_
    rintro (hlink | ⟨j, hj, hother⟩)
    · cases hlink
    · exact absurd (h.one j i (by rw [hother]; rfl) (by rw [hending]; rfl)) hj
  · obtain ⟨hclient, hconnecting⟩ := horder hending
    rw [heq] at hwired ⊢
    have hother : ∀ j, j ≠ i → (s.links j).listens = false := by
      intro j hj
      by_contra hl
      exact hj (h.one j i (by simpa using hl) (by rw [hending]; rfl))
    refine h.mono hwired (fun j hj => ?_) (fun _ => ⟨hclient, fun j => ?_⟩) fun _ => h.leaving (.inr ⟨i, hending⟩)
    · by_cases hji : j = i
      · subst hji
        rw [hending]
        rfl
      · rwa [setLink_other _ hji] at hj
    · by_cases hji : j = i
      · subst hji
        rw [show _ = Link.ended from setLink_same j _]
        rfl
      · rw [show _ = s.links j from setLink_other _ hji]
        refine h.wired.closed hclient hconnecting fun ender hl => ?_
        have hfalse := hother j hji
        rw [hl] at hfalse
        cases hfalse

theorem Orderly.timerFires (h : s.Orderly) : s.timerFires.Orderly := by
  have hwired := h.wired.timerFires
  obtain hsame | ⟨hset, hlinks, hresolved⟩ := timerFires_cases s
  · rwa [hsame]
  · have hnot : ¬ (s.resolved = true ∨ ∃ i, s.links i = .ending .onShutdown) := fun hl => hset (h.leaving hl).1
    refine h.mono hwired (fun i hi => ?_) (fun hr => absurd (.inl (hresolved.symm.trans hr)) hnot) ?_
    · obtain hl | hl := hlinks <;> rw [hl] at hi
      · exact hi
      · rwa [start_listens h.wired] at hi
    · rintro (hr | ⟨i, hi⟩)
      · exact absurd (.inl (hresolved.symm.trans hr)) hnot
      · obtain hl | hl := hlinks <;> rw [hl] at hi
        · exact absurd (.inr ⟨i, hi⟩) hnot
        · exact absurd (.inr ⟨i, start_ending h.wired hi⟩) hnot

theorem Orderly.stop (h : s.Orderly) (hsettled : s.Settled) : s.stop.Orderly := by
  have hwired := h.wired.stop
  have hretrying : s.retrying = false := by
    by_contra hr
    exact h.wired.retrying (by simpa using hr) hsettled.connecting
  obtain ⟨htimer, hsame, ⟨hc, hlinks, hnone, -, hresolved⟩ | ⟨c, hc, hlinks, hresolved⟩⟩ := stop_cases s
  · refine h.mono hwired (fun i hi => hlinks ▸ hi) (fun _ => ⟨hnone, fun i => ?_⟩) fun _ =>
      ⟨htimer, hsame.trans hretrying⟩
    rw [hlinks]
    exact h.wired.closed hc hsettled.connecting (hsettled.ends i)
  · have hinstalled := (h.wired.current c hc).1
    exact h.relink hwired hlinks (by rw [hinstalled]; rfl) (fun _ => by rw [hinstalled]; rfl) hresolved
      fun _ => ⟨htimer, hsame.trans hretrying⟩

theorem orderly_act (h : s.Orderly) (e : Event) (horder : s.InOrder e) : (s.act delays e).Orderly := by
  cases e with
  | ensureStarted => exact h.ensureStarted
  | connected => exact h.connected horder
  | setupFailed => exact h.setupFailed
  | failureEnded => exact h.failureEnded
  | error i => exact h.errorEvent i
  | endResolved i => exact h.endResolved i horder
  | timer => exact h.timerFires
  | shutdown =>
    simp only [act, SharedListener.shutdown]
    split
    next => exact ⟨h.wired.congr rfl rfl h.wired.retrying rfl rfl, h.one, h.quiet, h.leaving⟩
    next hnot => exact h.stop (horder (by simpa using hnot))
  | wake =>
    simp only [act, SharedListener.wake]
    split
    next => exact h
    next hany =>
      simp only [Bool.or_eq_true, decide_eq_true_eq, not_or, Bool.not_eq_true] at hany
      obtain ⟨hconnecting, hends⟩ := horder hany.1 hany.2
      have hfewer : Orderly { s with waiting := s.waiting - 1 } :=
        ⟨h.wired.congr rfl rfl h.wired.retrying rfl rfl, h.one, h.quiet, h.leaving⟩
      exact hfewer.stop ⟨hconnecting, hends⟩

/-- A shutdown that finds nothing current resolves at once, so that nothing may be open. -/
theorem settled_of_stop (h : s.Wired) (hone : s.OneListener) (hstop : s.stop.OneListener) : s.Settled := by
  obtain ⟨-, -, ⟨-, hlinks, -, hconnecting, hresolved⟩ | ⟨c, hc, -, -⟩⟩ := stop_cases s
  · have hclosed := (hstop.quiet hresolved).2
    refine ⟨?_, fun i ender hi => ?_⟩
    · rw [← hconnecting]
      exact h.stop.connecting_of_closed hclosed
    · have hi' := hclosed i
      rw [hlinks, hi] at hi'
      cases hi'
  · obtain ⟨hinstalled, hidle⟩ := h.current c hc
    refine ⟨hidle, fun i ender hi => ?_⟩
    obtain rfl := hone.one i c (by rw [hi]; rfl) (by rw [hinstalled]; rfl)
    rw [hi] at hinstalled
    cases hinstalled

theorem inOrder_of_keeps (h : s.Wired) (e : Event) (hone : s.OneListener) (hact : (s.act delays e).OneListener)
    (hspared : ∀ i, e = .error i → ∀ c, s.client = some c → c ≠ i → (s.act delays e).client = some c) :
    s.InOrder e := by
  have hwired : (s.act delays e).Wired := wired_act h e
  cases e with
  | error i =>
    intro hhandlers
    by_contra hnot
    simp only [not_or, not_forall, Bool.not_eq_true] at hnot
    obtain ⟨hreconnecting, c, hc, hci⟩ := hnot
    have hkept : (s.errorEvent i).client = some c := hspared i rfl c hc hci
    rw [errorEvent, hhandlers, hreconnecting, hc] at hkept
    cases hkept
  | connected =>
    rintro ⟨i, hi, hopening⟩ j ender hj
    have hact : s.connected.OneListener := hact
    obtain hsame | ⟨k, hk, -, hlinks, -⟩ := connected_cases s
    · have hinstalled : s.connected.links i = .installed := by
        rw [connected, hi]
        simp [hopening, setLink]
      rw [hsame, hopening] at hinstalled
      cases hinstalled
    · obtain rfl : k = i := Option.some.inj (hk.symm.trans hi)
      have hjk : j ≠ k := by
        rintro rfl
        rw [hj] at hopening
        cases hopening
      refine hjk (hact.one j k ?_ ?_)
      · rw [hlinks, setLink_other _ hjk, hj]
        rfl
      · rw [hlinks, setLink_same]
        rfl
  | shutdown =>
    intro hreconnecting
    have hstop : s.act delays .shutdown = s.stop := by simp [act, shutdown, hreconnecting]
    rw [hstop] at hact
    exact settled_of_stop h hone hact
  | wake =>
    intro hwaiting hreconnecting
    have hstop : s.act delays .wake = { s with waiting := s.waiting - 1 }.stop := by
      simp [act, wake, hwaiting, hreconnecting]
    rw [hstop] at hact
    obtain ⟨hconnecting, hends⟩ := settled_of_stop (s := { s with waiting := s.waiting - 1 })
      (h.congr rfl rfl h.retrying rfl rfl) ⟨hone.one, hone.used, hone.quiet⟩ hact
    exact ⟨hconnecting, hends⟩
  | endResolved i =>
    intro hi
    have heq : s.act delays (.endResolved i) = { s.setLink i .ended with resolved := true } := by
      simp [act, endResolved, hi]
    rw [heq] at hact hwired
    obtain ⟨hclient, hclosed⟩ := hact.quiet rfl
    exact ⟨hclient, hwired.connecting_of_closed hclosed⟩
  | _ => trivial

/-- **At most one listener**, whatever is opened is ended, and nothing is open after a shutdown: exactly in the runs
whose steps come in order. -/
theorem one_listener_iff (delays : ReconnectDelays) (events : List Event) :
    KeepsOne delays events ↔ ∀ past e, past ++ [e] <+: events → (after delays past).InOrder e := by
  constructor
  · intro h past e hpast
    have hact := h.holds (past ++ [e]) hpast
    rw [after, List.foldl_concat] at hact
    refine inOrder_of_keeps (wired_after delays past) e (h.holds past (Runs.prefix_of_snoc hpast)) hact ?_
    rintro i rfl c hc hci
    have hkept := h.spared past i hpast c hc hci
    rwa [after, List.foldl_concat] at hkept
  · intro horder
    have horderly : ∀ past, past <+: events → (after delays past).Orderly := fun past hpast =>
      Runs.all_along orderly_start (fun past e hpast h => orderly_act h e (horder past e hpast)) hpast
    refine ⟨fun past hpast => ?_, fun past i hpast c hc hci => ?_⟩
    · have h := horderly past hpast
      exact h.wired.oneListener h.one h.quiet
    · rw [after, List.foldl_concat]
      obtain hsame | ⟨hhandlers, hreconnecting, -⟩ := errorEvent_cases i (after delays past)
      · exact (congrArg SharedListener.client hsame).trans hc
      · obtain hr | hcurrent := horder past (.error i) hpast hhandlers
        · exact absurd (hreconnecting.symm.trans hr) (by decide)
        · exact absurd (hcurrent c hc) hci

/-- A shutdown while the first connection is set up: the setup goes on, and installs it. -/
theorem shutdown_leaves_a_listener : ¬ KeepsOne {} [.ensureStarted, .shutdown, .connected] := by
  intro h
  have hclient := ((h.holds [.ensureStarted, .shutdown, .connected] List.prefix_rfl).quiet rfl).1
  cases hclient

/-- A second error of a connection that is gone takes its successor down. -/
theorem late_error_ends_the_successor : ¬ KeepsOne {}
    [.ensureStarted, .connected, .error 0, .endResolved 0, .ensureStarted, .connected, .error 0] := by
  intro h
  have hclient := h.spared [.ensureStarted, .connected, .error 0, .endResolved 0, .ensureStarted, .connected] 0
    List.prefix_rfl 1 rfl (by decide)
  cases hclient

/-- A request while the lost connection is ended opens another one beside it. -/
theorem request_opens_a_second_listener : ¬ KeepsOne {}
    [.ensureStarted, .connected, .error 0, .ensureStarted, .connected] := by
  intro h
  have hone := (h.holds [.ensureStarted, .connected, .error 0, .ensureStarted, .connected] List.prefix_rfl).one 0 1
    rfl rfl
  cases hone

end SharedListener

end OurDao
