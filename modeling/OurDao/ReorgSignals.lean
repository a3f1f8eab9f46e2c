import OurDao.Runs
import OurDao.Socket

/-!
# Reorg signals

A resync is broadcast as one NOTIFY on every channel. The process drops a reorg signal that is
not newer than the last one it dispatched, and the first NOTIFY of a broadcast makes the other
four such signals: the broadcast reaches the clients of the channel that comes first.
-/

namespace OurDao

/-- What the text of a NOTIFY parses to. A value that is no object has none of the fields. -/
inductive RawPayload where
  /-- no text at all -/
  | absent
  | malformed
  | null
  | parsed (payload : Payload)

def STREAM_CHANNELS : List StreamChannel := [.members, .loan_proposals, .loans, .treasury_proposals, .interest]

/-- What `runIndexer` broadcasts on a reorg. -/
def reorgDetected (reorgLedger : Nat) : Payload where
  type := some "resync"
  message := some "Ledger discontinuity detected"
  ledger := some reorgLedger
  reorg_ledger := some reorgLedger

namespace Connection

variable {ok : Nat → Bool} {shows shows' : Nat → Prop} {c c' c'' : Connection}

/-- What is written or waits to be. -/
def frames (c : Connection) : List Frame := c.written ++ c.queue

/-- The client is shown the notification of that number. -/
def Shown (number : Nat) (c : Connection) : Prop := ∃ f ∈ c.frames, f.delivers = some number

instance (number : Nat) (c : Connection) : Decidable (c.Shown number) :=
  inferInstanceAs (Decidable (∃ f ∈ c.frames, f.delivers = some number))

/-- `c'` comes after `c`, and shows no new notification but those of `shows`. -/
structure Evolves (shows : Nat → Prop) (c c' : Connection) : Prop where
  closed : c.closed = true → c'.closed = true
  kept : c'.closed = false → ∀ f ∈ c.frames, f ∈ c'.frames
  fresh : ∀ f ∈ c'.frames, f ∈ c.frames ∨ ∀ n, f.delivers = some n → shows n

theorem Evolves.refl (c : Connection) : c.Evolves shows c := ⟨id, fun _ _ h => h, fun _ h => .inl h⟩

theorem Evolves.trans (h : c.Evolves shows c') (h' : c'.Evolves shows c'') : c.Evolves shows c'' where
  closed hc := h'.closed (h.closed hc)
  kept ho f hf := by
    have ho' : c'.closed = false := by
      by_contra hc
      simp [h'.closed (by simpa using hc)] at ho
    exact h'.kept ho f (h.kept ho' f hf)
  fresh f hf := by
    obtain hold | hnew := h'.fresh f hf
    · exact h.fresh f hold
    · exact .inr hnew

theorem Evolves.mono (h : c.Evolves shows c') (hshows : ∀ n, shows n → shows' n) : c.Evolves shows' c' :=
  ⟨h.closed, h.kept, fun f hf => (h.fresh f hf).imp_right fun hn n hd => hshows n (hn n hd)⟩

/-- Nothing but the frames and whether it is open matters. -/
theorem Evolves.congr (h : c.Evolves shows c') {d : Connection} (hclosed : d.closed = c'.closed)
    (hframes : d.frames = c'.frames) : c.Evolves shows d :=
  ⟨fun hc => hclosed ▸ h.closed hc, fun ho f hf => hframes ▸ h.kept (hclosed ▸ ho) f hf,
    fun f hf => h.fresh f (hframes ▸ hf)⟩

theorem evolves_close : c.Evolves shows c.close where
  closed _ := rfl
  kept ho := by simp [close] at ho
  fresh f hf := .inl (by simp [frames, close] at hf ⊢; exact .inl hf)

theorem evolves_enqueue {f : Frame} (hf : ∀ n, f.delivers = some n → shows n) : c.Evolves shows (c.enqueue f) := by
  unfold enqueue
  split
  next => exact evolves_close
  next =>
    refine ⟨id, fun _ g hg => ?_, fun g hg => ?_⟩
    · simp only [frames, List.mem_append] at hg ⊢
      exact hg.imp_right .inl
    · simp only [frames, List.mem_append, List.mem_singleton] at hg ⊢
      obtain hg | hg | rfl := hg
      · exact .inl (.inl hg)
      · exact .inl (.inr hg)
      · exact .inr hf

theorem evolves_writeFrame {f : Frame} (hf : ∀ n, f.delivers = some n → shows n) :
    c.Evolves shows (c.writeFrame ok f) := by
  refine ⟨id, fun _ g hg => ?_, fun g hg => ?_⟩
  · simp only [frames, writeFrame, List.mem_append] at hg ⊢
    exact hg.imp_left .inl
  · simp only [frames, writeFrame, List.mem_append, List.mem_singleton] at hg ⊢
    obtain (hg | rfl) | hg := hg
    · exact .inl (.inl hg)
    · exact .inr hf
    · exact .inl (.inr hg)

theorem evolves_sendFrame {force : Bool} {f : Frame} (hf : ∀ n, f.delivers = some n → shows n) :
    c.Evolves shows (c.sendFrame ok force f) := by
  unfold sendFrame
  split
  next => exact evolves_enqueue hf
  next => exact evolves_writeFrame hf

theorem evolves_sendMessage {force : Bool} {msg : StreamMessage} {delivers : Option Nat}
    (hshows : ∀ n, delivers = some n → shows n) : c.Evolves shows (c.sendMessage ok force msg delivers) := by
  unfold sendMessage
  split
  next => exact .refl c
  next =>
    have hadvance : c.Evolves shows (c.advance (msg.payload.bind (·.ledger))) := (Evolves.refl c).congr rfl rfl
    exact hadvance.trans (evolves_sendFrame hshows)

theorem evolves_receiveNotification {channel : StreamChannel} {payload : Payload} {delivers : Option Nat}
    (hshows : ∀ n, delivers = some n → shows n) :
    c.Evolves shows (c.receiveNotification ok channel payload delivers) := by
  unfold receiveNotification
  split
  next => exact .refl c
  next => exact evolves_sendMessage hshows

theorem evolves_receiveAll (channels : List StreamChannel) {payload : Payload} : c.Evolves shows
    (channels.foldl (fun c channel => c.receiveNotification ok channel payload none) c) := by
  induction channels generalizing c with
  | nil => exact .refl c
  | cons channel channels ih => exact (evolves_receiveNotification (by simp)).trans ih

theorem flush_closed (fs : List Frame) : (flush ok fs c).closed = c.closed := by
  induction fs generalizing c with
  | nil => rfl
  | cons f fs ih =>
    rw [flush]
    split
    next => rfl
    next => exact ih

theorem evolves_drain : c.Evolves shows (c.drain ok) := by
  obtain ⟨-, more, hwritten, hqueue⟩ := @flush_frames ok { c with paused := false } c.queue
  refine (Evolves.refl c).congr (flush_closed c.queue) ?_
  calc (c.drain ok).frames = c.written ++ more ++ (c.drain ok).queue := by
        rw [frames]
        exact congrArg (· ++ _) hwritten
    _ = c.frames := by
        rw [List.append_assoc]
        exact congrArg (c.written ++ ·) hqueue

theorem evolves_heartbeat : c.Evolves shows (c.heartbeat ok) := by
  unfold heartbeat
  split
  next => exact .refl c
  next =>
    split
    next => exact (Evolves.refl c).congr rfl rfl
    next => exact evolves_sendMessage (by simp)

theorem evolves_retryHeartbeat : c.Evolves shows (c.retryHeartbeat ok) := by
  unfold retryHeartbeat
  split
  next => exact (Evolves.refl c).congr rfl rfl
  next =>
    have h : c.Evolves shows (c.sendMessage ok true { type := .heartbeat } none) := evolves_sendMessage (by simp)
    exact h.congr rfl rfl

/-- A client of the channel is shown the notification, or dropped for its backlog. -/
theorem receiveNotification_shown (ok : Nat → Bool) {channel : StreamChannel} (payload : Payload) (number : Nat)
    (ho : c.closed = false) (hchannel : c.channels.contains channel = true) :
    (c.receiveNotification ok channel payload (some number)).closed = true ∨
      (c.receiveNotification ok channel payload (some number)).Shown number := by
  simp only [receiveNotification, sendMessage, ho, hchannel, Bool.not_true, Bool.or_self, Bool.false_eq_true,
    if_false]
  unfold sendFrame
  split
  next =>
    unfold enqueue
    split
    next => exact .inl rfl
    next => exact .inr ⟨_, List.mem_append_right _ (List.mem_append_right _ (List.mem_singleton_self _)), rfl⟩
  next => exact .inr ⟨_, List.mem_append_left _ (List.mem_append_right _ (List.mem_singleton_self _)), rfl⟩

theorem receiveNotification_other {channel : StreamChannel} {payload : Payload} {delivers : Option Nat}
    (hchannel : c.channels.contains channel = false) : c.receiveNotification ok channel payload delivers = c := by
  rw [receiveNotification, hchannel]
  simp

/-- A new connection shows no notification. -/
theorem start_unshown (channels : List StreamChannel) (id : Option String) (known : Option Nat) :
    ∀ f ∈ (start ok channels id known).frames, f.delivers = none := by
  have hnew : (subscribed channels known).Evolves (fun _ => False) (start ok channels id known) := by
    unfold start
    split
    next => exact (evolves_sendMessage (by simp)).trans (evolves_sendMessage (by simp))
    next => exact evolves_sendMessage (by simp)
  intro f hf
  obtain hold | hnone := hnew.fresh f hf
  · simp [frames, subscribed] at hold
  · exact Option.eq_none_iff_forall_ne_some.mpr fun n hn => hnone n hn

end Connection

namespace Endpoint

/-- What comes to a process that serves the stream. The NOTIFYs of one broadcast have one number, which no other
NOTIFY has, and a client that connects again is another client. -/
inductive Event where
  | notify (ok : Nat → Nat → Bool) (number : Nat) (channel : StreamChannel) (raw : RawPayload)
  | request (ok : Nat → Bool) (k : Nat)
  | drain (ok : Nat → Bool) (k : Nat)
  | heartbeat (ok : Nat → Bool) (k : Nat)
  | retryHeartbeat (ok : Nat → Bool) (k : Nat)
  | close (k : Nat)
  | connectionLost (ok : Nat → Nat → Bool)

/-- `dispatchStreamNotification` on the text of a NOTIFY. -/
def notify (ok : Nat → Nat → Bool) (number : Nat) (channel : StreamChannel) (s : Endpoint) : RawPayload → Endpoint
  | .absent => s.dispatchStreamNotification ok number channel {}
  | .malformed => s
  -- the fields are read outside the `try`: one of `null` ends the process
  | .null => s.restart
  | .parsed payload => s.dispatchStreamNotification ok number channel payload

def onConnection (k : Nat) (f : Connection → Connection) (s : Endpoint) : Endpoint :=
  s.mapConnections fun j c => if j = k then f c else c

def act (s : Endpoint) : Event → Endpoint
  | .notify ok number channel raw => s.notify ok number channel raw
  | .request ok k => if (s.clients k).connection.isNone then s.request ok k else s
  | .drain ok k => s.onConnection k (Connection.drain ok)
  | .heartbeat ok k => s.onConnection k (Connection.heartbeat ok)
  | .retryHeartbeat ok k => s.onConnection k (Connection.retryHeartbeat ok)
  | .close k => s.onConnection k Connection.close
  | .connectionLost ok => s.connectionLost ok

/-- The process after these events, with the channels each client asks for. -/
def after (channels : Nat → List StreamChannel) (events : List Event) : Endpoint :=
  events.foldl act (initial channels)

def Event.number? : Event → Option Nat
  | notify _ number _ _ => some number
  | _ => none

/-- The channels on which the NOTIFYs of that number arrive, in order. -/
def heard (number : Nat) (events : List Event) : List StreamChannel :=
  events.filterMap fun
    | .notify _ n channel _ => if n = number then some channel else none
    | _ => none

/-- The channel by channel arrival of a broadcast within a run: its first NOTIFY after `before`, the other four among
`rest`, and no earlier broadcast of as high a ledger. -/
structure Broadcast (events : List Event) (number reorgLedger : Nat) (before : List Event)
    (ok : Nat → Nat → Bool) (first : StreamChannel) (rest : List Event) : Prop where
  within : before ++ .notify ok number first (.parsed (reorgDetected reorgLedger)) :: rest <+: events
  begins : heard number before = []
  arrives : (first :: heard number rest).Perm STREAM_CHANNELS
  carries : ∀ ok' channel raw, .notify ok' number channel raw ∈ rest → raw = .parsed (reorgDetected reorgLedger)
  newest : ∀ ok' n channel ledger,
    .notify ok' n channel (.parsed (reorgDetected ledger)) ∈ before → ledger < reorgLedger

/-- The client, of some channel, is connected when the broadcast begins and still is when it has arrived. -/
structure Stays (channels : Nat → List StreamChannel) (before during : List Event) (k : Nat)
    (c c' : Connection) : Prop where
  subscribed : channels k ≠ []
  begins : ((after channels before).clients k).connection = some c ∧ c.closed = false
  ends : ((after channels (before ++ during)).clients k).connection = some c' ∧ c'.closed = false

/-- Every broadcast of a newer reorg reaches every client. -/
def ReachesAll (channels : Nat → List StreamChannel) (events : List Event) : Prop :=
  ∀ number reorgLedger before ok first rest, Broadcast events number reorgLedger before ok first rest →
    ∀ k c c', Stays channels before (.notify ok number first (.parsed (reorgDetected reorgLedger)) :: rest) k c c' →
      c'.Shown number

/-- When the first NOTIFY of such a broadcast arrives, no NOTIFY of as high a `reorg_ledger` was dispatched, and every
client is subscribed to the channel on which it arrives. -/
def FirstForAll (channels : Nat → List StreamChannel) (events : List Event) : Prop :=
  ∀ number reorgLedger before ok first rest, Broadcast events number reorgLedger before ok first rest →
    ∀ k c c', Stays channels before (.notify ok number first (.parsed (reorgDetected reorgLedger)) :: rest) k c c' →
      (after channels before).lastReorgLedger.all (· < reorgLedger) ∧ c.channels.contains first

variable {s : Endpoint} {k number reorgLedger : Nat} {c : Connection} {shows : Nat → Prop}

/-- The connection of a client. -/
def connection (s : Endpoint) (k : Nat) : Option Connection := (s.clients k).connection

theorem connection_mapConnections (f : Nat → Connection → Connection) :
    (s.mapConnections f).connection k = (s.connection k).map (f k) := rfl

theorem connection_onConnection {f : Connection → Connection} (hc : s.connection k = some c) (j : Nat) :
    (s.onConnection j f).connection k = some (if k = j then f c else c) := by
  rw [onConnection, connection_mapConnections, hc]
  rfl

theorem connection_learn (ledger : Option Nat) : (s.learn ledger).connection k = s.connection k := by
  cases ledger <;> rfl

theorem lastReorgLedger_learn (ledger : Option Nat) : (s.learn ledger).lastReorgLedger = s.lastReorgLedger := by
  cases ledger <;> rfl

/-- A notification is dropped, or passed to every client. -/
theorem dispatch_cases (ok : Nat → Nat → Bool) (number : Nat) (channel : StreamChannel) (payload : Payload)
    (s : Endpoint) :
    (∃ reorgLedger, payload.reorg_ledger = some reorgLedger ∧ s.lastReorgLedger.any (reorgLedger ≤ ·) = true ∧
      s.dispatchStreamNotification ok number channel payload = s.learn payload.ledger) ∨
    ((∀ reorgLedger, payload.reorg_ledger = some reorgLedger → s.lastReorgLedger.any (reorgLedger ≤ ·) = false) ∧
      (s.dispatchStreamNotification ok number channel payload).lastReorgLedger =
        payload.reorg_ledger.or s.lastReorgLedger ∧
      ∀ k, (s.dispatchStreamNotification ok number channel payload).connection k =
        (s.connection k).map (Connection.receiveNotification (ok k) channel payload (some number))) := by
  cases hr : payload.reorg_ledger with
  | none =>
    refine .inr ⟨by simp, ?_, fun k => ?_⟩
    · simp only [dispatchStreamNotification, hr, deliver, mapConnections, lastReorgLedger_learn, Option.none_or]
    · simp only [dispatchStreamNotification, hr, deliver, connection_mapConnections, connection_learn]
  | some reorgLedger =>
    cases hany : s.lastReorgLedger.any (reorgLedger ≤ ·) with
    | true =>
      exact .inl ⟨reorgLedger, rfl, hany, by simp [dispatchStreamNotification, hr, lastReorgLedger_learn, hany]⟩
    | false =>
      refine .inr ⟨fun l hl => by cases hl; exact hany, ?_, fun k => ?_⟩
      · simp [dispatchStreamNotification, hr, lastReorgLedger_learn, hany, deliver, mapConnections]
      · have hlearn := connection_learn (s := s) (k := k) payload.ledger
        simp only [dispatchStreamNotification, hr, lastReorgLedger_learn, hany, deliver, Bool.false_eq_true, if_false]
        rw [connection_mapConnections, ← hlearn]
        rfl

theorem dispatch_evolves (ok : Nat → Nat → Bool) (channel : StreamChannel) (payload : Payload)
    (hc : s.connection k = some c) (hshows : shows number) :
    ∃ c', (s.dispatchStreamNotification ok number channel payload).connection k = some c' ∧ c.Evolves shows c' := by
  obtain ⟨_, -, -, hdrop⟩ | ⟨-, -, hdeliver⟩ := dispatch_cases ok number channel payload s
  · exact ⟨c, by rw [hdrop, connection_learn, hc], .refl c⟩
  · exact ⟨_, by rw [hdeliver, hc, Option.map_some],
      Connection.evolves_receiveNotification fun n hn => Option.some.inj hn ▸ hshows⟩

theorem act_evolves (shows : Nat → Prop) (hc : s.connection k = some c) (e : Event)
    (hshows : ∀ n, e.number? = some n → shows n) :
    ∃ c', (s.act e).connection k = some c' ∧ c.Evolves shows c' := by
  have hone : ∀ (j : Nat) {f : Connection → Connection}, c.Evolves shows (f c) →
      ∃ c', (s.onConnection j f).connection k = some c' ∧ c.Evolves shows c' := by
    intro j f hf
    refine ⟨_, connection_onConnection hc j, ?_⟩
    split
    next => exact hf
    next => exact .refl c
  cases e with
  | notify ok number channel raw =>
    cases raw with
    | absent => exact dispatch_evolves ok channel {} hc (hshows number rfl)
    | malformed => exact ⟨c, hc, .refl c⟩
    | null => exact ⟨c.close, congrArg (Option.map Connection.close) hc, Connection.evolves_close⟩
    | parsed payload => exact dispatch_evolves ok channel payload hc (hshows number rfl)
  | request ok j =>
    simp only [act]
    split
    next hnone =>
      have hne : k ≠ j := by
        rintro rfl
        rw [show (s.clients k).connection = some c from hc] at hnone
        cases hnone
      exact ⟨c, by simpa [request, connection, setClient, hne] using hc, .refl c⟩
    next => exact ⟨c, hc, .refl c⟩
  | drain ok j => exact hone j Connection.evolves_drain
  | heartbeat ok j => exact hone j Connection.evolves_heartbeat
  | retryHeartbeat ok j => exact hone j Connection.evolves_retryHeartbeat
  | close j => exact hone j Connection.evolves_close
  | connectionLost ok =>
    exact ⟨_, congrArg (Option.map (Connection.receiveDisconnect (ok k))) hc, Connection.evolves_receiveAll _⟩

/-- A reorg signal of this ledger is not newer than the last one. -/
def Superseded (reorgLedger : Nat) (s : Endpoint) : Prop := s.lastReorgLedger.any (reorgLedger ≤ ·) = true

theorem Superseded.dispatch (h : s.Superseded reorgLedger) (ok : Nat → Nat → Bool) (number : Nat)
    (channel : StreamChannel) (payload : Payload) :
    (s.dispatchStreamNotification ok number channel payload).Superseded reorgLedger := by
  unfold Superseded at *
  obtain ⟨_, -, -, hdrop⟩ | ⟨hpass, hlast, -⟩ := dispatch_cases ok number channel payload s
  · rw [hdrop, lastReorgLedger_learn]
    exact h
  · rw [hlast]
    cases hr : payload.reorg_ledger with
    | none => simpa using h
    | some newer =>
      have hnewer := hpass newer hr
      cases hs : s.lastReorgLedger with
      | none => simp [hs] at h
      | some last =>
        simp only [hs, Option.any_some, decide_eq_true_eq, decide_eq_false_iff_not] at h hnewer
        rw [Option.some_or, Option.any_some, decide_eq_true_eq]
        omega

/-- The last reorg ledger is kept, or the process ends and closes every connection. -/
theorem act_superseded (h : s.Superseded reorgLedger) (e : Event) :
    (s.act e).Superseded reorgLedger ∨ ∀ k c, (s.act e).connection k = some c → c.closed = true := by
  cases e with
  | notify ok number channel raw =>
    cases raw with
    | absent => exact .inl (h.dispatch ok number channel {})
    | malformed => exact .inl h
    | null =>
      refine .inr fun k c hc => ?_
      obtain ⟨c₀, -, rfl⟩ := Option.map_eq_some_iff.mp (show (s.connection k).map Connection.close = some c from hc)
      rfl
    | parsed payload => exact .inl (h.dispatch ok number channel payload)
  | request ok j =>
    simp only [act]
    split
    next => exact .inl h
    next => exact .inl h
  | _ => exact .inl h

/-- The first NOTIFY of a broadcast supersedes the others. -/
theorem superseded_reorgDetected (ok : Nat → Nat → Bool) (number : Nat) (channel : StreamChannel) :
    (s.dispatchStreamNotification ok number channel (reorgDetected reorgLedger)).Superseded reorgLedger := by
  unfold Superseded
  obtain ⟨_, hr, hlast, hdrop⟩ | ⟨-, hlast, -⟩ := dispatch_cases ok number channel (reorgDetected reorgLedger) s
  · cases hr
    rw [hdrop, lastReorgLedger_learn]
    exact hlast
  · rw [hlast]
    simp [reorgDetected]

theorem dispatch_superseded (h : s.Superseded reorgLedger) (ok : Nat → Nat → Bool) (number : Nat)
    (channel : StreamChannel) :
    s.dispatchStreamNotification ok number channel (reorgDetected reorgLedger) = s.learn (some reorgLedger) := by
  obtain ⟨_, -, -, hdrop⟩ | ⟨hpass, -, -⟩ := dispatch_cases ok number channel (reorgDetected reorgLedger) s
  · exact hdrop
  · rw [Superseded, hpass reorgLedger rfl] at h
    cases h

theorem foldl_evolves (hc : s.connection k = some c) (events : List Event) :
    ∃ c', (events.foldl act s).connection k = some c' ∧ c.Evolves (fun _ => True) c' := by
  induction events generalizing s c with
  | nil => exact ⟨c, hc, .refl c⟩
  | cons e events ih =>
    obtain ⟨c₁, hc₁, hfirst⟩ := act_evolves (fun _ => True) hc e fun _ _ => trivial
    obtain ⟨c', hc', hrest⟩ := ih hc₁
    exact ⟨c', hc', hfirst.trans hrest⟩

/-- A superseded broadcast shows a client nothing. -/
theorem superseded_evolves (h : s.Superseded reorgLedger) (hc : s.connection k = some c) {rest : List Event}
    (hcarries : ∀ ok channel raw, .notify ok number channel raw ∈ rest → raw = .parsed (reorgDetected reorgLedger)) :
    ∃ c', (rest.foldl act s).connection k = some c' ∧ (c'.closed = true ∨ c.Evolves (· ≠ number) c') := by
  induction rest generalizing s c with
  | nil => exact ⟨c, hc, .inr (.refl c)⟩
  | cons e rest ih =>
    have hrest : ∀ ok channel raw, .notify ok number channel raw ∈ rest → raw = .parsed (reorgDetected reorgLedger) :=
      fun ok channel raw he => hcarries ok channel raw (List.mem_cons_of_mem e he)
    by_cases he : e.number? = some number
    · cases e with
      | notify ok n channel raw =>
        obtain rfl : n = number := Option.some.inj he
        obtain rfl := hcarries ok channel raw List.mem_cons_self
        have hlearn : s.act (.notify ok n channel (.parsed (reorgDetected reorgLedger))) =
            s.learn (some reorgLedger) := dispatch_superseded h ok n channel
        rw [List.foldl_cons, hlearn]
        refine ih ?_ ?_ hrest
        · rw [Superseded, lastReorgLedger_learn]
          exact h
        · rw [connection_learn, hc]
      | _ => cases he
    · obtain ⟨c₁, hc₁, hfirst⟩ := act_evolves (· ≠ number) hc e fun n hn hnn => he (hnn ▸ hn)
      obtain hkept | hclosed := act_superseded h e
      · obtain ⟨c', hc', hthen⟩ := ih hkept hc₁ hrest
        exact ⟨c', hc', hthen.imp_right hfirst.trans⟩
      · obtain ⟨c', hc', hthen⟩ := foldl_evolves hc₁ rest
        exact ⟨c', hc', .inl (hthen.closed (hclosed k c₁ hc₁))⟩

/-- A client that connects is shown no notification yet. -/
theorem act_connects (hnone : s.connection k = none) {e : Event} (hc : (s.act e).connection k = some c) :
    ∀ f ∈ c.frames, f.delivers = none := by
  have hmap : ∀ {f : Nat → Connection → Connection}, (s.mapConnections f).connection k ≠ some c := by
    intro f hf
    rw [connection_mapConnections, hnone] at hf
    cases hf
  have hdispatch : ∀ ok number channel payload,
      (s.dispatchStreamNotification ok number channel payload).connection k ≠ some c := by
    intro ok number channel payload hf
    obtain ⟨_, -, -, hdrop⟩ | ⟨-, -, hdeliver⟩ := dispatch_cases ok number channel payload s
    · rw [hdrop, connection_learn, hnone] at hf
      cases hf
    · rw [hdeliver, hnone] at hf
      cases hf
  cases e with
  | notify ok number channel raw =>
    cases raw with
    | absent => exact absurd hc (hdispatch ok number channel {})
    | malformed => exact absurd (hnone.symm.trans hc) (by simp)
    | null => exact absurd hc (hmap (f := fun _ => Connection.close))
    | parsed payload => exact absurd hc (hdispatch ok number channel payload)
  | request ok j =>
    simp only [act] at hc
    split at hc
    next =>
      by_cases hj : k = j
      · subst hj
        simp only [request, connection, setClient, if_true, Option.some.injEq] at hc
        subst hc
        exact Connection.start_unshown _ _ _
      · exact absurd (hnone.symm.trans (by simpa [request, connection, setClient, hj] using hc)) (by simp)
    next => exact absurd (hnone.symm.trans hc) (by simp)
  | connectionLost ok => exact absurd hc (hmap (f := fun k => Connection.receiveDisconnect (ok k)))
  | _ => exact absurd hc hmap

/-- Before a broadcast begins, nobody is shown it. -/
theorem unshown_after (channels : Nat → List StreamChannel) {before : List Event} (h : heard number before = [])
    (hc : (after channels before).connection k = some c) : ¬ c.Shown number := by
  induction before using List.reverseRecOn generalizing c with
  | nil => cases hc
  | append_singleton past e ih =>
    simp only [heard, List.filterMap_append, List.append_eq_nil_iff] at h
    have he : e.number? ≠ some number := by
      cases e with
      | notify ok n channel raw => simpa [Event.number?] using h.2
      | _ => simp [Event.number?]
    rw [after, List.foldl_concat] at hc
    rintro ⟨f, hf, hdelivers⟩
    cases hold : (after channels past).connection k with
    | none =>
      rw [act_connects hold hc f hf] at hdelivers
      cases hdelivers
    | some c₀ =>
      obtain ⟨c₁, hc₁, hevolves⟩ := act_evolves (· ≠ number) hold e fun n hn hnn => he (hnn ▸ hn)
      obtain rfl : c₁ = c := Option.some.inj (hc₁.symm.trans hc)
      obtain hkept | hnew := hevolves.fresh f hf
      · exact ih h.1 hold ⟨f, hkept, hdelivers⟩
      · exact hnew number hdelivers rfl

/-- **Whom a broadcast reaches.** -/
theorem shown_iff (channels : Nat → List StreamChannel) {events before rest : List Event} {ok : Nat → Nat → Bool}
    {first : StreamChannel} (hb : Broadcast events number reorgLedger before ok first rest) {c' : Connection}
    (hstays : Stays channels before (.notify ok number first (.parsed (reorgDetected reorgLedger)) :: rest) k c c') :
    c'.Shown number ↔
      (after channels before).lastReorgLedger.all (· < reorgLedger) ∧ c.channels.contains first := by
  obtain ⟨hc, ho⟩ := hstays.begins
  obtain ⟨hc', ho'⟩ := hstays.ends
  have hunshown : ¬ c.Shown number := unshown_after channels hb.begins hc
  have hrun : (after channels (before ++ .notify ok number first (.parsed (reorgDetected reorgLedger)) :: rest)) =
      rest.foldl act ((after channels before).dispatchStreamNotification ok number first
        (reorgDetected reorgLedger)) := by
    rw [after, List.foldl_append, List.foldl_cons]
    rfl
  rw [hrun] at hc'
  -- whatever the first NOTIFY does to the connection, the rest of the broadcast leaves it at that
  have hrest : ∀ {c₁ : Connection}, ((after channels before).dispatchStreamNotification ok number first
      (reorgDetected reorgLedger)).connection k = some c₁ →
      c₁.closed = false ∧ (c'.Shown number ↔ c₁.Shown number) := by
    intro c₁ hc₁
    obtain ⟨c₂, hc₂, hevolves⟩ := superseded_evolves (superseded_reorgDetected ok number first) hc₁ hb.carries
    obtain rfl : c₂ = c' := Option.some.inj (hc₂.symm.trans hc')
    have hevolves := hevolves.resolve_left (by simp [ho'])
    refine ⟨?_, ?_, ?_⟩
    · by_contra hclosed
      simp [hevolves.closed (by simpa using hclosed)] at ho'
    · rintro ⟨f, hf, hdelivers⟩
      obtain hkept | hnew := hevolves.fresh f hf
      · exact ⟨f, hkept, hdelivers⟩
      · exact absurd rfl (hnew number hdelivers)
    · rintro ⟨f, hf, hdelivers⟩
      exact ⟨f, hevolves.kept ho' f hf, hdelivers⟩
  obtain ⟨l, hl, hany, hdrop⟩ | ⟨hpass, -, hdeliver⟩ :=
    dispatch_cases ok number first (reorgDetected reorgLedger) (after channels before)
  · -- it was dropped
    obtain rfl : l = reorgLedger := (Option.some.inj hl).symm
    rw [(hrest (by rw [hdrop, connection_learn]; exact hc)).2, iff_false_left hunshown]
    rintro ⟨hall, -⟩
    cases hlast : (after channels before).lastReorgLedger with
    | none => simp [hlast] at hany
    | some last => simp [hlast] at hany hall; omega
  · have hnewer : (after channels before).lastReorgLedger.all (· < reorgLedger) = true := by
      have hany := hpass reorgLedger rfl
      cases hlast : (after channels before).lastReorgLedger with
      | none => rfl
      | some last => simp [hlast] at hany ⊢; omega
    obtain ⟨hopen, hshown⟩ := hrest (by rw [hdeliver]; exact congrArg _ hc)
    rw [hshown, iff_true_intro hnewer, true_and]
    cases hchannel : c.channels.contains first with
    | false =>
      rw [Connection.receiveNotification_other hchannel]
      simpa using hunshown
    | true =>
      have h := Connection.receiveNotification_shown (ok k) (reorgDetected reorgLedger) number ho hchannel
      simpa using h.resolve_left (by rw [hopen]; simp)

/-- **A reorg signal reaches every subscriber** in exactly the runs in which the first NOTIFY of each broadcast is for
all of them. -/
theorem reorg_reaches_all_iff (channels : Nat → List StreamChannel) (events : List Event) :
    ReachesAll channels events ↔ FirstForAll channels events := by
  constructor
  · intro h number reorgLedger before ok first rest hb k c c' hstays
    exact (shown_iff channels hb hstays).mp (h number reorgLedger before ok first rest hb k c c' hstays)
  · intro h number reorgLedger before ok first rest hb k c c' hstays
    exact (shown_iff channels hb hstays).mpr (h number reorgLedger before ok first rest hb k c c' hstays)

/-- A client connects, and a reorg is broadcast in the order of the channels. -/
def loansClient : List Event := [.request alwaysWrites 0]

def broadcastOnce : List Event := STREAM_CHANNELS.map fun channel =>
  .notify (fun _ => alwaysWrites) 0 channel (.parsed (reorgDetected 100))

/-- A client of the loans channel is not told of the reorg. -/
theorem loans_client_misses_reorg : ¬ ReachesAll (fun _ => [.loans]) (loansClient ++ broadcastOnce) := by
  intro h
  have hcarries : ∀ ok channel raw, Event.notify ok 0 channel raw ∈ broadcastOnce.tail →
      raw = .parsed (reorgDetected 100) := by
    intro ok channel raw he
    obtain ⟨_, -, heq⟩ := List.mem_map.mp (List.mem_of_mem_tail he)
    cases heq
    rfl
  have hshown := h 0 100 loansClient (fun _ => alwaysWrites) .members broadcastOnce.tail
    ⟨List.prefix_rfl, rfl, List.Perm.refl _, hcarries, by simp [loansClient]⟩ 0 _ _ ⟨by simp, ⟨rfl, rfl⟩, ⟨rfl, rfl⟩⟩
  revert hshown
  decide +kernel

end Endpoint

end OurDao
