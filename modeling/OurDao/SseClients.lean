import OurDao.JsonText
import OurDao.Stream
import OurDao.StreamCaps

/-!
# The clients of the stream, with their timers

A `StreamClient` from its registration on: what it is sent, what it does when its socket
takes no more, and how it is closed. A write that throws on a destroyed socket marks the
client closed and releases nothing; the socket's events, the timers and the shutdown call
`close`, any number of times, and the first call releases the client. Every callback runs
to its end before the next one, and `close` waits for nothing.
-/

namespace OurDao

namespace Sse

def HEARTBEAT_RETRY_INITIAL_MS : Nat := 1000

def HEARTBEAT_RETRY_MAX_MS : Nat := 16000

/-- What `reply.raw.write` does; after a throw, whether the socket is destroyed. -/
inductive Write where
  | accepted
  | full
  | throws (destroyed : Bool)
  deriving DecidableEq

structure Message where
  type : MessageType
  channel : Option StreamChannel := none
  payload : Option JsonValue := none

structure Frame where
  id : JsonNumber
  msg : Message

structure Client where
  /-- what the trackers know it by -/
  self : StreamClient
  channels : List StreamChannel := []
  heartbeatTimer : Bool := false
  closed : Bool := false
  /-- `releasePromise` is set -/
  released : Bool := false
  paused : Bool := false
  queue : List Frame := []
  stallTimer : Bool := false
  heartbeatRetryTimer : Bool := false
  heartbeatRetryDelayMs : Nat := HEARTBEAT_RETRY_INITIAL_MS
  lastSentLedger : JsonNumber := 0
  /-- the frames for which `write` was called -/
  written : List Frame := []

/-- What changes the trackers. -/
inductive Move where
  | register (w : Handshake)
  | leave (client : StreamClient)
  deriving DecidableEq

/-- A client at work, with the trackers it takes itself out of and what has changed them so far. -/
structure Scope where
  client : Client
  trackers : StreamTrackers
  moves : List Move

namespace Client

/- what `write` does with the frame at each position -/
variable (io : Nat → Write)

def writeFrame (f : Frame) (c : Client) : Client :=
  let c' := { c with written := c.written ++ [f] }
  match io c.written.length with
  | .accepted => { c' with paused := false, stallTimer := false }
  | .full => { c' with paused := true, stallTimer := true }
  | .throws destroyed => if destroyed then { c' with closed := true } else c'

/-- The ledger that a payload carries, if it is a number. -/
def ledgerOf (payload : Option JsonValue) : Option JsonNumber :=
  (payload.bind (·.get? "ledger")).bind (·.number?)

/-- The id moves on to a newer ledger. -/
def advance (msg : Message) (c : Client) : Client :=
  match ledgerOf msg.payload with
  | some ledger => if c.lastSentLedger < ledger then { c with lastSentLedger := ledger } else c
  | none => c

def flush : List Frame → Client → Client
  | [], c => { c with queue := [] }
  | f :: fs, c => if c.paused || c.closed then { c with queue := f :: fs } else flush fs (c.writeFrame io f)

/-- The socket's buffer has drained. -/
def drain (c : Client) : Client := flush io c.queue { c with paused := false, stallTimer := false }

def scheduleHeartbeatRetry (c : Client) : Client :=
  if c.heartbeatRetryTimer then c
  else { c with heartbeatRetryDelayMs := HEARTBEAT_RETRY_INITIAL_MS, heartbeatRetryTimer := true }

/-- Whether a timer of the client is armed. The idle timeout is the socket's. -/
def armed (c : Client) : Bool := c.heartbeatTimer || c.stallTimer || c.heartbeatRetryTimer

end Client

namespace Scope

variable (io : Nat → Write)

def onClient (f : Client → Client) (s : Scope) : Scope := { s with client := f s.client }

def doClose (s : Scope) : Scope where
  client := { s.client with heartbeatTimer := false, channels := [] }
  trackers := s.trackers.doClose s.client.self
  moves := if s.client.self ∈ s.trackers.connectedClients then s.moves ++ [.leave s.client.self] else s.moves

def close (s : Scope) : Scope :=
  if s.client.released then s
  else
    let s := s.onClient fun c =>
      { c with closed := true, queue := [], stallTimer := false, heartbeatRetryTimer := false }
    s.doClose.onClient fun c => { c with released := true }

def enqueue (f : Frame) (s : Scope) : Scope :=
  if MAX_QUEUED_MESSAGES ≤ s.client.queue.length then s.close
  else s.onClient fun c => { c with queue := c.queue ++ [f] }

def sendMessage (force : Bool) (msg : Message) (s : Scope) : Scope :=
  if s.client.closed then s
  else
    let s := s.onClient (·.advance msg)
    let frame : Frame := ⟨s.client.lastSentLedger, msg⟩
    if s.client.paused && !force then s.enqueue frame else s.onClient (·.writeFrame io frame)

def receiveNotification (channel : StreamChannel) (payload : JsonValue) (s : Scope) : Scope :=
  if s.client.closed then s
  else if !s.client.channels.contains channel then s
  else s.sendMessage io false { type := .notification, channel := some channel, payload := some payload }

def heartbeat (s : Scope) : Scope :=
  if s.client.closed then s
  else if s.client.paused then s.onClient (·.scheduleHeartbeatRetry)
  else s.sendMessage io false { type := .heartbeat }

/-- The retry timer fires: a heartbeat past the queue. -/
def heartbeatRetry (s : Scope) : Scope :=
  let s := s.onClient fun c => { c with heartbeatRetryTimer := false }
  if s.client.closed then s
  else
    let s := s.sendMessage io true { type := .heartbeat }
    if s.client.paused then
      s.onClient fun c => { c with
        heartbeatRetryDelayMs := min (c.heartbeatRetryDelayMs * 2) HEARTBEAT_RETRY_MAX_MS
        heartbeatRetryTimer := true }
    else s

def stall (s : Scope) : Scope := (s.onClient fun c => { c with stallTimer := false }).close

/-- `knownLedger.value` when the client connects, against the id it sends. -/
def missed (lastEventId : String) (currentLedger : JsonNumber) : Bool :=
  (parseInt lastEventId).all fun seenLedger => (((seenLedger : ℚ) : WithTop ℚ) : JsonNumber) < currentLedger

def resyncMessage (lastEventId : String) (currentLedger : JsonNumber) : Message where
  type := .resync
  payload := some (.obj
    [("missed", .bool (missed lastEventId currentLedger)), ("lastKnownLedger", .num currentLedger)])

def connectedMessage : Message where
  type := .notification
  payload := some (.obj [("message", .str "Connected to stream")])

/-- The client hears of these channels, each of them once. -/
def subscribe (channels : List StreamChannel) (knownLedger : Option JsonNumber) (s : Scope) : Scope :=
  s.onClient fun c => { c with
    channels := channels.foldl (fun set channel => set.insert channel) c.channels
    lastSentLedger := knownLedger.getD 0 }

def start (channels : List StreamChannel) (lastEventId : Option String) (knownLedger : Option JsonNumber)
    (s : Scope) : Scope :=
  let s := s.subscribe channels knownLedger
  let s := match lastEventId, knownLedger with
    | some lastEventId, some currentLedger => s.sendMessage io false (resyncMessage lastEventId currentLedger)
    | _, _ => s
  (s.sendMessage io false connectedMessage).onClient fun c => { c with heartbeatTimer := true }

end Scope

/-- The trackers, and every client that was registered, by the number of its handshake. -/
structure Clients where
  trackers : StreamTrackers := {}
  clients : Nat → Option Client := fun _ => none
  moves : List Move := []

namespace Clients

def scope (s : Clients) (c : Client) : Scope := ⟨c, s.trackers, s.moves⟩

def put (k : Nat) (s : Clients) (scope : Scope) : Clients where
  trackers := scope.trackers
  clients := fun j => if j = k then some scope.client else s.clients j
  moves := scope.moves

/-- A callback of one client. -/
def onClient (k : Nat) (f : Scope → Scope) (s : Clients) : Clients :=
  match s.clients k with
  | none => s
  | some c => s.put k (f (s.scope c))

/-- A callback for each of `connectedClients`. -/
def onConnected (f : Nat → Scope → Scope) (s : Clients) : Clients :=
  s.trackers.connectedClients.foldl (fun s client => s.onClient client.id (f client.id)) s

/-- Fan a notification out. -/
def deliver (io : Nat → Nat → Write) (channel : StreamChannel) (payload : JsonValue) : Clients → Clients :=
  onConnected fun k => Scope.receiveNotification (io k) channel payload

def disconnectPayload : JsonValue :=
  .obj [("type", .str "disconnect"), ("reason", .str "database_connection_lost"),
    ("message", .str "Database connection lost, please reconnect")]

/-- The listener's connection is lost: every client is told on every channel. -/
def connectionLost (io : Nat → Nat → Write) : Clients → Clients :=
  onConnected fun k scope =>
    [StreamChannel.members, .loan_proposals, .loans, .treasury_proposals, .interest].foldl
      (fun scope channel => scope.receiveNotification (io k) channel disconnectPayload) scope

/-- The wait of a handshake ends; where the listener is connected, the client is registered and started. -/
def resume (w : Handshake) (listening : Bool) (lastEventId : Option String) (knownLedger : Option JsonNumber)
    (io : Nat → Write) (s : Clients) : Clients :=
  let trackers := s.trackers.resume w listening
  if w ∈ s.trackers.waiting ∧ listening then
    let channels := w.channels.getD [.members, .loan_proposals, .loans, .treasury_proposals, .interest]
    let moves := s.moves ++ [Move.register w]
    s.put w.id (Scope.start io channels lastEventId knownLedger ⟨{ self := ⟨w.id, w.ip⟩ }, trackers, moves⟩)
  else { s with trackers }

/-- What comes to the process. `close` is the end or an error of the socket, its idle timeout, or the shutdown. -/
inductive Event where
  | request (ip : String) (channels : Except String (Option (List StreamChannel)))
  | resume (w : Handshake) (listening : Bool) (lastEventId : Option String) (knownLedger : Option JsonNumber)
      (io : Nat → Write)
  | deliver (io : Nat → Nat → Write) (channel : StreamChannel) (payload : JsonValue)
  | connectionLost (io : Nat → Nat → Write)
  | drain (io : Nat → Write) (k : Nat)
  | heartbeat (io : Nat → Write) (k : Nat)
  | heartbeatRetry (io : Nat → Write) (k : Nat)
  | stall (k : Nat)
  | close (k : Nat)

/-- A timer that is not armed does not fire. -/
def ifArmed (timer : Client → Bool) (f : Scope → Scope) (s : Scope) : Scope := if timer s.client then f s else s

def act (limits : StreamLimits) (s : Clients) : Event → Clients
  | .request ip channels => { s with trackers := s.trackers.request limits ip channels }
  | .resume w listening lastEventId knownLedger io => s.resume w listening lastEventId knownLedger io
  | .deliver io channel payload => s.deliver io channel payload
  | .connectionLost io => s.connectionLost io
  | .drain io k => s.onClient k (Scope.onClient (Client.drain io))
  | .heartbeat io k => s.onClient k (ifArmed (·.heartbeatTimer) (Scope.heartbeat io))
  | .heartbeatRetry io k => s.onClient k (ifArmed (·.heartbeatRetryTimer) (Scope.heartbeatRetry io))
  | .stall k => s.onClient k (ifArmed (·.stallTimer) Scope.stall)
  | .close k => s.onClient k Scope.close

def after (limits : StreamLimits) (events : List Event) : Clients := events.foldl (act limits) {}

end Clients

/-- What always holds of a client. -/
structure Client.Clean (c : Client) : Prop where
  bounded : c.queue.length ≤ MAX_QUEUED_MESSAGES
  stalls : c.paused = true → c.closed = false → c.stallTimer = true
  released : c.released = true → c.closed = true ∧ c.queue = [] ∧ c.armed = false

/-- The same client, registered and subscribed as before. -/
structure Client.Stays (c c' : Client) : Prop where
  self : c'.self = c.self
  released : c'.released = c.released
  channels : c'.channels = c.channels

namespace Client

variable (io : Nat → Write) {c c' c'' : Client}

theorem Stays.trans (h : c.Stays c') (h' : c'.Stays c'') : c.Stays c'' :=
  ⟨h'.self.trans h.self, h'.released.trans h.released, h'.channels.trans h.channels⟩

theorem advance_stays (msg : Message) (c : Client) : c.Stays (c.advance msg) ∧ (c.advance msg).queue = c.queue := by
  unfold advance
  split
  next => split <;> exact ⟨⟨rfl, rfl, rfl⟩, rfl⟩
  next => exact ⟨⟨rfl, rfl, rfl⟩, rfl⟩

theorem advance_clean (h : c.Clean) (msg : Message) : (c.advance msg).Clean := by
  unfold advance
  split
  next =>
    split
    next => exact ⟨h.bounded, h.stalls, h.released⟩
    next => exact h
  next => exact h

theorem writeFrame_stays (f : Frame) (c : Client) :
    c.Stays (c.writeFrame io f) ∧ (c.writeFrame io f).queue = c.queue := by
  unfold writeFrame
  dsimp only
  split
  next => exact ⟨⟨rfl, rfl, rfl⟩, rfl⟩
  next => exact ⟨⟨rfl, rfl, rfl⟩, rfl⟩
  next destroyed _ => cases destroyed <;> exact ⟨⟨rfl, rfl, rfl⟩, rfl⟩

/-- A write pauses the client with its stall timer armed, goes on, or leaves all as it was. -/
theorem writeFrame_clean (h : c.Clean) (ho : c.released = false) (f : Frame) : (c.writeFrame io f).Clean := by
  unfold writeFrame
  dsimp only
  split
  next => exact ⟨h.bounded, by simp, by simp [ho]⟩
  next => exact ⟨h.bounded, by simp, by simp [ho]⟩
  next destroyed _ =>
    cases destroyed with
    | true => exact ⟨h.bounded, by simp, by simp [ho]⟩
    | false => exact ⟨h.bounded, h.stalls, by simp [ho]⟩

theorem writeFrame_queue (f : Frame) (fs : List Frame) (c : Client) :
    writeFrame io f { c with queue := fs } = { c.writeFrame io f with queue := fs } := by
  unfold writeFrame
  dsimp only
  split
  next => rfl
  next => rfl
  next destroyed _ => cases destroyed <;> rfl

theorem flush_clean (fs : List Frame) (h : Client.Clean { c with queue := fs }) (ho : c.released = false) :
    (c.flush io fs).Clean ∧ c.Stays (c.flush io fs) := by
  induction fs generalizing c with
  | nil => exact ⟨h, rfl, rfl, rfl⟩
  | cons f fs ih =>
    rw [flush]
    split
    next => exact ⟨h, rfl, rfl, rfl⟩
    next =>
      have hfewer : Client.Clean { c with queue := fs } :=
        ⟨(Nat.le_succ fs.length).trans h.bounded, h.stalls, by simp [ho]⟩
      have hclean := writeFrame_clean io hfewer ho f
      rw [writeFrame_queue] at hclean
      obtain ⟨hstays, -⟩ := writeFrame_stays io f c
      obtain ⟨hclean', hstays'⟩ := ih hclean (hstays.released.trans ho)
      exact ⟨hclean', hstays.trans hstays'⟩

end Client

namespace Scope

variable (io : Nat → Write) {s s' s'' : Scope}

/-- What one callback does to its client and the trackers: the client stays, or it leaves. -/
structure Keeps (s s' : Scope) : Prop where
  clean : s'.client.Clean
  self : s'.client.self = s.client.self
  silent : s.client.released = true → s'.client.released = true ∧ s'.client.written = s.client.written
  moved : (s.client.Stays s'.client ∧ s'.trackers = s.trackers ∧ s'.moves = s.moves) ∨
    (s.client.released = false ∧ s'.client.released = true ∧ s'.trackers = s.trackers.doClose s.client.self ∧
      s'.moves = if s.client.self ∈ s.trackers.connectedClients then s.moves ++ [.leave s.client.self] else s.moves)

theorem Keeps.refl (h : s.client.Clean) : s.Keeps s :=
  ⟨h, rfl, fun hr => ⟨hr, rfl⟩, .inl ⟨⟨rfl, rfl, rfl⟩, rfl, rfl⟩⟩

theorem Keeps.trans (h : s.Keeps s') (h' : s'.Keeps s'') : s.Keeps s'' where
  clean := h'.clean
  self := h'.self.trans h.self
  silent hr := by
    obtain ⟨hr', hwritten⟩ := h.silent hr
    obtain ⟨hr'', hwritten'⟩ := h'.silent hr'
    exact ⟨hr'', hwritten'.trans hwritten⟩
  moved := by
    obtain ⟨hstays, ht, hm⟩ | ⟨hr, hr', ht, hm⟩ := h.moved
    · obtain ⟨hstays', ht', hm'⟩ | ⟨hr', hr'', ht', hm'⟩ := h'.moved
      · exact .inl ⟨hstays.trans hstays', ht'.trans ht, hm'.trans hm⟩
      · rw [ht, h.self] at ht' hm'
        rw [hm] at hm'
        exact .inr ⟨hstays.released.symm.trans hr', hr'', ht', hm'⟩
    · obtain ⟨hstays', ht', hm'⟩ | ⟨hr'', -⟩ := h'.moved
      · exact .inr ⟨hr, hstays'.released.trans hr', ht'.trans ht, hm'.trans hm⟩
      · rw [hr'] at hr''
        cases hr''

/-- A client that is open and does not leave. -/
theorem keeps_onClient {f : Client → Client} (ho : s.client.released = false) (hclean : (f s.client).Clean)
    (hstays : s.client.Stays (f s.client)) : s.Keeps (s.onClient f) :=
  ⟨hclean, hstays.self, fun hr => absurd (hr.symm.trans ho) (by simp), .inl ⟨hstays, rfl, rfl⟩⟩

theorem close_of_open (ho : s.client.released = false) : s.close.client.released = true ∧ s.Keeps s.close := by
  have hreleased : s.close.client.released = true := by simp [close, ho, onClient]
  refine ⟨hreleased, ?_, ?_, ?_, ?_⟩
  · constructor
    case bounded => simp [close, ho, onClient, doClose]
    case stalls => simp [close, ho, onClient, doClose]
    case released => simp [close, ho, onClient, doClose, Client.armed]
  · simp [close, ho, onClient, doClose]
  · exact fun hr => absurd (hr.symm.trans ho) (by simp)
  · exact .inr ⟨ho, hreleased, by simp [close, ho, onClient, doClose], by simp [close, ho, onClient, doClose]⟩

theorem keeps_close (h : s.client.Clean) : s.Keeps s.close := by
  cases hr : s.client.released with
  | true => simpa [close, hr] using Keeps.refl h
  | false => exact (close_of_open hr).2

/-- A client that is open has not been released. -/
theorem released_of_open (h : s.client.Clean) (ho : s.client.closed = false) : s.client.released = false := by
  cases hr : s.client.released with
  | false => rfl
  | true => exact absurd ((h.released hr).1.symm.trans ho) (by simp)

theorem keeps_enqueue (h : s.client.Clean) (ho : s.client.released = false) (f : Frame) : s.Keeps (s.enqueue f) := by
  unfold enqueue
  split
  next => exact keeps_close h
  next hroom =>
    refine keeps_onClient ho ⟨?_, h.stalls, by simp [ho]⟩ ⟨rfl, rfl, rfl⟩
    rw [List.length_append, List.length_singleton]
    omega

theorem keeps_advance (h : s.client.Clean) (ho : s.client.released = false) (msg : Message) :
    s.Keeps (s.onClient (·.advance msg)) :=
  keeps_onClient ho (Client.advance_clean h msg) (s.client.advance_stays msg).1

theorem keeps_writeFrame (h : s.client.Clean) (ho : s.client.released = false) (f : Frame) :
    s.Keeps (s.onClient (·.writeFrame io f)) :=
  keeps_onClient ho (Client.writeFrame_clean io h ho f) (Client.writeFrame_stays io f s.client).1

theorem released_advance (ho : s.client.released = false) (msg : Message) :
    (s.onClient (·.advance msg)).client.released = false := (s.client.advance_stays msg).1.released.trans ho

theorem keeps_sendMessage (h : s.client.Clean) (force : Bool) (msg : Message) :
    s.Keeps (s.sendMessage io force msg) := by
  unfold sendMessage
  split
  next => exact .refl h
  next hopen =>
    have ho := released_of_open h (by simpa using hopen)
    have hadvance := keeps_advance h ho msg
    have ho' := released_advance ho msg
    dsimp only
    split
    next => exact hadvance.trans (keeps_enqueue hadvance.clean ho' _)
    next => exact hadvance.trans (keeps_writeFrame io hadvance.clean ho' _)

/-- A write that is forced releases nobody. -/
theorem released_forced (h : s.client.Clean) (ho : s.client.closed = false) (msg : Message) :
    (s.sendMessage io true msg).client.released = false := by
  have ho' := released_advance (released_of_open h ho) msg
  simp only [sendMessage, ho, Bool.not_true, Bool.and_false, Bool.false_eq_true, if_false]
  exact (Client.writeFrame_stays io _ _).1.released.trans ho'

theorem keeps_receiveNotification (h : s.client.Clean) (channel : StreamChannel) (payload : JsonValue) :
    s.Keeps (s.receiveNotification io channel payload) := by
  unfold receiveNotification
  split
  next => exact .refl h
  next =>
    split
    next => exact .refl h
    next => exact keeps_sendMessage io h false _

theorem keeps_receiveAll (h : s.client.Clean) (channels : List StreamChannel) (payload : JsonValue) :
    s.Keeps (channels.foldl (fun s channel => s.receiveNotification io channel payload) s) := by
  induction channels generalizing s with
  | nil => exact .refl h
  | cons channel channels ih =>
    have hfirst := keeps_receiveNotification io h channel payload
    exact hfirst.trans (ih hfirst.clean)

/-- A drain leaves a client that was released with nothing to write. -/
theorem keeps_drain (h : s.client.Clean) : s.Keeps (s.onClient (Client.drain io)) := by
  cases hr : s.client.released with
  | true =>
    obtain ⟨hclosed, hqueue, harmed⟩ := h.released hr
    have hdrain : s.client.drain io = { s.client with paused := false, stallTimer := false } := by
      rw [Client.drain, hqueue, Client.flush, ← hqueue]
    have hclean : (s.client.drain io).Clean := by
      rw [hdrain]
      refine ⟨h.bounded, by simp, fun _ => ⟨hclosed, hqueue, ?_⟩⟩
      simp [Client.armed] at harmed ⊢
      exact ⟨harmed.1.1, harmed.2⟩
    have hstays : s.client.Stays (s.client.drain io) := hdrain ▸ ⟨rfl, rfl, rfl⟩
    refine ⟨hclean, hstays.self, fun _ => ⟨hstays.released.trans hr, ?_⟩, .inl ⟨hstays, rfl, rfl⟩⟩
    simp only [onClient, hdrain]
  | false =>
    obtain ⟨hclean, hstays⟩ := Client.flush_clean io (c := { s.client with paused := false, stallTimer := false })
      s.client.queue ⟨h.bounded, by simp, by simp [hr]⟩ hr
    exact keeps_onClient hr hclean ⟨hstays.self, hstays.released, hstays.channels⟩

theorem keeps_heartbeat (h : s.client.Clean) : s.Keeps (s.heartbeat io) := by
  unfold heartbeat
  split
  next => exact .refl h
  next hopen =>
    have ho := released_of_open h (by simpa using hopen)
    split
    next =>
      unfold Client.scheduleHeartbeatRetry
      refine keeps_onClient ho ?_ ?_
      all_goals split
      · exact h
      · exact ⟨h.bounded, h.stalls, by simp [ho]⟩
      all_goals exact ⟨rfl, rfl, rfl⟩
    next => exact keeps_sendMessage io h false _

theorem keeps_heartbeatRetry (h : s.client.Clean) (harmed : s.client.heartbeatRetryTimer = true) :
    s.Keeps (s.heartbeatRetry io) := by
  -- a client that was released has no timer armed
  have ho : s.client.released = false := by
    cases hr : s.client.released with
    | false => rfl
    | true => simpa [Client.armed, harmed] using (h.released hr).2.2
  have hfired : s.Keeps (s.onClient fun c => { c with heartbeatRetryTimer := false }) :=
    keeps_onClient ho ⟨h.bounded, h.stalls, by simp [ho]⟩ ⟨rfl, rfl, rfl⟩
  unfold heartbeatRetry
  dsimp only
  split
  next => exact hfired
  next hopen =>
    have hopen := Bool.eq_false_iff.mpr hopen
    have hsent := hfired.trans (keeps_sendMessage io hfired.clean true { type := .heartbeat })
    split
    next =>
      have ho' := released_forced io hfired.clean hopen { type := .heartbeat }
      have hclean := hsent.clean
      exact hsent.trans (keeps_onClient ho' ⟨hclean.bounded, hclean.stalls, by simp [ho']⟩ ⟨rfl, rfl, rfl⟩)
    next => exact hsent

theorem keeps_stall (h : s.client.Clean) (harmed : s.client.stallTimer = true) : s.Keeps s.stall := by
  have ho : s.client.released = false := by
    cases hr : s.client.released with
    | false => rfl
    | true => simpa [Client.armed, harmed] using (h.released hr).2.2
  have hfired : (s.onClient fun c => { c with stallTimer := false }).client.released = false := ho
  obtain ⟨hreleased, hclose⟩ := close_of_open hfired
  refine ⟨hclose.clean, hclose.self, fun hr => absurd (hr.symm.trans ho) (by simp), .inr ?_⟩
  exact hclose.moved.resolve_left fun hstays => absurd (hstays.1.released.symm.trans hreleased) (by simp [hfired])

theorem keeps_ifArmed {timer : Client → Bool} {f : Scope → Scope} (h : s.client.Clean)
    (hf : timer s.client = true → s.Keeps (f s)) : s.Keeps (Clients.ifArmed timer f s) := by
  unfold Clients.ifArmed
  split
  next harmed => exact hf harmed
  next => exact .refl h

/-- A message finds room in a queue that is not full. -/
theorem released_sendMessage (ho : s.client.released = false) (hroom : s.client.queue.length < MAX_QUEUED_MESSAGES)
    (force : Bool) (msg : Message) : (s.sendMessage io force msg).client.released = false ∧
      (s.sendMessage io force msg).client.queue.length ≤ s.client.queue.length + 1 := by
  have ho' := released_advance ho msg
  have hqueue : (s.onClient (·.advance msg)).client.queue = s.client.queue := (s.client.advance_stays msg).2
  unfold sendMessage
  split
  next => exact ⟨ho, Nat.le_succ _⟩
  next =>
    dsimp only
    split
    next =>
      rw [enqueue, if_neg (by rw [hqueue]; omega)]
      exact ⟨ho', by simp only [onClient] at hqueue ⊢; simp [hqueue]⟩
    next =>
      obtain ⟨hstays, hsame⟩ := Client.writeFrame_stays io
        ⟨(s.onClient (·.advance msg)).client.lastSentLedger, msg⟩ (s.onClient (·.advance msg)).client
      exact ⟨hstays.released.trans ho', (congrArg List.length (hsame.trans hqueue)).le.trans (Nat.le_succ _)⟩

/-- A client that starts is not closed by what it is sent first. -/
theorem keeps_start (channels : List StreamChannel) (lastEventId : Option String) (knownLedger : Option JsonNumber)
    (h : s.client = { self := s.client.self }) :
    (s.subscribe channels knownLedger).Keeps (s.start io channels lastEventId knownLedger) ∧
      (s.start io channels lastEventId knownLedger).client.released = false := by
  generalize hsubscribed : s.subscribe channels knownLedger = subscribed
  have ho : subscribed.client.released = false := by rw [← hsubscribed, subscribe, onClient, h]
  have hnew : subscribed.client.queue.length = 0 := by rw [← hsubscribed, subscribe, onClient, h]; rfl
  have hclean : subscribed.client.Clean := by
    rw [← hsubscribed, subscribe, onClient, h]
    exact ⟨Nat.zero_le _, by simp, by simp⟩
  have hfirst : ∀ {s₁ : Scope}, subscribed.Keeps s₁ → s₁.client.released = false → s₁.client.queue.length ≤ 1 →
      subscribed.Keeps
          ((s₁.sendMessage io false connectedMessage).onClient fun c => { c with heartbeatTimer := true }) ∧
        (s₁.sendMessage io false connectedMessage).client.released = false := by
    intro s₁ hs₁ hreleased hfew
    have hroom : s₁.client.queue.length < MAX_QUEUED_MESSAGES := hfew.trans_lt (by decide)
    have hsent := hs₁.trans (keeps_sendMessage io hs₁.clean false connectedMessage)
    have hopen := (released_sendMessage io hreleased hroom false connectedMessage).1
    have hbeats := keeps_onClient (f := fun c => { c with heartbeatTimer := true }) hopen
      ⟨hsent.clean.bounded, hsent.clean.stalls, by simp [hopen]⟩ ⟨rfl, rfl, rfl⟩
    exact ⟨hsent.trans hbeats, hopen⟩
  unfold start
  dsimp only
  rw [hsubscribed]
  split
  next id current =>
    have hroom : subscribed.client.queue.length < MAX_QUEUED_MESSAGES := hnew.le.trans_lt (by decide)
    obtain ⟨hopen, hfew⟩ := released_sendMessage io ho hroom false (resyncMessage id current)
    exact hfirst (keeps_sendMessage io hclean false _) hopen (hfew.trans (Nat.succ_le_succ hnew.le))
  next => exact hfirst (.refl hclean) ho (hnew.le.trans (Nat.zero_le 1))

end Scope

end Sse

end OurDao
