import Mathlib.Data.List.Basic
import Mathlib.Logic.Relation
import OurDao.Handlers
import OurDao.JsNumber

/-!
# The event stream

One process of the API and the clients of `GET /stream`. The indexer's notifications go
through the database to the one connection on which the process listens, and from there to
every client that is subscribed to their channel. A frame's id is the highest ledger the
client has been shown; a client that reconnects sends the id of the last frame it read, and
the process compares it with the highest ledger it knows of itself.
-/

namespace OurDao

inductive MessageType where
  | heartbeat | notification | error | resync
  deriving DecidableEq

/-- The fields of a payload, those of the indexer's notifications and those of the stream's own. -/
structure Payload where
  symbol : Option String := none
  type : Option String := none
  reason : Option String := none
  message : Option String := none
  ledger : Option Nat := none
  reorg_ledger : Option Nat := none
  missed : Option Bool := none
  lastKnownLedger : Option Nat := none
  deriving DecidableEq

structure StreamMessage where
  type : MessageType
  channel : Option StreamChannel := none
  payload : Option Payload := none
  deriving DecidableEq

/-- A frame, and the number of the notification that it delivers. -/
structure Frame where
  id : Nat
  msg : StreamMessage
  delivers : Option Nat
  deriving DecidableEq

/-- What held when a client reconnected: the id it sent, whether it had missed a notification, and
the ledgers the process had learned of. -/
structure Resumption where
  lastEventId : Nat
  missed : Bool
  learned : List Nat

/-- A `StreamClient`, apart from the times at which its timers are due. -/
structure Connection where
  channels : List StreamChannel
  closed : Bool := false
  paused : Bool := false
  queue : List Frame := []
  /-- the heartbeat retry timer is armed -/
  heartbeatRetry : Bool := false
  lastSentLedger : Nat := 0
  /-- the frames written to the socket, of which the client has read the first `read` -/
  written : List Frame := []
  read : Nat := 0
  resumed : Option Resumption := none

def MAX_QUEUED_MESSAGES : Nat := 200

/-- `Number.parseInt(s, 10)` -/
def parseInt (s : String) : Option Int :=
  let (sign, cs) := JsNumber.signed (s.toList.dropWhile JsNumber.isSpace)
  (JsNumber.digits 10 (cs.takeWhile Char.isDigit)).map fun n : Nat => sign * (n : Int)

namespace Connection

/- what `write` returns for the frame at each position -/
variable (ok : Nat → Bool)

def close (c : Connection) : Connection :=
  { c with closed := true, queue := [], heartbeatRetry := false, channels := [] }

def enqueue (f : Frame) (c : Connection) : Connection :=
  if MAX_QUEUED_MESSAGES ≤ c.queue.length then c.close else { c with queue := c.queue ++ [f] }

def writeFrame (f : Frame) (c : Connection) : Connection :=
  { c with written := c.written ++ [f], paused := !ok c.written.length }

/-- The id moves on to a newer ledger. -/
def advance (ledger : Option Nat) (c : Connection) : Connection :=
  { c with lastSentLedger := ledger.elim c.lastSentLedger (max c.lastSentLedger) }

def sendFrame (force : Bool) (f : Frame) (c : Connection) : Connection :=
  if c.paused && !force then c.enqueue f else c.writeFrame ok f

def sendMessage (force : Bool) (msg : StreamMessage) (delivers : Option Nat) (c : Connection) : Connection :=
  if c.closed then c
  else
    let c := c.advance (msg.payload.bind (·.ledger))
    c.sendFrame ok force ⟨c.lastSentLedger, msg, delivers⟩

/-- Deliver one notification, if the client is subscribed to its channel. -/
def receiveNotification (channel : StreamChannel) (payload : Payload) (delivers : Option Nat) (c : Connection) :
    Connection :=
  if c.closed || !c.channels.contains channel then c
  else c.sendMessage ok false { type := .notification, channel := some channel, payload := some payload } delivers

/-- The client is told on every channel that the listener's connection is lost. -/
def receiveDisconnect (c : Connection) : Connection :=
  let payload : Payload :=
    { type := some "disconnect", reason := some "database_connection_lost"
      message := some "Database connection lost, please reconnect" }
  [StreamChannel.members, .loan_proposals, .loans, .treasury_proposals, .interest].foldl
    (fun c channel => c.receiveNotification ok channel payload none) c

def flush : List Frame → Connection → Connection
  | [], c => { c with queue := [] }
  | f :: fs, c => if c.paused || c.closed then { c with queue := f :: fs } else flush fs (c.writeFrame ok f)

/-- The socket's buffer has drained. -/
def drain (c : Connection) : Connection := flush ok c.queue { c with paused := false }

def heartbeat (c : Connection) : Connection :=
  if c.closed then c
  else if c.paused then { c with heartbeatRetry := true }
  else c.sendMessage ok false { type := .heartbeat } none

/-- The retry timer fires: a heartbeat past the queue. -/
def retryHeartbeat (c : Connection) : Connection :=
  if c.closed then { c with heartbeatRetry := false }
  else
    let c := c.sendMessage ok true { type := .heartbeat } none
    { c with heartbeatRetry := c.paused }

/-- Whether a client that sends `lastEventId` may have missed a change. -/
def missed (lastEventId : String) (currentLedger : Nat) : Bool :=
  (parseInt lastEventId).all fun seenLedger => seenLedger < (currentLedger : Int)

def resyncMessage (missed : Bool) (currentLedger : Nat) : StreamMessage where
  type := .resync
  payload := some { missed := some missed, lastKnownLedger := some currentLedger }

def connectedMessage : StreamMessage where
  type := .notification
  payload := some { message := some "Connected to stream" }

/-- A client that is subscribed, before anything is sent to it. -/
def subscribed (channels : List StreamChannel) (knownLedger : Option Nat) : Connection where
  channels := channels
  lastSentLedger := knownLedger.getD 0

def start (channels : List StreamChannel) (lastEventId : Option String) (knownLedger : Option Nat) : Connection :=
  match lastEventId, knownLedger with
  | some lastEventId, some currentLedger =>
    ((subscribed channels knownLedger).sendMessage ok false
      (resyncMessage (missed lastEventId currentLedger) currentLedger) none).sendMessage ok false
        connectedMessage none
  | _, _ => (subscribed channels knownLedger).sendMessage ok false connectedMessage none

end Connection

/-- The shared listener. -/
inductive Listener where
  | down
  /-- connected, listening on these channels, its notifications not yet handled -/
  | connecting (channels : List StreamChannel)
  | up
  deriving DecidableEq

/-- Postgres passes on a notification of the channel. -/
def Listener.hears (channel : StreamChannel) : Listener → Bool
  | .down => false
  | .connecting channels => channels.contains channel
  | .up => true

structure Client where
  channels : List StreamChannel
  connection : Option Connection := none
  /-- the last frame it read -/
  last : Option Frame := none
  /-- how many notifications had been sent when it read that frame -/
  since : Nat := 0
  /-- the numbers of the notifications it has read -/
  delivered : List Nat := []

structure Endpoint where
  knownLedger : Option Nat := none
  lastReorgLedger : Option Nat := none
  listener : Listener := .down
  /-- the notifications on their way to the listener, by number -/
  inFlight : List Nat := []
  clients : Nat → Client
  /-- the notifications the indexer has sent, in order -/
  sent : List (StreamChannel × Payload) := []
  /-- the ledgers this process has learned of -/
  learned : List Nat := []

namespace Endpoint

def learn (ledger : Option Nat) (s : Endpoint) : Endpoint :=
  match ledger with
  | none => s
  | some ledger => { s with
    knownLedger := some (s.knownLedger.elim ledger (max ledger)), learned := s.learned ++ [ledger] }

def mapConnections (f : Nat → Connection → Connection) (s : Endpoint) : Endpoint :=
  { s with clients := fun k => { s.clients k with connection := (s.clients k).connection.map (f k) } }

def setClient (k : Nat) (c : Client) (s : Endpoint) : Endpoint :=
  { s with clients := fun j => if j = k then c else s.clients j }

/-- Fan a notification out to every client. -/
def deliver (ok : Nat → Nat → Bool) (number : Nat) (channel : StreamChannel) (payload : Payload) (s : Endpoint) :
    Endpoint :=
  s.mapConnections fun k => Connection.receiveNotification (ok k) channel payload (some number)

def dispatchStreamNotification (ok : Nat → Nat → Bool) (number : Nat) (channel : StreamChannel) (payload : Payload)
    (s : Endpoint) : Endpoint :=
  let s := s.learn payload.ledger
  match payload.reorg_ledger with
  | none => s.deliver ok number channel payload
  | some reorgLedger =>
    -- a reorg signal that is not newer than the last one is dropped, on every channel
    if s.lastReorgLedger.any (reorgLedger ≤ ·) then s
    else { s with lastReorgLedger := some reorgLedger }.deliver ok number channel payload

/-- The listener's connection is lost. -/
def connectionLost (ok : Nat → Nat → Bool) (s : Endpoint) : Endpoint :=
  { s.mapConnections fun k => Connection.receiveDisconnect (ok k) with listener := .down, inFlight := [] }

/-- The client has lost a notification: one on its channels, sent since it read its last frame, that
it has not read and that is not on its way to the process. -/
def misses (s : Endpoint) (c : Client) : Bool :=
  s.sent.zipIdx.any fun n => c.since ≤ n.2 && c.channels.contains n.1.1 && !c.delivered.contains n.2 &&
    !s.inFlight.contains n.2

/-- `GET /stream`, with the id of the last frame where there is one. -/
def request (ok : Nat → Bool) (k : Nat) (s : Endpoint) : Endpoint :=
  let client := s.clients k
  let c := Connection.start ok client.channels (client.last.map fun f => toString f.id) s.knownLedger
  s.setClient k { client with connection := some { c with
    resumed := client.last.map fun f => ⟨f.id, s.misses client, s.learned⟩ } }

/-- The client reads a frame. -/
def readFrame (k : Nat) (c : Connection) (f : Frame) (s : Endpoint) : Endpoint :=
  s.setClient k { s.clients k with
    connection := some { c with read := c.read + 1 }, last := some f, since := s.sent.length
    delivered := (s.clients k).delivered ++ f.delivers.toList }

def restart (s : Endpoint) : Endpoint :=
  { s.mapConnections fun _ => Connection.close with
    knownLedger := none, lastReorgLedger := none, listener := .down, inFlight := [], learned := [] }

end Endpoint

/-- What happens to a connection on the side of the process. -/
inductive Connection.Event (c : Connection) : Connection → Prop
  | drain (ok : Nat → Bool) : Event c (c.drain ok)
  | heartbeat (ok : Nat → Bool) : Event c (c.heartbeat ok)
  | retryHeartbeat (ok : Nat → Bool) : c.heartbeatRetry → Event c (c.retryHeartbeat ok)
  /-- the queue is full, the socket stalled or idle, or the process shuts down -/
  | close : Event c c.close

inductive Endpoint.Step (s : Endpoint) : Endpoint → Prop
  | send (channel : StreamChannel) (payload : Payload) : Step s { s with
      sent := s.sent ++ [(channel, payload)]
      inFlight := if s.listener.hears channel then s.inFlight ++ [s.sent.length] else s.inFlight }
  /-- the listener connects and reads the highest ledger of `indexer_cursor` -/
  | connect (max : Option Nat) : s.listener = .down → Step s { s.learn max with listener := .connecting [] }
  | listen {channels : List StreamChannel} (channel : StreamChannel) : s.listener = .connecting channels →
      Step s { s with listener := .connecting (channel :: channels) }
  /-- a notification that arrives before the handler is attached is lost -/
  | unheard {channels : List StreamChannel} {number : Nat} {rest : List Nat} :
      s.listener = .connecting channels → s.inFlight = number :: rest → Step s { s with inFlight := rest }
  | attach {channels : List StreamChannel} : s.listener = .connecting channels → (∀ channel, channel ∈ channels) →
      Step s { s with listener := .up }
  | connectFailed {channels : List StreamChannel} : s.listener = .connecting channels →
      Step s { s with listener := .down, inFlight := [] }
  | dispatch (ok : Nat → Nat → Bool) {number : Nat} {rest : List Nat} {channel : StreamChannel} {payload : Payload} :
      s.listener = .up → s.inFlight = number :: rest → s.sent[number]? = some (channel, payload) →
      Step s ({ s with inFlight := rest }.dispatchStreamNotification ok number channel payload)
  | connectionLost (ok : Nat → Nat → Bool) : s.listener = .up → Step s (s.connectionLost ok)
  | request (ok : Nat → Bool) (k : Nat) : s.listener = .up → (s.clients k).connection = none →
      Step s (s.request ok k)
  | event {k : Nat} {c c' : Connection} : (s.clients k).connection = some c → c.Event c' →
      Step s (s.setClient k { s.clients k with connection := some c' })
  | readFrame {k : Nat} {c : Connection} {f : Frame} : (s.clients k).connection = some c →
      c.written[c.read]? = some f → Step s (s.readFrame k c f)
  /-- the client gives the connection up -/
  | hangUp (k : Nat) : Step s (s.setClient k { s.clients k with connection := none })
  | restart : Step s s.restart

/-- A process that has just started, with the channels each client wants. -/
def Endpoint.initial (channels : Nat → List StreamChannel) : Endpoint :=
  { clients := fun k => { channels := channels k } }

namespace Connection

variable {ok : Nat → Bool} {c c' c'' : Connection}

/-- `c'` is `c` after frames that are no resync frames. -/
structure Grows (c c' : Connection) : Prop where
  resumed : c'.resumed = c.resumed
  frames : ∃ more, c'.written = c.written ++ more ∧
    ∀ f ∈ more ++ c'.queue, f ∈ c.queue ∨ f.msg.type ≠ .resync

theorem Grows.refl (c : Connection) : c.Grows c := ⟨rfl, [], by simp, fun _ hf => .inl hf⟩

theorem Grows.trans (h : c.Grows c') (h' : c'.Grows c'') : c.Grows c'' := by
  obtain ⟨more, hmore, hquiet⟩ := h.frames
  obtain ⟨more', hmore', hquiet'⟩ := h'.frames
  refine ⟨h'.resumed.trans h.resumed, more ++ more', by rw [hmore', hmore, List.append_assoc], ?_⟩
  intro f hf
  rw [List.append_assoc, List.mem_append] at hf
  rcases hf with hf | hf
  · exact hquiet f (List.mem_append_left _ hf)
  · rcases hquiet' f hf with hf | hf
    · exact hquiet f (List.mem_append_right _ hf)
    · exact .inr hf

theorem grows_close : c.Grows c.close := ⟨rfl, [], by simp [close], by simp [close]⟩

theorem grows_advance {ledger : Option Nat} : c.Grows (c.advance ledger) :=
  ⟨rfl, [], by simp [advance], fun _ hf => .inl hf⟩

theorem grows_enqueue {f : Frame} (hf : f.msg.type ≠ .resync) : c.Grows (c.enqueue f) := by
  unfold enqueue
  split
  next => exact grows_close
  next =>
    refine ⟨rfl, [], by simp, fun g hg => ?_⟩
    rw [List.nil_append, List.mem_append, List.mem_singleton] at hg
    rcases hg with hg | rfl
    · exact .inl hg
    · exact .inr hf

theorem grows_writeFrame {f : Frame} (hf : f.msg.type ≠ .resync) : c.Grows (c.writeFrame ok f) := by
  refine ⟨rfl, [f], rfl, fun g hg => ?_⟩
  rw [List.singleton_append, List.mem_cons] at hg
  rcases hg with rfl | hg
  · exact .inr hf
  · exact .inl hg

theorem grows_sendFrame {force : Bool} {f : Frame} (hf : f.msg.type ≠ .resync) :
    c.Grows (c.sendFrame ok force f) := by
  unfold sendFrame
  split
  next => exact grows_enqueue hf
  next => exact grows_writeFrame hf

theorem grows_sendMessage {force : Bool} {msg : StreamMessage} {delivers : Option Nat} (hmsg : msg.type ≠ .resync) :
    c.Grows (c.sendMessage ok force msg delivers) := by
  unfold sendMessage
  split
  next => exact .refl c
  next => exact grows_advance.trans (grows_sendFrame hmsg)

theorem grows_receiveNotification {channel : StreamChannel} {payload : Payload} {delivers : Option Nat} :
    c.Grows (c.receiveNotification ok channel payload delivers) := by
  unfold receiveNotification
  split
  next => exact .refl c
  next => exact grows_sendMessage (by simp)

theorem grows_receiveAll (channels : List StreamChannel) {payload : Payload} {delivers : Option Nat} :
    c.Grows (channels.foldl (fun c channel => c.receiveNotification ok channel payload delivers) c) := by
  induction channels generalizing c with
  | nil => exact .refl c
  | cons channel channels ih => exact grows_receiveNotification.trans ih

theorem grows_heartbeat : c.Grows (c.heartbeat ok) := by
  unfold heartbeat
  split
  next => exact .refl c
  next =>
    split
    next => exact ⟨rfl, [], by simp, fun _ hf => .inl hf⟩
    next => exact grows_sendMessage (by simp)

theorem grows_retryHeartbeat : c.Grows (c.retryHeartbeat ok) := by
  unfold retryHeartbeat
  split
  next => exact ⟨rfl, [], by simp, fun _ hf => .inl hf⟩
  next =>
    have h : c.Grows (c.sendMessage ok true { type := .heartbeat } none) := grows_sendMessage (by simp)
    exact ⟨h.resumed, h.frames⟩

/-- A flush moves frames of the queue to the socket. -/
theorem flush_frames (fs : List Frame) : (flush ok fs c).resumed = c.resumed ∧
    ∃ more, (flush ok fs c).written = c.written ++ more ∧ more ++ (flush ok fs c).queue = fs := by
  induction fs generalizing c with
  | nil => exact ⟨rfl, [], by simp [flush], by simp [flush]⟩
  | cons f fs ih =>
    rw [flush]
    split
    next => exact ⟨rfl, [], by simp, rfl⟩
    next =>
      obtain ⟨hresumed, more, hwritten, hqueue⟩ := @ih (c.writeFrame ok f)
      exact ⟨hresumed, f :: more, by rw [hwritten]; simp [writeFrame], by rw [List.cons_append, hqueue]⟩

theorem grows_drain : c.Grows (c.drain ok) := by
  obtain ⟨hresumed, more, hwritten, hqueue⟩ := @flush_frames ok { c with paused := false } c.queue
  exact ⟨hresumed, more, hwritten, fun f hf => .inl (hqueue ▸ hf)⟩

theorem Event.grows (h : c.Event c') : c.Grows c' := by
  cases h with
  | drain => exact grows_drain
  | heartbeat => exact grows_heartbeat
  | retryHeartbeat => exact grows_retryHeartbeat
  | close => exact grows_close

end Connection

/-- A resync frame with `missed` set. -/
def StreamMessage.TellsMissed (msg : StreamMessage) : Prop :=
  msg.type = .resync ∧ msg.payload.bind (·.missed) = some true

/-- The client is told that it missed a change before any notification. -/
def Connection.ToldMissed (c : Connection) : Prop :=
  ∃ before f after, c.written = before ++ f :: after ∧ f.msg.TellsMissed ∧
    ∀ g ∈ before, g.msg.type ≠ .notification

/-- Only the first frame is a resync frame, and it tells a client that reconnected what follows from
the ledgers the process had learned of. -/
structure Connection.Sound (c : Connection) : Prop where
  first : ∃ f rest, c.written = f :: rest ∧ (∀ g ∈ rest ++ c.queue, g.msg.type ≠ .resync) ∧
    ∀ r, c.resumed = some r → (f.msg.TellsMissed ↔ ∃ ledger ∈ r.learned, r.lastEventId < ledger)

namespace Connection

variable {ok : Nat → Bool} {c c' : Connection}

theorem Sound.grows (h : c.Sound) (hgrows : c.Grows c') : c'.Sound := by
  obtain ⟨f, rest, hwritten, hquiet, htells⟩ := h.first
  obtain ⟨more, hmore, hnew⟩ := hgrows.frames
  refine ⟨f, rest ++ more, by rw [hmore, hwritten]; rfl, fun g hg => ?_, fun r hr => htells r (hgrows.resumed ▸ hr)⟩
  rw [List.append_assoc, List.mem_append] at hg
  rcases hg with hg | hg
  · exact hquiet g (List.mem_append_left _ hg)
  · rcases hnew g hg with hold | hnot
    · exact hquiet g (List.mem_append_right _ hold)
    · exact hnot

/-- Reading leaves alone what is written. -/
theorem Sound.read (h : c.Sound) (n : Nat) : Sound { c with read := n } := ⟨h.first⟩

theorem Sound.toldMissed {r : Resumption} (h : c.Sound) (hr : c.resumed = some r) :
    c.ToldMissed ↔ ∃ ledger ∈ r.learned, r.lastEventId < ledger := by
  obtain ⟨f, rest, hwritten, hquiet, htells⟩ := h.first
  rw [← htells r hr]
  constructor
  · rintro ⟨before, g, after, hsplit, htold, -⟩
    rw [hwritten] at hsplit
    cases before with
    | nil => rwa [(List.cons.inj hsplit).1]
    | cons b before =>
      have hg : g ∈ rest := by
        rw [(List.cons.inj hsplit).2]
        simp
      exact absurd htold.1 (hquiet g (List.mem_append_left _ hg))
  · exact fun h => ⟨[], f, rest, hwritten, h, by simp⟩

theorem parseInt_toString (n : Nat) : parseInt (toString n) = some (n : Int) := by
  have hd : ∀ c ∈ Nat.toDigits 10 n, c.isDigit := fun c => Nat.isDigit_of_mem_toDigits (by decide) (by decide)
  have hne : Nat.toDigits 10 n ≠ [] := Nat.toDigits_ne_nil
  have htext : (toString n).toList = Nat.toDigits 10 n := Nat.toList_repr
  have hspace : (Nat.toDigits 10 n).dropWhile JsNumber.isSpace = Nat.toDigits 10 n :=
    JsNumber.dropSpace fun c hc => JsNumber.not_isSpace (hd c (List.mem_of_mem_head? hc))
  have hsigned : JsNumber.signed (Nat.toDigits 10 n) = (1, Nat.toDigits 10 n) := by
    unfold JsNumber.signed
    split
    next h => exact absurd (hd '-' (h ▸ List.mem_cons_self)) (by decide)
    next h => exact absurd (hd '+' (h ▸ List.mem_cons_self)) (by decide)
    next => rfl
  have htake : (Nat.toDigits 10 n).takeWhile Char.isDigit = Nat.toDigits 10 n := List.takeWhile_eq_self_iff.mpr hd
  rw [parseInt, htext, hspace, hsigned]
  simp only [htake, JsNumber.digits_eq hne hd, Nat.ofDigitChars_ten_toDigits, Option.map_some, one_mul]

theorem missed_toString (n current : Nat) : missed (toString n) current ↔ n < current := by
  rw [missed, parseInt_toString, Option.all_some, decide_eq_true_eq]
  exact Int.ofNat_lt

/-- The first message is written at once. -/
theorem sendMessage_subscribed (channels : List StreamChannel) (known : Option Nat) (msg : StreamMessage) :
    ∃ f : Frame, ((subscribed channels known).sendMessage ok false msg none).written = [f] ∧ f.msg = msg ∧
      ((subscribed channels known).sendMessage ok false msg none).queue = [] :=
  ⟨_, rfl, rfl, rfl⟩

theorem start_frames (channels : List StreamChannel) (id : Option String) (known : Option Nat) :
    ∃ f rest, (start ok channels id known).written = f :: rest ∧
      (∀ g ∈ rest ++ (start ok channels id known).queue, g.msg.type ≠ .resync) ∧
      (f.msg.TellsMissed ↔ ∃ i ∈ id, ∃ current ∈ known, missed i current) := by
  unfold start
  split
  next i current =>
    obtain ⟨f, hwritten, hmsg, hqueue⟩ :=
      @sendMessage_subscribed ok channels (some current) (resyncMessage (missed i current) current)
    have hconnected : ∀ c : Connection, c.Grows (c.sendMessage ok false connectedMessage none) :=
      fun c => grows_sendMessage (by decide)
    obtain ⟨more, hmore, hquiet⟩ := (hconnected ((subscribed channels (some current)).sendMessage ok false
      (resyncMessage (missed i current) current) none)).frames
    rw [hwritten] at hmore
    refine ⟨f, more, hmore, fun g hg => (hquiet g hg).resolve_left ?_, ?_⟩
    · rw [hqueue]
      exact List.not_mem_nil
    · rw [hmsg]
      simp [StreamMessage.TellsMissed, resyncMessage]
  next hnone =>
    obtain ⟨f, hwritten, hmsg, hqueue⟩ := @sendMessage_subscribed ok channels known connectedMessage
    refine ⟨f, [], hwritten, by rw [hqueue]; simp, ?_⟩
    rw [hmsg]
    constructor
    · rintro ⟨h, -⟩
      cases h
    · rintro ⟨i, hi, current, hcurrent, -⟩
      exact absurd hcurrent (hnone i current hi)

end Connection

namespace Endpoint

/-- Every connection is sound, and the process knows the highest of the ledgers it has learned of. -/
structure Sound (s : Endpoint) : Prop where
  connections : ∀ k c, (s.clients k).connection = some c → c.Sound
  known : ∀ n, (∃ ledger ∈ s.learned, n < ledger) ↔ ∃ current ∈ s.knownLedger, n < current

variable {s s' : Endpoint}

theorem sound_initial (channels : Nat → List StreamChannel) : (initial channels).Sound := by
  constructor
  · intro k c h
    cases h
  · simp [initial]

theorem Sound.learn (h : s.Sound) (ledger : Option Nat) : (s.learn ledger).Sound := by
  unfold Endpoint.learn
  split
  next => exact h
  next ledger =>
    refine ⟨h.connections, fun n => ?_⟩
    have hn := h.known n
    cases hk : s.knownLedger with
    | none => simp_all [or_and_right, exists_or]
    | some current =>
      have hlt : n < max ledger current ↔ n < current ∨ n < ledger := by omega
      simp_all [or_and_right, exists_or]

theorem Sound.mapConnections (h : s.Sound) {f : Nat → Connection → Connection}
    (hf : ∀ (k : Nat) (c : Connection), c.Grows (f k c)) : (s.mapConnections f).Sound := by
  refine ⟨fun k c hc => ?_, h.known⟩
  obtain ⟨c₀, hc₀, rfl⟩ := Option.map_eq_some_iff.mp hc
  exact (h.connections k c₀ hc₀).grows (hf k c₀)

theorem Sound.setClient (h : s.Sound) {k : Nat} {client : Client}
    (hclient : ∀ c, client.connection = some c → c.Sound) : (s.setClient k client).Sound := by
  refine ⟨fun j c hc => ?_, h.known⟩
  unfold Endpoint.setClient at hc
  by_cases hj : j = k
  · simp only [hj, if_true] at hc
    exact hclient c hc
  · simp only [hj, if_false] at hc
    exact h.connections j c hc

theorem Sound.deliver (h : s.Sound) (ok : Nat → Nat → Bool) (number : Nat) (channel : StreamChannel)
    (payload : Payload) : (s.deliver ok number channel payload).Sound :=
  h.mapConnections fun _ _ => Connection.grows_receiveNotification

theorem Sound.dispatch (h : s.Sound) (ok : Nat → Nat → Bool) (number : Nat) (channel : StreamChannel)
    (payload : Payload) : (s.dispatchStreamNotification ok number channel payload).Sound := by
  have hlearn := h.learn payload.ledger
  dsimp only [dispatchStreamNotification]
  split
  next => exact hlearn.deliver ok number channel payload
  next =>
    split
    next => exact hlearn
    next reorgLedger _ _ =>
      exact Sound.deliver (s := { s.learn payload.ledger with lastReorgLedger := some reorgLedger })
        ⟨hlearn.connections, hlearn.known⟩ ok number channel payload

theorem Sound.request (h : s.Sound) (ok : Nat → Bool) (k : Nat) : (s.request ok k).Sound := by
  refine h.setClient fun c hc => ?_
  rw [← Option.some.inj hc]
  obtain ⟨f, rest, hwritten, hquiet, htells⟩ := @Connection.start_frames ok (s.clients k).channels
    ((s.clients k).last.map fun f => toString f.id) s.knownLedger
  refine ⟨f, rest, hwritten, hquiet, fun r hr => ?_⟩
  obtain ⟨g, hg, rfl⟩ := Option.map_eq_some_iff.mp hr
  rw [htells, h.known, hg]
  simp only [Option.map_some, Option.mem_some_iff, exists_eq_left', Connection.missed_toString]

theorem Sound.step (h : s.Sound) (hstep : s.Step s') : s'.Sound := by
  cases hstep with
  | send => exact ⟨h.connections, h.known⟩
  | connect max => exact ⟨(h.learn max).connections, (h.learn max).known⟩
  | listen => exact ⟨h.connections, h.known⟩
  | unheard => exact ⟨h.connections, h.known⟩
  | attach => exact ⟨h.connections, h.known⟩
  | connectFailed => exact ⟨h.connections, h.known⟩
  | @dispatch ok number rest channel payload =>
    exact Sound.dispatch (s := { s with inFlight := rest }) ⟨h.connections, h.known⟩ ok number channel payload
  | connectionLost ok =>
    have hall : (s.mapConnections fun k => Connection.receiveDisconnect (ok k)).Sound :=
      h.mapConnections fun _ _ => Connection.grows_receiveAll _
    exact ⟨hall.connections, hall.known⟩
  | request ok k => exact h.request ok k
  | event hc hevent => exact h.setClient fun c' hc' => Option.some.inj hc' ▸ (h.connections _ _ hc).grows hevent.grows
  | readFrame hc => exact h.setClient fun c' hc' => Option.some.inj hc' ▸ (h.connections _ _ hc).read _
  | hangUp => exact h.setClient fun _ hc => by cases hc
  | restart =>
    have hall := h.mapConnections fun _ _ => Connection.grows_close
    exact ⟨hall.connections, fun n => by simp [Endpoint.restart]⟩

theorem Sound.run {channels : Nat → List StreamChannel}
    (h : Relation.ReflTransGen Step (Endpoint.initial channels) s) :
    s.Sound := by
  induction h with
  | refl => exact sound_initial channels
  | tail _ hstep ih => exact ih.step hstep

end Endpoint

/-- **Resync detection.** In every state of every run a client that reconnected after missing a
notification is told so first, exactly if some ledger that the process had dispatched in a
notification or read from the cursor lay above the id of the client's last frame. -/
theorem resync_sound_iff (channels : Nat → List StreamChannel) {s : Endpoint}
    (hrun : Relation.ReflTransGen Endpoint.Step (Endpoint.initial channels) s) {k : Nat} {c : Connection}
    {r : Resumption} (hc : (s.clients k).connection = some c) (hr : c.resumed = some r) :
    (r.missed → c.ToldMissed) ↔ (r.missed → ∃ ledger ∈ r.learned, r.lastEventId < ledger) := by
  rw [((Endpoint.Sound.run hrun).connections k c hc).toldMissed hr]

def alwaysWrites : Nat → Bool := fun _ => true

def Endpoint.sendOn (channel : StreamChannel) (payload : Payload) (s : Endpoint) : Endpoint :=
  { s with
    sent := s.sent ++ [(channel, payload)]
    inFlight := if s.listener.hears channel then s.inFlight ++ [s.sent.length] else s.inFlight }

/-- The process listens, and a client of two channels is connected. -/
def streaming : Endpoint :=
  { (Endpoint.initial fun _ => [.loans, .members]).learn (some 99) with listener := .up }.request alwaysWrites 0

def approved : Payload := { symbol := some "loan_appr", ledger := some 100 }

/-- The notification of the first event of ledger 100 is sent and dispatched. -/
def notified : Endpoint :=
  { streaming.sendOn .loans approved with inFlight := [] }.dispatchStreamNotification (fun _ => alwaysWrites) 0 .loans
    approved

/-- The client's connection then. -/
def shown : Connection :=
  { Connection.start alwaysWrites [.loans, .members] none (some 99) with resumed := none }.receiveNotification
    alwaysWrites .loans approved (some 0)

/-- The client reads both frames, and its connection drops. -/
def away : Endpoint :=
  let s := notified.readFrame 0 shown ⟨99, Connection.connectedMessage, none⟩
  let s := s.readFrame 0 { shown with read := 1 } ⟨100, ⟨.notification, some .loans, some approved⟩, some 0⟩
  s.setClient 0 { s.clients 0 with connection := none }

/-- The notification of a second event is dispatched, and the client reconnects. -/
def returned (ledger : Nat) : Endpoint :=
  let payload : Payload := { symbol := some "joined", ledger := some ledger }
  ({ away.sendOn .members payload with inFlight := [] }.dispatchStreamNotification (fun _ => alwaysWrites) 1 .members
    payload).request alwaysWrites 0

theorem streaming_reachable :
    Relation.ReflTransGen Endpoint.Step (Endpoint.initial fun _ => [.loans, .members]) streaming :=
  .tail (.tail (.tail (.tail (.tail (.tail (.tail (.tail .refl (.connect (some 99) rfl)) (.listen .members rfl))
    (.listen .loan_proposals rfl)) (.listen .loans rfl)) (.listen .treasury_proposals rfl)) (.listen .interest rfl))
    (.attach rfl fun channel => by cases channel <;> decide)) (.request alwaysWrites 0 rfl rfl)

theorem notified_reachable :
    Relation.ReflTransGen Endpoint.Step (Endpoint.initial fun _ => [.loans, .members]) notified :=
  .tail (.tail streaming_reachable (.send .loans approved)) (.dispatch (fun _ => alwaysWrites) rfl rfl rfl)

theorem away_reachable : Relation.ReflTransGen Endpoint.Step (Endpoint.initial fun _ => [.loans, .members]) away :=
  .tail (.tail (.tail notified_reachable (.readFrame rfl rfl)) (.readFrame rfl rfl)) (.hangUp 0)

theorem returned_reachable (ledger : Nat) :
    Relation.ReflTransGen Endpoint.Step (Endpoint.initial fun _ => [.loans, .members]) (returned ledger) :=
  .tail (.tail (.tail away_reachable (.send .members { symbol := some "joined", ledger := some ledger }))
    (.dispatch (fun _ => alwaysWrites) rfl rfl rfl)) (.request alwaysWrites 0 rfl rfl)

/-- What the client is told of then: it had read a frame with id 100. -/
def reconnection (ledger : Nat) : Connection :=
  { Connection.start alwaysWrites [.loans, .members] (some "100") (some (max ledger 100)) with
    resumed := some ⟨100, true, [99, 100, ledger]⟩ }

theorem returned_connection (ledger : Nat) :
    ((returned ledger).clients 0).connection = some (reconnection ledger) := rfl

/-- A notification of the next ledger is told. -/
theorem next_ledger_told : ((returned 101).clients 0).connection = some (reconnection 101) ∧
    (reconnection 101).ToldMissed := by
  have hmissed := resync_sound_iff _ (returned_reachable 101) (returned_connection 101) rfl
  exact ⟨rfl, hmissed.mpr (fun _ => ⟨101, by decide, by decide⟩) rfl⟩

/-- A second notification of the ledger that the client has read is not. -/
theorem same_ledger_not_told :
    Relation.ReflTransGen Endpoint.Step (Endpoint.initial fun _ => [.loans, .members]) (returned 100) ∧
      ((returned 100).clients 0).connection = some (reconnection 100) ∧
      (returned 100).misses ((returned 100).clients 0) = true ∧ ¬ (reconnection 100).ToldMissed := by
  have hsound := Endpoint.Sound.run (returned_reachable 100)
  refine ⟨returned_reachable 100, rfl, by decide +kernel, ?_⟩
  rw [(hsound.connections 0 _ (returned_connection 100)).toldMissed rfl]
  decide

end OurDao
