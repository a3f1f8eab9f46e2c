import OurDao.SseClients

/-!
# The order of the frames on one socket

A frame is written at once when the socket takes more, and queued when it does not; a
drain writes the queue. A heartbeat that could not be sent is retried past the queue, and
when that write succeeds the next notification is written at once, before the frames that
are still queued. A client whose socket takes no more for thirty seconds is closed by its
stall timer, so that what the timers do depends on when they were armed.
-/

namespace OurDao

def DRAIN_STALL_DISCONNECT_MS : Nat := 30000

namespace Connection

/-- What can happen to a connection, the disconnect of the listener being notifications as well. -/
inductive Trigger where
  | notification (channel : StreamChannel) (payload : Payload) (delivers : Option Nat)
  | drain
  | heartbeat
  | retryHeartbeat
  | stall
  /-- the socket is idle, or the process shuts down -/
  | close
  /-- milliseconds pass -/
  | wait (ms : Nat)

def act (ok : Nat → Bool) : Trigger → Connection → Connection
  | .notification channel payload delivers => receiveNotification ok channel payload delivers
  | .drain => Connection.drain ok
  | .heartbeat => Connection.heartbeat ok
  | .retryHeartbeat => Connection.retryHeartbeat ok
  | .stall | .close => Connection.close
  | .wait _ => id

/-- The notification frame that `sendMessage` makes. -/
def produces (c : Connection) : Trigger → List Frame
  | .notification channel payload delivers =>
    if c.closed || !c.channels.contains channel then []
    else [⟨(c.advance payload.ledger).lastSentLedger,
      { type := .notification, channel := some channel, payload := some payload }, delivers⟩]
  | _ => []

/-- The frames of a new connection. -/
def greeting (lastEventId : Option String) (knownLedger : Option Nat) : List Frame :=
  match lastEventId, knownLedger with
  | some lastEventId, some currentLedger =>
    [⟨currentLedger, resyncMessage (missed lastEventId currentLedger) currentLedger, none⟩,
      ⟨currentLedger, connectedMessage, none⟩]
  | _, _ => [⟨knownLedger.getD 0, connectedMessage, none⟩]

/-- A connection with the times at which its timers are due. -/
structure Clocked where
  connection : Connection
  now : Nat := 0
  stallTimer : Option Nat := none
  heartbeatTimer : Option Nat := none
  heartbeatRetryTimer : Option Nat := none
  heartbeatRetryDelayMs : Nat := Sse.HEARTBEAT_RETRY_INITIAL_MS

namespace Clocked

/-- The connection after a trigger, with `stallTimer` as it was before the last write of the trigger. A write that
the socket does not take arms it, unless it is armed, and is followed by no other; a close clears all timers. -/
def settle (stallTimer : Option Nat) (connection : Connection) (c : Clocked) : Clocked :=
  if connection.closed then
    { c with connection, stallTimer := none, heartbeatTimer := none, heartbeatRetryTimer := none }
  else if connection.paused then
    { c with connection, stallTimer := some (stallTimer.getD (c.now + DRAIN_STALL_DISCONNECT_MS)) }
  else { c with connection, stallTimer := none }

def start (ok : Nat → Bool) (channels : List StreamChannel) (lastEventId : Option String)
    (knownLedger : Option Nat) : Clocked :=
  let connection := Connection.start ok channels lastEventId knownLedger
  { settle none connection { connection } with heartbeatTimer := some 30000 }

def scheduleHeartbeatRetry (c : Clocked) : Clocked :=
  if c.heartbeatRetryTimer.isSome then c
  else { c with
    heartbeatRetryDelayMs := Sse.HEARTBEAT_RETRY_INITIAL_MS
    heartbeatRetryTimer := some (c.now + Sse.HEARTBEAT_RETRY_INITIAL_MS) }

/-- The interval comes around. -/
def heartbeat (ok : Nat → Bool) (c : Clocked) : Clocked :=
  let c' := if c.connection.paused then c.scheduleHeartbeatRetry else c
  { c' with heartbeatTimer := some (c.now + 30000) }.settle c.stallTimer (c.connection.heartbeat ok)

/-- The retry timer fires, and is armed again while the socket takes no more. -/
def retryHeartbeat (ok : Nat → Bool) (c : Clocked) : Clocked :=
  let connection := c.connection.retryHeartbeat ok
  let delay := min (c.heartbeatRetryDelayMs * 2) Sse.HEARTBEAT_RETRY_MAX_MS
  let c' := if connection.paused then
      { c with heartbeatRetryDelayMs := delay, heartbeatRetryTimer := some (c.now + delay) }
    else { c with heartbeatRetryTimer := none }
  c'.settle c.stallTimer connection

def act (ok : Nat → Bool) (t : Trigger) (c : Clocked) : Clocked :=
  match t with
  | .drain => c.settle none (c.connection.drain ok)
  | .heartbeat => c.heartbeat ok
  | .retryHeartbeat => c.retryHeartbeat ok
  | .wait ms => { c with now := c.now + ms }
  | .notification .. | .stall | .close => c.settle c.stallTimer (c.connection.act ok t)

/-- A timer fires once it is due. The stall timer and the interval wait equally long, so they fire in the order in
which they are due; were both due at once, the interval would only arm the retry that the close then clears. Both
come before a retry that is due later. -/
def Enabled (c : Clocked) : Trigger → Prop
  | .stall => ∃ due ∈ c.stallTimer, due ≤ c.now ∧ ∀ other ∈ c.heartbeatTimer, due ≤ other
  | .heartbeat => ∃ due ∈ c.heartbeatTimer, due ≤ c.now ∧ ∀ other ∈ c.stallTimer, due < other
  | .retryHeartbeat => ∃ due ∈ c.heartbeatRetryTimer, due ≤ c.now ∧ (∀ other ∈ c.stallTimer, due ≤ other) ∧
      ∀ other ∈ c.heartbeatTimer, due ≤ other
  | .notification .. | .drain | .close | .wait _ => True

end Clocked

/-- A run of a connection from its start, every trigger of which is one that `meets` allows for what the socket
answers: the connection, and the notification and resync frames produced so far. -/
inductive Run (meets : (Nat → Bool) → Clocked → Trigger → Prop) : Clocked → List Frame → Prop
  | start (ok : Nat → Bool) (channels : List StreamChannel) (lastEventId : Option String) (knownLedger : Option Nat) :
      Run meets (.start ok channels lastEventId knownLedger) (greeting lastEventId knownLedger)
  | act {c : Clocked} {produced : List Frame} (ok : Nat → Bool) (t : Trigger) :
      Run meets c produced → c.Enabled t → meets ok c t →
      Run meets (c.act ok t) (produced ++ c.connection.produces t)

/-- The frames that are no heartbeats. -/
def news (frames : List Frame) : List Frame := frames.filter (·.msg.type ≠ .heartbeat)

/-- The notification and resync frames reach the socket in the order in which they were produced, none before
a frame that is still queued, and the ids never decrease. -/
structure InOrder (c : Connection) (produced : List Frame) : Prop where
  frames : news c.written <+: produced
  ids : (c.written.map (·.id)).Pairwise (· ≤ ·)

instance (c : Connection) (produced : List Frame) : Decidable (c.InOrder produced) :=
  decidable_of_iff (news c.written <+: produced ∧ (c.written.map (·.id)).Pairwise (· ≤ ·))
    ⟨fun h => ⟨h.1, h.2⟩, fun h => ⟨h.frames, h.ids⟩⟩

/-- The retry timer fires only while nothing is queued, or only frames of the ledger shown last are and the socket
still takes no more. -/
def InTurn (ok : Nat → Bool) (c : Clocked) : Trigger → Prop
  | .retryHeartbeat => c.connection.queue = [] ∨
      (∀ f ∈ c.connection.queue, f.id = c.connection.lastSentLedger) ∧ ok c.connection.written.length = false
  | _ => True

/-- What was written and what is queued, one after the other: all that was produced, unless the connection is
closed. Frames are queued only while the socket takes no more, and a heartbeat never is. -/
structure Orderly (c : Connection) (produced : List Frame) : Prop where
  ids : ((c.written ++ c.queue).map (·.id)).Pairwise (· ≤ ·)
  bound : ∀ f ∈ c.written ++ c.queue, f.id ≤ c.lastSentLedger
  opened : c.closed = false → news (c.written ++ c.queue) = produced
  closed : c.closed = true → c.queue = [] ∧ news c.written <+: produced
  queued : c.closed = false → c.queue = [] ∨ c.paused = true
  queue : ∀ f ∈ c.queue, f.msg.type ≠ .heartbeat

variable {ok : Nat → Bool} {c : Connection} {produced : List Frame}

theorem Orderly.inOrder (h : c.Orderly produced) : c.InOrder produced := by
  have hids := h.ids
  rw [List.map_append, List.pairwise_append] at hids
  refine ⟨?_, hids.1⟩
  cases hc : c.closed with
  | true => exact (h.closed hc).2
  | false =>
    rw [← h.opened hc, news, news, List.filter_append]
    exact List.prefix_append _ _

/-- The same frames in the same order, some of them written in between. -/
theorem Orderly.congr {c' : Connection} (h : c.Orderly produced)
    (hframes : c'.written ++ c'.queue = c.written ++ c.queue) (hledger : c'.lastSentLedger = c.lastSentLedger)
    (hclosed : c'.closed = c.closed) (hqueue : c'.queue <:+ c.queue)
    (hqueued : c.closed = false → c'.queue = [] ∨ c'.paused = true) : c'.Orderly produced where
  ids := by rw [hframes]; exact h.ids
  bound := by rw [hframes, hledger]; exact h.bound
  opened ho := by rw [hframes]; exact h.opened (hclosed ▸ ho)
  closed hc := by
    obtain ⟨hnone, hprefix⟩ := h.closed (hclosed ▸ hc)
    have hnone' : c'.queue = [] := List.suffix_nil.mp (hnone ▸ hqueue)
    rw [hnone, hnone', List.append_nil, List.append_nil] at hframes
    exact ⟨hnone', hframes ▸ hprefix⟩
  queued ho := hqueued (hclosed ▸ ho)
  queue f hf := h.queue f (hqueue.subset hf)

theorem Orderly.close (h : c.Orderly produced) (more : List Frame) : c.close.Orderly (produced ++ more) := by
  have hids := h.ids
  rw [List.map_append, List.pairwise_append] at hids
  constructor
  case ids => simpa [Connection.close] using hids.1
  case bound => exact fun f hf => h.bound f (by simp [Connection.close] at hf; simp [hf])
  case opened => exact fun ho => by cases ho
  case closed => exact fun _ => ⟨rfl, h.inOrder.frames.trans (List.prefix_append _ _)⟩
  case queued => exact fun ho => by cases ho
  case queue => exact fun f hf => by cases hf

theorem Orderly.advance (h : c.Orderly produced) (ledger : Option Nat) : (c.advance ledger).Orderly produced where
  ids := h.ids
  bound f hf := by
    have hle := h.bound f hf
    cases ledger with
    | none => exact hle
    | some l => exact hle.trans (Nat.le_max_left _ _)
  opened := h.opened
  closed := h.closed
  queued := h.queued
  queue := h.queue

/-- A frame of the current id at the end of all frames, written or queued. -/
theorem Orderly.snoc {c' : Connection} (h : c.Orderly produced) (ho : c.closed = false) {f : Frame}
    (hid : f.id = c.lastSentLedger) (hnews : f.msg.type ≠ .heartbeat)
    (hframes : c'.written ++ c'.queue = c.written ++ c.queue ++ [f]) (hledger : c'.lastSentLedger = c.lastSentLedger)
    (hclosed : c'.closed = c.closed) (hqueued : c'.queue = [] ∨ c'.paused = true)
    (hqueue : ∀ g ∈ c'.queue, g ∈ c.queue ∨ g = f) : c'.Orderly (produced ++ [f]) where
  ids := by
    rw [hframes, List.map_append, List.pairwise_append]
    refine ⟨h.ids, List.pairwise_singleton _ _, fun a ha b hb => ?_⟩
    obtain ⟨g, hg, rfl⟩ := List.mem_map.mp ha
    rw [List.map_singleton, List.mem_singleton] at hb
    rw [hb, hid]
    exact h.bound g hg
  bound g hg := by
    rw [hframes, List.mem_append, List.mem_singleton] at hg
    rw [hledger]
    rcases hg with hg | rfl
    · exact h.bound g hg
    · exact hid.le
  opened _ := by simp [hframes, news, List.filter_append, ← h.opened ho, hnews]
  closed hc := by rw [hclosed, ho] at hc; cases hc
  queued _ := hqueued
  queue g hg := by
    rcases hqueue g hg with hg | rfl
    · exact h.queue g hg
    · exact hnews

theorem sendFrame_orderly (h : c.Orderly produced) (ho : c.closed = false) {f : Frame}
    (hid : f.id = c.lastSentLedger) (hnews : f.msg.type ≠ .heartbeat) :
    (c.sendFrame ok false f).Orderly (produced ++ [f]) := by
  unfold sendFrame
  by_cases hpaused : c.paused = true
  · simp only [hpaused, Bool.not_false, Bool.and_self, if_true, enqueue]
    split
    next => exact h.close [f]
    next => exact h.snoc ho hid hnews (by simp) rfl rfl (.inr rfl) fun g hg => by simpa using hg
  · have hempty := (h.queued ho).resolve_right hpaused
    simp only [hpaused, Bool.false_and, Bool.false_eq_true, if_false]
    exact h.snoc ho hid hnews (by simp [writeFrame, hempty]) rfl rfl (.inl hempty) fun g hg => .inl hg

/-- A heartbeat is written while no queued frame has an older id. -/
theorem writeHeartbeat_orderly (h : c.Orderly produced) (ho : c.closed = false) {f : Frame}
    (hid : f.id = c.lastSentLedger) (hbeat : f.msg.type = .heartbeat)
    (hturn : c.queue = [] ∨ (∀ g ∈ c.queue, g.id = c.lastSentLedger) ∧ ok c.written.length = false) :
    (c.writeFrame ok f).Orderly produced := by
  have hids := h.ids
  rw [List.map_append, List.pairwise_append] at hids
  constructor
  case ids =>
    simp only [writeFrame, List.map_append, List.append_assoc, List.map_singleton]
    rw [List.pairwise_append]
    refine ⟨hids.1, List.pairwise_cons.mpr ⟨fun b hb => ?_, hids.2.1⟩, fun a ha b hb => ?_⟩
    · obtain ⟨g, hg, rfl⟩ := List.mem_map.mp hb
      rcases hturn with hempty | ⟨hlast, -⟩
      · rw [hempty] at hg
        cases hg
      · rw [hid, hlast g hg]
    · rcases List.mem_cons.mp hb with rfl | hb
      · obtain ⟨g, hg, rfl⟩ := List.mem_map.mp ha
        rw [hid]
        exact h.bound g (List.mem_append_left _ hg)
      · exact hids.2.2 a ha b hb
  case bound =>
    intro g hg
    simp only [writeFrame, List.mem_append, List.mem_singleton] at hg ⊢
    rcases hg with (hg | rfl) | hg
    · exact h.bound g (List.mem_append_left _ hg)
    · exact hid.le
    · exact h.bound g (List.mem_append_right _ hg)
  case opened =>
    intro _
    rw [← h.opened ho]
    simp [writeFrame, news, List.filter_append, hbeat]
  case closed => exact fun hc => by rw [writeFrame, ho] at hc; cases hc
  case queued =>
    intro _
    rcases hturn with hempty | ⟨-, hfull⟩
    · exact .inl hempty
    · exact .inr (by rw [writeFrame, hfull]; rfl)
  case queue => exact h.queue

theorem receiveNotification_orderly (h : c.Orderly produced) (channel : StreamChannel) (payload : Payload)
    (delivers : Option Nat) : (c.receiveNotification ok channel payload delivers).Orderly
      (produced ++ c.produces (.notification channel payload delivers)) := by
  unfold receiveNotification produces
  by_cases hskip : (c.closed || !c.channels.contains channel) = true
  · simp only [hskip, if_true, List.append_nil]
    exact h
  · simp only [hskip, Bool.false_eq_true, if_false]
    simp only [Bool.or_eq_true, not_or, Bool.not_eq_true] at hskip
    simp only [sendMessage, hskip.1, Bool.false_eq_true, if_false]
    exact sendFrame_orderly (h.advance payload.ledger) hskip.1 rfl (by simp)

/-- A flush stops at the end of the queue, or when the socket takes no more. -/
theorem flush_stops (fs : List Frame) : (flush ok fs c).lastSentLedger = c.lastSentLedger ∧
    (flush ok fs c).closed = c.closed ∧
    (c.closed = false → (flush ok fs c).queue = [] ∨ (flush ok fs c).paused = true) := by
  induction fs generalizing c with
  | nil => exact ⟨rfl, rfl, fun _ => .inl rfl⟩
  | cons f fs ih =>
    rw [flush]
    split
    next hstop => exact ⟨rfl, rfl, fun ho => .inr (by simpa [ho] using hstop)⟩
    next => exact ih

theorem flush_orderly (h : c.Orderly produced) :
    (flush ok c.queue { c with paused := false }).Orderly produced := by
  obtain ⟨-, more, hwritten, hqueue⟩ := @flush_frames ok { c with paused := false } c.queue
  obtain ⟨hledger, hclosed, hstops⟩ := @flush_stops ok { c with paused := false } c.queue
  refine h.congr ?_ hledger hclosed ⟨more, hqueue⟩ hstops
  rw [hwritten, List.append_assoc, hqueue]

theorem sendHeartbeat {force : Bool} (ho : c.closed = false) (hforce : c.paused = false ∨ force = true) :
    c.sendMessage ok force { type := .heartbeat } none =
      (c.advance none).writeFrame ok ⟨c.lastSentLedger, { type := .heartbeat }, none⟩ := by
  have hwrite : (c.paused && !force) = false := by
    rcases hforce with hp | rfl
    · simp [hp]
    · simp
  simp only [sendMessage, ho, Bool.false_eq_true, if_false, sendFrame, Option.bind_none]
  rw [if_neg (by simpa [advance] using hwrite)]
  rfl

theorem heartbeat_orderly (h : c.Orderly produced) : (c.heartbeat ok).Orderly produced := by
  unfold heartbeat
  by_cases hc : c.closed = true
  · simp only [hc, if_true]
    exact h
  · have ho : c.closed = false := by simpa using hc
    rw [if_neg hc]
    by_cases hpaused : c.paused = true
    · rw [if_pos hpaused]
      exact h.congr rfl rfl rfl (List.suffix_refl _) fun _ => .inr hpaused
    · have hempty := (h.queued ho).resolve_right hpaused
      rw [if_neg hpaused, sendHeartbeat ho (.inl (by simpa using hpaused))]
      exact writeHeartbeat_orderly (h.advance none) ho rfl rfl (.inl hempty)

theorem retryHeartbeat_orderly (h : c.Orderly produced)
    (hturn : c.queue = [] ∨ (∀ f ∈ c.queue, f.id = c.lastSentLedger) ∧ ok c.written.length = false) :
    (c.retryHeartbeat ok).Orderly produced := by
  unfold retryHeartbeat
  by_cases hc : c.closed = true
  · simp only [hc, if_true]
    exact h.congr rfl rfl hc.symm (List.suffix_refl _) fun ho => by rw [hc] at ho; cases ho
  · have ho : c.closed = false := by simpa using hc
    have hsent : (c.sendMessage ok true { type := .heartbeat } none).Orderly produced := by
      rw [sendHeartbeat ho (.inr rfl)]
      exact writeHeartbeat_orderly (h.advance none) ho rfl rfl hturn
    simp only [hc, Bool.false_eq_true, if_false]
    exact hsent.congr rfl rfl rfl (List.suffix_refl _) hsent.queued

theorem start_orderly (channels : List StreamChannel) (lastEventId : Option String) (knownLedger : Option Nat) :
    (start ok channels lastEventId knownLedger).Orderly (greeting lastEventId knownLedger) := by
  have hempty : (subscribed channels knownLedger).Orderly [] :=
    ⟨.nil, by simp [subscribed], fun _ => rfl, (fun hc => by cases hc), (fun _ => .inl rfl), by simp [subscribed]⟩
  have hsend : ∀ {c : Connection} {produced : List Frame}, c.Orderly produced → c.closed = false →
      ∀ msg : StreamMessage, msg.type ≠ .heartbeat → msg.payload.bind (·.ledger) = none →
      (c.sendMessage ok false msg none).Orderly (produced ++ [⟨c.lastSentLedger, msg, none⟩]) := by
    intro c produced h ho msg hnews hledger
    simp only [sendMessage, ho, Bool.false_eq_true, if_false, hledger]
    exact sendFrame_orderly (h.advance none) ho rfl hnews
  have hconnected := hsend hempty rfl connectedMessage (by simp [connectedMessage]) rfl
  cases lastEventId with
  | none => exact hconnected
  | some lastEventId =>
    cases knownLedger with
    | none => exact hconnected
    | some currentLedger =>
      have hfirst := hsend hempty rfl (resyncMessage (missed lastEventId currentLedger) currentLedger)
        (by simp [resyncMessage]) rfl
      exact hsend hfirst rfl connectedMessage (by simp [connectedMessage]) rfl

@[simp] theorem Clocked.settle_connection (stallTimer : Option Nat) (connection : Connection) (c : Clocked) :
    (c.settle stallTimer connection).connection = connection := by
  unfold settle
  split
  next => rfl
  next => split <;> rfl

/-- The timers only say when the connection is acted on. -/
theorem Clocked.act_connection (t : Trigger) (c : Clocked) :
    (c.act ok t).connection = Connection.act ok t c.connection := by
  cases t <;> simp [act, Connection.act, heartbeat, retryHeartbeat]

/-- Every trigger in turn keeps the frames in order. -/
theorem Orderly.act {c : Clocked} (h : c.connection.Orderly produced) {t : Trigger} (hturn : InTurn ok c t) :
    (c.act ok t).connection.Orderly (produced ++ c.connection.produces t) := by
  rw [Clocked.act_connection]
  have hsame : produced ++ [] = produced := List.append_nil produced
  cases t with
  | notification channel payload delivers => exact receiveNotification_orderly h channel payload delivers
  | drain => exact hsame.symm ▸ flush_orderly h
  | heartbeat => exact hsame.symm ▸ heartbeat_orderly h
  | retryHeartbeat => exact hsame.symm ▸ retryHeartbeat_orderly h hturn
  | stall => exact h.close []
  | close => exact h.close []
  | wait ms => exact hsame.symm ▸ h

theorem Run.orderly {c : Clocked} (h : Run InTurn c produced) : c.connection.Orderly produced := by
  induction h with
  | start ok channels lastEventId knownLedger =>
    rw [Clocked.start, Clocked.settle_connection]
    exact start_orderly channels lastEventId knownLedger
  | act ok t _ _ hturn ih => exact ih.act hturn

/-- **The frames reach the socket in order** in every run in which the retry timer writes nothing past the queue. -/
theorem frames_in_order {c : Clocked} (h : Run InTurn c produced) : c.connection.InOrder produced := h.orderly.inOrder

/-- A flush to a socket that takes everything writes the whole queue. -/
theorem flush_all (fs : List Frame) (ho : c.closed = false) (hp : c.paused = false) :
    (flush (fun _ => true) fs c).written = c.written ++ fs := by
  induction fs generalizing c with
  | nil => simp [flush]
  | cons f fs ih =>
    rw [flush, if_neg (by simp [ho, hp]), ih (c := c.writeFrame (fun _ => true) f) ho rfl]
    simp [writeFrame]

theorem drain_all (ho : c.closed = false) : (c.drain fun _ => true).written = c.written ++ c.queue :=
  flush_all c.queue ho rfl

/-- A retry out of turn goes wrong: a frame of an older ledger follows it with the next drain, or the next
notification is written before the frames that are still queued. -/
theorem retry_out_of_turn {c : Clocked} (h : Run InTurn c produced) (hchannels : c.connection.channels ≠ [])
    (hturn : ¬ InTurn ok c .retryHeartbeat) : ∃ (ok' : Nat → Bool) (t : Trigger),
      (c.act ok .retryHeartbeat).Enabled t ∧
      ¬ ((c.act ok .retryHeartbeat).act ok' t).connection.InOrder
        (produced ++ (c.act ok .retryHeartbeat).connection.produces t) := by
  have horderly := h.orderly
  obtain ⟨hqueue, hwrong⟩ := not_or.mp hturn
  have ho : c.connection.closed = false := by
    cases hc : c.connection.closed with
    | true => exact absurd (horderly.closed hc).1 hqueue
    | false => rfl
  have hretried : (c.act ok .retryHeartbeat).connection = { (c.connection.advance none).writeFrame ok
      ⟨c.connection.lastSentLedger, { type := .heartbeat }, none⟩ with
        heartbeatRetry := !ok c.connection.written.length } := by
    rw [Clocked.act_connection, act, retryHeartbeat, if_neg (by simp [ho]), sendHeartbeat ho (.inr rfl)]
    rfl
  by_cases hlast : ∀ f ∈ c.connection.queue, f.id = c.connection.lastSentLedger
  · -- the write succeeds, and the connection takes the next notification while frames are queued
    have hok : ok c.connection.written.length = true := by simpa using fun hfull => hwrong ⟨hlast, hfull⟩
    obtain ⟨channel, hchannel⟩ := List.exists_mem_of_ne_nil _ hchannels
    obtain ⟨f, fs, hfs⟩ := List.exists_cons_of_ne_nil hqueue
    refine ⟨ok, .notification channel { ledger := some (c.connection.lastSentLedger + 1) } none, trivial, ?_⟩
    intro hin
    have hframes := hin.frames
    rw [Clocked.act_connection, hretried, ← horderly.opened ho, hfs] at hframes
    have hnews : f.msg.type ≠ .heartbeat := horderly.queue f (by simp [hfs])
    have hid : f.id = c.connection.lastSentLedger := hlast f (by simp [hfs])
    simp [act, receiveNotification, produces, sendMessage, sendFrame, writeFrame, advance, ho, hok, hchannel, news,
      List.filter_append, hnews] at hframes
    rw [← hframes] at hid
    exact absurd hid (by simp)
  · push Not at hlast
    obtain ⟨f, hf, hne⟩ := hlast
    refine ⟨fun _ => true, .drain, trivial, ?_⟩
    intro hin
    have hids := hin.ids
    rw [Clocked.act_connection, act, drain_all (by rw [hretried]; exact ho), hretried, List.map_append,
      List.pairwise_append] at hids
    have hle := hids.2.2 c.connection.lastSentLedger (by simp [writeFrame]) f.id (List.mem_map_of_mem hf)
    have hge := horderly.bound f (List.mem_append_right _ hf)
    exact hne (Nat.le_antisymm hge hle)

/-- A notification of a ledger. -/
def ofLedger (ledger : Nat) : Trigger :=
  .notification .loans { symbol := some "loan_rpy", ledger := some ledger } none

/-- The socket takes the greeting and fills up with the next frame; the retry timer fires before another frame is
queued, and again after a drain has written the frame that was. -/
theorem frames_in_order_drained :
    ∃ c produced, Run InTurn c produced ∧ c.connection.written.length = 6 ∧ c.connection.InOrder produced := by
  have hstart : Run InTurn (.start (fun _ => true) [.loans] none (some 5)) (greeting none (some 5)) :=
    .start _ _ _ _
  have hlater := Run.act (fun _ => true) (.wait 20000) hstart trivial trivial
  have hfull := Run.act (fun _ => false) (ofLedger 6) hlater trivial trivial
  have hdue := Run.act (fun _ => true) (.wait 10000) hfull trivial trivial
  have hmissed := Run.act (fun _ => true) .heartbeat hdue ⟨30000, rfl, by decide, by decide⟩ trivial
  have hsoon := Run.act (fun _ => true) (.wait 1000) hmissed trivial trivial
  have hrefused := Run.act (fun _ => false) .retryHeartbeat hsoon ⟨31000, rfl, by decide, by decide, by decide⟩
    (.inl rfl)
  have hqueued := Run.act (fun _ => true) (ofLedger 7) hrefused trivial trivial
  have hdrained := Run.act (fun _ => true) .drain hqueued trivial trivial
  have hagain := Run.act (fun _ => true) (.wait 2000) hdrained trivial trivial
  have hretried := Run.act (fun _ => true) .retryHeartbeat hagain ⟨33000, rfl, by decide, by decide, by decide⟩
    (.inl rfl)
  have hlast := Run.act (fun _ => true) (ofLedger 8) hretried trivial trivial
  exact ⟨_, _, hlast, by decide, frames_in_order hlast⟩

/-- The socket takes the greeting and fills up with the next frame, so that the one after it is queued. A retried
heartbeat goes out, the next notification as well, and the drain writes the one that was queued. -/
theorem heartbeat_passes_the_queue : ∃ c produced, Run (fun _ _ _ => True) c produced ∧
    ¬ news c.connection.written <+: produced ∧ ¬ (c.connection.written.map (·.id)).Pairwise (· ≤ ·) := by
  have hstart : Run (fun _ _ _ => True) (.start (fun _ => true) [.loans] none (some 5)) (greeting none (some 5)) :=
    .start _ _ _ _
  have hlater := Run.act (fun _ => true) (.wait 20000) hstart trivial trivial
  have hfull := Run.act (fun _ => false) (ofLedger 6) hlater trivial trivial
  have hqueued := Run.act (fun _ => true) (ofLedger 7) hfull trivial trivial
  have hdue := Run.act (fun _ => true) (.wait 10000) hqueued trivial trivial
  have hmissed := Run.act (fun _ => true) .heartbeat hdue ⟨30000, rfl, by decide, by decide⟩ trivial
  have hsoon := Run.act (fun _ => true) (.wait 1000) hmissed trivial trivial
  have hretried := Run.act (fun _ => true) .retryHeartbeat hsoon ⟨31000, rfl, by decide, by decide, by decide⟩ trivial
  have hpast := Run.act (fun _ => true) (ofLedger 8) hretried trivial trivial
  have hdrained := Run.act (fun _ => true) .drain hpast trivial trivial
  exact ⟨_, _, hdrained, by decide, by decide⟩

end Connection

end OurDao
