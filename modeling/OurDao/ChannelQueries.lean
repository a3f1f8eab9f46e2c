import OurDao.Events
import OurDao.NotifyPayloads
import OurDao.StreamCloses

/-!
# The channels a client asks for

`GET /stream?channels=` takes the names of channels, with commas between them. A name is
looked up in an object, where those that every object inherits are found as well.
-/

namespace OurDao

namespace Sse

/-- The query parameter: absent, given once, or given several times. -/
inductive QueryValue where
  | absent
  | text (s : String)
  | repeated (ss : List String)

/-- What `STREAM_CHANNELS[k]` is. -/
inductive ChannelValue where
  | channel (c : StreamChannel)
  | inherited (name : String)
  deriving DecidableEq

def STREAM_CHANNELS : List (String × StreamChannel) :=
  [("members", .members), ("loan_proposals", .loan_proposals), ("loans", .loans),
    ("treasury_proposals", .treasury_proposals), ("interest", .interest)]

/-- `STREAM_CHANNELS[k]`, none where `k in STREAM_CHANNELS` fails. -/
def known (k : String) : Option ChannelValue :=
  match STREAM_CHANNELS.lookup k with
  | some c => some (.channel c)
  | none => if inherited.contains k then some (.inherited k) else none

def trim (cs : List Char) : List Char :=
  ((cs.dropWhile JsNumber.isSpace).reverse.dropWhile JsNumber.isSpace).reverse

/-- The entries of a query that are not blank, trimmed. -/
def entriesOf (raw : String) : List String :=
  (((raw.toList.splitOn ',').map trim).filter fun cs => !cs.isEmpty).map String.ofList

namespace QueryValue

/-- `String(v)`; an array is joined. -/
def raw : QueryValue → String
  | absent => ""
  | text s => s
  | repeated ss => ",".intercalate ss

def entries (v : QueryValue) : List String := entriesOf v.raw

end QueryValue

def parseChannelSubset (v : QueryValue) : Except String (Option (List ChannelValue)) :=
  match v with
  | .absent | .text "" => .ok none
  | v =>
    let keys := v.entries
    if keys.isEmpty then .ok none
    else
      let unknownKeys := keys.filter fun k => (known k).isNone
      if unknownKeys.isEmpty then .ok (some (keys.filterMap known))
      else .error ("unknown channel(s): " ++ ", ".intercalate unknownKeys)

/-- The channels among these values; the channel of a NOTIFY is never equal to any other. -/
def channelsOf (values : List ChannelValue) : List StreamChannel :=
  values.filterMap fun
    | .channel c => some c
    | .inherited _ => none

/-- What the handshake keeps of the query. -/
def requested (v : QueryValue) : Except String (Option (List StreamChannel)) :=
  (parseChannelSubset v).map (Option.map channelsOf)

/-- The answer to `GET /stream`: a refusal, or the handshake whose client is registered. -/
def answer (limits : StreamLimits) (trackers : StreamTrackers) (ip : String) (listening : Bool) (v : QueryValue) :
    Except StreamRefusal Handshake := do
  let w ← trackers.checkCaps limits ip (requested v)
  if listening then return w else throw .setupFailed

/-- The channels that a query lists, all of them where it lists none. -/
def QueryValue.Lists (v : QueryValue) (channel : StreamChannel) : Prop :=
  v.entries = [] ∨ ∃ k ∈ v.entries, STREAM_CHANNELS.lookup k = some channel

namespace Process

/-- What a text is taken for. -/
def payloadOf : Option String → Option JsonValue
  | none | some "" => some (.obj [])
  | some raw => JSON.parse raw

/-- The payload that `dispatchStreamNotification` passes on to the clients, if it passes one on. -/
def passed (rawPayload : Option String) (p : Process) : Option JsonValue :=
  (payloadOf rawPayload).filter fun payload => (numberOf "reorg_ledger" payload).all (isNewer · p.lastReorgLedger)

end Process

/-- One notification more, written or queued. A client that cannot take it is closed. -/
def HearsOnce (channel : StreamChannel) (payload : JsonValue) (c c' : Client) : Prop :=
  c'.closed = true ∨
    ∃ f : Frame, f.msg = { type := .notification, channel := some channel, payload := some payload } ∧
      (c'.written ++ c'.queue).Perm (f :: (c.written ++ c.queue))

/-- What is asked of the endpoint for a query: it refuses what names no channel, and a client that it opens, once
registered and as long as it is open, hears of what is dispatched on the channels listed, each time once, and of
nothing else. -/
structure HearsAsked (v : QueryValue) : Prop where
  refused : ∀ limits trackers ip listening,
    (∃ refusal, answer limits trackers ip listening v = .error refusal ∧ refusal.statusCode = 400) ↔
      ∃ k ∈ v.entries, STREAM_CHANNELS.lookup k = none
  opens : ∀ limits trackers ip w, answer limits trackers ip true v = .ok w → requested v = .ok w.channels
  hears : ∀ limits events w, w ∈ (Clients.after limits events).trackers.waiting → requested v = .ok w.channels →
    ∀ lastEventId knownLedger io more c (p : Process),
      p.clients = Clients.after limits (events ++ .resume w true lastEventId knownLedger io :: more) →
      p.clients.clients w.id = some c → c.closed = false →
      ∀ io channel rawPayload p', p.dispatchStreamNotification io channel rawPayload = .ok p' →
        ∃ c', p'.clients.clients w.id = some c' ∧
          ((∀ payload, p.passed rawPayload = some payload → v.Lists channel → HearsOnce channel payload c c') ∧
            (p.passed rawPayload = none ∨ ¬ v.Lists channel → c' = c))

variable {v : QueryValue}

theorem known_eq_none {k : String} : known k = none ↔ STREAM_CHANNELS.lookup k = none ∧ k ∉ inherited := by
  unfold known
  cases hk : STREAM_CHANNELS.lookup k with
  | some c => simp
  | none => simp

theorem known_eq_channel {k : String} {c : StreamChannel} :
    known k = some (.channel c) ↔ STREAM_CHANNELS.lookup k = some c := by
  unfold known
  cases hk : STREAM_CHANNELS.lookup k with
  | some c' => simp
  | none => simp

/-- What the handshake keeps, by what the query names. -/
theorem requested_eq (v : QueryValue) :
    (v.entries = [] ∧ requested v = .ok none) ∨
    (v.entries ≠ [] ∧ (∀ k ∈ v.entries, known k ≠ none) ∧
      requested v = .ok (some (channelsOf (v.entries.filterMap known)))) ∨
    ((∃ k ∈ v.entries, known k = none) ∧ ∃ error, requested v = .error error) := by
  have hparse : parseChannelSubset v = if v.entries.isEmpty then .ok none else
      if (v.entries.filter fun k => (known k).isNone).isEmpty then .ok (some (v.entries.filterMap known))
      else .error ("unknown channel(s): " ++ ", ".intercalate (v.entries.filter fun k => (known k).isNone)) := by
    unfold parseChannelSubset
    split
    next => rfl
    next => rfl
    next => rfl
  unfold requested
  rw [hparse]
  cases hempty : v.entries.isEmpty with
  | true => exact .inl ⟨List.isEmpty_iff.mp hempty, rfl⟩
  | false =>
    right
    cases hknown : (v.entries.filter fun k => (known k).isNone).isEmpty with
    | true =>
      refine .inl ⟨by simpa using hempty, fun k hk hnone => ?_, rfl⟩
      have hmem : k ∈ v.entries.filter fun k => (known k).isNone := List.mem_filter.mpr ⟨hk, by simp [hnone]⟩
      rw [List.isEmpty_iff.mp hknown] at hmem
      cases hmem
    | false =>
      refine .inr ⟨?_, _, rfl⟩
      simpa using hknown

theorem mem_all (channel : StreamChannel) :
    channel ∈ [StreamChannel.members, .loan_proposals, .loans, .treasury_proposals, .interest] := by
  cases channel <;> decide

/-- The channels the client is subscribed to are those the query lists. -/
theorem mem_requested {channels : Option (List StreamChannel)} (h : requested v = .ok channels)
    (channel : StreamChannel) :
    channel ∈ channels.getD [.members, .loan_proposals, .loans, .treasury_proposals, .interest] ↔
      v.Lists channel := by
  obtain ⟨hempty, hnone⟩ | ⟨hnonempty, -, hsome⟩ | ⟨-, error, herror⟩ := requested_eq v
  · rw [hnone] at h
    cases h
    exact iff_of_true (mem_all channel) (.inl hempty)
  · rw [hsome] at h
    cases h
    simp only [QueryValue.Lists, hnonempty, false_or, Option.getD_some, channelsOf, List.mem_filterMap]
    constructor
    · rintro ⟨value, ⟨k, hk, hvalue⟩, hchannel⟩
      cases value with
      | inherited name => cases hchannel
      | channel c =>
        cases hchannel
        exact ⟨k, hk, known_eq_channel.mp hvalue⟩
    · rintro ⟨k, hk, hlookup⟩
      exact ⟨.channel channel, ⟨k, hk, known_eq_channel.mpr hlookup⟩, rfl⟩
  · rw [herror] at h
    cases h

/-- Where the query is in order, only the caps can be in the way. -/
theorem checkCaps_ok (limits : StreamLimits) (trackers : StreamTrackers) (ip : String)
    (channels : Option (List StreamChannel)) :
    (∃ refusal, trackers.checkCaps limits ip (.ok channels) = .error refusal ∧ refusal.statusCode = 503) ∨
      trackers.checkCaps limits ip (.ok channels) = .ok ⟨trackers.handshakes, ip, trackers.ipCount ip, channels⟩ := by
  by_cases hfull : limits.maxConnections ≤ trackers.connectedClients.length
  · exact .inl ⟨.tooManyConnections limits.retryAfterSeconds trackers.connectedClients.length limits.maxConnections,
      by simp [StreamTrackers.checkCaps, Except.mapError, hfull, bind, Except.bind, throw, throwThe,
        MonadExceptOf.throw], rfl⟩
  · by_cases hcrowded : limits.maxConnectionsPerIp ≤ trackers.ipCount ip
    · exact .inl ⟨.tooManyFromAddress limits.retryAfterSeconds trackers.connectedClients.length
        limits.maxConnectionsPerIp, by simp [StreamTrackers.checkCaps, Except.mapError, hfull, hcrowded, bind,
          Except.bind, throw, throwThe, MonadExceptOf.throw], rfl⟩
    · exact .inr (by simp [StreamTrackers.checkCaps, Except.mapError, hfull, hcrowded])

theorem answer_ok {channels : Option (List StreamChannel)} (h : requested v = .ok channels) (limits : StreamLimits)
    (trackers : StreamTrackers) (ip : String) (listening : Bool) :
    (∃ refusal, answer limits trackers ip listening v = .error refusal ∧ refusal.statusCode ≠ 400) ∨
      (listening = true ∧ answer limits trackers ip listening v =
        .ok ⟨trackers.handshakes, ip, trackers.ipCount ip, channels⟩) := by
  rw [answer, h]
  obtain ⟨refusal, hrefused, hstatus⟩ | hlet := checkCaps_ok limits trackers ip channels
  · rw [hrefused]
    exact .inl ⟨refusal, rfl, by rw [hstatus]; decide⟩
  · rw [hlet]
    cases listening with
    | false => exact .inl ⟨.setupFailed, rfl, by decide⟩
    | true => exact .inr ⟨rfl, rfl⟩

/-- The endpoint answers 400 exactly to a query that names what is found nowhere. -/
theorem answer_badChannels (limits : StreamLimits) (trackers : StreamTrackers) (ip : String) (listening : Bool)
    (v : QueryValue) :
    (∃ refusal, answer limits trackers ip listening v = .error refusal ∧ refusal.statusCode = 400) ↔
      ∃ k ∈ v.entries, known k = none := by
  have hother : ∀ channels, requested v = .ok channels →
      ¬ ∃ refusal, answer limits trackers ip listening v = .error refusal ∧ refusal.statusCode = 400 := by
    rintro channels hok ⟨refusal, hrefused, hbad⟩
    obtain ⟨refusal', hrefused', hstatus⟩ | ⟨-, hlet⟩ := answer_ok hok limits trackers ip listening
    · obtain rfl : refusal = refusal' := Except.error.inj (hrefused.symm.trans hrefused')
      exact hstatus hbad
    · rw [hrefused] at hlet
      cases hlet
  obtain ⟨hempty, hok⟩ | ⟨-, hknown, hok⟩ | ⟨hunknown, error, herror⟩ := requested_eq v
  · exact iff_of_false (hother _ hok) (by simp [hempty])
  · exact iff_of_false (hother _ hok) fun ⟨k, hk, hnone⟩ => hknown k hk hnone
  · refine iff_of_true ⟨.badChannels error, ?_, rfl⟩ hunknown
    rw [answer, herror]
    rfl

theorem answer_channels {limits : StreamLimits} {trackers : StreamTrackers} {ip : String} {w : Handshake}
    (h : answer limits trackers ip true v = .ok w) : requested v = .ok w.channels := by
  cases hv : requested v with
  | error error =>
    rw [answer, hv] at h
    cases h
  | ok channels =>
    obtain ⟨refusal, hrefused, -⟩ | ⟨-, hlet⟩ := answer_ok hv limits trackers ip true
    · rw [h] at hrefused
      cases hrefused
    · rw [h] at hlet
      cases hlet
      rfl

theorem mem_insertAll (channels set : List StreamChannel) (channel : StreamChannel) :
    channel ∈ channels.foldl (fun set channel => set.insert channel) set ↔ channel ∈ set ∨ channel ∈ channels := by
  induction channels generalizing set with
  | nil => simp
  | cons first channels ih =>
    rw [List.foldl_cons, ih, List.mem_insert_iff, List.mem_cons]
    tauto

namespace Scope

variable {io : Nat → Write} {s : Scope} {channel : StreamChannel} {payload : JsonValue}

theorem close_client {s' : Scope} (h : s.client = s'.client) : s.close.client = s'.close.client := by
  unfold close
  rw [h]
  split
  next => exact h
  next => simp only [onClient, doClose, h]

theorem sendMessage_client {s' : Scope} (h : s.client = s'.client) (force : Bool) (msg : Message) :
    (s.sendMessage io force msg).client = (s'.sendMessage io force msg).client := by
  have hadvance : (s.onClient (·.advance msg)).client = (s'.onClient (·.advance msg)).client :=
    congrArg (Client.advance msg) h
  unfold sendMessage enqueue
  rw [h]
  split
  next => exact h
  next =>
    dsimp only
    rw [hadvance]
    split
    next =>
      split
      next => exact close_client hadvance
      next => simp only [onClient, h]
    next => simp only [onClient, h]

/-- What a client hears does not depend on the trackers. -/
theorem receiveNotification_client {s' : Scope} (h : s.client = s'.client) :
    (s.receiveNotification io channel payload).client = (s'.receiveNotification io channel payload).client := by
  unfold receiveNotification
  rw [h]
  split
  next => exact h
  next =>
    split
    next => exact h
    next => exact sendMessage_client h false _

theorem receiveNotification_other (h : s.client.channels.contains channel = false) :
    s.receiveNotification io channel payload = s := by
  unfold receiveNotification
  rw [h]
  split <;> rfl

theorem writeFrame_written (io : Nat → Write) (f : Frame) (c : Client) :
    (c.writeFrame io f).written = c.written ++ [f] := by
  unfold Client.writeFrame
  dsimp only
  split
  next => rfl
  next => rfl
  next destroyed _ => cases destroyed <;> rfl

theorem advance_written (msg : Message) (c : Client) : (c.advance msg).written = c.written := by
  unfold Client.advance
  split
  next => split <;> rfl
  next => rfl

theorem receiveNotification_hears (hr : s.client.released = false) (ho : s.client.closed = false)
    (h : channel ∈ s.client.channels) :
    HearsOnce channel payload s.client (s.receiveNotification io channel payload).client := by
  have hcontains : s.client.channels.contains channel = true := by simpa using h
  unfold receiveNotification sendMessage
  simp only [ho, hcontains, Bool.not_true, Bool.false_eq_true, if_false]
  generalize hmsg : ({ type := .notification, channel := some channel, payload := some payload } : Message) = msg
  have hqueue : (s.client.advance msg).queue = s.client.queue := (s.client.advance_stays msg).2
  split
  next =>
    unfold enqueue
    split
    next =>
      obtain ⟨hreleased, hkeeps⟩ := close_of_open (released_advance hr msg)
      exact .inl (hkeeps.clean.released hreleased).1
    next =>
      refine .inr ⟨⟨(s.client.advance msg).lastSentLedger, msg⟩, hmsg.symm, ?_⟩
      simp only [onClient, advance_written, hqueue]
      rw [← List.append_assoc]
      exact List.perm_append_singleton _ _
  next =>
    refine .inr ⟨⟨(s.client.advance msg).lastSentLedger, msg⟩, hmsg.symm, ?_⟩
    simp only [onClient, writeFrame_written, advance_written, (Client.writeFrame_stays _ _ _).2, hqueue]
    rw [List.append_assoc, List.singleton_append]
    exact List.perm_middle

end Scope

namespace Clients

variable {s : Clients} {k : Nat} {c : Client}

theorem foldl_other {f : Nat → Scope → Scope} {clients : List StreamClient} (h : ∀ client ∈ clients, client.id ≠ k) :
    (clients.foldl (fun s client => s.onClient client.id (f client.id)) s).clients k = s.clients k := by
  induction clients generalizing s with
  | nil => rfl
  | cons client clients ih =>
    rw [List.foldl_cons, ih fun other hother => h other (List.mem_cons_of_mem _ hother)]
    have hne : k ≠ client.id := Ne.symm (h client List.mem_cons_self)
    unfold onClient
    split
    next => rfl
    next => simp [put, hne]

/-- A client that is registered is open, and hears of the channels of its handshake. -/
theorem resume_client {w : Handshake} (hw : w ∈ s.trackers.waiting) (lastEventId : Option String)
    (knownLedger : Option JsonNumber) (io : Nat → Write) :
    ∃ c, (s.resume w true lastEventId knownLedger io).clients w.id = some c ∧ c.released = false ∧
      ∀ channel, channel ∈ c.channels ↔
        channel ∈ w.channels.getD [.members, .loan_proposals, .loans, .treasury_proposals, .interest] := by
  rw [resume, if_pos ⟨hw, rfl⟩]
  obtain ⟨hkeeps, hopen⟩ := Scope.keeps_start io
    (w.channels.getD [.members, .loan_proposals, .loans, .treasury_proposals, .interest]) lastEventId knownLedger
    (s := ⟨{ self := ⟨w.id, w.ip⟩ }, s.trackers.resume w true, s.moves ++ [.register w]⟩) rfl
  refine ⟨_, if_pos rfl, hopen, fun channel => ?_⟩
  obtain ⟨hstays, -⟩ := hkeeps.moved.resolve_right fun hleft => absurd (hleft.2.1.symm.trans hopen) (by simp)
  rw [hstays.channels]
  simp only [Scope.subscribe, Scope.onClient, mem_insertAll, List.not_mem_nil, false_or]

/-- A notification is fanned out to a client once. -/
theorem deliver_client (h : s.Sound) (hc : s.clients k = some c) (ho : c.released = false)
    (io : Nat → Nat → Write) (channel : StreamChannel) (payload : JsonValue) :
    (s.deliver io channel payload).clients k =
      some (Scope.receiveNotification (io k) channel payload (s.scope c)).client := by
  have hmem := h.mem_connected hc ho
  have hid := (h.clean k c hc).2.1
  have hnodup := h.nodup
  have honly : ∀ client ∈ s.trackers.connectedClients, client.id = k → client = c.self := by
    intro client hclient hk
    obtain ⟨d, hd, hself, -⟩ := (h.connected client).mp hclient
    rw [hk, hc] at hd
    cases hd
    exact hself.symm
  obtain ⟨before, rest, hsplit⟩ := List.append_of_mem hmem
  rw [hsplit] at hnodup honly
  obtain ⟨-, hrest, hdisjoint⟩ := List.nodup_append.mp hnodup
  have hbefore : ∀ client ∈ before, client.id ≠ k := by
    intro client hclient hk
    have hsame := honly client (List.mem_append_left _ hclient) hk
    exact hdisjoint client hclient c.self List.mem_cons_self hsame
  have hafter : ∀ client ∈ rest, client.id ≠ k := by
    intro client hclient hk
    obtain rfl := honly client (List.mem_append_right _ (List.mem_cons_of_mem _ hclient)) hk
    exact (List.nodup_cons.mp hrest).1 hclient
  rw [deliver, onConnected, hsplit, List.foldl_append, List.foldl_cons,
    foldl_other (f := fun k => Scope.receiveNotification (io k) channel payload) hafter]
  have hsame := foldl_other (s := s) (f := fun k => Scope.receiveNotification (io k) channel payload) hbefore
  rw [hc] at hsame
  rw [onClient, hid, hsame]
  simp only [put, if_true, Option.some.injEq]
  exact Scope.receiveNotification_client rfl

end Clients

namespace Process

variable {p p' : Process} {io : Nat → Nat → Write} {channel : StreamChannel} {payload : JsonValue}

theorem learn_rest (ledger : Option JsonNumber) (p : Process) :
    (p.learn ledger).clients = p.clients ∧ (p.learn ledger).lastReorgLedger = p.lastReorgLedger := by
  unfold learn
  split
  next => split <;> exact ⟨rfl, rfl⟩
  next => exact ⟨rfl, rfl⟩

theorem dispatchPayload_clients (h : p.dispatchPayload io channel payload = .ok p') :
    p'.clients = if (numberOf "reorg_ledger" payload).all (isNewer · p.lastReorgLedger) then
      p.clients.deliver io channel payload else p.clients := by
  by_cases hnull : payload = .null
  · subst hnull
    cases h
  · rw [dispatchPayload_eq hnull] at h
    cases h
    obtain ⟨hclients, hreorg⟩ := p.learn_rest (numberOf "ledger" payload)
    unfold pass
    cases hledger : numberOf "reorg_ledger" payload with
    | none => simp [hclients]
    | some reorgLedger =>
      rw [hreorg]
      by_cases hnewer : isNewer reorgLedger p.lastReorgLedger = true <;> simp [hnewer, hclients]

/-- What a dispatch does to the clients. -/
theorem dispatch_clients {rawPayload : Option String}
    (h : p.dispatchStreamNotification io channel rawPayload = .ok p') :
    p'.clients = match p.passed rawPayload with
      | some payload => p.clients.deliver io channel payload
      | none => p.clients := by
  have hpayload : ∀ payload, p.dispatchPayload io channel payload = .ok p' →
      p'.clients = match (some payload).filter fun payload =>
          (numberOf "reorg_ledger" payload).all (isNewer · p.lastReorgLedger) with
        | some payload => p.clients.deliver io channel payload
        | none => p.clients := by
    intro payload hdispatch
    rw [dispatchPayload_clients hdispatch, Option.filter_some]
    split
    next => rfl
    next => rfl
  unfold dispatchStreamNotification at h
  unfold passed
  split at h
  next => exact hpayload _ h
  next => exact hpayload _ h
  next raw hraw =>
    have htext : payloadOf (some raw) = JSON.parse raw := by
      unfold payloadOf
      split
      next heq => cases heq
      next heq => exact absurd (Option.some.inj heq) hraw
      next heq => cases heq; rfl
    rw [htext]
    split at h
    next hparse =>
      cases h
      rw [hparse]
      rfl
    next hparse =>
      rw [hparse]
      exact hpayload _ h

end Process

/-- **A client hears exactly the channels it asked for** if and only if the query names no property that every object
inherits, or names something else as well that is no channel. -/
theorem hears_asked_iff (v : QueryValue) : HearsAsked v ↔
    ((∃ k ∈ v.entries, STREAM_CHANNELS.lookup k = none) →
      ∃ k ∈ v.entries, STREAM_CHANNELS.lookup k = none ∧ k ∉ inherited) := by
  simp only [← known_eq_none]
  constructor
  · intro h hnamed
    exact (answer_badChannels ⟨0, 0, 0⟩ {} "" false v).mp ((h.refused ⟨0, 0, 0⟩ {} "" false).mpr hnamed)
  · intro hcond
    constructor
    case refused =>
      intro limits trackers ip listening
      rw [answer_badChannels]
      refine ⟨fun ⟨k, hk, hnone⟩ => ⟨k, hk, (known_eq_none.mp hnone).1⟩, hcond⟩
    case opens => exact fun limits trackers ip w h => answer_channels h
    case hears =>
      intro limits events w hw hv lastEventId knownLedger io₀ more c p hp hc ho io channel rawPayload p' hdispatch
      have hsound := Clients.sound_after limits (events ++ .resume w true lastEventId knownLedger io₀ :: more)
      rw [← hp] at hsound
      have hr : c.released = false := by
        cases hr : c.released with
        | false => rfl
        | true => exact absurd (((hsound.clean _ c hc).1.released hr).1.symm.trans ho) (by simp)
      have hchannels : channel ∈ c.channels ↔ v.Lists channel := by
        obtain ⟨c₁, hc₁, hr₁, hsubscribed⟩ := Clients.resume_client hw lastEventId knownLedger io₀
        have hstart : (Clients.after limits (events ++ [.resume w true lastEventId knownLedger io₀])).clients w.id =
            some c₁ := by
          rw [Clients.after, List.foldl_concat]
          exact hc₁
        obtain ⟨c₂, hc₂, hkept⟩ := (Clients.later_after limits _ more).stays w.id c₁ hstart hr₁
        rw [List.append_assoc, List.singleton_append, ← hp, hc] at hc₂
        cases hc₂
        rw [hkept hr, hsubscribed, mem_requested hv]
      have hclients := Process.dispatch_clients hdispatch
      cases hpassed : p.passed rawPayload with
      | none =>
        rw [hpassed] at hclients
        exact ⟨c, by rw [hclients]; exact hc, by simp, fun _ => rfl⟩
      | some payload =>
        rw [hpassed] at hclients
        refine ⟨_, by rw [hclients]; exact Clients.deliver_client hsound hc hr io channel payload, ?_, ?_⟩
        · intro payload' hpayload hlists
          cases hpayload
          exact Scope.receiveNotification_hears hr ho (hchannels.mpr hlists)
        · rintro (hnone | hunlisted)
          · cases hnone
          · rw [Scope.receiveNotification_other]
            · rfl
            · simpa [Clients.scope] using fun hmem => hunlisted (hchannels.mp hmem)

/-- A query that names a property of every object opens a client that hears of nothing. -/
theorem constructor_opens_a_client : ¬ HearsAsked (.text "constructor") ∧
    requested (.text "constructor") = .ok (some []) := by
  have hopens : requested (.text "constructor") = .ok (some []) := by decide +kernel
  refine ⟨fun h => ?_, hopens⟩
  obtain ⟨refusal, hrefused, hbad⟩ :=
    (h.refused ⟨1, 1, 0⟩ {} "" true).mpr ⟨"constructor", by decide +kernel, by decide +kernel⟩
  rw [answer, hopens] at hrefused
  cases hrefused

end Sse

end OurDao
