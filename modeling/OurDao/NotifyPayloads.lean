import OurDao.SseClients

/-!
# NOTIFY payloads

Anyone with access to the database can send any text on a channel. The text is parsed once
for all clients, and a text that does not parse is dropped; what does parse is taken for an
object, whatever it is.
-/

namespace OurDao

namespace Sse

/-- The process, with the ledgers it has heard of. -/
structure Process where
  clients : Clients := {}
  knownLedger : Option JsonNumber := none
  lastReorgLedger : Option JsonNumber := none

namespace Process

/-- `typeof v === 'number' && (known === null || v > known)`. -/
def isNewer (v : JsonNumber) (known : Option JsonNumber) : Bool := known.all (· < v)

/-- The highest ledger that any notification has carried. -/
def learn (ledger : Option JsonNumber) (p : Process) : Process :=
  match ledger with
  | some ledger => if isNewer ledger p.knownLedger then { p with knownLedger := some ledger } else p
  | none => p

/-- Fan the payload out, unless it is a reorg signal that is not newer than the last one. -/
def pass (io : Nat → Nat → Write) (channel : StreamChannel) (payload : JsonValue) (reorgLedger : Option JsonNumber)
    (p : Process) : Process :=
  match reorgLedger with
  | some reorgLedger =>
    if isNewer reorgLedger p.lastReorgLedger then
      { p with lastReorgLedger := some reorgLedger, clients := p.clients.deliver io channel payload }
    else p
  | none => { p with clients := p.clients.deliver io channel payload }

/-- `payload[name]`, if it is a number. -/
def numberOf (name : String) (payload : JsonValue) : Option JsonNumber := (payload.get? name).bind (·.number?)

/-- The rest of `dispatchStreamNotification`, for a payload that has been parsed. -/
def dispatchPayload (io : Nat → Nat → Write) (channel : StreamChannel) (payload : JsonValue) (p : Process) :
    Except String Process :=
  match payload with
  | .null => .error "Cannot read properties of null (reading 'ledger')"
  | payload => .ok ((p.learn (numberOf "ledger" payload)).pass io channel payload (numberOf "reorg_ledger" payload))

/-- A text that is empty counts as none. An error is not caught by anyone. -/
def dispatchStreamNotification (io : Nat → Nat → Write) (channel : StreamChannel) (rawPayload : Option String)
    (p : Process) : Except String Process :=
  match rawPayload with
  | none | some "" => p.dispatchPayload io channel (.obj [])
  | some raw =>
    match JSON.parse raw with
    | none => .ok p
    | some payload => p.dispatchPayload io channel payload

/-- One NOTIFY, and what the sockets do with it. -/
structure Notice where
  io : Nat → Nat → Write
  channel : StreamChannel
  rawPayload : String

/-- What is left when one NOTIFY after the other has been dispatched; one that throws leaves what was. -/
def afterNotices (notices : List Notice) (p : Process) : Process :=
  notices.foldl
    (fun p n => ((p.dispatchStreamNotification n.io n.channel (some n.rawPayload)).toOption).getD p) p

/-- No ledger has gone back. -/
structure Forward (p p' : Process) : Prop where
  known : ∀ l, p.knownLedger = some l → ∃ l', p'.knownLedger = some l' ∧ l ≤ l'
  reorg : ∀ l, p.lastReorgLedger = some l → ∃ l', p'.lastReorgLedger = some l' ∧ l ≤ l'

/-- What is asked of a payload: whatever the process and its clients are like, it is dispatched without an error,
nothing comes of it where it is no object, and no ledger goes back over any sequence that it begins. -/
structure Harmless (raw : String) : Prop where
  returns : ∀ io channel p, ∃ p', dispatchStreamNotification io channel (some raw) p = .ok p'
  drops : (∀ kvs, JSON.parse raw ≠ some (.obj kvs)) →
    ∀ io channel p, dispatchStreamNotification io channel (some raw) p = .ok p
  forward : ∀ io channel notices p, Forward p (afterNotices (⟨io, channel, raw⟩ :: notices) p)

variable {p p' p'' : Process} {io : Nat → Nat → Write} {channel : StreamChannel} {payload : JsonValue} {raw : String}

theorem Forward.refl (p : Process) : Forward p p := ⟨fun l hl => ⟨l, hl, le_rfl⟩, fun l hl => ⟨l, hl, le_rfl⟩⟩

theorem Forward.trans (h : Forward p p') (h' : Forward p' p'') : Forward p p'' where
  known l hl := by
    obtain ⟨l', hl', hle⟩ := h.known l hl
    obtain ⟨l'', hl'', hle'⟩ := h'.known l' hl'
    exact ⟨l'', hl'', hle.trans hle'⟩
  reorg l hl := by
    obtain ⟨l', hl', hle⟩ := h.reorg l hl
    obtain ⟨l'', hl'', hle'⟩ := h'.reorg l' hl'
    exact ⟨l'', hl'', hle.trans hle'⟩

/-- A ledger that is newer takes the place of an older one. -/
theorem le_of_isNewer {v l : JsonNumber} {known : Option JsonNumber} (h : isNewer v known = true)
    (hl : known = some l) : l ≤ v := by
  subst hl
  have hlt : l < v := by simpa [isNewer] using h
  exact hlt.le

theorem learn_forward (ledger : Option JsonNumber) (p : Process) : Forward p (p.learn ledger) := by
  unfold learn
  split
  next =>
    split
    next hnewer => exact ⟨fun l hl => ⟨_, rfl, le_of_isNewer hnewer hl⟩, fun l hl => ⟨l, hl, le_rfl⟩⟩
    next => exact .refl p
  next => exact .refl p

theorem pass_forward (io : Nat → Nat → Write) (channel : StreamChannel) (payload : JsonValue)
    (reorgLedger : Option JsonNumber) (p : Process) : Forward p (p.pass io channel payload reorgLedger) := by
  unfold pass
  split
  next =>
    split
    next hnewer => exact ⟨fun l hl => ⟨l, hl, le_rfl⟩, fun l hl => ⟨_, rfl, le_of_isNewer hnewer hl⟩⟩
    next => exact .refl p
  next => exact ⟨fun l hl => ⟨l, hl, le_rfl⟩, fun l hl => ⟨l, hl, le_rfl⟩⟩

/-- A payload that is not `null` is dispatched. -/
theorem dispatchPayload_eq (h : payload ≠ .null) : p.dispatchPayload io channel payload =
    .ok ((p.learn (numberOf "ledger" payload)).pass io channel payload (numberOf "reorg_ledger" payload)) := by
  cases payload <;> first | rfl | exact absurd rfl h

theorem dispatchPayload_forward (h : p.dispatchPayload io channel payload = .ok p') : Forward p p' := by
  by_cases hnull : payload = .null
  · subst hnull
    cases h
  · rw [dispatchPayload_eq hnull] at h
    cases h
    exact (learn_forward _ p).trans (pass_forward io channel payload _ _)

theorem dispatch_forward {rawPayload : Option String}
    (h : p.dispatchStreamNotification io channel rawPayload = .ok p') : Forward p p' := by
  unfold dispatchStreamNotification at h
  split at h
  next => exact dispatchPayload_forward h
  next => exact dispatchPayload_forward h
  next =>
    split at h
    next => cases h; exact .refl p
    next => exact dispatchPayload_forward h

theorem afterNotices_forward (notices : List Notice) (p : Process) : Forward p (p.afterNotices notices) := by
  induction notices generalizing p with
  | nil => exact .refl p
  | cons n notices ih =>
    rw [afterNotices, List.foldl_cons]
    refine Forward.trans ?_ (ih _)
    cases hn : p.dispatchStreamNotification n.io n.channel (some n.rawPayload) with
    | error message => exact .refl p
    | ok p' => exact dispatch_forward hn

theorem dispatch_text (h : raw ≠ "") : p.dispatchStreamNotification io channel (some raw) =
    match JSON.parse raw with
    | none => .ok p
    | some payload => p.dispatchPayload io channel payload := by
  unfold dispatchStreamNotification
  split
  next heq => cases heq
  next heq => exact absurd (Option.some.inj heq) h
  next heq => cases heq; rfl

/-- A process with one client, of one channel. -/
def serving (channel : StreamChannel) : Process where
  clients :=
    { trackers := { connectedClients := [⟨0, "::1"⟩] }
      clients := fun k => if k = 0 then some { self := ⟨0, "::1"⟩, channels := [channel] } else none }

/-- What is no object has none of the fields, and is passed on to the clients of the channel all the same. -/
theorem dispatch_serving (hobject : payload.isObject = false ∨ payload = .obj []) (channel : StreamChannel) :
    (serving channel).dispatchPayload (fun _ _ => .accepted) channel payload ≠ .ok (serving channel) := by
  by_cases hnull : payload = .null
  · subst hnull
    exact fun h => by cases h
  have hnumber : ∀ name, numberOf name payload = none := by
    intro name
    obtain hno | rfl := hobject
    · cases payload with
      | obj kvs => cases hno
      | _ => rfl
    · rfl
  have hadvance : ∀ c : Client,
      c.advance { type := .notification, channel := some channel, payload := some payload } = c := by
    intro c
    have hnone : Client.ledgerOf (some payload) = none := hnumber "ledger"
    rw [Client.advance, hnone]
  rw [dispatchPayload_eq hnull, hnumber, hnumber]
  intro h
  have hclients := congrArg (fun p : Process => p.clients.clients 0) (Except.ok.inj h)
  have hwritten := congrArg (Option.map fun c : Client => c.written.length) hclients
  simp [learn, pass, Clients.deliver, Clients.onConnected, Clients.onClient, serving, Clients.scope, Clients.put,
    Scope.receiveNotification, Scope.sendMessage, Scope.onClient, Client.writeFrame, hadvance] at hwritten

/-- **A payload breaks nothing** if and only if it is the text of an object, or neither empty nor any JSON text. -/
theorem harmless_iff (raw : String) :
    Harmless raw ↔ raw ≠ "" ∧ ∀ v, JSON.parse raw = some v → v.isObject = true := by
  constructor
  · intro h
    constructor
    · rintro rfl
      have hdrops := h.drops (fun kvs hkvs => by cases hkvs) (fun _ _ => .accepted) .loans (serving .loans)
      exact dispatch_serving (.inr rfl) .loans hdrops
    · intro v hv
      have hraw : raw ≠ "" := by
        rintro rfl
        cases hv
      by_contra hno
      have hdrops := h.drops (fun kvs hkvs => hno (by rw [Option.some.inj (hv.symm.trans hkvs)]; rfl))
        (fun _ _ => .accepted) .loans (serving .loans)
      rw [dispatch_text hraw, hv] at hdrops
      exact dispatch_serving (.inl (Bool.eq_false_iff.mpr hno)) .loans hdrops
  · rintro ⟨hraw, hobject⟩
    constructor
    case returns =>
      intro io channel p
      rw [dispatch_text hraw]
      cases hv : JSON.parse raw with
      | none => exact ⟨p, rfl⟩
      | some v =>
        have hnull : v ≠ .null := by
          rintro rfl
          cases hobject _ hv
        exact ⟨_, dispatchPayload_eq hnull⟩
    case drops =>
      intro hno io channel p
      rw [dispatch_text hraw]
      cases hv : JSON.parse raw with
      | none => rfl
      | some v =>
        cases v with
        | obj kvs => exact absurd hv (hno kvs)
        | _ => cases hobject _ hv
    case forward => exact fun io channel notices p => afterNotices_forward _ p

/-- The text `null` ends the process, with or without clients. -/
theorem null_payload_throws : ¬ Harmless "null" ∧
    ∀ io channel p, (dispatchStreamNotification io channel (some "null") p).isOk = false := by
  have hthrows : ∀ io channel p, (dispatchStreamNotification io channel (some "null") p).isOk = false := by
    intro io channel p
    rfl
  refine ⟨fun h => ?_, hthrows⟩
  obtain ⟨p', hp'⟩ := h.returns (fun _ _ => .accepted) .loans {}
  have hok := hthrows (fun _ _ => .accepted) .loans {}
  rw [hp'] at hok
  cases hok

end Process

end Sse

end OurDao
