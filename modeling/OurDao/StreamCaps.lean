import OurDao.Handlers
import OurDao.Runs
import OurDao.Table

/-!
# The connection caps of the stream

A handshake checks the caps, waits for the shared listener and then registers its client,
with the count of its address that it read before the wait. The counters are exact, and
the caps hold, as long as that count is still the count of the address when the wait ends
and there is still room.
-/

namespace OurDao

/-- `streamLimits`. A cap below zero refuses every client, as zero does. -/
structure StreamLimits where
  maxConnections : Nat
  maxConnectionsPerIp : Nat
  retryAfterSeconds : Int

/-- A client, told from the others by the handshake that opened it. -/
structure StreamClient where
  id : Nat
  ip : String
  deriving DecidableEq

/-- A handshake that waits for the shared listener, and the count of its address that it read. -/
structure Handshake where
  id : Nat
  ip : String
  ipCount : Nat
  channels : Option (List StreamChannel)
  deriving DecidableEq

/-- `connectedClients` and `connectionsByIp`, and the handshakes that wait. -/
structure StreamTrackers where
  connectedClients : List StreamClient := []
  connectionsByIp : Table String Nat := ∅
  waiting : List Handshake := []
  handshakes : Nat := 0

inductive StreamRefusal where
  | badChannels (error : String)
  | tooManyConnections (retryAfter : Int) (connectedStreams maxConnections : Nat)
  | tooManyFromAddress (retryAfter : Int) (connectedStreams maxConnectionsPerIp : Nat)
  | setupFailed

def StreamRefusal.statusCode : StreamRefusal → Nat
  | badChannels _ => 400
  | tooManyConnections .. => 503
  | tooManyFromAddress .. => 503
  | setupFailed => 500

def StreamRefusal.error : StreamRefusal → String
  | badChannels error => error
  | tooManyConnections .. => "Too many concurrent stream connections"
  | tooManyFromAddress .. => "Too many concurrent stream connections from this address"
  | setupFailed => "Failed to establish stream"

namespace StreamTrackers

/-- `connectionsByIp.get(ip) ?? 0`. -/
def ipCount (s : StreamTrackers) (ip : String) : Nat := (s.connectionsByIp.lookup ip).getD 0

/-- `registerStreamEndpoint` up to the wait; `channels` is what `parseChannelSubset` made of the query. -/
def checkCaps (limits : StreamLimits) (s : StreamTrackers) (ip : String)
    (channels : Except String (Option (List StreamChannel))) : Except StreamRefusal Handshake := do
  let channels ← channels.mapError .badChannels
  let size := s.connectedClients.length
  if limits.maxConnections ≤ size then
    throw (.tooManyConnections limits.retryAfterSeconds size limits.maxConnections)
  if limits.maxConnectionsPerIp ≤ s.ipCount ip then
    throw (.tooManyFromAddress limits.retryAfterSeconds size limits.maxConnectionsPerIp)
  return ⟨s.handshakes, ip, s.ipCount ip, channels⟩

def request (limits : StreamLimits) (s : StreamTrackers) (ip : String)
    (channels : Except String (Option (List StreamChannel))) : StreamTrackers :=
  match s.checkCaps limits ip channels with
  | .error _ => s
  | .ok w => { s with waiting := s.waiting ++ [w], handshakes := s.handshakes + 1 }

/-- The rest of `registerStreamEndpoint`, up to the start of the stream. -/
def register (s : StreamTrackers) (w : Handshake) : StreamTrackers :=
  { s with
    connectedClients := s.connectedClients ++ [⟨w.id, w.ip⟩]
    connectionsByIp := s.connectionsByIp.insert w.ip (w.ipCount + 1) }

/-- The wait of a handshake ends; nothing is set up when the listener could not connect. -/
def resume (s : StreamTrackers) (w : Handshake) (listening : Bool) : StreamTrackers :=
  if w ∈ s.waiting then
    let s := { s with waiting := s.waiting.erase w }
    if listening then s.register w else s
  else s

/-- `doClose`, at the end of a socket, on a stall or after a failed start. -/
def doClose (s : StreamTrackers) (client : StreamClient) : StreamTrackers :=
  if client ∈ s.connectedClients then
    let n := s.ipCount client.ip
    { s with
      connectedClients := s.connectedClients.erase client
      connectionsByIp :=
        if n ≤ 1 then s.connectionsByIp.erase client.ip else s.connectionsByIp.insert client.ip (n - 1) }
  else s

inductive Event where
  | request (ip : String) (channels : Except String (Option (List StreamChannel)))
  | resume (w : Handshake) (listening : Bool)
  | close (client : StreamClient)

def act (limits : StreamLimits) (s : StreamTrackers) : Event → StreamTrackers
  | .request ip channels => s.request limits ip channels
  | .resume w listening => s.resume w listening
  | .close client => s.doClose client

/-- The trackers after events in any order, from the start of the process. -/
def after (limits : StreamLimits) (events : List Event) : StreamTrackers := events.foldl (act limits) {}

/-- The open clients of an address. -/
def clientsOf (s : StreamTrackers) (ip : String) : Nat := s.connectedClients.countP (·.ip = ip)

/-- Every address is counted right, and no cap is exceeded. -/
structure Exact (limits : StreamLimits) (s : StreamTrackers) : Prop where
  counts : ∀ ip, s.connectionsByIp.lookup ip = if s.clientsOf ip = 0 then none else some (s.clientsOf ip)
  total : s.connectedClients.length ≤ limits.maxConnections
  perIp : ∀ ip, s.clientsOf ip ≤ limits.maxConnectionsPerIp

/-- A wait that ends well ends in time: the address has as many clients as when the handshake counted them, and
there is still room for one. -/
def InTime (limits : StreamLimits) (s : StreamTrackers) : Event → Prop
  | .resume w true => w ∈ s.waiting → s.ipCount w.ip = w.ipCount ∧ s.connectedClients.length < limits.maxConnections
  | _ => True

variable {limits : StreamLimits} {s : StreamTrackers} {ip : String}

theorem exact_start : Exact limits {} := by
  constructor
  case counts => intro ip; simp [clientsOf]
  case total => simp
  case perIp => intro ip; simp [clientsOf]

/-- What the counters say of an address is what there is. -/
theorem Exact.ipCount (h : Exact limits s) (ip : String) : s.ipCount ip = s.clientsOf ip := by
  rw [StreamTrackers.ipCount, h.counts ip]
  by_cases hnone : s.clientsOf ip = 0 <;> simp [hnone]

theorem Exact.congr {s' : StreamTrackers} (h : Exact limits s) (hclients : s'.connectedClients = s.connectedClients)
    (hcounters : s'.connectionsByIp = s.connectionsByIp) : Exact limits s' := by
  have hof : s'.clientsOf = s.clientsOf := by
    funext ip
    rw [clientsOf, clientsOf, hclients]
  exact ⟨fun ip => hof ▸ hcounters ▸ h.counts ip, hclients ▸ h.total, fun ip => hof ▸ h.perIp ip⟩

theorem clientsOf_register (w : Handshake) (ip : String) :
    (s.register w).clientsOf ip = s.clientsOf ip + if w.ip = ip then 1 else 0 := by
  by_cases hip : w.ip = ip <;> simp [clientsOf, register, hip]

/-- A client is registered exactly when its handshake comes in time. -/
theorem exact_register (h : Exact limits s) {w : Handshake} (hcap : w.ipCount < limits.maxConnectionsPerIp) :
    Exact limits (s.register w) ↔
      s.ipCount w.ip = w.ipCount ∧ s.connectedClients.length < limits.maxConnections := by
  have hcount := h.ipCount w.ip
  constructor
  · intro hnew
    have hcounts := hnew.counts w.ip
    have htotal := hnew.total
    rw [clientsOf_register] at hcounts
    simp [register] at hcounts htotal
    omega
  · rintro ⟨hread, hroom⟩
    constructor
    case counts =>
      intro ip
      rw [clientsOf_register]
      by_cases hip : ip = w.ip
      · subst hip
        simp [register, ← hcount, hread]
      · simp [register, AList.lookup_insert_ne hip, Ne.symm hip, h.counts ip]
    case total =>
      simp [register]
      omega
    case perIp =>
      intro ip
      have hold := h.perIp ip
      rw [clientsOf_register]
      by_cases hip : w.ip = ip
      · subst hip
        simp only [if_true]
        omega
      · simpa [hip] using hold

theorem clientsOf_doClose {client : StreamClient} (hopen : client ∈ s.connectedClients) (ip : String) :
    (s.doClose client).clientsOf ip = s.clientsOf ip - if client.ip = ip then 1 else 0 := by
  rw [clientsOf, doClose, if_pos hopen]
  by_cases hip : client.ip = ip <;> simp [clientsOf, List.countP_erase, hopen, hip]

theorem Exact.doClose (h : Exact limits s) (client : StreamClient) : Exact limits (s.doClose client) := by
  by_cases hopen : client ∈ s.connectedClients
  · have hof := clientsOf_doClose hopen
    have hcount := h.ipCount client.ip
    constructor
    case counts =>
      intro ip
      rw [hof]
      simp only [StreamTrackers.doClose, hopen, if_true]
      by_cases hip : ip = client.ip
      · subst hip
        by_cases hone : s.clientsOf client.ip ≤ 1
        · have hnone : s.clientsOf client.ip - 1 = 0 := by omega
          simp [hcount, hone, hnone]
        · have hsome : s.clientsOf client.ip - 1 ≠ 0 := by omega
          simp [hcount, hone, hsome]
      · by_cases hone : s.ipCount client.ip ≤ 1 <;>
          simp [hone, AList.lookup_erase_ne hip, AList.lookup_insert_ne hip, Ne.symm hip, h.counts ip]
    case total =>
      have htotal := h.total
      simp only [StreamTrackers.doClose, hopen, if_true, List.length_erase_of_mem hopen]
      omega
    case perIp =>
      intro ip
      have hold := h.perIp ip
      rw [hof]
      omega
  · rw [StreamTrackers.doClose, if_neg hopen]
    exact h

/-- The handshakes that wait have found room at their address. -/
def Admitted (limits : StreamLimits) (s : StreamTrackers) : Prop :=
  ∀ w ∈ s.waiting, w.ipCount < limits.maxConnectionsPerIp

/-- What a handshake that waits has read, and that its address had room. -/
theorem checkCaps_eq_ok {channels : Except String (Option (List StreamChannel))} {w : Handshake}
    (h : s.checkCaps limits ip channels = .ok w) :
    w.ip = ip ∧ w.ipCount = s.ipCount ip ∧ s.connectedClients.length < limits.maxConnections ∧
      s.ipCount ip < limits.maxConnectionsPerIp := by
  cases channels with
  | error error => cases h
  | ok channels =>
    by_cases hfull : limits.maxConnections ≤ s.connectedClients.length
    · simp [checkCaps, Except.mapError, hfull, bind, Except.bind, throw, throwThe, MonadExceptOf.throw] at h
    · by_cases hcrowded : limits.maxConnectionsPerIp ≤ s.ipCount ip
      · simp [checkCaps, Except.mapError, hfull, hcrowded, bind, Except.bind, throw,
          throwThe, MonadExceptOf.throw] at h
      · simp [checkCaps, Except.mapError, hfull, hcrowded] at h
        subst h
        exact ⟨rfl, rfl, by omega, by omega⟩

/-- A handshake that does not have to wait comes in time. -/
theorem inTime_prompt {channels : Except String (Option (List StreamChannel))} {w : Handshake}
    (h : s.checkCaps limits ip channels = .ok w) : (s.request limits ip channels).InTime limits (.resume w true) := by
  obtain ⟨hip, hread, hroom, -⟩ := checkCaps_eq_ok h
  intro _
  simp only [request, h, StreamTrackers.ipCount] at hread ⊢
  rw [hip, hread]
  exact ⟨rfl, hroom⟩

theorem Admitted.request (h : Admitted limits s) (ip : String)
    (channels : Except String (Option (List StreamChannel))) : Admitted limits (s.request limits ip channels) := by
  unfold StreamTrackers.request
  cases hchecked : s.checkCaps limits ip channels with
  | error refusal => exact h
  | ok w =>
    intro w' hw'
    rcases List.mem_append.mp hw' with hold | hnew
    · exact h w' hold
    · obtain ⟨-, hread, -, hroom⟩ := checkCaps_eq_ok hchecked
      rw [List.mem_singleton.mp hnew, hread]
      exact hroom

theorem Admitted.act (h : Admitted limits s) (e : Event) : Admitted limits (s.act limits e) := by
  cases e with
  | request ip channels => exact h.request ip channels
  | resume w listening =>
    intro w' hw'
    apply h w'
    by_cases hwaits : w ∈ s.waiting
    · have hleft : w' ∈ s.waiting.erase w := by
        cases listening <;> simpa [StreamTrackers.act, resume, register, hwaits] using hw'
      exact List.mem_of_mem_erase hleft
    · simpa [StreamTrackers.act, resume, hwaits] using hw'
  | close client =>
    intro w' hw'
    apply h w'
    by_cases hopen : client ∈ s.connectedClients
    · simpa [StreamTrackers.act, StreamTrackers.doClose, hopen] using hw'
    · simpa [StreamTrackers.act, StreamTrackers.doClose, hopen] using hw'

/-- A step keeps everything exact if and only if no wait ends late in it. -/
theorem exact_act (h : Exact limits s) (hw : Admitted limits s) (e : Event) :
    Exact limits (s.act limits e) ↔ s.InTime limits e := by
  cases e with
  | request ip channels =>
    simp only [InTime, iff_true, StreamTrackers.act, request]
    cases s.checkCaps limits ip channels with
    | error refusal => exact h
    | ok w => exact h.congr rfl rfl
  | close client => exact iff_of_true (h.doClose client) trivial
  | resume w listening =>
    by_cases hwaits : w ∈ s.waiting
    · have hsame : Exact limits { s with waiting := s.waiting.erase w } := h.congr rfl rfl
      cases listening with
      | false => simpa [InTime, StreamTrackers.act, resume, hwaits] using hsame
      | true =>
        have hregister := exact_register hsame (hw w hwaits)
        simpa [InTime, StreamTrackers.act, resume, StreamTrackers.ipCount, hwaits] using hregister
    · cases listening <;> simpa [InTime, StreamTrackers.act, resume, hwaits] using h

theorem admitted_after (limits : StreamLimits) (past : List Event) : Admitted limits (after limits past) := by
  refine Runs.all_along (fun w hw => ?_) (fun past e _ h => h.act e) List.prefix_rfl
  simp at hw

/-- **The caps and the counters are exact** in every state of a run if and only if every wait in it ends in
time. -/
theorem caps_exact (limits : StreamLimits) (events : List Event) :
    (∀ past, past <+: events → Exact limits (after limits past)) ↔
      ∀ past e, past ++ [e] <+: events → (after limits past).InTime limits e := by
  constructor
  · intro hexact past e hpast
    have hbefore := hexact past (Runs.prefix_of_snoc hpast)
    have hafter := hexact (past ++ [e]) hpast
    rw [after, List.foldl_concat] at hafter
    exact (exact_act hbefore (admitted_after limits past) e).mp hafter
  · intro htime past hpast
    refine Runs.all_along exact_start (fun past e hpast hbefore => ?_) hpast
    exact (exact_act hbefore (admitted_after limits past) e).mpr (htime past e hpast)

/-- Three handshakes of one address that wait for the listener together. -/
def together : List Event :=
  [.request "::1" (.ok none), .request "::1" (.ok none), .request "::1" (.ok none),
    .resume ⟨0, "::1", 0, none⟩ true, .resume ⟨1, "::1", 0, none⟩ true, .resume ⟨2, "::1", 0, none⟩ true]

/-- A client closes while a second handshake of its address waits; then the second client closes as well. -/
def inTurns : List Event :=
  [.request "::1" (.ok none), .resume ⟨0, "::1", 0, none⟩ true, .request "::1" (.ok none), .close ⟨0, "::1"⟩,
    .resume ⟨1, "::1", 1, none⟩ true, .close ⟨1, "::1"⟩]

/-- Handshakes that wait together all pass caps of two and of one and are counted as one client; an address
whose client closed while it waited stays counted for good. -/
theorem handshakes_pass_the_caps :
    (after ⟨2, 1, 30⟩ together).connectedClients.length = 3 ∧
      (after ⟨2, 1, 30⟩ together).connectionsByIp.lookup "::1" = some 1 ∧
      (after ⟨100, 10, 30⟩ inTurns).connectedClients = [] ∧
      (after ⟨100, 10, 30⟩ inTurns).connectionsByIp.lookup "::1" = some 1 ∧
      ¬ Exact ⟨2, 1, 30⟩ (after ⟨2, 1, 30⟩ together) ∧ ¬ Exact ⟨100, 10, 30⟩ (after ⟨100, 10, 30⟩ inTurns) := by
  have hcrowd : (after ⟨2, 1, 30⟩ together).connectedClients.length = 3 := by decide
  have hleft : (after ⟨100, 10, 30⟩ inTurns).connectionsByIp.lookup "::1" = some 1 := by decide
  have hnone : (after ⟨100, 10, 30⟩ inTurns).connectedClients = [] := by decide
  constructor
  · exact hcrowd
  refine ⟨by decide, hnone, hleft, fun h => ?_, fun h => ?_⟩
  · have htotal := h.total
    simp [hcrowd] at htotal
  · have hcounts := h.counts "::1"
    simp [hleft, clientsOf, hnone] at hcounts

end StreamTrackers

end OurDao
