import OurDao.Runs
import OurDao.SseClients

/-!
# Backpressure and closing, over whole runs

The queue of a client is bounded, a client that is paused has its stall timer armed, and the
first `close` ends it: whatever comes after, nothing is written, no timer is armed, and the
trackers have let it go once.
-/

namespace OurDao

namespace Sse

namespace Clients

/-- The trackers after these moves, from nothing. -/
def replay (moves : List Move) : StreamTrackers :=
  moves.foldl (fun s move => match move with
    | .register w => s.register w
    | .leave client => s.doClose client) {}

/-- What is asked of every client of a run. -/
structure ClosesCleanly (limits : StreamLimits) (events : List Event) : Prop where
  bounded : ∀ k c, (after limits events).clients k = some c → c.queue.length ≤ MAX_QUEUED_MESSAGES
  stalls : ∀ k c, (after limits events).clients k = some c → c.paused = true → c.closed = false → c.stallTimer = true
  /-- after `close` nothing is written, now or later, and no timer is armed -/
  silent : ∀ k c, (after limits events).clients k = some c → c.released = true →
    ∀ more, ∃ c', (after limits (events ++ more)).clients k = some c' ∧ c'.written = c.written ∧ c'.armed = false
  closes : ∀ k c, (after limits events).clients k = some c →
    ∃ c', (after limits (events ++ [.close k])).clients k = some c' ∧ c'.released = true
  /-- nothing but registrations and departures changes the trackers, and a client departs when it is closed, once -/
  trackers : (after limits events).trackers.connectedClients = (replay (after limits events).moves).connectedClients ∧
    (after limits events).trackers.connectionsByIp = (replay (after limits events).moves).connectionsByIp
  leaves : ∀ k c, (after limits events).clients k = some c →
    (c.self ∈ (after limits events).trackers.connectedClients ↔ c.released = false) ∧
      (after limits events).moves.count (.leave c.self) = if c.released then 1 else 0

variable {limits : StreamLimits} {s s' : Clients} {k : Nat} {c : Client}

/-- Every client is as it should be, and the trackers hold those that have not left. -/
structure Sound (s : Clients) : Prop where
  clean : ∀ k c, s.clients k = some c → c.Clean ∧ c.self.id = k ∧ k < s.trackers.handshakes
  waiting : (s.trackers.waiting.map (·.id)).Nodup
  unborn : ∀ w ∈ s.trackers.waiting, w.id < s.trackers.handshakes ∧ s.clients w.id = none
  nodup : s.trackers.connectedClients.Nodup
  connected : ∀ client, client ∈ s.trackers.connectedClients ↔
    ∃ c, s.clients client.id = some c ∧ c.self = client ∧ c.released = false
  left : ∀ k c, s.clients k = some c → s.moves.count (.leave c.self) = if c.released then 1 else 0
  absent : ∀ client, s.clients client.id = none → s.moves.count (.leave client) = 0
  replayed : s.trackers.connectedClients = (replay s.moves).connectedClients ∧
    s.trackers.connectionsByIp = (replay s.moves).connectionsByIp

/-- Those that were released write nothing more, and the others hear the channels they heard. -/
structure Later (s s' : Clients) : Prop where
  silent : ∀ k c, s.clients k = some c → c.released = true →
    ∃ c', s'.clients k = some c' ∧ c'.released = true ∧ c'.written = c.written
  stays : ∀ k c, s.clients k = some c → c.released = false →
    ∃ c', s'.clients k = some c' ∧ (c'.released = false → c'.channels = c.channels)

theorem Later.refl (s : Clients) : s.Later s :=
  ⟨fun _ c hc hr => ⟨c, hc, hr, rfl⟩, fun _ c hc _ => ⟨c, hc, fun _ => rfl⟩⟩

theorem Later.trans {s'' : Clients} (h : s.Later s') (h' : s'.Later s'') : s.Later s'' where
  silent k c hc hr := by
    obtain ⟨c', hc', hr', hwritten⟩ := h.silent k c hc hr
    obtain ⟨c'', hc'', hr'', hwritten'⟩ := h'.silent k c' hc' hr'
    exact ⟨c'', hc'', hr'', hwritten'.trans hwritten⟩
  stays k c hc hr := by
    obtain ⟨c', hc', hchannels⟩ := h.stays k c hc hr
    cases hr' : c'.released with
    | true =>
      obtain ⟨c'', hc'', hr'', -⟩ := h'.silent k c' hc' hr'
      exact ⟨c'', hc'', fun ho => absurd (ho.symm.trans hr'') (by simp)⟩
    | false =>
      obtain ⟨c'', hc'', hchannels'⟩ := h'.stays k c' hc' hr'
      exact ⟨c'', hc'', fun ho => (hchannels' ho).trans (hchannels hr')⟩

/-- Every client there was is as it was. -/
theorem Later.of_eq (h : ∀ k c, s.clients k = some c → s'.clients k = some c) : s.Later s' :=
  ⟨fun k c hc hr => ⟨c, h k c hc, hr, rfl⟩, fun k c hc _ => ⟨c, h k c hc, fun _ => rfl⟩⟩

theorem replay_snoc (moves : List Move) (move : Move) : replay (moves ++ [move]) = match move with
    | .register w => (replay moves).register w
    | .leave client => (replay moves).doClose client := List.foldl_concat _ _ _ _

/-- What a departure does to the trackers depends on nothing else of them. -/
theorem doClose_congr {t t' : StreamTrackers} (hclients : t.connectedClients = t'.connectedClients)
    (hcounts : t.connectionsByIp = t'.connectionsByIp) (client : StreamClient) :
    (t.doClose client).connectedClients = (t'.doClose client).connectedClients ∧
      (t.doClose client).connectionsByIp = (t'.doClose client).connectionsByIp := by
  unfold StreamTrackers.doClose StreamTrackers.ipCount
  rw [hclients, hcounts]
  split
  next => exact ⟨rfl, rfl⟩
  next => exact ⟨hclients, hcounts⟩

theorem doClose_frame (t : StreamTrackers) (client : StreamClient) :
    (t.doClose client).waiting = t.waiting ∧ (t.doClose client).handshakes = t.handshakes ∧
      (t.doClose client).connectedClients = t.connectedClients.erase client := by
  unfold StreamTrackers.doClose
  split
  next => exact ⟨rfl, rfl, rfl⟩
  next hgone => exact ⟨rfl, rfl, (List.erase_of_not_mem hgone).symm⟩

/-- A client that is still registered is among the connected clients. -/
theorem Sound.mem_connected (h : s.Sound) (hc : s.clients k = some c) (ho : c.released = false) :
    c.self ∈ s.trackers.connectedClients := by
  refine (h.connected c.self).mpr ⟨c, ?_, rfl, ho⟩
  rw [(h.clean k c hc).2.1]
  exact hc

@[simp] theorem put_trackers (scope : Scope) : (s.put k scope).trackers = scope.trackers := rfl

@[simp] theorem put_moves (scope : Scope) : (s.put k scope).moves = scope.moves := rfl

/-- With one client put, the others are those there were. -/
theorem forall_put {P : Nat → Client → Prop} {scope : Scope} (hnew : P k scope.client)
    (hold : ∀ j d, j ≠ k → s.clients j = some d → P j d) :
    ∀ j d, (s.put k scope).clients j = some d → P j d := by
  intro j d hd
  by_cases hj : j = k
  · subst hj
    obtain rfl : scope.client = d := by simpa [put] using hd
    exact hnew
  · exact hold j d hj (by simpa [put, hj] using hd)

theorem put_none {scope : Scope} {j : Nat} (h : (s.put k scope).clients j = none) : j ≠ k ∧ s.clients j = none := by
  by_cases hj : j = k
  · simp [put, hj] at h
  · exact ⟨hj, by simpa [put, hj] using h⟩

/-- A callback of a client that stays, or has left before. -/
theorem Sound.stays (h : s.Sound) (hc : s.clients k = some c) {c' : Client} (hclean : c'.Clean)
    (hself : c'.self = c.self) (hreleased : c'.released = c.released) :
    (s.put k ⟨c', s.trackers, s.moves⟩).Sound := by
  obtain ⟨-, hid, hborn⟩ := h.clean k c hc
  constructor
  case clean => exact forall_put ⟨hclean, hself ▸ hid, hborn⟩ fun j d _ hd => h.clean j d hd
  case waiting => exact h.waiting
  case unborn =>
    intro w hw
    obtain ⟨hlt, hnone⟩ := h.unborn w hw
    have hne : w.id ≠ k := by
      rintro rfl
      simp [hc] at hnone
    exact ⟨hlt, by simpa [put, hne] using hnone⟩
  case nodup => exact h.nodup
  case connected =>
    intro client
    refine (h.connected client).trans ?_
    by_cases hj : client.id = k
    · rw [hj]
      simp [put, hc, hself, hreleased]
    · simp [put, hj]
  case left =>
    refine forall_put ?_ fun j d _ hd => h.left j d hd
    rw [hself, hreleased]
    exact h.left k c hc
  case absent => exact fun client hnone => h.absent client (put_none hnone).2
  case replayed => exact h.replayed

/-- A callback with which a client leaves. -/
theorem Sound.leaves (h : s.Sound) (hc : s.clients k = some c) {c' : Client} (hclean : c'.Clean)
    (hself : c'.self = c.self) (ho : c.released = false) (hreleased : c'.released = true) :
    (s.put k ⟨c', s.trackers.doClose c.self, s.moves ++ [.leave c.self]⟩).Sound := by
  obtain ⟨-, hid, hborn⟩ := h.clean k c hc
  obtain ⟨hwaiting, hhandshakes, herase⟩ := doClose_frame s.trackers c.self
  have hother : ∀ client : StreamClient, client.id ≠ k → client ≠ c.self := by
    rintro client hne rfl
    exact hne hid
  constructor
  case clean =>
    simp only [put_trackers, hhandshakes]
    exact forall_put ⟨hclean, hself ▸ hid, hborn⟩ fun j d _ hd => h.clean j d hd
  case waiting => simpa [put, hwaiting] using h.waiting
  case unborn =>
    intro w hw
    simp only [put, hwaiting, hhandshakes] at hw ⊢
    obtain ⟨hlt, hnone⟩ := h.unborn w hw
    have hne : w.id ≠ k := by
      rintro rfl
      simp [hc] at hnone
    exact ⟨hlt, by simpa [hne] using hnone⟩
  case nodup =>
    simp only [put, herase]
    exact h.nodup.erase _
  case connected =>
    intro client
    simp only [put, herase]
    rw [h.nodup.mem_erase_iff, h.connected client]
    by_cases hj : client.id = k
    · rw [hj, hc]
      simp only [if_true, Option.some.injEq]
      constructor
      · rintro ⟨hne, d, rfl, rfl, -⟩
        exact absurd rfl hne
      · rintro ⟨d, rfl, rfl, hr⟩
        rw [hreleased] at hr
        cases hr
    · simp [hj, hother client hj]
  case left =>
    simp only [put_moves, List.count_append]
    refine forall_put ?_ fun j d hj hd => ?_
    · rw [hself, h.left k c hc]
      simp [ho, hreleased]
    · have hne : c.self ≠ d.self := by
        intro heq
        exact hj ((h.clean j d hd).2.1.symm.trans (heq ▸ hid))
      rw [h.left j d hd]
      simp [hne]
  case absent =>
    intro client hnone
    obtain ⟨hj, hgone⟩ := put_none hnone
    have hne := hother client hj
    rw [put_moves, List.count_append, h.absent client hgone]
    simp [Ne.symm hne]
  case replayed =>
    simp only [put, replay_snoc]
    exact doClose_congr h.replayed.1 h.replayed.2 c.self

theorem Sound.onClient (h : s.Sound) (k : Nat) {f : Scope → Scope}
    (hf : ∀ scope : Scope, scope.client.Clean → scope.Keeps (f scope)) :
    (s.onClient k f).Sound ∧ s.Later (s.onClient k f) := by
  unfold Clients.onClient
  cases hc : s.clients k with
  | none => exact ⟨h, .refl s⟩
  | some c =>
    obtain ⟨hclean, hself, hsilent, hmoved⟩ := hf (s.scope c) (h.clean k c hc).1
    have hfound : (s.put k (f (s.scope c))).clients k = some (f (s.scope c)).client := by simp [put]
    have hothers : ∀ j d, j ≠ k → s.clients j = some d → (s.put k (f (s.scope c))).clients j = some d := by
      intro j d hj hd
      simpa [put, hj] using hd
    refine ⟨?_, fun j d hd hr => ?_, fun j d hd hr => ?_⟩
    · obtain ⟨hsame, htrackers, hmoves⟩ | ⟨ho, hreleased, htrackers, hmoves⟩ := hmoved
      · have hstays := h.stays hc hclean hself hsame.released
        rwa [show s.trackers = (f (s.scope c)).trackers from htrackers.symm,
          show s.moves = (f (s.scope c)).moves from hmoves.symm] at hstays
      · have hleaves := h.leaves hc hclean hself ho hreleased
        replace hmoves : (f (s.scope c)).moves = s.moves ++ [.leave c.self] :=
          hmoves.trans (if_pos (h.mem_connected hc ho))
        rwa [show s.trackers.doClose c.self = (f (s.scope c)).trackers from htrackers.symm,
          ← hmoves] at hleaves
    · by_cases hj : j = k
      · subst hj
        obtain rfl : c = d := Option.some.inj (hc.symm.trans hd)
        obtain ⟨hreleased, hwritten⟩ := hsilent hr
        exact ⟨_, hfound, hreleased, hwritten⟩
      · exact ⟨d, hothers j d hj hd, hr, rfl⟩
    · by_cases hj : j = k
      · subst hj
        obtain rfl : c = d := Option.some.inj (hc.symm.trans hd)
        refine ⟨_, hfound, fun ho => ?_⟩
        obtain ⟨hsame, -⟩ | ⟨-, hreleased, -⟩ := hmoved
        · exact hsame.channels
        · exact absurd (ho.symm.trans hreleased) (by simp)
      · exact ⟨d, hothers j d hj hd, fun _ => rfl⟩

theorem Sound.onConnected (h : s.Sound) {f : Nat → Scope → Scope}
    (hf : ∀ k, ∀ scope : Scope, scope.client.Clean → scope.Keeps (f k scope)) :
    (s.onConnected f).Sound ∧ s.Later (s.onConnected f) := by
  unfold Clients.onConnected
  generalize s.trackers.connectedClients = clients
  induction clients generalizing s with
  | nil => exact ⟨h, .refl s⟩
  | cons client clients ih =>
    obtain ⟨hfirst, hlater⟩ := h.onClient client.id (hf client.id)
    obtain ⟨hrest, hlater'⟩ := ih hfirst
    exact ⟨hrest, hlater.trans hlater'⟩

theorem checkCaps_id {trackers : StreamTrackers} {ip : String}
    {channels : Except String (Option (List StreamChannel))} {w : Handshake}
    (h : trackers.checkCaps limits ip channels = .ok w) : w.id = trackers.handshakes := by
  cases channels with
  | error error => cases h
  | ok channels =>
    by_cases hfull : limits.maxConnections ≤ trackers.connectedClients.length
    · simp [StreamTrackers.checkCaps, Except.mapError, hfull, bind, Except.bind, throw, throwThe,
        MonadExceptOf.throw] at h
    · by_cases hcrowded : limits.maxConnectionsPerIp ≤ trackers.ipCount ip
      · simp [StreamTrackers.checkCaps, Except.mapError, hfull, hcrowded, bind, Except.bind, throw, throwThe,
          MonadExceptOf.throw] at h
      · simp [StreamTrackers.checkCaps, Except.mapError, hfull, hcrowded] at h
        rw [← h]

/-- A handshake counts itself when it begins. -/
theorem Sound.request (h : s.Sound) (ip : String) (channels : Except String (Option (List StreamChannel))) :
    Sound { s with trackers := s.trackers.request limits ip channels } := by
  unfold StreamTrackers.request
  cases hchecked : s.trackers.checkCaps limits ip channels with
  | error refusal => exact h
  | ok w =>
    have hid := checkCaps_id hchecked
    constructor
    case clean =>
      intro k c hc
      obtain ⟨hclean, hself, hborn⟩ := h.clean k c hc
      exact ⟨hclean, hself, Nat.lt_succ_of_lt hborn⟩
    case waiting =>
      rw [List.map_append, List.nodup_append]
      refine ⟨h.waiting, by simp, ?_⟩
      simp only [List.map_cons, List.map_nil, List.mem_singleton, List.mem_map]
      rintro _ ⟨w', hw', rfl⟩ _ rfl heq
      have hlt := (h.unborn w' hw').1
      omega
    case unborn =>
      intro w' hw'
      obtain hold | hnew := List.mem_append.mp hw'
      · obtain ⟨hlt, hnone⟩ := h.unborn w' hold
        exact ⟨Nat.lt_succ_of_lt hlt, hnone⟩
      · rw [List.mem_singleton.mp hnew, hid]
        refine ⟨Nat.lt_succ_self _, Option.eq_none_iff_forall_ne_some.mpr fun c hc => ?_⟩
        exact absurd (h.clean _ c hc).2.2 (lt_irrefl _)
    case nodup => exact h.nodup
    case connected => exact h.connected
    case left => exact h.left
    case absent => exact h.absent
    case replayed => exact h.replayed

/-- A registered client starts. -/
theorem Sound.register (h : s.Sound) {w : Handshake} (hw : w ∈ s.trackers.waiting) {c : Client} (hclean : c.Clean)
    (hself : c.self = ⟨w.id, w.ip⟩) (hreleased : c.released = false) :
    (s.put w.id ⟨c, s.trackers.resume w true, s.moves ++ [.register w]⟩).Sound := by
  obtain ⟨hborn, hnone⟩ := h.unborn w hw
  have hresume : s.trackers.resume w true = { s.trackers with
      waiting := s.trackers.waiting.erase w
      connectedClients := s.trackers.connectedClients ++ [⟨w.id, w.ip⟩]
      connectionsByIp := s.trackers.connectionsByIp.insert w.ip (w.ipCount + 1) } := by
    simp [StreamTrackers.resume, hw, StreamTrackers.register]
  rw [hresume]
  constructor
  case clean => exact forall_put ⟨hclean, by rw [hself], hborn⟩ fun j d _ hd => h.clean j d hd
  case waiting => exact h.waiting.sublist (List.Sublist.map _ List.erase_sublist)
  case unborn =>
    intro w' hw'
    have hne : w'.id ≠ w.id := by
      intro heq
      obtain rfl := List.inj_on_of_nodup_map h.waiting (List.mem_of_mem_erase hw') hw heq
      exact (List.Nodup.mem_erase_iff (List.Nodup.of_map _ h.waiting)).mp hw' |>.1 rfl
    obtain ⟨hlt, hnone'⟩ := h.unborn w' (List.mem_of_mem_erase hw')
    exact ⟨hlt, by simpa [put, hne] using hnone'⟩
  case nodup =>
    simp only [put]
    rw [List.nodup_append]
    refine ⟨h.nodup, by simp, ?_⟩
    rintro client hclient _ hnew rfl
    obtain rfl := List.mem_singleton.mp hnew
    obtain ⟨d, hd, -⟩ := (h.connected _).mp hclient
    rw [hnone] at hd
    cases hd
  case connected =>
    intro client
    simp only [put, List.mem_append, List.mem_singleton, h.connected client]
    by_cases hj : client.id = w.id
    · simp only [hj, hnone, if_true]
      constructor
      · rintro (⟨d, hd, -⟩ | rfl)
        · cases hd
        · exact ⟨c, rfl, hself, hreleased⟩
      · rintro ⟨_, heq, rfl, -⟩
        cases heq
        exact .inr hself
    · have hne : client ≠ ⟨w.id, w.ip⟩ := by
        rintro rfl
        exact hj rfl
      simp [hj, hne]
  case left =>
    simp only [put_moves, List.count_append, List.count_singleton]
    refine forall_put ?_ fun j d _ hd => ?_
    · rw [h.absent c.self (by rw [hself]; exact hnone), hreleased]
      simp
    · rw [h.left j d hd]
      simp
  case absent =>
    intro client hgone
    rw [put_moves, List.count_append, List.count_singleton, h.absent client (put_none hgone).2]
    simp
  case replayed =>
    simp only [put, replay_snoc, StreamTrackers.register]
    exact ⟨by rw [h.replayed.1], by rw [h.replayed.2]⟩

theorem Sound.resume (h : s.Sound) (w : Handshake) (listening : Bool) (lastEventId : Option String)
    (knownLedger : Option JsonNumber) (io : Nat → Write) :
    (s.resume w listening lastEventId knownLedger io).Sound ∧
      s.Later (s.resume w listening lastEventId knownLedger io) := by
  unfold Clients.resume
  dsimp only
  split
  next hstarts =>
    obtain ⟨hw, rfl⟩ := hstarts
    obtain ⟨hkeeps, hopen⟩ := Scope.keeps_start io
      (w.channels.getD [.members, .loan_proposals, .loans, .treasury_proposals, .interest]) lastEventId knownLedger
      (s := ⟨{ self := ⟨w.id, w.ip⟩ }, s.trackers.resume w true, s.moves ++ [.register w]⟩) rfl
    generalize Scope.start io _ lastEventId knownLedger _ = started at hkeeps hopen ⊢
    obtain ⟨c, trackers, moves⟩ := started
    obtain ⟨-, rfl, rfl⟩ := hkeeps.moved.resolve_right fun hleft =>
      absurd (hleft.2.1.symm.trans hopen) (by simp)
    refine ⟨h.register hw hkeeps.clean hkeeps.self hopen, .of_eq fun j d hd => ?_⟩
    have hne : j ≠ w.id := by
      rintro rfl
      simp [(h.unborn w hw).2] at hd
    simpa [put, hne] using hd
  next hfails =>
    refine ⟨?_, .of_eq fun j d hd => hd⟩
    unfold StreamTrackers.resume
    split
    next hw =>
      rw [if_neg fun hl => hfails ⟨hw, hl⟩]
      have hsub : (s.trackers.waiting.erase w).Sublist s.trackers.waiting := List.erase_sublist
      exact ⟨h.clean, h.waiting.sublist (hsub.map _), fun w' hw' => h.unborn w' (hsub.subset hw'), h.nodup,
        h.connected, h.left, h.absent, h.replayed⟩
    next => exact h

/-- Whatever comes, every client is as it should be. -/
theorem Sound.act (h : s.Sound) (e : Event) : (s.act limits e).Sound ∧ s.Later (s.act limits e) := by
  cases e with
  | request ip channels => exact ⟨h.request ip channels, .of_eq fun k c hc => hc⟩
  | resume w listening lastEventId knownLedger io => exact h.resume w listening lastEventId knownLedger io
  | deliver io channel payload =>
    exact h.onConnected fun k scope hclean => Scope.keeps_receiveNotification (io k) hclean channel payload
  | connectionLost io => exact h.onConnected fun k scope hclean => Scope.keeps_receiveAll (io k) hclean _ _
  | drain io k => exact h.onClient k fun scope hclean => Scope.keeps_drain io hclean
  | heartbeat io k =>
    exact h.onClient k fun scope hclean => Scope.keeps_ifArmed hclean fun _ => Scope.keeps_heartbeat io hclean
  | heartbeatRetry io k =>
    exact h.onClient k fun scope hclean => Scope.keeps_ifArmed hclean fun harmed =>
      Scope.keeps_heartbeatRetry io hclean harmed
  | stall k =>
    exact h.onClient k fun scope hclean => Scope.keeps_ifArmed hclean fun harmed => Scope.keeps_stall hclean harmed
  | close k => exact h.onClient k fun scope hclean => Scope.keeps_close hclean

theorem sound_start : Sound {} where
  clean k c hc := by cases hc
  waiting := List.nodup_nil
  unborn w hw := by cases hw
  nodup := List.nodup_nil
  connected client := by simp
  left k c hc := by cases hc
  absent client _ := rfl
  replayed := ⟨rfl, rfl⟩

theorem sound_after (limits : StreamLimits) (events : List Event) : (after limits events).Sound :=
  Runs.all_along sound_start (fun _ e _ h => (h.act e).1) List.prefix_rfl

theorem later_after (limits : StreamLimits) (events more : List Event) :
    (after limits events).Later (after limits (events ++ more)) :=
  Runs.ever_after (List.prefix_append events more) (Later.refl _) fun later e _ _ h =>
    h.trans ((sound_after limits later).act e).2

/-- **Backpressure is bounded and closing is clean**, in every run. -/
theorem closes_cleanly (limits : StreamLimits) (events : List Event) : ClosesCleanly limits events := by
  have hsound := sound_after limits events
  constructor
  case bounded => exact fun k c hc => (hsound.clean k c hc).1.bounded
  case stalls => exact fun k c hc => (hsound.clean k c hc).1.stalls
  case silent =>
    intro k c hc hr more
    obtain ⟨c', hc', hr', hwritten⟩ := (later_after limits events more).silent k c hc hr
    have hclean := ((sound_after limits (events ++ more)).clean k c' hc').1
    exact ⟨c', hc', hwritten, (hclean.released hr').2.2⟩
  case closes =>
    intro k c hc
    refine ⟨((after limits events).scope c).close.client, ?_, ?_⟩
    · rw [after, List.foldl_concat, ← after, Clients.act, Clients.onClient, hc]
      simp [put]
    · cases hr : c.released with
      | true => simp [Scope.close, scope, hr]
      | false => exact (Scope.close_of_open hr).1
  case trackers => exact hsound.replayed
  case leaves =>
    intro k c hc
    refine ⟨⟨fun hmem => ?_, fun ho => hsound.mem_connected hc ho⟩, hsound.left k c hc⟩
    obtain ⟨d, hd, -, ho⟩ := (hsound.connected c.self).mp hmem
    rw [(hsound.clean k c hc).2.1, hc] at hd
    exact Option.some.inj hd ▸ ho

end Clients

end Sse

end OurDao
