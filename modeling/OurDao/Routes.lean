import OurDao.Auth
import OurDao.Worker

/-!
# The routes that write

Five routes change rows. Each authenticates its caller, does its work and leaves a row
in `admin_audit_log`, in an order of its own. `Site` is what they work on: the indexer's
database and surroundings, the store of nonces, and the columns only they write.
-/

namespace OurDao

open Faults Op

/-- A row of `admin_audit_log`. -/
structure AdminAuditLogRow where
  admin_address : String
  action : String
  ip_address : Option String
  payload : Json

/-- Where nonces are kept. -/
structure NonceStore (ν : Type) where
  consume : String → String → Op ν Failure Bool

/-- The rows of every table but `auth_nonces`. -/
structure Rows where
  db : Db := {}
  admin_audit_log : List AdminAuditLogRow := []
  /-- the `id` of a row of `failed_events` -/
  failed_event_ids : Table String Nat := ∅
  /-- the `resolution_note` of a row of `failed_events` -/
  resolution_notes : Table String String := ∅

structure Site (ρ ν : Type) where
  world : World ρ
  nonces : ν
  admin_audit_log : List AdminAuditLogRow := []
  failed_event_ids : Table String Nat := ∅
  resolution_notes : Table String String := ∅

namespace Site

variable {ρ ν α : Type}

def rows (s : Site ρ ν) : Rows where
  db := s.world.db
  admin_audit_log := s.admin_audit_log
  failed_event_ids := s.failed_event_ids
  resolution_notes := s.resolution_notes

def onWorld (m : Proc ρ α) : Op (Site ρ ν) Failure α := fun s =>
  ((m s.world).1, { s with world := (m s.world).2 })

def onNonces (m : Op ν Failure α) : Op (Site ρ ν) Failure α := fun s =>
  ((m s.nonces).1, { s with nonces := (m s.nonces).2 })

end Site

open Site

/-- The headers of a request, by name. -/
abbrev Headers : Type := String → Option String

structure BatchResolveBody where
  /-- none where it is no array; an entry that is no integer is none -/
  ids : Option (List (Option Int))
  /-- none where it is no string -/
  resolution : Option String
  /-- none where it is absent, `some none` where it is no string -/
  note : Option (Option String)

/-- A request to a route that writes. -/
inductive Mutation where
  /-- `PATCH /notifications/:id/read` -/
  | markRead (id : String)
  /-- `PATCH /notifications/read-all?address=…` -/
  | markAllRead (address : Option String)
  /-- `POST /admin/failed-events/:id/re-evaluate` -/
  | reEvaluate (id : String)
  /-- `POST /admin/failed-events/batch-resolve` -/
  | batchResolve (body : Option BatchResolveBody)
  /-- `POST /admin/clear-reorg` -/
  | clearReorg

inductive Reply where
  | refused (status : Nat) (error : String)
  | notification (address : String) (row : NotificationRow)
  | updated (count : Nat)
  | replay (status : Nat) (eventId : String) (outcome : ReplayOutcome)
  | resolved (count : Nat)
  | cleared (halt : Option ReorgHalt) (count : Nat)

/-- `UPDATE notifications SET read = true WHERE … RETURNING …`. -/
def updateRead (p : String × String → NotificationRow → Bool) :
    Tx (List ((String × String) × NotificationRow)) := fun db =>
  .ok (((Table.rows db.tables.notifications).filter fun r => p r.1 r.2).map
      fun r => (r.1, { r.2 with read := true }),
    { db with tables := { db.tables with
      notifications := db.tables.notifications.mapRows fun k row =>
        if p k row then { row with read := true } else row } })

/-- `SELECT * FROM notifications WHERE id = $1`. -/
def selectNotification (id : Nat) : Tx (Option ((String × String) × NotificationRow)) := fun db =>
  .ok ((Table.rows db.tables.notifications).find? fun r => r.2.id = id, db)

def trim (s : String) : String :=
  String.ofList ((s.toList.dropWhile JsNumber.isSpace).reverse.dropWhile JsNumber.isSpace).reverse

/-- A positive safe integer in decimal digits. -/
def notificationId (s : String) : Option Nat :=
  (JsNumber.digits 10 (trim s).toList).filter fun n => 0 < n ∧ n < 2 ^ 53

def MAX_BATCH_RESOLVE_IDS : Nat := 500

section

variable {ρ ν : Type} (E : Environment ρ) (sdk : StellarSdk) (store : NonceStore ν)

/-- The statement itself. -/
def insertAuditLog (row : AdminAuditLogRow) : Op (Site ρ ν) Failure Unit := do
  onWorld (ask E.statement)
  update fun s => { s with admin_audit_log := s.admin_audit_log ++ [row] }

/-- A logging failure never blocks the action. -/
def writeAuditLog (row : AdminAuditLogRow) : Op (Site ρ ν) Failure Unit :=
  tryCatch (insertAuditLog E row) fun _ => pure ()

/-- The unresolved records with one of these ids. -/
def unresolvedAmong (ids : List Int) (s : Site ρ ν) : List String :=
  ((Table.rows s.world.db.failed_events).filter fun r =>
    !r.2.resolved && ((s.failed_event_ids.lookup r.1).any fun id => (id : Int) ∈ ids)).map Prod.fst

/-- `UPDATE failed_events SET … WHERE id = ANY(…) AND resolved_at IS NULL`: how many records. -/
def resolveBatch (ids : List Int) (resolution : Resolution) (note : Option String) :
    Op (Site ρ ν) Failure Nat := do
  onWorld (ask E.statement)
  fun s =>
    let matching := unresolvedAmong ids s
    let failed_events := s.world.db.failed_events.mapRows fun eventId row =>
      if eventId ∈ matching then row.resolve resolution else row
    let resolution_notes := matching.foldl (fun notes eventId => match note with
      | some note => notes.insert eventId note
      | none => notes.erase eventId) s.resolution_notes
    (.done matching.length,
      { s with world := { s.world with db := { s.world.db with failed_events } }, resolution_notes })

/-- Clear every uncleared halt on behalf of the operator. -/
def clearRecordedReorg (adminAddress : String) (ipAddress : Option String) :
    Op (Site ρ ν) Failure (Option ReorgHalt × Nat) := do
  match ← onWorld (loadUnclearedReorgHalt E) with
  | none => return (none, 0)
  | some halt => do
    let cleared ← onWorld (transaction E (clearReorgHalts adminAddress))
    writeAuditLog E
      { admin_address := adminAddress, action := "clear_reorg", ip_address := ipAddress
        payload := .obj [
          ("halt_id", .num halt.id), ("contract_id", .str halt.contract_id),
          ("last_ledger", (halt.last_ledger.map fun n => Json.num n).getD .null),
          ("last_ledger_hash", (halt.last_ledger_hash.map fun h => Json.str h).getD .null),
          ("detail", .str halt.detail), ("detected_at", .str (toISOString halt.detected_at)),
          ("cleared", .num cleared)] }
    return (some halt, cleared)

/-- What every handler does with a caller: refuse, or go on for the address. -/
def authenticated (headers : Headers) (targetAddress : Option String)
    (next : String → String → Op (Site ρ ν) Failure Reply) : Op (Site ρ ν) Failure Reply := do
  match ← authenticateRequest sdk (fun address nonce => onNonces (store.consume address nonce))
      (headers "authorization") targetAddress with
  | .denied status error => return .refused status error
  | .authenticated address ed25519Address => next address ed25519Address

/-- The part of `PATCH /notifications/:id/read` after the authentication. -/
def markReadFor (id : String) (ed25519Address : String) : Proc ρ Reply :=
  match notificationId id with
  | none => return .refused 400 "invalid notification id"
  | some id => do
    match ← transaction E (selectNotification id) with
    | none => return .refused 404 "notification not found"
    | some (key, _) =>
      if key.2 ≠ ed25519Address then
        return .refused 403 "Cannot modify notifications for another address"
      else
        match ← transaction E (updateRead fun _ row => row.id = id) with
        | [] => return .refused 404 "notification not found"
        | (key, row) :: _ => return .notification key.2 row

def markAllReadFor (address : String) : Proc ρ Reply := do
  let rows ← transaction E (updateRead fun key row => key.2 = address && !row.read)
  return .updated rows.length

def statusText : ReplayOutcome → String
  | .replayed => "replayed"
  | .already_resolved => "already_resolved"
  | .still_failing _ => "still_failing"

def reEvaluateFor (id : String) (ip : Option String) (address : String) : Op (Site ρ ν) Failure Reply :=
  let eventId := trim id
  if eventId = "" then return .refused 400 "invalid event id"
  else do
    let outcome ← onWorld (replayFailedEvent E eventId .resolved)
    writeAuditLog E
      { admin_address := address, action := "resolve_quarantined_event", ip_address := ip
        payload := .obj [("eventId", .str eventId), ("status", .str (statusText outcome))] }
    match outcome with
    | .still_failing error => return .replay 422 eventId (.still_failing error)
    | outcome => return .replay 200 eventId outcome

/-- The checks on a batch: its ids, its resolution and its note. -/
def checkBatch (body : BatchResolveBody) : Except String (List Int × Resolution × Option String) := do
  let ids ← match body.ids with
    | none | some [] => throw "ids must be a non-empty array"
    | some ids => pure ids
  if ids.length > MAX_BATCH_RESOLVE_IDS then
    throw s!"ids must not exceed {MAX_BATCH_RESOLVE_IDS} entries"
  let positive := ids.filterMap (Option.filter fun id => 0 < id ∧ id < 2 ^ 53)
  if positive.length ≠ ids.length then throw "ids must all be positive integers"
  let resolution ← match body.resolution with
    | some "resolved" => pure .resolved
    | some "ignored" => pure .ignored
    | _ => throw "resolution must be 'resolved' or 'ignored'"
  match body.note with
  | some none => throw "note must be a string"
  | note => return (positive, resolution, note.join)

def resolutionText : Resolution → String
  | .resolved => "resolved"
  | .ignored => "ignored"

def batchResolveFor (body : Option BatchResolveBody) (ip : Option String) (address : String) :
    Op (Site ρ ν) Failure Reply :=
  match body with
  | none => throw (.error "Cannot read properties of undefined (reading 'ids')")
  | some body =>
    match checkBatch body with
    | .error error => return .refused 400 error
    | .ok (ids, resolution, note) => do
      let resolvedCount ← resolveBatch E ids resolution note
      writeAuditLog E
        { admin_address := address, action := "resolve_quarantined_event", ip_address := ip
          payload := .obj [
            ("ids", .arr (ids.map Json.num)), ("resolution", .str (resolutionText resolution)),
            ("note", (note.map fun n => Json.str n).getD .null), ("resolved", .num resolvedCount)] }
      return .resolved resolvedCount

def clearReorgAs (ip : Option String) (adminAddress : String) : Op (Site ρ ν) Failure Reply := do
  let (halt, cleared) ← clearRecordedReorg E adminAddress ip
  return .cleared halt cleared

/-- The address a route expects the caller to be. -/
def Mutation.target : Mutation → Option String
  | markAllRead address => address
  | _ => none

/-- The handler of each route; `ip` is the client's address as the connection, and a trusted
proxy, give it. -/
def Mutation.serve (headers : Headers) (ip : Option String) : Mutation → Op (Site ρ ν) Failure Reply
  | markRead id => authenticated sdk store headers none fun _ ed25519Address =>
      onWorld (markReadFor E id ed25519Address)
  | markAllRead none => return .refused 400 "invalid Stellar address"
  | markAllRead (some address) =>
    if address = "" ∨ sdk.isValidEd25519PublicKey address = false then
      return .refused 400 "invalid Stellar address"
    else authenticated sdk store headers (some address) fun _ _ => onWorld (markAllReadFor E address)
  | reEvaluate id => authenticated sdk store headers none fun address _ => reEvaluateFor E id ip address
  | batchResolve body => authenticated sdk store headers none fun address _ =>
      batchResolveFor E body ip address
  | clearReorg =>
    if (headers "authorization").getD "" ≠ "" then
      authenticated sdk store headers none fun address _ => clearReorgAs E ip address
    else
      let address := (headers "x-admin-address").getD ""
      clearReorgAs E ip (if address = "" then "operator" else address)

end

-- A part of a handler audits an address when the rows it leaves in `admin_audit_log` name
-- it.

section

variable {ρ ν α β : Type} {E : Environment ρ} {sdk : StellarSdk} {store : NonceStore ν}

/-- Whatever happens, the audit log only grows, by rows that name the address. -/
def Audits (address : String) (m : Op (Site ρ ν) Failure α) : Prop :=
  ∀ s, ∃ written, (m s).2.admin_audit_log = s.admin_audit_log ++ written ∧
    ∀ row ∈ written, row.admin_address = address

variable {address : String}

theorem Audits.nothing {m : Op (Site ρ ν) Failure α}
    (h : ∀ s, (m s).2.admin_audit_log = s.admin_audit_log) : Audits address m :=
  fun s => ⟨[], by rw [h s, List.append_nil], by simp⟩

theorem audits_pure (a : α) : Audits address (pure a : Op (Site ρ ν) Failure α) := .nothing fun _ => rfl

theorem audits_throw (e : Failure) : Audits address (throw e : Op (Site ρ ν) Failure α) :=
  .nothing fun _ => rfl

theorem audits_onWorld (m : Proc ρ α) : Audits (ν := ν) address (onWorld m) := .nothing fun _ => rfl

theorem Audits.bind {m : Op (Site ρ ν) Failure α} {f : α → Op (Site ρ ν) Failure β}
    (hm : Audits address m) (hf : ∀ a, Audits address (f a)) : Audits address (m >>= f) := by
  intro s
  obtain ⟨first, hlog, hfirst⟩ := hm s
  rw [bind_run]
  rcases hrun : m s with ⟨o, s₁⟩
  rw [hrun] at hlog
  cases o with
  | done a =>
    obtain ⟨rest, hrest, hnames⟩ := hf a s₁
    refine ⟨first ++ rest, ?_, fun row hrow => ?_⟩
    · rw [hrest, hlog, List.append_assoc]
    · rcases List.mem_append.mp hrow with hrow | hrow
      · exact hfirst row hrow
      · exact hnames row hrow
  | raised e => exact ⟨first, hlog, hfirst⟩
  | crashed => exact ⟨first, hlog, hfirst⟩

theorem audits_writeAuditLog (row : AdminAuditLogRow) :
    Audits (ν := ν) row.admin_address (writeAuditLog E row) := by
  intro s
  rw [writeAuditLog, tryCatch_run, insertAuditLog, bind_run, onWorld]
  rcases ask E.statement s.world with ⟨o, w⟩
  cases o with
  | done a => exact ⟨[row], rfl, by simp⟩
  | raised e => exact ⟨[], by simp, by simp⟩
  | crashed => exact ⟨[], by simp, by simp⟩

theorem audits_resolveBatch (ids : List Int) (resolution : Resolution) (note : Option String) :
    Audits (ρ := ρ) (ν := ν) address (resolveBatch E ids resolution note) :=
  (audits_onWorld _).bind fun _ => .nothing fun _ => rfl

theorem audits_clearReorgAs (ip : Option String) :
    Audits (ρ := ρ) (ν := ν) address (clearReorgAs E ip address) := by
  refine Audits.bind ?_ fun _ => audits_pure _
  refine (audits_onWorld _).bind fun halt => ?_
  cases halt with
  | none => exact audits_pure _
  | some halt =>
    exact (audits_onWorld _).bind fun cleared => (audits_writeAuditLog _).bind fun _ => audits_pure _

theorem audits_reEvaluateFor (id : String) (ip : Option String) :
    Audits (ρ := ρ) (ν := ν) address (reEvaluateFor E id ip address) := by
  simp only [reEvaluateFor]
  split
  · exact audits_pure _
  · refine (audits_onWorld _).bind fun outcome => (audits_writeAuditLog _).bind fun _ => ?_
    cases outcome <;> exact audits_pure _

theorem audits_batchResolveFor (body : Option BatchResolveBody) (ip : Option String) :
    Audits (ρ := ρ) (ν := ν) address (batchResolveFor E body ip address) := by
  cases body with
  | none => exact audits_throw _
  | some body =>
    rw [batchResolveFor]
    rcases checkBatch body with error | ⟨ids, resolution, note⟩
    · exact audits_pure _
    · exact (audits_resolveBatch _ _ _).bind fun _ => (audits_writeAuditLog _).bind fun _ => audits_pure _

/-- What `authenticateRequest` says of a request. -/
def authOutcome (sdk : StellarSdk) (store : NonceStore ν) (headers : Headers) (targetAddress : Option String)
    (s : Site ρ ν) : Outcome Failure AuthResult × Site ρ ν :=
  authenticateRequest sdk (fun address nonce => onNonces (store.consume address nonce))
    (headers "authorization") targetAddress s

/-- Authenticating a request touches the nonces alone. -/
theorem authOutcome_frame (sdk : StellarSdk) (store : NonceStore ν) (headers : Headers)
    (targetAddress : Option String) (s : Site ρ ν) :
    ∃ nonces, (authOutcome sdk store headers targetAddress s).2 = { s with nonces } := by
  rw [authOutcome, authenticateRequest]
  rcases checkSignature sdk (headers "authorization") with ⟨status, error⟩ | ⟨h, key⟩
  · exact ⟨s.nonces, rfl⟩
  · dsimp only
    rw [bind_run, onNonces]
    rcases store.consume h.address h.nonce s.nonces with ⟨o, nonces⟩
    refine ⟨nonces, ?_⟩
    cases o <;> rfl

theorem authOutcome_rows (sdk : StellarSdk) (store : NonceStore ν) (headers : Headers)
    (targetAddress : Option String) (s : Site ρ ν) :
    (authOutcome sdk store headers targetAddress s).2.rows = s.rows := by
  obtain ⟨nonces, hframe⟩ := authOutcome_frame sdk store headers targetAddress s
  rw [hframe]
  rfl

/-- The request is authenticated as this address. -/
def Mutation.Authenticates (sdk : StellarSdk) (store : NonceStore ν) (r : Mutation) (headers : Headers)
    (s : Site ρ ν) (address : String) : Prop :=
  ∃ key, (authOutcome sdk store headers r.target s).1 = .done (.authenticated address key)

/-- What a mutation may do: it changes rows for an authenticated caller only, the rows it leaves in
the audit log name the caller, and no other header than the caller's credentials has an effect. -/
structure Mutation.Guarded (E : Environment ρ) (sdk : StellarSdk) (store : NonceStore ν) (r : Mutation)
    (headers : Headers) (ip : Option String) (s : Site ρ ν) : Prop where
  changes : (r.serve E sdk store headers ip s).2.rows ≠ s.rows →
    ∃ address, r.Authenticates sdk store headers s address
  audit : ∃ written, (r.serve E sdk store headers ip s).2.admin_audit_log = s.admin_audit_log ++ written ∧
    ∀ row ∈ written, r.Authenticates sdk store headers s row.admin_address
  others : ∀ headers' : Headers, headers' "authorization" = headers "authorization" →
    (r.serve E sdk store headers' ip s).2.rows = (r.serve E sdk store headers ip s).2.rows

/-- A handler that authenticates first runs the rest only for an authenticated caller. -/
theorem authenticated_run (sdk : StellarSdk) (store : NonceStore ν) (headers : Headers)
    (targetAddress : Option String)
    (next : String → String → Op (Site ρ ν) Failure Reply) (s : Site ρ ν) :
    (authenticated sdk store headers targetAddress next s).2.rows = s.rows ∨
      ∃ address key, (authOutcome sdk store headers targetAddress s).1 = .done (.authenticated address key) ∧
        authenticated sdk store headers targetAddress next s =
          next address key (authOutcome sdk store headers targetAddress s).2 := by
  have hrows := authOutcome_rows sdk store headers targetAddress s
  rcases hauth : authOutcome sdk store headers targetAddress s with ⟨o, s₁⟩
  rw [hauth] at hrows
  rw [authOutcome] at hauth
  rw [authenticated, bind_run, hauth]
  cases o with
  | done result =>
    cases result with
    | denied status error => exact .inl hrows
    | authenticated address key => exact .inr ⟨address, key, rfl, rfl⟩
  | raised e => exact .inl hrows
  | crashed => exact .inl hrows

/-- A handler that does nothing without an authenticated caller, and audits the caller. -/
theorem Mutation.guarded_of_authenticated {r : Mutation} {headers : Headers} {ip : Option String}
    {s : Site ρ ν} {next : String → String → Op (Site ρ ν) Failure Reply}
    (hserve : ∀ headers' : Headers, headers' "authorization" = headers "authorization" →
      r.serve E sdk store headers' ip = authenticated sdk store headers' r.target next)
    (haudits : ∀ address key, Audits address (next address key)) :
    r.Guarded E sdk store headers ip s := by
  have hrun := authenticated_run sdk store headers r.target next s
  rw [← hserve headers rfl] at hrun
  refine ⟨fun hchanged => ?_, ?_, fun headers' h => ?_⟩
  · rcases hrun with hrows | ⟨address, key, hauth, -⟩
    · exact absurd hrows hchanged
    · exact ⟨address, key, hauth⟩
  · rcases hrun with hrows | ⟨address, key, hauth, hnext⟩
    · exact ⟨[], by rw [List.append_nil]; exact congrArg Rows.admin_audit_log hrows, by simp⟩
    · obtain ⟨written, hlog, hnames⟩ := haudits address key (authOutcome sdk store headers r.target s).2
      have hbefore := congrArg Rows.admin_audit_log
        (authOutcome_rows sdk store headers r.target s)
      refine ⟨written, ?_, fun row hrow => ⟨key, by rw [hnames row hrow, hauth]⟩⟩
      rw [hnext, hlog]
      exact congrArg (· ++ written) hbefore
  · rw [hserve headers' h, hserve headers rfl, authenticated, authenticated, h]

/-- A handler that changes no row. -/
theorem Mutation.guarded_of_nothing {r : Mutation} {headers : Headers} {ip : Option String} {s : Site ρ ν}
    (hserve : ∀ headers' : Headers, headers' "authorization" = headers "authorization" →
      (r.serve E sdk store headers' ip s).2.rows = s.rows) : r.Guarded E sdk store headers ip s := by
  refine ⟨fun hchanged => absurd (hserve headers rfl) hchanged, ⟨[], ?_, by simp⟩, fun headers' h => ?_⟩
  · rw [List.append_nil]
    exact congrArg Rows.admin_audit_log (hserve headers rfl)
  · rw [hserve headers' h, hserve headers rfl]

/-- Clearing does nothing where no halt is open. -/
theorem clearReorgAs_nothing (ip : Option String) (address : String) {s : Site ρ ν}
    (hopen : s.world.db.openHalts = []) : (clearReorgAs E ip address s).2.rows = s.rows := by
  have hload : _ ∧ ∀ halt, _ = Outcome.done halt → halt = s.world.db.openHalts.getLast? :=
    ensures_read (E := E) (fun db => db.openHalts.getLast?) s.world rfl
  rw [clearReorgAs, bind_run, clearRecordedReorg, bind_run, onWorld]
  rcases hrun : loadUnclearedReorgHalt E s.world with ⟨o, w⟩
  rw [loadUnclearedReorgHalt] at hrun
  rw [hrun] at hload
  obtain ⟨hdb, hdone⟩ := hload
  have hrows : ({ s with world := w } : Site ρ ν).rows = s.rows := by
    dsimp only at hdb
    simp only [rows, hdb]
  cases o with
  | done halt =>
    have hnone : halt = none := by simpa [hopen] using hdone halt rfl
    subst hnone
    exact hrows
  | raised e => exact hrows
  | crashed => exact hrows

/-- The one route that answers without an authentication. -/
def Mutation.Unauthenticated (r : Mutation) (headers : Headers) : Prop :=
  (headers "authorization").getD "" = "" ∧ match r with
    | clearReorg => True
    | _ => False

theorem Mutation.guarded (E : Environment ρ) (sdk : StellarSdk) (store : NonceStore ν) {r : Mutation}
    {headers : Headers} (ip : Option String) {s : Site ρ ν}
    (h : ¬ (r.Unauthenticated headers ∧ s.world.db.openHalts ≠ [])) :
    r.Guarded E sdk store headers ip s := by
  cases r with
  | markRead id => exact guarded_of_authenticated (fun _ _ => rfl) fun _ _ => audits_onWorld _
  | markAllRead address =>
    cases address with
    | none => exact guarded_of_nothing fun _ _ => rfl
    | some address =>
      by_cases hvalid : address = "" ∨ sdk.isValidEd25519PublicKey address = false
      · exact guarded_of_nothing fun _ _ => by rw [serve, if_pos hvalid]; rfl
      · exact guarded_of_authenticated (fun _ _ => by rw [serve, if_neg hvalid]; rfl) fun _ _ => audits_onWorld _
  | reEvaluate id => exact guarded_of_authenticated (fun _ _ => rfl) fun _ _ => audits_reEvaluateFor id ip
  | batchResolve body =>
    exact guarded_of_authenticated (fun _ _ => rfl) fun _ _ => audits_batchResolveFor body ip
  | clearReorg =>
    by_cases hheader : (headers "authorization").getD "" = ""
    · have hopen : s.world.db.openHalts = [] := by
        by_contra hopen
        exact h ⟨⟨hheader, trivial⟩, hopen⟩
      refine guarded_of_nothing fun headers' hsame => ?_
      have hheader' : ¬ ( headers' "authorization").getD "" ≠ "" := by rw [hsame]; simpa using hheader
      rw [serve, if_neg hheader']
      exact clearReorgAs_nothing ip _ hopen
    · have haudits : ∀ address (_ : String), Audits (ρ := ρ) (ν := ν) address (clearReorgAs E ip address) :=
        fun _ _ => audits_clearReorgAs ip
      refine guarded_of_authenticated (fun headers' hsame => ?_) haudits
      rw [serve, if_pos (by rw [hsame]; exact hheader)]
      rfl

/-- Clearing an open halt, where every statement succeeds. -/
theorem clearReorgAs_clears (ip : Option String) (address : String) {s : Site Nat ν}
    (hopen : s.world.db.openHalts ≠ []) :
    (clearReorgAs .healthy ip address s).2.world.db.openHalts = [] := by
  obtain ⟨halt, hhalt⟩ : ∃ halt, s.world.db.openHalts.getLast? = some halt :=
    ⟨_, List.getLast?_eq_some_getLast hopen⟩
  have hload : loadUnclearedReorgHalt .healthy s.world =
      (.done (some halt), { s.world with env := s.world.env + 1 }) := by
    rw [← hhalt]
    rfl
  have hcleared := openHalts_clear s.world.db address
  rw [clearReorgAs, bind_run, clearRecordedReorg, bind_run, onWorld, hload]
  exact hcleared

theorem checkSignature_empty {authorization : Option String} (h : authorization.getD "" = "") :
    checkSignature sdk authorization = .error (401, "Missing authentication headers") := by
  cases authorization with
  | none => rfl
  | some authorization =>
    obtain rfl : authorization = "" := h
    rfl

end

/-- **Mutations need an authenticated caller**, in all surroundings, exactly when the request
is not one to clear a recorded halt that carries no `Authorization` header. -/
theorem mutations_guarded_iff {ν : Type} [Inhabited ν] (sdk : StellarSdk) (store : NonceStore ν)
    (r : Mutation) (headers : Headers) (ip : Option String) (rows : Rows) :
    (∀ (ρ : Type) (E : Environment ρ) (s : Site ρ ν), s.rows = rows → r.Guarded E sdk store headers ip s) ↔
      ¬ (r.Unauthenticated headers ∧ rows.db.openHalts ≠ []) := by
  constructor
  · rintro hguarded ⟨⟨hheader, hroute⟩, hopen⟩
    cases r with
    | clearReorg =>
      let s : Site Nat ν :=
        { world := { db := rows.db, memory := {}, env := 0 }, nonces := default
          admin_audit_log := rows.admin_audit_log, failed_event_ids := rows.failed_event_ids
          resolution_notes := rows.resolution_notes }
      have hclears := clearReorgAs_clears (ν := ν) ip
        (if (headers "x-admin-address").getD "" = "" then "operator"
          else (headers "x-admin-address").getD "") (s := s) hopen
      have hchanged : (Mutation.clearReorg.serve .healthy sdk store headers ip s).2.rows ≠ s.rows := by
        intro hsame
        rw [Mutation.serve, if_neg (by simpa using hheader)] at hsame
        have hdb := congrArg (fun rows : Rows => rows.db.openHalts) hsame
        exact hopen (hdb.symm.trans hclears)
      obtain ⟨address, key, hauth⟩ := (hguarded Nat .healthy s rfl).changes hchanged
      rw [authOutcome, authenticateRequest, checkSignature_empty hheader] at hauth
      cases hauth
    | _ => exact hroute
  · rintro h ρ E s rfl
    exact Mutation.guarded E sdk store ip h

/-- A halt is open, and two anonymous requests differ in `x-admin-address` only. -/
def haltedSite : Site Nat MemoryNonceStore where
  world := { freshWorld 0 with db := { reorg_halts := [⟨1, "C", some 9999, none, "rpc ledger rewind", 0, none⟩] } }
  nonces := {}

def asAdmin (adminAddress : String) : Headers := fun name =>
  if name = "x-admin-address" then some adminAddress else none

/-- The store in memory, whose clock stands at `now`. -/
def memoryStore (now : Nat) : NonceStore MemoryNonceStore where
  consume address nonce s := (.done (s.consume address nonce now).1, (s.consume address nonce now).2)

def clearedAs (adminAddress : String) : Site Nat MemoryNonceStore :=
  (Mutation.clearReorg.serve .healthy memberSdk (memoryStore 0) (asAdmin adminAddress) none haltedSite).2

/-- The request clears the halt, signs the audit log with the header, and is not guarded. -/
theorem halt_is_cleared_anonymously :
    haltedSite.world.db.openHalts.length = 1 ∧ (clearedAs "GOPERATOR").world.db.openHalts = [] ∧
      (clearedAs "GOPERATOR").admin_audit_log.map (·.admin_address) = ["GOPERATOR"] ∧
      (clearedAs "GOTHER").world.db.reorg_halts ≠ (clearedAs "GOPERATOR").world.db.reorg_halts ∧
      ¬ Mutation.clearReorg.Guarded .healthy memberSdk (memoryStore 0) (asAdmin "GOPERATOR") none
        haltedSite := by
  have hdiffer : (clearedAs "GOTHER").world.db.reorg_halts ≠ (clearedAs "GOPERATOR").world.db.reorg_halts := by
    decide +kernel
  refine ⟨by decide +kernel, by decide +kernel, by decide +kernel, hdiffer, fun hguarded => hdiffer ?_⟩
  exact congrArg (·.db.reorg_halts) (hguarded.others (asAdmin "GOTHER") rfl)

end OurDao
