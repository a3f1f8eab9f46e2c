import Mathlib.Logic.Relation
import OurDao.Table

/-!
# Authentication

A client asks for a nonce, signs it together with its address, and sends both with a
request. `authenticateRequest` checks the signature, then consumes the nonce, then
compares the address with the one the request is about; between any two of these other
requests may be served. Verification and the decoding of addresses belong to the Stellar
SDK and are parameters here.
-/

namespace OurDao

structure NonceEntry where
  address : String
  /-- milliseconds since the epoch -/
  expiresAt : Nat
  deriving DecidableEq, Repr

structure MemoryNonceStore where
  store : Table String NonceEntry := ∅
  addressIssueCounts : Table String Nat := ∅

structure NonceConfig where
  nonceTtlMs : Nat := 300000
  nonceMaxEntries : Nat := 10000

def NONCE_TIMESTAMP_HEX_LEN : Nat := 12

def MAX_NONCES_PER_ADDRESS : Nat := 100

def truncateAddress (address : String) : String :=
  if address.length ≤ 10 then address
  else String.ofList (address.toList.take 4) ++ "…" ++
    String.ofList (address.toList.drop (address.length - 4))

/-- `timestamp.toString(16).padStart(12, '0')` before the random digits. -/
def mintNonce (timestamp : Nat) (randomHex : String) : String :=
  let digits := Nat.toDigits 16 timestamp
  String.ofList (List.replicate (NONCE_TIMESTAMP_HEX_LEN - digits.length) '0' ++ digits) ++ randomHex

namespace MemoryNonceStore

/-- One nonce less for an address. -/
def uncount (address : String) (counts : Table String Nat) : Table String Nat :=
  let count := (counts.lookup address).getD 0
  if count > 1 then counts.insert address (count - 1) else counts.erase address

def delete (s : MemoryNonceStore) (nonce address : String) : MemoryNonceStore where
  store := s.store.erase nonce
  addressIssueCounts := uncount address s.addressIssueCounts

/-- What the sweep timer does at `now`. -/
def sweep (s : MemoryNonceStore) (now : Nat) : MemoryNonceStore :=
  (Table.rows s.store).foldl
    (fun s entry => if entry.2.expiresAt < now then s.delete entry.1 entry.2.address else s) s

/-- `timestamp` and `now` are the two readings of the clock. -/
def issue (config : NonceConfig) (s : MemoryNonceStore) (address : String) (timestamp now : Nat)
    (randomHex : String) : Except String (String × MemoryNonceStore) :=
  let addressIssueCount := (s.addressIssueCounts.lookup address).getD 0
  if config.nonceMaxEntries ≤ s.store.keys.length then .error "Nonce store capacity exceeded"
  else if MAX_NONCES_PER_ADDRESS ≤ addressIssueCount then
    .error s!"Too many outstanding nonces for {truncateAddress address}"
  else
    let nonce := mintNonce timestamp randomHex
    .ok (nonce, {
      store := s.store.insert nonce { address, expiresAt := now + config.nonceTtlMs }
      addressIssueCounts := s.addressIssueCounts.insert address (addressIssueCount + 1) })

def consume (s : MemoryNonceStore) (address nonce : String) (now : Nat) : Bool × MemoryNonceStore :=
  match s.store.lookup nonce with
  | none => (false, s)
  | some entry =>
    if entry.expiresAt < now then (false, s.delete nonce address)
    else if entry.address ≠ address then (false, s)
    else (true, s.delete nonce address)

theorem lookup_delete {s : MemoryNonceStore} {nonce address other : String} :
    (s.delete nonce address).store.lookup other = if other = nonce then none else s.store.lookup other := by
  rw [delete]
  split
  next h => rw [h, AList.lookup_erase]
  next h => exact AList.lookup_erase_ne h

theorem sweep_sub (s : MemoryNonceStore) (now : Nat) {nonce : String} {e : NonceEntry}
    (h : (s.sweep now).store.lookup nonce = some e) : s.store.lookup nonce = some e := by
  rw [sweep] at h
  generalize Table.rows s.store = entries at h
  induction entries generalizing s with
  | nil => exact h
  | cons entry entries ih =>
    have hrest := ih _ h
    dsimp only at hrest
    split at hrest
    · rw [lookup_delete] at hrest
      split at hrest
      · cases hrest
      · exact hrest
    · exact hrest

theorem issue_eq_ok {config : NonceConfig} {s s' : MemoryNonceStore} {address randomHex nonce : String}
    {timestamp now : Nat} (h : s.issue config address timestamp now randomHex = .ok (nonce, s')) :
    s'.store = s.store.insert nonce { address, expiresAt := now + config.nonceTtlMs } := by
  simp only [issue] at h
  split at h
  · cases h
  split at h
  · cases h
  · cases h
    rfl

/-- A nonce that is consumed was there, for this address, and had not expired; it is there no more. -/
theorem consume_true {s s' : MemoryNonceStore} {address nonce : String} {now : Nat}
    (h : s.consume address nonce now = (true, s')) : ∃ expiresAt,
      s.store.lookup nonce = some { address, expiresAt } ∧ now ≤ expiresAt ∧ s' = s.delete nonce address := by
  rw [consume] at h
  rcases hentry : s.store.lookup nonce with _ | entry <;> rw [hentry] at h
  · cases h
  dsimp only at h
  split at h
  · cases h
  next hnow =>
    split at h
    · cases h
    next haddress =>
      cases h
      push Not at haddress hnow
      exact ⟨entry.expiresAt, by rw [← haddress], hnow, rfl⟩

theorem consume_store (s : MemoryNonceStore) (address nonce : String) (now : Nat) :
    (s.consume address nonce now).2 = s ∨ (s.consume address nonce now).2 = s.delete nonce address := by
  rw [consume]
  split
  · exact .inl rfl
  · split
    · exact .inr rfl
    · split
      · exact .inl rfl
      · exact .inr rfl

end MemoryNonceStore

/-- What the Stellar SDK and Node do with addresses and signatures. -/
structure StellarSdk where
  isValidEd25519PublicKey : String → Bool
  isValidMed25519PublicKey : String → Bool
  isValidContract : String → Bool
  /-- the `G…` address under an `M…` address, none where the decoder throws -/
  baseAccountId : String → Option String
  decodeBase64 : String → List UInt8
  /-- `verify key data signature`, false where it throws -/
  verify : String → String → List UInt8 → Bool

inductive StellarAddressType where
  | ed25519
  | muxed
  | contract
  | invalid
  deriving DecidableEq, Repr

variable (sdk : StellarSdk)

def classifyStellarAddress (address : String) : StellarAddressType :=
  if sdk.isValidEd25519PublicKey address then .ed25519
  else if sdk.isValidMed25519PublicKey address then .muxed
  else if sdk.isValidContract address then .contract
  else .invalid

def ED25519_SIGNATURE_BYTES : Nat := 64

/-- The second half of `verifySignature`, where the signing key is known. -/
def verifyKeypair (ed25519Address address nonce signature : String) : Except (Nat × String) String :=
  let signatureBuffer := sdk.decodeBase64 signature
  if signatureBuffer.length ≠ ED25519_SIGNATURE_BYTES then .error (401, "Invalid signature")
  else if !sdk.verify ed25519Address s!"{nonce}:{address}" signatureBuffer then
    .error (401, "Invalid signature")
  else .ok ed25519Address

/-- The address whose key verified the signature, or a status and a message. -/
def verifySignature (address nonce signature : String) : Except (Nat × String) String :=
  match classifyStellarAddress sdk address with
  | .invalid => .error (400, "Unrecognized Stellar address format")
  | .contract => .error (400, "Contract (C…) accounts are not supported for authentication")
  | .ed25519 => verifyKeypair sdk address address nonce signature
  | .muxed =>
    match sdk.baseAccountId address with
    | none => .error (400, "Malformed muxed (M…) address")
    | some base => verifyKeypair sdk base address nonce signature

/-- What an `Authorization: StellarSignature <address>:<signature>:<nonce>` header carries. -/
structure AuthHeaders where
  address : String
  signature : String
  nonce : String
  deriving DecidableEq, Repr

/-- The three parts of the header, none where it is absent or has another form. -/
def extractAuthHeaders (authorization : Option String) : Option AuthHeaders := do
  let authHeader ← authorization
  let rest ← "StellarSignature ".toList.isPrefixOf? authHeader.toList
  match (rest.splitOn ':').map String.ofList with
  | [address, signature, nonce] => some { address, signature, nonce }
  | _ => none

/-- The address whose key signs for an address, if it has one. -/
def StellarSdk.keyOf (address : String) : Option String :=
  match classifyStellarAddress sdk address with
  | .ed25519 => some address
  | .muxed => sdk.baseAccountId address
  | .contract | .invalid => none

/-- The signature was made with this key over the nonce and the address. -/
def StellarSdk.Verifies (headers : AuthHeaders) (ed25519Address : String) : Prop :=
  sdk.keyOf headers.address = some ed25519Address ∧
    sdk.verify ed25519Address s!"{headers.nonce}:{headers.address}" (sdk.decodeBase64 headers.signature)

inductive AuthResult where
  | denied (status : Nat) (error : String)
  | authenticated (address ed25519Address : String)
  deriving DecidableEq, Repr

/-- The parts of the header, none of them empty, and the address whose key signed. -/
def checkSignature (authorization : Option String) : Except (Nat × String) (AuthHeaders × String) :=
  match extractAuthHeaders authorization with
  | none => .error (401, "Missing authentication headers")
  | some headers =>
    if headers.address = "" ∨ headers.signature = "" ∨ headers.nonce = "" then
      .error (401, "Missing authentication headers")
    else
      match verifySignature sdk headers.address headers.nonce headers.signature with
      | .error failed => .error failed
      | .ok ed25519Address => .ok (headers, ed25519Address)

/-- What is answered once the store has said whether the nonce was consumed. -/
def checkTarget (headers : AuthHeaders) (ed25519Address : String) (nonceValid : Bool)
    (targetAddress : Option String) : AuthResult :=
  if !nonceValid then .denied 401 "Invalid or expired nonce"
  else if targetAddress.any fun target => target ≠ "" ∧ target ≠ headers.address then
    .denied 403 "Cannot modify notifications for another address"
  else .authenticated headers.address ed25519Address

def authenticateRequest {m : Type → Type} [Monad m] (consume : String → String → m Bool)
    (authorization targetAddress : Option String) : m AuthResult :=
  match checkSignature sdk authorization with
  | .error (status, error) => return .denied status error
  | .ok (headers, ed25519Address) => do
    let nonceValid ← consume headers.address headers.nonce
    return checkTarget headers ed25519Address nonceValid targetAddress

/-- Where a call of `authenticateRequest` stands. -/
inductive AuthPhase where
  | received
  | verified (headers : AuthHeaders) (ed25519Address : String)
  | consumed (headers : AuthHeaders) (ed25519Address : String) (nonceValid : Bool)
  | done (result : AuthResult)
  deriving DecidableEq, Repr

structure AuthRequest where
  authorization : Option String
  targetAddress : Option String := none
  phase : AuthPhase := .received
  /-- the headers whose nonce it consumed, and what the clock read then -/
  spent : Option (AuthHeaders × Nat) := none
  deriving DecidableEq, Repr

/-- The next step of a request, at which the clock reads `now`. -/
def AuthRequest.next (r : AuthRequest) (nonces : MemoryNonceStore) (now : Nat) :
    AuthRequest × MemoryNonceStore :=
  match r.phase with
  | .received =>
    match checkSignature sdk r.authorization with
    | .error (status, error) => ({ r with phase := .done (.denied status error) }, nonces)
    | .ok (headers, ed25519Address) => ({ r with phase := .verified headers ed25519Address }, nonces)
  | .verified headers ed25519Address =>
    let (nonceValid, nonces) := nonces.consume headers.address headers.nonce now
    ({ r with
        phase := .consumed headers ed25519Address nonceValid
        spent := if nonceValid then some (headers, now) else none }, nonces)
  | .consumed headers ed25519Address nonceValid =>
    ({ r with phase := .done (checkTarget headers ed25519Address nonceValid r.targetAddress) }, nonces)
  | .done _ => (r, nonces)

/-- The store, the nonces it ever issued, and the requests that were received. -/
structure AuthSystem where
  nonces : MemoryNonceStore := {}
  issued : List (String × NonceEntry) := []
  requests : Table Nat AuthRequest := ∅

namespace AuthSystem

variable (config : NonceConfig) (s : AuthSystem)

def serve (id : Nat) (r : AuthRequest) (now : Nat) : AuthSystem :=
  { s with nonces := (r.next sdk s.nonces now).2, requests := s.requests.insert id (r.next sdk s.nonces now).1 }

inductive Step : AuthSystem → Prop
  | issue {address randomHex nonce : String} {timestamp now : Nat} {nonces : MemoryNonceStore}
      (h : s.nonces.issue config address timestamp now randomHex = .ok (nonce, nonces)) :
      Step { s with nonces, issued := (nonce, ⟨address, now + config.nonceTtlMs⟩) :: s.issued }
  | sweep (now : Nat) : Step { s with nonces := s.nonces.sweep now }
  | receive {id : Nat} (authorization targetAddress : Option String) (h : s.requests.lookup id = none) :
      Step { s with requests := s.requests.insert id { authorization, targetAddress } }
  | serve {id : Nat} {r : AuthRequest} (h : s.requests.lookup id = some r) (now : Nat) :
      Step (s.serve sdk id r now)

def Reachable : Prop := Relation.ReflTransGen (Step sdk config) {} s

end AuthSystem

variable {sdk}

theorem verifyKeypair_eq_ok {key address nonce signature ed25519Address : String}
    (h : verifyKeypair sdk key address nonce signature = .ok ed25519Address) :
    key = ed25519Address ∧ sdk.verify key s!"{nonce}:{address}" (sdk.decodeBase64 signature) := by
  simp only [verifyKeypair] at h
  split at h
  · cases h
  split at h
  · cases h
  next hverify =>
    cases h
    exact ⟨rfl, by simpa using hverify⟩

theorem verifySignature_eq_ok {address nonce signature ed25519Address : String}
    (h : verifySignature sdk address nonce signature = .ok ed25519Address) :
    sdk.Verifies ⟨address, signature, nonce⟩ ed25519Address := by
  rw [verifySignature] at h
  rw [StellarSdk.Verifies, StellarSdk.keyOf]
  cases hclass : classifyStellarAddress sdk address <;> rw [hclass] at h
  · obtain ⟨rfl, hverify⟩ := verifyKeypair_eq_ok h
    exact ⟨rfl, hverify⟩
  · cases hbase : sdk.baseAccountId address with
    | none =>
      rw [hbase] at h
      cases h
    | some base =>
      rw [hbase] at h
      obtain ⟨rfl, hverify⟩ := verifyKeypair_eq_ok h
      exact ⟨rfl, hverify⟩
  · cases h
  · cases h

theorem checkSignature_eq_ok {authorization : Option String} {headers : AuthHeaders} {ed25519Address : String}
    (h : checkSignature sdk authorization = .ok (headers, ed25519Address)) :
    extractAuthHeaders authorization = some headers ∧ sdk.Verifies headers ed25519Address := by
  rw [checkSignature] at h
  rcases hextract : extractAuthHeaders authorization with _ | parts <;> rw [hextract] at h
  · cases h
  dsimp only at h
  split at h
  · cases h
  split at h
  · cases h
  next hverify =>
    cases h
    exact ⟨rfl, verifySignature_eq_ok hverify⟩

/-- A request whose steps are not interrupted is answered as the function computes it. -/
theorem next_next_next (authorization targetAddress : Option String) (nonces : MemoryNonceStore)
    (t₁ t₂ t₃ : Nat) :
    let first := AuthRequest.next sdk { authorization, targetAddress } nonces t₁
    let second := first.1.next sdk first.2 t₂
    let third := second.1.next sdk second.2 t₃
    let whole := authenticateRequest (m := StateM MemoryNonceStore) sdk
      (fun address nonce nonces => nonces.consume address nonce t₂) authorization targetAddress nonces
    third.1.phase = .done whole.1 ∧ third.2 = whole.2 := by
  rcases h : checkSignature sdk authorization with ⟨status, error⟩ | ⟨headers, ed25519Address⟩
  · simp [AuthRequest.next, authenticateRequest, h]
    exact ⟨rfl, rfl⟩
  · simp [AuthRequest.next, authenticateRequest, h]
    exact ⟨rfl, rfl⟩

/-- What a request has done by the phase it is in. -/
structure AuthRequest.Sound (sdk : StellarSdk) (r : AuthRequest) : Prop where
  verified : ∀ headers key, r.phase = .verified headers key →
    checkSignature sdk r.authorization = .ok (headers, key)
  consumed : ∀ headers key nonceValid, r.phase = .consumed headers key nonceValid →
    checkSignature sdk r.authorization = .ok (headers, key) ∧
      (nonceValid = true → ∃ time, r.spent = some (headers, time))
  done : ∀ address key, r.phase = .done (.authenticated address key) → ∃ headers time,
    checkSignature sdk r.authorization = .ok (headers, key) ∧ address = headers.address ∧
      r.spent = some (headers, time)

/-- A nonce that was spent was issued to the address that spent it, in time, and is gone. -/
def AuthSystem.Spent (s : AuthSystem) (headers : AuthHeaders) (time : Nat) : Prop :=
  (∃ expiresAt, (headers.nonce, ⟨headers.address, expiresAt⟩) ∈ s.issued ∧ time ≤ expiresAt) ∧
    s.nonces.store.lookup headers.nonce = none

/-- The invariant of every run. -/
structure AuthSystem.Consistent (sdk : StellarSdk) (s : AuthSystem) : Prop where
  stored : ∀ nonce entry, s.nonces.store.lookup nonce = some entry → (nonce, entry) ∈ s.issued
  sound : ∀ id r, s.requests.lookup id = some r → r.Sound sdk
  spent : ∀ id r headers time, s.requests.lookup id = some r → r.spent = some (headers, time) →
    s.Spent headers time
  once : ∀ id₁ id₂ r₁ r₂ headers₁ headers₂ t₁ t₂, s.requests.lookup id₁ = some r₁ →
    s.requests.lookup id₂ = some r₂ → r₁.spent = some (headers₁, t₁) → r₂.spent = some (headers₂, t₂) →
    headers₁.nonce = headers₂.nonce → id₁ = id₂

theorem AuthRequest.Sound.next {r : AuthRequest} (h : r.Sound sdk) (nonces : MemoryNonceStore) (now : Nat) :
    (r.next sdk nonces now).1.Sound sdk := by
  rw [AuthRequest.next]
  cases hphase : r.phase with
  | received =>
    rcases hcheck : checkSignature sdk r.authorization with failed | ⟨headers, key⟩
    · exact ⟨by simp, by simp, by simp⟩
    · refine ⟨fun _ _ hverified => ?_, by simp, by simp⟩
      cases hverified
      exact hcheck
  | verified headers key =>
    refine ⟨by simp, fun _ _ nonceValid hconsumed => ?_, by simp⟩
    cases hconsumed
    exact ⟨h.verified _ _ hphase, fun hvalid => ⟨now, if_pos hvalid⟩⟩
  | consumed headers key nonceValid =>
    refine ⟨by simp, by simp, fun address key' hdone => ?_⟩
    simp only [AuthPhase.done.injEq] at hdone
    rw [checkTarget] at hdone
    split at hdone
    · cases hdone
    next hvalid =>
      split at hdone
      · cases hdone
      · cases hdone
        obtain ⟨hcheck, hspent⟩ := h.consumed _ _ _ hphase
        obtain ⟨time, htime⟩ := hspent (by simpa using hvalid)
        exact ⟨headers, time, hcheck, rfl, htime⟩
  | done result => exact h

/-- A step of a request that consumes a nonce, and every other step. -/
theorem AuthRequest.next_spent (sdk : StellarSdk) (r : AuthRequest) (nonces : MemoryNonceStore) (now : Nat) :
    (∃ headers key, r.phase = .verified headers key ∧
      nonces.consume headers.address headers.nonce now = (true, (r.next sdk nonces now).2) ∧
      (r.next sdk nonces now).1.spent = some (headers, now)) ∨
    (r.next sdk nonces now).1.spent = none ∨
    (r.next sdk nonces now).1.spent = r.spent := by
  rw [AuthRequest.next]
  cases hphase : r.phase with
  | received => cases checkSignature sdk r.authorization <;> exact .inr (.inr rfl)
  | verified headers key =>
    rcases hconsume : nonces.consume headers.address headers.nonce now with ⟨nonceValid, nonces'⟩
    cases nonceValid with
    | false => exact .inr (.inl (by simp [hconsume]))
    | true => exact .inl ⟨headers, key, rfl, by simp [hconsume], by simp [hconsume]⟩
  | consumed headers key nonceValid => exact .inr (.inr rfl)
  | done result => exact .inr (.inr rfl)

/-- A step of a request takes nothing into the store. -/
theorem AuthRequest.next_store (r : AuthRequest) (nonces : MemoryNonceStore) (now : Nat) {nonce : String} :
    (r.next sdk nonces now).2.store.lookup nonce = nonces.store.lookup nonce ∨
      (r.next sdk nonces now).2.store.lookup nonce = none := by
  have hconsume : ∀ address other : String, (nonces.consume address other now).2.store.lookup nonce =
      nonces.store.lookup nonce ∨ (nonces.consume address other now).2.store.lookup nonce = none := by
    intro address other
    rcases nonces.consume_store address other now with h | h <;> rw [h]
    · exact .inl rfl
    · rw [MemoryNonceStore.lookup_delete]
      split
      · exact .inr rfl
      · exact .inl rfl
  rw [AuthRequest.next]
  cases r.phase with
  | received => cases checkSignature sdk r.authorization <;> exact .inl rfl
  | verified headers key => exact hconsume _ _
  | consumed headers key nonceValid => exact .inl rfl
  | done result => exact .inl rfl

namespace AuthSystem

variable {config : NonceConfig} {s s' : AuthSystem}

theorem Spent.mono {headers : AuthHeaders} {time : Nat} (h : s.Spent headers time)
    (hissued : ∀ x ∈ s.issued, x ∈ s'.issued)
    (hgone : s.nonces.store.lookup headers.nonce = none → s'.nonces.store.lookup headers.nonce = none) :
    s'.Spent headers time := by
  obtain ⟨⟨expiresAt, hmem, htime⟩, hnone⟩ := h
  exact ⟨⟨expiresAt, hissued _ hmem, htime⟩, hgone hnone⟩

theorem Spent.mem_issued {headers : AuthHeaders} {time : Nat} (h : s.Spent headers time) :
    headers.nonce ∈ s.issued.map Prod.fst := by
  obtain ⟨⟨expiresAt, hmem, -⟩, -⟩ := h
  exact List.mem_map_of_mem hmem

section

variable {id id' : Nat} {r r' : AuthRequest} {headers headers' : AuthHeaders} {time now : Nat}

theorem lookup_serve (h : (s.serve sdk id r now).requests.lookup id' = some r') :
    (id' = id ∧ r' = (r.next sdk s.nonces now).1) ∨ s.requests.lookup id' = some r' := by
  rw [serve, Table.lookup_insert] at h
  split at h
  next hid =>
    cases h
    exact .inl ⟨hid, rfl⟩
  next => exact .inr h

/-- What a request has spent it spent before, or it is the one served and consumes the nonce now. -/
theorem spent_serve (hr : s.requests.lookup id = some r)
    (hr' : (s.serve sdk id r now).requests.lookup id' = some r') (hspent : r'.spent = some (headers, time)) :
    (∃ r₀, s.requests.lookup id' = some r₀ ∧ r₀.spent = some (headers, time)) ∨
      (id' = id ∧ time = now ∧
        s.nonces.consume headers.address headers.nonce now = (true, (s.serve sdk id r now).nonces)) := by
  rcases lookup_serve hr' with ⟨rfl, rfl⟩ | hr'
  · rcases r.next_spent sdk s.nonces now with ⟨consumed, key, -, hconsume, hnow⟩ | hnone | hsame
    · rw [hnow] at hspent
      cases hspent
      exact .inr ⟨rfl, rfl, hconsume⟩
    · rw [hnone] at hspent
      cases hspent
    · exact .inl ⟨r, hr, by rw [← hsame, hspent]⟩
  · exact .inl ⟨r', hr', hspent⟩

/-- A nonce that can be consumed is in the store, so no request has spent it. -/
theorem Consistent.unspent (h : s.Consistent sdk) {nonces : MemoryNonceStore}
    (hr : s.requests.lookup id = some r) (hspent : r.spent = some (headers, time))
    (hconsume : s.nonces.consume headers'.address headers'.nonce now = (true, nonces)) :
    headers.nonce ≠ headers'.nonce := by
  intro heq
  obtain ⟨expiresAt, hentry, -, -⟩ := MemoryNonceStore.consume_true hconsume
  have hnone := (h.spent id r headers time hr hspent).2
  rw [heq, hentry] at hnone
  cases hnone

/-- A request takes a step. -/
theorem Consistent.serve (h : s.Consistent sdk) (hr : s.requests.lookup id = some r) (now : Nat) :
    (s.serve sdk id r now).Consistent sdk := by
  have hstore : ∀ nonce, (s.serve sdk id r now).nonces.store.lookup nonce = s.nonces.store.lookup nonce ∨
      (s.serve sdk id r now).nonces.store.lookup nonce = none := fun nonce => r.next_store s.nonces now
  have hgone : ∀ nonce, s.nonces.store.lookup nonce = none →
      (s.serve sdk id r now).nonces.store.lookup nonce = none := by
    intro nonce hnone
    rcases hstore nonce with heq | heq
    · rw [heq, hnone]
    · exact heq
  refine ⟨fun nonce entry hentry => ?_, fun id' r' hr' => ?_, fun id' r' headers time hr' hs => ?_, ?_⟩
  · rcases hstore nonce with heq | heq
    · exact h.stored nonce entry (by rw [← heq, hentry])
    · rw [heq] at hentry
      cases hentry
  · rcases lookup_serve hr' with ⟨-, rfl⟩ | hr'
    · exact (h.sound id r hr).next s.nonces now
    · exact h.sound id' r' hr'
  · rcases spent_serve hr hr' hs with ⟨r₀, hr₀, hs₀⟩ | ⟨-, rfl, hconsume⟩
    · exact (h.spent id' r₀ headers time hr₀ hs₀).mono (fun _ hx => hx) (hgone _)
    · obtain ⟨expiresAt, hentry, htime, hdelete⟩ := MemoryNonceStore.consume_true hconsume
      refine ⟨⟨expiresAt, h.stored _ _ hentry, htime⟩, ?_⟩
      rw [hdelete, MemoryNonceStore.lookup_delete, if_pos rfl]
  · intro id₁ id₂ r₁ r₂ headers₁ headers₂ t₁ t₂ hr₁ hr₂ hs₁ hs₂ heq
    rcases spent_serve hr hr₁ hs₁ with ⟨r₁', hr₁', hs₁'⟩ | ⟨rfl, -, hc₁⟩
    · rcases spent_serve hr hr₂ hs₂ with ⟨r₂', hr₂', hs₂'⟩ | ⟨rfl, -, hc₂⟩
      · exact h.once id₁ id₂ r₁' r₂' headers₁ headers₂ t₁ t₂ hr₁' hr₂' hs₁' hs₂' heq
      · exact absurd heq (h.unspent hr₁' hs₁' hc₂)
    · rcases spent_serve hr hr₂ hs₂ with ⟨r₂', hr₂', hs₂'⟩ | ⟨rfl, -, hc₂⟩
      · exact absurd heq.symm (h.unspent hr₂' hs₂' hc₁)
      · rfl

end

theorem Consistent.step (h : s.Consistent sdk) (hstep : s.Step sdk config s')
    (hdistinct : (s'.issued.map Prod.fst).Nodup) : s'.Consistent sdk := by
  cases hstep with
  | issue hissue =>
    have hstore := MemoryNonceStore.issue_eq_ok hissue
    refine ⟨fun nonce entry hentry => ?_, h.sound, fun id r headers time hr hs => ?_, h.once⟩
    · dsimp only at hentry
      rw [hstore, Table.lookup_insert] at hentry
      split at hentry
      next heq =>
        cases hentry
        rw [heq]
        exact List.mem_cons_self
      next => exact List.mem_cons_of_mem _ (h.stored nonce entry hentry)
    · have hspent := h.spent id r headers time hr hs
      refine hspent.mono (fun _ hx => List.mem_cons_of_mem _ hx) fun hnone => ?_
      dsimp only
      rw [hstore, AList.lookup_insert_ne, hnone]
      rintro rfl
      exact (List.nodup_cons.mp hdistinct).1 hspent.mem_issued
  | sweep now =>
    refine ⟨fun nonce entry hentry => ?_, h.sound, fun id r headers time hr hs => ?_, h.once⟩
    · exact h.stored nonce entry (s.nonces.sweep_sub now hentry)
    · refine (h.spent id r headers time hr hs).mono (fun _ hx => hx) fun hnone => ?_
      rcases hswept : (s.nonces.sweep now).store.lookup headers.nonce with _ | entry
      · rfl
      · rw [s.nonces.sweep_sub now hswept] at hnone
        cases hnone
  | @receive id authorization targetAddress hnew =>
    -- a request that was just received has spent nothing
    have hold : ∀ id' r', AList.lookup id' (s.requests.insert id { authorization, targetAddress }) = some r' →
        r' = { authorization, targetAddress } ∨ s.requests.lookup id' = some r' := by
      intro id' r' hr'
      rw [Table.lookup_insert] at hr'
      split at hr'
      · cases hr'
        exact .inl rfl
      · exact .inr hr'
    have hspent : ∀ id' r' spent, AList.lookup id' (s.requests.insert id { authorization, targetAddress }) =
        some r' → r'.spent = some spent → s.requests.lookup id' = some r' := by
      intro id' r' spent hr' hs
      rcases hold id' r' hr' with rfl | hr'
      · cases hs
      · exact hr'
    refine ⟨h.stored, fun id' r' hr' => ?_, fun id' r' headers time hr' hs => ?_, ?_⟩
    · rcases hold id' r' hr' with rfl | hr'
      · exact ⟨by simp, by simp, by simp⟩
      · exact h.sound id' r' hr'
    · exact h.spent id' r' headers time (hspent id' r' _ hr' hs) hs
    · intro id₁ id₂ r₁ r₂ headers₁ headers₂ t₁ t₂ hr₁ hr₂ hs₁ hs₂ heq
      exact h.once id₁ id₂ r₁ r₂ headers₁ headers₂ t₁ t₂ (hspent id₁ r₁ _ hr₁ hs₁) (hspent id₂ r₂ _ hr₂ hs₂)
        hs₁ hs₂ heq
  | serve hr now => exact h.serve hr now

theorem issued_grows (hstep : s.Step sdk config s') : s.issued.Sublist s'.issued := by
  cases hstep with
  | issue h => exact List.sublist_cons_self _ _
  | sweep now => exact .refl _
  | receive authorization targetAddress h => exact .refl _
  | serve h now => exact .refl _

theorem Reachable.consistent (h : s.Reachable sdk config) (hdistinct : (s.issued.map Prod.fst).Nodup) :
    s.Consistent sdk := by
  induction h with
  | refl => exact ⟨by simp, by simp, by simp, by simp⟩
  | tail _ hstep ih =>
    have hbefore := hdistinct.sublist ((issued_grows hstep).map Prod.fst)
    exact (ih hbefore).step hstep hdistinct

end AuthSystem

/-- The nonce a request presents. -/
def AuthRequest.nonce (r : AuthRequest) : Option String := (extractAuthHeaders r.authorization).map (·.nonce)

/-- **A nonce authenticates at most once, and its owner only**: the requests that succeed
present different nonces; each presents one issued to the address it is authenticated as,
with a signature by the key of that address over the nonce and the address, and consumed
it in time; and no step of a request without such a signature touches the store. -/
theorem nonce_authenticates_owner_once {config : NonceConfig} {s : AuthSystem} (h : s.Reachable sdk config)
    (hdistinct : (s.issued.map Prod.fst).Nodup) :
    (∀ id₁ id₂ r₁ r₂ address₁ address₂ key₁ key₂,
      s.requests.lookup id₁ = some r₁ → s.requests.lookup id₂ = some r₂ →
      r₁.phase = .done (.authenticated address₁ key₁) → r₂.phase = .done (.authenticated address₂ key₂) →
      r₁.nonce = r₂.nonce → id₁ = id₂) ∧
    (∀ id r address key, s.requests.lookup id = some r → r.phase = .done (.authenticated address key) →
      ∃ headers entry time, extractAuthHeaders r.authorization = some headers ∧
        headers.address = address ∧ sdk.Verifies headers key ∧
        (headers.nonce, entry) ∈ s.issued ∧ entry.address = address ∧
        r.spent = some (headers, time) ∧ time ≤ entry.expiresAt) ∧
    (∀ id r, s.requests.lookup id = some r →
      (∀ headers key, extractAuthHeaders r.authorization = some headers → ¬ sdk.Verifies headers key) →
      ∀ now, (s.serve sdk id r now).nonces = s.nonces) := by
  have hinv := h.consistent hdistinct
  refine ⟨?_, ?_, ?_⟩
  · intro id₁ id₂ r₁ r₂ address₁ address₂ key₁ key₂ hr₁ hr₂ hdone₁ hdone₂ hnonce
    obtain ⟨headers₁, t₁, hcheck₁, -, hs₁⟩ := (hinv.sound id₁ r₁ hr₁).done _ _ hdone₁
    obtain ⟨headers₂, t₂, hcheck₂, -, hs₂⟩ := (hinv.sound id₂ r₂ hr₂).done _ _ hdone₂
    refine hinv.once id₁ id₂ r₁ r₂ headers₁ headers₂ t₁ t₂ hr₁ hr₂ hs₁ hs₂ ?_
    simpa [AuthRequest.nonce, (checkSignature_eq_ok hcheck₁).1, (checkSignature_eq_ok hcheck₂).1] using hnonce
  · intro id r address key hr hdone
    obtain ⟨headers, time, hcheck, rfl, hs⟩ := (hinv.sound id r hr).done _ _ hdone
    obtain ⟨hextract, hverifies⟩ := checkSignature_eq_ok hcheck
    obtain ⟨⟨expiresAt, hmem, htime⟩, -⟩ := hinv.spent id r headers time hr hs
    exact ⟨headers, _, time, hextract, rfl, hverifies, hmem, rfl, hs, htime⟩
  · intro id r hr hnot now
    show (r.next sdk s.nonces now).2 = s.nonces
    rw [AuthRequest.next]
    cases hphase : r.phase with
    | received => cases checkSignature sdk r.authorization <;> rfl
    | verified headers key =>
      obtain ⟨hextract, hverifies⟩ := checkSignature_eq_ok ((hinv.sound id r hr).verified _ _ hphase)
      exact absurd hverifies (hnot headers key hextract)
    | consumed headers key nonceValid => rfl
    | done result => rfl

/-- Requests served one step each, in this order, when the clock reads `now`. -/
def AuthSystem.serveAll (sdk : StellarSdk) (now : Nat) (s : AuthSystem) (ids : List Nat) : AuthSystem :=
  ids.foldl (fun s id => match s.requests.lookup id with
    | none => s
    | some r => s.serve sdk id r now) s

theorem AuthSystem.Reachable.serveAll {config : NonceConfig} {s : AuthSystem} (h : s.Reachable sdk config)
    (now : Nat) (ids : List Nat) : (s.serveAll sdk now ids).Reachable sdk config := by
  induction ids generalizing s with
  | nil => exact h
  | cons id ids ih =>
    have hserved : AuthSystem.Reachable sdk config (match s.requests.lookup id with
      | none => s
      | some r => s.serve sdk id r now) := by
      split
      · exact h
      next hr => exact h.tail (.serve hr now)
    exact ih hserved

/-- An SDK that knows one account, which signed one challenge. -/
def memberSdk : StellarSdk where
  isValidEd25519PublicKey := (· = "GMEMBER")
  isValidMed25519PublicKey _ := false
  isValidContract _ := false
  baseAccountId _ := none
  decodeBase64 signature := List.replicate (if signature = "sig" then 64 else 0) 0
  verify key data _ := key = "GMEMBER" ∧ data = "0000000003e8ff:GMEMBER"

/-- One nonce is issued, and two requests arrive with it. -/
def sharedNonce : AuthSystem where
  nonces := { store := AList.insert "0000000003e8ff" ⟨"GMEMBER", 301000⟩ ∅
              addressIssueCounts := AList.insert "GMEMBER" 1 ∅ }
  issued := [("0000000003e8ff", ⟨"GMEMBER", 301000⟩)]
  requests :=
    let r : AuthRequest := { authorization := some "StellarSignature GMEMBER:sig:0000000003e8ff" }
    AList.insert 1 r (AList.insert 0 r ∅)

theorem sharedNonce_reachable : sharedNonce.Reachable memberSdk {} := by
  have hissue : MemoryNonceStore.issue {} {} "GMEMBER" 1000 1000 "ff" =
      .ok ("0000000003e8ff", sharedNonce.nonces) := by rfl
  have hissued : AuthSystem.Reachable memberSdk {}
      { nonces := sharedNonce.nonces, issued := sharedNonce.issued } := .tail .refl (.issue hissue)
  have hfirst : AuthSystem.Reachable memberSdk {}
      { nonces := sharedNonce.nonces, issued := sharedNonce.issued,
        requests := AList.insert 0 { authorization := some "StellarSignature GMEMBER:sig:0000000003e8ff" } ∅ } :=
    hissued.tail (.receive _ none (by decide))
  exact hfirst.tail (.receive _ none (by decide))

/-- Their steps in turn. -/
def reusedNonce : AuthSystem := sharedNonce.serveAll memberSdk 2000 [0, 1, 0, 1, 0, 1]

/-- The first of them is authenticated, with the nonce of its address; the second is refused. -/
theorem nonce_authenticates_owner_once_reused :
    (reusedNonce.requests.lookup 1).map (·.phase) = some (.done (.denied 401 "Invalid or expired nonce")) ∧
      ∃ r headers entry time, reusedNonce.requests.lookup 0 = some r ∧
        r.phase = .done (.authenticated "GMEMBER" "GMEMBER") ∧
        (headers.nonce, entry) ∈ reusedNonce.issued ∧ entry.address = "GMEMBER" ∧
        r.spent = some (headers, time) ∧ time ≤ entry.expiresAt := by
  refine ⟨by decide +kernel, ?_⟩
  have hserved : (reusedNonce.requests.lookup 0).map (·.phase) =
      some (.done (.authenticated "GMEMBER" "GMEMBER")) := by decide +kernel
  obtain ⟨r, hr, hdone⟩ := Option.map_eq_some_iff.mp hserved
  have hmain := nonce_authenticates_owner_once (sharedNonce_reachable.serveAll 2000 [0, 1, 0, 1, 0, 1])
    (by decide +kernel)
  obtain ⟨headers, entry, time, -, -, -, hmem, haddress, hs, htime⟩ := hmain.2.1 0 r _ _ hr hdone
  exact ⟨r, headers, entry, time, hr, hdone, hmem, haddress, hs, htime⟩

end OurDao
