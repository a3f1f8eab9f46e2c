import OurDao.LedgerFeeds
import OurDao.Notifications

/-!
# The two routes that mark notifications as read

`PATCH /notifications/read-all` compares the address it is about with the one in the header,
`PATCH /notifications/:id/read` compares the owner of the row with the account under that
address. The two differ for a muxed address.
-/

namespace OurDao

open Faults Op Site

section

variable {ν : Type} (sdk : StellarSdk) (store : NonceStore ν)

/-- The request is answered, and not refused. -/
def Mutation.Allowed (r : Mutation) (headers : Headers) (s : Site Nat ν) : Prop :=
  ∃ reply, (r.serve .healthy sdk store headers none s).1 = .done reply ∧
    ∀ status error, reply ≠ .refused status error

/-- The site after a request. -/
def Mutation.leaves (r : Mutation) (headers : Headers) (s : Site Nat ν) : Site Nat ν :=
  (r.serve .healthy sdk store headers none s).2

/-- One request after the other, each with headers of its own, to read the notifications with these ids. -/
def readEach : List (Nat × Headers) → Site Nat ν → Site Nat ν
  | [], s => s
  | (id, headers) :: reads, s => readEach reads ((Mutation.markRead (toString id)).leaves sdk store headers s)

def EachAllowed : List (Nat × Headers) → Site Nat ν → Prop
  | [], _ => True
  | (id, headers) :: reads, s => (Mutation.markRead (toString id)).Allowed sdk store headers s ∧
      EachAllowed reads ((Mutation.markRead (toString id)).leaves sdk store headers s)

end

/-- A row of `notifications`. -/
def Site.Holds {ν : Type} (s : Site Nat ν) (key : String × String) (row : NotificationRow) : Prop :=
  s.world.db.tables.notifications.lookup key = some row

/-- `id` is the primary key. -/
def Site.IdsUnique {ν : Type} (s : Site Nat ν) : Prop :=
  ∀ key key' row row', s.Holds key row → s.Holds key' row' → row.id = row'.id → key = key'

/-- The two routes let the same callers mark the notifications of `a`, and mark the same ones. -/
structure MarkingAgrees {ν : Type} (sdk : StellarSdk) (store : NonceStore ν) (a : String) (headers : Headers)
    (s : Site Nat ν) : Prop where
  callers : (Mutation.markAllRead (some a)).Allowed sdk store headers s ↔
    ∀ key row, s.Holds key row → key.2 = a → (Mutation.markRead (toString row.id)).Allowed sdk store headers s
  rows : ∀ reads allHeaders,
    (∀ id, id ∈ reads.map Prod.fst ↔ ∃ key row, s.Holds key row ∧ key.2 = a ∧ row.id = id) →
      EachAllowed sdk store reads s → (Mutation.markAllRead (some a)).Allowed sdk store allHeaders s →
        ∀ key row, (readEach sdk store reads s).Holds key row ↔
          ((Mutation.markAllRead (some a)).leaves sdk store allHeaders s).Holds key row

/-- An id that the route takes. -/
def ReadableId (id : Nat) : Prop := 0 < id ∧ id < 2 ^ 53

/-- The caller presents `a` itself, and every id is taken; or presents another address, and there is
a notification that the account under it may not mark: another's, or one whose id is not taken. -/
def SameCallers {ν : Type} (sdk : StellarSdk) (a address : String) (s : Site Nat ν) : Prop :=
  if a = address then ∀ key row, s.Holds key row → key.2 = a → ReadableId row.id
  else ∃ key row, s.Holds key row ∧ key.2 = a ∧ (sdk.keyOf address ≠ some a ∨ ¬ ReadableId row.id)

section

variable {ν : Type} {sdk : StellarSdk} {store : NonceStore ν} {headers : Headers} {s : Site Nat ν}
  {a address ed25519Address : String} {id : Nat}

theorem authOutcome_world (target : Option String) :
    (authOutcome sdk store headers target s).2.world = s.world := by
  obtain ⟨nonces, hframe⟩ := authOutcome_frame sdk store headers target s
  rw [hframe]

/-- What stands behind an authenticated caller. -/
theorem authOutcome_eq_done
    (hauth : (authOutcome sdk store headers none s).1 = .done (.authenticated address ed25519Address)) :
    ∃ h nonces, checkSignature sdk (headers "authorization") = .ok (h, ed25519Address) ∧ h.address = address ∧
      store.consume h.address h.nonce s.nonces = (.done true, nonces) := by
  rw [authOutcome, authenticateRequest] at hauth
  rcases hcheck : checkSignature sdk (headers "authorization") with ⟨status, error⟩ | ⟨h, key⟩
  · rw [hcheck] at hauth
    cases hauth
  · rcases hconsume : store.consume h.address h.nonce s.nonces with ⟨o, nonces⟩
    rw [hcheck] at hauth
    dsimp only at hauth
    rw [bind_run, onNonces, hconsume] at hauth
    cases o with
    | raised e => cases hauth
    | crashed => cases hauth
    | done nonceValid =>
      cases nonceValid with
      | false => cases hauth
      | true =>
        cases hauth
        exact ⟨h, nonces, rfl, rfl, hconsume⟩

/-- What is said to an authenticated caller about a target. -/
theorem authOutcome_target
    (hauth : (authOutcome sdk store headers none s).1 = .done (.authenticated address ed25519Address))
    (htarget : a ≠ "") : (authOutcome sdk store headers (some a) s).1 = .done (if a = address then
      .authenticated address ed25519Address else .denied 403 "Cannot modify notifications for another address") := by
  obtain ⟨h, nonces, hcheck, rfl, hconsume⟩ := authOutcome_eq_done hauth
  rw [authOutcome, authenticateRequest, hcheck]
  dsimp only
  rw [bind_run, onNonces, hconsume]
  by_cases heq : a = h.address
  · simp [checkTarget, heq]
  · simp [checkTarget, heq, htarget]

/-- The account of an authenticated caller is the one under the address it presents. -/
theorem keyOf_of_authenticated
    (hauth : (authOutcome sdk store headers none s).1 = .done (.authenticated address ed25519Address)) :
    sdk.keyOf address = some ed25519Address := by
  obtain ⟨h, nonces, hcheck, rfl, -⟩ := authOutcome_eq_done hauth
  exact (checkSignature_eq_ok hcheck).2.1

section

variable {target : Option String} {next : String → String → Op (Site Nat ν) Failure Reply}

theorem authenticateRequest_eq {o : Outcome Failure AuthResult}
    (ho : (authOutcome sdk store headers target s).1 = o) :
    authenticateRequest sdk (fun address nonce => onNonces (store.consume address nonce)) (headers "authorization")
      target s = (o, (authOutcome sdk store headers target s).2) := Prod.ext ho rfl

theorem authenticated_denied {status : Nat} {error : String}
    (hauth : (authOutcome sdk store headers target s).1 = .done (.denied status error)) :
    authenticated sdk store headers target next s =
      (.done (.refused status error), (authOutcome sdk store headers target s).2) := by
  rw [authenticated, bind_done (authenticateRequest_eq hauth)]
  rfl

theorem authenticated_next
    (hauth : (authOutcome sdk store headers target s).1 = .done (.authenticated address ed25519Address)) :
    authenticated sdk store headers target next s =
      next address ed25519Address (authOutcome sdk store headers target s).2 := by
  rw [authenticated, bind_done (authenticateRequest_eq hauth)]

theorem authenticated_of_done {reply : Reply} (h : (authenticated sdk store headers target next s).1 = .done reply)
    (hnot : ∀ status error, reply ≠ .refused status error) : ∃ address ed25519Address,
      (authOutcome sdk store headers target s).1 = .done (.authenticated address ed25519Address) := by
  cases ho : (authOutcome sdk store headers target s).1 with
  | done result =>
    cases result with
    | authenticated address key => exact ⟨address, key, rfl⟩
    | denied status error =>
      rw [authenticated_denied ho] at h
      cases h
      exact absurd rfl (hnot status error)
  | raised e =>
    rw [authenticated, bind_raised (authenticateRequest_eq ho)] at h
    cases h
  | crashed =>
    rw [authenticated, bind_crashed (authenticateRequest_eq ho)] at h
    cases h

end

theorem notificationId_toString (id : Nat) :
    notificationId (toString id) = if 0 < id ∧ id < 2 ^ 53 then some id else none := by
  rw [notificationId, trim_toString, digits_toString, Option.filter_some]
  simp only [decide_eq_true_eq]

/-- The first row with an id, where ids are unique. -/
theorem find?_id (hids : s.IdsUnique) {key : String × String} {row : NotificationRow} (hrow : s.Holds key row) :
    (Table.rows s.world.db.tables.notifications).find? (fun r => r.2.id = row.id) = some (key, row) := by
  obtain ⟨⟨k, found⟩, hfound⟩ :
      ∃ r, (Table.rows s.world.db.tables.notifications).find? (fun r => r.2.id = row.id) = some r :=
    Option.isSome_iff_exists.mp (List.find?_isSome.mpr ⟨(key, row), Table.mem_rows.mpr hrow, by simp⟩)
  have hmem : s.Holds k found := Table.mem_rows.mp (List.mem_of_find?_eq_some hfound)
  have hid : found.id = row.id := by simpa using List.find?_some hfound
  obtain rfl : k = key := hids _ _ _ _ hmem hrow hid
  obtain rfl : found = row := Option.some.inj (hmem.symm.trans hrow)
  exact hfound

/-- A statement that marks, on its own. -/
theorem transaction_updateRead (p : String × String → NotificationRow → Bool) (w : World Nat) :
    ∃ rows w', transaction .healthy (updateRead p) w = (.done rows, w') ∧
      rows = ((Table.rows w.db.tables.notifications).filter fun r => p r.1 r.2).map
        (fun r => (r.1, { r.2 with read := true })) ∧
      ∀ key, w'.db.tables.notifications.lookup key =
        (w.db.tables.notifications.lookup key).map fun row => if p key row then { row with read := true } else row :=
  ⟨_, _, rfl, rfl, fun _ => Table.lookup_mapRows _⟩

/-- One notification, for one account: who may, and what it does. -/
theorem markReadFor_spec (id : Nat) (ed25519Address : String) (w : World Nat) :
    ∃ reply w', markReadFor .healthy (toString id) ed25519Address w = (.done reply, w') ∧
      ((∀ status error, reply ≠ .refused status error) ↔ ReadableId id ∧ ∃ found,
        (Table.rows w.db.tables.notifications).find? (fun r => r.2.id = id) = some found ∧
          found.1.2 = ed25519Address) ∧
      ((∀ status error, reply ≠ .refused status error) → ∀ key, w'.db.tables.notifications.lookup key =
        (w.db.tables.notifications.lookup key).map fun row =>
          if row.id = id then { row with read := true } else row) := by
  rw [markReadFor, notificationId_toString, ReadableId]
  by_cases hid : 0 < id ∧ id < 2 ^ 53
  · rw [if_pos hid]
    dsimp only
    have hselect : transaction .healthy (selectNotification id) w =
        (.done ((Table.rows w.db.tables.notifications).find? fun r => r.2.id = id), { w with env := w.env + 1 }) :=
      rfl
    rw [bind_done hselect]
    cases hfound : (Table.rows w.db.tables.notifications).find? fun r => r.2.id = id with
    | none => exact ⟨_, _, rfl, by simp, fun hnot => absurd rfl (hnot _ _)⟩
    | some found =>
      obtain ⟨key, row⟩ := found
      dsimp only
      by_cases howner : key.2 = ed25519Address
      · obtain ⟨rows, w', hupdate, hrows, hafter⟩ :=
          transaction_updateRead (fun _ row => row.id = id) { w with env := w.env + 1 }
        have hmem : (key, { row with read := true }) ∈ rows := by
          rw [hrows]
          refine List.mem_map.mpr ⟨(key, row), List.mem_filter.mpr ⟨List.mem_of_find?_eq_some hfound, ?_⟩, rfl⟩
          simpa using List.find?_some hfound
        rw [if_neg (by simpa using howner), bind_done hupdate]
        cases rows with
        | nil => cases hmem
        | cons first rows =>
          exact ⟨_, _, rfl, ⟨fun _ => ⟨hid, _, rfl, howner⟩, fun _ _ _ => by simp⟩,
            fun _ key => by simpa using hafter key⟩
      · rw [if_pos howner]
        refine ⟨_, _, rfl, ⟨fun hnot => absurd rfl (hnot _ _), ?_⟩, fun hnot => absurd rfl (hnot _ _)⟩
        rintro ⟨-, found, hsame, hkey⟩
        obtain rfl := Option.some.inj hsame
        exact absurd hkey howner
  · rw [if_neg hid]
    exact ⟨_, _, rfl, ⟨fun hnot => absurd rfl (hnot _ _), fun h => absurd h.1 hid⟩,
      fun hnot => absurd rfl (hnot _ _)⟩

theorem allowed_markRead
    (hauth : (authOutcome sdk store headers none s).1 = .done (.authenticated address ed25519Address)) (id : Nat) :
    (Mutation.markRead (toString id)).Allowed sdk store headers s ↔ ReadableId id ∧ ∃ found,
      (Table.rows s.world.db.tables.notifications).find? (fun r => r.2.id = id) = some found ∧
        found.1.2 = ed25519Address := by
  obtain ⟨reply, w', hrun, hallowed, -⟩ := markReadFor_spec id ed25519Address s.world
  rw [← hallowed, Mutation.Allowed, Mutation.serve, authenticated_next hauth, onWorld, authOutcome_world, hrun]
  constructor
  · rintro ⟨other, heq, hnot⟩
    cases heq
    exact hnot
  · exact fun hnot => ⟨reply, rfl, hnot⟩

theorem allowed_markRead_iff (hids : s.IdsUnique)
    (hauth : (authOutcome sdk store headers none s).1 = .done (.authenticated address ed25519Address))
    {key : String × String} {row : NotificationRow} (hrow : s.Holds key row) :
    (Mutation.markRead (toString row.id)).Allowed sdk store headers s ↔
      ReadableId row.id ∧ key.2 = ed25519Address := by
  rw [allowed_markRead hauth, find?_id hids hrow]
  simp

theorem allowed_markAllRead_iff (ha : a ≠ "") (hvalid : sdk.isValidEd25519PublicKey a = true)
    (hauth : (authOutcome sdk store headers none s).1 = .done (.authenticated address ed25519Address)) :
    (Mutation.markAllRead (some a)).Allowed sdk store headers s ↔ a = address := by
  have htarget := authOutcome_target hauth ha
  rw [Mutation.Allowed, Mutation.serve, if_neg (by simp [ha, hvalid])]
  by_cases heq : a = address
  · rw [if_pos heq] at htarget
    rw [authenticated_next htarget]
    exact iff_of_true ⟨_, rfl, fun _ _ h => by cases h⟩ heq
  · rw [if_neg heq] at htarget
    rw [authenticated_denied htarget]
    refine iff_of_false ?_ heq
    rintro ⟨reply, hreply, hnot⟩
    cases hreply
    exact hnot _ _ rfl

theorem lookup_leaves_markRead (h : (Mutation.markRead (toString id)).Allowed sdk store headers s)
    (key : String × String) :
    ((Mutation.markRead (toString id)).leaves sdk store headers s).world.db.tables.notifications.lookup key =
      (s.world.db.tables.notifications.lookup key).map fun row =>
        if row.id = id then { row with read := true } else row := by
  obtain ⟨reply, hreply, hnot⟩ := h
  obtain ⟨address, ed25519Address, hauth⟩ := authenticated_of_done hreply hnot
  obtain ⟨other, w', hrun, -, hafter⟩ := markReadFor_spec id ed25519Address s.world
  rw [Mutation.serve, authenticated_next hauth, onWorld, authOutcome_world, hrun] at hreply
  cases hreply
  rw [Mutation.leaves, Mutation.serve, authenticated_next hauth, onWorld, authOutcome_world, hrun]
  exact hafter hnot key

theorem lookup_leaves_markAllRead (h : (Mutation.markAllRead (some a)).Allowed sdk store headers s)
    (key : String × String) :
    ((Mutation.markAllRead (some a)).leaves sdk store headers s).world.db.tables.notifications.lookup key =
      (s.world.db.tables.notifications.lookup key).map fun row =>
        if key.2 = a then { row with read := true } else row := by
  obtain ⟨reply, hreply, hnot⟩ := h
  rw [Mutation.leaves]
  rw [Mutation.serve] at hreply ⊢
  split at hreply
  next =>
    cases hreply
    exact absurd rfl (hnot _ _)
  next hvalid =>
    obtain ⟨address, ed25519Address, hauth⟩ := authenticated_of_done hreply hnot
    obtain ⟨rows, w', hupdate, -, hafter⟩ := transaction_updateRead (fun key row => key.2 = a && !row.read) s.world
    rw [if_neg hvalid, authenticated_next hauth, onWorld, authOutcome_world, markAllReadFor, bind_done hupdate]
    refine (hafter key).trans ?_
    congr 1
    funext row
    by_cases hkey : key.2 = a
    · cases hread : row.read with
      | false => simp [hkey]
      | true =>
        simp only [hkey, Bool.not_true, Bool.and_false, Bool.false_eq_true, if_false, if_true]
        rw [← hread]
    · simp [hkey]

theorem lookup_readEach {reads : List (Nat × Headers)} (h : EachAllowed sdk store reads s) (key : String × String) :
    (readEach sdk store reads s).world.db.tables.notifications.lookup key =
      (s.world.db.tables.notifications.lookup key).map fun row =>
        if row.id ∈ reads.map Prod.fst then { row with read := true } else row := by
  induction reads generalizing s with
  | nil => simp [readEach]
  | cons read reads ih =>
    obtain ⟨id, headers⟩ := read
    rw [readEach, ih h.2, lookup_leaves_markRead h.1, Option.map_map]
    congr 1
    funext row
    by_cases hid : row.id = id
    · by_cases hmem : row.id ∈ reads.map Prod.fst <;> simp_all
    · by_cases hmem : row.id ∈ reads.map Prod.fst <;> simp_all

/-- After both, the same notifications are marked. -/
theorem same_rows_marked (hids : s.IdsUnique) {reads : List (Nat × Headers)} {allHeaders : Headers}
    (hreads : ∀ id, id ∈ reads.map Prod.fst ↔ ∃ key row, s.Holds key row ∧ key.2 = a ∧ row.id = id)
    (heach : EachAllowed sdk store reads s) (hall : (Mutation.markAllRead (some a)).Allowed sdk store allHeaders s)
    (key : String × String) (row : NotificationRow) : (readEach sdk store reads s).Holds key row ↔
      ((Mutation.markAllRead (some a)).leaves sdk store allHeaders s).Holds key row := by
  rw [Site.Holds, Site.Holds, lookup_readEach heach, lookup_leaves_markAllRead hall]
  cases hrow : s.world.db.tables.notifications.lookup key with
  | none => rfl
  | some found =>
    have hmem : found.id ∈ reads.map Prod.fst ↔ key.2 = a := by
      rw [hreads]
      constructor
      · rintro ⟨other, row', hother, hkey, hid⟩
        rwa [← hids _ _ _ _ hother hrow hid]
      · exact fun hkey => ⟨key, found, hrow, hkey, rfl⟩
    rw [Option.map_some, Option.map_some]
    by_cases hkey : key.2 = a
    · rw [if_pos (hmem.mpr hkey), if_pos hkey]
    · rw [if_neg (mt hmem.mp hkey), if_neg hkey]

/-- The two routes agree unless a caller presents a muxed address of `a`, or `a` has a notification
whose id is not taken, or none at all. -/
theorem markingAgrees_iff (ha : a ≠ "") (hvalid : sdk.isValidEd25519PublicKey a = true) (hids : s.IdsUnique)
    (hauth : (authOutcome sdk store headers none s).1 = .done (.authenticated address ed25519Address)) :
    MarkingAgrees sdk store a headers s ↔ SameCallers sdk a address s := by
  have hkeyOf := keyOf_of_authenticated hauth
  have hiff : MarkingAgrees sdk store a headers s ↔
      (a = address ↔ ∀ key row, s.Holds key row → key.2 = a → ReadableId row.id ∧ a = ed25519Address) := by
    have heach : (∀ key row, s.Holds key row → key.2 = a →
        (Mutation.markRead (toString row.id)).Allowed sdk store headers s) ↔
          ∀ key row, s.Holds key row → key.2 = a → ReadableId row.id ∧ a = ed25519Address := by
      refine forall₄_congr fun key row hrow hkey => ?_
      rw [allowed_markRead_iff hids hauth hrow, hkey]
    rw [← heach, ← allowed_markAllRead_iff ha hvalid hauth]
    exact ⟨MarkingAgrees.callers, fun h => ⟨h, fun _ _ hreads heach hall => same_rows_marked hids hreads heach hall⟩⟩
  rw [hiff, SameCallers]
  by_cases heq : a = address
  · have hown : a = ed25519Address := by
      have hself : sdk.keyOf a = some a := by simp [StellarSdk.keyOf, classifyStellarAddress, hvalid]
      rw [← heq, hself] at hkeyOf
      exact Option.some.inj hkeyOf
    rw [if_pos heq, iff_true_left heq]
    exact forall₄_congr fun key row _ _ => and_iff_left hown
  · rw [if_neg heq, hkeyOf]
    simp only [heq, false_iff]
    push Not
    refine exists₂_congr fun key row => and_congr_right fun _ => and_congr_right fun _ => ?_
    simp only [ne_eq, Option.some.injEq]
    constructor
    · intro h
      by_cases hid : ReadableId row.id
      · exact .inl fun hsame => h hid hsame.symm
      · exact .inr hid
    · rintro (hne | hid)
      · exact fun _ hsame => hne hsame.symm
      · exact fun hthere => absurd hthere hid

end

def muxedSdk : StellarSdk where
  isValidEd25519PublicKey := (· = "GMEMBER")
  isValidMed25519PublicKey := (· = "MMEMBER")
  isValidContract _ := false
  baseAccountId _ := some "GMEMBER"
  decodeBase64 signature := List.replicate (if signature = "sig" then 64 else 0) 0
  verify key data _ := key = "GMEMBER" ∧ (data = "n:GMEMBER" ∨ data = "n:MMEMBER")

def presenting (address : String) : Headers := fun name =>
  if name = "authorization" then some s!"StellarSignature {address}:sig:n" else none

/-- One notification, and a nonce for the address that is presented. -/
def memberInbox (address : String) : Site Nat MemoryNonceStore where
  world :=
    { freshWorld 0 with db := { tables := { Tables.empty with
        notifications := AList.insert ("7-1", "GMEMBER") (welcomeRow 1 7) ∅ } } }
  nonces := { store := AList.insert "n" ⟨address, 1000⟩ ∅, addressIssueCounts := AList.insert address 1 ∅ }

theorem holds_memberInbox {address : String} {key : String × String} {row : NotificationRow} :
    (memberInbox address).Holds key row ↔ key = ("7-1", "GMEMBER") ∧ row = welcomeRow 1 7 := by
  rw [Site.Holds]
  change (AList.insert ("7-1", "GMEMBER") (welcomeRow 1 7) ∅ : Table _ _).lookup key = some row ↔ _
  rw [Table.lookup_insert]
  split
  next heq => simp [heq, eq_comm]
  next hne => simp [hne]

theorem idsUnique_memberInbox (address : String) : (memberInbox address).IdsUnique := by
  intro key key' row row' hrow hrow' _
  rw [(holds_memberInbox.mp hrow).1, (holds_memberInbox.mp hrow').1]

theorem markingAgrees_iff_member :
    MarkingAgrees muxedSdk (memoryStore 0) "GMEMBER" (presenting "GMEMBER") (memberInbox "GMEMBER") ↔
      SameCallers muxedSdk "GMEMBER" "GMEMBER" (memberInbox "GMEMBER") := by
  have hauth : (authOutcome muxedSdk (memoryStore 0) (presenting "GMEMBER") none (memberInbox "GMEMBER")).1 =
      .done (.authenticated "GMEMBER" "GMEMBER") := by decide +kernel
  exact markingAgrees_iff (by decide) (by decide) (idsUnique_memberInbox _) hauth

/-- The member may mark its notification by id, and not with all others. -/
theorem muxed_marks_one_by_one :
    ¬ MarkingAgrees muxedSdk (memoryStore 0) "GMEMBER" (presenting "MMEMBER") (memberInbox "MMEMBER") := by
  intro h
  have hauth : (authOutcome muxedSdk (memoryStore 0) (presenting "MMEMBER") none (memberInbox "MMEMBER")).1 =
      .done (.authenticated "MMEMBER" "GMEMBER") := by decide +kernel
  have hall := (allowed_markAllRead_iff (a := "GMEMBER") (by decide) (by decide) hauth).mp (h.callers.mpr ?_)
  · exact absurd hall (by decide)
  · intro key row hrow hkey
    rw [allowed_markRead_iff (idsUnique_memberInbox _) hauth hrow, (holds_memberInbox.mp hrow).2]
    exact ⟨⟨by decide, by decide⟩, hkey⟩

end OurDao
