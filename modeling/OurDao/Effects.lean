import OurDao.Faults
import OurDao.Handlers

/-!
# What a handler can do

Every handler is put together from the same few statements, and names the rows it
touches by the fields of its event. So a relation between two runs of the statements
is a relation between two runs of any handler: `Statements.applyEvent` is the one place
that goes through the handlers, and what holds of all of them is read off it.
-/

namespace OurDao

open Sql

/-- What a row of a derived table belongs to. -/
inductive Entity where
  | member (address : String)
  /-- a loan proposal and the loan made of it -/
  | loan (id : Int)
  | treasury (id : Int)
  | event (id : String)
  deriving DecidableEq, Repr

def memberNamed (ev : DecodedEvent) (field : String) : List Entity :=
  match requireAddr ev field with
  | .ok address => [.member address]
  | .error _ => []

def loanNamed (ev : DecodedEvent) (field : String) : List Entity :=
  match requireId ev field with
  | .ok id => [.loan id]
  | .error _ => []

def treasuryNamed (ev : DecodedEvent) (field : String) : List Entity :=
  match requireId ev field with
  | .ok id => [.treasury id]
  | .error _ => []

def symbolEntities (ev : DecodedEvent) : EventSymbol → List Entity
  | .joined | .exited | .claimed | .staked | .unstaked => memberNamed ev "member"
  | .name_reg => memberNamed ev "owner"
  | .loan_req | .loan_wait | .loan_rej => loanNamed ev "id"
  | .loan_edit | .loan_vote | .loan_exp => loanNamed ev "proposal_id"
  | .loan_appr => loanNamed ev "id" ++ memberNamed ev "borrower"
  | .loan_rpy | .loan_dflt => loanNamed ev "loan_id" ++ memberNamed ev "borrower"
  | .tre_prop | .tre_vote | .tre_wait | .tre_rej | .tre_exec => treasuryNamed ev "id"
  | .revealed => treasuryNamed ev "proposal_id"
  | _ => []

/-- The entities whose rows an event may read or write. -/
def entities (ev : DecodedEvent) : List Entity :=
  .event ev.id :: ((EventSymbol.ofSymbol? ev.symbol).map (symbolEntities ev)).getD []

theorem mem_memberNamed {ev : DecodedEvent} {field a : String} (h : requireAddr ev field = .ok a) :
    .member a ∈ memberNamed ev field := by simp [memberNamed, h]

theorem mem_loanNamed {ev : DecodedEvent} {field : String} {id : Int}
    (h : requireId ev field = .ok id) : .loan id ∈ loanNamed ev field := by simp [loanNamed, h]

theorem mem_treasuryNamed {ev : DecodedEvent} {field : String} {id : Int}
    (h : requireId ev field = .ok id) : .treasury id ∈ treasuryNamed ev field := by
  simp [treasuryNamed, h]

/-- A handler reads the same from both events, whatever the errors say. -/
structure Alike (ev ev' : DecodedEvent) : Prop where
  id : ev'.id = ev.id
  ledger : ev'.ledger = ev.ledger
  txHash : ev'.txHash = ev.txHash
  symbol : ev'.symbol = ev.symbol
  day : dayOf ev' = dayOf ev
  field : ∀ name, ev'.field name = ev.field name ∨ ev'.field name = (ev.field name).normalize

theorem Alike.refl (ev : DecodedEvent) : Alike ev ev := ⟨rfl, rfl, rfl, rfl, rfl, fun _ => .inl rfl⟩

theorem normalizeProposalKind_normalize (v : Json) :
    normalizeProposalKind v.normalize = normalizeProposalKind v := by
  cases v with
  | arr vs =>
    cases vs with
    | nil => rfl
    | cons v vs => cases v <;> rfl
  | obj kvs =>
    simp only [normalizeProposalKind, Json.normalize, Json.find?_normalizeFields]
    rcases Json.find? "tag" kvs with _ | v
    · rfl
    · cases v <;> rfl
  | _ => rfl

theorem number_normalize (v : Json) : number v.normalize = number v := by
  cases v with
  | arr vs =>
    have h := Json.toStr_normalize (.arr vs)
    simp only [Json.normalize] at h
    simp [Json.normalize, number, h]
  | obj kvs =>
    have h := Json.toStr_normalize (.obj kvs)
    simp only [Json.normalize] at h
    simp [Json.normalize, number, h]
  | _ => rfl

/-- An accepted amount is accepted from any event, under any name. -/
theorem amountOf_stored {ev ev' : DecodedEvent} {field : String} {v v' : Json}
(hv : v' = v ∨ v' = v.normalize) {a : Amount}
    (ha : amountOf ev field v = .ok a) : amountOf ev' field v' = .ok a := by
  have hsame : amount? v' = amount? v := by
    rcases hv with rfl | rfl
    · rfl
    · cases v <;> rfl
  rw [amountOf] at ha ⊢
  rw [hsame]
  rcases hv : amount? v with _ | _ <;> simp_all

namespace Alike

variable {ev ev' : DecodedEvent} (h : Alike ev ev') {field : String}
include h

theorem requireAddr {a : String} (ha : requireAddr ev field = .ok a) :
    requireAddr ev' field = .ok a := by
  have hf := h.field field
  rw [OurDao.requireAddr] at ha ⊢
  cases hv : ev.field field with
  | str s => by_cases hs : s.text = "" <;> simp_all [Json.normalize]
  | _ => simp_all

theorem requireId {id : Int} (hi : requireId ev field = .ok id) : requireId ev' field = .ok id := by
  have hf := h.field field
  rw [OurDao.requireId] at hi ⊢
  cases hv : ev.field field with
  | str s => rcases hd : decimal? s with _ | n <;> simp_all [Json.normalize]
  | _ => simp_all [Json.normalize]

theorem requireAmount {a : Amount} (ha : requireAmount ev field = .ok a) :
    requireAmount ev' field = .ok a := amountOf_stored (h.field field) ha

theorem requireBool {b : Bool} (hb : requireBool ev field = .ok b) : requireBool ev' field = .ok b := by
  have hf := h.field field
  rw [OurDao.requireBool] at hb ⊢
  cases hv : ev.field field <;> simp_all [Json.normalize]

theorem weightOf {a : Amount} (ha : weightOf ev = .ok a) : weightOf ev' = .ok a := by
  have hf := h.field "weight"
  rw [OurDao.weightOf] at ha ⊢
  cases hv : ev.field "weight" with
  | null => simp_all [Json.normalize]
  | _ =>
    rw [hv] at ha hf
    have hw : amountOf ev' "weight" (ev'.field "weight") = .ok a := amountOf_stored hf ha
    rcases hf with hf | hf <;> rw [hf] at hw ⊢ <;> exact hw

theorem requireProposalKind {k : ProposalKind} (hk : requireProposalKind ev field = .ok k) :
    requireProposalKind ev' field = .ok k := by
  have hkind : normalizeProposalKind (ev'.field field) = normalizeProposalKind (ev.field field) := by
    rcases h.field field with hf | hf <;> rw [hf]
    exact normalizeProposalKind_normalize _
  rw [OurDao.requireProposalKind] at hk ⊢
  rw [hkind]
  split at hk <;> simp_all

/-- A conversion that a reordering of keys cannot change. -/
theorem coerced {α : Type} (f : Json → α) (hf : ∀ v, f v.normalize = f v) :
    f (ev'.field field) = f (ev.field field) := by
  rcases h.field field with hv | hv <;> rw [hv]
  exact hf _

end Alike

theorem isTrue_normalize (v : Json) : isTrue v.normalize = isTrue v := by cases v <;> rfl

theorem str_normalize (v : Json) : str v.normalize = str v := by
  have h := Json.toStr_normalize v
  cases v <;> simp_all [str, Json.normalize]

theorem addr_normalize (v : Json) : addr v.normalize = addr v := by
  have h := Json.toStr_normalize v
  cases v <;> simp_all [addr, Json.normalize]

theorem num_normalize (v : Json) : num v.normalize = num v := by rw [num, number_normalize, num]

theorem dueTimeOf_normalize (v : Json) : dueTimeOf v.normalize = dueTimeOf v := by
  have h := number_normalize v
  cases v <;> simp_all [dueTimeOf, Json.normalize]

theorem integer_eq_ok {n m : Int} (h : integer n = .ok m) : m = n := by
  rw [integer] at h
  split at h <;> simp_all

/-- The check never fails without a message. -/
class Explained {α : Type} (x : Except String α) : Prop where
  message : ∀ m, x = .error m → m ≠ ""

theorem append_ne_empty {s t : String} (h : s ≠ "") : s ++ t ≠ "" := fun ht =>
  h (String.append_eq_empty_iff.mp ht).1

theorem fieldValidationError_ne_empty (ev : DecodedEvent) (field reason : String) :
    fieldValidationError ev field reason ≠ "" := by
  simp only [fieldValidationError, toString]
  repeat apply append_ne_empty
  decide

namespace Explained

variable {α β : Type}

instance (a : α) : Explained (pure a : Except String α) := ⟨fun _ h => by cases h⟩

instance (a : α) : Explained (.ok a : Except String α) := ⟨fun _ h => by cases h⟩

theorem throw {m : String} (h : m ≠ "") : Explained (throw m : Except String α) := ⟨fun _ hm => by cases hm; exact h⟩

theorem bind {x : Except String α} {f : α → Except String β} (hx : Explained x) (hf : ∀ a, Explained (f a)) :
    Explained (x >>= f) where
  message m h := by
    cases x with
    | error m' =>
      cases h
      exact hx.message m rfl
    | ok a => exact (hf a).message m h

instance (x : Except String α) (f : α → Except String β) [Explained x] [∀ a, Explained (f a)] :
    Explained (x >>= f) := bind ‹_› ‹_›

instance (p : Prop) [Decidable p] (x y : Except String α) [Explained x] [Explained y] :
    Explained (if p then x else y) := by
  split <;> assumption

instance (ev : DecodedEvent) (field : String) : Explained (requireAddr ev field) where
  message m h := by
    rw [requireAddr] at h
    split at h
    · split at h <;> cases h
      exact fieldValidationError_ne_empty _ _ _
    · cases h
      exact fieldValidationError_ne_empty _ _ _

instance (ev : DecodedEvent) (field : String) : Explained (requireId ev field) where
  message m h := by
    rw [requireId] at h
    split at h
    · cases h
    · split at h <;> cases h
      exact fieldValidationError_ne_empty _ _ _
    · cases h
      exact fieldValidationError_ne_empty _ _ _

instance amountOf (ev : DecodedEvent) (field : String) (v : Json) : Explained (amountOf ev field v) where
  message m h := by
    rw [OurDao.amountOf] at h
    split at h <;> cases h
    exact fieldValidationError_ne_empty _ _ _

instance (ev : DecodedEvent) (field : String) : Explained (requireAmount ev field) := amountOf ev field _

instance (ev : DecodedEvent) (field : String) : Explained (requireBool ev field) where
  message m h := by
    rw [requireBool] at h
    split at h <;> cases h
    exact fieldValidationError_ne_empty _ _ _

instance (ev : DecodedEvent) : Explained (weightOf ev) where
  message m h := by
    rw [weightOf] at h
    split at h
    · cases h
    · exact (amountOf ev "weight" _).message m h

instance (ev : DecodedEvent) (field : String) : Explained (requireProposalKind ev field) where
  message m h := by
    rw [requireProposalKind] at h
    split at h <;> cases h
    exact fieldValidationError_ne_empty _ _ _

instance (n : Int) : Explained (integer n) where
  message m h := by
    rw [integer] at h
    split at h <;> cases h
    decide

instance (n : Nat) : Explained (numeric n) where
  message m h := by
    rw [numeric] at h
    split at h <;> cases h
    decide

mutual

theorem toStr : ∀ v : Json, Explained v.toStr
  | .null | .bool _ | .num _ | .str _ => ⟨fun _ h => by cases h⟩
  | .arr vs => joined vs
  | .obj kvs => ⟨fun m h => by
      simp only [Json.toStr] at h
      split at h <;> cases h
      decide⟩

theorem joined : ∀ vs : List Json, Explained (Json.toStr.joined vs)
  | [] => ⟨fun _ h => by cases h⟩
  | v :: vs => by
    have hv := toStr v
    have hvs := joined vs
    rw [Json.toStr.joined]
    infer_instance

end

instance (v : Json) : Explained v.toStr := toStr v

instance (x : Except String α) (f : α → β) [hx : Explained x] : Explained (x.map f) where
  message m h := by
    cases x with
    | error m' =>
      cases h
      exact hx.message m rfl
    | ok a => cases h

instance (v : Json) : Explained (str v) := by
  rw [str.eq_def]
  split <;> infer_instance

instance (v : Json) : Explained (addr v) := by
  rw [addr.eq_def]
  split <;> infer_instance

instance (v : Json) : Explained (number v) := by
  rw [number.eq_def]
  split <;> infer_instance

instance (v : Json) : Explained (num v) := by
  have hthrow : Explained (Except.error "invalid input syntax for type integer" : Except String (Option Int)) :=
    throw (by decide)
  refine bind inferInstance fun n => ?_
  cases n with
  | finite q =>
    dsimp only
    split
    · infer_instance
    · exact hthrow
  | _ => infer_instance

instance (v : Json) : Explained (dueTimeOf v) := by
  have hthrow : Explained (Except.error "invalid input syntax for type timestamp with time zone" :
    Except String (Option Int)) := throw (by decide)
  rw [dueTimeOf.eq_def]
  dsimp only
  split
  · infer_instance
  · refine bind inferInstance fun n => ?_
    cases n with
    | finite q =>
      dsimp only
      split
      · split
        · infer_instance
        · exact hthrow
      · exact hthrow
    | _ => exact hthrow

end Explained

/-- `R` relates a statement on a row of `r` to itself. -/
structure OnRow (R : ∀ {α : Type}, Sql α → Sql α → Prop) {κ ν : Type} [DecidableEq κ]
    (r : Relation κ ν) (k : κ) : Prop where
  select : R (select r k) (select r k)
  write : ∀ row, R (write r k row) (write r k row)

/-- `R` is kept by everything handlers are made of, on the entities of `A`. -/
structure Statements (A : Entity → Prop) (R : ∀ {α : Type}, Sql α → Sql α → Prop) : Prop where
  pure : ∀ {α : Type} (a : α), R (pure a) (pure a)
  bind : ∀ {α β : Type} {m m' : Sql α} {f f' : α → Sql β}, R m m' → (∀ a, R (f a) (f' a)) →
    R (m >>= f) (m' >>= f')
  liftBind : ∀ {α β : Type} {x y : Except String α} {f f' : α → Sql β} [Explained x],
    (∀ a, x = .ok a → y = .ok a) → (∀ a, x = .ok a → R (f a) (f' a)) →
    R (lift x >>= f) (lift y >>= f')
  member : ∀ {a}, A (.member a) → OnRow R members a
  loanProposal : ∀ {id}, A (.loan id) → OnRow R loan_proposals id
  loan : ∀ {id}, A (.loan id) → OnRow R loans id
  treasury : ∀ {id}, A (.treasury id) → OnRow R treasury_proposals id
  notification : ∀ {id address : String} {row : Nat → NotificationRow}, A (.event id) →
    (∀ i, row i = { row 0 with id := i }) → (row 0).read = false →
    R (insertNotification id address row) (insertNotification id address row)
  interest : ∀ {id : String} {row : Nat → InterestRow}, A (.event id) →
    (∀ i, row i = { row 0 with id := i }) → R (insertInterest id row) (insertInterest id row)
  document : ∀ {id : String} {row : Nat → DocumentRow}, A (.event id) →
    (∀ i, row i = { row 0 with id := i }) → R (insertDocument id row) (insertDocument id row)
  totals : ∀ delta, R (addTotals delta) (addTotals delta)
  daily : ∀ day delta, R (addDaily day delta) (addDaily day delta)

namespace Statements

variable {A : Entity → Prop} {R : ∀ {α : Type}, Sql α → Sql α → Prop} (hR : Statements A R)
include hR

theorem lift {α : Type} (x : Except String α) [Explained x] : R (Sql.lift x) (Sql.lift x) := by
  have h := hR.liftBind (x := x) (fun _ ha => ha) (fun a _ => hR.pure a)
  simpa using h

theorem updateWhere {κ ν : Type} [DecidableEq κ] {r : Relation κ ν} {k : κ} (h : OnRow R r k)
    (p : ν → Bool) (f : ν → Except String ν) [∀ row, Explained (f row)] :
    R (updateWhere r k p f) (updateWhere r k p f) := by
  refine hR.bind h.select fun row => ?_
  rcases row with _ | row
  · exact hR.pure _
  · rcases hp : p row with _ | _
    · simpa [hp] using hR.pure none
    · simpa [hp] using hR.bind (hR.lift (f row)) fun row' => hR.bind (h.write row') fun _ => hR.pure _

theorem update {κ ν : Type} [DecidableEq κ] {r : Relation κ ν} {k : κ} (h : OnRow R r k)
    (f : ν → Except String ν) [∀ row, Explained (f row)] : R (update r k f) (update r k f) :=
  hR.updateWhere h _ f

theorem upsert {κ ν : Type} [DecidableEq κ] {r : Relation κ ν} {k : κ} (h : OnRow R r k)
    (row : ν) (f : ν → ν) : R (upsert r k row f) (upsert r k row f) := by
  refine hR.bind h.select fun old => ?_
  rcases old with _ | old
  · exact hR.bind (h.write row) fun _ => hR.pure _
  · exact hR.bind (h.write (f old)) fun _ => hR.pure _

/-- A statement whose result is not used, last in a handler. -/
theorem last {α : Type} {m m' : Sql α} (h : R m m') : R (do let _ ← m) (do let _ ← m') :=
  hR.bind h fun _ => hR.pure ()

section

variable {ev ev' : DecodedEvent} (h : Alike ev ev')
include h

theorem notify (hev : A (.event ev.id)) (address : String) (type : NotificationType)
    (title message : String) :
    R (OurDao.notify ev address type title message) (OurDao.notify ev' address type title message) := by
  simp only [OurDao.notify, h.id, h.ledger, h.txHash]
  split
  · exact hR.pure ()
  · exact hR.notification hev (fun _ => rfl) rfl

theorem incrementDailyLoanStats (deltas : DailyLoanStats) :
    R (OurDao.incrementDailyLoanStats ev deltas) (OurDao.incrementDailyLoanStats ev' deltas) := by
  simpa only [OurDao.incrementDailyLoanStats, h.day] using hR.daily _ deltas

theorem foldPrincipalRepaid (repaid : Bool) (prev upd : Option LoanRow) :
    R (OurDao.foldPrincipalRepaid ev repaid prev upd)
      (OurDao.foldPrincipalRepaid ev' repaid prev upd) := by
  rcases prev with _ | prev <;> rcases upd with _ | loan
  · exact hR.pure ()
  · exact hR.pure ()
  · exact hR.pure ()
  · simp only [OurDao.foldPrincipalRepaid]
    split
    · exact hR.bind (hR.totals _) fun _ => hR.incrementDailyLoanStats h _
    · exact hR.pure ()

omit h in
theorem setActiveLoan {borrower : String} (hA : A (.member borrower)) (active : Bool) :
    R (OurDao.setActiveLoan borrower active) (OurDao.setActiveLoan borrower active) :=
  hR.last (hR.update (hR.member hA) _)

variable (hev : A (.event ev.id))
include hev

theorem joined (hA : ∀ e ∈ memberNamed ev "member", A e) : R (joined ev) (joined ev') := by
  simp only [OurDao.joined, h.ledger]
  refine hR.liftBind (fun _ => h.requireAddr) fun member hm => ?_
  refine hR.liftBind (fun _ => h.requireAmount) fun fee _ => ?_
  refine hR.bind (hR.lift _) fun contribution => ?_
  refine hR.bind (hR.upsert (hR.member (hA _ (mem_memberNamed hm))) _ _) fun _ => ?_
  exact hR.notify h hev _ _ _ _

theorem exited (hA : ∀ e ∈ memberNamed ev "member", A e) : R (exited ev) (exited ev') := by
  simp only [OurDao.exited, h.ledger]
  refine hR.liftBind (fun _ => h.requireAddr) fun member hm => ?_
  refine hR.liftBind (fun _ => h.requireAmount) fun share _ => ?_
  refine hR.bind (hR.update (hR.member (hA _ (mem_memberNamed hm))) _) fun _ => ?_
  exact hR.notify h hev _ _ _ _

theorem claimed (hA : ∀ e ∈ memberNamed ev "member", A e) : R (claimed ev) (claimed ev') := by
  refine hR.liftBind (fun _ => h.requireAddr) fun member hm => ?_
  refine hR.liftBind (fun _ => h.requireAmount) fun pending _ => ?_
  refine hR.bind (hR.update (hR.member (hA _ (mem_memberNamed hm))) _) fun _ => ?_
  exact hR.notify h hev _ _ _ _

omit hev in
theorem setStake (hA : ∀ e ∈ memberNamed ev "member", A e) : R (setStake ev) (setStake ev') := by
  refine hR.liftBind (fun _ => h.requireAddr) fun member hm => ?_
  refine hR.liftBind (fun _ => h.requireAmount) fun newStake _ => ?_
  exact hR.last (hR.update (hR.member (hA _ (mem_memberNamed hm))) _)

omit hev in
theorem name_reg (hA : ∀ e ∈ memberNamed ev "owner", A e) : R (name_reg ev) (name_reg ev') := by
  simp only [OurDao.name_reg, h.coerced addr addr_normalize]
  refine hR.liftBind (fun _ => h.requireAddr) fun owner hm => ?_
  refine hR.bind (hR.lift _) fun name => ?_
  exact hR.last (hR.update (hR.member (hA _ (mem_memberNamed hm))) _)

theorem loan_req (hA : ∀ e ∈ loanNamed ev "id", A e) : R (loan_req ev) (loan_req ev') := by
  simp only [OurDao.loan_req, h.ledger]
  refine hR.liftBind (fun _ => h.requireId) fun id hid => ?_
  refine hR.liftBind (fun _ => h.requireAddr) fun borrower _ => ?_
  refine hR.liftBind (fun _ => h.requireAmount) fun amount _ => ?_
  refine hR.liftBind (fun _ => h.requireAmount) fun totalRepayment _ => ?_
  refine hR.liftBind (fun _ ha => ha) fun id' hid' => ?_
  obtain rfl := integer_eq_ok hid'
  refine hR.bind (hR.lift _) fun amount => ?_
  refine hR.bind (hR.lift _) fun total_repayment => ?_
  refine hR.bind (hR.upsert (hR.loanProposal (hA _ (mem_loanNamed hid))) _ _) fun _ => ?_
  exact hR.notify h hev _ _ _ _

omit hev in
theorem loan_edit (hA : ∀ e ∈ loanNamed ev "proposal_id", A e) : R (loan_edit ev) (loan_edit ev') := by
  refine hR.liftBind (fun _ => h.requireId) fun id hid => ?_
  refine hR.liftBind (fun _ => h.requireAmount) fun newAmount _ => ?_
  refine hR.liftBind (fun _ => h.requireAmount) fun totalRepayment _ => ?_
  refine hR.liftBind (fun _ ha => ha) fun id' hid' => ?_
  obtain rfl := integer_eq_ok hid'
  exact hR.last (hR.update (hR.loanProposal (hA _ (mem_loanNamed hid))) _)

omit hev in
theorem loan_vote (hA : ∀ e ∈ loanNamed ev "proposal_id", A e) : R (loan_vote ev) (loan_vote ev') := by
  refine hR.liftBind (fun _ => h.requireId) fun id hid => ?_
  refine hR.liftBind (fun _ => h.requireBool) fun support _ => ?_
  refine hR.liftBind (fun _ => h.weightOf) fun weight _ => ?_
  refine hR.liftBind (fun _ ha => ha) fun id' hid' => ?_
  obtain rfl := integer_eq_ok hid'
  exact hR.last (hR.update (hR.loanProposal (hA _ (mem_loanNamed hid))) _)

theorem loanVerdict (hA : ∀ e ∈ loanNamed ev "id", A e) (status : ProposalStatus)
    (type : NotificationType) (title : String) (message : Int → String) :
    R (loanVerdict status type title message ev) (loanVerdict status type title message ev') := by
  refine hR.liftBind (fun _ => h.requireId) fun id hid => ?_
  refine hR.liftBind (fun _ ha => ha) fun id' hid' => ?_
  obtain rfl := integer_eq_ok hid'
  refine hR.bind (hR.updateWhere (hR.loanProposal (hA _ (mem_loanNamed hid))) _ _) fun updated => ?_
  cases updated with
  | none => exact hR.pure ()
  | some row => exact hR.notify h hev _ _ _ _

theorem loan_appr (hA : ∀ e ∈ loanNamed ev "id" ++ memberNamed ev "borrower", A e) :
    R (loan_appr ev) (loan_appr ev') := by
  simp only [OurDao.loan_appr, h.ledger, h.coerced dueTimeOf dueTimeOf_normalize]
  refine hR.liftBind (fun _ => h.requireId) fun id hid => ?_
  refine hR.liftBind (fun _ => h.requireAddr) fun borrower hm => ?_
  have hloan : A (.loan id) := hA _ (List.mem_append_left _ (mem_loanNamed hid))
  have hmember : A (.member borrower) := hA _ (List.mem_append_right _ (mem_memberNamed hm))
  refine hR.liftBind (fun _ => h.requireAmount) fun amount _ => ?_
  refine hR.liftBind (fun _ ha => ha) fun id' hid' => ?_
  obtain rfl := integer_eq_ok hid'
  refine hR.bind (hR.update (hR.loanProposal hloan) _) fun _ => ?_
  refine hR.bind (hR.loanProposal hloan).select fun proposal => ?_
  refine hR.bind (hR.lift _) fun due_time => ?_
  refine hR.bind (hR.lift _) fun principal => ?_
  refine hR.bind (hR.lift _) fun total_repayment => ?_
  refine hR.bind (hR.upsert (hR.loan hloan) _ _) fun is_new => ?_
  cases is_new with
  | false => exact hR.bind (hR.setActiveLoan hmember _) fun _ => hR.notify h hev _ _ _ _
  | true =>
    refine hR.bind (hR.totals _) fun _ => ?_
    refine hR.bind (hR.incrementDailyLoanStats h _) fun _ => ?_
    exact hR.bind (hR.setActiveLoan hmember _) fun _ => hR.notify h hev _ _ _ _

theorem loan_rpy (hA : ∀ e ∈ loanNamed ev "loan_id" ++ memberNamed ev "borrower", A e) :
    R (loan_rpy ev) (loan_rpy ev') := by
  simp only [OurDao.loan_rpy, h.ledger]
  refine hR.liftBind (fun _ => h.requireId) fun id hid => ?_
  refine hR.liftBind (fun _ => h.requireAddr) fun borrower hm => ?_
  have hloan : A (.loan id) := hA _ (List.mem_append_left _ (mem_loanNamed hid))
  have hmember : A (.member borrower) := hA _ (List.mem_append_right _ (mem_memberNamed hm))
  refine hR.liftBind (fun _ => h.requireAmount) fun outstanding _ => ?_
  refine hR.liftBind (fun _ ha => ha) fun id' hid' => ?_
  obtain rfl := integer_eq_ok hid'
  refine hR.bind (hR.loan hloan).select fun prev => ?_
  refine hR.bind (hR.update (hR.loan hloan) _) fun upd => ?_
  refine hR.bind (hR.foldPrincipalRepaid h _ prev upd) fun _ => ?_
  by_cases hrepaid : outstanding.text = "0"
  · simp only [hrepaid, decide_true, if_true]
    exact hR.bind (hR.setActiveLoan hmember _) fun _ => hR.notify h hev _ _ _ _
  · simp only [hrepaid, decide_false, Bool.false_eq_true, if_false]
    exact hR.notify h hev _ _ _ _

theorem loan_dflt (hA : ∀ e ∈ loanNamed ev "loan_id" ++ memberNamed ev "borrower", A e) :
    R (loan_dflt ev) (loan_dflt ev') := by
  simp only [OurDao.loan_dflt, h.ledger]
  refine hR.liftBind (fun _ => h.requireId) fun id hid => ?_
  refine hR.liftBind (fun _ => h.requireAddr) fun borrower hm => ?_
  have hloan : A (.loan id) := hA _ (List.mem_append_left _ (mem_loanNamed hid))
  have hmember : A (.member borrower) := hA _ (List.mem_append_right _ (mem_memberNamed hm))
  refine hR.liftBind (fun _ => h.requireAmount) fun penalty _ => ?_
  refine hR.liftBind (fun _ ha => ha) fun id' hid' => ?_
  obtain rfl := integer_eq_ok hid'
  refine hR.bind (hR.updateWhere (hR.loan hloan) _ _) fun updated => ?_
  cases updated with
  | none => exact hR.pure ()
  | some loan =>
    refine hR.bind (hR.totals _) fun _ => ?_
    refine hR.bind (hR.incrementDailyLoanStats h _) fun _ => ?_
    exact hR.bind (hR.update (hR.member hmember) _) fun _ => hR.notify h hev _ _ _ _

theorem loan_exp (hA : ∀ e ∈ loanNamed ev "proposal_id", A e) : R (loan_exp ev) (loan_exp ev') := by
  refine hR.liftBind (fun _ => h.requireId) fun id hid => ?_
  refine hR.liftBind (fun _ => h.requireAddr) fun borrower _ => ?_
  refine hR.liftBind (fun _ ha => ha) fun id' hid' => ?_
  obtain rfl := integer_eq_ok hid'
  refine hR.bind (hR.updateWhere (hR.loanProposal (hA _ (mem_loanNamed hid))) _ _) fun updated => ?_
  cases updated with
  | none => exact hR.pure ()
  | some row => exact hR.notify h hev _ _ _ _

theorem interest_event : R (OurDao.interest ev) (OurDao.interest ev') := by
  simp only [OurDao.interest, h.id, h.ledger, h.txHash, h.coerced num num_normalize]
  refine hR.liftBind (fun _ => h.requireAmount) fun amount _ => ?_
  refine hR.bind (hR.lift _) fun active_members => ?_
  refine hR.bind (hR.lift _) fun amount => ?_
  refine hR.bind (hR.interest hev fun _ => rfl) fun inserted => ?_
  cases inserted with
  | false => exact hR.pure ()
  | true => exact hR.totals _

omit hev in
theorem tre_prop (hA : ∀ e ∈ treasuryNamed ev "id", A e) : R (tre_prop ev) (tre_prop ev') := by
  simp only [OurDao.tre_prop, h.ledger, h.coerced isTrue isTrue_normalize]
  refine hR.liftBind (fun _ => h.requireId) fun id hid => ?_
  refine hR.liftBind (fun _ => h.requireAmount) fun amount _ => ?_
  refine hR.liftBind (fun _ => h.requireAddr) fun destination _ => ?_
  refine hR.liftBind (fun _ ha => ha) fun id' hid' => ?_
  obtain rfl := integer_eq_ok hid'
  refine hR.bind (hR.lift _) fun amount => ?_
  exact hR.last (hR.upsert (hR.treasury (hA _ (mem_treasuryNamed hid))) _ _)

omit hev in
theorem treasuryVote (field : String) (hA : ∀ e ∈ treasuryNamed ev field, A e) :
    R (treasuryVote field ev) (treasuryVote field ev') := by
  refine hR.liftBind (fun _ => h.requireId) fun id hid => ?_
  refine hR.liftBind (fun _ => h.requireBool) fun support _ => ?_
  refine hR.liftBind (fun _ => h.weightOf) fun weight _ => ?_
  refine hR.liftBind (fun _ ha => ha) fun id' hid' => ?_
  obtain rfl := integer_eq_ok hid'
  exact hR.last (hR.update (hR.treasury (hA _ (mem_treasuryNamed hid))) _)

theorem treasuryVerdict (hA : ∀ e ∈ treasuryNamed ev "id", A e) (status : TreasuryStatus)
    (type : NotificationType) (title : String) (message : Int → String) :
    R (treasuryVerdict status type title message ev) (treasuryVerdict status type title message ev') := by
  refine hR.liftBind (fun _ => h.requireId) fun id hid => ?_
  refine hR.liftBind (fun _ ha => ha) fun id' hid' => ?_
  obtain rfl := integer_eq_ok hid'
  refine hR.bind (hR.updateWhere (hR.treasury (hA _ (mem_treasuryNamed hid))) _ _) fun updated => ?_
  cases updated with
  | none => exact hR.pure ()
  | some row => exact hR.notify h hev _ _ _ _

theorem tre_exec (hA : ∀ e ∈ treasuryNamed ev "id", A e) : R (tre_exec ev) (tre_exec ev') := by
  simp only [OurDao.tre_exec, h.ledger, h.coerced str str_normalize]
  refine hR.liftBind (fun _ => h.requireId) fun id hid => ?_
  refine hR.liftBind (fun _ => h.requireAddr) fun destination _ => ?_
  refine hR.liftBind (fun _ ha => ha) fun id' hid' => ?_
  obtain rfl := integer_eq_ok hid'
  refine hR.bind (hR.update (hR.treasury (hA _ (mem_treasuryNamed hid))) _) fun _ => ?_
  exact hR.bind (hR.lift _) fun amount => hR.notify h hev _ _ _ _

theorem committed : R (committed ev) (committed ev') := by
  simp only [OurDao.committed, h.coerced str str_normalize, h.coerced addr addr_normalize]
  refine hR.bind (hR.lift _) fun voter => ?_
  exact hR.bind (hR.lift _) fun proposalId => hR.notify h hev _ _ _ _

theorem doc_attn : R (doc_attn ev) (doc_attn ev') := by
  simp only [OurDao.doc_attn, h.id, h.ledger, h.txHash]
  refine hR.liftBind (fun _ => h.requireId) fun id _ => ?_
  refine hR.liftBind (fun _ => h.requireAddr) fun caller _ => ?_
  refine hR.liftBind (fun _ => h.requireProposalKind) fun kind _ => ?_
  exact hR.bind (hR.lift _) fun id' => hR.document hev fun _ => rfl

/-- Each symbol's handler keeps to the entities the symbol names. -/
theorem handlers {s : EventSymbol} (hA : ∀ e ∈ symbolEntities ev s, A e)
    {handler : DecodedEvent → Sql Unit} (hh : OurDao.handlers s = some handler) :
    R (handler ev) (handler ev') := by
  cases s <;> cases hh
  case joined => exact hR.joined h hev hA
  case exited => exact hR.exited h hev hA
  case claimed => exact hR.claimed h hev hA
  case loan_req => exact hR.loan_req h hev hA
  case loan_edit => exact hR.loan_edit h hA
  case loan_vote => exact hR.loan_vote h hA
  case loan_wait => exact hR.loanVerdict h hev hA _ _ _ _
  case loan_rej => exact hR.loanVerdict h hev hA _ _ _ _
  case loan_appr => exact hR.loan_appr h hev hA
  case loan_rpy => exact hR.loan_rpy h hev hA
  case loan_dflt => exact hR.loan_dflt h hev hA
  case loan_exp => exact hR.loan_exp h hev hA
  case interest => exact hR.interest_event h hev
  case tre_prop => exact hR.tre_prop h hA
  case tre_vote => exact hR.treasuryVote h _ hA
  case tre_wait => exact hR.treasuryVerdict h hev hA _ _ _ _
  case tre_rej => exact hR.treasuryVerdict h hev hA _ _ _ _
  case tre_exec => exact hR.tre_exec h hev hA
  case staked => exact hR.setStake h hA
  case unstaked => exact hR.setStake h hA
  case name_reg => exact hR.name_reg h hA
  case committed => exact hR.committed h hev
  case revealed => exact hR.treasuryVote h _ hA
  case doc_attn => exact hR.doc_attn h hev

end

/-- **What is kept by every statement is kept by every event.** -/
theorem applyEvent {ev ev' : DecodedEvent} (h : Alike ev ev') (hA : ∀ e ∈ entities ev, A e) :
    R (applyEvent ev) (applyEvent ev') := by
  have hev : A (.event ev.id) := hA _ (by simp [entities])
  rw [OurDao.applyEvent, OurDao.applyEvent, h.symbol]
  rcases hs : EventSymbol.ofSymbol? ev.symbol with _ | s
  · exact hR.bind (hR.pure ()) fun _ => hR.pure _
  rcases hh : OurDao.handlers s with _ | handler
  · simpa [hh] using hR.bind (hR.pure ()) fun _ => hR.pure _
  · have hsym : ∀ e ∈ symbolEntities ev s, A e := fun e he => hA e (by simp [entities, hs, he])
    simpa [hh] using hR.bind (hR.handlers h hev hsym hh) fun _ => hR.pure _

end Statements

/-- Whenever `m` succeeds, `m'` does the same. -/
def Refines {α : Type} (m m' : Sql α) : Prop := ∀ t r, m t = .ok r → m' t = .ok r

theorem Refines.refl {α : Type} (m : Sql α) : Refines m m := fun _ _ h => h

theorem statements_refines : Statements (fun _ => True) fun m m' => Refines m m' where
  pure a := .refl _
  bind hm hf t r hr := by
    obtain ⟨a, t₁, h₁, h₂⟩ := Faults.bind_eq_ok.mp hr
    exact Faults.bind_eq_ok.mpr ⟨a, t₁, hm _ _ h₁, hf a _ _ h₂⟩
  liftBind {_ _ x y f f'} _ hxy hf t r hr := by
    cases x with
    | error m => cases hr
    | ok a =>
      rw [hxy a rfl]
      exact hf a rfl t r hr
  member _ := ⟨.refl _, fun _ => .refl _⟩
  loanProposal _ := ⟨.refl _, fun _ => .refl _⟩
  loan _ := ⟨.refl _, fun _ => .refl _⟩
  treasury _ := ⟨.refl _, fun _ => .refl _⟩
  notification _ _ _ := .refl _
  interest _ _ := .refl _
  document _ _ := .refl _
  totals _ := .refl _
  daily _ _ := .refl _

theorem applyEvent_alike {ev ev' : DecodedEvent} (h : Alike ev ev') {t : Tables}
    {r : List StreamChannel × Tables} (hr : applyEvent ev t = .ok r) : applyEvent ev' t = .ok r :=
  statements_refines.applyEvent h (fun _ _ => trivial) t r hr

/-- `m` keeps `I` whenever it succeeds. -/
def Preserves (I : Tables → Prop) {α : Type} (m : Sql α) : Prop :=
  ∀ t a t', m t = .ok (a, t') → I t → I t'

/-- No notification has been marked read. -/
def Unread (t : Tables) : Prop := ∀ k row, t.notifications.lookup k = some row → row.read = false

theorem unread_empty : Unread Tables.empty := by simp [Unread, Tables.empty]

theorem select_preserves {I : Tables → Prop} {κ ν : Type} [DecidableEq κ] (r : Relation κ ν) (k : κ) :
    Preserves I (select r k) := by
  intro t a t' h hI
  cases h
  exact hI

/-- What holds of the notifications and their sequence, whatever else a statement writes, holds after
every handler once it is kept by an insert. -/
theorem statements_notifications {I : Tables → Prop}
    (hsame : ∀ t t', t'.notifications = t.notifications →
      t'.sequences.notifications = t.sequences.notifications → I t → I t')
    (hinsert : ∀ id address row, (∀ i, row i = { row 0 with id := i }) → (row 0).read = false →
      Preserves I (insertNotification id address row)) :
    Statements (fun _ => True) fun m _ => Preserves I m where
  pure a := fun t _ t' h => by cases h; exact id
  bind hm hf t b t' h hI := by
    obtain ⟨a, t₁, h₁, h₂⟩ := Faults.bind_eq_ok.mp h
    exact hf a t₁ b t' h₂ (hm t a t₁ h₁ hI)
  liftBind {_ _ x _ f _} _ _ hf t b t' h hI := by
    cases x with
    | error m => cases h
    | ok a => exact hf a rfl t b t' h hI
  member _ := ⟨select_preserves _ _, fun _ t _ t' h => by cases h; exact hsame t _ rfl rfl⟩
  loanProposal _ := ⟨select_preserves _ _, fun _ t _ t' h => by cases h; exact hsame t _ rfl rfl⟩
  loan _ := ⟨select_preserves _ _, fun _ t _ t' h => by cases h; exact hsame t _ rfl rfl⟩
  treasury _ := ⟨select_preserves _ _, fun _ t _ t' h => by cases h; exact hsame t _ rfl rfl⟩
  notification _ hrow hread := hinsert _ _ _ hrow hread
  interest _ _ t a t' h := by
    simp only [insertInterest] at h
    split at h <;> cases h <;> exact hsame t _ rfl rfl
  document _ _ t a t' h := by
    cases h
    dsimp only
    split <;> exact hsame t _ rfl rfl
  totals _ t a t' h := by
    simp only [addTotals] at h
    split at h <;> cases h
    exact hsame t _ rfl rfl
  daily _ _ t a t' h := by
    simp only [addDaily] at h
    split at h <;> cases h
    exact hsame t _ rfl rfl

theorem statements_unread : Statements (fun _ => True) fun m _ => Preserves Unread m := by
  refine statements_notifications (fun t t' hsame _ hI k row hk => hI k row (hsame ▸ hk)) ?_
  intro id address row hrow hread t a t' h hI
  cases h
  intro k r hk
  dsimp only at hk
  split at hk
  · exact hI k r hk
  · rcases eq_or_ne k (id, address) with rfl | hne
    · rw [AList.lookup_insert] at hk
      cases hk
      rw [hrow]
      exact hread
    · exact hI k r (by rwa [AList.lookup_insert_ne hne] at hk)

theorem applyEvent_unread {ev : DecodedEvent} : Preserves Unread (applyEvent ev) :=
  statements_unread.applyEvent (.refl ev) fun _ _ => trivial

/-- An error that says something, and is no `ReorgDetectedError`. -/
def Plain (e : Failure) : Prop := ∃ message, e = .error message ∧ message ≠ ""

/-- `m` fails only with plain errors. -/
def FailsPlainly {α : Type} (m : Sql α) : Prop := ∀ t e, m t = .error e → Plain e

theorem failsPlainly_of_ok {α : Type} {m : Sql α} (h : ∀ t, ∃ r, m t = .ok r) : FailsPlainly m := by
  intro t e he
  obtain ⟨r, hr⟩ := h t
  rw [hr] at he
  cases he

theorem statements_failsPlainly : Statements (fun _ => True) fun m _ => FailsPlainly m where
  pure a := failsPlainly_of_ok fun t => ⟨_, rfl⟩
  bind {_ _ m _ f _} hm hf t e h := by
    rcases hmt : m t with e' | ⟨a, t₁⟩
    · rw [Faults.bind_of_error hmt] at h
      cases h
      exact hm t e hmt
    · rw [Faults.bind_of_ok hmt] at h
      exact hf a t₁ e h
  liftBind {_ _ x _ f _} hx _ hf t e h := by
    cases x with
    | error message =>
      cases h
      exact ⟨message, rfl, hx.message message rfl⟩
    | ok a => exact hf a rfl t e h
  member _ := ⟨failsPlainly_of_ok fun t => ⟨_, rfl⟩, fun _ => failsPlainly_of_ok fun t => ⟨_, rfl⟩⟩
  loanProposal _ := ⟨failsPlainly_of_ok fun t => ⟨_, rfl⟩, fun _ => failsPlainly_of_ok fun t => ⟨_, rfl⟩⟩
  loan _ := ⟨failsPlainly_of_ok fun t => ⟨_, rfl⟩, fun _ => failsPlainly_of_ok fun t => ⟨_, rfl⟩⟩
  treasury _ := ⟨failsPlainly_of_ok fun t => ⟨_, rfl⟩, fun _ => failsPlainly_of_ok fun t => ⟨_, rfl⟩⟩
  notification _ _ _ := failsPlainly_of_ok fun t => ⟨_, rfl⟩
  interest _ _ := failsPlainly_of_ok fun t => by
    simp only [insertInterest]
    split <;> exact ⟨_, rfl⟩
  document _ _ := failsPlainly_of_ok fun t => ⟨_, rfl⟩
  totals _ t e h := by
    simp only [addTotals] at h
    split at h <;> cases h
    exact ⟨_, rfl, by decide⟩
  daily _ _ t e h := by
    simp only [addDaily] at h
    split at h <;> cases h
    exact ⟨_, rfl, by decide⟩

theorem applyEvent_failsPlainly (ev : DecodedEvent) : FailsPlainly (applyEvent ev) :=
  statements_failsPlainly.applyEvent (.refl ev) fun _ _ => trivial

end OurDao
