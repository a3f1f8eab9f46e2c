import OurDao.Books
import OurDao.LedgerFeeds
import OurDao.Quarantine

/-!
# Events read back from the log

The live decoder turns what the RPC delivers into JSON values; the log keeps them as JSONB,
from which a rebuild, a replay and a timeline decode them again. What comes back is the same
JSON value with the keys of its objects in another order, and the same instant, which is a
number of seconds.
-/

namespace OurDao

open Sql Faults

namespace Json

/-- The same JSON value: an object is what it has under each key, in whatever order. -/
inductive Same : Json → Json → Prop
  | null : Same .null .null
  | bool (b : Bool) : Same (.bool b) (.bool b)
  | num (n : Int) : Same (.num n) (.num n)
  | str (s : JsStr) : Same (.str s) (.str s)
  | arr {vs vs' : List Json} (h : List.Forall₂ Same vs vs') : Same (.arr vs) (.arr vs')
  | obj {kvs kvs' : List (JsStr × Json)} (hkeys : ∀ k, (find? k kvs').isSome = (find? k kvs).isSome)
      (h : ∀ k v v', find? k kvs = some v → find? k kvs' = some v' → Same v v') : Same (.obj kvs) (.obj kvs')

mutual

/-- Storing a value does not make it another one. -/
theorem same_normalize : ∀ v : Json, Same v v.normalize
  | .null => .null
  | .bool b => .bool b
  | .num n => .num n
  | .str s => .str s
  | .arr vs => .arr (same_normalizeList vs)
  | .obj kvs => by
    refine .obj (fun k => ?_) fun k v v' hv hv' => ?_
    · rw [find?_normalizeFields, Option.isSome_map]
    · rw [find?_normalizeFields, hv] at hv'
      cases hv'
      exact same_of_find? kvs k v hv

theorem same_normalizeList : ∀ vs : List Json, List.Forall₂ Same vs (normalize.normalizeList vs)
  | [] => .nil
  | v :: vs => .cons (same_normalize v) (same_normalizeList vs)

theorem same_of_find? :
    ∀ (kvs : List (JsStr × Json)) (k : JsStr) (v : Json), find? k kvs = some v → Same v v.normalize
  | [], k, v, h => by cases h
  | (k', v') :: kvs, k, v, h => by
    rw [find?_cons] at h
    split at h
    · cases h
      exact same_normalize v'
    · exact same_of_find? kvs k v h

end

end Json

/-- The two succeed on the same tables, and do the same there. -/
def Agrees {α : Type} (m m' : Sql α) : Prop := ∀ t r, m t = .ok r ↔ m' t = .ok r

theorem Agrees.refl {α : Type} (m : Sql α) : Agrees m m := fun _ _ => Iff.rfl

theorem Agrees.bind {α β : Type} {m m' : Sql α} {f f' : α → Sql β} (hm : Agrees m m')
    (hf : ∀ a, Agrees (f a) (f' a)) : Agrees (m >>= f) (m' >>= f') := by
  rintro t ⟨b, t'⟩
  rw [bind_eq_ok, bind_eq_ok]
  constructor
  · rintro ⟨a, t₁, h₁, h₂⟩
    exact ⟨a, t₁, (hm t _).mp h₁, (hf a t₁ _).mp h₂⟩
  · rintro ⟨a, t₁, h₁, h₂⟩
    exact ⟨a, t₁, (hm t _).mpr h₁, (hf a t₁ _).mpr h₂⟩

theorem Agrees.lift {α β : Type} {x y : Except String α} {f f' : α → Sql β} (hxy : ∀ a, x = .ok a ↔ y = .ok a)
    (hf : ∀ a, Agrees (f a) (f' a)) : Agrees (Sql.lift x >>= f) (Sql.lift y >>= f') := by
  rintro t ⟨b, t'⟩
  simp only [lift_bind_eq_ok, hxy]
  constructor
  · rintro ⟨a, ha, h⟩
    exact ⟨a, ha, (hf a t _).mp h⟩
  · rintro ⟨a, ha, h⟩
    exact ⟨a, ha, (hf a t _).mpr h⟩

namespace Alike

variable {ev ev' : DecodedEvent} (h : Alike ev ev')
include h

theorem requireAddr_iff (field a : String) :
    OurDao.requireAddr ev field = .ok a ↔ OurDao.requireAddr ev' field = .ok a := by
  refine ⟨h.requireAddr, fun ha => ?_⟩
  have hf := h.field field
  rw [OurDao.requireAddr] at ha ⊢
  cases hv : ev.field field with
  | str s => by_cases hs : s.text = "" <;> simp_all [Json.normalize]
  | _ => rcases hf with hf | hf <;> simp_all [Json.normalize]

theorem requireId_iff (field : String) (id : Int) :
    OurDao.requireId ev field = .ok id ↔ OurDao.requireId ev' field = .ok id := by
  refine ⟨h.requireId, fun hi => ?_⟩
  have hf := h.field field
  rw [OurDao.requireId] at hi ⊢
  cases hv : ev.field field with
  | str s => rcases hd : decimal? s with _ | n <;> simp_all [Json.normalize]
  | _ => rcases hf with hf | hf <;> simp_all [Json.normalize]

theorem requireBool_iff (field : String) (b : Bool) :
    OurDao.requireBool ev field = .ok b ↔ OurDao.requireBool ev' field = .ok b := by
  refine ⟨h.requireBool, fun hb => ?_⟩
  have hf := h.field field
  rw [OurDao.requireBool] at hb ⊢
  cases hv : ev.field field <;> rcases hf with hf | hf <;> simp_all [Json.normalize]

omit h in
theorem amountOf_eq_ok {field : String} {v : Json} {a : Amount} :
    amountOf ev field v = .ok a ↔ amount? v = some a := by
  rw [amountOf]
  cases amount? v <;> simp

theorem amount?_eq (field : String) : amount? (ev'.field field) = amount? (ev.field field) := by
  refine h.coerced amount? fun v => ?_
  cases v <;> rfl

theorem requireAmount_iff (field : String) (a : Amount) :
    OurDao.requireAmount ev field = .ok a ↔ OurDao.requireAmount ev' field = .ok a := by
  rw [OurDao.requireAmount, OurDao.requireAmount, amountOf_eq_ok, amountOf_eq_ok, h.amount?_eq]

theorem weightOf_iff (a : Amount) : OurDao.weightOf ev = .ok a ↔ OurDao.weightOf ev' = .ok a := by
  have hnull : (ev'.field "weight").isNull = (ev.field "weight").isNull := h.coerced Json.isNull Json.isNull_normalize
  have hsame := h.amount?_eq "weight"
  have hread (e : DecodedEvent) : OurDao.weightOf e = .ok a ↔
      if (e.field "weight").isNull then Amount.one = a else amount? (e.field "weight") = some a := by
    rw [OurDao.weightOf]
    cases e.field "weight" <;> simp [Json.isNull, amountOf_eq_ok]
  rw [hread, hread, hnull, hsame]

theorem requireProposalKind_iff (field : String) (kind : ProposalKind) :
    OurDao.requireProposalKind ev field = .ok kind ↔ OurDao.requireProposalKind ev' field = .ok kind := by
  have hsame : normalizeProposalKind (ev'.field field) = normalizeProposalKind (ev.field field) :=
    h.coerced _ normalizeProposalKind_normalize
  rw [OurDao.requireProposalKind, OurDao.requireProposalKind, hsame]
  cases normalizeProposalKind (ev.field field) <;> simp

theorem notify_eq : notify ev' = notify ev := by
  funext address type title message
  simp only [notify, h.id, h.ledger, h.txHash]

theorem daily_eq : incrementDailyLoanStats ev' = incrementDailyLoanStats ev := by
  funext deltas
  rw [incrementDailyLoanStats, h.day, incrementDailyLoanStats]

theorem principal_eq : foldPrincipalRepaid ev' = foldPrincipalRepaid ev := by
  funext repaid prev upd
  rw [foldPrincipalRepaid.eq_def, foldPrincipalRepaid.eq_def, h.daily_eq]

theorem joined_agrees : Agrees (joined ev) (joined ev') := by
  simp only [joined, h.ledger, h.notify_eq]
  exact .lift (h.requireAddr_iff _) fun _ => .lift (h.requireAmount_iff _) fun _ => .refl _

theorem exited_agrees : Agrees (exited ev) (exited ev') := by
  simp only [exited, h.ledger, h.notify_eq]
  exact .lift (h.requireAddr_iff _) fun _ => .lift (h.requireAmount_iff _) fun _ => .refl _

theorem claimed_agrees : Agrees (claimed ev) (claimed ev') := by
  simp only [claimed, h.notify_eq]
  exact .lift (h.requireAddr_iff _) fun _ => .lift (h.requireAmount_iff _) fun _ => .refl _

theorem setStake_agrees : Agrees (setStake ev) (setStake ev') :=
  .lift (h.requireAddr_iff _) fun _ => .lift (h.requireAmount_iff _) fun _ => .refl _

theorem name_reg_agrees : Agrees (name_reg ev) (name_reg ev') := by
  simp only [name_reg, h.coerced addr addr_normalize]
  exact .lift (h.requireAddr_iff _) fun _ => .refl _

theorem loan_req_agrees : Agrees (loan_req ev) (loan_req ev') := by
  simp only [loan_req, h.ledger, h.notify_eq]
  refine .lift (h.requireId_iff _) fun _ => .lift (h.requireAddr_iff _) fun _ => ?_
  exact .lift (h.requireAmount_iff _) fun _ => .lift (h.requireAmount_iff _) fun _ => .refl _

theorem loan_edit_agrees : Agrees (loan_edit ev) (loan_edit ev') := by
  refine .lift (h.requireId_iff _) fun _ => ?_
  exact .lift (h.requireAmount_iff _) fun _ => .lift (h.requireAmount_iff _) fun _ => .refl _

theorem loan_vote_agrees : Agrees (loan_vote ev) (loan_vote ev') := by
  refine .lift (h.requireId_iff _) fun _ => ?_
  exact .lift (h.requireBool_iff _) fun _ => .lift h.weightOf_iff fun _ => .refl _

theorem loanVerdict_agrees (status : ProposalStatus) (type : NotificationType) (title : String)
    (message : Int → String) :
    Agrees (loanVerdict status type title message ev) (loanVerdict status type title message ev') := by
  simp only [loanVerdict, h.notify_eq]
  exact .lift (h.requireId_iff _) fun _ => .refl _

theorem loan_appr_agrees : Agrees (loan_appr ev) (loan_appr ev') := by
  simp only [loan_appr, h.ledger, h.notify_eq, h.daily_eq, h.coerced dueTimeOf dueTimeOf_normalize]
  refine .lift (h.requireId_iff _) fun _ => .lift (h.requireAddr_iff _) fun _ => ?_
  exact .lift (h.requireAmount_iff _) fun _ => .refl _

theorem loan_rpy_agrees : Agrees (loan_rpy ev) (loan_rpy ev') := by
  simp only [loan_rpy, h.ledger, h.notify_eq, h.principal_eq]
  refine .lift (h.requireId_iff _) fun _ => .lift (h.requireAddr_iff _) fun _ => ?_
  exact .lift (h.requireAmount_iff _) fun _ => .refl _

theorem loan_dflt_agrees : Agrees (loan_dflt ev) (loan_dflt ev') := by
  simp only [loan_dflt, h.ledger, h.notify_eq, h.daily_eq]
  refine .lift (h.requireId_iff _) fun _ => .lift (h.requireAddr_iff _) fun _ => ?_
  exact .lift (h.requireAmount_iff _) fun _ => .refl _

theorem loan_exp_agrees : Agrees (loan_exp ev) (loan_exp ev') := by
  simp only [loan_exp, h.notify_eq]
  exact .lift (h.requireId_iff _) fun _ => .lift (h.requireAddr_iff _) fun _ => .refl _

theorem interest_agrees : Agrees (interest ev) (interest ev') := by
  simp only [interest, h.id, h.ledger, h.txHash, h.coerced num num_normalize]
  exact .lift (h.requireAmount_iff _) fun _ => .refl _

theorem tre_prop_agrees : Agrees (tre_prop ev) (tre_prop ev') := by
  simp only [tre_prop, h.ledger, h.coerced isTrue isTrue_normalize]
  refine .lift (h.requireId_iff _) fun _ => ?_
  exact .lift (h.requireAmount_iff _) fun _ => .lift (h.requireAddr_iff _) fun _ => .refl _

theorem treasuryVote_agrees (idField : String) : Agrees (treasuryVote idField ev) (treasuryVote idField ev') := by
  refine .lift (h.requireId_iff _) fun _ => ?_
  exact .lift (h.requireBool_iff _) fun _ => .lift h.weightOf_iff fun _ => .refl _

theorem treasuryVerdict_agrees (status : TreasuryStatus) (type : NotificationType) (title : String)
    (message : Int → String) :
    Agrees (treasuryVerdict status type title message ev) (treasuryVerdict status type title message ev') := by
  simp only [treasuryVerdict, h.notify_eq]
  exact .lift (h.requireId_iff _) fun _ => .refl _

theorem tre_exec_agrees : Agrees (tre_exec ev) (tre_exec ev') := by
  simp only [tre_exec, h.ledger, h.notify_eq, h.coerced OurDao.str str_normalize]
  exact .lift (h.requireId_iff _) fun _ => .lift (h.requireAddr_iff _) fun _ => .refl _

theorem committed_agrees : Agrees (committed ev) (committed ev') := by
  simp only [committed, h.notify_eq, h.coerced addr addr_normalize, h.coerced OurDao.str str_normalize]
  exact .refl _

theorem doc_attn_agrees : Agrees (doc_attn ev) (doc_attn ev') := by
  simp only [doc_attn, h.id, h.ledger, h.txHash]
  refine .lift (h.requireId_iff _) fun _ => .lift (h.requireAddr_iff _) fun _ => ?_
  exact .lift (h.requireProposalKind_iff _) fun _ => .refl _

theorem handlers_agree {s : EventSymbol} {handler : DecodedEvent → Sql Unit} (hh : handlers s = some handler) :
    Agrees (handler ev) (handler ev') := by
  cases s <;> cases hh
  case joined => exact h.joined_agrees
  case exited => exact h.exited_agrees
  case claimed => exact h.claimed_agrees
  case staked => exact h.setStake_agrees
  case unstaked => exact h.setStake_agrees
  case name_reg => exact h.name_reg_agrees
  case loan_req => exact h.loan_req_agrees
  case loan_edit => exact h.loan_edit_agrees
  case loan_vote => exact h.loan_vote_agrees
  case loan_wait => exact h.loanVerdict_agrees _ _ _ _
  case loan_rej => exact h.loanVerdict_agrees _ _ _ _
  case loan_appr => exact h.loan_appr_agrees
  case loan_rpy => exact h.loan_rpy_agrees
  case loan_dflt => exact h.loan_dflt_agrees
  case loan_exp => exact h.loan_exp_agrees
  case interest => exact h.interest_agrees
  case tre_prop => exact h.tre_prop_agrees
  case tre_vote => exact h.treasuryVote_agrees _
  case revealed => exact h.treasuryVote_agrees _
  case tre_wait => exact h.treasuryVerdict_agrees _ _ _ _
  case tre_rej => exact h.treasuryVerdict_agrees _ _ _ _
  case tre_exec => exact h.tre_exec_agrees
  case committed => exact h.committed_agrees
  case doc_attn => exact h.doc_attn_agrees

/-- Events that read alike are accepted alike, and do the same. -/
theorem applyEvent_agrees : Agrees (applyEvent ev) (applyEvent ev') := by
  intro t r
  rw [applyEvent, applyEvent, h.symbol]
  cases hh : (EventSymbol.ofSymbol? ev.symbol).bind handlers with
  | none => exact Iff.rfl
  | some handler =>
    obtain ⟨s, -, hhandler⟩ := Option.bind_eq_some_iff.mp hh
    exact (h.handlers_agree hhandler).bind (fun _ => .refl _) t r

end Alike

/-- What a rebuild and a replay decode from a row, beside the event that was folded live. -/
structure SameEvent (ev ev' : DecodedEvent) : Prop where
  id : ev'.id = ev.id
  symbol : ev'.symbol = ev.symbol
  ledger : ev'.ledger = ev.ledger
  txHash : ev'.txHash = ev.txHash
  closedAt : ev'.closedAt = ev.closedAt
  data : List.Forall₂ Json.Same ev.data ev'.data
  fields : List.Forall₂ (fun f f' => f'.1 = f.1 ∧ f.2.Same f'.2) ev.fields ev'.fields
  applied : Agrees (applyEvent ev) (applyEvent ev')

/-- A ledger closes at a number of seconds, and the RPC gives that number as `ledgerClosedAt`. -/
def EventResponse.ClosesOnTheSecond (raw : EventResponse) : Prop := 1000000 ∣ raw.ledgerClosedAt

instance (raw : EventResponse) : Decidable raw.ClosesOnTheSecond := inferInstanceAs (Decidable (_ ∣ _))

/-- What the readers of the log make of a row, marked or not. -/
structure ReadsBack (ev : DecodedEvent) (row : EventRow) : Prop where
  decoded : ∀ folded, ∃ ev', toDecodedEvent ev.id { row with folded } = .ok ev' ∧ SameEvent ev ev'
  rebuilt : ∀ (built : Rebuilt) (t : Tables), (∃ channels, applyEvent ev built.db.tables = .ok (channels, t)) ↔
    ∃ built', rebuildRow built (ev.id, row) = .ok built' ∧ built'.db.tables = t
  timeline : ∃ entry, toTimelineEntry (ev.id, row) = .ok entry ∧ ev.symbol = JsStr.ofString entry.symbol ∧
    entry.ledger = ev.ledger ∧ entry.tx_hash = ev.txHash ∧ entry.timestamp = ev.closedAt ∧
    List.Forall₂ (fun f f' => f'.1 = f.1 ∧ f.2.Same f'.2) ev.fields entry.fields

section

variable {raw : EventResponse} {ev : DecodedEvent}

theorem same_fields (fields : List (String × Json)) :
    List.Forall₂ (fun f f' => f'.1 = f.1 ∧ f.2.Same f'.2) fields (fields.map fun f => (f.1, f.2.normalize)) := by
  induction fields with
  | nil => exact .nil
  | cons f fields ih => exact .cons ⟨rfl, Json.same_normalize f.2⟩ ih

theorem symbol_of_stored (hf : rawFault ev = none) : JsStr.ofString ev.symbol.text = ev.symbol :=
  JsStr.ofString_text (JsStr.lone_of_storable (rawFault_eq_none.mp hf).1)

/-- A date holds milliseconds, and so it holds seconds. -/
theorem instant_of_row (hd : decodeEvent raw = .ok ev) (hcloses : raw.ClosesOnTheSecond) :
    ev.closedAt / 1000 * 1000 = ev.closedAt := by
  rw [(decodeEvent_eq_ok hd).2.2.2.1]
  exact Int.ediv_mul_cancel (Dvd.dvd.trans (by decide) hcloses)

theorem rawRow_decodes (hd : decodeEvent raw = .ok ev) (hcloses : raw.ClosesOnTheSecond) (hf : rawFault ev = none)
    (folded : Bool) : ∃ ev', toDecodedEvent ev.id { rawRow ev with folded } = .ok ev' ∧ SameEvent ev ev' := by
  obtain ⟨ev', hread, halike⟩ := toDecodedEvent_rawRow hd hf folded
  have hfields := namedFields_normalize (decodeEvent_eq_ok hd).2.2.2.2
  refine ⟨ev', hread, ?_⟩
  simp only [toDecodedEvent, rawRow, Json.normalize, symbol_of_stored hf, hfields] at hread
  cases hread
  exact {
    id := rfl
    symbol := rfl
    ledger := rfl
    txHash := rfl
    closedAt := instant_of_row hd hcloses
    data := Json.same_normalizeList ev.data
    fields := same_fields ev.fields
    applied := halike.applyEvent_agrees }

theorem rawRow_timeline (hd : decodeEvent raw = .ok ev) (hf : rawFault ev = none) :
    ∃ entry, toTimelineEntry (ev.id, rawRow ev) = .ok entry ∧ ev.symbol = JsStr.ofString entry.symbol ∧
      entry.ledger = ev.ledger ∧ entry.tx_hash = ev.txHash ∧ entry.timestamp = ev.closedAt ∧
      List.Forall₂ (fun f f' => f'.1 = f.1 ∧ f.2.Same f'.2) ev.fields entry.fields := by
  have hfields := namedFields_normalize (decodeEvent_eq_ok hd).2.2.2.2
  simp only [toTimelineEntry, timelineData, rawRow, Json.normalize, symbol_of_stored hf, hfields]
  exact ⟨_, rfl, (symbol_of_stored hf).symm, rfl, rfl, rfl, same_fields ev.fields⟩

/-- What was inserted is read back as what was folded. -/
theorem inserted_reads_back (hd : decodeEvent raw = .ok ev) (hcloses : raw.ClosesOnTheSecond) {db db' : Db}
    {needsFold : Bool} (hnew : db.events.lookup ev.id = none) (hinsert : insertRawEvent ev db = .ok (needsFold, db')) :
    ∃ row, db'.events.lookup ev.id = some row ∧ ReadsBack ev row := by
  obtain ⟨hf, ⟨row, hrow, -⟩ | ⟨-, -, rfl⟩⟩ := insertRawEvent_eq_ok.mp hinsert
  · rw [hnew] at hrow
    cases hrow
  refine ⟨rawRow ev, AList.lookup_insert _, rawRow_decodes hd hcloses hf, fun built t => ?_, rawRow_timeline hd hf⟩
  obtain ⟨ev', hread, hsame⟩ := rawRow_decodes hd hcloses hf false
  constructor
  · rintro ⟨channels, happly⟩
    exact ⟨_, rebuildRow_eq_ok.mpr ⟨ev', channels, t, hread, (hsame.applied _ _).mp happly, rfl⟩, rfl⟩
  · rintro ⟨built', hbuilt, rfl⟩
    obtain ⟨ev'', channels, tables, hread', happly, rfl⟩ := rebuildRow_eq_ok.mp hbuilt
    obtain rfl := Except.ok.inj (hread.symm.trans hread')
    exact ⟨channels, (hsame.applied _ _).mpr happly⟩

end

/-- An event that carries a map, with its keys in the order of the contract. -/
def aMap : EventResponse := { EventResponse.published "0001" 1 "loan_appr"
    [.num 1, .str "GA", .map [("long", .bigint 7), ("id", .arr [.null, .bytes [1, 2]])]] with
  ledgerClosedAt := 1700000000000000 }

theorem map_reads_back : ∃ ev db row, decodeEvent aMap = .ok ev ∧
    insertRawEvent ev Db.empty = .ok (true, db) ∧ db.events.lookup ev.id = some row ∧ ReadsBack ev row := by
  obtain ⟨ev, hd, hf, hid⟩ : ∃ ev, decodeEvent aMap = .ok ev ∧ rawFault ev = none ∧ ev.id = "0001" :=
    ⟨_, rfl, by decide, rfl⟩
  have hnew : Db.empty.events.lookup ev.id = none := rfl
  have hinsert := insertRawEvent_eq_ok.mpr ⟨hf, .inr ⟨hnew, rfl, rfl⟩⟩
  obtain ⟨row, hrow, hback⟩ := inserted_reads_back hd (by decide) hnew hinsert
  exact ⟨ev, _, row, hd, hinsert, hrow, hback⟩

end OurDao
