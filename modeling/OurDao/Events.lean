import OurDao.Json

/-!
# Contract events

The catalog of the events the OurDAO contract publishes, keyed by the first-topic
symbol, and the decoding of one `getEvents` response entry.
-/

namespace OurDao

inductive EventSymbol where
  | joined | exited | claimed
  | loan_req | loan_edit | loan_vote | loan_wait | loan_rej | loan_appr | loan_rpy | loan_dflt
  | loan_exp
  | interest
  | tre_prop | tre_vote | tre_wait | tre_rej | tre_exec
  | staked | unstaked | name_reg | committed | revealed | doc_attn
  | init | admin_add | admin_rem | threshold | policy | paused | unpaused
  deriving DecidableEq, Repr

namespace EventSymbol

/-- The names of the positional entries of the published data tuple. -/
def fields : EventSymbol → List String
  | joined => ["member", "fee"]
  | exited => ["member", "share"]
  | claimed => ["member", "pending"]
  | loan_req => ["id", "borrower", "amount", "total_repayment"]
  | loan_edit => ["proposal_id", "borrower", "new_amount", "total_repayment"]
  | loan_vote => ["proposal_id", "voter", "support", "weight"]
  | loan_wait => ["id", "amount"]
  | loan_rej => ["id", "for_votes", "against_votes"]
  | loan_appr => ["id", "borrower", "amount", "due_time"]
  | loan_rpy => ["loan_id", "borrower", "outstanding"]
  | loan_dflt => ["loan_id", "borrower", "penalty"]
  | loan_exp => ["proposal_id", "borrower"]
  | interest => ["interest", "active"]
  | tre_prop => ["id", "amount", "destination", "private"]
  | tre_vote => ["id", "voter", "support", "weight"]
  | tre_wait => ["id", "amount"]
  | tre_rej => ["id", "for_votes", "against_votes"]
  | tre_exec => ["id", "amount", "destination"]
  | staked => ["member", "amount", "new_stake"]
  | unstaked => ["member", "amount", "new_stake"]
  | name_reg => ["name", "owner"]
  | committed => ["proposal_id", "voter"]
  | revealed => ["proposal_id", "voter", "support", "weight"]
  | doc_attn => ["kind", "proposal_id", "caller"]
  | init => ["admins", "consensus_threshold", "membership_fee", "token"]
  | admin_add => ["admin"]
  | admin_rem => ["admin"]
  | threshold => ["threshold"]
  | policy => []
  | paused => []
  | unpaused => []

def ofString? : String → Option EventSymbol
  | "joined" => some joined
  | "exited" => some exited
  | "claimed" => some claimed
  | "loan_req" => some loan_req
  | "loan_edit" => some loan_edit
  | "loan_vote" => some loan_vote
  | "loan_wait" => some loan_wait
  | "loan_rej" => some loan_rej
  | "loan_appr" => some loan_appr
  | "loan_rpy" => some loan_rpy
  | "loan_dflt" => some loan_dflt
  | "loan_exp" => some loan_exp
  | "interest" => some interest
  | "tre_prop" => some tre_prop
  | "tre_vote" => some tre_vote
  | "tre_wait" => some tre_wait
  | "tre_rej" => some tre_rej
  | "tre_exec" => some tre_exec
  | "staked" => some staked
  | "unstaked" => some unstaked
  | "name_reg" => some name_reg
  | "committed" => some committed
  | "revealed" => some revealed
  | "doc_attn" => some doc_attn
  | "init" => some init
  | "admin_add" => some admin_add
  | "admin_rem" => some admin_rem
  | "threshold" => some threshold
  | "policy" => some policy
  | "paused" => some paused
  | "unpaused" => some unpaused
  | _ => none

/-- An own key of `EVENT_FIELDS`. -/
def ofSymbol? (s : JsStr) : Option EventSymbol := if s.lone then none else ofString? s.text

end EventSymbol

/-- The names every object inherits: `EVENT_FIELDS[name]` is there, but is no array. -/
def inherited : List String :=
  ["constructor", "__defineGetter__", "__defineSetter__", "hasOwnProperty", "__lookupGetter__",
    "__lookupSetter__", "isPrototypeOf", "propertyIsEnumerable", "toString", "valueOf", "__proto__",
    "toLocaleString"]

/-- Map a positional data tuple to the named fields for its symbol. -/
def namedFields (symbol : JsStr) (data : List Json) : Except String (List (String × Json)) :=
  match EventSymbol.ofSymbol? symbol with
  | some s => .ok (s.fields.zipIdx.map fun n => (n.1, (data[n.2]?).getD .null))
  | none =>
    if !symbol.lone && inherited.contains symbol.text then .error "names.forEach is not a function"
    else .ok []

/-- What `scValToNative` makes of a value on the wire: a native value, or the message
of the error it throws. -/
abbrev ScVal := Except JsStr Native

/-- One entry of a `getEvents` response. `ledgerClosedAt` is in microseconds. How large Postgres makes an entry of an
index depends on how well it compresses the text, so whether it can index an event comes with the event. -/
structure EventResponse where
  id : String
  ledger : Nat
  ledgerClosedAt : Int
  contractId : String
  txHash : Option String
  topic : List ScVal
  value : ScVal
  /-- the symbol and the first entry of the data tuple fit into a btree -/
  indexable : Bool := true

/-- An event as the contract publishes it: its symbol as the only topic, and a data tuple. -/
def EventResponse.published (id : String) (ledger : Nat) (symbol : String) (args : List Native) :
    EventResponse where
  id
  ledger
  ledgerClosedAt := 0
  contractId := "C"
  txHash := none
  topic := [.ok (.str symbol)]
  value := .ok (.arr args)

/-- A raw contract event decoded into JSON-safe primitives. -/
structure DecodedEvent where
  id : String
  ledger : Nat
  closedAt : Int
  contractId : String
  txHash : Option String
  symbol : JsStr
  topics : List Json
  /-- positional data tuple -/
  data : List Json
  /-- named view of `data` when the symbol is in the catalog -/
  fields : List (String × Json)
  decodeError : Option JsStr
  indexable : Bool := true

/-- The value a handler reads under a name; one that is not there reads as `null`. -/
def DecodedEvent.field (ev : DecodedEvent) (name : String) : Json :=
  (ev.fields.lookup name).getD .null

/-- A value that does not decode is replaced by `null` and its error kept. -/
def safeNative : ScVal → Json × Option JsStr
  | .ok v => (toJsonSafe v, none)
  | .error msg => (.null, some msg)

/-- The first error whose message is not empty. -/
def firstError (errs : List (Option JsStr)) : Option JsStr :=
  (errs.filterMap id).find? fun e => e.text ≠ ""

/-- The first topic as the event's symbol. -/
def symbolOf (topics : List Json) : Except String JsStr :=
  match topics.head? with
  | none | some .null => .ok ""
  | some v => v.toStr

/-- Decode one getEvents response entry into a JSON-safe `DecodedEvent`. -/
def decodeEvent (ev : EventResponse) : Except String DecodedEvent := do
  let topics := ev.topic.map safeNative
  let symbol ← symbolOf (topics.map Prod.fst)
  let value := safeNative ev.value
  let data := match value.1 with
    | .arr vs => vs
    | v => [v]
  let fields ← namedFields symbol data
  return {
    id := ev.id, ledger := ev.ledger, closedAt := ev.ledgerClosedAt, contractId := ev.contractId,
    txHash := ev.txHash, symbol, topics := topics.map Prod.fst, data, fields
    decodeError := firstError (topics.map Prod.snd ++ [value.2]), indexable := ev.indexable }

/-- What the responses decode to. -/
def decoded (raws : List EventResponse) : List DecodedEvent := raws.filterMap fun raw => (decodeEvent raw).toOption

theorem decodeEvent_eq_ok {raw : EventResponse} {ev : DecodedEvent} (h : decodeEvent raw = .ok ev) :
    ev.id = raw.id ∧ ev.ledger = raw.ledger ∧ ev.contractId = raw.contractId ∧
      ev.closedAt = raw.ledgerClosedAt ∧ namedFields ev.symbol ev.data = .ok ev.fields := by
  simp only [decodeEvent, bind, Except.bind, pure, Except.pure] at h
  split at h
  · cases h
  split at h
  · cases h
  next hf => cases h; exact ⟨rfl, rfl, rfl, rfl, hf⟩

end OurDao
