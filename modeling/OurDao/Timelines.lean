import OurDao.HistoricalPages
import OurDao.NumericParams
import OurDao.Proposals
import OurDao.ReadMarking

/-!
# Timelines and lookups

A path names a loan or a proposal by its id. A lookup takes the number that the path denotes, and a
timeline compares the text of the path with the first entry of every logged tuple. The fold takes
the id from the same entry, a number or a string of digits.
-/

namespace OurDao

namespace Json

/-- The text of a JSONB value. -/
def jsonbText : Json → String
  | .null => "null"
  | .bool b => if b then "true" else "false"
  | .num n => toString n
  | .str s => quote s
  | .arr vs => "[" ++ ", ".intercalate (jsonbTextList vs) ++ "]"
  | .obj kvs => "\x7b" ++ ", ".intercalate (jsonbTextFields kvs) ++ "\x7d"
where
  jsonbTextList : List Json → List String
    | [] => []
    | v :: vs => jsonbText v :: jsonbTextList vs
  jsonbTextFields : List (JsStr × Json) → List String
    | [] => []
    | (k, v) :: kvs => (quote k ++ ": " ++ jsonbText v) :: jsonbTextFields kvs

/-- The value as `->>` gives it; a stored string has no lone surrogate. -/
def asText : Json → Option String
  | .null => none
  | .str s => if s.lone then none else some s.text
  | v => some v.jsonbText

end Json

/-- `data->>0` -/
def firstText (data : Json) : Option String :=
  match data with
  | .arr (v :: _) => v.asText
  | _ => none

def LOAN_TIMELINE_SYMBOLS : List String :=
  ["loan_req", "loan_edit", "loan_vote", "loan_wait", "loan_rej", "loan_appr", "loan_rpy", "loan_dflt", "loan_exp"]

def TREASURY_TIMELINE_SYMBOLS : List String :=
  ["tre_prop", "tre_vote", "committed", "revealed", "tre_wait", "tre_rej", "tre_exec"]

def TIMELINE_MAX_ROWS : Nat := 2000

/-- The number in a path that is looked up; every route has the check of `notificationId`. -/
def lookupId (rawId : String) : Option Nat := notificationId rawId

/-- The same check, which leaves the text as it is. -/
def entityIdParam (v : String) : Option String := (notificationId v).map fun _ => trim v

/-- The rows of some symbols that satisfy a condition, `ORDER BY ledger ASC, id ASC`. -/
def timelineRows (db : Db) (symbols : List String) (p : FeedRow → Bool) : List FeedRow :=
  let rows := (Table.rows db.events).filter fun r => symbols.contains r.2.symbol && p r
  (Keyset.ordered FeedRow.key rows).take TIMELINE_MAX_ROWS

def entityTimeline (db : Db) (symbols : List String) (id : String) : Except String (List TimelineEntry) :=
  (timelineRows db symbols fun r => firstText r.2.data = some id).mapM toTimelineEntry

inductive TimelineReply where
  | badRequest (error : String)
  /-- an entry has no fields -/
  | failed
  | timeline (entries : List TimelineEntry)

/-- The common body of the two routes. -/
def getTimeline (symbols : List String) (invalid : String) (db : Db) (rawId : String) : TimelineReply :=
  match entityIdParam rawId with
  | none => .badRequest invalid
  | some id =>
    match entityTimeline db symbols id with
    | .ok timeline => .timeline timeline
    | .error _ => .failed

/-- `GET /loans/:id/timeline` -/
def getLoanTimeline (db : Db) (rawId : String) : TimelineReply :=
  getTimeline LOAN_TIMELINE_SYMBOLS "invalid loan id" db rawId

/-- `GET /proposals/treasury/:id/timeline` -/
def getTreasuryTimeline (db : Db) (rawId : String) : TimelineReply :=
  getTimeline TREASURY_TIMELINE_SYMBOLS "invalid proposal id" db rawId

inductive LookupReply (α : Type) where
  | badRequest (error : String)
  | notFound (error : String)
  /-- the statement fails -/
  | failed
  | found (body : α)

def LookupReply.map {α β : Type} (f : α → β) : LookupReply α → LookupReply β
  | badRequest e => .badRequest e
  | notFound e => .notFound e
  | failed => .failed
  | found body => .found (f body)

/-- The common body of the three routes. -/
def lookupById {ν : Type} (rows : Tables → Table Int ν) (invalid missing : String) (db : Db) (rawId : String) :
    LookupReply (Int × ν) :=
  match lookupId rawId with
  | none => .badRequest invalid
  | some n =>
    -- `id` is an INTEGER
    if n < 2 ^ 31 then
      match (rows db.tables).lookup (n : Int) with
      | some row => .found (n, row)
      | none => .notFound missing
    else .failed

/-- A proposal as its route sends it. -/
structure ProposalBody (ν : Type) where
  id : Int
  row : ν
  tallies_weighted : Bool

/-- `GET /loans/:id` -/
def getLoan (db : Db) (rawId : String) : LookupReply LoanWithDerived :=
  (lookupById Tables.loans "invalid loan id" "loan not found" db rawId).map withLoanDerived

/-- `GET /proposals/loan/:id` -/
def getLoanProposal (db : Db) (rawId : String) : LookupReply (ProposalBody LoanProposalRow) :=
  (lookupById Tables.loan_proposals "invalid proposal id" "loan proposal not found" db rawId).map
    fun r => ⟨r.1, r.2, false⟩

/-- `GET /proposals/treasury/:id` -/
def getTreasuryProposal (db : Db) (rawId : String) : LookupReply (ProposalBody TreasuryProposalRow) :=
  (lookupById Tables.treasury_proposals "invalid proposal id" "treasury proposal not found" db rawId).map
    fun r => ⟨r.1, r.2, false⟩

/-- The id in a logged event, as the fold reads it: the first of its fields. -/
def loggedId (r : FeedRow) : Option Int :=
  match toDecodedEvent r.1 r.2 with
  | .error _ => none
  | .ok ev =>
    (EventSymbol.ofSymbol? ev.symbol).bind fun s =>
      s.fields.head?.bind fun field => (requireId ev field).toOption

/-- The logged events of an id, up to the cap. -/
def lifecycle (db : Db) (symbols : List String) (n : Int) : List FeedRow :=
  timelineRows db symbols fun r => loggedId r = some n

/-- Every event of an id carries it in the characters in which the path writes it. -/
def SpelledAlike (db : Db) (symbols : List String) (rawId : String) (n : Int) : Prop :=
  ∀ r ∈ lifecycle db symbols n, firstText r.2.data = some (trim rawId)

instance (db : Db) (symbols : List String) (rawId : String) (n : Int) : Decidable (SpelledAlike db symbols rawId n) :=
  inferInstanceAs (Decidable (∀ r ∈ lifecycle db symbols n, _))

section

variable {s : String} {n : Nat}

theorem not_digits_of_head {c : Char} {cs : List Char} (hc : ¬ JsNumber.digitValue c < 10) :
    JsNumber.digits 10 (c :: cs) = none := by
  rw [JsNumber.digits, if_pos]
  simp [hc]

/-- What is neither a number nor a string has no text of digits. -/
theorem digits_jsonbText {v : Json} (hnum : ∀ m, v ≠ .num m) (hstr : ∀ t, v ≠ .str t) :
    JsNumber.digits 10 v.jsonbText.toList = none := by
  cases v with
  | null => decide
  | bool b => cases b <;> decide
  | num m => exact absurd rfl (hnum m)
  | str t => exact absurd rfl (hstr t)
  | arr vs =>
    rw [Json.jsonbText, String.append_assoc, String.toList_append]
    exact not_digits_of_head (by decide)
  | obj kvs =>
    rw [Json.jsonbText, String.append_assoc, String.toList_append]
    exact not_digits_of_head (by decide)

/-- An entry whose text is digits is the number that they denote. -/
theorem id_of_asText {v : Json} (htext : v.asText = some s) (hn : JsNumber.digits 10 s.toList = some n) :
    v = .num n ∨ ∃ t, v = .str t ∧ decimal? t = some n := by
  cases v with
  | null => cases htext
  | str t =>
    rw [Json.asText] at htext
    split at htext
    next => cases htext
    next hlone =>
      cases htext
      exact .inr ⟨t, rfl, by rw [decimal?, if_neg hlone, hn]⟩
  | num m =>
    cases htext
    change JsNumber.digits 10 (toString m).toList = some n at hn
    cases m with
    | ofNat k =>
      have hk : JsNumber.digits 10 (toString (Int.ofNat k)).toList = some k := digits_toString k
      rw [hk, Option.some.injEq] at hn
      exact .inl (by rw [← hn]; rfl)
    | negSucc k =>
      have hminus : (toString (Int.negSucc k)).toList = '-' :: (toString (k + 1)).toList := String.toList_append
      rw [hminus, not_digits_of_head (by decide)] at hn
      cases hn
  | bool _ | arr _ | obj _ =>
    cases htext
    rw [digits_jsonbText (by simp) (by simp)] at hn
    cases hn

/-- Every symbol is in the catalogue, with a first field. -/
def Catalogued (symbols : List String) : Prop :=
  ∀ symbol ∈ symbols, ∃ e field fields, EventSymbol.ofSymbol? (.ofString symbol) = some e ∧ e.fields = field :: fields

/-- The first field is the first entry. -/
theorem field_head {ev : DecodedEvent} {e : EventSymbol} {field : String} {fields : List String} {v : Json}
    {vs : List Json} (hsymbol : EventSymbol.ofSymbol? ev.symbol = some e) (hfields : e.fields = field :: fields)
    (hdata : ev.data = v :: vs) (hnamed : namedFields ev.symbol ev.data = .ok ev.fields) : ev.field field = v := by
  rw [namedFields, hsymbol] at hnamed
  have hvalue := Except.ok.inj hnamed
  rw [hfields, hdata, List.zipIdx_cons, List.map_cons] at hvalue
  rw [DecodedEvent.field, ← hvalue, List.lookup_cons_self]
  rfl

/-- What a timeline finds under a text of digits is of the id that they denote. -/
theorem loggedId_of_text {symbols : List String} (hsymbols : Catalogued symbols) {r : FeedRow}
    (hr : symbols.contains r.2.symbol) (htext : firstText r.2.data = some s)
    (hn : JsNumber.digits 10 s.toList = some n) : loggedId r = some (n : Int) := by
  obtain ⟨e, field, fields, hsymbol, hfields⟩ := hsymbols r.2.symbol (List.contains_iff_mem.mp hr)
  obtain ⟨v, vs, hdata⟩ : ∃ v vs, r.2.data = .arr (v :: vs) := by
    unfold firstText at htext
    split at htext
    next v vs hdata => exact ⟨v, vs, hdata⟩
    next => cases htext
  rw [hdata] at htext
  obtain ⟨ev, hev, hevsymbol, hevdata, hnamed⟩ : ∃ ev, toDecodedEvent r.1 r.2 = .ok ev ∧
      ev.symbol = .ofString r.2.symbol ∧ ev.data = v :: vs ∧ namedFields ev.symbol ev.data = .ok ev.fields := by
    have hnamed : namedFields (.ofString r.2.symbol) (v :: vs) =
        .ok (e.fields.zipIdx.map fun n => (n.1, ((v :: vs)[n.2]?).getD .null)) := by rw [namedFields, hsymbol]
    rw [toDecodedEvent, hdata]
    dsimp only
    rw [hnamed]
    exact ⟨_, rfl, rfl, rfl, hnamed⟩
  have hfield : ev.field field = v := field_head (hevsymbol ▸ hsymbol) hfields hevdata hnamed
  have hid : requireId ev field = .ok (n : Int) := by
    rw [requireId, hfield]
    obtain rfl | ⟨t, rfl, ht⟩ := id_of_asText htext hn
    · rfl
    · dsimp only
      rw [ht]
  rw [loggedId, hev]
  dsimp only
  rw [hevsymbol, hsymbol, Option.bind_some, hfields, List.head?_cons, Option.bind_some, hid]
  rfl

end

/-- A filtered list and the list begin alike exactly when nothing is missing there. -/
theorem take_filter_eq_iff {α : Type} (p : α → Bool) (n : Nat) (l : List α) :
    (l.filter p).take n = l.take n ↔ ∀ a ∈ l.take n, p a := by
  induction l generalizing n with
  | nil => simp
  | cons a l ih =>
    cases n with
    | zero => simp
    | succ n =>
      rw [List.take_succ_cons, List.forall_mem_cons]
      by_cases ha : p a
      · rw [List.filter_cons_of_pos ha, List.take_succ_cons, List.cons.injEq, ih]
        exact ⟨fun h => ⟨ha, h.2⟩, fun h => ⟨rfl, h.2⟩⟩
      · rw [List.filter_cons_of_neg ha]
        refine ⟨fun h => ?_, fun h => absurd h.1 ha⟩
        have hmem : a ∈ (l.filter p).take (n + 1) := by
          rw [h]
          exact List.mem_cons_self
        exact absurd (List.mem_filter.mp (List.mem_of_mem_take hmem)).2 ha

section

variable {db : Db} {symbols : List String} {rawId : String} {n : Nat}

/-- The rows of a timeline are those of the id exactly when every one of these is spelled like the path. -/
theorem timelineRows_eq_iff (hsymbols : Catalogued symbols) (hid : lookupId rawId = some n) :
    (timelineRows db symbols fun r => firstText r.2.data = some (trim rawId)) = lifecycle db symbols n ↔
      SpelledAlike db symbols rawId n := by
  have hdigits := (NumericParam.notificationId_eq_some hid).1
  have hrows : (Table.rows db.events).filter (fun r => symbols.contains r.2.symbol &&
        decide (firstText r.2.data = some (trim rawId))) =
      ((Table.rows db.events).filter fun r => symbols.contains r.2.symbol &&
        decide (loggedId r = some (n : Int))).filter fun r => decide (firstText r.2.data = some (trim rawId)) := by
    rw [List.filter_filter]
    refine List.filter_congr fun r _ => ?_
    by_cases hr : symbols.contains r.2.symbol ∧ firstText r.2.data = some (trim rawId)
    · simp [hr.2, loggedId_of_text hsymbols hr.1 hr.2 hdigits]
    · rw [not_and] at hr
      by_cases hsymbol : symbols.contains r.2.symbol
      · simp [hr hsymbol]
      · rw [Bool.eq_false_iff.mpr hsymbol, Bool.false_and, Bool.false_and, Bool.and_false]
  rw [SpelledAlike, lifecycle, timelineRows, timelineRows, hrows,
    Keyset.ordered_filter ((FeedRow.keys_nodup db.events).sublist (List.filter_sublist.map _)), take_filter_eq_iff]
  simp only [decide_eq_true_eq]

theorem known_of_mem (hsymbols : Catalogued symbols) {p : FeedRow → Bool} {r : FeedRow}
    (hr : r ∈ timelineRows db symbols p) : (EventSymbol.ofSymbol? (.ofString r.2.symbol)).isSome := by
  have hmem := (List.mem_filter.mp (Keyset.mem_ordered.mp (List.mem_of_mem_take hr))).2
  obtain ⟨e, _, _, he, -⟩ := hsymbols r.2.symbol (List.contains_iff_mem.mp (Bool.and_eq_true_iff.mp hmem).1)
  rw [he]
  rfl

/-- A timeline lists the events that carry the characters of the path. -/
theorem getTimeline_rows (hsymbols : Catalogued symbols) (hid : lookupId rawId = some n) (invalid : String) :
    getTimeline symbols invalid db rawId = .timeline
      ((timelineRows db symbols fun r => firstText r.2.data = some (trim rawId)).map timelineEntry) := by
  have hparam : entityIdParam rawId = some (trim rawId) := by
    rw [lookupId] at hid
    rw [entityIdParam, hid, Option.map_some]
  rw [getTimeline, hparam]
  dsimp only
  rw [entityTimeline, mapM_toTimelineEntry fun r => known_of_mem hsymbols]

/-- A timeline lists the events of the id that the path denotes exactly when these are spelled like the path. -/
theorem getTimeline_iff (hsymbols : Catalogued symbols) (hid : lookupId rawId = some n) (invalid : String) :
    getTimeline symbols invalid db rawId = .timeline ((lifecycle db symbols n).map timelineEntry) ↔
      SpelledAlike db symbols rawId n := by
  rw [getTimeline_rows hsymbols hid invalid]
  constructor
  · intro hsame r hr
    -- an entry names its row
    have hids := congrArg (List.map TimelineEntry.id) (TimelineReply.timeline.inj hsame)
    rw [List.map_map, List.map_map] at hids
    have hid : r.1 ∈ (lifecycle db symbols n).map (TimelineEntry.id ∘ timelineEntry) := List.mem_map_of_mem hr
    rw [← hids] at hid
    obtain ⟨r', hr', heq⟩ := List.mem_map.mp hid
    have hrow : db.events.lookup r.1 = some r.2 :=
      Table.mem_rows.mp (List.mem_filter.mp (Keyset.mem_ordered.mp (List.mem_of_mem_take hr))).1
    have hfound := List.mem_filter.mp (Keyset.mem_ordered.mp (List.mem_of_mem_take hr'))
    have hrow' : db.events.lookup r'.1 = some r'.2 := Table.mem_rows.mp hfound.1
    have heq : r'.1 = r.1 := heq
    rw [heq, hrow] at hrow'
    rw [Option.some.inj hrow']
    exact of_decide_eq_true (Bool.and_eq_true_iff.mp hfound.2).2
  · intro hspelled
    rw [(timelineRows_eq_iff hsymbols hid).mpr hspelled]

/-- Ids that were sent as numbers are logged without leading zeros. -/
theorem spelledAlike_iff (hnumbers : ∀ r ∈ lifecycle db symbols n, ∃ vs, r.2.data = .arr (.num n :: vs)) :
    SpelledAlike db symbols rawId n ↔ lifecycle db symbols n = [] ∨ trim rawId = toString n := by
  have htext : ∀ r ∈ lifecycle db symbols n, firstText r.2.data = some (toString n) := by
    intro r hr
    obtain ⟨vs, hdata⟩ := hnumbers r hr
    rw [hdata]
    rfl
  constructor
  · intro h
    cases hlog : lifecycle db symbols n with
    | nil => exact .inl rfl
    | cons r rs =>
      have hr : r ∈ lifecycle db symbols n := by simp [hlog]
      exact .inr (Option.some.inj ((h r hr).symm.trans (htext r hr)))
  · rintro (hempty | htrim) r hr
    · rw [hempty] at hr
      cases hr
    · rw [htext r hr, htrim]

end

/-- Every id of a table is in the range of its column. -/
def InColumn {ν : Type} (rows : Table Int ν) : Prop := ∀ id row, rows.lookup id = some row → id < 2 ^ 31

structure IdsInColumns (t : Tables) : Prop where
  loans : InColumn t.loans
  loan_proposals : InColumn t.loan_proposals
  treasury_proposals : InColumn t.treasury_proposals

theorem integer_lt {m k : Int} (h : Sql.integer m = .ok k) : m < 2 ^ 31 := by
  rw [Sql.integer] at h
  split at h
  next hrange => exact hrange.2
  next => cases h

section

variable {ev : DecodedEvent} {t t' : Tables} {channels : List StreamChannel} {id : Int}

/-- The three kinds of events that create a row check its id. -/
theorem created_lt {s : EventSymbol} (hs : EventSymbol.ofSymbol? ev.symbol = some s)
    (hcreates : s = .loan_appr ∨ s = .loan_req ∨ s = .tre_prop) (h : applyEvent ev t = .ok (channels, t'))
    (hid : requireId ev "id" = .ok id) : id < 2 ^ 31 := by
  obtain rfl | rfl | rfl := hcreates
  · have hrun : loan_appr ev t = .ok ((), t') := (applyEvent_eq_ok hs rfl).mp ⟨channels, h⟩
    obtain ⟨id', _, _, _, _, _, ⟨hid', hint, -⟩, -⟩ := loan_appr_steps hrun
    obtain rfl : id' = id := Except.ok.inj (hid'.symm.trans hid)
    exact integer_lt hint
  · have hrun : loan_req ev t = .ok ((), t') := (applyEvent_eq_ok hs rfl).mp ⟨channels, h⟩
    simp only [loan_req, lift_bind_eq_ok, hid] at hrun
    obtain ⟨_, ⟨⟩, borrower, -, amount, -, total, -, id', hint, -⟩ := hrun
    exact integer_lt hint
  · have hrun : tre_prop ev t = .ok ((), t') := (applyEvent_eq_ok hs rfl).mp ⟨channels, h⟩
    simp only [tre_prop, lift_bind_eq_ok, hid] at hrun
    obtain ⟨_, ⟨⟩, amount, -, destination, -, id', hint, -⟩ := hrun
    exact integer_lt hint

theorem loans_inColumn (h : applyEvent ev t = .ok (channels, t')) (hloans : InColumn t.loans) :
    InColumn t'.loans := by
  intro id row hrow
  obtain hsame | ⟨w, row', hwrite, -, -, hinsert⟩ := applyEvent_loans h
  · exact hloans id row (hsame ▸ hrow)
  rw [hinsert, Table.lookup_insert] at hrow
  split at hrow
  next hw =>
    subst hw
    unfold loanWrite at hwrite
    split at hwrite
    next hs =>
      split at hwrite
      next id borrower hid hborrower =>
        cases hwrite
        exact created_lt hs (.inl rfl) h hid
      next => cases hwrite
    next hs =>
      split at hwrite
      next id outstanding hid hout =>
        obtain ⟨old, hold, rfl⟩ := Option.map_eq_some_iff.mp hwrite
        exact hloans _ old hold
      next => cases hwrite
    next hs =>
      split at hwrite
      next id hid =>
        obtain ⟨old, hold, rfl⟩ := Option.map_eq_some_iff.mp hwrite
        exact hloans _ old (Option.filter_eq_some_iff.mp hold).1
      next => cases hwrite
    next => cases hwrite
  next => exact hloans id row hrow

/-- Where an event moves every proposal, a new one was asked for. -/
theorem Proposals.Moves.inColumn {ν σ : Type} {P : Proposals ν σ} (hmoves : P.Moves)
    (hrequests : ∀ s field, P.requests s = some field →
      field = "id" ∧ (s = .loan_appr ∨ s = .loan_req ∨ s = .tre_prop))
    (h : applyEvent ev t = .ok (channels, t')) (hrows : InColumn (P.rows t)) : InColumn (P.rows t') := by
  intro id row hrow
  cases hbefore : (P.rows t).lookup id with
  | some old => exact hrows id old hbefore
  | none =>
    have hmove := hmoves ev t channels t' h id
    rw [hbefore, hrow] at hmove
    cases hmove with
    | opened hopen =>
      obtain ⟨s, field, hs, hfield, hid⟩ := names_iff.mp hopen
      obtain ⟨rfl, hcreates⟩ := hrequests s field hfield
      exact created_lt hs hcreates h hid

theorem IdsInColumns.applyEvent (hids : IdsInColumns t) (h : applyEvent ev t = .ok (channels, t')) :
    IdsInColumns t' where
  loans := loans_inColumn h hids.loans
  loan_proposals := by
    refine loanProposals_moves.inColumn (fun s field hfield => ?_) h hids.loan_proposals
    cases s <;> cases hfield
    exact ⟨rfl, .inr (.inl rfl)⟩
  treasury_proposals := by
    refine treasuryProposals_moves.inColumn (fun s field hfield => ?_) h hids.treasury_proposals
    cases s <;> cases hfield
    exact ⟨rfl, .inr (.inr rfl)⟩

end

/-- What a run of folds creates is in the range of its column. -/
theorem Folds.idsInColumns {Meets : Db → DecodedEvent → Prop} {db db' : Db} {raws : List EventResponse}
    (h : Folds Meets db raws db') (hall : AllFolded db) (hids : IdsInColumns db.tables) :
    IdsInColumns db'.tables := by
  induction h with
  | nil => exact hids
  | cons hd hmeets hfold hrest ih =>
    obtain ⟨hingested, hall'⟩ := ingested_of_ingestEvent hall hd hfold
    cases hingested with
    | known => exact ih hall' hids
    | new _ htables => exact ih hall' (hids.applyEvent htables)

theorem idsInColumns_empty : IdsInColumns Db.empty.tables := by
  constructor <;> intro id row h <;> simp [Db.empty, Tables.empty] at h

section

variable {ν : Type} {rows : Tables → Table Int ν} {invalid missing : String} {db : Db} {id : Int} {row : ν}

/-- A row with a positive id in the range of its column is found under the digits of the id. -/
theorem lookupById_toString (hcolumn : InColumn (rows db.tables)) (hrow : (rows db.tables).lookup id = some row)
    (hpos : 0 < id) : lookupById rows invalid missing db (toString id.toNat) = .found (id, row) := by
  have hrange : id < 2 ^ 31 := hcolumn id row hrow
  have hcast : ((id.toNat : Nat) : Int) = id := Int.toNat_of_nonneg hpos.le
  have hid : lookupId (toString id.toNat) = some id.toNat := by
    rw [lookupId, notificationId_toString, if_pos]
    omega
  have hfits : id.toNat < 2 ^ 31 := by omega
  rw [lookupById, hid]
  dsimp only
  rw [if_pos hfits, hcast, hrow]

/-- Only rows with a positive id are found. -/
theorem pos_of_lookupById {rawId : String} (h : lookupById rows invalid missing db rawId = .found (id, row)) :
    0 < id := by
  unfold lookupById at h
  split at h
  next => cases h
  next n hn =>
    have hpos : 0 < n := (of_decide_eq_true (Option.filter_eq_some_iff.mp hn).2).1
    split at h
    next =>
      split at h
      next =>
        cases h
        exact_mod_cast hpos
      next => cases h
    next => cases h

end

/-- When a timeline lists what the lookups look up, and which rows are found at all. -/
structure TimelinesAgree (db : Db) : Prop where
  loan : ∀ rawId n, lookupId rawId = some n →
    (getLoanTimeline db rawId = .timeline ((lifecycle db LOAN_TIMELINE_SYMBOLS n).map timelineEntry) ↔
      SpelledAlike db LOAN_TIMELINE_SYMBOLS rawId n)
  treasury : ∀ rawId n, lookupId rawId = some n →
    (getTreasuryTimeline db rawId = .timeline ((lifecycle db TREASURY_TIMELINE_SYMBOLS n).map timelineEntry) ↔
      SpelledAlike db TREASURY_TIMELINE_SYMBOLS rawId n)
  loans : ∀ id row, db.tables.loans.lookup id = some row →
    ((∃ rawId, getLoan db rawId = .found (withLoanDerived (id, row))) ↔ 0 < id)
  loan_proposals : ∀ id row, db.tables.loan_proposals.lookup id = some row →
    ((∃ rawId, getLoanProposal db rawId = .found ⟨id, row, false⟩) ↔ 0 < id)
  treasury_proposals : ∀ id row, db.tables.treasury_proposals.lookup id = some row →
    ((∃ rawId, getTreasuryProposal db rawId = .found ⟨id, row, false⟩) ↔ 0 < id)

theorem catalogued_loan : Catalogued LOAN_TIMELINE_SYMBOLS := by
  intro symbol hsymbol
  simp only [LOAN_TIMELINE_SYMBOLS, List.mem_cons, List.not_mem_nil, or_false] at hsymbol
  obtain rfl | rfl | rfl | rfl | rfl | rfl | rfl | rfl | rfl := hsymbol <;> exact ⟨_, _, _, rfl, rfl⟩

theorem catalogued_treasury : Catalogued TREASURY_TIMELINE_SYMBOLS := by
  intro symbol hsymbol
  simp only [TREASURY_TIMELINE_SYMBOLS, List.mem_cons, List.not_mem_nil, or_false] at hsymbol
  obtain rfl | rfl | rfl | rfl | rfl | rfl | rfl := hsymbol <;> exact ⟨_, _, _, rfl, rfl⟩

/-- What a lookup finds has a positive id, however it is sent. -/
theorem pos_of_found {ν β : Type} {rows : Tables → Table Int ν} {invalid missing : String} {db : Db} {rawId : String}
    {f : Int × ν → β} (id : β → Int) (hf : ∀ r, id (f r) = r.1) {body : β}
    (h : (lookupById rows invalid missing db rawId).map f = .found body) : 0 < id body := by
  cases hlookup : lookupById rows invalid missing db rawId with
  | found r =>
    rw [hlookup] at h
    cases h
    rw [hf]
    exact pos_of_lookupById hlookup
  | badRequest e | notFound e =>
    rw [hlookup] at h
    cases h
  | failed =>
    rw [hlookup] at h
    cases h

/-- Whatever is folded without quarantine, a timeline lists what the lookups look up exactly when the log spells the id
like the path, and a row is found exactly when its id is positive. -/
theorem timelines_agree {raws : List EventResponse} {db : Db} (h : Folds (fun _ _ => True) Db.empty raws db) :
    TimelinesAgree db := by
  have hids : IdsInColumns db.tables := h.idsInColumns allFolded_empty idsInColumns_empty
  constructor
  · exact fun rawId n hid => getTimeline_iff catalogued_loan hid _
  · exact fun rawId n hid => getTimeline_iff catalogued_treasury hid _
  · intro id row hrow
    refine ⟨fun ⟨rawId, hfound⟩ => pos_of_found (fun body => body.id) (fun _ => rfl) hfound, fun hpos => ?_⟩
    exact ⟨toString id.toNat, by rw [getLoan, lookupById_toString hids.loans hrow hpos]; rfl⟩
  · intro id row hrow
    refine ⟨fun ⟨rawId, hfound⟩ => pos_of_found (fun body => body.id) (fun _ => rfl) hfound, fun hpos => ?_⟩
    exact ⟨toString id.toNat, by rw [getLoanProposal, lookupById_toString hids.loan_proposals hrow hpos]; rfl⟩
  · intro id row hrow
    refine ⟨fun ⟨rawId, hfound⟩ => pos_of_found (fun body => body.id) (fun _ => rfl) hfound, fun hpos => ?_⟩
    exact ⟨toString id.toNat, by rw [getTreasuryProposal, lookupById_toString hids.treasury_proposals hrow hpos]; rfl⟩

/-- A request for the loan with this id, a vote on it and its approval. -/
def requestOf (id : Int) : EventResponse :=
  .published "0001" 1 "loan_req" [.num id, .str "GA", .bigint 100, .bigint 110]
def voteOn (id : Int) : EventResponse := .published "0002" 2 "loan_vote" [.num id, .str "GB", .bool true]
def approvalOf (id : Int) : EventResponse := .published "0003" 3 "loan_appr" [.num id, .str "GA", .bigint 100]

/-- Three events of one loan, and its request of another. -/
def approvedSeven : Db :=
  foldedDb [requestOf 7, voteOn 7, approvalOf 7, { requestOf 8 with id := "0004", ledger := 4 }]

theorem timelines_agree_approved : TimelinesAgree approvedSeven ∧
    getLoanTimeline approvedSeven " 7" =
      .timeline ((lifecycle approvedSeven LOAN_TIMELINE_SYMBOLS 7).map timelineEntry) ∧
    (lifecycle approvedSeven LOAN_TIMELINE_SYMBOLS 7).map (·.2.symbol) = ["loan_req", "loan_vote", "loan_appr"] := by
  have hagree : TimelinesAgree approvedSeven := timelines_agree (folds_foldedDb (by decide +kernel))
  exact ⟨hagree, (hagree.loan " 7" 7 (by decide +kernel)).mpr (by decide +kernel), by decide +kernel⟩

/-- The loan with id 7 is found under `007`, where its timeline is empty, and the proposal with id 0 is created, and no
path reaches it. -/
theorem leading_zeros_lost :
    (Folds (fun _ _ => True) Db.empty [requestOf 7, voteOn 7, approvalOf 7]
        (foldedDb [requestOf 7, voteOn 7, approvalOf 7]) ∧
      (∃ loan, getLoan (foldedDb [requestOf 7, voteOn 7, approvalOf 7]) "007" = .found loan ∧ loan.id = 7) ∧
      getLoanTimeline (foldedDb [requestOf 7, voteOn 7, approvalOf 7]) "007" = .timeline [] ∧
      (lifecycle (foldedDb [requestOf 7, voteOn 7, approvalOf 7]) LOAN_TIMELINE_SYMBOLS 7).length = 3) ∧
    (Folds (fun _ _ => True) Db.empty [requestOf 0] (foldedDb [requestOf 0]) ∧
      ((foldedDb [requestOf 0]).tables.loan_proposals.lookup 0).isSome ∧
      ∀ rawId body, getLoanProposal (foldedDb [requestOf 0]) rawId = .found body → body.id ≠ 0) := by
  refine ⟨⟨folds_foldedDb (by decide +kernel), ?_, ?_, by decide +kernel⟩,
    folds_foldedDb (by decide +kernel), by decide +kernel, fun rawId body h => ?_⟩
  · exact ⟨_, rfl, rfl⟩
  · rw [getLoanTimeline, getTimeline_rows catalogued_loan (n := 7) (by decide +kernel)]
    have hnone : timelineRows (foldedDb [requestOf 7, voteOn 7, approvalOf 7]) LOAN_TIMELINE_SYMBOLS
        (fun r => firstText r.2.data = some (trim "007")) = [] := List.isEmpty_iff.mp (by decide +kernel)
    rw [hnone]
    rfl
  · exact (pos_of_found (fun body => body.id) (fun _ => rfl) h).ne'

end OurDao
