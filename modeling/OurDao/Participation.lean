import OurDao.LedgerFeeds

/-!
# The activity feed of an address

The feed takes the events of some symbols whose tuple holds the address, in whatever entry. The
entries that name a participant have names of their own in the catalogue.
-/

namespace OurDao

/-- A log that `insertRawEvent` has filled; folds mark its rows. -/
inductive FilledLog : Table String EventRow → Prop
  | empty : FilledLog ∅
  | inserted {db db' : Db} {raw : EventResponse} {ev : DecodedEvent} {needsFold : Bool} (h : FilledLog db.events)
      (hd : decodeEvent raw = .ok ev) (hi : insertRawEvent ev db = .ok (needsFold, db')) : FilledLog db'.events
  | folded {events : Table String EventRow} (h : FilledLog events) (id : String) : FilledLog (setFolded id events)

/-- The fields that name a participant. -/
def participantFields : List String := ["member", "borrower", "voter", "owner"]

/-- The value of a field of a logged event, as the feed answers it. -/
def FeedRow.field (r : FeedRow) (name : String) : Json := ((timelineEntry r).fields.lookup name).getD .null

/-- The address is a participant of the event. -/
def FeedRow.Names (address : String) (r : FeedRow) : Prop :=
  ∃ name ∈ participantFields, r.field name = .str (.ofString address)

/-- The kind of event that a request asks for. -/
def FeedRow.Wanted (symbol : Option QueryValue) (r : FeedRow) : Prop :=
  MEMBER_ACTIVITY_SYMBOLS.contains r.2.symbol ∧ ∀ s, symbol = some (.one s) → r.2.symbol = s

/-- The entry with this position is a field that names a participant. -/
def FeedRow.ParticipantAt (r : FeedRow) (i : Nat) : Prop :=
  ∃ e, EventSymbol.ofSymbol? (.ofString r.2.symbol) = some e ∧
    ∃ name ∈ participantFields, e.fields.idxOf? name = some i

/-- The address stands in no entry but a participant's, unless it is a participant as well. -/
def FeedRow.OnlyNames (address : String) (r : FeedRow) : Prop :=
  ∀ i, (timelineData r)[i]? = some (.str (.ofString address)) →
    r.ParticipantAt i ∨ ∃ j, r.ParticipantAt j ∧ (timelineData r)[j]? = some (.str (.ofString address))

/-- The data of every row is a tuple. -/
def TuplesOnly (events : Table String EventRow) : Prop :=
  ∀ id row, events.lookup id = some row → ∃ vs, row.data = .arr vs

theorem TuplesOnly.setFolded {events : Table String EventRow} (h : TuplesOnly events) (id : String) :
    TuplesOnly (setFolded id events) := by
  intro k row hrow
  rw [OurDao.setFolded] at hrow
  split at hrow
  next old hold =>
    rw [Table.lookup_insert] at hrow
    split at hrow
    next =>
      cases hrow
      exact h id old hold
    next => exact h k row hrow
  next => exact h k row hrow

theorem FilledLog.tuplesOnly {events : Table String EventRow} (h : FilledLog events) : TuplesOnly events := by
  induction h with
  | empty =>
    intro id row hrow
    simp at hrow
  | inserted h hd hi ih =>
    obtain ⟨-, ⟨old, -, -, rfl⟩ | ⟨-, -, rfl⟩⟩ := insertRawEvent_eq_ok.mp hi
    · exact ih
    · intro id row hrow
      rw [Table.lookup_insert] at hrow
      split at hrow
      next =>
        cases hrow
        exact ⟨_, rfl⟩
      next => exact ih id row hrow
  | folded h id ih => exact ih.setFolded id

theorem lookup_zipIdx (names : List String) (k : Nat) (value : Nat → Json) (name : String) :
    ((names.zipIdx k).map fun n => (n.1, value n.2)).lookup name =
      (names.idxOf? name).map fun i => value (k + i) := by
  induction names generalizing k with
  | nil => rfl
  | cons n names ih =>
    rw [List.zipIdx_cons, List.map_cons, List.lookup_cons, List.idxOf?_cons]
    by_cases hn : n = name
    · subst hn
      simp
    · have hne : (name == n) = false := beq_eq_false_iff_ne.mpr (Ne.symm hn)
      have hne' : (n == name) = false := beq_eq_false_iff_ne.mpr hn
      rw [hne, hne', ih]
      cases names.idxOf? name with
      | none => rfl
      | some i => simp [Nat.add_assoc, Nat.add_comm 1 i]

section

variable {r : FeedRow} {address : String} {e : EventSymbol}

theorem field_eq (hsymbol : EventSymbol.ofSymbol? (.ofString r.2.symbol) = some e) (name : String) :
    r.field name = ((e.fields.idxOf? name).bind fun i => (timelineData r)[i]?).getD .null := by
  have hfields : (timelineEntry r).fields =
      (e.fields.zipIdx 0).map fun n => (n.1, ((timelineData r)[n.2]?).getD .null) := by
    simp only [timelineEntry, namedFields, hsymbol]
    rfl
  rw [FeedRow.field, hfields, lookup_zipIdx _ 0 fun i => ((timelineData r)[i]?).getD .null]
  cases e.fields.idxOf? name with
  | none => rfl
  | some i =>
    rw [Option.map_some, Option.getD_some, Option.bind_some, Nat.zero_add]

/-- An address is named where a participant's entry holds it. -/
theorem names_iff_entry (hsymbol : EventSymbol.ofSymbol? (.ofString r.2.symbol) = some e) :
    r.Names address ↔ ∃ i, r.ParticipantAt i ∧ (timelineData r)[i]? = some (.str (.ofString address)) := by
  constructor
  · rintro ⟨name, hname, hfield⟩
    rw [field_eq hsymbol] at hfield
    cases hindex : e.fields.idxOf? name with
    | none =>
      rw [hindex] at hfield
      cases hfield
    | some i =>
      rw [hindex, Option.bind_some] at hfield
      cases hentry : (timelineData r)[i]? with
      | none =>
        rw [hentry] at hfield
        cases hfield
      | some v =>
        rw [hentry, Option.getD_some] at hfield
        exact ⟨i, ⟨e, hsymbol, name, hname, hindex⟩, by rw [hentry, hfield]⟩
  · rintro ⟨i, ⟨e', he', name, hname, hindex⟩, hentry⟩
    rw [hsymbol] at he'
    cases he'
    exact ⟨name, hname, by rw [field_eq hsymbol, hindex, Option.bind_some, hentry, Option.getD_some]⟩

theorem containsText_arr {vs : List Json} :
    containsText (.arr vs) address ↔ ∃ i : Nat, vs[i]? = some (Json.str (.ofString address)) := by
  rw [containsText, List.any_eq_true]
  constructor
  · rintro ⟨v, hv, htext⟩
    obtain ⟨i, hi⟩ := List.mem_iff_getElem?.mp hv
    cases v with
    | str t =>
      rw [of_decide_eq_true htext] at hi
      exact ⟨i, hi⟩
    | null | bool _ | num _ | arr _ | obj _ => cases htext
  · rintro ⟨i, hi⟩
    exact ⟨_, List.mem_of_getElem? hi, decide_eq_true rfl⟩

/-- A row is selected for an address in any of its entries. -/
theorem selects_iff {symbol : Option QueryValue} {f : Filter FeedRow} (hf : activityFilter address symbol = .ok f)
    {vs : List Json} (hdata : r.2.data = .arr vs) :
    f.selects r ↔ r.Wanted symbol ∧ ∃ i : Nat, (timelineData r)[i]? = some (Json.str (.ofString address)) := by
  have hentries : timelineData r = vs := by rw [timelineData, hdata]
  rw [hentries, ← containsText_arr, ← hdata]
  unfold activityFilter at hf
  split at hf
  next =>
    cases hf
    simp [FeedRow.Wanted]
  next s =>
    split at hf
    next hs =>
      cases hf
      rw [Bool.and_eq_true, decide_eq_true_eq, FeedRow.Wanted]
      constructor
      · rintro ⟨rfl, hcontains⟩
        exact ⟨⟨hs, fun s hs => by cases hs; rfl⟩, hcontains⟩
      · rintro ⟨⟨-, hsymbol⟩, hcontains⟩
        exact ⟨hsymbol s rfl, hcontains⟩
    next => cases hf
  next => cases hf

end

/-- The feed selects exactly the events that name an address when these hold it in no other entry. -/
theorem activity_exact_iff {events : Table String EventRow} (hlog : FilledLog events) {address : String}
    {symbol : Option QueryValue} (hsymbol : (activityFilter address symbol).isOk) :
    (∀ r : FeedRow, r ∈ LedgerFeed.selected (activityFilter address symbol) (Table.rows events) ↔
      r ∈ Table.rows events ∧ r.Wanted symbol ∧ r.Names address) ↔
    ∀ r : FeedRow, r ∈ Table.rows events → r.Wanted symbol → r.OnlyNames address := by
  obtain ⟨f, hf⟩ : ∃ f, activityFilter address symbol = .ok f := by
    cases hf : activityFilter address symbol with
    | error e =>
      rw [hf] at hsymbol
      cases hsymbol
    | ok f => exact ⟨f, rfl⟩
  rw [hf]
  refine forall_congr' fun r => ?_
  rw [LedgerFeed.selected, List.mem_filter, and_congr_right_iff]
  refine forall_congr' fun hr => ?_
  obtain ⟨vs, hdata⟩ := hlog.tuplesOnly r.1 r.2 (Table.mem_rows.mp hr)
  rw [selects_iff hf hdata, and_congr_right_iff]
  refine forall_congr' fun hwanted => ?_
  obtain ⟨e, he⟩ := Option.isSome_iff_exists.mp (known_of_activity hwanted.1)
  rw [names_iff_entry he]
  constructor
  · exact fun h i hi => .inr (h.mp ⟨i, hi⟩)
  · intro h
    constructor
    · rintro ⟨i, hi⟩
      obtain hat | hnamed := h i hi
      · exact ⟨i, hat, hi⟩
      · exact hnamed
    · rintro ⟨j, _, hj⟩
      exact ⟨j, hj⟩

/-- The log after events whose rows are inserted one by one. -/
def insertAll : List EventResponse → Db → Db
  | [], db => db
  | raw :: raws, db =>
    match decodeEvent raw with
    | .error _ => insertAll raws db
    | .ok ev =>
      match insertRawEvent ev db with
      | .ok (_, db') => insertAll raws db'
      | .error _ => insertAll raws db

theorem filledLog_insertAll {raws : List EventResponse} {db : Db} (h : FilledLog db.events) :
    FilledLog (insertAll raws db).events := by
  induction raws generalizing db with
  | nil => exact h
  | cons raw raws ih =>
    rw [insertAll]
    split
    next => exact ih h
    next ev hd =>
      split
      next db' hi => exact ih (h.inserted hd hi)
      next => exact ih h

def anAddress : String := "GA7QYNF7SOWQ3GLR2BGMZEHXAVIRZA4KVWLTJJFC7MGXUA74P7UJVSGZ"

/-- The address registers a name, and then somebody else the address as a name. -/
def aNameLog : Table String EventRow :=
  (insertAll [.published "0001" 1 "name_reg" [.str "alice", .str anAddress],
    .published "0002" 2 "name_reg" [.str anAddress, .str "GB"]] Db.empty).events

theorem filledLog_aNameLog : FilledLog aNameLog := filledLog_insertAll .empty

theorem activity_exact_iff_aNameLog :
    (∀ r : FeedRow, r ∈ LedgerFeed.selected (activityFilter anAddress none) (Table.rows aNameLog) ↔
      r ∈ Table.rows aNameLog ∧ r.Wanted none ∧ r.Names anAddress) ↔
    ∀ r : FeedRow, r ∈ Table.rows aNameLog → r.Wanted none → r.OnlyNames anAddress :=
  activity_exact_iff filledLog_aNameLog rfl

/-- The second of the two rows. -/
def aNameRow : FeedRow :=
  ("0002", {
    ledger := 2, closed_at := 0, contract_id := "C", symbol := "name_reg", topics := .arr [.str "name_reg"]
    data := .arr [.str anAddress, .str "GB"], tx_hash := none, decode_error := none })

/-- It is selected for the address that somebody else registers as a name. -/
theorem name_selected : FilledLog aNameLog ∧
    aNameRow ∈ LedgerFeed.selected (activityFilter anAddress none) (Table.rows aNameLog) ∧
    ¬ aNameRow.Names anAddress := by
  refine ⟨filledLog_aNameLog, List.mem_filter.mpr ⟨Table.mem_rows.mpr rfl, rfl⟩, ?_⟩
  rintro ⟨name, hname, hfield⟩
  simp only [participantFields, List.mem_cons, List.not_mem_nil, or_false] at hname
  obtain rfl | rfl | rfl | rfl := hname
  · cases hfield
  · cases hfield
  · cases hfield
  · have hother : aNameRow.field "owner" = .str "GB" := rfl
    rw [hother, Json.str.injEq, JsStr.ofString, JsStr.mk.injEq] at hfield
    exact absurd hfield.1 (by decide)

end OurDao
