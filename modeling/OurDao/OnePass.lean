import OurDao.Cursor
import OurDao.ExactlyOnce

/-!
# One pass over the log

Polls of any number of contracts against RPC logs that only grow, with one fixed start
ledger. What is folded of a contract is a prefix of its log from the start ledger on, and
a poll asks from a position that leaves at most folded events behind it. Caps, aborts and
crashes decide only how far the two have come: a position stands for a number of events
passed, and every event that a request answers is either folded already or the next one.
-/

namespace OurDao

open Faults Op

variable {ρ : Type}

/-- The events of a log from the start ledger on. -/
def started (start : Nat) (events : List EventResponse) : List EventResponse :=
  events.filter (Position.startLedger start).admits

/-- The events of a contract in the derived state, in order of application. -/
def Db.foldedOf (contractId : String) (db : Db) : List DecodedEvent :=
  db.applied.filter fun ev => ev.contractId = contractId

/-- The events of each contract among `evs` are a prefix of its log. -/
def InOrder (log : String → ρ → List EventResponse) (start : Nat) (r : ρ) (evs : List DecodedEvent) : Prop :=
  ∀ c, ((evs.filter fun ev => ev.contractId = c).map Except.ok) <+: (started start (log c r)).map decodeEvent

/-- Every contract has a log, and no event stands in two of them. -/
structure RpcLogs (E : Environment ρ) (log : String → ρ → List EventResponse) : Prop where
  rpcLog : ∀ c, RpcLog E c (log c)
  contractId : ∀ c r, ∀ e ∈ log c r, e.contractId = c
  ids : ∀ c c' r, ∀ e ∈ log c r, ∀ e' ∈ log c' r, e.id = e'.id → c = c'

/-- Whatever was folded of the logs, the handlers succeed on the next event of each. -/
def HandlersSucceed (log : String → ρ → List EventResponse) (start : Nat) : Prop :=
  ∀ r evs ev t, InOrder log start r (evs ++ [ev]) → foldTables evs Tables.empty = .ok t →
    ∃ channels t', applyEvent ev t = .ok (channels, t')

/-- Where a poll that finds this token asks from. -/
def resumePosition (start : Nat) : Option String → Position
  | some token => .cursor (some token)
  | none => .startLedger start

/-- A request from the position asks for what comes after the first `k` events of the log, now and
whatever is appended later. -/
def AsksAfter (E : Environment ρ) (events : ρ → List EventResponse) (start : Nat) (position : Position) (k : Nat)
    (r : ρ) : Prop :=
  ∀ r', Relation.ReflTransGen E.Step r r' → (events r').filter position.admits = (started start (events r')).drop k

section

variable {E : Environment ρ} {events : ρ → List EventResponse} {contractId : String} {start k : Nat}
  {position : Position} {r r' : ρ}

theorem asksAfter_start : AsksAfter E events start (.startLedger start) 0 r := fun _ _ => rfl

theorem AsksAfter.later (h : AsksAfter E events start position k r) (hr : Relation.ReflTransGen E.Step r r') :
    AsksAfter E events start position k r' := fun r'' hr'' => h r'' (hr.trans hr'')

theorem RpcLog.started_ids (h : RpcLog E contractId events) (r : ρ) :
    (started start (events r)).Pairwise fun a b => a.id < b.id := (h.ids r).filter _

theorem RpcLog.started_grows (h : RpcLog E contractId events) (hr : Relation.ReflTransGen E.Step r r') :
    started start (events r) <+: started start (events r') := (h.grows hr).filter _

/-- Later ids come from no earlier ledgers. -/
theorem RpcLog.ledger_le (h : RpcLog E contractId events) {a b : EventResponse} (ha : a ∈ events r)
    (hb : b ∈ events r) (hlt : a.id < b.id) : a.ledger ≤ b.ledger := by
  have hboth := (h.ids r).and (h.ledgers r)
  generalize events r = l at ha hb hboth
  induction l with
  | nil => cases ha
  | cons x l ih =>
    obtain ⟨hx, hl⟩ := List.pairwise_cons.mp hboth
    rcases List.mem_cons.mp ha with hax | hal
    · rcases List.mem_cons.mp hb with hbx | hbl
      · exact absurd hlt (by rw [hax, hbx]; exact lt_irrefl _)
      · exact hax ▸ (hx b hbl).2
    · rcases List.mem_cons.mp hb with hbx | hbl
      · exact absurd (hbx ▸ (hx a hal).1) (lt_asymm hlt)
      · exact ih hal hbl hl

/-- Behind an event of the log a request goes on with the one after it. -/
theorem asksAfter_event (h : RpcLog E contractId events) {i : Nat} {last : EventResponse}
    (hlast : (started start (events r))[i]? = some last) :
    AsksAfter E events start (.cursor (some last.id)) (i + 1) r := by
  intro r' hr
  obtain ⟨rest, hrest⟩ : started start (events r) <+: started start (events r') := h.started_grows hr
  have hi : i < (started start (events r)).length := (List.getElem?_eq_some_iff.mp hlast).1
  have hlast' : (started start (events r'))[i]? = some last := by
    rw [← hrest, List.getElem?_append_left hi, hlast]
  have hmem := List.mem_filter.mp (List.mem_of_getElem? hlast')
  have hsame : (events r').filter (Position.cursor (some last.id)).admits =
      (started start (events r')).filter (Position.cursor (some last.id)).admits := by
    rw [started, List.filter_filter]
    refine List.filter_congr fun e he => ?_
    by_cases hlt : last.id < e.id
    · have hle := h.ledger_le hmem.1 he hlt
      have hstart : start ≤ last.ledger := of_decide_eq_true hmem.2
      simp [Position.admits, hlt, hstart.trans hle]
    · simp [Position.admits, hlt]
  rw [hsame, Keyset.filter_eq_drop_iff hlast']
  · refine ⟨by simp [Position.admits], fun b hb => ?_⟩
    exact admits_cursor.mpr (Keyset.rel_drop hlast' (h.started_ids r') b hb)
  · refine (h.started_ids r').imp fun {a b} hab ha => ?_
    exact admits_cursor.mpr ((admits_cursor.mp ha).trans hab)

/-- The request after a page goes on after it. -/
theorem Answers.asksAfter {res : EventsPage} (ha : Answers E events position res r)
    (h : RpcLog E contractId events) (hpos : AsksAfter E events start position k r)
    (hnext : res.nextToken position ≠ none) :
    AsksAfter E events start (.cursor (res.nextToken position)) (k + res.events.length) r := by
  have hpage : res.events <+: (OurDao.started start (events r)).drop k := hpos r .refl ▸ ha.gapless
  cases hlast : res.events.getLast? with
  | some last =>
    have hlen : 0 < res.events.length := by
      cases he : res.events <;> simp_all
    have htoken : res.nextToken position = some last.id := by simp [EventsPage.nextToken, hlast]
    have hget : (OurDao.started start (events r))[k + (res.events.length - 1)]? = some last := by
      rw [List.getLast?_eq_getElem?] at hlast
      rw [← List.getElem?_drop]
      obtain ⟨rest, hrest⟩ := hpage
      rw [← hrest, List.getElem?_append_left (by omega), hlast]
    have h' := asksAfter_event h hget
    rwa [show k + (res.events.length - 1) + 1 = k + res.events.length by omega, ← htoken] at h'
  | none =>
    have hempty : res.events = [] := List.getLast?_eq_none_iff.mp hlast
    rw [hempty, List.length_nil, Nat.add_zero]
    cases htoken : res.cursor with
    | some token =>
      intro r' hr
      rw [← hpos r' hr]
      refine List.filter_congr fun e he => ?_
      have hiff := (ha.cursor token hempty htoken).2 r' hr e he
      have hnext : res.nextToken position = some token := by simp [EventsPage.nextToken, hlast, htoken]
      rw [hnext, Bool.eq_iff_iff, hiff, admits_cursor]
    | none =>
      have hnext' : res.nextToken position = position.token := by simp [EventsPage.nextToken, hlast, htoken]
      rw [hnext'] at hnext ⊢
      cases position with
      | cursor t => exact hpos
      | startLedger ledger => exact absurd rfl hnext

end

/-- Every contract is folded up to some event of its log, and its next poll asks from there or earlier. -/
structure Follows (E : Environment ρ) (log : String → ρ → List EventResponse) (start : Nat) (w : World ρ) :
    Prop where
  once : ExactlyOnce w.db
  inOrder : InOrder log start w.env w.db.applied
  cursor : ∀ c, ∃ k ≤ (w.db.foldedOf c).length,
    AsksAfter E (log c) start (resumePosition start (CursorRow.token (w.db.indexer_cursor.lookup c))) k w.env

/-- A poll of contract `c` may ask from `position` next. -/
structure Standing (E : Environment ρ) (log : String → ρ → List EventResponse) (start : Nat) (c : String)
    (position : Position) (w : World ρ) : Prop where
  follows : Follows E log start w
  position : position ≠ .cursor none →
    ∃ k ≤ (w.db.foldedOf c).length, AsksAfter E (log c) start position k w.env

/-- The events `page` of contract `c` are to be folded: they follow after the first `k` of its log,
which are folded, and the next request asks from behind them. -/
structure Due (E : Environment ρ) (log : String → ρ → List EventResponse) (start : Nat) (c : String)
    (page : List EventResponse) (k : Nat) (next : Position) (w : World ρ) : Prop where
  follows : Follows E log start w
  reached : k ≤ (w.db.foldedOf c).length
  served : page <+: (started start (log c w.env)).drop k
  next : next ≠ .cursor none → AsksAfter E (log c) start next (k + page.length) w.env

/-- Two worlds between which nothing was folded, inserted or saved. -/
structure Quiet (E : Environment ρ) (w w' : World ρ) : Prop where
  tables : w'.db.tables = w.db.tables
  applied : w'.db.applied = w.db.applied
  events : w'.db.events = w.db.events
  indexer_cursor : w'.db.indexer_cursor = w.db.indexer_cursor
  env : Relation.ReflTransGen E.Step w.env w'.env

section

variable {E : Environment ρ} {log : String → ρ → List EventResponse} {start : Nat} {c : String}
  {page : List EventResponse} {k : Nat} {next : Position} {raw : EventResponse} {ev : DecodedEvent} {w w' : World ρ}

theorem drifts_of_quiet {P : World ρ → Prop} (h : ∀ w w', P w → Quiet E w w' → P w') : Drifts E P where
  env w _ hr hw := h w _ hw ⟨rfl, rfl, rfl, rfl, .single hr⟩
  sent w _ hw := h w _ hw ⟨rfl, rfl, rfl, rfl, .refl⟩

theorem recordable_of_quiet {P : World ρ → Prop} (h : ∀ w w', P w → Quiet E w w' → P w') : Recordable E P where
  drifts := drifts_of_quiet h
  quarantineState w id state escalating db hw hq := by
    cases hq
    exact h w _ hw ⟨rfl, rfl, rfl, rfl, .refl⟩
  console w n hw := h w _ hw ⟨rfl, rfl, rfl, rfl, .refl⟩
  memory w m hw := h w _ hw ⟨rfl, rfl, rfl, rfl, .refl⟩

theorem Quiet.foldedOf (h : Quiet E w w') (c : String) : w'.db.foldedOf c = w.db.foldedOf c := by
  rw [Db.foldedOf, Db.foldedOf, h.applied]

theorem InOrder.later (hlogs : RpcLogs E log) {evs : List DecodedEvent} {r r' : ρ} (h : InOrder log start r evs)
    (hr : Relation.ReflTransGen E.Step r r') : InOrder log start r' evs :=
  fun c => (h c).trans (((hlogs.rpcLog c).started_grows hr).map _)

theorem Follows.quiet (hlogs : RpcLogs E log) (h : Follows E log start w) (hq : Quiet E w w') :
    Follows E log start w' where
  once := h.once.congr hq.tables hq.applied hq.events
  inOrder := hq.applied ▸ h.inOrder.later hlogs hq.env
  cursor c := by
    obtain ⟨k, hk, hasks⟩ := h.cursor c
    rw [hq.foldedOf, hq.indexer_cursor]
    exact ⟨k, hk, hasks.later hq.env⟩

theorem Standing.quiet (hlogs : RpcLogs E log) (h : Standing E log start c next w) (hq : Quiet E w w') :
    Standing E log start c next w' where
  follows := h.follows.quiet hlogs hq
  position hnext := by
    obtain ⟨k, hk, hasks⟩ := h.position hnext
    rw [hq.foldedOf]
    exact ⟨k, hk, hasks.later hq.env⟩

theorem Due.quiet (hlogs : RpcLogs E log) (h : Due E log start c page k next w) (hq : Quiet E w w') :
    Due E log start c page k next w' where
  follows := h.follows.quiet hlogs hq
  reached := by rw [hq.foldedOf]; exact h.reached
  served := h.served.trans (((hlogs.rpcLog c).started_grows hq.env).drop k)
  next hnext := (h.next hnext).later hq.env

/-- Nothing left to fold. -/
theorem Due.standing (h : Due E log start c [] k next w) : Standing E log start c next w :=
  ⟨h.follows, fun hnext => ⟨k, h.reached, h.next hnext⟩⟩

/-- What is folded at a place of a contract's sequence stands there in its log. -/
theorem InOrder.logged {r : ρ} {evs : List DecodedEvent} (h : InOrder log start r evs) {i : Nat}
    (hev : (evs.filter fun ev => ev.contractId = c)[i]? = some ev) :
    ∃ raw, (started start (log c r))[i]? = some raw ∧ decodeEvent raw = .ok ev := by
  obtain ⟨rest, hrest⟩ := h c
  have hget : ((started start (log c r)).map decodeEvent)[i]? = some (.ok ev) := by
    have hi := (List.getElem?_eq_some_iff.mp hev).1
    rw [← hrest, List.getElem?_append_left (by simpa using hi), List.getElem?_map, hev]
    rfl
  rw [List.getElem?_map] at hget
  exact Option.map_eq_some_iff.mp hget

theorem Due.head (h : Due E log start c (raw :: page) k next w) : (started start (log c w.env))[k]? = some raw := by
  obtain ⟨rest, hrest⟩ := h.served
  have hget : ((started start (log c w.env)).drop k)[0]? = (started start (log c w.env))[k + 0]? := List.getElem?_drop
  rw [← hrest] at hget
  simpa using hget.symm

/-- The next event of the page is marked exactly if its contract is folded past it. -/
theorem Due.folded_iff (hlogs : RpcLogs E log) (h : Due E log start c (raw :: page) k next w)
    (hd : decodeEvent raw = .ok ev) {row : EventRow} (hrow : w.db.events.lookup ev.id = some row) :
    row.folded = true ↔ k < (w.db.foldedOf c).length := by
  have hhead := h.head
  have hid := (decodeEvent_eq_ok hd).1
  rw [h.follows.once.folded ev.id row hrow]
  constructor
  · intro hmem
    obtain ⟨ev', hev', hsame⟩ := List.mem_map.mp hmem
    have hof : ev' ∈ w.db.foldedOf ev'.contractId := List.mem_filter.mpr ⟨hev', by simp⟩
    obtain ⟨i, hi⟩ := List.mem_iff_getElem?.mp hof
    obtain ⟨raw', hraw', hd'⟩ := h.follows.inOrder.logged hi
    have hids : raw.id = raw'.id := by rw [← hid, ← hsame, (decodeEvent_eq_ok hd').1]
    have hc : c = ev'.contractId := hlogs.ids _ _ w.env raw (List.mem_filter.mp (List.mem_of_getElem? hhead)).1
      raw' (List.mem_filter.mp (List.mem_of_getElem? hraw')).1 hids
    rw [← hc] at hraw' hi
    have hki : k = i := by
      obtain ⟨hk, hrawk⟩ := List.getElem?_eq_some_iff.mp hhead
      obtain ⟨hi', hrawi⟩ := List.getElem?_eq_some_iff.mp hraw'
      have hsorted : (started start (log c w.env)).Pairwise fun a b => a.id < b.id :=
        (hlogs.rpcLog c).started_ids w.env
      have hlt := List.pairwise_iff_getElem.mp hsorted
      by_contra hne
      rcases Nat.lt_or_gt_of_ne hne with h' | h'
      · exact absurd (hlt k i hk hi' h') (by rw [hrawk, hrawi, hids]; exact lt_irrefl _)
      · exact absurd (hlt i k hi' hk h') (by rw [hrawk, hrawi, hids]; exact lt_irrefl _)
    exact hki ▸ (List.getElem?_eq_some_iff.mp hi).1
  · intro hk
    obtain ⟨raw', hraw', hd'⟩ := h.follows.inOrder.logged (List.getElem?_eq_getElem hk)
    rw [hhead] at hraw'
    cases hraw'
    rw [hd] at hd'
    have hmem : ev ∈ w.db.applied := by
      rw [Except.ok.inj hd']
      exact (List.mem_filter.mp (List.getElem_mem hk)).1
    exact List.mem_map_of_mem hmem

/-- The next event is folded: on to the one after it. -/
theorem Due.skip (h : Due E log start c (raw :: page) k next w) (hk : k < (w.db.foldedOf c).length) :
    Due E log start c page (k + 1) next w where
  follows := h.follows
  reached := hk
  served := by
    obtain ⟨rest, hrest⟩ := h.served
    exact ⟨rest, by rw [← List.tail_drop, ← hrest, List.cons_append, List.tail_cons]⟩
  next hnext := by
    have hlen := h.next hnext
    rwa [List.length_cons, show k + (page.length + 1) = k + 1 + page.length by omega] at hlen

theorem Due.insertRawEvent (h : Due E log start c page k next w) {needsFold : Bool} {db : Db}
    (hi : insertRawEvent ev w.db = .ok (needsFold, db)) : Due E log start c page k next { w with db } := by
  have honce := (h.follows.once.insertRawEvent hi).1
  obtain ⟨-, ⟨row, -, -, rfl⟩ | ⟨-, -, rfl⟩⟩ := insertRawEvent_eq_ok.mp hi
  · exact h
  · exact ⟨⟨honce, h.follows.inOrder, h.follows.cursor⟩, h.reached, h.served, h.next⟩

/-- The next event extends what is folded in order. -/
theorem Due.inOrder_concat (hlogs : RpcLogs E log) (h : Due E log start c (raw :: page) k next w)
    (hd : decodeEvent raw = .ok ev) (hk : (w.db.foldedOf c).length = k) :
    InOrder log start w.env (w.db.applied ++ [ev]) := by
  intro c'
  have hhead := h.head
  have hcontract : ev.contractId = c := by
    rw [(decodeEvent_eq_ok hd).2.2.1]
    exact hlogs.contractId c w.env raw (List.mem_filter.mp (List.mem_of_getElem? hhead)).1
  have hbefore := h.follows.inOrder c'
  rw [List.filter_append, List.map_append]
  by_cases hc : c' = c
  · obtain ⟨rest, hrest⟩ := hbefore
    have hlen : ((w.db.applied.filter fun ev => ev.contractId = c').map (Except.ok (ε := String))).length = k := by
      rw [List.length_map, hc]
      exact hk
    have hnext : rest[0]? = some (.ok ev) := by
      have hget : ((started start (log c' w.env)).map decodeEvent)[k]? = some (.ok ev) := by
        rw [List.getElem?_map, hc, hhead, Option.map_some, hd]
      rwa [← hrest, List.getElem?_append_right hlen.le, hlen, Nat.sub_self] at hget
    cases rest with
    | nil => simp at hnext
    | cons x rest =>
      obtain rfl : x = .ok ev := by simpa using hnext
      refine ⟨rest, ?_⟩
      rw [← hrest]
      simp [hcontract, hc]
  · have hne : ¬ ev.contractId = c' := fun he => hc (he ▸ hcontract)
    simpa [hne] using hbefore

/-- The next event is not folded: its handlers succeed, and it is folded where its log has it. -/
theorem Due.foldLogged (hlogs : RpcLogs E log) (hhandlers : HandlersSucceed log start)
    (h : Due E log start c (raw :: page) k next w) (hd : decodeEvent raw = .ok ev) {row : EventRow}
    (hrow : w.db.events.lookup ev.id = some row) (hunfolded : row.folded = false) :
    ∃ channels db, foldLogged ev w.db = .ok (channels, db) ∧ Due E log start c page (k + 1) next { w with db } := by
  have hk : (w.db.foldedOf c).length = k := by
    have hiff := h.folded_iff hlogs hd hrow
    have hreached := h.reached
    rw [hunfolded] at hiff
    simp at hiff
    omega
  have hinOrder := h.inOrder_concat hlogs hd hk
  obtain ⟨channels, tables, happly⟩ := hhandlers w.env w.db.applied ev w.db.tables hinOrder h.follows.once.included
  have hfold := foldLogged_eq_ok.mpr ⟨tables, happly, rfl⟩
  have hcontract : ev.contractId = c := by
    rw [(decodeEvent_eq_ok hd).2.2.1]
    exact hlogs.contractId c w.env raw (List.mem_filter.mp (List.mem_of_getElem? h.head)).1
  have hmore : ∀ c', (w.db.foldedOf c').length ≤
      ((w.db.applied ++ [ev]).filter fun ev => ev.contractId = c').length :=
    fun c' => ((List.sublist_append_left _ _).filter _).length_le
  have hfolded : k < ((w.db.applied ++ [ev]).filter fun ev => ev.contractId = c).length := by
    rw [List.filter_append, List.length_append]
    simp only [Db.foldedOf] at hk
    simp [hk, hcontract]
  have hfollows : Follows E log start { w with db := { w.db with
      tables, applied := w.db.applied ++ [ev], events := setFolded ev.id w.db.events } } := by
    refine ⟨h.follows.once.foldLogged hrow hunfolded hfold, hinOrder, fun c' => ?_⟩
    obtain ⟨k', hk', hasks⟩ := h.follows.cursor c'
    exact ⟨k', hk'.trans (hmore c'), hasks⟩
  have hdue : Due E log start c (raw :: page) k next { w with db := { w.db with
      tables, applied := w.db.applied ++ [ev], events := setFolded ev.id w.db.events } } :=
    ⟨hfollows, h.reached.trans (hmore c), h.served, h.next⟩
  exact ⟨channels, _, hfold, hdue.skip hfolded⟩

end

/-- A statement takes effect, or the process dies. -/
def Environment.Commits (E : Environment ρ) : Prop := ∀ r e, (E.statement r).1 ≠ .raised e

section

variable {E : Environment ρ} {log : String → ρ → List EventResponse} {start : Nat} {c : String}
  {page : List EventResponse} {k : Nat} {next : Position} {raw : EventResponse} {ev : DecodedEvent}
  (hlogs : RpcLogs E log) (hcommits : E.Commits) (hhandlers : HandlersSucceed log start)

theorem Environment.Commits.transaction {α : Type} {P : World ρ → Prop} {body : Tx α}
    {Q : Outcome Failure α → World ρ → Prop} (hcommits : E.Commits) (hP : Drifts E P)
    (hdone : ∀ w a db, P w → body w.db = .ok (a, db) → Q (.done a) { w with db := db })
    (hraised : ∀ w e, P w → body w.db = .error e → Q (.raised e) w) (hcrashed : ∀ w, P w → Q .crashed w) :
    Ensures P (transaction E body) Q := by
  have hstatement : Ensures P (ask E.statement) fun o w => P w ∧ ∀ e, o ≠ .raised e :=
    fun w hw => ⟨keeps_statement hP w hw, hcommits w.env⟩
  refine Ensures.bind hstatement (fun _ => ?_) (fun e _ h => absurd rfl (h.2 e)) fun w h => hcrashed w h.1
  exact ensures_commit (fun w a db h => hdone w a db h.1) fun w e h => hraised w e h.1

include hlogs

theorem drifts_due (page : List EventResponse) (k : Nat) : Drifts E (Due E log start c page k next) :=
  drifts_of_quiet fun _ _ h => h.quiet hlogs

theorem recordable_due (page : List EventResponse) (k : Nat) : Recordable E (Due E log start c page k next) :=
  recordable_of_quiet fun _ _ h => h.quiet hlogs

theorem drifts_follows : Drifts E (Follows E log start) := drifts_of_quiet fun _ _ h => h.quiet hlogs

theorem drifts_standing (position : Position) : Drifts E (Standing E log start c position) :=
  drifts_of_quiet fun _ _ h => h.quiet hlogs

include hhandlers

/-- A page that is folded in one transaction. -/
theorem Due.ingestEvents {w : World ρ} {lastLedger : Nat} {pending : List (StreamChannel × String)} {db : Db}
    (h : Due E log start c page k next w) (hi : ingestEvents lastLedger page w.db = .ok (pending, db)) :
    Due E log start c [] (k + page.length) next { w with db } := by
  induction page generalizing w k pending with
  | nil =>
    cases hi
    exact h
  | cons raw page ih =>
    obtain ⟨p, db₁, ps, h₁, h₂, -⟩ := ingestEvents_cons_ok.mp hi
    have hone : Due E log start c page (k + 1) next { w with db := db₁ } := by
      obtain ⟨ev, hd, -, ⟨d, channels, hinsert, hfold, -⟩ | ⟨hinsert, -⟩⟩ := ingestEvent_eq_ok.mp h₁
      · have hinserted := h.insertRawEvent hinsert
        obtain ⟨-, row, hrow, hfolded⟩ := h.follows.once.insertRawEvent hinsert
        obtain ⟨channels', db', hfold', hdue⟩ :=
          hinserted.foldLogged hlogs hhandlers hd hrow (by simpa using hfolded)
        rw [hfold] at hfold'
        cases hfold'
        exact hdue
      · obtain ⟨-, row, hrow, hfolded⟩ := h.follows.once.insertRawEvent hinsert
        have hinserted := h.insertRawEvent hinsert
        exact hinserted.skip ((hinserted.folded_iff hlogs hd hrow).mp (by simpa using hfolded))
    have hrest := ih hone h₂
    rwa [show k + 1 + page.length = k + (raw :: page).length by rw [List.length_cons]; omega] at hrest

theorem ingestPage_due (lastLedger : Nat) :
    Ensures (Due E log start c page k next) (ingestPage E page lastLedger) fun o w =>
      Due E log start c page k next w ∧ OnDone (fun _ => Due E log start c [] (k + page.length) next) o w := by
  have hdrift : Drifts E (Due E log start c page k next) := drifts_due hlogs page k
  have hdrift' : Drifts E (Due E log start c [] (k + page.length) next) := drifts_due hlogs [] _
  rw [ingestPage]
  split
  next hempty =>
    obtain rfl := List.isEmpty_iff.mp hempty
    exact ensures_pure fun w h => ⟨h, h⟩
  next =>
    refine Ensures.bind (R := fun o w => Due E log start c page k next w ∧
      OnDone (fun _ => Due E log start c [] (k + page.length) next) o w) ?_ (fun pending => ?_)
      (fun _ _ h => ⟨h.1, trivial⟩) fun _ h => ⟨h.1, trivial⟩
    · refine ensures_withLock hdrift ?_ (fun o => hdrift.and (drifts_onDone (fun _ => hdrift') o))
        (fun _ _ h => ⟨h, trivial⟩) (fun _ h => ⟨h, trivial⟩) fun _ _ h => ⟨h.1, trivial⟩
      refine ensures_transaction hdrift ?_ (fun _ _ h => ⟨h, trivial⟩) fun _ h => ⟨h, trivial⟩
      intro w pending db h hi
      have hall := h.ingestEvents hlogs hhandlers hi
      exact ⟨⟨hall.follows, (Nat.le_add_right k _).trans hall.reached, h.served, h.next⟩, hall⟩
    · have hkeep := keeps_announce (hdrift.and hdrift') pending
      exact hkeep.post fun o w h => ⟨h.1, onDone_const o h.2⟩

include hcommits

/-- An event on its own: its handlers succeed, so that it is never put into quarantine. -/
theorem foldOrQuarantine_due (hd : decodeEvent raw = .ok ev) :
    Ensures (Due E log start c (raw :: page) k next) (foldOrQuarantine E ev) fun o w =>
      Follows E log start w ∧ OnDone (fun _ => Due E log start c page (k + 1) next) o w := by
  have hdrift : Drifts E (Due E log start c (raw :: page) k next) := drifts_due hlogs (raw :: page) k
  have hinsert : Ensures (Due E log start c (raw :: page) k next) (transaction E (insertRawEvent ev)) fun o w =>
      Due E log start c (raw :: page) k next w ∧ OnDone (fun needsFold w => ∃ row,
        w.db.events.lookup ev.id = some row ∧ row.folded = !needsFold) o w := by
    refine ensures_transaction hdrift (fun w needsFold db h hi => ?_) (fun _ _ h => ⟨h, trivial⟩)
      fun _ h => ⟨h, trivial⟩
    exact ⟨h.insertRawEvent hi, (h.follows.once.insertRawEvent hi).2⟩
  refine Ensures.bind_keeping hinsert (fun _ _ h => h.1.follows) fun needsFold => ?_
  cases needsFold with
  | false =>
    refine ensures_pure fun w ⟨h, row, hrow, hfolded⟩ => ⟨h.follows, h.skip ?_⟩
    exact (h.folded_iff hlogs hd hrow).mp hfolded
  | true =>
    have hunfolded : Drifts E fun w => Due E log start c (raw :: page) k next w ∧
        ∃ row, w.db.events.lookup ev.id = some row ∧ row.folded = false :=
      hdrift.and ⟨fun _ _ _ h => h, fun _ _ h => h⟩
    refine Ensures.tryCatch (R := fun o w => Follows E log start w ∧ (∀ e, o ≠ .raised e) ∧
      OnDone (fun _ => Due E log start c page (k + 1) next) o w) ?_ (fun _ _ h => ⟨h.1, h.2.2⟩)
      (fun e w h => absurd rfl (h.2.1 e)) fun _ h => ⟨h.1, trivial⟩
    refine hcommits.transaction hunfolded ?_ ?_ fun _ h => ⟨h.1.follows, by simp, trivial⟩
    · rintro w channels db ⟨h, row, hrow, hfalse⟩ hfold
      obtain ⟨channels', db', hfold', hdue⟩ := h.foldLogged hlogs hhandlers hd hrow hfalse
      rw [hfold] at hfold'
      cases hfold'
      exact ⟨hdue.follows, by simp, hdue⟩
    · rintro w e ⟨h, row, hrow, hfalse⟩ herror
      obtain ⟨channels', db', hfold', -⟩ := h.foldLogged hlogs hhandlers hd hrow hfalse
      rw [herror] at hfold'
      cases hfold'

theorem ingestAlone_due (lastLedger : Nat) :
    Ensures (Due E log start c (raw :: page) k next) (ingestAlone E raw lastLedger) fun o w =>
      Follows E log start w ∧ OnDone (fun _ => Due E log start c page (k + 1) next) o w := by
  have hdrift : Drifts E (Due E log start c page (k + 1) next) := drifts_due hlogs page (k + 1)
  have hfollows : Drifts E (Follows E log start) := drifts_follows hlogs
  rw [ingestAlone]
  split
  next ev hd =>
    rw [ingestEventQuarantined]
    split
    · exact ensures_throw fun w h => ⟨h.follows, trivial⟩
    · refine Ensures.bind (R := fun o w => Follows E log start w ∧
        OnDone (fun _ => Due E log start c page (k + 1) next) o w) ?_ (fun channels => ?_)
        (fun _ _ h => ⟨h.1, trivial⟩) fun _ h => ⟨h.1, trivial⟩
      · exact ensures_withLock (drifts_due hlogs (raw :: page) k)
          (foldOrQuarantine_due hlogs hcommits hhandlers hd)
          (fun o => hfollows.and (drifts_onDone (fun _ => hdrift) o))
          (fun _ _ h => ⟨h.follows, trivial⟩) (fun _ h => ⟨h.follows, trivial⟩) fun _ _ h => ⟨h.1, trivial⟩
      · have hkeep := keeps_announce (hfollows.and hdrift) (channels.map (·, ev.symbol.text))
        exact hkeep.post fun o w h => ⟨h.1, onDone_const o h.2⟩
  · exact ensures_throw fun w h => ⟨h.follows, trivial⟩

theorem ingestEach_due (lastLedger : Nat) :
    Ensures (Due E log start c page k next) (ingestEach E page lastLedger) fun o w =>
      Follows E log start w ∧ OnDone (fun _ => Standing E log start c next) o w := by
  induction page generalizing k with
  | nil => exact ensures_pure fun w h => ⟨h.follows, h.standing⟩
  | cons raw page ih =>
    rw [ingestEach, List.forM_cons]
    refine Ensures.bind_keeping (ingestAlone_due hlogs hcommits hhandlers lastLedger) (fun _ _ h => h.1) fun _ => ?_
    exact ih.mono (fun _ h => h.2) fun _ _ h => h

/-- **However a page is ingested, it is folded in log order, and what is folded never goes back.** -/
theorem ingestPageWithQuarantine_due (config : Config) (lastLedger : Nat) (contractId : String) :
    Ensures (Due E log start c page k next) (ingestPageWithQuarantine E config page lastLedger contractId) fun o w =>
      Follows E log start w ∧ OnDone (fun _ => Standing E log start c next) o w := by
  have hdue : Recordable E (Due E log start c page k next) := recordable_due hlogs page k
  have hrest : Recordable E (Due E log start c [] (k + page.length) next) := recordable_due hlogs [] _
  have hstanding : Recordable E (Standing E log start c next) := recordable_of_quiet fun _ _ h => h.quiet hlogs
  refine Ensures.bind_keeping (hdue.quarantineStateOf contractId) (fun _ _ h => h.follows) fun state => ?_
  refine Ensures.tryCatch (R := fun o w => Due E log start c page k next w ∧
    OnDone (fun _ => Due E log start c [] (k + page.length) next) o w) ?_
    (fun _ _ h => ⟨h.1.follows, h.2.standing⟩) (fun err => ?_) fun _ h => ⟨h.1.follows, trivial⟩
  · refine Ensures.bind (ingestPage_due hlogs hhandlers lastLedger) (fun _ => ?_) (fun _ _ h => h) fun _ h => h
    exact ((hdue.and hrest).clearQuarantineState contractId).post fun o w h => ⟨h.1, onDone_const o h.2⟩
  · cases err with
    | reorgDetected m => exact ensures_throw fun w h => ⟨h.1.follows, trivial⟩
    | error m =>
      refine Ensures.mono (P := Due E log start c page k next) ?_ (fun _ h => h.1) fun _ _ h => h
      refine Ensures.bind_keeping (hdue.setQuarantineState contractId _) (fun _ _ h => h.follows) fun _ => ?_
      refine Ensures.bind_keeping (hdue.persistQuarantineState contractId _ false) (fun _ _ h => h.follows)
        fun _ => ?_
      split
      · exact ensures_throw fun w h => ⟨h.follows, trivial⟩
      · refine Ensures.bind_keeping (hdue.say _) (fun _ _ h => h.follows) fun _ => ?_
        refine Ensures.bind_keeping (hdue.persistQuarantineState contractId _ true) (fun _ _ h => h.follows)
          fun _ => ?_
        refine Ensures.bind_keeping (ingestEach_due hlogs hcommits hhandlers lastLedger) (fun _ _ h => h.1)
          fun _ => ?_
        refine Ensures.mono (P := Standing E log start c next) ?_ (fun _ h => h.2) fun _ _ h => h
        exact (hstanding.clearQuarantineState contractId).post fun o w h => ⟨h.follows, onDone_const o h⟩

end

section

variable {E : Environment ρ} {log : String → ρ → List EventResponse} {start : Nat} {c : String} {w w' : World ρ}

/-- The cursor is saved where the next request asks from. -/
theorem Standing.save {token : Option String} (h : Standing E log start c (.cursor token) w) {row : CursorRow}
    (hrow : row.paging_token = token) : Standing E log start c (.cursor token) { w with db := { w.db with
      indexer_cursor := w.db.indexer_cursor.insert c row } } where
  position := h.position
  follows := {
    once := h.follows.once.congr rfl rfl rfl
    inOrder := h.follows.inOrder
    cursor := fun c' => by
      rcases eq_or_ne c' c with rfl | hne
      · simp only [AList.lookup_insert]
        cases htoken : CursorRow.token (some row) with
        | none => exact ⟨0, Nat.zero_le _, asksAfter_start⟩
        | some t =>
          obtain rfl : token = some t := by
            rw [← hrow]
            exact (Option.filter_eq_some_iff.mp htoken).1
          exact h.position (by simp)
      · simp only [AList.lookup_insert_ne hne]
        exact h.follows.cursor c' }

variable (hlogs : RpcLogs E log) (hcommits : E.Commits) (hhandlers : HandlersSucceed log start)
include hlogs

theorem advanceCursor_standing (cursor : Option CursorRow) (res : EventsPage) (s : Drain) :
    Keeps (Standing E log start c (.cursor (res.nextToken s.position))) (advanceCursor E c cursor res s) := by
  have hdrift : Drifts E (Standing E log start c (.cursor (res.nextToken s.position))) := drifts_standing hlogs _
  rw [advanceCursor]
  split
  · refine Keeps.bind (keeps_foldedLedgerHash hdrift s _) fun hash => Keeps.bind ?_ fun _ => Keeps.pure _
    refine Keeps.tryCatch ?_ fun _ => Keeps.throw _
    refine ensures_transaction hdrift ?_ (fun _ _ h => h) fun _ h => h
    intro w _ db h hu
    cases hu
    exact h.save rfl
  · exact Keeps.pure _

include hcommits hhandlers

theorem drainPage_standing (config : Config) (cursor : Option CursorRow) (s : Drain) :
    Ensures (Standing E log start c s.position) (drainPage E config c cursor s) fun o w =>
      Follows E log start w ∧ OnDone (fun p => Standing E log start c (.cursor (p.1.nextToken s.position))) o w := by
  have hask : Ensures (Standing E log start c s.position)
      (ask (E.getEvents { contractId := c, limit := config.pageLimit, position := s.position })) fun o w =>
        Follows E log start w ∧
          OnDone (fun res w => ∃ k, Due E log start c res.events k (.cursor (res.nextToken s.position)) w) o w := by
    intro w hw
    have hstanding := (drifts_standing hlogs s.position).env w _ (.getEvents w.env
      { contractId := c, limit := config.pageLimit, position := s.position }) hw
    refine ⟨hstanding.follows, ?_⟩
    rcases hres : E.getEvents { contractId := c, limit := config.pageLimit, position := s.position } w.env with
      ⟨res | e | _, r⟩
    · have hanswers : Answers E (log c) s.position res _ := (hlogs.rpcLog c).answers rfl (congrArg Prod.fst hres)
      rw [hres] at hstanding hanswers
      obtain ⟨k, hk, hasks⟩ := hstanding.position hanswers.started
      have hdue : Due E log start c res.events k (.cursor (res.nextToken s.position)) { w with env := r } :=
        ⟨hstanding.follows, hk, hasks r .refl ▸ hanswers.gapless,
          fun hnext => hanswers.asksAfter (hlogs.rpcLog c) hasks fun hnone => hnext (by rw [hnone])⟩
      simpa [ask, hres, OnDone] using ⟨k, hdue⟩
    · simp [ask, hres, OnDone]
    · simp [ask, hres, OnDone]
  refine Ensures.bind_keeping hask (fun _ _ h => h.1) fun res => ?_
  rintro w ⟨-, k, hdue⟩
  have hdeliver : Keeps (Due E log start c res.events k (.cursor (res.nextToken s.position))) (deliver res.events) :=
    fun w h => h.quiet hlogs ⟨rfl, rfl, rfl, rfl, .refl⟩
  refine Ensures.bind (Q := fun o w => Follows E log start w ∧ OnDone (fun p : EventsPage × Drain =>
    Standing E log start c (.cursor (p.1.nextToken s.position))) o w) hdeliver (fun _ => ?_)
    (fun _ _ h => ⟨h.follows, trivial⟩) (fun _ h => ⟨h.follows, trivial⟩) w hdue
  refine Ensures.bind_keeping (ingestPageWithQuarantine_due hlogs hcommits hhandlers config s.lastLedger c)
    (fun _ _ h => h.1) fun _ => ?_
  refine Ensures.mono (P := Standing E log start c (.cursor (res.nextToken s.position))) ?_ (fun _ h => h.2)
    fun _ _ h => h
  refine Ensures.bind_keeping (advanceCursor_standing hlogs cursor res s) (fun _ _ h => h.follows) fun _ => ?_
  exact ensures_pure fun w h => ⟨h.follows, h⟩

theorem drain_follows (config : Config) (cursor : Option CursorRow) (drainStart fuel : Nat) (s : Drain) :
    Ensures (Standing E log start c s.position) (drain E config c cursor drainStart fuel s)
      fun _ => Follows E log start := by
  induction fuel generalizing s with
  | zero => exact ensures_pure fun w h => h.follows
  | succ fuel ih =>
    refine Ensures.bind (keeps_look .aborted (drifts_standing hlogs s.position)) (fun aborted => ?_)
      (fun _ _ h => h.follows) fun _ h => h.follows
    cases aborted with
    | true => exact ensures_pure fun w h => h.follows
    | false =>
      refine Ensures.bind (drainPage_standing hlogs hcommits hhandlers config cursor s) (fun p => ?_)
        (fun _ _ h => h.1) fun _ h => h.1
      obtain ⟨res, next⟩ := p
      have hnow : Keeps (Standing E log start c (.cursor (res.nextToken s.position))) (look E.now) :=
        keeps_look .now (drifts_standing hlogs _)
      refine Ensures.bind (hnow.mono (fun _ h => h.2) fun _ _ h => h) (fun now => ?_) (fun _ _ h => h.follows)
        fun _ h => h.follows
      dsimp only
      split
      · exact ensures_pure fun w h => h.follows
      · exact ih { next with position := .cursor (res.nextToken s.position) }

omit hlogs hcommits hhandlers in
theorem startPosition_eq {config : Config} (hstart : 0 < start) (hconfig : config.startLedger = start)
    (cursor : Option CursorRow) :
    startPosition E config cursor = pure (resumePosition start (CursorRow.token cursor)) := by
  rw [startPosition]
  cases CursorRow.token cursor with
  | some token => rfl
  | none =>
    have hpos : config.startLedger > 0 := by omega
    have hledger : (max 1 config.startLedger).toNat = start := by omega
    simp only [resolveStartLedger, hpos, if_true, hledger]
    rfl

theorem fetchOnce_follows (hstart : 0 < start) {config : Config} (hconfig : config.startLedger = start)
    (contractId : String) : Keeps (Follows E log start) (fetchOnce E config contractId) := by
  have hfollows : Drifts E (Follows E log start) := drifts_follows hlogs
  have hcheck := ensures_checkChain hfollows contractId
  refine Ensures.bind hcheck (fun p => ?_) (fun _ _ h => h.1) fun _ h => h.1
  obtain ⟨cursor, tip⟩ := p
  dsimp only
  rw [startPosition_eq hstart hconfig]
  refine Ensures.bind (R := fun o w => Follows E log start w ∧
    OnDone (fun position => Standing E log start contractId position) o w)
    (ensures_pure fun w h => ?_) (fun position => ?_) (fun _ _ h => h.1) fun _ h => h.1
  · refine ⟨h.1, h.1, fun _ => ?_⟩
    rw [h.2 cursor tip rfl]
    exact h.1.cursor contractId
  · refine Ensures.mono (P := Standing E log start contractId position) ?_ (fun _ h => h.2) fun _ _ h => h
    refine Ensures.bind (keeps_look .now (drifts_standing hlogs position)) (fun now => ?_)
      (fun _ _ h => h.follows) fun _ h => h.follows
    generalize hs : ({ position, lastLedger := _, lastLedgerHash := _, observedTipLedger := _ } : Drain) = s
    have hdrain := drain_follows hlogs hcommits hhandlers config cursor now config.drainFuel s (c := contractId)
    refine Ensures.bind (R := fun _ => Follows E log start) (hdrain.mono (fun w h => hs ▸ h) fun _ _ h => h)
      (fun s => ?_) (fun _ _ h => h) fun _ h => h
    split
    · refine ensures_transaction hfollows ?_ (fun _ _ h => h) fun _ h => h
      intro w _ db h hu
      cases hu
      exact h
    · exact Keeps.pure _

end

/-- Polls of any contracts and restarts, in any order; each poll may have settings of its own and ends,
fails or dies wherever the surroundings have it. -/
inductive Polls (E : Environment ρ) (Meets : Config → Prop) : World ρ → World ρ → Prop
  | refl (w : World ρ) : Polls E Meets w w
  | poll {w w' : World ρ} (config : Config) (contractId : String) : Polls E Meets w w' → Meets config →
    Polls E Meets w (recover (fetchOnce E config contractId w'))
  | restart {w w' : World ρ} : Polls E Meets w w' → Polls E Meets w (restart w')

theorem Polls.follows {E : Environment ρ} {log : String → ρ → List EventResponse} {start : Nat} {w w' : World ρ}
    (hlogs : RpcLogs E log) (hcommits : E.Commits) (hhandlers : HandlersSucceed log start) (hstart : 0 < start)
    (h : Polls E (fun config => config.startLedger = start) w w') (hw : Follows E log start w) :
    Follows E log start w' := by
  induction h with
  | refl => exact hw
  | poll config contractId _ hconfig ih =>
    refine recover_keeps (fun w h => h.quiet hlogs ⟨rfl, rfl, rfl, rfl, .refl⟩) ?_
    exact fetchOnce_follows hlogs hcommits hhandlers hstart hconfig contractId _ ih
  | restart _ ih => exact ih.quiet hlogs ⟨rfl, rfl, rfl, rfl, .refl⟩

theorem follows_empty (E : Environment ρ) (log : String → ρ → List EventResponse) (start : Nat) {w : World ρ}
    (hw : w.db = Db.empty) : Follows E log start w where
  once := hw ▸ exactlyOnce_empty
  inOrder c := by simp [hw, Db.empty]
  cursor c := by
    rw [hw]
    exact ⟨0, Nat.zero_le _, asksAfter_start⟩

/-- **The drain refines one pass over the log.** After any polls, aborts, crashes and restarts the
derived state is the fold of a prefix of every contract's log, every event folded once, and the next
poll asks for every event that is not folded. -/
theorem drain_refines_one_pass {E : Environment ρ} {log : String → ρ → List EventResponse} {start : Nat}
    {w w' : World ρ} (hlogs : RpcLogs E log) (hcommits : E.Commits) (hhandlers : HandlersSucceed log start)
    (hstart : 0 < start) (hrun : Polls E (fun config => config.startLedger = start) w w') (hw : w.db = Db.empty) :
    ExactlyOnce w'.db ∧ InOrder log start w'.env w'.db.applied ∧
      ∀ (config : Config) contractId position w'', config.startLedger = start →
        startPosition E config (w'.db.indexer_cursor.lookup contractId) w' = (.done position, w'') →
        ∀ e ∈ (started start (log contractId w'.env)).drop (w'.db.foldedOf contractId).length,
          position.admits e = true := by
  have h := hrun.follows hlogs hcommits hhandlers hstart (follows_empty E log start hw)
  refine ⟨h.once, h.inOrder, fun config contractId position w'' hconfig hposition e he => ?_⟩
  rw [startPosition_eq hstart hconfig] at hposition
  cases hposition
  obtain ⟨k, hk, hasks⟩ := h.cursor contractId
  have hmem : e ∈ (started start (log contractId w'.env)).drop k := (List.drop_subset_drop_left _ hk) he
  rw [← hasks w'.env .refl] at hmem
  exact (List.mem_filter.mp hmem).2

/-- The handlers succeed along a fold that succeeds. -/
theorem applyEvent_of_fold {evs rest : List DecodedEvent} {ev : DecodedEvent} {t₀ t t' : Tables}
    (ht : foldTables evs t₀ = .ok t) (h : foldTables (evs ++ ev :: rest) t₀ = .ok t') :
    ∃ channels t₁, applyEvent ev t = .ok (channels, t₁) := by
  obtain ⟨t₂, h₂, h₃⟩ := foldTables_append_ok.mp h
  rw [ht] at h₂
  cases h₂
  obtain ⟨channels, t₁, happly, -⟩ := foldTables_cons_ok.mp h₃
  exact ⟨channels, t₁, happly⟩

/-- Surroundings whose RPC serves one contract: the waits are counted as they were. -/
def Environment.only (c : String) (E : Environment Nat) : Environment Nat :=
  { E with getEvents := fun request n =>
      if request.contractId = c then E.getEvents request n else (.raised (.error "unknown contract"), n + 1) }

theorem step_only {c : String} {log : Nat → List EventResponse} {tip : Nat → Nat} {fate : Nat → Outcome Failure Unit}
    {n n' : Nat} (h : (Environment.only c (.serving log tip fate)).Step n n') :
    (Environment.serving log tip fate).Step n n' := by
  cases h with
  | statement => exact .statement n
  | pg_try_advisory_lock => exact .pg_try_advisory_lock n
  | getLatestLedger => exact .getLatestLedger n
  | getLedgers ledger => exact .getLedgers n ledger
  | getEvents request =>
    by_cases hid : request.contractId = c
    · simpa only [Environment.only, hid, if_true] using
        Environment.Step.getEvents (E := .serving log tip fate) n request
    · have hnext : ((Environment.only c (.serving log tip fate)).getEvents request n).2 = n + 1 := by
        simp [Environment.only, hid]
      exact hnext ▸ .getLatestLedger n
  | now => exact .now n
  | aborted => exact .aborted n

theorem rpcLog_only {c : String} {log : Nat → List EventResponse} {tip : Nat → Nat}
    {fate : Nat → Outcome Failure Unit} (h : RpcLog (.serving log tip fate) c log) :
    RpcLog (.only c (.serving log tip fate)) c log where
  appends r r' hr := h.appends r r' (step_only hr)
  ids := h.ids
  ledgers := h.ledgers
  getEvents request r res hid hres := by
    simp only [Environment.only, hid, if_true] at hres ⊢
    exact h.getEvents request r res hid hres
  refused request r res hp hres := by
    by_cases hid : request.contractId = c
    · simp only [Environment.only, hid, if_true] at hres
      exact h.refused request r res hp hres
    · simp [Environment.only, hid] at hres
  cursor request r res token hid hres hempty htoken := by
    simp only [Environment.only, hid, if_true] at hres ⊢
    obtain ⟨hle, hall⟩ := h.cursor request r res token hid hres hempty htoken
    exact ⟨hle, fun r' hr => hall r' (Relation.ReflTransGen.mono (fun _ _ => step_only) _ _ hr)⟩

theorem rpcLog_unserved {c c' : String} {E : Environment Nat} {log : Nat → List EventResponse}
    (h : RpcLog (E.only c) c log) (hne : c' ≠ c) : RpcLog (E.only c) c' fun _ => [] where
  appends _ _ _ := List.prefix_rfl
  ids _ := .nil
  ledgers _ := .nil
  getEvents request r res hid hres := by simp [Environment.only, hid, hne] at hres
  refused := h.refused
  cursor request r res token hid hres := by simp [Environment.only, hid, hne] at hres

/-- The process dies at the wait `k`. -/
def diesAt (k : Nat) : Environment Nat :=
  .only "C" (.serving (fun _ => [anEarlyEvent, aLateEvent]) (fun _ => 20000)
    fun n => if n = k then .crashed else .done ())

/-- The logs behind `diesAt`. -/
def onlyC (c : String) (_ : Nat) : List EventResponse := if c = "C" then [anEarlyEvent, aLateEvent] else []

theorem onlyC_C : onlyC "C" = fun _ => [anEarlyEvent, aLateEvent] := by
  funext n
  simp [onlyC]

theorem onlyC_other {c : String} (hc : c ≠ "C") : onlyC c = fun _ => [] := by
  funext n
  simp [onlyC, hc]

theorem rpcLogs_diesAt (k : Nat) : RpcLogs (diesAt k) onlyC := by
  have hC : RpcLog (diesAt k) "C" fun _ => [anEarlyEvent, aLateEvent] :=
    rpcLog_only (rpcLog_serving _ _ _ (fun _ => List.prefix_rfl) (fun _ => by decide) fun _ => by decide)
  have hof : ∀ c r, ∀ e ∈ onlyC c r, c = "C" := by
    intro c r e he
    by_contra hc
    simp [onlyC_other hc] at he
  refine ⟨fun c => ?_, fun c r e he => ?_, fun c c' r e he e' he' _ => ?_⟩
  · by_cases hc : c = "C"
    · rw [hc, onlyC_C]
      exact hC
    · rw [onlyC_other hc]
      exact rpcLog_unserved hC hc
  · obtain rfl := hof c r e he
    have hcontract : ∀ e ∈ [anEarlyEvent, aLateEvent], e.contractId = "C" := by decide
    exact hcontract e (by simpa [onlyC_C] using he)
  · rw [hof c r e he, hof c' r e' he']

theorem eq_ok_of_toOption {ε α : Type} {x : Except ε α} {a : α} (h : x.toOption = some a) : x = .ok a := by
  cases x with
  | error e => cases h
  | ok b =>
    cases h
    rfl

theorem handlersSucceed_onlyC : HandlersSucceed onlyC 1 := by
  intro r evs ev t hin ht
  have hall : ∀ e ∈ evs ++ [ev], e.contractId = "C" := by
    intro e he
    by_contra hne
    have hprefix := hin e.contractId
    rw [onlyC_other hne, started, List.filter_nil, List.map_nil, List.prefix_nil, List.map_eq_nil_iff,
      List.filter_eq_nil_iff] at hprefix
    exact hprefix e he (by simp)
  have hC := hin "C"
  rw [List.filter_eq_self.mpr fun e he => by simp [hall e he], onlyC_C] at hC
  have hfold : ((decodeEvent anEarlyEvent).toOption.bind fun x => (decodeEvent aLateEvent).toOption.map fun y =>
      (foldTables [x, y] Tables.empty).toBool) = some true := by decide +kernel
  obtain ⟨x, hx, hfold⟩ := Option.bind_eq_some_iff.mp hfold
  obtain ⟨y, hy, hfold⟩ := Option.map_eq_some_iff.mp hfold
  have hlog : (started 1 [anEarlyEvent, aLateEvent]).map decodeEvent = [x, y].map Except.ok := by
    have hstarted : started 1 [anEarlyEvent, aLateEvent] = [anEarlyEvent, aLateEvent] := by rfl
    rw [hstarted, List.map_cons, List.map_cons, List.map_nil, eq_ok_of_toOption hx,
      eq_ok_of_toOption hy]
    rfl
  rw [hlog] at hC
  obtain ⟨rest, hrest⟩ := hC
  obtain ⟨evs', rest', hsplit, hevs', -⟩ := List.map_eq_append_iff.mp hrest.symm
  rw [List.map_injective_iff.mpr (fun _ _ => Except.ok.inj) hevs', List.append_assoc] at hsplit
  cases ht' : foldTables [x, y] Tables.empty with
  | error e => simp [ht', Except.toBool] at hfold
  | ok t' => exact applyEvent_of_fold ht (hsplit ▸ ht')

/-- The process dies behind the commit of the second page: its cursor is not saved, the next poll is
served the page again, and folds nothing twice. -/
theorem drain_refines_one_pass_at_a_crash :
    savedToken "C" (polledOnce (diesAt 18) fromLedgerOne) = some "0001" ∧
      (polledOnce (diesAt 18) fromLedgerOne).db.applied.map (·.id) = ["0001", "0002"] ∧
      (polledTwice (diesAt 18) fromLedgerOne).db.applied.map (·.id) = ["0001", "0002"] ∧
      ExactlyOnce (polledTwice (diesAt 18) fromLedgerOne).db := by
  have hcommits : (diesAt 18).Commits := by
    intro n e h
    simp only [diesAt, Environment.only, Environment.serving] at h
    split at h <;> cases h
  have hrun : Polls (diesAt 18) (fun config => config.startLedger = (1 : Nat)) (freshWorld 0)
      (polledTwice (diesAt 18) fromLedgerOne) :=
    .poll fromLedgerOne "C" (.poll fromLedgerOne "C" (.refl _) rfl) rfl
  refine ⟨by decide +kernel, by decide +kernel, by decide +kernel, ?_⟩
  exact (drain_refines_one_pass (rpcLogs_diesAt 18) hcommits handlersSucceed_onlyC (by decide) hrun rfl).1

end OurDao
