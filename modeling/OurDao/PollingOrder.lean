import OurDao.Converge

/-!
# The order of polling

One worker may tail several contracts, each with a cursor of its own, but their derived
tables are the same ones: a member goes by its address and a proposal by its number,
whichever contract the event is from. The tables do not depend on the order in which
the contracts were polled, and a rebuild agrees with them, when the events that come in
another order can be exchanged. When one member stakes in both contracts they do depend on it.
-/

namespace OurDao

open Faults Op

/-- What the entries decode to, and the tables that folding them one after the other makes. -/
structure FoldsTo (raws : List EventResponse) (evs : List DecodedEvent) (t : Tables) : Prop where
  decoded : List.Forall₂ (fun raw ev => decodeEvent raw = .ok ev) raws evs
  stored : ∀ ev ∈ evs, rawFault ev = none
  folded : foldTables evs Tables.empty = .ok t

/-- The place of an entry in the log. -/
def EventResponse.place (raw : EventResponse) : ℕ ×ₗ String := toLex (raw.ledger, raw.id)

/-- Whatever two entries decode to can be folded in the other order. -/
def Swappable (a b : EventResponse) : Prop :=
  ∀ ev ev', decodeEvent a = .ok ev → decodeEvent b = .ok ev' → Exchangeable ev ev'

section

variable {raws raws' page : List EventResponse} {evs evs' : List DecodedEvent} {t t' : Tables} {db : Db}

theorem Live.foldsTo (h : Live raws evs db) : FoldsTo raws evs db.tables := ⟨h.decoded, h.stored, h.folded⟩

theorem forall₂_decoded_unique (h : List.Forall₂ (fun raw ev => decodeEvent raw = .ok ev) raws evs)
    (h' : List.Forall₂ (fun raw ev => decodeEvent raw = .ok ev) raws evs') : evs = evs' := by
  refine List.right_unique_forall₂' (fun _ _ _ h₁ h₂ => ?_) h h'
  exact Except.ok.inj (h₁.symm.trans h₂)

theorem FoldsTo.unique (h : FoldsTo raws evs t) (h' : FoldsTo raws evs' t') : t = t' := by
  obtain rfl := forall₂_decoded_unique h.decoded h'.decoded
  exact Except.ok.inj (h.folded.symm.trans h'.folded)

theorem forall₂_decoded_append (h : List.Forall₂ (fun raw ev => decodeEvent raw = .ok ev) (raws ++ page) evs) :
    ∃ evs₁ evs₂, evs = evs₁ ++ evs₂ ∧ List.Forall₂ (fun raw ev => decodeEvent raw = .ok ev) raws evs₁ ∧
      List.Forall₂ (fun raw ev => decodeEvent raw = .ok ev) page evs₂ :=
  ⟨evs.take raws.length, evs.drop raws.length, (List.take_append_drop _ _).symm,
    (List.forall₂_take_append evs raws page h.flip).flip, (List.forall₂_drop_append evs raws page h.flip).flip⟩

/-- A list that can be folded can be folded up to any place. -/
theorem FoldsTo.before (h : FoldsTo (raws ++ page) evs t) : ∃ evs₁ t₁, FoldsTo raws evs₁ t₁ := by
  obtain ⟨evs₁, evs₂, rfl, hd, -⟩ := forall₂_decoded_append h.decoded
  obtain ⟨t₁, ht₁, -⟩ := foldTables_append_ok.mp h.folded
  exact ⟨evs₁, t₁, hd, fun ev hev => h.stored ev (by simp [hev]), ht₁⟩

/-- What stands in some order among the events stands in that order among the entries. -/
theorem exists_sublist_of_decoded (h : List.Forall₂ (fun raw ev => decodeEvent raw = .ok ev) raws evs)
    {l : List DecodedEvent} (hl : l.Sublist evs) :
    ∃ l', l'.Sublist raws ∧ List.Forall₂ (fun raw ev => decodeEvent raw = .ok ev) l' l := by
  induction h generalizing l with
  | nil => exact ⟨[], .slnil, by rw [List.sublist_nil.mp hl]; exact .nil⟩
  | cons hd _ ih =>
    cases hl with
    | cons _ hl =>
      obtain ⟨l', hl', hds⟩ := ih hl
      exact ⟨l', hl'.cons _, hds⟩
    | cons_cons _ hl =>
      obtain ⟨l', hl', hds⟩ := ih hl
      exact ⟨_ :: l', hl'.cons_cons _, .cons hd hds⟩

theorem pair_of_decoded (h : List.Forall₂ (fun raw ev => decodeEvent raw = .ok ev) raws evs) {a b : DecodedEvent}
    (hab : [a, b].Sublist evs) :
    ∃ x y, [x, y].Sublist raws ∧ decodeEvent x = .ok a ∧ decodeEvent y = .ok b := by
  obtain ⟨l, hl, hds⟩ := exists_sublist_of_decoded h hab
  cases hds with
  | cons hx hds =>
    cases hds with
    | cons hy hds =>
      cases hds
      exact ⟨_, _, hl, hx, hy⟩

theorem entry_unique (hids : (raws.map (·.id)).Nodup) {x y : EventResponse} {ev : DecodedEvent} (hx : x ∈ raws)
    (hy : y ∈ raws) (hdx : decodeEvent x = .ok ev) (hdy : decodeEvent y = .ok ev) : x = y := by
  refine List.inj_on_of_nodup_map hids hx hy ?_
  rw [← (decodeEvent_eq_ok hdx).1, (decodeEvent_eq_ok hdy).1]

/-- **The same entries in another order** fold to the same rows, if every two that it puts differently can
be exchanged. -/
theorem FoldsTo.reorder (h : FoldsTo raws evs t) (hids : (raws.map (·.id)).Nodup) (hp : raws.Perm raws')
    (hswap : ∀ a b, [a, b].Sublist raws → [b, a].Sublist raws' → Swappable a b) :
    ∃ evs' u, FoldsTo raws' evs' u ∧ evs'.Perm evs ∧ t.SameRows u := by
  obtain ⟨evs', hd', hperm⟩ := List.perm_comp_forall₂ hp.symm h.decoded
  have hexchange : ∀ a b, [a, b].Sublist evs → [b, a].Sublist evs' → Exchangeable a b := by
    intro a b hab hba
    obtain ⟨x, y, hxy, hx, hy⟩ := pair_of_decoded h.decoded hab
    obtain ⟨y', x', hyx, hy', hx'⟩ := pair_of_decoded hd' hba
    have hmem : ∀ {z}, z ∈ [y', x'] → z ∈ raws := fun hz => hp.mem_iff.mpr (hyx.subset hz)
    obtain rfl : x = x' := entry_unique hids (hxy.subset (by simp)) (hmem (by simp)) hx hx'
    obtain rfl : y = y' := entry_unique hids (hxy.subset (by simp)) (hmem (by simp)) hy hy'
    exact hswap x y hxy hyx a b hx hy
  obtain ⟨u, hu, hsame⟩ := foldTables_reorder hperm.symm hexchange fits_empty h.folded
  exact ⟨evs', u, ⟨hd', fun ev hev => h.stored ev (hperm.mem_iff.mp hev), hu⟩, hperm, hsame⟩

end

section

variable {ρ : Type} {E : Environment ρ} {raws page : List EventResponse} {evs evs' : List DecodedEvent} {t : Tables}
  {db : Db} {lastLedger : Nat}

theorem Live.ingestEvent_succeeds (h : Live raws evs db) {raw : EventResponse} (hnew : raw.id ∉ raws.map (·.id))
    (hf : FoldsTo (raws ++ [raw]) evs' t) (hle : rewound raw.ledger lastLedger = false) :
    ∃ pending db', OurDao.ingestEvent lastLedger raw db = .ok (pending, db') := by
  obtain ⟨evs₁, evs₂, rfl, hd₁, hd₂⟩ := forall₂_decoded_append hf.decoded
  obtain rfl := forall₂_decoded_unique h.decoded hd₁
  obtain ⟨ev, rfl, hd⟩ : ∃ ev, evs₂ = [ev] ∧ decodeEvent raw = .ok ev := by
    cases hd₂ with
    | cons hd hnil => cases hnil; exact ⟨_, rfl, hd⟩
  obtain ⟨hid, hledger, -⟩ := decodeEvent_eq_ok hd
  obtain ⟨t₁, ht₁, ht⟩ := foldTables_append_ok.mp hf.folded
  obtain rfl : db.tables = t₁ := Except.ok.inj (h.folded.symm.trans ht₁)
  obtain ⟨channels, t₂, ha, -⟩ := foldTables_cons_ok.mp ht
  have hinsert : insertRawEvent ev db = .ok (true, { db with events := db.events.insert ev.id (rawRow ev) }) :=
    insertRawEvent_eq_ok.mpr ⟨hf.stored ev (by simp), .inr ⟨h.lookup_new (hid ▸ hnew), rfl, rfl⟩⟩
  exact ⟨_, _, ingestEvent_eq_ok.mpr ⟨ev, hd, hledger ▸ hle, .inl ⟨_, channels, hinsert,
    foldLogged_eq_ok.mpr ⟨t₂, ha, rfl⟩, rfl⟩⟩⟩

theorem Live.ingestEvents_succeeds (h : Live raws evs db) (hids : ((raws ++ page).map (·.id)).Nodup)
    (hf : FoldsTo (raws ++ page) evs' t) (hle : ∀ raw ∈ page, rewound raw.ledger lastLedger = false) :
    ∃ pending db', OurDao.ingestEvents lastLedger page db = .ok (pending, db') := by
  induction page generalizing raws evs db with
  | nil => exact ⟨[], db, rfl⟩
  | cons raw page ih =>
    have hsplit : raws ++ raw :: page = raws ++ [raw] ++ page := by simp
    rw [hsplit] at hids hf
    have hnew : raw.id ∉ raws.map (·.id) := by
      rw [List.map_append, List.map_append, List.append_assoc, List.nodup_append] at hids
      exact fun hmem => hids.2.2 _ hmem _ (by simp) rfl
    obtain ⟨evs₁, t₁, hf₁⟩ := hf.before
    obtain ⟨p, db₁, h₁⟩ := h.ingestEvent_succeeds hnew hf₁ (hle raw (by simp))
    obtain ⟨ev, hlive⟩ := h.ingestEvent hnew h₁
    obtain ⟨ps, db', h₂⟩ := ih hlive hids hf fun raw hraw => hle raw (by simp [hraw])
    exact ⟨p ++ ps, db', ingestEvents_cons_ok.mpr ⟨p, db₁, ps, h₁, h₂, rfl⟩⟩

/-- With a healthy database, a page that can be folded on top of the others gets done. -/
theorem ingestPage_returns (hE : E.Healthy) (hids : ((raws ++ page).map (·.id)).Nodup)
    (hf : FoldsTo (raws ++ page) evs t) (hle : ∀ raw ∈ page, rewound raw.ledger lastLedger = false) :
    Returns (fun w : World ρ => FoldOf raws w.db) (ingestPage E page lastLedger)
      fun _ w => FoldOf (raws ++ page) w.db := by
  rw [ingestPage]
  split
  next hempty =>
    obtain rfl : page = [] := by simpa using hempty
    exact returns_pure fun w h => by simpa using h
  · refine Returns.bind (R := fun _ w => FoldOf (raws ++ page) w.db) ?_ fun pending =>
      hE.returns_announce drifts_db pending
    refine hE.returns_withLock drifts_db (hE.returns_transaction drifts_db ?_) fun _ => drifts_db
    rintro w ⟨evs₀, h⟩
    obtain ⟨pending, db', hi⟩ := h.ingestEvents_succeeds hids hf hle
    exact ⟨pending, db', hi, h.ingestEvents hids hi⟩

end

/-- A contract and a page of its events. -/
abbrev ContractPage := String × List EventResponse

/-- The events of one contract, page after page. -/
def streamOf (contractId : String) (pages : List ContractPage) : List EventResponse :=
  (pages.filter (·.1 = contractId)).flatMap Prod.snd

/-- The events in the order of arrival. -/
def arrival (pages : List ContractPage) : List EventResponse := pages.flatMap Prod.snd

/-- Every page is wholly from one of the two contracts, and the pages of each are its stream. -/
structure Interleaves (c c' : String) (as bs : List EventResponse) (pages : List ContractPage) : Prop where
  owned : ∀ p ∈ pages, (p.1 = c ∨ p.1 = c') ∧ ∀ raw ∈ p.2, raw.contractId = p.1
  first : streamOf c pages = as
  second : streamOf c' pages = bs

/-- Each page with the ledger up to which its contract was folded by then. -/
def withLastLedger (folded : String → Nat) : List ContractPage → List (List EventResponse × Nat)
  | [] => []
  | p :: pages =>
    (p.2, folded p.1) ::
      withLastLedger (Function.update folded p.1 ((p.2.getLast?.map (·.ledger)).getD (folded p.1))) pages

/-- Ingest the pages in turn. -/
def ingestPages {ρ : Type} (E : Environment ρ) (pages : List ContractPage) : Proc ρ Unit :=
  forM (withLastLedger (fun _ => 0) pages) fun p => ingestPage E p.1 p.2

theorem streamOf_cons_self (p : ContractPage) (pages : List ContractPage) :
    streamOf p.1 (p :: pages) = p.2 ++ streamOf p.1 pages := by simp [streamOf]

theorem streamOf_cons_ne {c : String} {p : ContractPage} (h : p.1 ≠ c) (pages : List ContractPage) :
    streamOf c (p :: pages) = streamOf c pages := by simp [streamOf, h]

theorem withLastLedger_arrival (folded : String → Nat) (pages : List ContractPage) :
    (withLastLedger folded pages).flatMap Prod.fst = arrival pages := by
  induction pages generalizing folded with
  | nil => rfl
  | cons p pages ih => simp [withLastLedger, arrival, ih]

/-- No page of a stream in ledger order reaches below its cursor. -/
theorem withLastLedger_le {folded : String → Nat} {pages : List ContractPage}
    (h : ∀ c, (∀ raw ∈ streamOf c pages, folded c ≤ raw.ledger) ∧
      (streamOf c pages).Pairwise fun a b => a.ledger ≤ b.ledger) :
    ∀ p ∈ withLastLedger folded pages, ∀ raw ∈ p.1, p.2 ≤ raw.ledger := by
  induction pages generalizing folded with
  | nil => intro p hp; cases hp
  | cons p pages ih =>
    obtain ⟨hlow, hord⟩ := h p.1
    rw [streamOf_cons_self] at hlow hord
    obtain ⟨-, hrest, hcross⟩ := List.pairwise_append.mp hord
    intro q hq
    rcases List.mem_cons.mp hq with rfl | hq
    · exact fun raw hraw => hlow raw (List.mem_append_left _ hraw)
    refine ih (fun c => ?_) q hq
    by_cases hc : p.1 = c
    · subst hc
      refine ⟨fun raw hraw => ?_, hrest⟩
      rw [Function.update_self]
      cases hlast : p.2.getLast? with
      | none => exact hlow raw (List.mem_append_right _ hraw)
      | some last => exact hcross last (List.mem_of_getLast? hlast) raw hraw
    · rw [Function.update_of_ne (Ne.symm hc)]
      have hstream := h c
      rwa [streamOf_cons_ne hc] at hstream

section

variable {c c' : String} {as bs : List EventResponse} {pages pages' : List ContractPage}

/-- What arrived is the two streams. -/
theorem Interleaves.perm (hne : c ≠ c') (h : Interleaves c c' as bs pages) : (arrival pages).Perm (as ++ bs) := by
  have hother : pages.filter (fun p => !decide (p.1 = c)) = pages.filter (·.1 = c') := by
    refine List.filter_congr fun p hp => ?_
    rcases (h.owned p hp).1 with hp | hp
    · simp [hp, hne]
    · simp [hp, hne.symm]
  have hsplit := (List.filter_append_perm (fun p : ContractPage => decide (p.1 = c)) pages).flatMap_right Prod.snd
  rw [hother, List.flatMap_append] at hsplit
  rw [← h.first, ← h.second]
  exact hsplit.symm

/-- Either stream, and every other contract's, is in ledger order. -/
theorem Interleaves.ascending (h : Interleaves c c' as bs pages) (has : as.Pairwise fun a b => a.place ≤ b.place)
    (hbs : bs.Pairwise fun a b => a.place ≤ b.place) (x : String) :
    (streamOf x pages).Pairwise fun a b => a.ledger ≤ b.ledger := by
  have hledger : ∀ {a b : EventResponse}, a.place ≤ b.place → a.ledger ≤ b.ledger := fun hab => by
    rcases Prod.Lex.le_iff.mp hab with hlt | ⟨heq, -⟩
    · exact hlt.le
    · exact heq.le
  by_cases hx : x = c
  · rw [hx, h.first]
    exact has.imp hledger
  by_cases hx' : x = c'
  · rw [hx', h.second]
    exact hbs.imp hledger
  have hnone : pages.filter (·.1 = x) = [] := by
    refine List.filter_eq_nil_iff.mpr fun p hp => ?_
    rcases (h.owned p hp).1 with hp | hp
    · simp [hp, Ne.symm hx]
    · simp [hp, Ne.symm hx']
  simp [streamOf, hnone]

theorem Interleaves.not_rewound (h : Interleaves c c' as bs pages) (has : as.Pairwise fun a b => a.place ≤ b.place)
    (hbs : bs.Pairwise fun a b => a.place ≤ b.place) {p : List EventResponse × Nat}
    (hp : p ∈ withLastLedger (fun _ => 0) pages) : ∀ raw ∈ p.1, rewound raw.ledger p.2 = false := by
  intro raw hraw
  have hle := withLastLedger_le (fun x => ⟨fun _ _ => Nat.zero_le _, h.ascending has hbs x⟩) p hp raw hraw
  simp only [rewound, Bool.and_eq_false_iff, decide_eq_false_iff_not]
  omega

variable {ρ : Type} {E : Environment ρ}

theorem ingestPages_folds (hids : ((arrival pages).map (·.id)).Nodup) :
    Ensures (fun w : World ρ => w.db = Db.empty) (ingestPages E pages)
      (OnDone fun _ w => FoldOf (arrival pages) w.db) := by
  rw [← withLastLedger_arrival fun _ => 0] at hids ⊢
  exact ingestPages_live E _ hids

/-- With a healthy database the pages all get done, if their events can be folded in the order of arrival. -/
theorem ingestPages_returns (hE : E.Healthy) (h : Interleaves c c' as bs pages)
    (has : as.Pairwise fun a b => a.place ≤ b.place) (hbs : bs.Pairwise fun a b => a.place ≤ b.place)
    (hids : ((arrival pages).map (·.id)).Nodup) {evs : List DecodedEvent} {t : Tables}
    (hf : FoldsTo (arrival pages) evs t) :
    Returns (fun w : World ρ => w.db = Db.empty) (ingestPages E pages) fun _ _ => True := by
  rw [← withLastLedger_arrival fun _ => 0] at hids hf
  refine Returns.mono (P := fun w => FoldOf [] w.db)
    (Q := fun _ w => FoldOf ((withLastLedger (fun _ => 0) pages).flatMap Prod.fst) w.db) ?_
    (fun w hw => ⟨[], by rw [hw]; exact live_empty⟩) fun _ _ _ => trivial
  refine returns_forM (P := fun before (w : World ρ) => FoldOf (before.flatMap Prod.fst) w.db) _
    fun before page after hpages => ?_
  rw [hpages, List.flatMap_append, List.flatMap_cons, ← List.append_assoc] at hids hf
  rw [List.map_append] at hids
  obtain ⟨evs₁, t₁, hf₁⟩ := hf.before
  rw [List.flatMap_append, List.flatMap_singleton]
  exact ingestPage_returns hE (List.nodup_append.mp hids).1 hf₁ (h.not_rewound has hbs (by rw [hpages]; simp))

end

/-- A rebuild of what was ingested folds it in the order of the log. -/
theorem FoldOf.rebuild {ρ : Type} (E : Environment ρ) {raws : List EventResponse} {db : Db} (h : FoldOf raws db)
    (hids : (raws.map (·.id)).Nodup)
    (hswap : ∀ a b, [a, b].Sublist raws → b.place < a.place → Swappable a b) (batchSize : Option Int) :
    Ensures (fun u : World ρ => u.db = db) (reindexFromEventLog E batchSize) fun o u =>
      db.tables.SameRows u.db.tables ∧ (E.Healthy → o = .done raws.length) := by
  obtain ⟨evs, hlive⟩ := h
  have hkeys : (raws.map (·.place)).Nodup := by
    refine List.Nodup.of_map (fun key => (ofLex key).2) ?_
    rwa [List.map_map]
  have hlt := Keyset.ordered_lt hkeys
  obtain ⟨evs', t, hf, hperm, hsame⟩ := hlive.foldsTo.reorder hids (Keyset.ordered_perm EventResponse.place raws).symm
    fun a b hab hba => hswap a b hab (by simpa using hlt.sublist hba)
  have hrows : (evs'.map loggedRow).Perm (Table.rows db.events) := (hperm.map loggedRow).trans hlive.rows_perm
  have hrebuild := rebuild_of_rows E hf.decoded hf.stored hrows (hlt.imp le_of_lt) hf.folded hlive.unread batchSize
  rw [(Keyset.ordered_perm EventResponse.place raws).length_eq] at hrebuild
  refine hrebuild.post fun o u ⟨htables, hdone⟩ => ⟨?_, hdone⟩
  rcases htables with htables | htables <;> rw [htables]
  · exact sameRows_iff.mpr (Reorder.View.Same.refl view _)
  · exact hsame

/-- **The order of polling.** Two interleavings of two contracts' streams come to the same derived
tables if every two events that they ingest in different orders can be exchanged, and the tables are
those of a rebuild if every two events that were ingested against the order of the log can be. -/
theorem polling_order_immaterial {ρ ρ' ρ'' : Type} (E : Environment ρ) (E' : Environment ρ') (E'' : Environment ρ'')
    {c c' : String} (hne : c ≠ c') {as bs : List EventResponse} (hids : ((as ++ bs).map (·.id)).Nodup)
    (has : as.Pairwise fun a b => a.place ≤ b.place) (hbs : bs.Pairwise fun a b => a.place ≤ b.place)
    {pages pages' : List ContractPage} (h : Interleaves c c' as bs pages) (h' : Interleaves c c' as bs pages')
    {w w' : World ρ} (hw : w.db = Db.empty) (hpages : ingestPages E pages w = (.done (), w')) :
    ((∀ a b, [a, b].Sublist (arrival pages) → [b, a].Sublist (arrival pages') → Swappable a b) →
      ∀ v : World ρ', v.db = Db.empty →
        (E'.Healthy → (ingestPages E' pages' v).1 = .done ()) ∧
        ((ingestPages E' pages' v).1 = .done () →
          w'.db.tables.SameRows (ingestPages E' pages' v).2.db.tables)) ∧
    ((∀ a b, [a, b].Sublist (arrival pages) → b.place < a.place → Swappable a b) →
      ∀ (batchSize : Option Int) (u : World ρ''), u.db = w'.db →
        w'.db.tables.SameRows (reindexFromEventLog E'' batchSize u).2.db.tables ∧
        (E''.Healthy → (reindexFromEventLog E'' batchSize u).1 = .done (as ++ bs).length)) := by
  have hids₁ := (((h.perm hne).map (·.id)).nodup_iff).mpr hids
  have hids₂ := (((h'.perm hne).map (·.id)).nodup_iff).mpr hids
  have hfold : FoldOf (arrival pages) w'.db := by
    have hdone := ingestPages_folds (E := E) hids₁ w hw
    rwa [hpages] at hdone
  constructor
  · intro hswap v hv
    obtain ⟨evs, hlive⟩ := hfold
    obtain ⟨evs', t, hf, -, hsame⟩ := hlive.foldsTo.reorder hids₁ ((h.perm hne).trans (h'.perm hne).symm) hswap
    refine ⟨fun hE => ?_, fun hdone => ?_⟩
    · obtain ⟨x, hx, -⟩ := ingestPages_returns hE h' has hbs hids₂ hf v hv
      exact hx
    · have hfold' := ingestPages_folds (E := E') hids₂ v hv
      rw [hdone] at hfold'
      obtain ⟨evs₂, hlive₂⟩ := hfold'
      rwa [hlive₂.foldsTo.unique hf]
  · intro hswap batchSize u hu
    have hrebuild := hfold.rebuild E'' hids₁ hswap batchSize u hu
    rwa [(h.perm hne).length_eq] at hrebuild

/-- A vote on a loan in contract `C`. -/
def voteInC : EventResponse := .published "0002" 2 "loan_vote" [.bigint 7, .str "GB", .bool true, .bigint 3]

/-- A vote on the loan of the same number in contract `D`. -/
def voteInD : EventResponse :=
  { EventResponse.published "0003" 3 "loan_vote" [.bigint 7, .str "GC", .bool false, .bigint 2] with
    contractId := "D" }

/-- A loan is requested in contract `C` and voted on there. -/
def ballotsOfC : List EventResponse :=
  [.published "0001" 1 "loan_req" [.bigint 7, .str "GA", .bigint 100, .bigint 110], voteInC]

/-- A member joins contract `C` and stakes there. -/
def stakesOfC : List EventResponse :=
  [.published "0001" 1 "joined" [.str "GA", .bigint 100],
    .published "0002" 2 "staked" [.str "GA", .bigint 10, .bigint 10]]

/-- The same member stakes in contract `D`. -/
def stakesOfD : List EventResponse :=
  [{ EventResponse.published "0003" 3 "staked" [.str "GA", .bigint 10, .bigint 20] with contractId := "D" }]

/-- Contract `C` is polled until it has no more. -/
def oneAfterTheOther (as bs : List EventResponse) : List ContractPage := [("C", as), ("D", bs)]

/-- The page of `D` comes between two pages of `C`. -/
def inTurn (as bs : List EventResponse) : List ContractPage := [("C", as.take 1), ("D", bs), ("C", as.drop 1)]

theorem oneAfterTheOther_interleaves {as bs : List EventResponse} (has : ∀ raw ∈ as, raw.contractId = "C")
    (hbs : ∀ raw ∈ bs, raw.contractId = "D") : Interleaves "C" "D" as bs (oneAfterTheOther as bs) where
  owned p hp := by
    simp only [oneAfterTheOther, List.mem_cons, List.not_mem_nil, or_false] at hp
    rcases hp with rfl | rfl
    · exact ⟨.inl rfl, has⟩
    · exact ⟨.inr rfl, hbs⟩
  first := by simp [streamOf, oneAfterTheOther]
  second := by simp [streamOf, oneAfterTheOther]

theorem inTurn_interleaves {as bs : List EventResponse} (has : ∀ raw ∈ as, raw.contractId = "C")
    (hbs : ∀ raw ∈ bs, raw.contractId = "D") : Interleaves "C" "D" as bs (inTurn as bs) where
  owned p hp := by
    simp only [inTurn, List.mem_cons, List.not_mem_nil, or_false] at hp
    rcases hp with rfl | rfl | rfl
    · exact ⟨.inl rfl, fun raw hraw => has raw (List.mem_of_mem_take hraw)⟩
    · exact ⟨.inr rfl, hbs⟩
    · exact ⟨.inl rfl, fun raw hraw => has raw (List.mem_of_mem_drop hraw)⟩
  first := by simp [streamOf, inTurn, -List.drop_one]
  second := by simp [streamOf, inTurn]

theorem symbol_of_decoded {raw : EventResponse} {ev : DecodedEvent} {symbol : JsStr} (hd : decodeEvent raw = .ok ev)
    (h : (decodeEvent raw).map (·.symbol) = .ok symbol) : ev.symbol = symbol := by
  rw [hd] at h
  exact Except.ok.inj h

theorem votes_swappable : Swappable voteInC voteInD := by
  intro ev ev' hd hd'
  refine exchangeable_of_loan_votes ?_ ?_ ?_
  · rw [(decodeEvent_eq_ok hd).1, (decodeEvent_eq_ok hd').1]
    decide
  · rw [symbol_of_decoded hd rfl]
    rfl
  · rw [symbol_of_decoded hd' rfl]
    rfl

/-- The votes are all that the two orders put differently. -/
theorem pair_of_votes {a b : EventResponse} (hab : [a, b].Sublist (arrival (oneAfterTheOther ballotsOfC [voteInD])))
    (hba : [b, a].Sublist (arrival (inTurn ballotsOfC [voteInD]))) : a = voteInC ∧ b = voteInD := by
  have hvotes : ∀ x ∈ ["0001", "0002", "0003"], ∀ y ∈ ["0001", "0002", "0003"],
      [x, y].Sublist ["0001", "0002", "0003"] → [y, x].Sublist ["0001", "0003", "0002"] →
        x = "0002" ∧ y = "0003" := by decide
  have hids : [a.id, b.id].Sublist ["0001", "0002", "0003"] := hab.map EventResponse.id
  have hids' : [b.id, a.id].Sublist ["0001", "0003", "0002"] := hba.map EventResponse.id
  obtain ⟨ha, hb⟩ := hvotes _ (hids.subset (by simp)) _ (hids.subset (by simp)) hids hids'
  have hunique : ((ballotsOfC ++ [voteInD]).map (·.id)).Nodup := by decide
  exact ⟨List.inj_on_of_nodup_map hunique (hab.subset (by simp)) (by simp [ballotsOfC]) ha,
    List.inj_on_of_nodup_map hunique (hab.subset (by simp)) (by simp) hb⟩

/-- Votes on one loan from two contracts, counted in either order. -/
theorem polling_order_immaterial_two_votes :
    (ingestPages .healthy (inTurn ballotsOfC [voteInD]) (freshWorld 0)).1 = .done () ∧
    (ingestPages .healthy (oneAfterTheOther ballotsOfC [voteInD]) (freshWorld 0)).2.db.tables.SameRows
      (ingestPages .healthy (inTurn ballotsOfC [voteInD]) (freshWorld 0)).2.db.tables ∧
    (reindexFromEventLog .healthy none
      (ingestPages .healthy (oneAfterTheOther ballotsOfC [voteInD]) (freshWorld 0)).2).1 = .done 3 := by
  have hdone : (ingestPages .healthy (oneAfterTheOther ballotsOfC [voteInD]) (freshWorld 0)).1 = .done () := by
    decide +kernel
  have hpages : ingestPages .healthy (oneAfterTheOther ballotsOfC [voteInD]) (freshWorld 0) =
      (.done (), (ingestPages .healthy (oneAfterTheOther ballotsOfC [voteInD]) (freshWorld 0)).2) := by
    rw [← hdone]
  have hlog : (arrival (oneAfterTheOther ballotsOfC [voteInD])).Pairwise fun a b => a.place ≤ b.place := by
    decide +kernel
  obtain ⟨htables, hrebuild⟩ := polling_order_immaterial .healthy .healthy .healthy (by decide) (by decide)
    (by decide +kernel) (by decide +kernel) (oneAfterTheOther_interleaves (by decide) (by decide))
    (inTurn_interleaves (by decide) (by decide)) rfl hpages
  obtain ⟨hreturns, hsame⟩ := htables (fun a b hab hba => by
    obtain ⟨rfl, rfl⟩ := pair_of_votes hab hba
    exact votes_swappable) (freshWorld 0) rfl
  refine ⟨hreturns healthy_healthy, hsame (hreturns healthy_healthy), ?_⟩
  refine (hrebuild (fun a b hab hba => absurd hba ?_) none _ rfl).2 healthy_healthy
  simpa using hlog.sublist hab

/-- A member's stake is that of the contract that was polled last, and that of the later event after a rebuild. -/
theorem stake_depends_on_the_order_of_polling :
    Interleaves "C" "D" stakesOfC stakesOfD (oneAfterTheOther stakesOfC stakesOfD) ∧
    Interleaves "C" "D" stakesOfC stakesOfD (inTurn stakesOfC stakesOfD) ∧
    ((stakesOfC ++ stakesOfD).map (·.id)).Nodup ∧ (stakesOfC ++ stakesOfD).Pairwise (fun a b => a.place ≤ b.place) ∧
    (ingestPages .healthy (oneAfterTheOther stakesOfC stakesOfD) (freshWorld 0)).1 = .done () ∧
    (ingestPages .healthy (inTurn stakesOfC stakesOfD) (freshWorld 0)).1 = .done () ∧
    ((ingestPages .healthy (oneAfterTheOther stakesOfC stakesOfD) (freshWorld 0)).2.db.tables.members.lookup "GA").map
      (·.stake) = some 20 ∧
    ((ingestPages .healthy (inTurn stakesOfC stakesOfD) (freshWorld 0)).2.db.tables.members.lookup "GA").map
      (·.stake) = some 10 ∧
    ((reindexFromEventLog .healthy none
      (ingestPages .healthy (inTurn stakesOfC stakesOfD) (freshWorld 0)).2).2.db.tables.members.lookup "GA").map
      (·.stake) = some 20 :=
  ⟨oneAfterTheOther_interleaves (by decide) (by decide), inTurn_interleaves (by decide) (by decide),
    by decide +kernel, by decide +kernel, by decide +kernel, by decide +kernel, by decide +kernel,
    by decide +kernel, by decide +kernel⟩

end OurDao
