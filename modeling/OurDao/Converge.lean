import OurDao.Exchange
import OurDao.Frames
import OurDao.LiveFold

/-!
# Replays and the rebuild

A replay applies an event on top of whatever was folded since it was quarantined, while
a rebuild applies it in its place in the log. Both come to the same derived tables when
every two events that were applied against the order of the log can be exchanged; they
do not when, say, two stakes of one member were.
-/

namespace OurDao

open Faults Op

variable {ρ : Type} {E : Environment ρ}

/-- Ingests of listed events, and replays. -/
def Command.Draws (log : List EventResponse) : Command → Db → Prop
  | .ingestPage events _, _ => ∀ raw ∈ events, raw ∈ log
  | .ingestEventQuarantined raw _, _ => raw ∈ log
  | .replayFailedEvent _ _, _ => True
  | .reindexFromEventLog _, _ => False

/-- An event of the list. -/
def Drawn (log : List EventResponse) (ev : DecodedEvent) : Prop := ∃ raw ∈ log, decodeEvent raw = .ok ev

/-- The rows are those of listed events, and so is what was folded, live or as its row gives it back. -/
structure DrawnFrom (log : List EventResponse) (db : Db) : Prop where
  rows : ∀ id row, db.events.lookup id = some row → ∃ ev, Drawn log ev ∧ ev.id = id ∧ rawFault ev = none ∧
    row = { rawRow ev with folded := row.folded }
  applied : ∀ ev ∈ db.applied, ∃ ev₀, Drawn log ev₀ ∧ ev₀.id = ev.id ∧
    (ev = ev₀ ∨ toDecodedEvent ev₀.id (rawRow ev₀) = .ok ev)

theorem drawnFrom_empty (log : List EventResponse) : DrawnFrom log Db.empty := by
  constructor <;> simp [Db.empty]

theorem toDecodedEvent_symbol {id : String} {row : EventRow} {ev : DecodedEvent}
    (h : toDecodedEvent id row = .ok ev) : ev.symbol = JsStr.ofString row.symbol := by
  simp only [toDecodedEvent, bind, Except.bind] at h
  split at h
  · cases h
  · cases h; rfl

/-- The marker of a row is not read. -/
theorem toDecodedEvent_folded (id : String) (row : EventRow) (folded : Bool) :
    toDecodedEvent id { row with folded } = toDecodedEvent id row := rfl

namespace DrawnFrom

variable {log : List EventResponse} {db db' : Db} {ev : DecodedEvent}

theorem congr (h : DrawnFrom log db) (ha : db'.applied = db.applied) (he : db'.events = db.events) :
    DrawnFrom log db' := ⟨by rw [he]; exact h.rows, by rw [ha]; exact h.applied⟩

theorem insertRawEvent (h : DrawnFrom log db) (hev : Drawn log ev) {needsFold : Bool}
    (hi : insertRawEvent ev db = .ok (needsFold, db')) : DrawnFrom log db' := by
  obtain ⟨hfault, ⟨_, _, _, rfl⟩ | ⟨_, _, rfl⟩⟩ := insertRawEvent_eq_ok.mp hi
  · exact h
  refine ⟨fun id row hrow => ?_, h.applied⟩
  by_cases hid : id = ev.id
  · subst hid
    rw [AList.lookup_insert] at hrow
    cases hrow
    exact ⟨ev, hev, rfl, hfault, rfl⟩
  · exact h.rows id row (by rwa [AList.lookup_insert_ne hid] at hrow)

theorem foldLogged (h : DrawnFrom log db) {channels : List StreamChannel}
    (hev : ∃ ev₀, Drawn log ev₀ ∧ ev₀.id = ev.id ∧ (ev = ev₀ ∨ toDecodedEvent ev₀.id (rawRow ev₀) = .ok ev))
    (hf : foldLogged ev db = .ok (channels, db')) : DrawnFrom log db' := by
  obtain ⟨tables, -, rfl⟩ := foldLogged_eq_ok.mp hf
  refine ⟨fun id row hrow => ?_, fun ev' hev' => ?_⟩
  · simp only [lookup_setFolded] at hrow
    obtain ⟨row₀, hrow₀, rfl⟩ := Option.map_eq_some_iff.mp hrow
    obtain ⟨ev₀, hdrawn, hid, hfault, hrow₀⟩ := h.rows id row₀ hrow₀
    refine ⟨ev₀, hdrawn, hid, hfault, ?_⟩
    rw [hrow₀]
    split <;> rfl
  · rcases List.mem_append.mp hev' with hev' | hev'
    · exact h.applied ev' hev'
    · obtain rfl := List.mem_singleton.mp hev'
      exact hev

theorem replayed (h : DrawnFrom log db) {eventId : String} (hr : Replayed eventId db db') : DrawnFrom log db' := by
  cases hr with
  | recorded failed => exact h.congr rfl rfl
  | folded failed _ hrow _ hd hf =>
    obtain ⟨ev₀, hdrawn, hid, -, hrow₀⟩ := h.rows _ _ hrow
    refine (h.foldLogged ⟨ev₀, hdrawn, ?_, .inr ?_⟩ hf).congr rfl rfl
    · rw [hid, toDecodedEvent_id hd]
    · rwa [hrow₀, toDecodedEvent_folded, ← hid] at hd

/-- Everything an ingest of listed events does keeps this. -/
theorem ingestible (log : List EventResponse) : Ingestible E (Drawn log) fun w => DrawnFrom log w.db where
  drifts := drifts_db
  insertRawEvent _ _ _ _ hev h hi := h.insertRawEvent hev hi
  foldLogged _ ev _ _ hev h hf := h.foldLogged ⟨ev, hev, rfl, .inl rfl⟩ hf
  failed _ _ _ _ _ h hf := by cases hf; exact h.congr rfl rfl
  quarantineState _ _ _ _ _ h hq := by cases hq; exact h.congr rfl rfl
  console _ _ h := h
  memory _ _ h := h

end DrawnFrom

theorem Command.run_drawnFrom {log : List EventResponse} (c : Command) :
    Ensures (fun w => DrawnFrom log w.db ∧ c.Draws log w.db) (c.run E) fun _ w => DrawnFrom log w.db := by
  have hI := DrawnFrom.ingestible (E := E) log
  rintro w ⟨h, hc⟩
  cases c with
  | ingestPage events lastLedger => exact hI.ingestPage (fun raw hraw ev hd => ⟨raw, hc raw hraw, hd⟩) lastLedger w h
  | ingestEventQuarantined raw lastLedger => exact hI.ingestAlone (fun ev hd => ⟨raw, hc, hd⟩) lastLedger w h
  | reindexFromEventLog batchSize => exact hc.elim
  | replayFailedEvent eventId resolution =>
    have hreplay : Keeps (fun w => DrawnFrom log w.db) (OurDao.replayFailedEvent E eventId resolution) := fun w h =>
      h.replayed (replayFailedEvent_replayed eventId resolution w rfl)
    exact Keeps.bind hreplay (fun _ => Keeps.pure ()) w h

theorem Run.mono {Meets Meets' : Command → Db → Prop} (himp : ∀ c db, Meets c db → Meets' c db) {w w' : World ρ}
    (h : Run E Meets w w') : Run E Meets' w w' := by
  induction h with
  | refl => exact .refl _
  | step c _ hc ih => exact ih.step c (himp c _ hc)

theorem drawnFrom_of_run {log : List EventResponse} {w w' : World ρ} (h : Run E (Command.Draws log) w w')
    (hw : w.db = Db.empty) : DrawnFrom log w'.db := by
  induction h with
  | refl => exact hw ▸ drawnFrom_empty log
  | step c _ hc ih =>
    rw [recover_db]
    exact c.run_drawnFrom _ ⟨ih, hc⟩

/-- The event as its row gives it back. -/
def Db.stored (db : Db) (ev : DecodedEvent) : DecodedEvent :=
  match (db.events.lookup ev.id).map (toDecodedEvent ev.id) with
  | some (.ok ev') => ev'
  | _ => ev

/-- Every two events that were applied against the order of the log can be exchanged. -/
def LateExchangeable (db : Db) : Prop :=
  ∀ r ∈ Table.rows db.events, ∀ r' ∈ Table.rows db.events, [r.1, r'.1].Sublist (db.applied.map (·.id)) →
    logKey r' < logKey r → ∀ a b, toDecodedEvent r.1 r.2 = .ok a → toDecodedEvent r'.1 r'.2 = .ok b →
    Exchangeable a b

theorem exists_decode {rows : List (String × EventRow)}
    (h : ∀ r ∈ rows, ∃ ev, toDecodedEvent r.1 r.2 = .ok ev) : ∃ evs, Decode rows evs := by
  induction rows with
  | nil => exact ⟨[], .nil⟩
  | cons r rows ih =>
    obtain ⟨ev, hev⟩ := h r (by simp)
    obtain ⟨evs, hevs⟩ := ih fun r hr => h r (by simp [hr])
    exact ⟨ev :: evs, .cons hev hevs⟩

theorem Decode.exists_mem {rows : List (String × EventRow)} {evs : List DecodedEvent} (h : Decode rows evs)
    {r : String × EventRow} (hr : r ∈ rows) : ∃ ev ∈ evs, toDecodedEvent r.1 r.2 = .ok ev := by
  induction h with
  | nil => cases hr
  | @cons _ ev _ _ hd _ ih =>
    rcases List.mem_cons.mp hr with rfl | hr
    · exact ⟨ev, by simp, hd⟩
    · obtain ⟨ev, hev, hd⟩ := ih hr
      exact ⟨ev, by simp [hev], hd⟩

section

variable {log : List EventResponse} {db : Db}

theorem drawn_unique (hids : (log.map (·.id)).Nodup) {ev ev' : DecodedEvent} (h : Drawn log ev)
    (h' : Drawn log ev') (hid : ev.id = ev'.id) : ev = ev' := by
  obtain ⟨raw, hraw, hd⟩ := h
  obtain ⟨raw', hraw', hd'⟩ := h'
  have hsame : raw.id = raw'.id := by rw [← (decodeEvent_eq_ok hd).1, hid, (decodeEvent_eq_ok hd').1]
  obtain rfl := List.inj_on_of_nodup_map hids hraw hraw' hsame
  exact Except.ok.inj (hd.symm.trans hd')

/-- What was folded reads like its row. -/
theorem DrawnFrom.stored (h : DrawnFrom log db) (hids : (log.map (·.id)).Nodup) {ev : DecodedEvent}
    (hev : ev ∈ db.applied) {row : EventRow} (hrow : db.events.lookup ev.id = some row) :
    toDecodedEvent ev.id row = .ok (db.stored ev) ∧ Alike ev (db.stored ev) := by
  obtain ⟨ev₁, hdrawn₁, hid₁, hfault, hrow₁⟩ := h.rows _ _ hrow
  obtain ⟨ev₀, hdrawn, hid, hcase⟩ := h.applied ev hev
  obtain rfl := drawn_unique hids hdrawn₁ hdrawn (hid₁.trans hid.symm)
  obtain ⟨raw, -, hd⟩ := hdrawn
  obtain ⟨ev', hread, halike⟩ := toDecodedEvent_rawRow hd hfault row.folded
  rw [← hrow₁, hid] at hread
  have hstored : db.stored ev = ev' := by rw [Db.stored, hrow, Option.map_some, hread]
  rw [hstored]
  refine ⟨hread, ?_⟩
  rcases hcase with rfl | hcase
  · exact halike
  · rw [hid, ← toDecodedEvent_folded _ _ row.folded, ← hrow₁, hread] at hcase
    cases hcase
    exact .refl _

theorem mem_orderedLog {r : String × EventRow} : r ∈ orderedLog db.events ↔ db.events.lookup r.1 = some r.2 := by
  rw [orderedLog, Keyset.mem_ordered]
  exact Table.mem_rows

/-- Rows that stand in this order in the log. -/
theorem logKey_lt_of_sublist {r r' : String × EventRow} (hr : r ∈ orderedLog db.events)
    (hr' : r' ∈ orderedLog db.events) (h : [r.1, r'.1].Sublist ((orderedLog db.events).map Prod.fst)) :
    logKey r < logKey r' := by
  obtain ⟨l, hl, heq⟩ := List.sublist_map_iff.mp h
  obtain ⟨x, y, rfl⟩ : ∃ x y, l = [x, y] := by
    rcases l with _ | ⟨x, _ | ⟨y, _ | ⟨z, l⟩⟩⟩ <;> simp_all
  simp only [List.map_cons, List.map_nil, List.cons.injEq, and_true] at heq
  have hunique : ∀ x ∈ orderedLog db.events, ∀ r ∈ orderedLog db.events, r.1 = x.1 → r = x := by
    intro x hx r hr hkey
    have hrow := mem_orderedLog.mp hx
    rw [← hkey, mem_orderedLog.mp hr] at hrow
    exact Prod.ext hkey (Option.some.inj hrow)
  rw [hunique x (hl.subset (by simp)) r hr heq.1, hunique y (hl.subset (by simp)) r' hr' heq.2]
  have hord := (Keyset.ordered_lt (logKey_nodup db.events)).sublist hl
  simpa using hord

theorem fits_empty : Tables.empty.totals.fits :=
  ⟨by decide, fun day d h => by simp [Tables.totals, Tables.daily, Tables.empty] at h⟩

/-- The fold of the log in its order, next to the fold in the order of arrival. -/
theorem DrawnFrom.fold_log (h : DrawnFrom log db) (hids : (log.map (·.id)).Nodup) (honce : ExactlyOnce db)
    (hall : AllFolded db) (hlate : LateExchangeable db) : ∃ evs t, Decode (orderedLog db.events) evs ∧
      foldTables evs Tables.empty = .ok t ∧ db.tables.SameRows t := by
  have hrow : ∀ ev ∈ db.applied, ∃ row, db.events.lookup ev.id = some row := fun ev hev =>
    Option.isSome_iff_exists.mp (honce.logged ev.id (List.mem_map_of_mem hev))
  have hread : ∀ r ∈ orderedLog db.events, ∃ ev ∈ db.applied, toDecodedEvent r.1 r.2 = .ok (db.stored ev) := by
    intro r hr
    have hr := mem_orderedLog.mp hr
    obtain ⟨ev, hev, hid⟩ := List.mem_map.mp ((honce.folded r.1 r.2 hr).mp (hall r.1 r.2 hr))
    refine ⟨ev, hev, ?_⟩
    rw [← hid] at hr ⊢
    exact (h.stored hids hev hr).1
  obtain ⟨evs, hd⟩ := exists_decode fun r hr => (hread r hr).elim fun ev hev => ⟨db.stored ev, hev.2⟩
  have halike : List.Forall₂ Alike db.applied (db.applied.map db.stored) := by
    rw [List.forall₂_map_right_iff, List.forall₂_same]
    intro ev hev
    obtain ⟨row, hrow⟩ := hrow ev hev
    exact (h.stored hids hev hrow).2
  have hmap : (db.applied.map db.stored).map (·.id) = db.applied.map (·.id) := by
    rw [List.map_map]
    refine List.map_congr_left fun ev hev => ?_
    obtain ⟨row, hrow⟩ := hrow ev hev
    exact toDecodedEvent_id (h.stored hids hev hrow).1
  have hperm : (db.applied.map db.stored).Perm evs := by
    have hnodup : (evs.map (·.id)).Nodup := by
      rw [hd.ids]
      exact (orderedLog_ids db.events).nodup_iff.mpr db.events.keys_nodup
    refine (List.perm_ext_iff_of_nodup (List.Nodup.of_map _ (hmap ▸ honce.once)) (hnodup.of_map _)).mpr fun a => ?_
    constructor
    · intro ha
      obtain ⟨ev, hev, rfl⟩ := List.mem_map.mp ha
      obtain ⟨row, hrow⟩ := hrow ev hev
      obtain ⟨a, ha, hda⟩ := hd.exists_mem (mem_orderedLog.mpr (show db.events.lookup (ev.id, row).1 = _ from hrow))
      rwa [Except.ok.inj ((h.stored hids hev hrow).1.symm.trans hda)]
    · intro ha
      obtain ⟨r, hr, hda⟩ := hd.mem ha
      obtain ⟨ev, hev, hread⟩ := hread r hr
      rw [Except.ok.inj (hda.symm.trans hread)]
      exact List.mem_map_of_mem hev
  have hexchange : ∀ a b, [a, b].Sublist (db.applied.map db.stored) → [b, a].Sublist evs → Exchangeable a b := by
    intro a b hab hba
    obtain ⟨r, hr, ha⟩ := hd.mem (hba.subset (by simp : a ∈ [b, a]))
    obtain ⟨r', hr', hb⟩ := hd.mem (hba.subset (by simp : b ∈ [b, a]))
    have hids := hab.map (·.id)
    have hids' := hba.map (·.id)
    rw [hmap, List.map_cons, List.map_cons, List.map_nil, toDecodedEvent_id ha, toDecodedEvent_id hb] at hids
    rw [hd.ids, List.map_cons, List.map_cons, List.map_nil, toDecodedEvent_id ha, toDecodedEvent_id hb] at hids'
    exact hlate r (Keyset.mem_ordered.mp hr) r' (Keyset.mem_ordered.mp hr') hids
      (logKey_lt_of_sublist hr' hr hids') a b ha hb
  obtain ⟨t, ht, hsame⟩ := foldTables_reorder hperm hexchange fits_empty (foldTables_alike halike honce.included)
  exact ⟨evs, t, hd, ht, hsame⟩

end

theorem runAll_run {Meets : Command → Db → Prop} (cs : List Command) (h : ∀ c ∈ cs, ∀ db, Meets c db)
    (w : World ρ) : Run E Meets w (runAll E cs w) := by
  induction cs using List.reverseRecOn with
  | nil => exact .refl w
  | append_singleton cs c ih =>
    exact run_snoc c (ih fun c hc => h c (by simp [hc])) (h c (by simp) _) rfl

/-- **Replays come to what a rebuild builds**, in every run of ingests and replays over a list of events
that leaves none of them unfolded, if every two events that the run applied against the order of the
log can be exchanged. -/
theorem replays_converge {ρ' : Type} {E : Environment ρ} (E' : Environment ρ') {log : List EventResponse}
    (hids : (log.map (·.id)).Nodup) {w w' : World ρ} (hw : w.db = Db.empty)
    (hrun : Run E (Command.Draws log) w w') (hall : AllFolded w'.db) (hlate : LateExchangeable w'.db)
    (batchSize : Option Int) {v : World ρ'} (hv : v.db = w'.db) :
    w'.db.tables.SameRows (reindexFromEventLog E' batchSize v).2.db.tables ∧
      (E'.Healthy → (reindexFromEventLog E' batchSize v).1 = .done (Table.rows w'.db.events).length) := by
  have honce : ExactlyOnce w'.db := by
    refine exactlyOnce_of_run (Run.mono (fun c db hc => ?_) hrun) hw
    cases c with
    | reindexFromEventLog batchSize => exact hc.elim
    | _ => trivial
  obtain ⟨evs, t, hd, hf, hsame⟩ := (drawnFrom_of_run hrun hw).fold_log hids honce hall hlate
  obtain ⟨htables, hdone⟩ := rebuild_of_decode E' hd hf honce.unread batchSize v hv
  refine ⟨?_, hdone⟩
  rcases htables with h | h
  · rw [h]
    exact sameRows_iff.mpr (Reorder.View.Same.refl view _)
  · rwa [h]

/-- A member joins and then stakes twice. -/
def twoStakes : List EventResponse :=
  [.published "0001" 1 "joined" [.str "GA", .bigint 100],
    .published "0002" 2 "staked" [.str "GA", .bigint 10, .bigint 10],
    .published "0003" 3 "staked" [.str "GA", .bigint 10, .bigint 20]]

/-- A loan is requested and then voted on twice. -/
def twoVotes : List EventResponse :=
  [.published "0001" 1 "loan_req" [.bigint 7, .str "GA", .bigint 100, .bigint 110],
    .published "0002" 2 "loan_vote" [.bigint 7, .str "GB", .bool true, .bigint 3],
    .published "0003" 3 "loan_vote" [.bigint 7, .str "GC", .bool false, .bigint 2]]

/-- The connection drops during the fold of the second event. -/
def dropsOnce : Environment Nat :=
  .scripted fun n => if n = 5 then .raised (.error "connection reset") else .done ()

/-- Every event of the list on its own, and then a replay of the second. -/
def lateSecond (log : List EventResponse) : List Command :=
  log.map (.ingestEventQuarantined · 0) ++ [.replayFailedEvent "0002" .resolved]

theorem lateSecond_run (log : List EventResponse) :
    Run dropsOnce (Command.Draws log) (freshWorld 0) (runAll dropsOnce (lateSecond log) (freshWorld 0)) := by
  refine runAll_run _ (fun c hc db => ?_) _
  rcases List.mem_append.mp hc with hc | hc
  · obtain ⟨raw, hraw, rfl⟩ := List.mem_map.mp hc
    exact hraw
  · obtain rfl := List.mem_singleton.mp hc
    trivial

/-- Votes that were counted in another order. -/
theorem replays_converge_two_votes :
    (runAll dropsOnce (lateSecond twoVotes) (freshWorld 0)).db.applied.map (·.id) = ["0001", "0003", "0002"] ∧
    (runAll dropsOnce (lateSecond twoVotes) (freshWorld 0)).db.tables.SameRows
      (reindexFromEventLog .healthy none (runAll dropsOnce (lateSecond twoVotes) (freshWorld 0))).2.db.tables := by
  refine ⟨by decide +kernel, ?_⟩
  refine (replays_converge .healthy (by decide) rfl (lateSecond_run twoVotes) (by decide +kernel) ?_ none rfl).1
  have hpairs : ∀ r ∈ Table.rows (runAll dropsOnce (lateSecond twoVotes) (freshWorld 0)).db.events,
      ∀ r' ∈ Table.rows (runAll dropsOnce (lateSecond twoVotes) (freshWorld 0)).db.events,
      [r.1, r'.1].Sublist ((runAll dropsOnce (lateSecond twoVotes) (freshWorld 0)).db.applied.map (·.id)) →
      logKey r' < logKey r → r.1 ≠ r'.1 ∧ r.2.symbol = "loan_vote" ∧ r'.2.symbol = "loan_vote" := by
    decide +kernel
  intro r hr r' hr' hsub hlt a b ha hb
  obtain ⟨hne, hsymbol, hsymbol'⟩ := hpairs r hr r' hr' hsub hlt
  refine exchangeable_of_loan_votes ?_ ?_ ?_
  · rwa [toDecodedEvent_id ha, toDecodedEvent_id hb]
  · rw [toDecodedEvent_symbol ha, hsymbol]
    rfl
  · rw [toDecodedEvent_symbol hb, hsymbol']
    rfl

/-- The first of two stakes is folded again after the second: the replay succeeds and leaves the older
stake, where the rebuild has the newer one. -/
theorem late_replay_restores_an_old_stake :
    (twoStakes.Pairwise fun a b => toLex (a.ledger, a.id) ≤ toLex (b.ledger, b.id)) ∧
    (replayFailedEvent dropsOnce "0002" .resolved
      (runAll dropsOnce (twoStakes.map (.ingestEventQuarantined · 0)) (freshWorld 0))).1 = .done .replayed ∧
    AllFolded (runAll dropsOnce (lateSecond twoStakes) (freshWorld 0)).db ∧
    ((runAll dropsOnce (lateSecond twoStakes) (freshWorld 0)).db.tables.members.lookup "GA").map (·.stake) = some 10 ∧
    ((reindexFromEventLog .healthy none (runAll dropsOnce (lateSecond twoStakes) (freshWorld 0))).2.db.tables.members.lookup
      "GA").map (·.stake) = some 20 := by
  refine ⟨by decide +kernel, by decide +kernel, by decide +kernel, by decide +kernel, by decide +kernel⟩

end OurDao
