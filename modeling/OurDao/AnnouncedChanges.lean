import OurDao.MemberCaches
import OurDao.Proposals

/-!
# Announced changes

`applyEvent` returns the channels that `channelMap` has for the symbol, whatever the handler
did. Each table has a channel, and every symbol whose handler writes it is on that channel,
but for the members that the loan events write: none of these is on the members channel.
-/

namespace OurDao

open Sql Faults

/-- Some row is not what it was. -/
def Changes {κ ν : Type} [DecidableEq κ] (before after : Table κ ν) : Prop := ∃ k, after.lookup k ≠ before.lookup k

/-- Every table that changed is on one of the channels. -/
structure Announced (channels : List StreamChannel) (t t' : Tables) : Prop where
  members : Changes t.members t'.members → .members ∈ channels
  loan_proposals : Changes t.loan_proposals t'.loan_proposals → .loan_proposals ∈ channels
  loans : Changes t.loans t'.loans → .loans ∈ channels
  treasury_proposals : Changes t.treasury_proposals t'.treasury_proposals → .treasury_proposals ∈ channels
  interest : Changes t.interest_distributions t'.interest_distributions → .interest ∈ channels

/-- The borrower that a loan event names, where it is a member. -/
def borrowerRow (ev : DecodedEvent) (t : Tables) : Option MemberRow :=
  (requireAddr ev "borrower").toOption.bind t.members.lookup

/-- A loan event with nothing to write about its borrower: the flag is as the event sets it, or no default is due. -/
def SparesBorrower (ev : DecodedEvent) (t : Tables) : Prop :=
  match EventSymbol.ofSymbol? ev.symbol with
  | some .loan_appr => ∀ row ∈ borrowerRow ev t, row.has_active_loan = true
  | some .loan_rpy => ∀ outstanding ∈ (requireAmount ev "outstanding").toOption, outstanding.text = "0" →
      ∀ row ∈ borrowerRow ev t, row.has_active_loan = false
  | some .loan_dflt => ∀ id ∈ (requireId ev "loan_id").toOption, (t.standingLoan id).isSome → borrowerRow ev t = none
  | _ => True

/-- The channels of each symbol of the catalog. -/
def symbolChannels : EventSymbol → List StreamChannel
  | .joined | .exited | .claimed | .staked | .unstaked | .name_reg => [.members]
  | .loan_req | .loan_edit | .loan_vote | .loan_wait | .loan_rej | .loan_exp => [.loan_proposals]
  | .loan_appr => [.loan_proposals, .loans]
  | .loan_rpy | .loan_dflt => [.loans]
  | .tre_prop | .tre_vote | .committed | .revealed | .tre_exec | .tre_wait | .tre_rej => [.treasury_proposals]
  | .interest => [.interest]
  | .doc_attn | .init | .admin_add | .admin_rem | .threshold | .policy | .paused | .unpaused => []

section

variable {ev : DecodedEvent} {t t' : Tables} {channels : List StreamChannel} {s : EventSymbol}

theorem channelsOf_symbol (hs : EventSymbol.ofSymbol? ev.symbol = some s) : channelsOf ev = symbolChannels s := by
  obtain ⟨hlone, htext⟩ := text_of_symbol hs
  rw [channelsOf, hlone, if_neg (by simp)]
  unfold EventSymbol.ofString? at htext
  split at htext
  case h_32 => cases htext
  all_goals
    next hname =>
      cases htext
      rw [hname]
      rfl

theorem applyEvent_channels (h : applyEvent ev t = .ok (channels, t')) : channels = channelsOf ev := by
  rw [applyEvent] at h
  rcases hh : (EventSymbol.ofSymbol? ev.symbol).bind handlers with _ | handler <;> simp only [hh] at h
  · cases h
    rfl
  · obtain ⟨_, t₁, -, h⟩ := bind_eq_ok.mp h
    cases h
    rfl

theorem not_changes {κ ν : Type} [DecidableEq κ] (table : Table κ ν) : ¬Changes table table := fun ⟨_, h⟩ => h rfl

theorem changes_insert {κ ν : Type} [DecidableEq κ] {table : Table κ ν} {k : κ} {row : ν} :
    Changes table (table.insert k row) ↔ table.lookup k ≠ some row := by
  constructor
  · rintro ⟨k', h⟩ hrow
    by_cases hk : k' = k
    · subst hk
      rw [AList.lookup_insert, hrow] at h
      exact h rfl
    · rw [AList.lookup_insert_ne hk] at h
      exact h rfl
  · intro h
    refine ⟨k, ?_⟩
    rw [AList.lookup_insert]
    exact fun he => h he.symm

theorem loan_proposals_announced (h : applyEvent ev t = .ok (channels, t'))
    (hchange : Changes t.loan_proposals t'.loan_proposals) : .loan_proposals ∈ channels := by
  obtain ⟨id, hid⟩ := hchange
  have hkey : .loan id ∈ keys ev := by
    by_contra hkey
    exact hid ((applyEvent_local ev t channels t' h).1 (.loan id) hkey).1.symm
  obtain ⟨s, hs, hmem⟩ := (mem_keys (by simp)).mp hkey
  have hrun {handler : DecodedEvent → Sql Unit} (hh : handlers s = some handler) : handler ev t = .ok ((), t') :=
    (applyEvent_eq_ok hs hh).mp ⟨channels, h⟩
  rw [applyEvent_channels h, channelsOf_symbol hs]
  cases s <;> simp only [symbolEntities, List.mem_append, not_loan_memberNamed, mem_loanNamed_iff,
    not_loan_treasuryNamed, or_false, List.not_mem_nil] at hmem
  case loan_rpy => exact absurd (by rw [loan_rpy_leaves (hrun rfl)]) hid
  case loan_dflt => exact absurd (by rw [loan_dflt_leaves (hrun rfl)]) hid
  all_goals simp [symbolChannels]

theorem treasury_proposals_announced (h : applyEvent ev t = .ok (channels, t'))
    (hchange : Changes t.treasury_proposals t'.treasury_proposals) : .treasury_proposals ∈ channels := by
  obtain ⟨id, hid⟩ := hchange
  have hkey : .treasury id ∈ keys ev := by
    by_contra hkey
    exact hid ((applyEvent_local ev t channels t' h).1 (.treasury id) hkey).symm
  obtain ⟨s, hs, hmem⟩ := (mem_keys (by simp)).mp hkey
  rw [applyEvent_channels h, channelsOf_symbol hs]
  cases s <;> simp only [symbolEntities, List.mem_append, not_treasury_memberNamed, mem_treasuryNamed_iff,
    not_treasury_loanNamed, or_false, List.not_mem_nil] at hmem
  all_goals simp [symbolChannels]

theorem loans_announced (h : applyEvent ev t = .ok (channels, t')) (hchange : Changes t.loans t'.loans) :
    .loans ∈ channels := by
  rcases applyEvent_loans h with hsame | ⟨w, row, hwrite, -⟩
  · rw [hsame] at hchange
    exact absurd hchange (not_changes _)
  · rw [applyEvent_channels h]
    unfold loanWrite at hwrite
    split at hwrite
    case h_4 => cases hwrite
    all_goals
      next hs =>
        rw [channelsOf_symbol hs]
        simp [symbolChannels]

theorem interest_announced (h : applyEvent ev t = .ok (channels, t'))
    (hchange : Changes t.interest_distributions t'.interest_distributions) : .interest ∈ channels := by
  rcases applyEvent_interest h with hsame | ⟨hs, -⟩
  · rw [hsame] at hchange
    exact absurd hchange (not_changes _)
  · rw [applyEvent_channels h, channelsOf_symbol hs]
    simp [symbolChannels]

/-- The member is written by what `memberWrite` says of it. -/
theorem changes_members (h : applyEvent ev t = .ok (channels, t')) :
    Changes t.members t'.members ↔ ∃ w, memberWrite ev t = some w ∧ t.members.lookup w.1 ≠ some w.2 := by
  rw [applyEvent_members h, membersAfter]
  rcases memberWrite ev t with _ | w
  · simpa using not_changes t.members
  · simpa using changes_insert

theorem toOption_eq_some {α : Type} {x : Except String α} {a : α} : x.toOption = some a ↔ x = .ok a := by
  cases x <;> simp [Except.toOption]

theorem borrowerRow_eq_some {row : MemberRow} : borrowerRow ev t = some row ↔
    ∃ borrower, requireAddr ev "borrower" = .ok borrower ∧ t.members.lookup borrower = some row := by
  simp only [borrowerRow, Option.bind_eq_some_iff, toOption_eq_some]

/-- The borrower's row is written, with the flag set. -/
def SetsFlag (ev : DecodedEvent) (t : Tables) (flag : Bool) (w : String × MemberRow) : Prop :=
  requireAddr ev "borrower" = .ok w.1 ∧
    ∃ row, t.members.lookup w.1 = some row ∧ w.2 = { row with has_active_loan := flag }

/-- The write of an event that sets the flag of its borrower. -/
theorem flag_changes {flag : Bool} (hwrite : ∀ w, memberWrite ev t = some w ↔ SetsFlag ev t flag w) :
    (∃ w, memberWrite ev t = some w ∧ t.members.lookup w.1 ≠ some w.2) ↔
      ¬∀ row ∈ borrowerRow ev t, row.has_active_loan = flag := by
  constructor
  · rintro ⟨w, hw, hne⟩ hall
    obtain ⟨hb, row, hrow, hset⟩ := (hwrite w).mp hw
    have hflag := hall row (borrowerRow_eq_some.mpr ⟨w.1, hb, hrow⟩)
    apply hne
    rw [hrow, hset, ← hflag]
  · intro hnot
    push Not at hnot
    obtain ⟨row, hrow, hflag⟩ := hnot
    obtain ⟨borrower, hb, hlookup⟩ := borrowerRow_eq_some.mp hrow
    refine ⟨(borrower, { row with has_active_loan := flag }), (hwrite _).mpr ⟨hb, row, hlookup, rfl⟩, ?_⟩
    intro hsame
    rw [hlookup] at hsame
    exact hflag (congrArg MemberRow.has_active_loan (Option.some.inj hsame))

theorem loan_appr_changes (hs : EventSymbol.ofSymbol? ev.symbol = some .loan_appr) :
    (∃ w, memberWrite ev t = some w ∧ t.members.lookup w.1 ≠ some w.2) ↔ ¬SparesBorrower ev t := by
  simp only [SparesBorrower, hs]
  refine flag_changes fun w => ?_
  simp only [memberWrite, hs, Option.bind_eq_bind, Option.bind_eq_some_iff, toOption_eq_some]
  constructor
  · rintro ⟨borrower, hb, row, hrow, ⟨⟩⟩
    exact ⟨hb, row, hrow, rfl⟩
  · rintro ⟨hb, row, hrow, hset⟩
    exact ⟨w.1, hb, row, hrow, by rw [← hset]; rfl⟩

theorem loan_rpy_changes (hs : EventSymbol.ofSymbol? ev.symbol = some .loan_rpy) {outstanding : Amount}
    (hout : requireAmount ev "outstanding" = .ok outstanding) :
    (∃ w, memberWrite ev t = some w ∧ t.members.lookup w.1 ≠ some w.2) ↔ ¬SparesBorrower ev t := by
  simp only [SparesBorrower, hs, hout, Except.toOption, Option.mem_some, forall_eq']
  by_cases hzero : outstanding.text = "0"
  · simp only [hzero, forall_true_left]
    refine flag_changes fun w => ?_
    simp only [memberWrite, hs, hout, Option.bind_eq_bind, Option.bind_eq_some_iff, toOption_eq_some]
    constructor
    · rintro ⟨borrower, hb, _, ⟨⟩, row, hrow, hset⟩
      rw [if_pos hzero] at hset
      cases hset
      exact ⟨hb, row, hrow, rfl⟩
    · rintro ⟨hb, row, hrow, hset⟩
      exact ⟨w.1, hb, outstanding, rfl, row, hrow, by rw [if_pos hzero, ← hset]⟩
  · simp only [hzero, false_implies, not_true_eq_false, iff_false, not_exists, not_and]
    intro w hw
    simp only [memberWrite, hs, hout, Option.bind_eq_bind, Option.bind_eq_some_iff, toOption_eq_some] at hw
    obtain ⟨borrower, -, _, ⟨⟩, row, -, hset⟩ := hw
    rw [if_neg hzero] at hset
    cases hset

theorem loan_dflt_changes (hs : EventSymbol.ofSymbol? ev.symbol = some .loan_dflt) {id : Int} {penalty : Amount}
    (hid : requireId ev "loan_id" = .ok id) (hpenalty : requireAmount ev "penalty" = .ok penalty) :
    (∃ w, memberWrite ev t = some w ∧ t.members.lookup w.1 ≠ some w.2) ↔ ¬SparesBorrower ev t := by
  simp only [SparesBorrower, hs, hid, Except.toOption, Option.mem_some, forall_eq']
  simp only [memberWrite, hs, hid, hpenalty, Option.bind_eq_bind, Option.bind_eq_some_iff, toOption_eq_some]
  constructor
  · rintro ⟨w, ⟨_, ⟨⟩, borrower, hb, _, ⟨⟩, loan, hloan, row, hrow, -⟩, -⟩ hspares
    have hnone := hspares (by rw [hloan]; rfl)
    have hsome := borrowerRow_eq_some.mpr ⟨borrower, hb, hrow⟩
    rw [hnone] at hsome
    cases hsome
  · intro hnot
    rw [Classical.not_imp] at hnot
    obtain ⟨loan, hloan⟩ := Option.isSome_iff_exists.mp hnot.1
    obtain ⟨row, hsome⟩ := Option.ne_none_iff_exists'.mp hnot.2
    obtain ⟨borrower, hb, hrow⟩ := borrowerRow_eq_some.mp hsome
    refine ⟨_, ⟨id, rfl, borrower, hb, penalty, rfl, loan, hloan, row, hrow, rfl⟩, fun hsame => ?_⟩
    rw [hrow] at hsame
    -- one default more than before
    have hcount := congrArg MemberRow.defaults_count (Option.some.inj hsame)
    dsimp only at hcount
    omega

/-- Off the members channel it is the loan events that write a member. -/
theorem members_announced_iff (h : applyEvent ev t = .ok (channels, t')) :
    (Changes t.members t'.members → .members ∈ channels) ↔ SparesBorrower ev t := by
  rw [changes_members h]
  rcases applyEvent_handler h with ⟨hnone, -⟩ | ⟨s, handler, hs, hh, hrun⟩
  · have hspares : SparesBorrower ev t := by
      unfold SparesBorrower
      split
      case h_1 hs | h_2 hs | h_3 hs => cases hnone _ hs
      case h_4 => trivial
    have hwrite : memberWrite ev t = none := by
      rcases hs : EventSymbol.ofSymbol? ev.symbol with _ | s
      · simp [memberWrite, hs]
      · have hh := hnone s hs
        cases s <;> cases hh <;> simp [memberWrite, hs]
    simp [hspares, hwrite]
  · rw [applyEvent_channels h, channelsOf_symbol hs]
    cases s <;> cases hh
    case inr.loan_appr.refl => simp [loan_appr_changes hs, symbolChannels]
    case inr.loan_rpy.refl =>
      obtain ⟨_, _, outstanding, ⟨-, -, -, hout⟩, -⟩ := loan_rpy_steps hrun
      simp [loan_rpy_changes hs hout, symbolChannels]
    case inr.loan_dflt.refl =>
      obtain ⟨id, _, penalty, ⟨hid, -, -, hpenalty⟩, -⟩ := loan_dflt_steps hrun
      simp [loan_dflt_changes hs hid hpenalty, symbolChannels]
    all_goals simp [symbolChannels, SparesBorrower, memberWrite, hs]

theorem announced_iff (h : applyEvent ev t = .ok (channels, t')) : Announced channels t t' ↔ SparesBorrower ev t := by
  rw [← members_announced_iff h]
  exact ⟨Announced.members, fun hmembers => ⟨hmembers, loan_proposals_announced h, loans_announced h,
    treasury_proposals_announced h, interest_announced h⟩⟩

end

/-- What holds at every step of a run from the empty tables. -/
def AtEveryStep (evs : List DecodedEvent)
    (P : DecodedEvent → Tables → List StreamChannel → Tables → Prop) : Prop :=
  ∀ past ev rest t channels t', evs = past ++ ev :: rest → foldTables past Tables.empty = .ok t →
    applyEvent ev t = .ok (channels, t') → P ev t channels t'

/-- **Every change of a run is announced exactly when its loan events leave their borrowers' rows alone.** -/
theorem changes_announced_iff (evs : List DecodedEvent) :
    (AtEveryStep evs fun _ t channels t' => Announced channels t t') ↔
      AtEveryStep evs fun ev t _ _ => SparesBorrower ev t := by
  constructor
  · intro hall past ev rest t channels t' hevs hpast h
    exact (announced_iff h).mp (hall past ev rest t channels t' hevs hpast h)
  · intro hall past ev rest t channels t' hevs hpast h
    exact (announced_iff h).mpr (hall past ev rest t channels t' hevs hpast h)

/-- A member joins, and is lent to. -/
def joins : DecodedEvent := MemberCache.publishedEvent "0001" 1 "joined" [("member", .str "GA"), ("fee", .str "100")]

def borrows : DecodedEvent := MemberCache.publishedEvent "0002" 2 "loan_appr"
  [("id", .num 1), ("borrower", .str "GA"), ("amount", .str "50"), ("due_time", .null)]

theorem loan_appr_keeps_the_members_silent :
    ¬AtEveryStep [joins, borrows] fun _ t channels t' => Announced channels t t' := by
  intro h
  have hpast : foldTables [joins] Tables.empty = .ok (foldedTables [joins]) :=
    foldTables_foldedTables (by decide +kernel)
  cases hrun : applyEvent borrows (foldedTables [joins]) with
  | error e =>
    have hok : (applyEvent borrows (foldedTables [joins])).toOption.isSome = true := by decide +kernel
    simp [hrun, Except.toOption] at hok
  | ok r =>
    have hspares : SparesBorrower borrows (foldedTables [joins]) :=
      (announced_iff hrun).mp (h [joins] borrows [] _ _ _ rfl hpast hrun)
    have hflag := hspares { joined_ledger := some 1, contribution := 100 } (by decide +kernel)
    cases hflag

end OurDao
