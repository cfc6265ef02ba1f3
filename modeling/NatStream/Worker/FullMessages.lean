import NatStream.Worker.Bookkeeping
import NatStream.Worker.Invariants
import NatStream.Worker.Packing

namespace NatStream.Worker.FullMessages

open NatStream.Events NatStream.Export.Templates NatStream.Export.Encoders
open NatStream.Export.Resolved NatStream.Export.Layout NatStream.Export.Filling
open NatStream.Export.Messages NatStream.Export.Capacity NatStream.Netlink.Datagrams
open NatStream.Worker.EventLoop NatStream.Worker.Ledger NatStream.Worker.Refinement
open NatStream.Worker.Iterations NatStream.Worker.Invariants NatStream.Worker.Exports
open NatStream.Worker.Bookkeeping NatStream.Worker.Packing NatStream.Lib.Tapes

variable {world : World} {config : Config}

/-- Every message that was sent because it was full counts the load of its
kind: one for messages with the template, one for those without. -/
def FullCounts (load : Bool → Nat) (outbox : List Sent) : Prop :=
  ∀ m ∈ outbox, m.reason = .full → m.count.toNat = load m.template

/-- The messages that were sent because they were full also hold as many
records as they count. -/
def FullLoads (world : World) (config : Config) (load : Bool → Nat) (outbox : List Sent) : Prop :=
  ∀ m ∈ outbox, m.reason = .full →
    m.count.toNat = load m.template ∧ ∃ events, Carried world config m events

theorem FullCounts.append {load : Bool → Nat} {outbox : List Sent} (h : FullCounts load outbox)
    {m : Sent} (hm : m.reason = .full → m.count.toNat = load m.template) :
    FullCounts load (outbox ++ [m]) := by
  intro m' hin
  obtain hold | hnew := List.mem_append.mp hin
  · exact h m' hold
  · rw [List.mem_singleton.mp hnew]
    exact hm

theorem FullCounts.loads {load : Bool → Nat} {w : State} {b : Books ConntrackEvent}
    (h : FullCounts load w.outbox) (hb : Agrees world config w b) :
    FullLoads world config load w.outbox := by
  intro m hm hreason
  refine ⟨h m hm hreason, ?_⟩
  have hc := carried_of_agrees hb
  obtain ⟨i, hi, rfl⟩ := List.getElem_of_mem hm
  exact ⟨_, hc.get hi (hc.length_eq ▸ hi)⟩

theorem flushMessage_counts {w w' : State} {flag : Bool} {events : List ConntrackEvent}
    {reason : Reason} (hh : Holds w.encoder config.template flag events)
    (hfull : reason = .full → ¬ hasRoom config.template flag events.length)
    (hf : flushMessage world reason w = some w')
    (h : FullCounts (capacity config.template) w.outbox) :
    FullCounts (capacity config.template) w'.outbox := by
  have hu := usable_template config
  rw [flushMessage] at hf
  split at hf
  · cases hf
    exact h
  · obtain ⟨e', hfin, -⟩ := finalize_kept hu hh
      ⟨world.systemTime w.outbox.length, world.clock (settleTemplate world w).ticks⟩
    rw [settleTemplate_eq] at hf hfin
    simp only [hfin, Option.bind_eq_bind, Option.bind_some, Option.pure_def, Option.some.injEq] at hf
    cases hf
    apply h.append
    intro hreason
    have hcap := hfull hreason
    rw [hasRoom_iff_lt hu, Nat.not_lt] at hcap
    rw [hh.included, hh.count]
    exact Nat.le_antisymm (length_le_capacity hu hh) hcap

theorem fullCounts_stable (world : World) (config : Config) :
    Stable world config fun w => FullCounts (capacity config.template) w.outbox where
  congr h hout _ _ := by
    rw [hout]
    exact h
  flush := flushMessage_counts
  report k nlDrops h := by
    rw [reportStats]
    split <;> exact h

theorem runs_counts {w : State} {nlDrops : Nat}
    (hr : Runs world config (startWorker world config nlDrops) w) :
    FullCounts (capacity config.template) w.outbox := by
  apply runs_keeps (fullCounts_stable world config) hr
  intro m hm
  cases hm

theorem ends_agrees {b : Books ConntrackEvent} {outcome : Outcome}
    (h : Ends world config b outcome) : Agrees world config (finalState outcome) b := by
  cases h with
  | again hi => exact hi.mirrors.agrees
  | stopped hf => exact hf.agrees
  | failed hi => exact hi.mirrors.agrees

/-- The capacity that the template reports, the one its sizes allow and the
one the encoder enforces are the same, and full messages carry exactly that. -/
theorem capacities_agree {p : Protocol} {profile : Profile} {width : CounterWidth} {id : UInt16}
    {t : Template} (h : resolve p profile width id = .ok t) :
    ∃ load : Bool → Nat, maxRecordsPerMessage t = some (load true) ∧
      IsGreatest {n | headerLen t.protocol + dataSetSize t n ≤ maxMsgSize} (load false) ∧
      (∀ flag, 1 ≤ load flag) ∧
      (∀ e : Encoder, e.template = t → ∀ flag offered, ∃ e₀ e₁, beginMessage e flag = some e₀ ∧
        offer e₀ offered = some (e₁, answers (load flag) offered.length)) ∧
      ∀ world config nlDrops w, config.template = t →
        Runs world config (startWorker world config nlDrops) w →
        FullLoads world config load w.outbox ∧
          ∀ turn outcome, iterate world config w turn = some outcome →
            FullLoads world config load (finalState outcome).outbox := by
  refine ⟨capacity t, maxRecordsPerMessage_eq h, capacity_isGreatest h false,
    fun flag => (capacity_tight h flag).1, ?_, ?_⟩
  · rintro e rfl flag offered
    obtain ⟨e₀, e₁, hb, ho, -⟩ := begin_offer (resolve_usable h) flag offered
    exact ⟨e₀, e₁, hb, ho⟩
  · rintro world config nlDrops w rfl hr
    obtain ⟨b, -, hi⟩ := runs_inStep (startWorker_inStep world config nlDrops) hr
    refine ⟨(runs_counts hr).loads hi.mirrors.agrees, fun turn outcome ht => ?_⟩
    obtain ⟨b', -, hends⟩ := iterate_ends hi ht
    have hkept := iterate_keeps (fullCounts_stable world config) hi ht (runs_counts hr)
    exact hkept.loads (ends_agrees hends)

/-- With a message in progress, a turn that reads sends only full messages. -/
theorem reading_takes {w : State} {nlDrops : Nat} {batches : List Batch} {outcome : Outcome}
    (ha : w.messageActive = true)
    (h : iterate world config w ⟨nlDrops, .returned [] true batches⟩ = some outcome) :
    ∃ w' ds, outcome = .again w' ∧
      Takes (fun reason => reason = .full) (checkTimers world config nlDrops w) ds w' := by
  obtain ⟨w₁, timeout, w₂, hl, hp, hpoll⟩ := iterate_eq_some h
  have hactive : (checkTimers world config nlDrops w).messageActive = true := by
    rw [checkTimers, reportStats_messageActive]
    exact ha
  rw [loopTop, sendTemplate, hactive, Bool.not_true, Bool.and_false] at hl
  cases hl
  obtain ⟨w', hw', rfl⟩ := Option.map_eq_some_iff.mp hpoll
  obtain ⟨ds, hds⟩ := drain_takes (R := fun reason => reason = .full) rfl hw'
  exact ⟨w', [] ++ ds, rfl, (pollTimeout_takes hp).trans hds⟩

theorem reading_isSome {nlDrops : Nat} {turns : List Turn} {w : State}
    (hr : runTurns world config (startWorker world config nlDrops) turns = some w)
    (ha : w.messageActive = true) (nl : Nat) (answer : PollAnswer) :
    ∃ outcome, iterate world config w ⟨nl, answer⟩ = some outcome := by
  have hruns := Runs.refl.turns hr
  obtain ⟨b, -, hi⟩ := runs_inStep (startWorker_inStep world config nlDrops) hruns
  apply Option.isSome_iff_exists.mp
  apply iterate_isSome ⟨nlDrops, hruns⟩
  intro w₁ hl
  obtain ⟨w₁', hl', hactive, -⟩ := loopTop_inStep hi nl
  cases hl.symm.trans hl'
  rw [pollTimeout, hactive, ha]
  rfl

theorem filled_has_data {tape : Tape ConntrackEvent} {w : State} {b : Books ConntrackEvent}
    (h : Follows world config tape w b)
    (hmany : ∀ flag, capacity config.template flag < tape.countP Option.isSome) :
    dataMessages w ≠ [] := by
  intro hnone
  have hshows := shows_of_agrees h.inStep.mirrors.agrees
  rw [hnone] at hshows
  have hpacks := h.packs
  rw [List.forall₂_nil_left_iff.mp hshows] at hpacks
  have hall := hpacks.waiting_all
  have hpending := pending_of_inProgress h.inStep.mirrors.current
  rw [Pending] at hpending
  split at hpending
  · obtain ⟨flag, hh⟩ := hpending
    have hle := length_le_capacity (usable_template config) hh
    have hlt := hmany flag
    omega
  · have hlt := hmany false
    rw [hall, hpending] at hlt
    exact absurd hlt (Nat.not_lt_zero _)

/-- A worker that reads more than a message holds sends a full one. -/
theorem reading_fills {nlDrops : Nat} {turns : List Turn} {w : State} {t : Turn}
    {batches : List Batch}
    (hr : runTurns world config (startWorker world config nlDrops) turns = some w)
    (ha : w.messageActive = true) (hnone : dataMessages w = [])
    (ht : t.answer = .returned [] true batches)
    (hmany : ∀ flag, capacity config.template flag <
      (tapeOf world (turns ++ [t])).countP Option.isSome) :
    ∃ w' m, runTurns world config (startWorker world config nlDrops) (turns ++ [t]) = some w' ∧
      m ∈ w'.outbox ∧ m.reason = .full := by
  obtain ⟨nl, answer⟩ := t
  cases ht
  obtain ⟨outcome, hout⟩ := reading_isSome hr ha nl (.returned [] true batches)
  obtain ⟨w', ds, rfl, htakes⟩ := reading_takes ha hout
  have hrun : runTurns world config (startWorker world config nlDrops)
      (turns ++ [⟨nl, .returned [] true batches⟩]) = some w' := by
    rw [runTurns, List.foldlM_append, ← runTurns, hr]
    simp [hout, resume]
  obtain ⟨b, hb⟩ := run_follows hrun
  obtain ⟨new, ho, -, hreason⟩ := htakes.posted
  rw [(checkTimers_counts world config w nl).2.1] at ho
  obtain ⟨m, hm⟩ := List.exists_mem_of_ne_nil _ (filled_has_data hb hmany)
  rw [dataMessages, List.mem_filter, ho, List.mem_append] at hm
  obtain ⟨hold | hnew, hcount⟩ := hm
  · have hmem : m ∈ dataMessages w := List.mem_filter.mpr ⟨hold, hcount⟩
    rw [hnone] at hmem
    cases hmem
  · exact ⟨w', m, hrun, ho ▸ List.mem_append_right _ hnew, hreason m hnew⟩

def threeBatches : Turn :=
  ⟨0, .returned [] true (List.replicate 3 (batchOf (List.replicate 16 snatDatagram)))⟩

theorem capacities_agree_sample :
    resolve .ipfix .natSource .four 300 = .ok sampleConfig.template ∧
    maxRecordsPerMessage sampleConfig.template = some 38 ∧
    ∃ load : Bool → Nat, maxRecordsPerMessage sampleConfig.template = some (load true) ∧
      1 ≤ load false ∧ ∃ w m,
        Runs sampleWorld sampleConfig (startWorker sampleWorld sampleConfig 0) w ∧
        m ∈ w.outbox ∧ m.reason = .full ∧ m.count.toNat = load m.template ∧
        ∃ events, Carried sampleWorld sampleConfig m events := by
  have hres : resolve .ipfix .natSource .four 300 = .ok sampleConfig.template := by
    decide +kernel
  have heval : (runTurns sampleWorld sampleConfig (startWorker sampleWorld sampleConfig 0)
      (sampleTurns.take 1)).any (fun w => w.messageActive = true ∧ dataMessages w = []) = true := by
    decide +kernel
  have hmany : ∀ flag, capacity sampleConfig.template flag <
      (tapeOf sampleWorld (sampleTurns.take 1 ++ [threeBatches])).countP Option.isSome := by
    decide +kernel
  obtain ⟨w, hw, hp⟩ := (Option.any_eq_true _ _).mp heval
  obtain ⟨ha, hnone⟩ := of_decide_eq_true hp
  obtain ⟨w', m, hw', hm, hreason⟩ := reading_fills hw ha hnone rfl hmany
  have hruns := Runs.refl.turns hw'
  obtain ⟨load, hmax, -, hpos, -, hall⟩ := capacities_agree hres
  obtain ⟨hcount, hcarried⟩ := (hall sampleWorld sampleConfig 0 w' rfl hruns).1 m hm hreason
  exact ⟨hres, by decide +kernel, load, hmax, hpos false, w', m, hruns, hm, hreason, hcount, hcarried⟩

end NatStream.Worker.FullMessages
