import Mathlib.Data.List.ProdSigma
import NatStream.Worker.Exports

namespace NatStream.Worker.Clamping

open NatStream.Lib.Bytes NatStream.Lib.ByteBuffer NatStream.Events NatStream.Export.Templates
open NatStream.Export.Records NatStream.Export.Resolved NatStream.Netlink.Parsers
open NatStream.Netlink.Builders NatStream.Netlink.BuildParse
open NatStream.Worker.EventLoop NatStream.Worker.Ledger NatStream.Worker.Refinement
open NatStream.Worker.Iterations NatStream.Worker.Exports

variable {world : World} {config : Config}

/-- The pairs of a record and a counter field that cannot hold its value. -/
def overflowing (fields : List ResolvedField) (records : List ConntrackEvent) : Nat :=
  (records ×ˢ fields).countP fun p => exceeds p.1 p.2

theorem overflowing_eq_sum (fields : List ResolvedField) (records : List ConntrackEvent) :
    overflowing fields records = (records.map fun event => fields.countP (exceeds event)).sum := by
  rw [overflowing]
  induction records with
  | nil => rfl
  | cons event records ih =>
    rw [List.product_cons, List.countP_append, List.countP_map, ih, List.map_cons, List.sum_cons]
    rfl

theorem saturatedCounters_eq {w : State} {b : Books ConntrackEvent} (h : Agrees world config w b) :
    w.encoder.saturatedCounters = overflowing config.template.fields b.taken := by
  rw [h.clamped, overflowing_eq_sum]

theorem counterFields_le (p : Protocol) (profile : Profile) (width : CounterWidth) :
    (resolvedFields p profile width).countP (fun f => naturalLen f.source = none) ≤ 4 := by
  cases p <;> cases profile <;> cases width <;> decide

theorem isNone_of_exceeds {event : ConntrackEvent} {f : ResolvedField}
    (h : exceeds event f = true) : naturalLen f.source = none := by
  obtain ⟨id, pen, length, source⟩ := f
  cases source <;> first | rfl | cases h

theorem countP_exceeds_le {p : Protocol} {profile : Profile} {width : CounterWidth} {id : UInt16}
    {t : Template} (h : resolve p profile width id = .ok t) (event : ConntrackEvent) :
    t.fields.countP (exceeds event) ≤ 4 := by
  obtain ⟨-, rfl⟩ := resolve_ok h
  refine Nat.le_trans ?_ (counterFields_le p profile width)
  apply List.countP_mono_left
  intro f _ hf
  exact decide_eq_true (isNone_of_exceeds hf)

theorem overflowing_le {p : Protocol} {profile : Profile} {width : CounterWidth} {id : UInt16}
    {t : Template} (h : resolve p profile width id = .ok t) (records : List ConntrackEvent) :
    overflowing t.fields records ≤ 4 * records.length := by
  rw [overflowing_eq_sum]
  induction records with
  | nil => exact Nat.le_refl 0
  | cons event records ih =>
    have hevent := countP_exceeds_le h event
    rw [List.map_cons, List.sum_cons, List.length_cons]
    omega

/-- The program keeps the count in 64 bits, which hold it for as long as fewer
than `2 ^ 62` records have been exported. -/
theorem saturatedCounters_lt {nlDrops : Nat} {w : State} {reports : List (List ConntrackEvent)}
    (h : Runs world config (startWorker world config nlDrops) w)
    (hp : parsed world w.received = some reports) (hlen : reports.flatten.length < 2 ^ 62) :
    w.encoder.saturatedCounters < 2 ^ 64 := by
  obtain ⟨b, reports', hi, hp', htaken, -⟩ := runs_accounted h
  obtain rfl : reports = reports' := Option.some.inj (hp.symm.trans hp')
  obtain ⟨p, profile, width, id, hres⟩ := config.resolved
  have hle := overflowing_le hres b.taken
  rw [saturatedCounters_eq hi.mirrors.agrees]
  rw [htaken] at hle ⊢
  omega

/-- Every clamped counter is counted once: by the writer of a record, and over
a whole run for every record exported, also one that was refused at first. -/
theorem clamp_accounting_exact (world : World) (config : Config) (nlDrops : Nat) {w : State}
    (h : Runs world config (startWorker world config nlDrops) w) :
    (∀ (n : Nat) (c : Cursor n) (fields : List ResolvedField) (event : ConntrackEvent),
      (∀ f ∈ fields, FieldFits f) → c.offset + totalLength fields ≤ n →
      ∃ c', writeRecord c fields event = some (c', fields.countP (exceeds event)) ∧
        Writes c (recordBytes fields event) c') ∧
    (∃ finalized active reports, List.Forall₂ (Carried world config) w.outbox finalized ∧
      Pending config w active ∧ parsed world w.received = some reports ∧
      finalized.flatten ++ active = reports.flatten ∧
      w.encoder.saturatedCounters =
        overflowing config.template.fields (finalized.flatten ++ active)) ∧
    ∀ t w', iterate world config w t = some (.stopped w') →
      ∃ finalized reports, List.Forall₂ (Carried world config) w'.outbox finalized ∧
        parsed world w'.received = some reports ∧ finalized.flatten = reports.flatten ∧
        w'.encoder.saturatedCounters = overflowing config.template.fields finalized.flatten := by
  refine ⟨fun n c fields event hfit hroom => writeRecord_writes c event hfit hroom, ?_, ?_⟩
  · obtain ⟨b, reports, hi, hp, htaken, hsum⟩ := runs_accounted h
    refine ⟨_, filling b, reports, carried_of_agrees hi.mirrors.agrees,
      pending_of_inProgress hi.mirrors.current, hp, hsum, ?_⟩
    rw [saturatedCounters_eq hi.mirrors.agrees, htaken, hsum]
  · intro t w' ht
    obtain ⟨b, reports, hg, hp, htaken, hsum⟩ := stopped_accounted h ht
    refine ⟨_, reports, carried_of_agrees hg, hp, hsum, ?_⟩
    rw [saturatedCounters_eq hg, htaken, hsum]

def hugeMessage : Option (List UInt8) :=
  sessionMessage .little { snatSession with
    origCounters := some ⟨5000000000, 7⟩
    replyCounters := none }

def hugeDatagram : Datagram := ⟨0, hugeMessage.getD []⟩

/-- A session whose byte count does not fit in four bytes, the flush of its
message, and a session whose counters all fit. -/
def hugeTurns : List Turn :=
  ⟨0, .returned [] true [⟨[hugeDatagram], by decide⟩]⟩ :: sampleTurns.tail

theorem clamp_accounting_exact_huge :
    ∃ w, runTurns sampleWorld sampleConfig (startWorker sampleWorld sampleConfig 0) hugeTurns =
        some w ∧ w.encoder.saturatedCounters = 1 ∧
      ∃ finalized active reports, List.Forall₂ (Carried sampleWorld sampleConfig) w.outbox finalized ∧
        Pending sampleConfig w active ∧ parsed sampleWorld w.received = some reports ∧
        finalized.flatten ++ active = reports.flatten ∧
        w.encoder.saturatedCounters =
          overflowing sampleConfig.template.fields (finalized.flatten ++ active) := by
  have heval : (runTurns sampleWorld sampleConfig (startWorker sampleWorld sampleConfig 0)
      hugeTurns).any (fun w => w.encoder.saturatedCounters = 1) = true := by
    decide +kernel
  obtain ⟨w, hw, hp⟩ := (Option.any_eq_true _ _).mp heval
  exact ⟨w, hw, of_decide_eq_true hp,
    (clamp_accounting_exact sampleWorld sampleConfig 0 (Runs.refl.turns hw)).2.1⟩

end NatStream.Worker.Clamping
