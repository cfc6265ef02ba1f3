import NatStream.Netlink.BuildParse
import NatStream.Worker.Iterations

namespace NatStream.Worker.Exports

open NatStream.Lib.Bytes NatStream.Events NatStream.Export.Templates NatStream.Export.Encoders
open NatStream.Export.Resolved NatStream.Export.Layout NatStream.Export.Messages
open NatStream.Netlink.Datagrams NatStream.Netlink.BuildParse
open NatStream.Worker.EventLoop NatStream.Worker.Ledger NatStream.Worker.Refinement
open NatStream.Worker.Iterations

variable {world : World} {config : Config}

/-- A finalized message holds the records of exactly these events. -/
def Carried (world : World) (config : Config) (m : Sent) (events : List ConntrackEvent) : Prop :=
  m.count.toNat = events.length ∧ ∃ sequence stamp, m.bytes =
    messageBytes config.template m.template events sequence config.domainId (world.clock 0) stamp

/-- The message in progress holds the records of exactly these events, none
if there is no message in progress. -/
def Pending (config : Config) (w : State) (events : List ConntrackEvent) : Prop :=
  if w.messageActive then ∃ flag, Holds w.encoder config.template flag events else events = []

/-- What the parser reports for the datagrams, one list for each. -/
def parsed (world : World) (received : List Datagram) : Option (List (List ConntrackEvent)) :=
  (processed received).mapM (collected world.endian)

theorem parsed_eq (world : World) (received : List Datagram) :
    ∃ reports, parsed world received = some reports ∧ reports.flatten = reported world received := by
  refine ⟨(processed received).map (events world.endian), ?_, ?_⟩
  · rw [parsed]
    induction processed received with
    | nil => rfl
    | cons bytes rest ih =>
      rw [List.mapM_cons, collected_eq, ih]
      rfl
  · rw [reported, List.flatMap_def]

theorem carried_of_agrees {w : State} {b : Books ConntrackEvent} (h : Agrees world config w b) :
    List.Forall₂ (Carried world config) w.outbox (b.sent.map Entry.records) := by
  rw [List.forall₂_map_right_iff]
  apply h.sent.imp
  intro m e hm
  obtain ⟨stamp, hb⟩ := hm.bytes
  exact ⟨hm.count, e.sequence, stamp, by rw [hb, hm.template]⟩

theorem pending_of_inProgress {w : State} {b : Books ConntrackEvent}
    (h : InProgress config w b.current) : Pending config w (filling b) := by
  rw [filling]
  generalize b.current = current at h
  cases h with
  | idle hidle => rw [Pending, if_neg (by rw [hidle]; decide)]; rfl
  | @active flag events hactive hh =>
    rw [Pending, if_pos hactive]
    exact ⟨flag, hh⟩

/-- What has been finalized and what is in progress make up what the ledger
took in, and that is what the parser reported. -/
theorem runs_accounted {nlDrops : Nat} {w : State}
    (h : Runs world config (startWorker world config nlDrops) w) :
    ∃ b reports, InStep world config w b ∧ parsed world w.received = some reports ∧
      b.taken = reports.flatten ∧
      (b.sent.map Entry.records).flatten ++ filling b = reports.flatten := by
  obtain ⟨b, hm, hi⟩ := runs_inStep (startWorker_inStep world config nlDrops) h
  obtain ⟨reports, hp, hr⟩ := parsed_eq world w.received
  have htaken : b.taken = reports.flatten := by rw [hr, hi.taken]
  refine ⟨b, reports, hi, hp, htaken, ?_⟩
  rw [← htaken, ← opening_accounted hm, List.flatMap_def]

/-- Once the worker has stopped nothing is in progress. -/
theorem stopped_accounted {nlDrops : Nat} {w w' : State} {t : Turn}
    (h : Runs world config (startWorker world config nlDrops) w)
    (ht : iterate world config w t = some (.stopped w')) :
    ∃ b reports, Agrees world config w' b ∧ parsed world w'.received = some reports ∧
      b.taken = reports.flatten ∧ (b.sent.map Entry.records).flatten = reports.flatten := by
  obtain ⟨b, hm, hf⟩ := stopped_finished (startWorker_inStep world config nlDrops) h ht
  obtain ⟨reports, hp, hr⟩ := parsed_eq world w'.received
  have htaken : b.taken = reports.flatten := by rw [hr, hf.taken]
  refine ⟨b, reports, hf.agrees, hp, htaken, ?_⟩
  have hb := opening_accounted hm
  rw [Accounted, filling, hf.current] at hb
  rw [← htaken, ← hb, List.flatMap_def]
  exact (List.append_nil _).symm

/-- Every reported event is exported exactly once and in order: what has been
finalized and what is in progress make up what the parser reported so far, and
once the worker has stopped everything has been finalized. -/
theorem exports_exactly_once (world : World) (config : Config) (nlDrops : Nat) {w : State}
    (h : Runs world config (startWorker world config nlDrops) w) :
    (∃ finalized active reports, List.Forall₂ (Carried world config) w.outbox finalized ∧
      Pending config w active ∧ parsed world w.received = some reports ∧
      finalized.flatten ++ active = reports.flatten) ∧
    ∀ t w', iterate world config w t = some (.stopped w') →
      ∃ finalized reports, List.Forall₂ (Carried world config) w'.outbox finalized ∧
        parsed world w'.received = some reports ∧ finalized.flatten = reports.flatten := by
  refine ⟨?_, ?_⟩
  · obtain ⟨b, reports, hi, hp, -, hsum⟩ := runs_accounted h
    exact ⟨_, filling b, reports, carried_of_agrees hi.mirrors.agrees,
      pending_of_inProgress hi.mirrors.current, hp, hsum⟩
  · intro t w' ht
    obtain ⟨b, reports, hg, hp, -, hsum⟩ := stopped_accounted h ht
    exact ⟨_, reports, carried_of_agrees hg, hp, hsum⟩

def sampleWorld : World where
  endian := .little
  clock := fun k => k
  monotone := fun _ _ h => Int.ofNat_le.mpr h
  systemTime := fun _ => 0
  sendOk := fun k => k ≠ 1

def sampleConfig : Config where
  domainId := 42
  template := ⟨resolvedFields .ipfix .natSource .four, 36, 300, .ipfix, .natSource, .four⟩
  templateInterval := 60
  interval_ne_zero := by decide
  resolved := ⟨.ipfix, .natSource, .four, 300, by decide +kernel⟩

def snatDatagram : Datagram := ⟨0, snatMessage.getD []⟩

/-- Two sessions with a foreign datagram between them, a timeout that flushes
them, and one more session. -/
def sampleTurns : List Turn := [
  ⟨0, .returned [] true [⟨[snatDatagram, ⟨3, [1]⟩, snatDatagram], by decide⟩]⟩,
  ⟨0, .returned [] false []⟩,
  ⟨0, .returned [] true [⟨[snatDatagram], by decide⟩]⟩]

theorem exports_exactly_once_sample :
    ∃ w, runTurns sampleWorld sampleConfig (startWorker sampleWorld sampleConfig 0) sampleTurns =
        some w ∧ w.outbox.length = 2 ∧ w.messageActive = true ∧
      ∃ finalized active reports, List.Forall₂ (Carried sampleWorld sampleConfig) w.outbox finalized ∧
        Pending sampleConfig w active ∧ parsed sampleWorld w.received = some reports ∧
        finalized.flatten ++ active = reports.flatten := by
  have heval : (runTurns sampleWorld sampleConfig (startWorker sampleWorld sampleConfig 0)
      sampleTurns).any (fun w => w.outbox.length = 2 ∧ w.messageActive = true) = true := by
    decide +kernel
  obtain ⟨w, hw, hp⟩ := (Option.any_eq_true _ _).mp heval
  obtain ⟨hl, ha⟩ := of_decide_eq_true hp
  exact ⟨w, hw, hl, ha, (exports_exactly_once sampleWorld sampleConfig 0 (Runs.refl.turns hw)).1⟩

end NatStream.Worker.Exports
