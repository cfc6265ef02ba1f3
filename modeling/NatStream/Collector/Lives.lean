import NatStream.Collector.Delivery
import NatStream.Export.Capacity

namespace NatStream.Collector.Lives

open NatStream.Events NatStream.Export.Resolved NatStream.Export.Layout NatStream.Export.Capacity
open NatStream.Collector.FlowDecode NatStream.Collector.Reading NatStream.Collector.Watching
open NatStream.Collector.Delivery NatStream.Worker.EventLoop NatStream.Worker.Ledger
open NatStream.Worker.Refinement NatStream.Worker.Iterations NatStream.Worker.Exports

variable {world : World} {config : Config}

/-- How a worker can come to its end: stopped by a signal, or else because its
poll failed or because it was killed between two turns. -/
inductive Ended (world : World) (config : Config) (start : State) : Bool → State → Prop where
  | stopped {w w' : State} {t : Turn} : Runs world config start w →
      iterate world config w t = some (.stopped w') → Ended world config start true w'
  | failed {w w' : State} {t : Turn} : Runs world config start w →
      iterate world config w t = some (.failed w') → Ended world config start false w'
  | killed {w : State} : Runs world config start w → Ended world config start false w

/-- One worker of the daemon, from its start to its end. -/
structure Life (config : Config) where
  world : World
  nlDrops : Nat
  clean : Bool
  state : State
  ended : Ended world config (startWorker world config nlDrops) clean state

/-- A poll that fails leaves the worker as one that is interrupted. -/
theorem afterPoll_failed {w w' : State} {answer : PollAnswer}
    (h : afterPoll world w answer = some (.failed w')) :
    afterPoll world w .interrupted = some (.again w') := by
  cases answer with
  | interrupted => cases h
  | failed =>
    cases h
    rfl
  | returned signals ready batches =>
    cases signals with
    | cons signal signals =>
      obtain ⟨_, -, h⟩ := Option.map_eq_some_iff.mp h
      cases h
    | nil =>
      cases ready with
      | false =>
        obtain ⟨_, -, h⟩ := Option.map_eq_some_iff.mp h
        cases h
      | true =>
        obtain ⟨_, -, h⟩ := Option.map_eq_some_iff.mp h
        cases h

theorem iterate_failed {w w' : State} {t : Turn}
    (h : iterate world config w t = some (.failed w')) :
    iterate world config w ⟨t.nlDrops, .interrupted⟩ = some (.again w') := by
  obtain ⟨w₁, n, w₂, hl, hp, ha⟩ := iterate_eq_some h
  simp only [iterate, hl, hp, Option.bind_eq_bind, Option.bind_some]
  exact afterPoll_failed ha

theorem Ended.visits {start w : State} {clean : Bool} (h : Ended world config start clean w) :
    Visits world config start w := by
  cases h with
  | stopped hr ht => exact .stopped hr ht
  | failed hr ht => exact .top (hr.turn (iterate_failed ht))
  | killed hr => exact .top hr

theorem capacity_le (t : Export.Templates.Template) (flag : Bool) :
    capacity t flag ≤ capacity t false := by
  apply Nat.div_le_div_right
  have hbase : baseLen t false ≤ baseLen t flag := by
    cases flag <;> simp [baseLen]
  omega

theorem filling_le {w : State} {b : Books ConntrackEvent} (h : InProgress config w b.current) :
    (filling b).length ≤ capacity config.template false := by
  rw [filling]
  generalize b.current = current at h
  cases h with
  | idle _ => exact Nat.zero_le _
  | @active flag events _ hh =>
    exact (length_le_capacity (usable_template config) hh).trans (capacity_le config.template flag)

/-- What a worker took in, without what it had not yet sent when it ended. -/
def Sends (life : Life config) (events : List ConntrackEvent) : Prop :=
  ∃ lost, events ++ lost = reported life.world life.state.received ∧
    lost.length ≤ capacity config.template false ∧ (life.clean = true → lost = [])

/-- The messages of a worker that has come to its end, and the events they
stand for. -/
theorem life_accounted (life : Life config) :
    ∃ loads, List.Forall₂ (Carried life.world config) life.state.outbox loads ∧
      Sends life loads.flatten ∧
      contents (reported life.world life.state.received) life.state.outbox =
        life.state.outbox.zip loads := by
  obtain ⟨world, nlDrops, clean, w, hended⟩ := life
  cases clean with
  | true =>
    cases hended with
    | stopped hr ht =>
      obtain ⟨b, reports, hg, hp, -, hsum⟩ := stopped_accounted hr ht
      obtain ⟨reports', hp', hr'⟩ := parsed_eq world w.received
      cases hp.symm.trans hp'
      have hc := carried_of_agrees hg
      have hz := contents_eq_zip hc []
      rw [List.append_nil, hsum, hr'] at hz
      refine ⟨_, hc, ⟨[], ?_, Nat.zero_le _, fun _ => rfl⟩, hz⟩
      rw [List.append_nil, hsum, hr']
  | false =>
    have hruns : Runs world config (startWorker world config nlDrops) w := by
      cases hended with
      | failed hr ht => exact hr.turn (iterate_failed ht)
      | killed hr => exact hr
    obtain ⟨b, reports, hi, hp, -, hsum⟩ := runs_accounted hruns
    obtain ⟨reports', hp', hr'⟩ := parsed_eq world w.received
    cases hp.symm.trans hp'
    have hc := carried_of_agrees hi.mirrors.agrees
    have hz := contents_eq_zip hc (filling b)
    rw [hsum, hr'] at hz
    refine ⟨_, hc, ⟨filling b, hsum.trans hr', filling_le hi.mirrors.current, ?_⟩, hz⟩
    intro h
    cases h

theorem life_exports (life : Life config) :
    (exportsOf life.ended.visits).map Exported.message = life.state.outbox ∧
      Sends life ((exportsOf life.ended.visits).flatMap Exported.events) := by
  obtain ⟨loads, hc, hsends, hz⟩ := life_accounted life
  have hlen := hc.length_eq
  refine ⟨?_, ?_⟩
  · rw [exportsOf_messages, hz, List.map_fst_zip (Nat.le_of_eq hlen)]
  · rw [exportsOf_events, hz, List.map_snd_zip (Nat.le_of_eq hlen.symm)]
    exact hsends

theorem lives_head_announces (lives : List (Life config)) :
    ∀ x, (lives.flatMap fun life => exportsOf life.ended.visits).head? = some x →
      x.message.template = true := by
  intro x hx
  rw [List.head?_flatMap] at hx
  obtain ⟨life, -, hhead⟩ := List.exists_of_findSome?_eq_some hx
  apply visits_head_announces life.ended.visits
  rw [← (life_exports life).1, List.head?_map, hhead]
  rfl

theorem lives_send (lives : List (Life config)) :
    ∃ shares : List (List ConntrackEvent), List.Forall₂ Sends lives shares ∧
      (lives.flatMap fun life => exportsOf life.ended.visits).flatMap Exported.events =
        shares.flatten := by
  induction lives with
  | nil => exact ⟨[], .nil, rfl⟩
  | cons life lives ih =>
    obtain ⟨shares, hsends, hevents⟩ := ih
    refine ⟨_ :: shares, .cons (life_exports life).2 hsends, ?_⟩
    rw [List.flatMap_cons, List.flatMap_append, hevents, List.flatten_cons]

/-- The daemon as the collector sees it, however many workers came one after
another and however each of them ended. If all they sent arrived in order, the
collector has accepted every datagram and shows what each worker took in, each
event once and in order. A worker that was stopped left nothing out, and
one that failed or was killed at most the events of one message, the last
ones. -/
theorem each_life_loses_one_message {config : Config} (lives : List (Life config))
    (hd : ∀ life ∈ lives, ∀ m ∈ life.state.outbox, m.delivered = true) :
    ∃ (ms : List Message) (shares : List (List ConntrackEvent)),
      watch [] (lives.flatMap fun life =>
        (life.state.outbox.filter Sent.delivered).map Sent.bytes) = ms.map .ok ∧
      List.Forall₂ Sends lives shares ∧
      ms.flatMap Message.records = shares.flatten.map (reportedRecord config.template.fields) := by
  obtain ⟨shares, hsends, hevents⟩ := lives_send lives
  have hbytes : (lives.flatMap fun life =>
      (life.state.outbox.filter Sent.delivered).map Sent.bytes) =
      (lives.flatMap fun life => exportsOf life.ended.visits).map fun x => x.message.bytes := by
    rw [List.map_flatMap]
    apply List.flatMap_congr
    intro life hlife
    rw [List.filter_eq_self.mpr (hd life hlife), ← (life_exports life).1, List.map_map]
    rfl
  have hempty : Dict.get? ([] : Table) config.template.templateId.toNat = entry config false := rfl
  obtain ⟨ms, hwatch, hrecords⟩ := watch_all _ hempty (Or.inr (lives_head_announces lives))
  rw [hevents] at hrecords
  exact ⟨ms, shares, by rw [hbytes]; exact hwatch, hsends, hrecords⟩

/-- A worker that is killed while it holds a record, and one that is stopped. -/
theorem each_life_loses_one_message_sample :
    ∃ killed stopped : Life sampleConfig, killed.clean = false ∧ stopped.clean = true ∧
      killed.state.messageActive = true ∧
      ∃ (ms : List Message) (shares : List (List ConntrackEvent)),
        watch [] ([killed, stopped].flatMap fun life =>
          (life.state.outbox.filter Sent.delivered).map Sent.bytes) = ms.map .ok ∧
        List.Forall₂ Sends [killed, stopped] shares ∧
        ms.flatMap Message.records =
          shares.flatten.map (reportedRecord sampleConfig.template.fields) := by
  have heval : ((runTurns reliableWorld sampleConfig (startWorker reliableWorld sampleConfig 0)
      sampleTurns).any fun w => w.outbox.all Sent.delivered && w.messageActive &&
        ((iterate reliableWorld sampleConfig w stopTurn).bind stoppedState).any fun w' =>
          w'.outbox.all Sent.delivered) = true := by
    decide +kernel
  obtain ⟨w, hw, hp⟩ := (Option.any_eq_true _ _).mp heval
  obtain ⟨hp, hp'⟩ := Bool.and_eq_true_iff.mp hp
  obtain ⟨hd, hactive⟩ := Bool.and_eq_true_iff.mp hp
  obtain ⟨w', hw', hd'⟩ := (Option.any_eq_true _ _).mp hp'
  obtain ⟨outcome, ht, ho⟩ := Option.bind_eq_some_iff.mp hw'
  rw [stoppedState_eq_some ho] at ht
  have hruns := Runs.refl.turns hw
  refine ⟨⟨reliableWorld, 0, false, w, .killed hruns⟩, ⟨reliableWorld, 0, true, w', .stopped hruns ht⟩,
    rfl, rfl, hactive, each_life_loses_one_message _ ?_⟩
  intro life hlife
  obtain rfl | hlife := List.mem_cons.mp hlife
  · exact List.all_eq_true.mp hd
  · cases List.mem_singleton.mp hlife
    exact List.all_eq_true.mp hd'

end NatStream.Collector.Lives
