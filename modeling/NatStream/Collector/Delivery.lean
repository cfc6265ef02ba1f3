import NatStream.Collector.Watching
import NatStream.Worker.Cadence
import NatStream.Worker.Invariants

namespace NatStream.Collector.Delivery

open NatStream.Lib.Bytes NatStream.Lib.ByteBuffer NatStream.Lib.Time NatStream.Events
open NatStream.Export.Encoders NatStream.Export.Resolved NatStream.Export.Layout
open NatStream.Export.Filling NatStream.Export.Messages
open NatStream.Collector.FlowDecode NatStream.Collector.Reading NatStream.Collector.RoundTrip
open NatStream.Collector.Watching NatStream.Worker.EventLoop NatStream.Worker.Ledger
open NatStream.Worker.Refinement NatStream.Worker.Iterations NatStream.Worker.Invariants
open NatStream.Worker.Exports NatStream.Worker.Cadence NatStream.Netlink.Datagrams
open NatStream.Netlink.BuildParse
open NatStream.Export.Templates (Protocol Profile CounterWidth resolve dataSetSize setHeaderLen
  maxMsgSize)

variable {world : World} {config : Config}

theorem count_lt_of_closedLen {t : Export.Templates.Template} (hu : Usable t) {flag : Bool}
    {count : Nat} (h : closedLen t flag count ≤ maxMsgSize) : count + flag.toNat < 65536 := by
  have hmul : count ≤ count * t.recordSize :=
    Nat.le_mul_of_pos_right _ (Nat.lt_of_lt_of_le (by decide) hu.recordSize_ge)
  have hsize := openLen_le_dataSetSize t count
  have hdata := dataSetSize_le_of_closedLen h
  have hflag := Bool.toNat_le flag
  simp only [maxMsgSize] at hdata
  omega

/-- Every message in the list fits a datagram. -/
def Fits (ms : List Sent) : Prop := ∀ m ∈ ms, m.bytes.length ≤ maxMsgSize

theorem flushMessage_fits {w w' : State} {flag : Bool} {events : List ConntrackEvent}
    {reason : Reason} (hh : Holds w.encoder config.template flag events)
    (hf : flushMessage world reason w = some w') (h : Fits w.outbox) : Fits w'.outbox := by
  have hu := usable_template config
  rw [flushMessage] at hf
  split at hf
  · cases hf
    exact h
  · obtain ⟨e', hfin, -⟩ := finalize_kept hu hh
      ⟨world.systemTime w.outbox.length, world.clock (settleTemplate world w).ticks⟩
    rw [settleTemplate_eq] at hf hfin
    simp only [hfin, Option.bind_eq_bind, Option.bind_some, Option.pure_def, Option.some.injEq] at hf
    cases hf
    intro m hm
    obtain hm | hm := List.mem_append.mp hm
    · exact h m hm
    · cases List.mem_singleton.mp hm
      dsimp only
      rw [length_messageBytes hu]
      exact closedLen_le hh

theorem fits_stable (world : World) (config : Config) :
    Stable world config fun w => Fits w.outbox where
  congr h hout _ _ := by
    rw [hout]
    exact h
  flush hh _ hf h := flushMessage_fits hh hf h
  report k nlDrops h := by
    rw [reportStats]
    split <;> exact h

theorem visits_fits {nlDrops : Nat} {w : State}
    (hv : Visits world config (startWorker world config nlDrops) w) : Fits w.outbox := by
  have hstart : Fits (startWorker world config nlDrops).outbox := by
    intro m hm
    cases hm
  cases hv with
  | top hr => exact runs_keeps (fits_stable world config) hr hstart
  | stopped hr ht =>
    obtain ⟨b, -, hi⟩ := runs_inStep (startWorker_inStep world config nlDrops) hr
    exact iterate_keeps (fits_stable world config) hi ht
      (runs_keeps (fits_stable world config) hr hstart)

/-- The events each message stands for: the messages cut the reported stream
into pieces, each as long as its message's record count. -/
def contents : List ConntrackEvent → List Sent → List (Sent × List ConntrackEvent)
  | _, [] => []
  | stream, m :: ms =>
    (m, stream.take m.count.toNat) :: contents (stream.drop m.count.toNat) ms

theorem contents_eq_zip {ms : List Sent} {loads : List (List ConntrackEvent)}
    (h : List.Forall₂ (Carried world config) ms loads) (rest : List ConntrackEvent) :
    contents (loads.flatten ++ rest) ms = ms.zip loads := by
  induction h with
  | nil => rfl
  | @cons m load _ _ hm _ ih =>
    rw [contents, List.flatten_cons, List.append_assoc, hm.1, List.take_left, List.drop_left, ih]
    rfl

/-- A worker at any of its turns or after its last has cut what was reported
into its messages. -/
theorem visits_contents {nlDrops : Nat} {w : State}
    (hv : Visits world config (startWorker world config nlDrops) w) :
    ∃ loads rest, List.Forall₂ (Carried world config) w.outbox loads ∧
      loads.flatten ++ rest = reported world w.received ∧
      contents (reported world w.received) w.outbox = w.outbox.zip loads := by
  cases hv with
  | top hr =>
    obtain ⟨b, reports, hi, hp, -, hsum⟩ := runs_accounted hr
    obtain ⟨reports', hp', hr'⟩ := parsed_eq world w.received
    cases hp.symm.trans hp'
    have hc := carried_of_agrees hi.mirrors.agrees
    rw [← hr', ← hsum]
    exact ⟨_, _, hc, rfl, contents_eq_zip hc _⟩
  | stopped hr ht =>
    obtain ⟨b, reports, hg, hp, -, hsum⟩ := stopped_accounted hr ht
    obtain ⟨reports', hp', hr'⟩ := parsed_eq world w.received
    cases hp.symm.trans hp'
    have hc := carried_of_agrees hg
    rw [← hr', ← hsum]
    refine ⟨_, [], hc, List.append_nil _, ?_⟩
    have hz := contents_eq_zip hc []
    rwa [List.append_nil] at hz

/-- A datagram that some worker with this configuration has sent, and the
events it stands for. -/
structure Exported (config : Config) where
  world : World
  nlDrops : Nat
  state : State
  message : Sent
  events : List ConntrackEvent
  visits : Visits world config (startWorker world config nlDrops) state
  mem : (message, events) ∈ contents (reported world state.received) state.outbox

theorem Exported.carried (x : Exported config) :
    Carried x.world config x.message x.events ∧ x.message.bytes.length ≤ maxMsgSize := by
  obtain ⟨loads, rest, hc, -, hz⟩ := visits_contents x.visits
  have hm := x.mem
  rw [hz] at hm
  refine ⟨?_, visits_fits x.visits _ (List.of_mem_zip hm).1⟩
  exact (List.forall₂_iff_zip.mp hc).2 hm

/-- What may arrive at the collector: a datagram of any run of the worker, or
one of someone else that does not claim the worker's template id. -/
inductive Arrival (config : Config) where
  | exported (x : Exported config)
  | foreign (bytes : List UInt8)
      (other : ∀ t ∈ declared bytes, t.templateId ≠ config.template.templateId.toNat)

def Arrival.bytes : Arrival config → List UInt8
  | .exported x => x.message.bytes
  | .foreign bytes _ => bytes

def Arrival.announces : Arrival config → Bool
  | .exported x => x.message.template
  | .foreign _ _ => false

/-- What the collector shows for a datagram of the worker. -/
structure Shows (config : Config) (known : Bool) (x : Exported config) (m : Message) : Prop where
  version : m.version = (Export.Templates.version config.template.protocol).toNat
  domainId : m.domainId = config.domainId.toNat
  templates : m.templates = announcements config.template x.message.template
  records : m.records = if known then x.events.map (reportedRecord config.template.fields) else []
  raw : m.raw = x.message.bytes

/-- The collector's entry for the worker's template. -/
def entry (config : Config) (known : Bool) : Option Template :=
  if known then some (announcedTemplate config.template) else none

theorem known_template (config : Config) : Known config.template := by
  obtain ⟨_, _, _, _, h⟩ := config.resolved
  exact resolve_known h

theorem get?_learned {table : Table} {known : Bool}
    (h : Dict.get? table config.template.templateId.toNat = entry config known) (flag : Bool) :
    Dict.get? (learned config.template flag table) config.template.templateId.toNat =
      entry config (known || flag) := by
  cases flag with
  | true =>
    rw [Bool.or_true]
    exact get?_set_self _ _ _
  | false =>
    rw [Bool.or_false]
    exact h

theorem decodeSets_entry {table : Table} {known flag : Bool} {events : List ConntrackEvent}
    (h : Dict.get? (learned config.template flag table) config.template.templateId.toNat =
      entry config known) (hmax : dataSetSize config.template events.length ≤ maxMsgSize) :
    decodeSets (Export.Templates.version config.template.protocol).toNat
        (collectorSetId config.template.protocol) table [] []
        (templatePart config.template flag ++ dataPart config.template events) =
      (learned config.template flag table, .ok (announcements config.template flag,
        if known then events.map (reportedRecord config.template.fields) else [])) := by
  have hu := usable_template config
  have hk := known_template config
  cases known with
  | true => exact decodeSets_body hu hk flag events h hmax
  | false =>
    rw [decodeSets_templatePart hu hk]
    exact decodeSets_dataPart hu _ (handleSet_unknown _ _ (collectorSetId_lt _) hu.templateId_ge h)
      (fun _ => rfl) hmax

theorem receive_exported (x : Exported config) {table : Table} {known : Bool}
    (h : Dict.get? table config.template.templateId.toNat = entry config known) :
    ∃ m, receive table x.message.bytes =
        (learned config.template x.message.template table, .ok m) ∧
      Shows config (known || x.message.template) x m := by
  obtain ⟨⟨-, sequence, stamp, hb⟩, hfits⟩ := x.carried
  have hu := usable_template config
  rw [hb, length_messageBytes hu] at hfits
  have hsets := decodeSets_entry (get?_learned h x.message.template)
    (dataSetSize_le_of_closedLen hfits)
  have hr := receive_of_sets hu x.message.template x.events sequence config.domainId
    (x.world.clock 0) stamp hsets hfits (count_lt_of_closedLen hu hfits)
  rw [hb]
  exact ⟨_, hr, ⟨rfl, rfl, rfl, rfl, hb.symm⟩⟩

/-- The table after some arrivals knows the template exactly if one of them
announced it. -/
theorem receive_entry (a : Arrival config) {table : Table} {known : Bool}
    (h : Dict.get? table config.template.templateId.toNat = entry config known) :
    Dict.get? (receive table a.bytes).1 config.template.templateId.toNat =
      entry config (known || a.announces) := by
  cases a with
  | exported x =>
    obtain ⟨m, hr, -⟩ := receive_exported x h
    rw [Arrival.bytes, hr]
    exact get?_learned h _
  | foreign bytes other =>
    rw [Arrival.announces, Bool.or_false, ← h]
    exact receive_get? other table

theorem watch_at (before : List (Arrival config)) (x : Exported config)
    (after : List (List UInt8)) {table : Table} {known : Bool}
    (h : Dict.get? table config.template.templateId.toNat = entry config known) :
    ∃ m, (watch table (before.map Arrival.bytes ++ x.message.bytes :: after))[before.length]? =
        some (.ok m) ∧
      Shows config (known || before.any Arrival.announces || x.message.template) x m := by
  induction before generalizing table known with
  | nil =>
    obtain ⟨m, hr, hs⟩ := receive_exported x h
    refine ⟨m, ?_, by simpa using hs⟩
    rw [List.map_nil, List.nil_append, watch, hr]
    rfl
  | cons a before ih =>
    obtain ⟨m, hm, hs⟩ := ih (receive_entry a h)
    refine ⟨m, ?_, by simpa [Bool.or_assoc] using hs⟩
    rw [List.map_cons, List.cons_append, watch, List.length_cons, List.getElem?_cons_succ]
    exact hm

/-- Whatever is lost, repeated, reordered or sent by others, and however often
the worker is restarted: a datagram of the worker is always accepted, and it
shows exactly the records of its events if it or an earlier arrival announced
the template, no records otherwise. -/
theorem collector_reads_any_arrivals (config : Config) (before after : List (Arrival config))
    (x : Exported config) :
    ∃ m, (watch [] ((before ++ .exported x :: after).map Arrival.bytes))[before.length]? =
        some (.ok m) ∧
      Shows config (before.any Arrival.announces || x.message.template) x m := by
  have hempty : Dict.get? ([] : Table) config.template.templateId.toNat = entry config false := rfl
  obtain ⟨m, hm, hs⟩ := watch_at before x (after.map Arrival.bytes) hempty
  refine ⟨m, ?_, by simpa using hs⟩
  rw [List.map_append, List.map_cons]
  exact hm

theorem visits_exported {nlDrops : Nat} {w : State}
    (hv : Visits world config (startWorker world config nlDrops) w) {m : Sent} (hm : m ∈ w.outbox) :
    ∃ x : Exported config, x.message = m ∧ x.events.length = m.count.toNat := by
  obtain ⟨loads, rest, hc, -, hz⟩ := visits_contents hv
  have hmap : (w.outbox.zip loads).map Prod.fst = w.outbox :=
    List.map_fst_zip (Nat.le_of_eq hc.length_eq)
  rw [← hmap] at hm
  obtain ⟨⟨m', events⟩, hmem, rfl⟩ := List.mem_map.mp hm
  have hcarried := (List.forall₂_iff_zip.mp hc).2 hmem
  exact ⟨⟨world, nlDrops, w, m', events, hv, hz.symm ▸ hmem⟩, rfl, hcarried.1.symm⟩

/-- The template, then two records in a message of their own. The collector
shows them only if it has seen the template. -/
theorem collector_reads_any_arrivals_sample :
    ∃ x₀ x : Exported sampleConfig, x₀.message.template = true ∧ x.message.template = false ∧
      x.events.length = 2 ∧
      (∃ m, (watch [] [x.message.bytes, x₀.message.bytes])[0]? = some (.ok m) ∧ m.records = []) ∧
      ∃ m, (watch [] [x₀.message.bytes, [1, 2, 3], x.message.bytes, x.message.bytes])[3]? =
        some (.ok m) ∧ m.records = x.events.map (reportedRecord sampleConfig.template.fields) := by
  have heval : (runTurns sampleWorld sampleConfig (startWorker sampleWorld sampleConfig 0)
      sampleTurns).any (fun w =>
        w.outbox.map (fun m => (m.template, m.count)) = [(true, 0), (false, 2)]) = true := by
    decide +kernel
  obtain ⟨w, hw, hp⟩ := (Option.any_eq_true _ _).mp heval
  have hv := Visits.top (Runs.refl.turns hw)
  obtain ⟨m₀, m, hout⟩ : ∃ m₀ m, w.outbox = [m₀, m] := by
    apply List.length_eq_two.mp
    have hl := congrArg List.length (of_decide_eq_true hp)
    rwa [List.length_map] at hl
  have hflags := of_decide_eq_true hp
  rw [hout] at hflags
  simp only [List.map_cons, List.map_nil, List.cons.injEq, Prod.mk.injEq, and_true] at hflags
  obtain ⟨x₀, hx₀, -⟩ := visits_exported hv (m := m₀) (by rw [hout]; simp)
  obtain ⟨x, hx, hlen⟩ := visits_exported hv (m := m) (by rw [hout]; simp)
  have h₀ : x₀.message.template = true := by rw [hx₀, hflags.1.1]
  have h₁ : x.message.template = false := by rw [hx, hflags.2.1]
  refine ⟨x₀, x, h₀, h₁, by rw [hlen, hflags.2.2]; rfl, ?_, ?_⟩
  · obtain ⟨r, hr, hs⟩ := collector_reads_any_arrivals sampleConfig [] [.exported x₀] x
    refine ⟨r, hr, ?_⟩
    rw [hs.records, h₁]
    rfl
  · obtain ⟨r, hr, hs⟩ := collector_reads_any_arrivals sampleConfig
      [.exported x₀, .foreign [1, 2, 3] (by decide +kernel), .exported x] [] x
    refine ⟨r, hr, ?_⟩
    rw [hs.records, if_pos]
    rw [List.any_cons, Arrival.announces, h₀]
    rfl

theorem watch_all (xs : List (Exported config)) {table : Table} {known : Bool}
    (h : Dict.get? table config.template.templateId.toNat = entry config known)
    (hk : known = true ∨ ∀ x, xs.head? = some x → x.message.template = true) :
    ∃ ms : List Message, watch table (xs.map fun x => x.message.bytes) = ms.map .ok ∧
      ms.flatMap Message.records =
        (xs.flatMap Exported.events).map (reportedRecord config.template.fields) := by
  induction xs generalizing table known with
  | nil => exact ⟨[], rfl, rfl⟩
  | cons x xs ih =>
    have hknown : (known || x.message.template) = true := by
      obtain hk | hk := hk
      · rw [hk, Bool.true_or]
      · rw [hk x rfl, Bool.or_true]
    obtain ⟨m, hr, hs⟩ := receive_exported x h
    obtain ⟨ms, hw, hrec⟩ := ih (get?_learned h x.message.template) (Or.inl hknown)
    refine ⟨m :: ms, ?_, ?_⟩
    · rw [List.map_cons, watch, hr, hw]
      rfl
    · rw [List.flatMap_cons, List.flatMap_cons, List.map_append, hrec, hs.records, hknown, if_pos rfl]

/-- The messages of a worker with what they stand for. -/
def exportsOf {nlDrops : Nat} {w : State}
    (hv : Visits world config (startWorker world config nlDrops) w) : List (Exported config) :=
  (contents (reported world w.received) w.outbox).attach.map fun p =>
    ⟨world, nlDrops, w, p.1.1, p.1.2, hv, p.2⟩

theorem exportsOf_messages {nlDrops : Nat} {w : State}
    (hv : Visits world config (startWorker world config nlDrops) w) :
    (exportsOf hv).map Exported.message =
      (contents (reported world w.received) w.outbox).map Prod.fst := by
  rw [exportsOf, List.map_map]
  exact @List.attach_map_val _ _ _ Prod.fst

theorem exportsOf_events {nlDrops : Nat} {w : State}
    (hv : Visits world config (startWorker world config nlDrops) w) :
    (exportsOf hv).flatMap Exported.events =
      ((contents (reported world w.received) w.outbox).map Prod.snd).flatten := by
  rw [exportsOf, List.flatMap_map, List.flatMap_def]
  exact congrArg List.flatten (@List.attach_map_val _ _ _ Prod.snd)

theorem visits_head_announces {nlDrops : Nat} {w : State}
    (hv : Visits world config (startWorker world config nlDrops) w) :
    ∀ m, w.outbox.head? = some m → m.template = true := by
  obtain ⟨b, hm, hg⟩ := visits_agrees (startWorker_inStep world config nlDrops) hv
  intro m hhead
  exact (carries_head hg.sent (opening_scheduled hm).first m hhead).1

def reliableWorld : World := { sampleWorld with sendOk := fun _ => true }

def stoppedState : Outcome → Option State
  | .stopped w => some w
  | .again _ | .failed _ => none

theorem stoppedState_eq_some {outcome : Outcome} {w : State} (h : stoppedState outcome = some w) :
    outcome = .stopped w := by
  cases outcome with
  | again _ => cases h
  | stopped _ => rw [Option.some.inj h]
  | failed _ => cases h

def stopTurn : Turn := ⟨0, .returned [.term] false []⟩

end NatStream.Collector.Delivery
