import Mathlib.Data.List.Forall2
import NatStream.Lib.Tapes
import NatStream.Export.Capacity
import NatStream.Worker.Exports

namespace NatStream.Worker.Packing

open NatStream.Lib.Tapes NatStream.Events NatStream.Export.Templates NatStream.Export.Encoders
open NatStream.Export.Layout NatStream.Export.Filling NatStream.Export.Capacity
open NatStream.Netlink.Datagrams NatStream.Worker.EventLoop NatStream.Worker.Ledger
open NatStream.Worker.Refinement NatStream.Worker.Iterations NatStream.Worker.Exports

variable {world : World} {config : Config}

/-- The datagrams that draining the socket takes in. -/
def drained : Nat → List Batch → List Datagram
  | 0, _ => []
  | _ + 1, [] => []
  | k + 1, batch :: batches =>
    if batch.datagrams.length < recvBatchSize then batch.datagrams
    else batch.datagrams ++ drained k batches

/-- What a poll tells the worker: the events in what it reads, or, as a mark,
that there was nothing to read. A shutdown is a mark too. -/
def heard (world : World) : PollAnswer → Tape ConntrackEvent
  | .interrupted | .failed => []
  | .returned (_ :: _) _ _ => [none]
  | .returned [] false _ => [none]
  | .returned [] true batches => items (reported world (drained maxBatchesPerPoll batches))

def tapeOf (world : World) (turns : List Turn) : Tape ConntrackEvent :=
  turns.flatMap fun t => heard world t.answer

def dataMessages (w : State) : List Sent := w.outbox.filter fun m => m.count ≠ 0

/-- The message carries these records, with the template or without it. -/
def Shows (world : World) (config : Config) (m : Sent) (load : Bool × List ConntrackEvent) : Prop :=
  m.template = load.1 ∧ Carried world config m load.2

def loadsOf (b : Books ConntrackEvent) : List (Bool × List ConntrackEvent) :=
  (b.sent.filter fun e => e.records ≠ []).map fun e => (e.announces, e.records)

theorem loadsOf_post (c : Terms ConntrackEvent) (b : Books ConntrackEvent) (flag : Bool)
    {records : List ConntrackEvent} (h : records ≠ []) (delivered : Bool) :
    loadsOf (post c b flag records delivered) = loadsOf b ++ [(flag, records)] := by
  simp [loadsOf, post, h]

theorem loadsOf_post_nil (c : Terms ConntrackEvent) (b : Books ConntrackEvent) (flag delivered : Bool) :
    loadsOf (post c b flag [] delivered) = loadsOf b := by
  simp [loadsOf, post]

theorem loadsOf_flushed (c : Terms ConntrackEvent) (b : Books ConntrackEvent) (flag : Bool)
    {records : List ConntrackEvent} (h : records ≠ []) (delivered : Bool) :
    loadsOf (flushed c b flag records delivered) = loadsOf b ++ [(flag, records)] := by
  rw [flushed, if_pos (Or.inr h), loadsOf_post c b flag h]

theorem loadsOf_flushed_nil (c : Terms ConntrackEvent) (b : Books ConntrackEvent)
    (flag delivered : Bool) : loadsOf (flushed c b flag [] delivered) = loadsOf b := by
  rw [flushed]
  split
  · exact loadsOf_post_nil c b flag delivered
  · rfl

theorem shows_of_agrees {w : State} {b : Books ConntrackEvent} (h : Agrees world config w b) :
    List.Forall₂ (Shows world config) (dataMessages w) (loadsOf b) := by
  rw [loadsOf, List.forall₂_map_right_iff]
  have hsame : List.Forall₂ (Carries world config) (dataMessages w)
      (b.sent.filter fun e => e.records ≠ []) := by
    apply List.rel_filter _ h.sent
    intro m e hm
    simp only [decide_eq_true_eq, ne_eq, ← List.length_eq_zero_iff, ← hm.count]
    rw [← UInt32.toNat_inj]
    rfl
  apply hsame.imp
  intro m e hm
  obtain ⟨stamp, hb⟩ := hm.bytes
  exact ⟨hm.template, hm.count, e.sequence, stamp, by rw [hb, hm.template]⟩

/-- The worker has packed the tape into the messages it sent, and what is still
waiting is in the message in progress. -/
structure Loaded (world : World) (config : Config) (tape : Tape ConntrackEvent) (w : State)
    (b : Books ConntrackEvent) : Prop where
  mirrors : Mirrors world config w b
  packs : Packs (capacity config.template) tape (loadsOf b) (filling b)

theorem Loaded.of_same {tape : Tape ConntrackEvent} {w w' : State} {b b' : Books ConntrackEvent}
    (h : Loaded world config tape w b) (hm : Mirrors world config w' b') (hs : b'.sent = b.sent)
    (hf : filling b' = filling b) : Loaded world config tape w' b' := by
  refine ⟨hm, ?_⟩
  rw [loadsOf, hs, hf]
  exact h.packs

theorem recordEvent_loaded {tape : Tape ConntrackEvent} {w w' : State} {b : Books ConntrackEvent}
    {event : ConntrackEvent} (h : Loaded world config tape w b) (ha : w.messageActive = true)
    (hr : recordEvent world w event = some w') :
    ∃ b', Loaded world config (tape ++ [some event]) w' b' ∧ b'.taken = b.taken ++ [event] ∧
      w'.messageActive = true ∧ w'.received = w.received := by
  have hu := usable_template config
  obtain ⟨flag, events, hc, hh⟩ := h.mirrors.active ha
  have hpacks := h.packs
  rw [filling, hc] at hpacks
  change Packs _ tape (loadsOf b) events at hpacks
  by_cases hroom : hasRoom config.template flag events.length
  · obtain ⟨e', hadd, hm⟩ := addRecord_mirrors h.mirrors.agrees ha hh event hroom
    simp only [recordEvent, hadd, Option.bind_eq_bind, Option.bind_some, if_true,
      Option.pure_def, Option.some.injEq] at hr
    subst hr
    exact ⟨_, ⟨hm, hpacks.push event⟩, rfl, ha, rfl⟩
  · obtain ⟨w₁, hf, h₁, ha₁, hr₁⟩ := flushMessage_agrees h.mirrors.agrees hh .full
    obtain ⟨e₂, hb, h₂, hh₂⟩ := beginMessage_agrees h₁ w₁.includeTemplate
    obtain ⟨e₃, hadd, hm⟩ := addRecord_mirrors h₂ (ha₁.trans ha) hh₂ event (hasRoom_zero hu _)
    simp only [recordEvent, addRecord_full hh event hroom, Option.bind_eq_bind, Option.bind_some,
      Bool.false_eq_true, if_false, hf, hb, hadd, Option.pure_def, Option.some.injEq] at hr
    subst hr
    rw [hasRoom_iff_lt hu, Nat.not_lt] at hroom
    have hfull : events.length = capacity config.template flag :=
      Nat.le_antisymm (length_le_capacity hu hh) hroom
    have hne : events ≠ [] := by
      have hzero := (hasRoom_iff_lt hu flag 0).mp (hasRoom_zero hu flag)
      exact List.ne_nil_of_length_pos (by omega)
    refine ⟨_, ⟨hm, ?_⟩, ?_, ha₁.trans ha, hr₁⟩
    · change Packs _ _ (loadsOf (flushed _ b flag events _)) ([] ++ [event])
      rw [loadsOf_flushed _ b flag hne]
      exact (hpacks.close hne hfull).push event
    · change (flushed _ b flag events _).taken ++ [event] = _
      rw [flushed_taken]

theorem recordEvents_loaded {tape : Tape ConntrackEvent} {w w' : State} {b : Books ConntrackEvent}
    {events : List ConntrackEvent} (h : Loaded world config tape w b) (ha : w.messageActive = true)
    (hr : events.foldlM (recordEvent world) w = some w') :
    ∃ b', Loaded world config (tape ++ items events) w' b' ∧ b'.taken = b.taken ++ events ∧
      w'.received = w.received := by
  induction events generalizing tape w b with
  | nil =>
    cases hr
    exact ⟨b, by simpa [items] using h, (List.append_nil _).symm, rfl⟩
  | cons event events ih =>
    rw [List.foldlM_cons, Option.bind_eq_bind, Option.bind_eq_some_iff] at hr
    obtain ⟨w₁, hw₁, hr⟩ := hr
    obtain ⟨b₁, h₁, ht₁, ha₁, hr₁⟩ := recordEvent_loaded h ha hw₁
    obtain ⟨b₂, h₂, ht₂, hr₂⟩ := ih h₁ ha₁ hr
    refine ⟨b₂, ?_, ?_, hr₂.trans hr₁⟩
    · simpa [items] using h₂
    · simp [ht₂, ht₁]

theorem ensureActive_loaded {tape : Tape ConntrackEvent} {w w' : State} {b : Books ConntrackEvent}
    (h : Loaded world config tape w b) (hr : ensureActive w = some w') :
    ∃ b', Loaded world config tape w' b' ∧ b'.taken = b.taken ∧ w'.messageActive = true ∧
      w'.received = w.received := by
  cases ha : w.messageActive with
  | true =>
    rw [ensureActive, if_pos ha] at hr
    cases hr
    exact ⟨b, h, rfl, ha, rfl⟩
  | false =>
    obtain ⟨e', hb, hg, hh⟩ := beginMessage_agrees h.mirrors.agrees w.includeTemplate
    simp only [ensureActive, ha, hb, Bool.false_eq_true, if_false, Option.bind_eq_bind,
      Option.bind_some, Option.pure_def, Option.some.injEq] at hr
    subst hr
    have hidle := h.mirrors.idle ha
    have hm : Mirrors world config { w with encoder := e', messageActive := true }
        { b with current := some (w.includeTemplate, []) } :=
      ⟨⟨hg.template, hg.domain, hg.started, hg.sequence, hg.clamped, hg.due, hg.lastTemplate,
        hg.ticks, hg.errors, hg.sent⟩, .active rfl hh⟩
    refine ⟨_, h.of_same hm rfl ?_, rfl, rfl, rfl⟩
    simp [filling, hidle]

/-- The packing together with the count of what was taken in, which holds
between two datagrams. -/
structure Follows (world : World) (config : Config) (tape : Tape ConntrackEvent) (w : State)
    (b : Books ConntrackEvent) : Prop where
  inStep : InStep world config w b
  packs : Packs (capacity config.template) tape (loadsOf b) (filling b)

theorem receiveDatagram_follows {tape : Tape ConntrackEvent} {w w' : State}
    {b : Books ConntrackEvent} {d : Datagram} (h : Follows world config tape w b)
    (hr : receiveDatagram world w d = some w') :
    ∃ b', Follows world config (tape ++ items (reported world [d])) w' b' := by
  have hm : Mirrors world config { w with received := w.received ++ [d] } b :=
    h.inStep.mirrors.of_same rfl rfl rfl rfl rfl rfl rfl
  have htaken := h.inStep.taken
  by_cases hp : d.senderPortid ≠ 0
  · rw [receiveDatagram_foreign hp] at hr
    cases hr
    refine ⟨b, ⟨h.inStep.mirrors.of_same rfl rfl rfl rfl rfl rfl rfl, ?_⟩, ?_⟩
    · simp [reported_append, reported_foreign hp, htaken]
    · simpa [reported_foreign hp, items] using h.packs
  · have hcount := countTruncated_received { w with received := w.received ++ [d] } d
    by_cases hk : (kept d).length = 0
    · rw [receiveDatagram_empty hp hk] at hr
      cases hr
      refine ⟨b, ⟨countTruncated_mirrors hm, ?_⟩, ?_⟩
      · simp [hcount, reported_append, reported_empty hk, htaken]
      · simpa [reported_empty hk, items] using h.packs
    · rw [receiveDatagram_kernel hp hk, Option.bind_eq_some_iff] at hr
      obtain ⟨w₁, hw₁, hr⟩ := hr
      obtain ⟨b₁, h₁, ht₁, ha₁, hr₁⟩ :=
        ensureActive_loaded (⟨countTruncated_mirrors hm, h.packs⟩ : Loaded world config tape _ b) hw₁
      obtain ⟨b₂, h₂, ht₂, hr₂⟩ := recordEvents_loaded h₁ ha₁ hr
      rw [reported_kernel hp hk]
      refine ⟨b₂, ⟨h₂.mirrors, ?_⟩, h₂.packs⟩
      rw [ht₂, ht₁, hr₂, hr₁, hcount, htaken, reported_append, reported_kernel hp hk]

theorem receiveBatch_follows {tape : Tape ConntrackEvent} {w w' : State} {b : Books ConntrackEvent}
    {ds : List Datagram} (h : Follows world config tape w b)
    (hr : ds.foldlM (receiveDatagram world) w = some w') :
    ∃ b', Follows world config (tape ++ items (reported world ds)) w' b' := by
  induction ds generalizing tape w b with
  | nil =>
    cases hr
    exact ⟨b, by simpa [reported, processed, items] using h⟩
  | cons d ds ih =>
    rw [List.foldlM_cons, Option.bind_eq_bind, Option.bind_eq_some_iff] at hr
    obtain ⟨w₁, hw₁, hr⟩ := hr
    obtain ⟨b₁, h₁⟩ := receiveDatagram_follows h hw₁
    obtain ⟨b₂, h₂⟩ := ih h₁ hr
    refine ⟨b₂, ?_⟩
    rw [List.append_assoc, ← items_append, ← reported_append] at h₂
    exact h₂

theorem drain_follows {tape : Tape ConntrackEvent} {w w' : State} {b : Books ConntrackEvent}
    {k : Nat} {batches : List Batch} (h : Follows world config tape w b)
    (hr : drain world k batches w = some w') :
    ∃ b', Follows world config (tape ++ items (reported world (drained k batches))) w' b' := by
  induction k generalizing tape w b batches with
  | zero => exact receiveBatch_follows h hr
  | succ k ih =>
    cases batches with
    | nil => exact receiveBatch_follows h hr
    | cons batch batches =>
      rw [drained]
      by_cases hne : batch.datagrams = []
      · rw [drain, if_pos hne] at hr
        rw [hne, if_pos (by decide)]
        exact receiveBatch_follows h hr
      · rw [drain, if_neg hne, Option.bind_eq_bind, Option.bind_eq_some_iff] at hr
        obtain ⟨w₁, hw₁, hr⟩ := hr
        obtain ⟨b₁, h₁⟩ := receiveBatch_follows h hw₁
        by_cases hl : batch.datagrams.length < recvBatchSize
        · rw [if_pos hl] at hr ⊢
          cases hr
          exact ⟨b₁, h₁⟩
        · rw [if_neg hl] at hr ⊢
          obtain ⟨b₂, h₂⟩ := ih h₁ hr
          refine ⟨b₂, ?_⟩
          rw [List.append_assoc, ← items_append, ← reported_append] at h₂
          exact h₂

theorem topped_loads (world : World) (config : Config) (b : Books ConntrackEvent) :
    loadsOf (topped world config b) = loadsOf b ∧ filling (topped world config b) = filling b := by
  rw [topped, announced]
  split
  · rename_i hdue
    rw [Bool.and_eq_true, Option.isNone_iff_eq_none] at hdue
    have hnone : b.current = none := hdue.2
    refine ⟨loadsOf_post_nil _ _ _ _, ?_⟩
    simp [filling, post, hnone]
  · exact ⟨rfl, rfl⟩

/-- Up to the poll the worker sends at most a stand-alone template. -/
theorem polling_follows {tape : Tape ConntrackEvent} {w w₁ w₂ : State} {b : Books ConntrackEvent}
    {nlDrops timeout : Nat} (h : Follows world config tape w b)
    (hl : loopTop world config nlDrops w = some w₁)
    (hp : pollTimeout world config w₁ = some (timeout, w₂)) :
    ∃ b', Follows world config tape w₂ b' := by
  obtain ⟨w₁', hl', -, hi₁⟩ := loopTop_inStep h.inStep nlDrops
  cases hl.symm.trans hl'
  obtain ⟨k, hi₂⟩ := pollTimeout_inStep hi₁ hp
  obtain ⟨hloads, hfilling⟩ := topped_loads world config b
  refine ⟨_, hi₂, ?_⟩
  change Packs _ tape (loadsOf (topped world config b)) (filling (topped world config b))
  rw [hloads, hfilling]
  exact h.packs

/-- A flush that is not due to a full message puts a mark on the tape, and
nothing is left waiting. -/
theorem flush_marks {tape : Tape ConntrackEvent} {w : State} {b : Books ConntrackEvent}
    (h : Follows world config tape w b) (ha : w.messageActive = true) (reason : Reason) :
    ∃ w' b', flushMessage world reason w = some w' ∧ Finished world config w' b' ∧
      Packs (capacity config.template) (tape ++ [none]) (loadsOf b') [] := by
  obtain ⟨flag, events, hc, hh⟩ := h.inStep.mirrors.active ha
  obtain ⟨w', hf, hg, -, hr⟩ := flushMessage_agrees h.inStep.mirrors.agrees hh reason
  have hpacks := h.packs
  rw [filling, hc] at hpacks
  change Packs _ tape (loadsOf b) events at hpacks
  refine ⟨w', _, hf, ⟨hg, flushed_current _ _ _ _ _, ?_⟩, ?_⟩
  · rw [flushed_taken, h.inStep.taken, hr]
  · by_cases hne : events = []
    · subst hne
      rw [loadsOf_flushed_nil]
      exact hpacks.mark
    · rw [loadsOf_flushed _ b flag hne]
      exact hpacks.closeMarked hne (length_le_capacity (usable_template config) hh)

theorem idle_marks {tape : Tape ConntrackEvent} {w : State} {b : Books ConntrackEvent}
    (h : Follows world config tape w b) (ha : w.messageActive = false) :
    Packs (capacity config.template) (tape ++ [none]) (loadsOf b) [] := by
  have hpacks := h.packs
  rw [filling, h.inStep.mirrors.idle ha] at hpacks
  exact hpacks.mark

theorem flushOnTimeout_follows {tape : Tape ConntrackEvent} {w w' : State}
    {b : Books ConntrackEvent} (h : Follows world config tape w b)
    (hr : flushOnTimeout world w = some w') :
    ∃ b', Follows world config (tape ++ [none]) w' b' := by
  cases ha : w.messageActive with
  | true =>
    obtain ⟨w₁, b₁, hf, hfin, hpacks⟩ := flush_marks h ha .flush
    rw [flushOnTimeout, if_pos ha, hf] at hr
    cases hr
    refine ⟨b₁, ⟨⟨hfin.agrees.setActive false, ?_⟩, hfin.taken⟩, ?_⟩
    · rw [hfin.current]
      exact .idle rfl
    · rw [filling, hfin.current]
      exact hpacks
  | false =>
    rw [flushOnTimeout, ha] at hr
    cases hr
    refine ⟨b, h.inStep, ?_⟩
    rw [filling, h.inStep.mirrors.idle ha]
    exact idle_marks h ha

theorem shutdown_packs {tape : Tape ConntrackEvent} {w w' : State} {b : Books ConntrackEvent}
    (h : Follows world config tape w b) (hr : shutdown world w = some w') :
    ∃ b', Agrees world config w' b' ∧
      Packs (capacity config.template) (tape ++ [none]) (loadsOf b') [] := by
  cases ha : w.messageActive with
  | true =>
    obtain ⟨w₁, b₁, hf, hfin, hpacks⟩ := flush_marks h ha .shutdown
    rw [shutdown, if_pos ha, hf] at hr
    cases hr
    exact ⟨b₁, hfin.agrees, hpacks⟩
  | false =>
    rw [shutdown, ha] at hr
    cases hr
    exact ⟨b, h.inStep.mirrors.agrees, idle_marks h ha⟩

theorem iterate_follows {tape : Tape ConntrackEvent} {w w' : State} {b : Books ConntrackEvent}
    {t : Turn} (h : Follows world config tape w b)
    (hr : iterate world config w t = some (.again w')) :
    ∃ b', Follows world config (tape ++ heard world t.answer) w' b' := by
  obtain ⟨w₁, n, w₂, hl, hp, ha⟩ := iterate_eq_some hr
  obtain ⟨b₂, h₂⟩ := polling_follows h hl hp
  cases hans : t.answer with
  | interrupted =>
    rw [hans] at ha
    cases ha
    exact ⟨b₂, by simpa [heard] using h₂⟩
  | failed =>
    rw [hans] at ha
    cases ha
  | returned signals ready batches =>
    rw [hans] at ha
    cases signals with
    | cons signal signals =>
      obtain ⟨_, _, hstopped⟩ := Option.map_eq_some_iff.mp ha
      cases hstopped
    | nil =>
      cases ready with
      | false =>
        obtain ⟨w₃, hw₃, hagain⟩ := Option.map_eq_some_iff.mp ha
        cases hagain
        exact flushOnTimeout_follows h₂ hw₃
      | true =>
        obtain ⟨w₃, hw₃, hagain⟩ := Option.map_eq_some_iff.mp ha
        cases hagain
        exact drain_follows h₂ hw₃

theorem stopping_packs {tape : Tape ConntrackEvent} {w w' : State} {b : Books ConntrackEvent}
    {t : Turn} (h : Follows world config tape w b)
    (hr : iterate world config w t = some (.stopped w')) :
    ∃ b', Agrees world config w' b' ∧
      Packs (capacity config.template) (tape ++ heard world t.answer) (loadsOf b') [] := by
  obtain ⟨w₁, n, w₂, hl, hp, ha⟩ := iterate_eq_some hr
  obtain ⟨b₂, h₂⟩ := polling_follows h hl hp
  cases hans : t.answer with
  | interrupted =>
    rw [hans] at ha
    cases ha
  | failed =>
    rw [hans] at ha
    cases ha
  | returned signals ready batches =>
    rw [hans] at ha
    cases signals with
    | cons signal signals =>
      obtain ⟨w₃, hw₃, hstopped⟩ := Option.map_eq_some_iff.mp ha
      cases hstopped
      exact shutdown_packs h₂ hw₃
    | nil =>
      cases ready with
      | false =>
        obtain ⟨_, _, hagain⟩ := Option.map_eq_some_iff.mp ha
        cases hagain
      | true =>
        obtain ⟨_, _, hagain⟩ := Option.map_eq_some_iff.mp ha
        cases hagain

theorem runTurns_follows {tape : Tape ConntrackEvent} {w w' : State} {b : Books ConntrackEvent}
    {turns : List Turn} (h : Follows world config tape w b)
    (hr : runTurns world config w turns = some w') :
    ∃ b', Follows world config (tape ++ tapeOf world turns) w' b' := by
  induction turns generalizing tape w b with
  | nil =>
    cases hr
    exact ⟨b, by simpa [tapeOf] using h⟩
  | cons t turns ih =>
    simp only [runTurns, List.foldlM_cons, Option.bind_eq_bind, Option.bind_eq_some_iff] at hr
    obtain ⟨w₁, ⟨outcome, hi, ho⟩, hrest⟩ := hr
    rw [resume_eq_some ho] at hi
    obtain ⟨b₁, h₁⟩ := iterate_follows h hi
    obtain ⟨b₂, h₂⟩ := ih h₁ hrest
    refine ⟨b₂, ?_⟩
    rw [tapeOf, List.flatMap_cons, ← List.append_assoc]
    exact h₂

theorem start_follows (world : World) (config : Config) (nlDrops : Nat) :
    Follows world config [] (startWorker world config nlDrops) (opened world) :=
  ⟨startWorker_inStep world config nlDrops, packs_nil⟩

theorem run_follows {nlDrops : Nat} {turns : List Turn} {w : State}
    (hr : runTurns world config (startWorker world config nlDrops) turns = some w) :
    ∃ b, Follows world config (tapeOf world turns) w b :=
  runTurns_follows (start_follows world config nlDrops) hr

/-- What goes out is the stream of events cut at the quiet polls: each message
takes the next events up to its capacity and never holds events from both sides
of a poll that found nothing. A message that is not full goes out at such a
poll only, or at the shutdown, so until then its events wait, however many
polls bring nothing to export. -/
theorem messages_cut_at_quiet_polls {world : World} {config : Config} {nlDrops : Nat}
    {turns : List Turn} {w : State}
    (h : runTurns world config (startWorker world config nlDrops) turns = some w) :
    (∃ loads waiting, List.Forall₂ (Shows world config) (dataMessages w) loads ∧
      Pending config w waiting ∧
      Packs (capacity config.template) (tapeOf world turns) loads waiting) ∧
    ∀ t w', iterate world config w t = some (.stopped w') →
      ∃ loads, List.Forall₂ (Shows world config) (dataMessages w') loads ∧
        Packs (capacity config.template) (tapeOf world (turns ++ [t])) loads [] := by
  obtain ⟨b, hb⟩ := run_follows h
  refine ⟨⟨loadsOf b, filling b, shows_of_agrees hb.inStep.mirrors.agrees,
    pending_of_inProgress hb.inStep.mirrors.current, hb.packs⟩, ?_⟩
  intro t w' ht
  obtain ⟨b', hg, hpacks⟩ := stopping_packs hb ht
  refine ⟨loadsOf b', shows_of_agrees hg, ?_⟩
  simpa [tapeOf] using hpacks

theorem messages_cut_at_quiet_polls_sample :
    ∃ w loads waiting, runTurns sampleWorld sampleConfig (startWorker sampleWorld sampleConfig 0)
        sampleTurns = some w ∧ (dataMessages w).length = 1 ∧
      List.Forall₂ (Shows sampleWorld sampleConfig) (dataMessages w) loads ∧
      Packs (capacity sampleConfig.template) (tapeOf sampleWorld sampleTurns) loads waiting := by
  have heval : (runTurns sampleWorld sampleConfig (startWorker sampleWorld sampleConfig 0)
      sampleTurns).any (fun w => (dataMessages w).length = 1) = true := by
    decide +kernel
  obtain ⟨w, hw, hp⟩ := (Option.any_eq_true _ _).mp heval
  obtain ⟨⟨loads, waiting, hshows, -, hpacks⟩, -⟩ := messages_cut_at_quiet_polls hw
  exact ⟨w, loads, waiting, hw, of_decide_eq_true hp, hshows, hpacks⟩

theorem shows_kinds {messages : List Sent} {loads : List (Bool × List ConntrackEvent)}
    (h : List.Forall₂ (Shows world config) messages loads) :
    loads.map Prod.fst = messages.map Sent.template := by
  induction h with
  | nil => rfl
  | cons hm _ ih => rw [List.map_cons, List.map_cons, ih, hm.1]

/-- How the kernel packs the events into datagrams, and how many of them a poll
or a receive call hands over, cannot be seen in what goes out. Two runs that
hear the same events between the same quiet polls, and whose templates ride on
the same messages, send the same records in the same messages. -/
theorem framing_invisible {world world' : World} {config : Config} {nlDrops nlDrops' : Nat}
    {turns turns' : List Turn} {w w' : State}
    (h : runTurns world config (startWorker world config nlDrops) turns = some w)
    (h' : runTurns world' config (startWorker world' config nlDrops') turns' = some w')
    (htape : tapeOf world turns = tapeOf world' turns')
    (hflags : (dataMessages w).map Sent.template = (dataMessages w').map Sent.template) :
    ∃ loads waiting, List.Forall₂ (Shows world config) (dataMessages w) loads ∧
      List.Forall₂ (Shows world' config) (dataMessages w') loads ∧
      Pending config w waiting ∧ Pending config w' waiting := by
  obtain ⟨b, hb⟩ := run_follows h
  obtain ⟨b', hb'⟩ := run_follows h'
  have hshows := shows_of_agrees hb.inStep.mirrors.agrees
  have hshows' := shows_of_agrees hb'.inStep.mirrors.agrees
  have hpending := pending_of_inProgress hb.inStep.mirrors.current
  have hpending' := pending_of_inProgress hb'.inStep.mirrors.current
  have hpacks' := hb'.packs
  rw [← htape] at hpacks'
  obtain ⟨hloads, hwaiting⟩ := hb.packs.unique hpacks'
    (by rw [shows_kinds hshows, shows_kinds hshows', hflags])
  rw [← hloads] at hshows'
  rw [← hwaiting] at hpending'
  exact ⟨loadsOf b, filling b, hshows, hshows', hpending, hpending'⟩

/-- As many of the datagrams as one call returns. -/
def batchOf (ds : List Datagram) : Batch := ⟨ds.take recvBatchSize, List.length_take_le _ _⟩

/-- The sessions of the sample run, one datagram at a time and with an
interrupted poll between them. -/
def scatteredTurns : List Turn := [
  ⟨0, .returned [] true [batchOf [snatDatagram]]⟩,
  ⟨0, .interrupted⟩,
  ⟨0, .returned [] true [batchOf [⟨3, [1]⟩, snatDatagram]]⟩,
  ⟨0, .returned [] false []⟩,
  ⟨0, .returned [] true [batchOf [snatDatagram]]⟩]

theorem scattered_tape : tapeOf sampleWorld sampleTurns = tapeOf sampleWorld scatteredTurns := by
  have hsplit : reported sampleWorld [snatDatagram, ⟨3, [1]⟩, snatDatagram] =
      reported sampleWorld [snatDatagram] ++ reported sampleWorld [⟨3, [1]⟩, snatDatagram] :=
    reported_append sampleWorld [snatDatagram] [⟨3, [1]⟩, snatDatagram]
  simp [tapeOf, sampleTurns, scatteredTurns, batchOf, heard, drained, maxBatchesPerPoll,
    recvBatchSize, hsplit, items_append]

theorem framing_invisible_sample :
    ∃ w w' loads, runTurns sampleWorld sampleConfig (startWorker sampleWorld sampleConfig 0)
        sampleTurns = some w ∧
      runTurns sampleWorld sampleConfig (startWorker sampleWorld sampleConfig 0)
        scatteredTurns = some w' ∧
      List.Forall₂ (Shows sampleWorld sampleConfig) (dataMessages w) loads ∧
      List.Forall₂ (Shows sampleWorld sampleConfig) (dataMessages w') loads := by
  have heval : (runTurns sampleWorld sampleConfig (startWorker sampleWorld sampleConfig 0)
      sampleTurns).any (fun w => (dataMessages w).map Sent.template = [false]) = true := by
    decide +kernel
  have heval' : (runTurns sampleWorld sampleConfig (startWorker sampleWorld sampleConfig 0)
      scatteredTurns).any (fun w => (dataMessages w).map Sent.template = [false]) = true := by
    decide +kernel
  obtain ⟨w, hw, hp⟩ := (Option.any_eq_true _ _).mp heval
  obtain ⟨w', hw', hp'⟩ := (Option.any_eq_true _ _).mp heval'
  obtain ⟨loads, -, hshows, hshows', -, -⟩ := framing_invisible hw hw' scattered_tape
    ((of_decide_eq_true hp).trans (of_decide_eq_true hp').symm)
  exact ⟨w, w', loads, hw, hw', hshows, hshows'⟩

end NatStream.Worker.Packing
