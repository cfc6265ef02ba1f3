import NatStream.Worker.Refinement

namespace NatStream.Worker.Iterations

open NatStream.Lib.Bytes NatStream.Lib.Time NatStream.Events NatStream.Export.Templates
open NatStream.Export.Encoders NatStream.Export.Layout NatStream.Netlink.Parsers
open NatStream.Netlink.Datagrams NatStream.Worker.EventLoop NatStream.Worker.Ledger
open NatStream.Worker.Refinement

variable {world : World} {config : Config}

/-- What the worker parses of the datagrams it received: the bytes it kept of
those the kernel sent, unless there are none. -/
def processed (received : List Datagram) : List (List UInt8) :=
  ((received.filter fun d => d.senderPortid = 0).map kept).filter fun bytes => bytes ≠ []

def reported (world : World) (received : List Datagram) : List ConntrackEvent :=
  (processed received).flatMap (events world.endian)

theorem reported_append (world : World) (ds ds' : List Datagram) :
    reported world (ds ++ ds') = reported world ds ++ reported world ds' := by
  simp only [reported, processed, List.filter_append, List.map_append, List.flatMap_append]

theorem reported_foreign {d : Datagram} (h : d.senderPortid ≠ 0) : reported world [d] = [] := by
  simp [reported, processed, h]

theorem reported_empty {d : Datagram} (h : (kept d).length = 0) : reported world [d] = [] := by
  rw [List.length_eq_zero_iff] at h
  by_cases hp : d.senderPortid = 0 <;> simp [reported, processed, hp, h]

theorem reported_kernel {d : Datagram} (h : ¬ d.senderPortid ≠ 0) (hk : ¬ (kept d).length = 0) :
    reported world [d] = events world.endian (kept d) := by
  rw [List.length_eq_zero_iff] at hk
  simp [reported, processed, not_not.mp h, hk]

/-- The books match the worker between two datagrams. -/
structure InStep (world : World) (config : Config) (w : State) (b : Books ConntrackEvent) : Prop where
  mirrors : Mirrors world config w b
  taken : b.taken = reported world w.received

/-- The computation succeeds, by moves of the ledger. -/
def Advances (world : World) (config : Config) (b : Books ConntrackEvent) (result : Option State) :
    Prop :=
  ∃ w' b', result = some w' ∧ Moves (terms world config) b b' ∧ InStep world config w' b'

theorem Advances.of_leads {w w' : State} {b b' : Books ConntrackEvent} {taken : List ConntrackEvent}
    (h : Leads world config w b w' b' taken)
    (hr : b.taken ++ taken = reported world w.received) :
    Advances world config b (some w') := by
  refine ⟨w', b', rfl, h.moves, h.mirrors, ?_⟩
  rw [h.taken, h.received, hr]

theorem countTruncated_mirrors {w : State} {b : Books ConntrackEvent} {d : Datagram}
    (h : Mirrors world config w b) : Mirrors world config (countTruncated w d) b := by
  rw [countTruncated]
  split
  · exact h.of_same rfl rfl rfl rfl rfl rfl rfl
  · exact h

theorem countTruncated_received (w : State) (d : Datagram) :
    (countTruncated w d).received = w.received := by
  rw [countTruncated]
  split <;> rfl

theorem receiveDatagram_foreign {d : Datagram} (hp : d.senderPortid ≠ 0) (w : State) :
    receiveDatagram world w d =
      some { w with received := w.received ++ [d], foreignMsgs := w.foreignMsgs + 1 } :=
  if_pos hp

theorem receiveDatagram_empty {d : Datagram} (hp : ¬ d.senderPortid ≠ 0)
    (hk : (kept d).length = 0) (w : State) :
    receiveDatagram world w d =
      some (countTruncated { w with received := w.received ++ [d] } d) := by
  rw [receiveDatagram]
  simp only [if_neg hp, if_pos hk]

theorem receiveDatagram_kernel {d : Datagram} (hp : ¬ d.senderPortid ≠ 0)
    (hk : ¬ (kept d).length = 0) (w : State) :
    receiveDatagram world w d =
      (ensureActive (countTruncated { w with received := w.received ++ [d] } d)).bind
        ((events world.endian (kept d)).foldlM (recordEvent world)) := by
  rw [receiveDatagram]
  simp only [if_neg hp, if_neg hk, parseConntrackMessages_eq]
  rfl

theorem receiveDatagram_advances {w : State} {b : Books ConntrackEvent}
    (h : InStep world config w b) (d : Datagram) :
    Advances world config b (receiveDatagram world w d) := by
  by_cases hp : d.senderPortid ≠ 0
  · rw [receiveDatagram_foreign hp]
    refine ⟨_, b, rfl, .refl, h.mirrors.of_same rfl rfl rfl rfl rfl rfl rfl, ?_⟩
    rw [reported_append, reported_foreign hp, List.append_nil, h.taken]
  · have hm : Mirrors world config { w with received := w.received ++ [d] } b :=
      h.mirrors.of_same rfl rfl rfl rfl rfl rfl rfl
    have hr := countTruncated_received { w with received := w.received ++ [d] } d
    by_cases hk : (kept d).length = 0
    · rw [receiveDatagram_empty hp hk]
      refine ⟨_, b, rfl, .refl, countTruncated_mirrors hm, ?_⟩
      rw [hr, reported_append, reported_empty hk, List.append_nil, h.taken]
    · obtain ⟨w₁, b₁, hw₁, hl₁, ha₁⟩ := ensureActive_leads (countTruncated_mirrors (d := d) hm)
      obtain ⟨w₂, b₂, hw₂, hl₂⟩ := recordEvents_leads hl₁.mirrors ha₁ (events world.endian (kept d))
      rw [receiveDatagram_kernel hp hk, hw₁, Option.bind_some, hw₂]
      apply Advances.of_leads (hl₁.trans hl₂)
      rw [hr, reported_append, reported_kernel hp hk, h.taken]
      rfl

theorem Advances.after {b b' : Books ConntrackEvent} {result : Option State}
    (hm : Moves (terms world config) b b') (h : Advances world config b' result) :
    Advances world config b result := by
  obtain ⟨w'', b'', hw, hm', hi⟩ := h
  exact ⟨w'', b'', hw, hm.trans hm', hi⟩

theorem receiveBatch_advances {w : State} {b : Books ConntrackEvent} (h : InStep world config w b)
    (ds : List Datagram) : Advances world config b (ds.foldlM (receiveDatagram world) w) := by
  induction ds generalizing w b with
  | nil => exact ⟨w, b, rfl, .refl, h⟩
  | cons d ds ih =>
    obtain ⟨w₁, b₁, hw₁, hm₁, hi₁⟩ := receiveDatagram_advances h d
    rw [List.foldlM_cons, hw₁]
    exact Advances.after hm₁ (ih hi₁)

theorem drain_advances {w : State} {b : Books ConntrackEvent} (h : InStep world config w b)
    (k : Nat) (batches : List Batch) : Advances world config b (drain world k batches w) := by
  induction k generalizing w b batches with
  | zero => exact ⟨w, b, rfl, .refl, h⟩
  | succ k ih =>
    cases batches with
    | nil => exact ⟨w, b, rfl, .refl, h⟩
    | cons batch batches =>
      rw [drain]
      by_cases hne : batch.datagrams = []
      · exact ⟨w, b, if_pos hne, .refl, h⟩
      · obtain ⟨w₁, b₁, hw₁, hm₁, hi₁⟩ := receiveBatch_advances h batch.datagrams
        rw [if_neg hne, hw₁, Option.bind_eq_bind, Option.bind_some]
        by_cases hl : batch.datagrams.length < recvBatchSize
        · exact ⟨w₁, b₁, if_pos hl, hm₁, hi₁⟩
        · rw [if_neg hl]
          exact Advances.after hm₁ (ih hi₁ batches)

/-- The books once the timers have been looked at. -/
def timed (c : Terms ConntrackEvent) (b : Books ConntrackEvent) : Books ConntrackEvent :=
  { b with due := b.due || decide (isDue c b), ticks := b.ticks + 1 }

theorem timed_moves (c : Terms ConntrackEvent) (b : Books ConntrackEvent) : Moves c b (timed c b) := by
  have hpass := Move.pass (c := c) { b with due := b.due || decide (isDue c b) } 1
  by_cases hd : isDue c b
  · simp only [timed, hd, decide_true, Bool.or_true] at hpass ⊢
    exact (Relation.ReflTransGen.single (.fallDue b hd)).tail hpass
  · simp only [timed, hd, decide_false, Bool.or_false] at hpass ⊢
    exact .single hpass

theorem retransmitDue_eq {w : State} {b : Books ConntrackEvent} (h : Agrees world config w b) :
    retransmitDue world config w = decide (isDue (terms world config) b) := by
  rw [retransmitDue, h.ticks, h.lastTemplate]
  rfl

theorem reportStats_inStep {w : State} {b : Books ConntrackEvent} (h : InStep world config w b)
    (now : Instant) (nlDrops : Nat) : InStep world config (reportStats now nlDrops w) b := by
  rw [reportStats]
  split
  · exact ⟨h.mirrors.of_same rfl rfl rfl rfl rfl rfl rfl, h.taken⟩
  · exact h

theorem checkTimers_inStep {w : State} {b : Books ConntrackEvent} (h : InStep world config w b)
    (nlDrops : Nat) :
    InStep world config (checkTimers world config nlDrops w) (timed (terms world config) b) := by
  rw [timed, ← retransmitDue_eq h.mirrors.agrees, ← h.mirrors.agrees.due]
  exact reportStats_inStep
    ⟨(h.mirrors.setDue (w.includeTemplate || retransmitDue world config w)).tick 1, h.taken⟩ _ _

theorem reportStats_messageActive (now : Instant) (nlDrops : Nat) (w : State) :
    (reportStats now nlDrops w).messageActive = w.messageActive := by
  rw [reportStats]
  split <;> rfl

/-- The books after the stand-alone template, which goes out only while no
message is in progress. -/
def announced (c : Terms ConntrackEvent) (b : Books ConntrackEvent) (delivered : Bool) :
    Books ConntrackEvent :=
  if b.due && b.current.isNone then post c b true [] delivered else b

theorem announced_moves (c : Terms ConntrackEvent) (b : Books ConntrackEvent) (delivered : Bool) :
    Moves c b (announced c b delivered) := by
  rw [announced]
  split
  · rename_i h
    rw [Bool.and_eq_true, Option.isNone_iff_eq_none] at h
    exact .single (.standAlone b delivered h.2 h.1)
  · exact .refl

theorem sendTemplate_inStep {w : State} {b : Books ConntrackEvent} (h : InStep world config w b) :
    ∃ w', sendTemplate world w = some w' ∧ w'.messageActive = w.messageActive ∧
      InStep world config w'
        (announced (terms world config) b (world.sendOk b.sent.length)) := by
  have hg := h.mirrors.agrees
  rw [announced, h.mirrors.current.isNone, ← hg.due]
  by_cases hs : (w.includeTemplate && !w.messageActive) = true
  · obtain ⟨e', hb, hg₁, hh⟩ := beginMessage_agrees hg true
    obtain ⟨w', hf, hg', ha, hr⟩ := flushMessage_agrees hg₁ hh .template
    rw [flushed, if_pos (Or.inl rfl)] at hg'
    refine ⟨w', ?_, ha, ?_⟩
    · rw [sendTemplate, if_pos hs, hb]
      exact hf
    · rw [if_pos hs]
      rw [Bool.and_eq_true, Bool.not_eq_true'] at hs
      exact ⟨⟨hg', .idle (ha.trans hs.2)⟩, h.taken.trans (congrArg _ hr.symm)⟩
  · refine ⟨w, ?_, rfl, ?_⟩
    · rw [sendTemplate, if_neg hs]
    · rw [if_neg hs]
      exact h

/-- The books when the loop gets to the poll. -/
def topped (world : World) (config : Config) (b : Books ConntrackEvent) : Books ConntrackEvent :=
  announced (terms world config) (timed (terms world config) b) (world.sendOk b.sent.length)

theorem loopTop_inStep {w : State} {b : Books ConntrackEvent} (h : InStep world config w b)
    (nlDrops : Nat) :
    ∃ w', loopTop world config nlDrops w = some w' ∧ w'.messageActive = w.messageActive ∧
      InStep world config w' (topped world config b) := by
  obtain ⟨w', hs, ha, hi⟩ := sendTemplate_inStep (checkTimers_inStep h nlDrops)
  rw [checkTimers, reportStats_messageActive] at ha
  exact ⟨w', hs, ha, hi⟩

theorem pollTimeout_inStep {w w' : State} {b : Books ConntrackEvent} {n : Nat}
    (h : InStep world config w b) (hp : pollTimeout world config w = some (n, w')) :
    ∃ k, InStep world config w' { b with ticks := b.ticks + k } := by
  rw [pollTimeout] at hp
  split at hp
  · cases hp
    exact ⟨0, h⟩
  · simp only [Option.bind_eq_bind, Option.bind_eq_some_iff, Option.pure_def, Option.some.injEq,
      Prod.mk.injEq] at hp
    obtain ⟨_, _, _, _, _, rfl⟩ := hp
    exact ⟨1, h.mirrors.tick 1, h.taken⟩

/-- The books of a worker that has shut down: nothing is left in progress. -/
structure Finished (world : World) (config : Config) (w : State) (b : Books ConntrackEvent) :
    Prop where
  agrees : Agrees world config w b
  current : b.current = none
  taken : b.taken = reported world w.received

theorem flush_finished {w : State} {b : Books ConntrackEvent} (h : InStep world config w b)
    (ha : w.messageActive = true) (reason : Reason) :
    ∃ w' b', flushMessage world reason w = some w' ∧ Moves (terms world config) b b' ∧
      Finished world config w' b' := by
  obtain ⟨flag, events, hc, hh⟩ := h.mirrors.active ha
  obtain ⟨w', hf, hg, -, hr⟩ := flushMessage_agrees h.mirrors.agrees hh reason
  refine ⟨w', _, hf, .single (flushed_move hc _), hg, flushed_current _ _ _ _ _, ?_⟩
  rw [flushed_taken, h.taken, hr]

theorem shutdown_finished {w : State} {b : Books ConntrackEvent} (h : InStep world config w b) :
    ∃ w' b', shutdown world w = some w' ∧ Moves (terms world config) b b' ∧
      Finished world config w' b' := by
  rw [shutdown]
  by_cases ha : w.messageActive = true
  · rw [if_pos ha]
    exact flush_finished h ha .shutdown
  · rw [if_neg ha]
    exact ⟨w, b, rfl, .refl, h.mirrors.agrees, h.mirrors.idle (Bool.eq_false_of_not_eq_true ha), h.taken⟩

theorem flushOnTimeout_advances {w : State} {b : Books ConntrackEvent}
    (h : InStep world config w b) : Advances world config b (flushOnTimeout world w) := by
  rw [flushOnTimeout]
  by_cases ha : w.messageActive = true
  · obtain ⟨w₁, b₁, hf, hm, hg⟩ := flush_finished h ha .flush
    rw [if_pos ha, hf]
    refine ⟨_, b₁, rfl, hm, ⟨hg.agrees.setActive false, ?_⟩, hg.taken⟩
    rw [hg.current]
    exact .idle rfl
  · rw [if_neg ha]
    exact ⟨w, b, rfl, .refl, h⟩

/-- What the books know about each way an iteration can end. -/
inductive Ends (world : World) (config : Config) (b : Books ConntrackEvent) : Outcome → Prop where
  | again {w : State} : InStep world config w b → Ends world config b (.again w)
  | stopped {w : State} : Finished world config w b → Ends world config b (.stopped w)
  | failed {w : State} : InStep world config w b → Ends world config b (.failed w)

theorem afterPoll_ends {w : State} {b : Books ConntrackEvent} (h : InStep world config w b)
    (answer : PollAnswer) :
    ∃ outcome b', afterPoll world w answer = some outcome ∧ Moves (terms world config) b b' ∧
      Ends world config b' outcome := by
  cases answer with
  | interrupted => exact ⟨_, b, rfl, .refl, .again h⟩
  | failed => exact ⟨_, b, rfl, .refl, .failed h⟩
  | returned signals ready batches =>
    cases signals with
    | cons signal signals =>
      obtain ⟨w', b', hw, hm, hf⟩ := shutdown_finished h
      exact ⟨_, b', congrArg (Option.map Outcome.stopped) hw, hm, .stopped hf⟩
    | nil =>
      cases ready with
      | false =>
        obtain ⟨w', b', hw, hm, hi⟩ := flushOnTimeout_advances h
        exact ⟨_, b', congrArg (Option.map Outcome.again) hw, hm, .again hi⟩
      | true =>
        obtain ⟨w', b', hw, hm, hi⟩ := drain_advances h maxBatchesPerPoll batches
        exact ⟨_, b', congrArg (Option.map Outcome.again) hw, hm, .again hi⟩

theorem iterate_eq_some {w : State} {t : Turn} {outcome : Outcome}
    (h : iterate world config w t = some outcome) :
    ∃ w₁ n w₂, loopTop world config t.nlDrops w = some w₁ ∧
      pollTimeout world config w₁ = some (n, w₂) ∧ afterPoll world w₂ t.answer = some outcome := by
  simp only [iterate, Option.bind_eq_bind, Option.bind_eq_some_iff] at h
  obtain ⟨w₁, hl, ⟨n, w₂⟩, hp, ha⟩ := h
  exact ⟨w₁, n, w₂, hl, hp, ha⟩

theorem iterate_ends {w : State} {b : Books ConntrackEvent} {t : Turn} {outcome : Outcome}
    (h : InStep world config w b) (hr : iterate world config w t = some outcome) :
    ∃ b', Moves (terms world config) (topped world config b) b' ∧ Ends world config b' outcome := by
  obtain ⟨w₁, n, w₂, hl, hp, ha⟩ := iterate_eq_some hr
  obtain ⟨w₁', hl', -, h₁⟩ := loopTop_inStep h t.nlDrops
  cases hl.symm.trans hl'
  obtain ⟨k, h₂⟩ := pollTimeout_inStep h₁ hp
  obtain ⟨outcome', b', ha', hm, he⟩ := afterPoll_ends h₂ t.answer
  cases ha.symm.trans ha'
  exact ⟨b', .head (.pass _ k) hm, he⟩

theorem topped_moves (world : World) (config : Config) (b : Books ConntrackEvent) :
    Moves (terms world config) b (topped world config b) :=
  (timed_moves _ b).trans (announced_moves _ _ _)

def opened (world : World) : Books ConntrackEvent := opening (world.clock 1) 3

theorem startWorker_inStep (world : World) (config : Config) (nlDrops : Nat) :
    InStep world config (startWorker world config nlDrops) (opened world) :=
  ⟨⟨⟨rfl, rfl, rfl, rfl, rfl, rfl, rfl, rfl, rfl, .nil⟩, .idle rfl⟩, rfl⟩

theorem runs_inStep {w w' : State} {b : Books ConntrackEvent} (h : InStep world config w b)
    (hr : Runs world config w w') :
    ∃ b', Moves (terms world config) b b' ∧ InStep world config w' b' := by
  induction hr with
  | refl => exact ⟨b, .refl, h⟩
  | turn _ ht ih =>
    obtain ⟨b₁, hm₁, h₁⟩ := ih
    obtain ⟨b₂, hm₂, he⟩ := iterate_ends h₁ ht
    cases he with
    | again h₂ => exact ⟨b₂, (hm₁.trans (topped_moves world config b₁)).trans hm₂, h₂⟩

theorem stopped_finished {w w' w'' : State} {b : Books ConntrackEvent} {t : Turn}
    (h : InStep world config w b) (hr : Runs world config w w')
    (ht : iterate world config w' t = some (.stopped w'')) :
    ∃ b', Moves (terms world config) b b' ∧ Finished world config w'' b' := by
  obtain ⟨b₁, hm₁, h₁⟩ := runs_inStep h hr
  obtain ⟨b₂, hm₂, he⟩ := iterate_ends h₁ ht
  cases he with
  | stopped hf => exact ⟨b₂, (hm₁.trans (topped_moves world config b₁)).trans hm₂, hf⟩

theorem visits_agrees {w w' : State} {b : Books ConntrackEvent} (h : InStep world config w b)
    (hv : Visits world config w w') :
    ∃ b', Moves (terms world config) b b' ∧ Agrees world config w' b' := by
  cases hv with
  | top hr =>
    obtain ⟨b', hm, hi⟩ := runs_inStep h hr
    exact ⟨b', hm, hi.mirrors.agrees⟩
  | stopped hr ht =>
    obtain ⟨b', hm, hf⟩ := stopped_finished h hr ht
    exact ⟨b', hm, hf.agrees⟩

/-- The worker refines the ledger: every state at the top of the loop is one
the ledger reaches by its moves. -/
theorem reaches_inStep {w : State} (h : Reaches world config w) :
    ∃ b, Moves (terms world config) (opened world) b ∧ InStep world config w b := by
  obtain ⟨nlDrops, hr⟩ := h
  exact runs_inStep (startWorker_inStep world config nlDrops) hr

/-- An iteration can only fail in computing the next deadline. -/
theorem iterate_isSome {w : State} (h : Reaches world config w) (t : Turn)
    (hp : ∀ w', loopTop world config t.nlDrops w = some w' →
      (pollTimeout world config w').isSome) : (iterate world config w t).isSome := by
  obtain ⟨b, -, hi⟩ := reaches_inStep h
  obtain ⟨w₁, hl, -, h₁⟩ := loopTop_inStep hi t.nlDrops
  obtain ⟨⟨n, w₂⟩, hp'⟩ := Option.isSome_iff_exists.mp (hp w₁ hl)
  obtain ⟨k, h₂⟩ := pollTimeout_inStep h₁ hp'
  obtain ⟨outcome, b', ha, -, -⟩ := afterPoll_ends h₂ t.answer
  simp only [iterate, hl, hp', ha, Option.bind_eq_bind, Option.bind_some, Option.isSome_some]

end NatStream.Worker.Iterations
