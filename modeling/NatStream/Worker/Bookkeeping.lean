import NatStream.Worker.Iterations

namespace NatStream.Worker.Bookkeeping

open NatStream.Lib.Bytes NatStream.Lib.Time NatStream.Events NatStream.Export.Encoders
open NatStream.Netlink.Parsers NatStream.Netlink.Datagrams NatStream.Worker.EventLoop
open NatStream.Worker.Refinement NatStream.Worker.Iterations

variable {world : World} {config : Config} {R : Reason → Prop}

/-- What the last report of the statistics left behind is still there. -/
structure SameReport (w w' : State) : Prop where
  time : w'.lastStatsTime = w.lastStatsTime
  nlDrops : w'.prevNlDrops = w.prevNlDrops
  sendErrors : w'.prevSendErrors = w.prevSendErrors
  truncated : w'.prevTruncatedMsgs = w.prevTruncatedMsgs
  foreignMsgs : w'.prevForeignMsgs = w.prevForeignMsgs
  saturated : w'.prevSaturated = w.prevSaturated
  lines : w'.lines = w.lines
  readings : w'.dropReadings = w.dropReadings

theorem SameReport.refl (w : State) : SameReport w w :=
  ⟨rfl, rfl, rfl, rfl, rfl, rfl, rfl, rfl⟩

theorem SameReport.trans {w w' w'' : State} (h : SameReport w w') (h' : SameReport w' w'') :
    SameReport w w'' :=
  ⟨h'.time.trans h.time, h'.nlDrops.trans h.nlDrops, h'.sendErrors.trans h.sendErrors,
    h'.truncated.trans h.truncated, h'.foreignMsgs.trans h.foreignMsgs,
    h'.saturated.trans h.saturated, h'.lines.trans h.lines, h'.readings.trans h.readings⟩

def isForeign (d : Datagram) : Bool := d.senderPortid ≠ 0

/-- A datagram of the kernel that does not fit its slot. -/
def overflows (d : Datagram) : Bool := d.senderPortid = 0 ∧ recvSlotSize < d.payload.length

def undelivered (m : Sent) : Bool := !m.delivered

/-- Messages went out for these reasons, and those whose send failed were
counted. -/
def Posted (R : Reason → Prop) (w w' : State) : Prop :=
  ∃ new, w'.outbox = w.outbox ++ new ∧ w'.sendErrors = w.sendErrors + new.countP undelivered ∧
    ∀ m ∈ new, R m.reason

theorem Posted.of_same {w w' : State} (ho : w'.outbox = w.outbox)
    (he : w'.sendErrors = w.sendErrors) : Posted R w w' :=
  ⟨[], by rw [ho, List.append_nil], he, List.forall_mem_nil _⟩

theorem Posted.trans {w w' w'' : State} (h : Posted R w w') (h' : Posted R w' w'') :
    Posted R w w'' := by
  obtain ⟨new, ho, he, hr⟩ := h
  obtain ⟨new', ho', he', hr'⟩ := h'
  refine ⟨new ++ new', ?_, ?_, List.forall_mem_append.mpr ⟨hr, hr'⟩⟩
  · rw [ho', ho, List.append_assoc]
  · rw [he', he, List.countP_append, Nat.add_assoc]

/-- The worker took in these datagrams and counted them, sent what it sent, and
reported nothing. -/
structure Takes (R : Reason → Prop) (w : State) (ds : List Datagram) (w' : State) : Prop where
  posted : Posted R w w'
  received : w'.received = w.received ++ ds
  truncated : w'.truncatedMsgs = w.truncatedMsgs + ds.countP overflows
  foreignMsgs : w'.foreignMsgs = w.foreignMsgs + ds.countP isForeign
  same : SameReport w w'

theorem Takes.nil (w : State) : Takes R w [] w :=
  ⟨.of_same rfl rfl, (List.append_nil _).symm, rfl, rfl, SameReport.refl w⟩

theorem Takes.trans {w w' w'' : State} {ds ds' : List Datagram} (h : Takes R w ds w')
    (h' : Takes R w' ds' w'') : Takes R w (ds ++ ds') w'' where
  posted := h.posted.trans h'.posted
  received := by rw [h'.received, h.received, List.append_assoc]
  truncated := by rw [h'.truncated, h.truncated, List.countP_append, Nat.add_assoc]
  foreignMsgs := by rw [h'.foreignMsgs, h.foreignMsgs, List.countP_append, Nat.add_assoc]
  same := h.same.trans h'.same

theorem Takes.thenNothing {w w' w'' : State} {ds : List Datagram} (h : Takes R w ds w')
    (h' : Takes R w' [] w'') : Takes R w ds w'' := by
  have ht := h.trans h'
  rwa [List.append_nil] at ht

/-- Setting the variables that no one counts. -/
theorem Takes.aside (w : State) (encoder : Encoder) (messageActive : Bool) (ticks : Nat) :
    Takes R w [] { w with encoder, messageActive, ticks } :=
  ⟨.of_same rfl rfl, (List.append_nil _).symm, rfl, rfl, rfl, rfl, rfl, rfl, rfl, rfl, rfl, rfl⟩

theorem flushMessage_takes {w w' : State} {reason : Reason}
    (hR : R reason) (h : flushMessage world reason w = some w') : Takes R w [] w' := by
  rw [flushMessage] at h
  split at h
  · cases h
    exact Takes.nil w
  · rw [settleTemplate_eq] at h
    simp only [Option.bind_eq_bind, Option.bind_eq_some_iff, Option.pure_def, Option.some.injEq] at h
    obtain ⟨_, _, rfl⟩ := h
    refine ⟨⟨_, rfl, ?_, List.forall_mem_singleton.mpr hR⟩, (List.append_nil _).symm, rfl, rfl, rfl,
      rfl, rfl, rfl, rfl, rfl, rfl, rfl⟩
    rw [List.countP_singleton, undelivered]
    cases world.sendOk w.outbox.length <;> rfl

theorem recordEvent_takes {w w' : State} {event : ConntrackEvent} (hR : R .full)
    (h : recordEvent world w event = some w') : Takes R w [] w' := by
  simp only [recordEvent, Option.bind_eq_bind, Option.bind_eq_some_iff] at h
  obtain ⟨⟨encoder, accepted⟩, -, h⟩ := h
  have hset : Takes R w [] { w with encoder } := Takes.aside w encoder _ _
  split at h
  · cases h
    exact hset
  · simp only [Option.bind_eq_some_iff, Option.pure_def, Option.some.injEq] at h
    obtain ⟨w₁, hf, _, _, _, _, rfl⟩ := h
    have hf' := hset.thenNothing (flushMessage_takes hR hf)
    exact hf'.thenNothing (Takes.aside w₁ _ _ _)

theorem recordEvents_takes {w w' : State} {events : List ConntrackEvent} (hR : R .full)
    (h : events.foldlM (recordEvent world) w = some w') : Takes R w [] w' := by
  induction events generalizing w with
  | nil =>
    cases h
    exact Takes.nil _
  | cons event events ih =>
    rw [List.foldlM_cons, Option.bind_eq_bind, Option.bind_eq_some_iff] at h
    obtain ⟨w₁, h₁, h⟩ := h
    exact (recordEvent_takes hR h₁).thenNothing (ih h)

theorem ensureActive_takes {w w' : State} (h : ensureActive w = some w') : Takes R w [] w' := by
  rw [ensureActive] at h
  split at h
  · cases h
    exact Takes.nil _
  · simp only [Option.bind_eq_bind, Option.bind_eq_some_iff, Option.pure_def, Option.some.injEq] at h
    obtain ⟨_, _, rfl⟩ := h
    exact Takes.aside w _ _ _

theorem overflows_iff {d : Datagram} (hp : ¬ d.senderPortid ≠ 0) :
    overflows d = true ↔ d.payload.length > (kept d).length := by
  rw [overflows, decide_eq_true_iff, kept, List.length_take]
  have hz : d.senderPortid = 0 := not_not.mp hp
  simp only [hz, true_and]
  omega

theorem countTruncated_takes {d : Datagram} (hp : ¬ d.senderPortid ≠ 0) (w : State) :
    Takes R w [d] (countTruncated { w with received := w.received ++ [d] } d) := by
  have hf : isForeign d = false := decide_eq_false hp
  rw [countTruncated]
  by_cases ho : overflows d = true
  · rw [if_pos ((overflows_iff hp).mp ho)]
    exact ⟨.of_same rfl rfl, rfl, by simp [ho], by simp [hf], rfl, rfl, rfl, rfl, rfl, rfl, rfl, rfl⟩
  · rw [if_neg (fun h => ho ((overflows_iff hp).mpr h))]
    exact ⟨.of_same rfl rfl, rfl, by simp [ho], by simp [hf], rfl, rfl, rfl, rfl, rfl, rfl, rfl, rfl⟩

theorem receiveDatagram_takes {w w' : State} {d : Datagram} (hR : R .full)
    (h : receiveDatagram world w d = some w') : Takes R w [d] w' := by
  by_cases hp : d.senderPortid ≠ 0
  · rw [receiveDatagram_foreign hp] at h
    cases h
    have hf : isForeign d = true := decide_eq_true hp
    have ho : overflows d = false := decide_eq_false fun h => hp h.1
    exact ⟨.of_same rfl rfl, rfl, by simp [ho], by simp [hf], rfl, rfl, rfl, rfl, rfl, rfl, rfl, rfl⟩
  · have hcount := countTruncated_takes (R := R) hp w
    by_cases hk : (kept d).length = 0
    · rw [receiveDatagram_empty hp hk] at h
      cases h
      exact hcount
    · rw [receiveDatagram_kernel hp hk, Option.bind_eq_some_iff] at h
      obtain ⟨w₁, h₁, h⟩ := h
      exact (hcount.thenNothing (ensureActive_takes h₁)).thenNothing (recordEvents_takes hR h)

theorem receiveBatch_takes {w w' : State} {ds : List Datagram} (hR : R .full)
    (h : ds.foldlM (receiveDatagram world) w = some w') : Takes R w ds w' := by
  induction ds generalizing w with
  | nil =>
    cases h
    exact Takes.nil _
  | cons d ds ih =>
    rw [List.foldlM_cons, Option.bind_eq_bind, Option.bind_eq_some_iff] at h
    obtain ⟨w₁, h₁, h⟩ := h
    exact (receiveDatagram_takes hR h₁).trans (ih h)

theorem drain_takes {w w' : State} {k : Nat} {batches : List Batch} (hR : R .full)
    (h : drain world k batches w = some w') : ∃ ds, Takes R w ds w' := by
  induction k generalizing w batches with
  | zero =>
    cases h
    exact ⟨[], Takes.nil _⟩
  | succ k ih =>
    cases batches with
    | nil =>
      cases h
      exact ⟨[], Takes.nil _⟩
    | cons batch batches =>
      rw [drain] at h
      split at h
      · cases h
        exact ⟨[], Takes.nil _⟩
      · rw [Option.bind_eq_bind, Option.bind_eq_some_iff] at h
        obtain ⟨w₁, h₁, h⟩ := h
        have ht₁ := receiveBatch_takes hR h₁
        split at h
        · cases h
          exact ⟨_, ht₁⟩
        · obtain ⟨ds, ht⟩ := ih h
          exact ⟨_, ht₁.trans ht⟩

theorem sendTemplate_takes {w w' : State} (hR : R .template) (h : sendTemplate world w = some w') :
    Takes R w [] w' := by
  rw [sendTemplate] at h
  split at h
  · rw [Option.bind_eq_bind, Option.bind_eq_some_iff] at h
    obtain ⟨encoder, -, h⟩ := h
    have hset : Takes R w [] { w with encoder } := Takes.aside w encoder _ _
    exact hset.thenNothing (flushMessage_takes hR h)
  · cases h
    exact Takes.nil _

theorem pollTimeout_takes {w w' : State} {timeout : Nat}
    (h : pollTimeout world config w = some (timeout, w')) : Takes R w [] w' := by
  rw [pollTimeout] at h
  split at h
  · cases h
    exact Takes.nil _
  · simp only [Option.bind_eq_bind, Option.bind_eq_some_iff, Option.pure_def, Option.some.injEq,
      Prod.mk.injEq] at h
    obtain ⟨_, _, _, _, _, rfl⟩ := h
    exact Takes.aside w _ _ _

theorem shutdown_takes {w w' : State} (hR : R .shutdown) (h : shutdown world w = some w') :
    Takes R w [] w' := by
  rw [shutdown] at h
  split at h
  · exact flushMessage_takes hR h
  · cases h
    exact Takes.nil _

theorem flushOnTimeout_takes {w w' : State} (hR : R .flush)
    (h : flushOnTimeout world w = some w') :
    Takes R w [] w' := by
  rw [flushOnTimeout] at h
  split at h
  · simp only [Option.bind_eq_bind, Option.bind_eq_some_iff, Option.pure_def, Option.some.injEq] at h
    obtain ⟨w₁, hf, rfl⟩ := h
    exact (flushMessage_takes hR hf).thenNothing (Takes.aside w₁ _ _ _)
  · cases h
    exact Takes.nil _

theorem checkTimers_counts (world : World) (config : Config) (w : State) (nlDrops : Nat) :
    (checkTimers world config nlDrops w).sendErrors = w.sendErrors ∧
      (checkTimers world config nlDrops w).outbox = w.outbox ∧
      (checkTimers world config nlDrops w).truncatedMsgs = w.truncatedMsgs ∧
      (checkTimers world config nlDrops w).foreignMsgs = w.foreignMsgs ∧
      (checkTimers world config nlDrops w).received = w.received := by
  rw [checkTimers, reportStats]
  split <;> exact ⟨rfl, rfl, rfl, rfl, rfl⟩

theorem loopTop_received {nlDrops : Nat} {w w' : State}
    (h : loopTop world config nlDrops w = some w') : w'.received = w.received := by
  rw [(sendTemplate_takes (R := fun _ => True) trivial h).received, List.append_nil,
    (checkTimers_counts world config w nlDrops).2.2.2.2]

end NatStream.Worker.Bookkeeping
