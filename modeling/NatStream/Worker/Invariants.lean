import NatStream.Worker.Iterations

namespace NatStream.Worker.Invariants

open NatStream.Events NatStream.Export.Templates NatStream.Export.Encoders
open NatStream.Export.Layout NatStream.Export.Filling NatStream.Netlink.Datagrams
open NatStream.Worker.EventLoop NatStream.Worker.Ledger NatStream.Worker.Refinement
open NatStream.Worker.Iterations

variable {world : World} {config : Config} {P : State → Prop}

/-- A property of what was sent and of the two timers, kept by the only steps
that change them: a flush and a report. -/
structure Stable (world : World) (config : Config) (P : State → Prop) : Prop where
  congr : ∀ {w w' : State}, P w → w'.outbox = w.outbox →
    w'.lastTemplateTime = w.lastTemplateTime → w'.lastStatsTime = w.lastStatsTime → P w'
  flush : ∀ {w w' : State} {flag : Bool} {events : List ConntrackEvent} {reason : Reason},
    Holds w.encoder config.template flag events →
    (reason = .full → ¬ hasRoom config.template flag events.length) →
    flushMessage world reason w = some w' → P w → P w'
  report : ∀ {w : State} (k nlDrops : Nat), P w → P (reportStats (world.clock k) nlDrops w)

theorem recordEvent_keeps (hs : Stable world config P) {w w' : State} {b : Books ConntrackEvent}
    {event : ConntrackEvent} (hm : Mirrors world config w b) (ha : w.messageActive = true)
    (hr : recordEvent world w event = some w') (h : P w) : P w' := by
  obtain ⟨flag, events, -, hh⟩ := hm.active ha
  by_cases hroom : hasRoom config.template flag events.length
  · obtain ⟨e', hadd, -⟩ := addRecord_mirrors hm.agrees ha hh event hroom
    simp only [recordEvent, hadd, Option.bind_eq_bind, Option.bind_some, if_true,
      Option.pure_def, Option.some.injEq] at hr
    cases hr
    exact hs.congr h rfl rfl rfl
  · simp only [recordEvent, addRecord_full hh event hroom, Option.bind_eq_bind, Option.bind_some,
      Bool.false_eq_true, if_false, Option.bind_eq_some_iff, Option.pure_def,
      Option.some.injEq] at hr
    obtain ⟨w₁, hf, e₂, -, p, -, rfl⟩ := hr
    have h₁ := hs.flush hh (fun _ => hroom) hf h
    exact hs.congr h₁ rfl rfl rfl

theorem recordEvents_keeps (hs : Stable world config P) {w w' : State} {b : Books ConntrackEvent}
    {events : List ConntrackEvent} (hm : Mirrors world config w b) (ha : w.messageActive = true)
    (hr : events.foldlM (recordEvent world) w = some w') (h : P w) : P w' := by
  induction events generalizing w b with
  | nil =>
    cases hr
    exact h
  | cons event events ih =>
    obtain ⟨w₁, b₁, hw₁, hl₁, ha₁⟩ := recordEvent_leads hm ha event
    rw [List.foldlM_cons, hw₁] at hr
    exact ih hl₁.mirrors ha₁ hr (recordEvent_keeps hs hm ha hw₁ h)

theorem countTruncated_keeps (hs : Stable world config P) {w : State} (d : Datagram) (h : P w) :
    P (countTruncated w d) := by
  rw [countTruncated]
  split
  · exact hs.congr h rfl rfl rfl
  · exact h

theorem ensureActive_keeps (hs : Stable world config P) {w w' : State}
    (hr : ensureActive w = some w') (h : P w) : P w' := by
  rw [ensureActive] at hr
  split at hr
  · cases hr
    exact h
  · obtain ⟨e', -, hw⟩ := Option.bind_eq_some_iff.mp hr
    cases hw
    exact hs.congr h rfl rfl rfl

theorem receiveDatagram_keeps (hs : Stable world config P) {w w' : State}
    {b : Books ConntrackEvent} {d : Datagram} (hi : InStep world config w b)
    (hr : receiveDatagram world w d = some w') (h : P w) : P w' := by
  have hm : Mirrors world config { w with received := w.received ++ [d] } b :=
    hi.mirrors.of_same rfl rfl rfl rfl rfl rfl rfl
  have h₀ : P { w with received := w.received ++ [d] } := hs.congr h rfl rfl rfl
  have h₁ := countTruncated_keeps hs d h₀
  by_cases hp : d.senderPortid ≠ 0
  · rw [receiveDatagram_foreign hp] at hr
    cases hr
    exact hs.congr h rfl rfl rfl
  · by_cases hk : (kept d).length = 0
    · rw [receiveDatagram_empty hp hk] at hr
      cases hr
      exact h₁
    · obtain ⟨w₁, b₁, hw₁, hl₁, ha₁⟩ := ensureActive_leads (countTruncated_mirrors (d := d) hm)
      rw [receiveDatagram_kernel hp hk, hw₁, Option.bind_some] at hr
      exact recordEvents_keeps hs hl₁.mirrors ha₁ hr (ensureActive_keeps hs hw₁ h₁)

theorem receiveBatch_keeps (hs : Stable world config P) {w w' : State} {b : Books ConntrackEvent}
    {ds : List Datagram} (hi : InStep world config w b)
    (hr : ds.foldlM (receiveDatagram world) w = some w') (h : P w) : P w' := by
  induction ds generalizing w b with
  | nil =>
    cases hr
    exact h
  | cons d ds ih =>
    obtain ⟨w₁, b₁, hw₁, -, hi₁⟩ := receiveDatagram_advances hi d
    rw [List.foldlM_cons, hw₁] at hr
    exact ih hi₁ hr (receiveDatagram_keeps hs hi hw₁ h)

theorem drain_keeps (hs : Stable world config P) {w w' : State} {b : Books ConntrackEvent} {k : Nat}
    {batches : List Batch} (hi : InStep world config w b)
    (hr : drain world k batches w = some w') (h : P w) : P w' := by
  induction k generalizing w b batches with
  | zero =>
    cases hr
    exact h
  | succ k ih =>
    cases batches with
    | nil =>
      cases hr
      exact h
    | cons batch batches =>
      rw [drain] at hr
      split at hr
      · cases hr
        exact h
      · obtain ⟨w₁, b₁, hw₁, -, hi₁⟩ := receiveBatch_advances hi batch.datagrams
        have h₁ := receiveBatch_keeps hs hi hw₁ h
        rw [hw₁, Option.bind_eq_bind, Option.bind_some] at hr
        split at hr
        · cases hr
          exact h₁
        · exact ih hi₁ hr h₁

theorem checkTimers_keeps (hs : Stable world config P) {w : State} (nlDrops : Nat) (h : P w) :
    P (checkTimers world config nlDrops w) := by
  rw [checkTimers]
  apply hs.report
  exact hs.congr h rfl rfl rfl

theorem sendTemplate_keeps (hs : Stable world config P) {w w' : State} {b : Books ConntrackEvent}
    (hi : InStep world config w b) (hr : sendTemplate world w = some w') (h : P w) : P w' := by
  rw [sendTemplate] at hr
  split at hr
  · obtain ⟨e', hb, -, hh⟩ := beginMessage_agrees hi.mirrors.agrees true
    rw [hb, Option.bind_eq_bind, Option.bind_some] at hr
    have h₀ : P { w with encoder := e' } := hs.congr h rfl rfl rfl
    exact hs.flush hh (fun hreason => by cases hreason) hr h₀
  · cases hr
    exact h

theorem loopTop_keeps (hs : Stable world config P) {w w' : State} {b : Books ConntrackEvent}
    {nlDrops : Nat} (hi : InStep world config w b)
    (hr : loopTop world config nlDrops w = some w') (h : P w) : P w' :=
  sendTemplate_keeps hs (checkTimers_inStep hi nlDrops) hr (checkTimers_keeps hs nlDrops h)

theorem pollTimeout_keeps (hs : Stable world config P) {w w' : State} {n : Nat}
    (hr : pollTimeout world config w = some (n, w')) (h : P w) : P w' := by
  rw [pollTimeout] at hr
  split at hr
  · cases hr
    exact h
  · simp only [Option.bind_eq_bind, Option.bind_eq_some_iff, Option.pure_def, Option.some.injEq,
      Prod.mk.injEq] at hr
    obtain ⟨_, _, _, _, _, rfl⟩ := hr
    exact hs.congr h rfl rfl rfl

theorem flush_keeps (hs : Stable world config P) {w w' : State} {b : Books ConntrackEvent}
    {reason : Reason} (hi : InStep world config w b) (ha : w.messageActive = true)
    (hreason : reason ≠ .full) (hr : flushMessage world reason w = some w') (h : P w) : P w' := by
  obtain ⟨flag, events, -, hh⟩ := hi.mirrors.active ha
  exact hs.flush hh (fun hfull => absurd hfull hreason) hr h

/-- The state an iteration leaves behind, however it ends. -/
def finalState : Outcome → State
  | .again w | .stopped w | .failed w => w

theorem shutdown_keeps (hs : Stable world config P) {w w' : State} {b : Books ConntrackEvent}
    (hi : InStep world config w b) (hr : shutdown world w = some w') (h : P w) : P w' := by
  rw [shutdown] at hr
  split at hr
  · rename_i ha
    exact flush_keeps hs hi ha (by decide) hr h
  · cases hr
    exact h

theorem flushOnTimeout_keeps (hs : Stable world config P) {w w' : State} {b : Books ConntrackEvent}
    (hi : InStep world config w b) (hr : flushOnTimeout world w = some w') (h : P w) : P w' := by
  rw [flushOnTimeout] at hr
  split at hr
  · rename_i ha
    obtain ⟨w₁, hf, hw⟩ := Option.bind_eq_some_iff.mp hr
    have h₁ := flush_keeps hs hi ha (by decide) hf h
    cases hw
    exact hs.congr h₁ rfl rfl rfl
  · cases hr
    exact h

theorem afterPoll_keeps (hs : Stable world config P) {w : State} {b : Books ConntrackEvent}
    {answer : PollAnswer} {outcome : Outcome} (hi : InStep world config w b)
    (hr : afterPoll world w answer = some outcome) (h : P w) : P (finalState outcome) := by
  cases answer with
  | interrupted =>
    cases hr
    exact h
  | failed =>
    cases hr
    exact h
  | returned signals ready batches =>
    cases signals with
    | cons signal signals =>
      obtain ⟨w', hw, rfl⟩ := Option.map_eq_some_iff.mp hr
      exact shutdown_keeps hs hi hw h
    | nil =>
      cases ready with
      | false =>
        obtain ⟨w', hw, rfl⟩ := Option.map_eq_some_iff.mp hr
        exact flushOnTimeout_keeps hs hi hw h
      | true =>
        obtain ⟨w', hw, rfl⟩ := Option.map_eq_some_iff.mp hr
        exact drain_keeps hs hi hw h

theorem iterate_keeps (hs : Stable world config P) {w : State} {b : Books ConntrackEvent}
    {t : Turn} {outcome : Outcome} (hi : InStep world config w b)
    (hr : iterate world config w t = some outcome) (h : P w) : P (finalState outcome) := by
  obtain ⟨w₁, n, w₂, hl, hp, ha⟩ := iterate_eq_some hr
  obtain ⟨w₁', hl', -, hi₁⟩ := loopTop_inStep hi t.nlDrops
  cases hl.symm.trans hl'
  obtain ⟨k, hi₂⟩ := pollTimeout_inStep hi₁ hp
  have h₂ := pollTimeout_keeps hs hp (loopTop_keeps hs hi hl h)
  exact afterPoll_keeps hs hi₂ ha h₂

/-- What holds when the worker starts and is stable holds at every turn of
the loop. -/
theorem runs_keeps (hs : Stable world config P) {w : State} {nlDrops : Nat}
    (hr : Runs world config (startWorker world config nlDrops) w)
    (h : P (startWorker world config nlDrops)) : P w := by
  induction hr with
  | refl => exact h
  | turn hruns ht ih =>
    obtain ⟨b, -, hi⟩ := runs_inStep (startWorker_inStep world config nlDrops) hruns
    exact iterate_keeps hs hi ht ih

end NatStream.Worker.Invariants
