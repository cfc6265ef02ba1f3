import NatStream.Worker.Exports
import NatStream.Worker.Invariants

namespace NatStream.Worker.Timeouts

open NatStream.Lib.Time NatStream.Events NatStream.Export.Layout NatStream.Export.Filling
open NatStream.Worker.EventLoop NatStream.Worker.Ledger NatStream.Worker.Refinement
open NatStream.Worker.Iterations NatStream.Worker.Invariants NatStream.Worker.Exports

variable {world : World} {config : Config}

/-- The first instant that no longer fits in signed 64-bit seconds. -/
def endOfTime : Int := 2 ^ 63 * nanosPerSec

theorem addDuration_of_lt {t : Int} {d : Nat} (h : t + d < endOfTime) :
    addDuration t d = some (t + d) := if_pos h

theorem lt_of_addDuration {t t' : Int} {d : Nat} (h : addDuration t d = some t') :
    t + d < endOfTime := by
  rw [addDuration] at h
  split at h
  · assumption
  · cases h

theorem msUntil_le (deadline now : Int) : msUntil deadline now ≤ i32Max := Nat.min_le_right _ _

/-- Waiting for the milliseconds until a deadline does not pass it. -/
theorem add_msUntil_le (deadline now : Int) :
    now + (msUntil deadline now * 1000000 : Nat) ≤ max now deadline := by
  have hmin : msUntil deadline now ≤ (deadline - now).toNat / 1000000 := Nat.min_le_left _ _
  have hle : msUntil deadline now * 1000000 ≤ (deadline - now).toNat := by omega
  omega

/-- The earlier of the two deadlines. -/
def nextDeadline (config : Config) (w : State) : Int :=
  min (w.lastTemplateTime + templateInterval config) (w.lastStatsTime + statsInterval)

/-- The timeout of the next poll is defined, is one that `poll` waits for, and
is not late. -/
def PollsInTime (world : World) (config : Config) (w : State) : Prop :=
  ∃ timeout w', pollTimeout world config w = some (timeout, w') ∧ timeout ≤ i32Max ∧
    if w.messageActive then timeout ≤ flushTimeoutMs
    else world.clock w.ticks + (timeout * 1000000 : Nat) ≤
      max (world.clock w.ticks) (nextDeadline config w)

/-- With no message in progress, the clock can represent both deadlines. -/
def DeadlinesFit (config : Config) (w : State) : Prop :=
  w.messageActive = false →
    w.lastTemplateTime + templateInterval config < endOfTime ∧
    w.lastStatsTime + statsInterval < endOfTime

theorem pollsInTime_of_active {w : State} (h : w.messageActive = true) :
    PollsInTime world config w := by
  refine ⟨flushTimeoutMs, w, if_pos h, by decide, ?_⟩
  rw [if_pos h]

theorem pollsInTime_of_fit {w : State} (ha : w.messageActive = false)
    (ht : w.lastTemplateTime + templateInterval config < endOfTime)
    (hs : w.lastStatsTime + statsInterval < endOfTime) : PollsInTime world config w := by
  have hna : ¬ w.messageActive = true := by rw [ha]; decide
  refine ⟨msUntil (nextDeadline config w) (world.clock w.ticks), { w with ticks := w.ticks + 1 },
    ?_, msUntil_le _ _, ?_⟩
  · rw [pollTimeout, if_neg hna, addDuration_of_lt ht, addDuration_of_lt hs]
    rfl
  · rw [if_neg hna]
    exact add_msUntil_le _ _

theorem fit_of_pollTimeout {w w' : State} {n : Nat} (ha : w.messageActive = false)
    (h : pollTimeout world config w = some (n, w')) :
    w.lastTemplateTime + templateInterval config < endOfTime ∧
      w.lastStatsTime + statsInterval < endOfTime := by
  have hna : ¬ w.messageActive = true := by rw [ha]; decide
  rw [pollTimeout, if_neg hna] at h
  obtain ⟨t, ht, h₁⟩ := Option.bind_eq_some_iff.mp h
  obtain ⟨s, hs, -⟩ := Option.bind_eq_some_iff.mp h₁
  exact ⟨lt_of_addDuration ht, lt_of_addDuration hs⟩

theorem pollsInTime_iff (world : World) (config : Config) (w : State) :
    PollsInTime world config w ↔ DeadlinesFit config w := by
  constructor
  · rintro ⟨n, w', h, -, -⟩ ha
    exact fit_of_pollTimeout ha h
  · intro h
    cases ha : w.messageActive with
    | true => exact pollsInTime_of_active ha
    | false => exact pollsInTime_of_fit ha (h ha).1 (h ha).2

/-- Both timers were set from readings of the clock. -/
def TimersRead (world : World) (w : State) : Prop :=
  (∃ k, w.lastTemplateTime = world.clock k) ∧ ∃ k, w.lastStatsTime = world.clock k

theorem settleTemplate_read {w : State} (h : TimersRead world w) :
    TimersRead world (settleTemplate world w) := by
  rw [settleTemplate]
  split
  · exact ⟨⟨w.ticks, rfl⟩, h.2⟩
  · exact h

theorem flushMessage_read {w w' : State} {reason : Reason}
    (hf : flushMessage world reason w = some w') (h : TimersRead world w) :
    TimersRead world w' := by
  rw [flushMessage] at hf
  split at hf
  · cases hf
    exact h
  · obtain ⟨p, -, hw⟩ := Option.bind_eq_some_iff.mp hf
    cases hw
    exact settleTemplate_read h

theorem timersRead_stable (world : World) (config : Config) :
    Stable world config (TimersRead world) where
  congr h _ htemplate hstats := by
    rw [TimersRead, htemplate, hstats]
    exact h
  flush _ _ := flushMessage_read
  report k nlDrops h := by
    rw [reportStats]
    split
    · exact ⟨h.1, k, rfl⟩
    · exact h

/-- No reading of the clock is so late that a deadline set from it would no
longer fit. -/
def ClockInReach (world : World) (config : Config) : Prop :=
  ∀ k, world.clock k + templateInterval config < endOfTime ∧
    world.clock k + statsInterval < endOfTime

theorem deadlinesFit_of_clock (hc : ClockInReach world config) {w : State}
    (h : TimersRead world w) : DeadlinesFit config w := by
  obtain ⟨⟨i, hi⟩, j, hj⟩ := h
  intro _
  rw [hi, hj]
  exact ⟨(hc i).1, (hc j).2⟩

theorem iterate_isSome_iff {w w' : State} {t : Turn} (h : Reaches world config w)
    (hl : loopTop world config t.nlDrops w = some w') :
    (iterate world config w t).isSome = true ↔ DeadlinesFit config w' := by
  constructor
  · intro hr ha
    obtain ⟨outcome, hr⟩ := Option.isSome_iff_exists.mp hr
    obtain ⟨w₁, n, w₂, hl', hp, -⟩ := iterate_eq_some hr
    cases hl.symm.trans hl'
    exact fit_of_pollTimeout ha hp
  · intro hfit
    apply iterate_isSome h t
    intro w₁ hw₁
    obtain rfl : w' = w₁ := Option.some.inj (hl.symm.trans hw₁)
    obtain ⟨n, w₂, hp, -⟩ := (pollsInTime_iff world config w').mpr hfit
    rw [hp]
    rfl

/-- In every state that a run reaches, the timeout of the next poll is defined
and in time, and the iteration goes through, exactly when the deadlines fit.
They do in all of a run whose clock stays in reach. -/
theorem poll_in_time_iff (world : World) (config : Config) (nlDrops : Nat) {w : State}
    (h : Runs world config (startWorker world config nlDrops) w) (t : Turn) :
    ∃ w', loopTop world config t.nlDrops w = some w' ∧
      (PollsInTime world config w' ↔ DeadlinesFit config w') ∧
      ((iterate world config w t).isSome = true ↔ DeadlinesFit config w') ∧
      (ClockInReach world config → DeadlinesFit config w') := by
  obtain ⟨b, -, hi⟩ := runs_inStep (startWorker_inStep world config nlDrops) h
  obtain ⟨w', hl, -⟩ := loopTop_inStep hi t.nlDrops
  refine ⟨w', hl, pollsInTime_iff world config w', iterate_isSome_iff ⟨nlDrops, h⟩ hl, ?_⟩
  intro hc
  have hs := timersRead_stable world config
  have hread := runs_keeps hs h ⟨⟨1, rfl⟩, 2, rfl⟩
  exact deadlinesFit_of_clock hc (loopTop_keeps hs hi hl hread)

theorem poll_in_time_iff_sample :
    ∃ w, loopTop sampleWorld sampleConfig 0 (startWorker sampleWorld sampleConfig 0) = some w ∧
      w.messageActive = false ∧ PollsInTime sampleWorld sampleConfig w := by
  obtain ⟨w, hl, hiff, -⟩ := poll_in_time_iff sampleWorld sampleConfig 0 .refl ⟨0, .interrupted⟩
  have heval : (loopTop sampleWorld sampleConfig 0 (startWorker sampleWorld sampleConfig 0)).any
      (fun w => w.messageActive = false ∧
        w.lastTemplateTime + templateInterval sampleConfig < endOfTime ∧
        w.lastStatsTime + statsInterval < endOfTime) = true := by
    decide +kernel
  obtain ⟨w', hl', hw⟩ := (Option.any_eq_true _ _).mp heval
  obtain rfl : w = w' := Option.some.inj (hl.symm.trans hl')
  obtain ⟨ha, hfit⟩ := of_decide_eq_true hw
  exact ⟨w, hl, ha, hiff.mpr fun _ => hfit⟩

/-- An interval that reaches past the end of time from the first template on
stops the worker in its first iteration. -/
theorem first_iteration_panics (world : World) (config : Config) (nlDrops : Nat) (t : Turn)
    (h : endOfTime ≤ world.clock 4 + templateInterval config) :
    iterate world config (startWorker world config nlDrops) t = none := by
  obtain ⟨w', hl, ha, hi⟩ := loopTop_inStep (startWorker_inStep world config nlDrops) t.nlDrops
  have htime : w'.lastTemplateTime = world.clock 4 := hi.mirrors.agrees.lastTemplate
  have hfit : ¬ DeadlinesFit config w' := by
    intro hfit
    have hlt := (hfit ha).1
    rw [htime] at hlt
    exact absurd hlt (Int.not_lt.mpr h)
  rw [← Option.not_isSome_iff_eq_none, iterate_isSome_iff ⟨nlDrops, .refl⟩ hl]
  exact hfit

def endlessArgs : Args := ⟨42, .ipfix, .natSource, 4, 300, 18446744073709551615⟩

theorem endless_interval_panics :
    ∃ config w, validate endlessArgs = .ok config ∧
      loopTop sampleWorld config 0 (startWorker sampleWorld config 0) = some w ∧
      pollTimeout sampleWorld config w = none ∧ ¬ PollsInTime sampleWorld config w := by
  have heval : (validate endlessArgs).toOption.any (fun config =>
      (loopTop sampleWorld config 0 (startWorker sampleWorld config 0)).any fun w =>
        (pollTimeout sampleWorld config w).isNone) = true := by
    decide +kernel
  cases hv : validate endlessArgs with
  | error e =>
    rw [hv] at heval
    cases heval
  | ok config =>
    rw [hv, Except.toOption, Option.any_some] at heval
    obtain ⟨w, hl, hp⟩ := (Option.any_eq_true _ _).mp heval
    rw [Option.isNone_iff_eq_none] at hp
    refine ⟨config, w, rfl, hl, hp, ?_⟩
    rintro ⟨n, w', h, -, -⟩
    rw [hp] at h
    cases h

end NatStream.Worker.Timeouts
