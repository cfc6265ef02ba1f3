import Mathlib.Data.List.Forall2
import NatStream.Supervisor.Wakeups

namespace NatStream.Supervisor.Interleaved

open NatStream.Lib.Time NatStream.Lib.Replay NatStream.Supervisor.Processes
open NatStream.Supervisor.Monitor NatStream.Supervisor.Safety NatStream.Supervisor.Wakeups

/-- The supervisor with the signals that `read_pending` has gathered so far,
and whether it has given up because a call failed. -/
structure Detailed where
  system : System
  gathered : List Signal
  failed : Bool

def begin (clock : Instant) : Detailed := ⟨start clock, [], false⟩

def isReading : Control → Bool
  | .readable _ | .waking _ => true
  | .forking | .supervising _ | .polling _ _ | .expired _ | .exited _ | .backingOff _
  | .sleeping _ _ | .stopped | .failed => false

/-- The places where the supervisor makes a call that may fail for good: the
fork, the wait, a poll, or a read. -/
def mayFail : Control → Bool
  | .forking | .supervising _ | .polling _ _ | .readable _ | .sleeping _ _ | .waking _ => true
  | .expired _ | .exited _ | .backingOff _ | .stopped | .failed => false

/-- What `supervise_child` does with the signals it has read. -/
def superviseSignals (s : System) (v : Supervised) (signals : List Signal) (pause : Duration) :
    System :=
  let (s', v') := signals.foldl (takeSignal pause) (record s (.read signals), v)
  { s' with control := .supervising v' }

/-- What `wait_before_restart` does with the signals it has read. -/
def wakeSignals (s : System) (deadline : Instant) (signals : List Signal) : System :=
  { record s (.read signals) with
    control := if signals.any (fun signal => signal ≠ .chld) then .stopped else .backingOff deadline }

/-- Whatever happens next. A read takes one pending signal, is interrupted, or
finds nothing more. -/
inductive Move where
  | deliver (signal : Signal)
  | exit (pid : Nat) (status : UInt32)
  | advance (d : Duration)
  | run (a : Answer)
  | take (signal : Signal)
  | retry
  | finish (pause : Duration)
  | fail

def takePending (s : System) (signal : Signal) : System :=
  { s with pending := fun other => other ≠ signal && s.pending other }

def finishReading (d : Detailed) (pause : Duration) : Option Detailed :=
  match d.system.control with
  | .readable v => some ⟨superviseSignals d.system v d.gathered pause, [], false⟩
  | .waking deadline => some ⟨wakeSignals d.system deadline d.gathered, [], false⟩
  | .forking | .supervising _ | .polling _ _ | .expired _ | .exited _ | .backingOff _
  | .sleeping _ _ | .stopped | .failed => none

def step (d : Detailed) : Move → Option Detailed
  | .deliver signal => (act d.system (.deliver signal)).map fun system => { d with system }
  | .exit pid status => (act d.system (.exit pid status)).map fun system => { d with system }
  | .advance span => (act d.system (.advance span)).map fun system => { d with system }
  | .run a =>
    if d.failed || isReading d.system.control then none
    else (proceed d.system a).map fun system => { d with system }
  | .take signal =>
    if !d.failed && isReading d.system.control && d.system.pending signal then
      some { d with system := takePending d.system signal, gathered := d.gathered ++ [signal] }
    else none
  | .retry => if !d.failed && isReading d.system.control then some d else none
  | .finish pause => if d.failed || !(readPending d.system).isEmpty then none else finishReading d pause
  | .fail => if !d.failed && mayFail d.system.control then some { d with failed := true } else none

/-- The same event, up to the order and repetition of signals read together. -/
inductive Alike : Event → Event → Prop where
  | same (event : Event) : Alike event event
  | read {signals signals' : List Signal} : (∀ signal, signal ∈ signals ↔ signal ∈ signals') →
      Alike (.read signals) (.read signals')

/-- The supervisor that reads all pending signals at once, in the same place:
what has been gathered is still pending for it. -/
structure Mirrored (d : Detailed) (s : System) : Prop where
  control : s.control = d.system.control
  started : s.started = d.system.started
  backoff : s.backoff = d.system.backoff
  children : s.children = d.system.children
  clock : s.clock = d.system.clock
  pending : ∀ signal, s.pending signal = (d.system.pending signal || decide (signal ∈ d.gathered))
  log : List.Forall₂ Alike d.system.log s.log
  idle : isReading d.system.control = false → d.gathered = []

theorem alike_refl (log : List Event) : List.Forall₂ Alike log log := by
  induction log with
  | nil => exact .nil
  | cons event log ih => exact .cons (.same event) ih

theorem alike_snoc {log log' : List Event} {event event' : Event} (h : List.Forall₂ Alike log log')
    (he : Alike event event') : List.Forall₂ Alike (log ++ [event]) (log' ++ [event']) :=
  List.rel_append h (.cons he .nil)

/-- A step that pays no attention to the pending signals or the log, and only
adds to the log. -/
def Oblivious (f : System → System) : Prop :=
  ∀ s, ∃ new, (f s).log = s.log ++ new ∧ (f s).pending = s.pending ∧
    ∀ pending log, f { s with pending, log } = { f s with pending, log := log ++ new }

theorem forkWorker_oblivious (pid : Nat) (pause : Duration) :
    Oblivious fun s => forkWorker s pid pause :=
  fun _ => ⟨[.forked pid], rfl, rfl, fun _ _ => rfl⟩

theorem superviseTop_oblivious (v : Supervised) : Oblivious fun s => superviseTop s v := by
  intro s
  simp only [superviseTop]
  cases waitpid s.children v.childPid with
  | none => exact ⟨[], (List.append_nil _).symm, rfl, fun _ _ => by simp only [List.append_nil]⟩
  | some result =>
    cases result with
    | none => exact ⟨[], (List.append_nil _).symm, rfl, fun _ _ => by simp only [List.append_nil]⟩
    | some status => exact ⟨[.reaped v.childPid], rfl, rfl, fun _ _ => rfl⟩

theorem superviseExpired_oblivious (v : Supervised) (pause : Duration) :
    Oblivious fun s => superviseExpired s v pause := by
  intro s
  simp only [superviseExpired]
  cases v.killDeadline with
  | none => exact ⟨[], (List.append_nil _).symm, rfl, fun _ _ => by simp only [List.append_nil]⟩
  | some deadline =>
    by_cases hle : deadline ≤ s.clock
    · simp only [if_pos hle]
      exact ⟨_, rfl, rfl, fun _ _ => rfl⟩
    · simp only [if_neg hle]
      exact ⟨[], by simp⟩

theorem restartOrStop_oblivious (status : UInt32) (pause : Duration) :
    Oblivious fun s => restartOrStop s status pause := by
  intro s
  simp only [restartOrStop]
  cases shouldRestart status <;> exact ⟨[], by simp⟩

theorem backOff_oblivious (deadline : Instant) : Oblivious fun s => backOff s deadline := by
  intro s
  simp only [backOff]
  by_cases hle : deadline ≤ s.clock
  · simp only [if_pos hle]
    exact ⟨[], by simp⟩
  · simp only [if_neg hle]
    exact ⟨[], by simp⟩

theorem setControl_oblivious (control : Control) : Oblivious fun s => { s with control } :=
  fun _ => ⟨[], (List.append_nil _).symm, rfl, fun _ _ => by simp only [List.append_nil]⟩

/-- The supervisor takes this step whatever is pending and whatever has been
logged. -/
def Regardless (a : Answer) (s s' : System) : Prop :=
  ∃ new, s'.log = s.log ++ new ∧ s'.pending = s.pending ∧
    ∀ pending log, proceed { s with pending, log } a = some { s' with pending, log := log ++ new }

theorem Oblivious.regardless {f : System → System} (hf : Oblivious f) {s s' : System} {a : Answer}
    (hs : f s = s')
    (hp : ∀ pending log, proceed { s with pending, log } a = some (f { s with pending, log })) :
    Regardless a s s' := by
  obtain ⟨new, hlog, hpending, hrest⟩ := hf s
  rw [← hs]
  exact ⟨new, hlog, hpending, fun pending log => by rw [hp, hrest]⟩

theorem proceed_regardless {s s' : System} {a : Answer} (hr : isReading s.control = false)
    (hp : proceed s a = some s') : Regardless a s s' := by
  cases hc : s.control with
  | forking =>
    simp only [proceed, hc] at hp
    split at hp
    · cases hp
    · rename_i hnew
      cases hp
      refine (forkWorker_oblivious a.pid a.pause).regardless rfl fun pending log => ?_
      simp only [proceed, hc, if_neg hnew]
  | supervising v =>
    simp only [proceed, hc, Option.some.injEq] at hp
    refine (superviseTop_oblivious v).regardless hp fun pending log => ?_
    simp only [proceed, hc]
  | polling v timeout =>
    simp only [proceed, hc, Option.some.injEq] at hp
    refine (setControl_oblivious _).regardless hp fun pending log => ?_
    simp only [proceed, hc]
  | expired v =>
    simp only [proceed, hc, Option.some.injEq] at hp
    refine (superviseExpired_oblivious v a.pause).regardless hp fun pending log => ?_
    simp only [proceed, hc]
  | exited status =>
    simp only [proceed, hc, Option.some.injEq] at hp
    refine (restartOrStop_oblivious status a.pause).regardless hp fun pending log => ?_
    simp only [proceed, hc]
  | backingOff deadline =>
    simp only [proceed, hc, Option.some.injEq] at hp
    refine (backOff_oblivious deadline).regardless hp fun pending log => ?_
    simp only [proceed, hc]
  | sleeping deadline timeout =>
    simp only [proceed, hc, Option.some.injEq] at hp
    refine (setControl_oblivious _).regardless hp fun pending log => ?_
    simp only [proceed, hc]
  | readable v => rw [hc] at hr; cases hr
  | waking deadline => rw [hc] at hr; cases hr
  | stopped => simp only [proceed, hc] at hp; cases hp
  | failed => simp only [proceed, hc] at hp; cases hp

theorem Mirrored.eq {d : Detailed} {s : System} (h : Mirrored d s) :
    s = { d.system with pending := s.pending, log := s.log } := by
  obtain ⟨hc, hs, hb, hch, hcl, -, -, -⟩ := h
  cases s
  simp only at hc hs hb hch hcl
  simp only [hc, hs, hb, hch, hcl]

/-- A single choice of the coarse supervisor answers a move. -/
theorem answered {s s' : System} {d : Detailed} (choice : Choice) (ha : act s choice = some s')
    (hm : Mirrored d s') : ∃ choices t, replay act s choices = some t ∧ Mirrored d t :=
  ⟨[choice], s', by rw [replay_cons, ha]; rfl, hm⟩

theorem deliver_mirrored {d : Detailed} {s : System} (h : Mirrored d s) (signal : Signal) :
    Mirrored { d with system := record (raise d.system signal) (.delivered signal) }
      (record (raise s signal) (.delivered signal)) where
  control := h.control
  started := h.started
  backoff := h.backoff
  children := h.children
  clock := h.clock
  pending other := by
    change (decide (other = signal) || s.pending other) = _
    rw [h.pending, ← Bool.or_assoc]
    rfl
  log := alike_snoc h.log (.same _)
  idle := h.idle

theorem exit_mirrored {d : Detailed} {s : System} (h : Mirrored d s) (pid : Nat) (status : UInt32) :
    Mirrored
      { d with system := raise { d.system with
          children := d.system.children.map (finish pid status) } .chld }
      (raise { s with children := s.children.map (finish pid status) } .chld) where
  control := h.control
  started := h.started
  backoff := h.backoff
  children := by
    change s.children.map _ = _
    rw [h.children]
    rfl
  clock := h.clock
  pending other := by
    change (decide (other = .chld) || s.pending other) = _
    rw [h.pending, ← Bool.or_assoc]
    rfl
  log := h.log
  idle := h.idle

theorem take_mirrored {d : Detailed} {s : System} (h : Mirrored d s) {signal : Signal}
    (hr : isReading d.system.control = true) (hp : d.system.pending signal = true) :
    Mirrored { d with system := takePending d.system signal, gathered := d.gathered ++ [signal] } s where
  control := h.control
  started := h.started
  backoff := h.backoff
  children := h.children
  clock := h.clock
  pending other := by
    rw [h.pending]
    by_cases ho : other = signal
    · subst ho
      simp [takePending, hp]
    · simp [takePending, ho]
  log := h.log
  idle hi := absurd hr (by rw [show isReading d.system.control = false from hi]; decide)

theorem run_mirrored {d : Detailed} {s system' : System} {a : Answer} (h : Mirrored d s)
    (hr : isReading d.system.control = false) (hp : proceed d.system a = some system') :
    ∃ s', proceed s a = some s' ∧ Mirrored { d with system := system' } s' := by
  obtain ⟨new, hlog, hpending, hrest⟩ := proceed_regardless hr hp
  have hg := h.idle hr
  have hs := hrest s.pending s.log
  rw [← h.eq] at hs
  refine ⟨{ system' with pending := s.pending, log := s.log ++ new }, hs, rfl, rfl, rfl, rfl, rfl,
    ?_, ?_, fun _ => hg⟩
  · intro signal
    rw [hpending]
    exact h.pending signal
  · rw [hlog]
    exact List.rel_append h.log (alike_refl new)

/-- Once nothing is left to read, what has been gathered is what the coarse
supervisor finds pending. -/
theorem mem_readPending {d : Detailed} {s : System} (h : Mirrored d s)
    (hnone : readPending d.system = []) (signal : Signal) :
    signal ∈ d.gathered ↔ signal ∈ readPending s := by
  have hall : signal ∈ [Signal.int, .term, .chld] := by
    cases signal <;> decide
  have hfalse : d.system.pending signal = false := by
    have hnot : signal ∉ readPending d.system := by
      rw [hnone]
      exact List.not_mem_nil
    rw [readPending, List.mem_filter, not_and, Bool.not_eq_true] at hnot
    exact hnot hall
  rw [readPending, List.mem_filter, h.pending, hfalse, Bool.false_or, decide_eq_true_iff]
  exact ⟨fun hm => ⟨hall, hm⟩, fun hm => hm.2⟩

theorem nothing_pending {s : System} (h : readPending s = []) : s.pending = fun _ => false := by
  funext signal
  have hnot : signal ∉ readPending s := by
    rw [h]
    exact List.not_mem_nil
  rw [readPending, List.mem_filter, not_and, Bool.not_eq_true] at hnot
  exact hnot (by cases signal <;> decide)

theorem only_chld_iff {signals signals' : List Signal}
    (h : ∀ signal, signal ∈ signals ↔ signal ∈ signals') :
    (∀ signal ∈ signals, signal = .chld) ↔ ∀ signal ∈ signals', signal = .chld :=
  ⟨fun hall signal hmem => hall signal ((h signal).mpr hmem),
    fun hall signal hmem => hall signal ((h signal).mp hmem)⟩

theorem any_shutdown_eq {signals signals' : List Signal}
    (h : ∀ signal, signal ∈ signals ↔ signal ∈ signals') :
    (signals.any fun signal => signal ≠ .chld) = signals'.any fun signal => signal ≠ .chld := by
  by_cases hall : ∀ signal ∈ signals, signal = .chld
  · rw [any_eq_false hall, any_eq_false ((only_chld_iff h).mp hall)]
  · rw [any_eq_true hall, any_eq_true (fun hall' => hall ((only_chld_iff h).mpr hall'))]

/-- Reading one by one and reading at once come to the same: the worker is told
to stop if and only if a shutdown request is among the signals. -/
theorem superviseSignals_mirrored {d : Detailed} {s : System} {v : Supervised} (h : Mirrored d s)
    (hnone : readPending d.system = []) (pause : Duration) :
    Mirrored ⟨superviseSignals d.system v d.gathered pause, [], false⟩
      (superviseReadable s v pause) := by
  have hmem := mem_readPending h hnone
  have hlog := alike_snoc h.log (.read hmem)
  have hpend := nothing_pending hnone
  rw [superviseSignals, superviseReadable]
  rw [takeSignals_eq, takeSignals_eq]
  by_cases hskip : v.shuttingDown = true ∨ ∀ signal ∈ d.gathered, signal = .chld
  · have hskip' : v.shuttingDown = true ∨ ∀ signal ∈ readPending s, signal = .chld :=
      hskip.imp_right (only_chld_iff hmem).mp
    rw [if_pos hskip, if_pos hskip']
    refine ⟨rfl, h.started, h.backoff, h.children, h.clock, fun signal => ?_, hlog, fun _ => rfl⟩
    simp [drained, record, hpend]
  · have hskip' : ¬ (v.shuttingDown = true ∨ ∀ signal ∈ readPending s, signal = .chld) :=
      fun hs => hskip (hs.imp_right (only_chld_iff hmem).mpr)
    rw [if_neg hskip, if_neg hskip']
    refine ⟨?_, h.started, h.backoff, h.children, ?_, fun signal => ?_, ?_, fun _ => rfl⟩
    · simp [stopWorker, record, drained, h.clock]
    · simp [stopWorker, record, drained, h.clock]
    · simp [stopWorker, drained, record, hpend]
    · have hkill : Alike (.killed v.childPid .term d.system.clock) (.killed v.childPid .term s.clock) := by
        rw [h.clock]
        exact .same _
      exact alike_snoc hlog hkill

theorem wakeSignals_mirrored {d : Detailed} {s : System} {deadline : Instant} (h : Mirrored d s)
    (hnone : readPending d.system = []) :
    Mirrored ⟨wakeSignals d.system deadline d.gathered, [], false⟩ (wake s deadline) := by
  have hmem := mem_readPending h hnone
  have hpend := nothing_pending hnone
  refine ⟨?_, h.started, h.backoff, h.children, h.clock, fun signal => ?_,
    alike_snoc h.log (.read hmem), fun _ => rfl⟩
  · simp only [wake, wakeSignals, any_shutdown_eq hmem]
  · simp [wake, wakeSignals, drained, record, hpend]

theorem finish_mirrored {d d' : Detailed} {s : System} {pause : Duration} (h : Mirrored d s)
    (hnone : readPending d.system = []) (hf : finishReading d pause = some d') :
    ∃ choices s', replay act s choices = some s' ∧ Mirrored d' s' := by
  have hcontrol := h.control
  rw [finishReading] at hf
  split at hf
  · rename_i v hv
    cases hf
    rw [hv] at hcontrol
    have ha : act s (.proceed ⟨0, .ready, pause⟩) = some (superviseReadable s v pause) := by
      simp only [act, proceed, hcontrol]
    exact answered _ ha (superviseSignals_mirrored h hnone pause)
  · rename_i deadline hd
    cases hf
    rw [hd] at hcontrol
    have ha : act s (.proceed ⟨0, .ready, pause⟩) = some (wake s deadline) := by
      simp only [act, proceed, hcontrol]
    exact answered _ ha (wakeSignals_mirrored h hnone)
  all_goals cases hf

theorem step_mirrored {d d' : Detailed} {s : System} {move : Move} (h : Mirrored d s)
    (hs : step d move = some d') :
    ∃ choices s', replay act s choices = some s' ∧ Mirrored d' s' := by
  cases move with
  | deliver signal =>
    cases hs
    exact answered (.deliver signal) rfl (deliver_mirrored h signal)
  | exit pid status =>
    obtain ⟨system', ha, rfl⟩ := Option.map_eq_some_iff.mp hs
    simp only [act] at ha
    split at ha
    · rename_i hrunning
      cases ha
      rw [← h.children] at hrunning
      have ha' : act s (.exit pid status) =
          some (raise { s with children := s.children.map (finish pid status) } .chld) := by
        rw [act, if_pos hrunning]
      exact answered _ ha' (exit_mirrored h pid status)
    · cases ha
  | advance span =>
    cases hs
    refine answered (.advance span) rfl
      ⟨h.control, h.started, h.backoff, h.children, ?_, h.pending, h.log, h.idle⟩
    rw [h.clock]
  | run a =>
    rw [step] at hs
    split at hs
    · cases hs
    · rename_i hnot
      rw [Bool.or_eq_true, not_or, Bool.not_eq_true, Bool.not_eq_true] at hnot
      obtain ⟨system', hp, rfl⟩ := Option.map_eq_some_iff.mp hs
      obtain ⟨s', hp', hm⟩ := run_mirrored h hnot.2 hp
      exact answered (.proceed a) hp' hm
  | take signal =>
    rw [step] at hs
    split at hs
    · rename_i hcond
      rw [Bool.and_eq_true, Bool.and_eq_true] at hcond
      cases hs
      exact ⟨[], s, rfl, take_mirrored h hcond.1.2 hcond.2⟩
    · cases hs
  | retry =>
    rw [step] at hs
    split at hs
    · cases hs
      exact ⟨[], s, rfl, h⟩
    · cases hs
  | finish pause =>
    rw [step] at hs
    split at hs
    · cases hs
    · rename_i hnot
      rw [Bool.or_eq_true, not_or, Bool.not_eq_true', Bool.not_eq_false] at hnot
      exact finish_mirrored h (List.isEmpty_iff.mp hnot.2) hs
  | fail =>
    rw [step] at hs
    split at hs
    · cases hs
      exact ⟨[], s, rfl, h.control, h.started, h.backoff, h.children, h.clock, h.pending, h.log, h.idle⟩
    · cases hs

theorem begin_mirrored (clock : Instant) : Mirrored (begin clock) (start clock) :=
  ⟨rfl, rfl, rfl, rfl, rfl, fun _ => rfl, .nil, fun _ => rfl⟩

theorem runs_mirrored {clock : Instant} {moves : List Move} {d : Detailed}
    (h : replay step (begin clock) moves = some d) :
    ∃ s, Reachable s ∧ Mirrored d s := by
  obtain ⟨choices, s, hs, hm⟩ :=
    replay_simulation (fun _ _ _ _ => step_mirrored) (begin_mirrored clock) h
  exact ⟨s, ⟨clock, choices, hs⟩, hm⟩

/-- Logs that are alike keep to the same rules. -/
theorem follows_alike {w w' : Watch} {log log' : List Event} (ha : List.Forall₂ Alike log log')
    (h : Follows w log' w') : Follows w log w' := by
  induction h generalizing log with
  | nil =>
    cases ha
    exact .nil
  | @snoc log' event u v _ hallowed ih =>
    have hfront := List.forall₂_take_append log log' [event] ha
    have hback := List.forall₂_drop_append log log' [event] ha
    rw [← List.take_append_drop log'.length log]
    generalize log.drop log'.length = back at hback
    cases hback with
    | cons he hnil =>
      cases hnil
      refine (ih hfront).snoc ?_
      cases he with
      | same _ => exact hallowed
      | read hmem =>
        cases hallowed with
        | read _ =>
          rw [← any_shutdown_eq hmem]
          exact .read _ _

theorem delivered_alike {log log' : List Event} (h : List.Forall₂ Alike log log') {signal : Signal}
    (hm : .delivered signal ∈ log) : .delivered signal ∈ log' := by
  induction h with
  | nil => cases hm
  | cons he _ ih =>
    obtain heq | hm := List.mem_cons.mp hm
    · subst heq
      cases he with
      | same _ => exact List.mem_cons_self
    · exact List.mem_cons_of_mem _ (ih hm)

/-- The worker the supervisor is minding. -/
def minded : Control → Option Nat
  | .supervising v | .polling v _ | .readable v | .expired v => some v.childPid
  | .forking | .exited _ | .backingOff _ | .sleeping _ _ | .waking _ | .stopped | .failed => none

theorem stands_live {children : List Child} {w : Watch} {control : Control}
    (h : Stands children w control) : w.live = minded control := by
  cases h with
  | supervising hg => exact hg.live
  | polling hg => exact hg.live
  | readable hg => exact hg.live
  | expired hg => exact hg.live
  | forking _ hl _ => exact hl
  | exited _ hl _ => exact hl
  | backingOff _ hl _ => exact hl
  | sleeping _ hl _ => exact hl
  | waking _ hl _ => exact hl
  | stopped _ hl => exact hl

theorem runs_watched {clock : Instant} {moves : List Move} {d : Detailed}
    (h : replay step (begin clock) moves = some d) :
    ∃ w, Follows idle d.system.log w ∧ Stands d.system.children w d.system.control := by
  obtain ⟨s, hr, hm⟩ := runs_mirrored h
  obtain ⟨w, hf, hst⟩ := reachable_watched hr
  rw [hm.children, hm.control] at hst
  exact ⟨w, follows_alike hm.log hf, hst⟩

/-- Signals are read one at a time while others arrive, reads are interrupted
and calls fail. Every such run is one of the supervisor that reads all pending
signals at once, its log breaks none of the rules, and a shutdown request that
was delivered is still pending, has been gathered, or has taken effect. -/
theorem interleaved_refines {clock : Instant} {moves : List Move} {d : Detailed}
    (h : replay step (begin clock) moves = some d) :
    (∃ s, Reachable s ∧ Mirrored d s) ∧ (∃ w, Follows idle d.system.log w) ∧
    ∀ signal, signal ≠ .chld → .delivered signal ∈ d.system.log →
      d.system.pending signal = true ∨ signal ∈ d.gathered ∨ Heeded d.system.control := by
  obtain ⟨s, hr, hm⟩ := runs_mirrored h
  obtain ⟨w, hf, -⟩ := runs_watched h
  refine ⟨⟨s, hr, hm⟩, ⟨w, hf⟩, ?_⟩
  intro signal hne hmem
  obtain hpend | hheeded := (reachable_alert hr).attentive signal hne (delivered_alike hm.log hmem)
  · rw [hm.pending, Bool.or_eq_true, decide_eq_true_iff] at hpend
    exact hpend.imp_right Or.inl
  · rw [hm.control] at hheeded
    exact Or.inr (Or.inr hheeded)

/-- SIGTERM arrives after SIGCHLD has been read but before the descriptor is
empty; then the poll fails. -/
def interruptedRead : List Move :=
  let answer (poll : Poll) : Move := .run ⟨100, poll, 5⟩
  [answer .ready, answer .ready, .deliver .chld, answer .ready, .retry, .take .chld, .deliver .term,
    .deliver .chld, .take .term, .take .chld, .finish 5, answer .ready, .fail, .exit 100 9]

theorem interleaved_refines_sample :
    ∃ d, replay step (begin 0) interruptedRead = some d ∧ d.failed = true ∧
      .read [.chld, .term, .chld] ∈ d.system.log ∧ (∃ s, Reachable s ∧ Mirrored d s) ∧
      ∃ w, Follows idle d.system.log w := by
  have heval : (replay step (begin 0) interruptedRead).any (fun d => d.failed = true ∧
      .read [.chld, .term, .chld] ∈ d.system.log) = true := by
    decide +kernel
  obtain ⟨d, hd, hp⟩ := (Option.any_eq_true _ _).mp heval
  obtain ⟨hfailed, hread⟩ := of_decide_eq_true hp
  obtain ⟨hs, hw, -⟩ := interleaved_refines hd
  exact ⟨d, hd, hfailed, hread, hs, hw⟩

/-- A supervisor that returns has reaped every worker, unless it gave up: then
it leaves behind the one worker it was minding when the call failed, and none
if the fork failed or it was waiting to restart. -/
theorem left_behind {clock : Instant} {moves : List Move} {d : Detailed}
    (h : replay step (begin clock) moves = some d)
    (hend : d.failed = true ∨ d.system.control = .stopped) :
    unreaped d.system.log = if d.failed then (minded d.system.control).toList else [] := by
  obtain ⟨w, hf, hst⟩ := runs_watched h
  rw [follows_unreaped hf, stands_live hst]
  obtain hfailed | hstopped := hend
  · rw [if_pos hfailed]
  · rw [hstopped]
    split <;> rfl

theorem left_behind_sample :
    ∃ d, replay step (begin 0) interruptedRead = some d ∧ unreaped d.system.log = [100] := by
  have heval : (replay step (begin 0) interruptedRead).any (fun d => d.failed = true ∧
      minded d.system.control = some 100) = true := by
    decide +kernel
  obtain ⟨d, hd, hp⟩ := (Option.any_eq_true _ _).mp heval
  obtain ⟨hfailed, hminded⟩ := of_decide_eq_true hp
  refine ⟨d, hd, ?_⟩
  rw [left_behind hd (Or.inl hfailed), if_pos hfailed, hminded]
  rfl

end NatStream.Supervisor.Interleaved
