import Mathlib.Data.List.Induction
import NatStream.Supervisor.Processes

namespace NatStream.Supervisor.Monitor

open NatStream.Lib.Time NatStream.Lib.Replay NatStream.Supervisor.Processes

/-- What an observer of the log remembers: the worker that has not been reaped,
how far it has been told to stop, and whether a shutdown was asked for. -/
structure Watch where
  live : Option Nat
  termTime : Option Instant
  killed : Bool
  shutdown : Bool

def idle : Watch where
  live := none
  termTime := none
  killed := false
  shutdown := false

/-- The rules a supervisor keeps to. An event that breaks one is refused. -/
inductive Allowed : Watch → Event → Watch → Prop where
  | delivered (w : Watch) (signal : Signal) : Allowed w (.delivered signal) w
  | forked (w : Watch) (pid : Nat) : w.live = none → w.shutdown = false →
      Allowed w (.forked pid) { w with live := some pid, termTime := none, killed := false }
  | reaped (w : Watch) (pid : Nat) : w.live = some pid →
      Allowed w (.reaped pid) { w with live := none }
  | read (w : Watch) (signals : List Signal) :
      Allowed w (.read signals)
        { w with shutdown := w.shutdown || signals.any fun signal => signal ≠ .chld }
  | term (w : Watch) (pid : Nat) (time : Instant) : w.live = some pid → w.termTime = none →
      w.killed = false → Allowed w (.killed pid .term time) { w with termTime := some time }
  | kill (w : Watch) (pid : Nat) (asked time : Instant) : w.live = some pid →
      w.termTime = some asked → w.killed = false → asked + (workerStopGrace : Int) ≤ time →
      Allowed w (.killed pid .kill time) { w with killed := true }

/-- A log that breaks no rule. -/
inductive Follows (w : Watch) : List Event → Watch → Prop where
  | nil : Follows w [] w
  | snoc {log : List Event} {event : Event} {w' w'' : Watch} : Follows w log w' →
      Allowed w' event w'' → Follows w (log ++ [event]) w''

theorem follows_snoc {w w'' : Watch} {log : List Event} {event : Event}
    (h : Follows w (log ++ [event]) w'') : ∃ w', Follows w log w' ∧ Allowed w' event w'' := by
  generalize hl : log ++ [event] = full at h
  cases h with
  | nil => exact absurd hl (List.append_ne_nil_of_right_ne_nil _ (List.cons_ne_nil _ _))
  | snoc hf ha =>
    obtain ⟨rfl, he⟩ := List.append_inj' hl rfl
    rw [List.singleton_inj.mp he]
    exact ⟨_, hf, ha⟩

theorem follows_append {w w'' : Watch} {log rest : List Event} (h : Follows w (log ++ rest) w'') :
    ∃ w', Follows w log w' ∧ Follows w' rest w'' := by
  induction rest using List.reverseRecOn generalizing w'' with
  | nil =>
    rw [List.append_nil] at h
    exact ⟨w'', h, .nil⟩
  | append_singleton rest event ih =>
    rw [← List.append_assoc] at h
    obtain ⟨u, hu, ha⟩ := follows_snoc h
    obtain ⟨w', hw, hr⟩ := ih hu
    exact ⟨w', hw, hr.snoc ha⟩

/-- The watch around one event of a log. -/
theorem follows_split {w w'' : Watch} {before after : List Event} {event : Event}
    (h : Follows w (before ++ event :: after) w'') :
    ∃ u v, Follows w before u ∧ Allowed u event v ∧ Follows v after w'' := by
  rw [← List.singleton_append, ← List.append_assoc] at h
  obtain ⟨v, hv, hafter⟩ := follows_append h
  obtain ⟨u, hu, ha⟩ := follows_snoc hv
  exact ⟨u, v, hu, ha, hafter⟩

def track (live : List Nat) : Event → List Nat
  | .forked pid => live ++ [pid]
  | .reaped pid => live.erase pid
  | .delivered _ | .read _ | .killed _ _ _ => live

/-- The workers that were forked and have not been reaped since. -/
def unreaped (log : List Event) : List Nat := log.foldl track []

theorem follows_unreaped {w : Watch} {log : List Event} (h : Follows idle log w) :
    unreaped log = w.live.toList := by
  induction h with
  | nil => rfl
  | @snoc log event w' w'' _ ha ih =>
    rw [unreaped, List.foldl_append, List.foldl_cons, List.foldl_nil]
    change track (unreaped log) event = _
    rw [ih]
    cases ha with
    | delivered signal => rfl
    | forked pid hlive _ => rw [hlive]; rfl
    | reaped pid hlive =>
      rw [hlive]
      change [pid].erase pid = []
      rw [List.erase_cons_head]
    | read signals => rfl
    | term pid time _ _ _ => rfl
    | kill pid asked time _ _ _ _ => rfl

theorem follows_shutdown {w w' : Watch} {log : List Event} (h : Follows w log w')
    (hs : w.shutdown = true) : w'.shutdown = true ∧ ∀ pid, .forked pid ∉ log := by
  induction h with
  | nil => exact ⟨hs, fun _ h => (nomatch h)⟩
  | @snoc log event u v _ ha ih =>
    obtain ⟨hu, hlog⟩ := ih
    cases ha with
    | delivered signal => simpa using ⟨hu, hlog⟩
    | forked pid _ hno => exact absurd hu (by rw [hno]; decide)
    | reaped pid _ => simpa using ⟨hu, hlog⟩
    | read signals => simpa [hu] using hlog
    | term pid time _ _ _ => simpa using ⟨hu, hlog⟩
    | kill pid asked time _ _ _ _ => simpa using ⟨hu, hlog⟩

/-- What was sent to a worker, and when. -/
def stops (log : List Event) : List (Stop × Instant) :=
  log.filterMap fun
    | .killed _ stop time => some (stop, time)
    | .delivered _ | .forked _ | .reaped _ | .read _ => none

/-- How far one worker has been told to stop. -/
inductive Stopping : List (Stop × Instant) → Watch → Prop where
  | untouched {w : Watch} : w.termTime = none → w.killed = false → Stopping [] w
  | asked {w : Watch} {time : Instant} : w.termTime = some time → w.killed = false →
      Stopping [(.term, time)] w
  | forced {w : Watch} {asked time : Instant} : w.termTime = some asked → w.killed = true →
      asked + (workerStopGrace : Int) ≤ time → Stopping [(.term, asked), (.kill, time)] w

theorem Stopping.same {w w' : Watch} {sent : List (Stop × Instant)} (h : Stopping sent w)
    (ht : w'.termTime = w.termTime) (hk : w'.killed = w.killed) : Stopping sent w' := by
  cases h with
  | untouched hn hf => exact .untouched (ht.trans hn) (hk.trans hf)
  | asked hs hf => exact .asked (ht.trans hs) (hk.trans hf)
  | forced hs hf hle => exact .forced (ht.trans hs) (hk.trans hf) hle

theorem stops_append (log rest : List Event) : stops (log ++ rest) = stops log ++ stops rest :=
  List.filterMap_append

theorem Allowed.stopping {u v : Watch} {event : Event} {sent : List (Stop × Instant)}
    (h : Allowed u event v) (hne : ∀ pid, event ≠ .forked pid) (hu : Stopping sent u) :
    Stopping (sent ++ stops [event]) v := by
  cases h with
  | delivered signal => exact (List.append_nil sent).symm ▸ hu
  | forked pid _ _ => exact absurd rfl (hne pid)
  | reaped pid _ => exact (List.append_nil sent).symm ▸ hu.same rfl rfl
  | read signals => exact (List.append_nil sent).symm ▸ hu.same rfl rfl
  | term pid time _ hn hf =>
    cases hu with
    | untouched _ _ => exact .asked rfl hf
    | asked hs _ => cases hn.symm.trans hs
    | forced hs _ _ => cases hn.symm.trans hs
  | kill pid asked time _ hs hf hle =>
    cases hu with
    | untouched hn _ => cases hn.symm.trans hs
    | asked hs' _ =>
      cases hs.symm.trans hs'
      exact .forced hs rfl hle
    | forced _ hk _ => exact Bool.noConfusion (hf.symm.trans hk)

theorem follows_stopping {w w' : Watch} {log : List Event} (h : Follows w log w')
    (hw : Stopping [] w) (hlog : ∀ pid, .forked pid ∉ log) : Stopping (stops log) w' := by
  induction h with
  | nil => exact hw
  | @snoc log event u v _ ha ih =>
    rw [stops_append]
    apply ha.stopping
    · rintro pid rfl
      exact hlog pid (List.mem_append_right _ (List.mem_singleton_self _))
    · apply ih
      intro pid hmem
      exact hlog pid (List.mem_append_left _ hmem)

/-- SIGTERM at most once, then SIGKILL at most once and not before the grace
period is over. -/
def InOrder (sent : List (Stop × Instant)) : Prop :=
  sent = [] ∨ (∃ time, sent = [(.term, time)]) ∨
    ∃ asked time, sent = [(.term, asked), (.kill, time)] ∧ asked + (workerStopGrace : Int) ≤ time

theorem Stopping.inOrder {w : Watch} {sent : List (Stop × Instant)} (h : Stopping sent w) :
    InOrder sent := by
  cases h with
  | untouched _ _ => exact Or.inl rfl
  | asked _ _ => exact Or.inr (Or.inl ⟨_, rfl⟩)
  | forced _ _ hle => exact Or.inr (Or.inr ⟨_, _, rfl, hle⟩)

end NatStream.Supervisor.Monitor
