import NatStream.Lib.Backoff
import NatStream.Supervisor.Safety

namespace NatStream.Supervisor.Restarts

open NatStream.Lib.Time NatStream.Lib.Replay NatStream.Lib.Backoff NatStream.Supervisor.Processes
open NatStream.Supervisor.Safety

theorem healthyRuntime_le_spread (m : Nat) (h : restartBackoffMax < 2 ^ m * restartBackoffMin) :
    healthyRuntime ≤ (2 ^ m - 1) * restartBackoffMin := by
  have hlt : 60 < 2 ^ m := by
    have hscaled : 60 * nanosPerSec < 2 ^ m * (1 * nanosPerSec) := h
    rw [Nat.one_mul] at hscaled
    exact Nat.lt_of_mul_lt_mul_right hscaled
  have hm : 6 ≤ m := by
    by_contra hsmall
    have hpow : 2 ^ m ≤ 2 ^ 5 := Nat.pow_le_pow_right (by decide) (by omega)
    omega
  have hpow : 2 ^ 6 ≤ 2 ^ m := Nat.pow_le_pow_right (by decide) hm
  change 60 * nanosPerSec ≤ (2 ^ m - 1) * (1 * nanosPerSec)
  rw [Nat.one_mul]
  exact Nat.mul_le_mul_right _ (by omega)

/-- The restart delays, as an instance of exponential backoff. -/
def policy : Policy where
  base := restartBackoffMin
  cap := restartBackoffMax
  window := healthyRuntime
  base_le := by decide
  spans := healthyRuntime_le_spread

def isForked : Event → Bool
  | .forked _ => true
  | .delivered _ | .reaped _ | .read _ | .killed _ _ _ => false

def forkTimes (s : System) : Choice → List Instant
  | .proceed a => if s.control = .forking then [s.clock + (a.pause : Int)] else []
  | .deliver _ | .exit _ _ | .advance _ => []

/-- The system together with the times at which it forked, the latest first. -/
def actTimed (st : System × List Instant) (choice : Choice) : Option (System × List Instant) :=
  (act st.1 choice).map fun s => (s, forkTimes st.1 choice ++ st.2)

/-- A worker has been forked and the supervisor has not yet decided what to do
about its end. -/
def atWork : Control → Bool
  | .supervising _ | .polling _ _ | .readable _ | .expired _ | .exited _ => true
  | .forking | .backingOff _ | .sleeping _ _ | .waking _ | .stopped | .failed => false

def waitsFor : Control → Option Instant
  | .backingOff deadline | .sleeping deadline _ | .waking deadline => some deadline
  | .forking | .supervising _ | .polling _ _ | .readable _ | .expired _ | .exited _ | .stopped
  | .failed => none

def isOver : Control → Bool
  | .stopped | .failed => true
  | .forking | .supervising _ | .polling _ _ | .readable _ | .expired _ | .exited _
  | .backingOff _ | .sleeping _ _ | .waking _ => false

/-- Where the supervisor stands in the schedule of its restarts. -/
inductive Phase (s : System) : List Attempt → Prop where
  | fresh : s.control = .forking → s.backoff = restartBackoffMin → Phase s []
  | ready {a : Attempt} {as : List Attempt} {due wait : Nat} : s.control = .forking →
      Paced policy (a :: as) due → Waits policy due a s.clock wait →
      s.backoff = min (wait * 2) restartBackoffMax → Phase s (a :: as)
  | working {a : Attempt} {as : List Attempt} : atWork s.control = true → s.started = a.noted →
      Paced policy (a :: as) s.backoff → a.made ≤ s.clock → Phase s (a :: as)
  | waiting {deadline : Instant} {a : Attempt} {as : List Attempt} {due : Nat} :
      waitsFor s.control = some deadline → Paced policy (a :: as) due →
      Waits policy due a deadline s.backoff → Phase s (a :: as)
  | ended {a : Attempt} {as : List Attempt} {due : Nat} : isOver s.control = true →
      Paced policy (a :: as) due → restartBackoffMin ≤ s.backoff → s.backoff ≤ restartBackoffMax →
      Phase s (a :: as)

/-- What the rest of the system does leaves the schedule as it is. -/
theorem Phase.later {s s' : System} {attempts : List Attempt} (h : Phase s attempts)
    (hc : s'.control = s.control) (hs : s'.started = s.started) (hb : s'.backoff = s.backoff)
    (ht : s.clock ≤ s'.clock) : Phase s' attempts := by
  cases h with
  | fresh hf hbase => exact .fresh (hc.trans hf) (hb.trans hbase)
  | ready hf hp hw hbase => exact .ready (hc.trans hf) hp (hw.mono ht) (hb.trans hbase)
  | working ha hn hp hle =>
    rw [← hb] at hp
    exact .working (by rw [hc]; exact ha) (hs.trans hn) hp (hle.trans ht)
  | waiting hd hp hw => exact .waiting (by rw [hc]; exact hd) hp (by rw [hb]; exact hw)
  | ended ho hp hmin hmax =>
    exact .ended (by rw [hc]; exact ho) hp (by rw [hb]; exact hmin) (by rw [hb]; exact hmax)

/-- The supervisor goes on minding its worker, or ends. -/
structure Minds (s s' : System) : Prop where
  control : atWork s'.control = true ∨ isOver s'.control = true
  started : s'.started = s.started
  backoff : s'.backoff = s.backoff
  clock : s.clock ≤ s'.clock
  forks : s'.log.countP isForked = s.log.countP isForked

theorem le_add_pause (clock : Instant) (pause : Duration) : clock ≤ clock + (pause : Int) :=
  Int.le_add_of_nonneg_right (Int.natCast_nonneg _)

theorem countP_snoc (log : List Event) {event : Event} (h : isForked event = false) :
    (log ++ [event]).countP isForked = log.countP isForked := by
  rw [List.countP_append, List.countP_singleton, h]
  rfl

theorem superviseTop_minds (s : System) (v : Supervised) : Minds s (superviseTop s v) := by
  rw [superviseTop]
  split
  · exact ⟨Or.inr rfl, rfl, rfl, le_rfl, rfl⟩
  · refine ⟨?_, rfl, rfl, le_rfl, countP_snoc _ rfl⟩
    cases hv : v.shuttingDown with
    | true => exact Or.inr (by simp [record, isOver])
    | false => exact Or.inl (by simp [record, atWork])
  · exact ⟨Or.inl rfl, rfl, rfl, le_rfl, rfl⟩

theorem superviseReadable_minds (s : System) (v : Supervised) (pause : Duration) :
    Minds s (superviseReadable s v pause) := by
  have hread : (drained s).log.countP isForked = s.log.countP isForked := countP_snoc _ rfl
  rw [superviseReadable]
  rw [takeSignals_eq]
  by_cases hskip : v.shuttingDown = true ∨ ∀ signal ∈ readPending s, signal = .chld
  · rw [if_pos hskip]
    exact ⟨Or.inl rfl, rfl, rfl, le_rfl, hread⟩
  · rw [if_neg hskip]
    exact ⟨Or.inl rfl, rfl, rfl, le_add_pause _ _, (countP_snoc _ rfl).trans hread⟩

theorem superviseExpired_minds (s : System) (v : Supervised) (pause : Duration) :
    Minds s (superviseExpired s v pause) := by
  rw [superviseExpired]
  split
  · split
    · exact ⟨Or.inl rfl, rfl, rfl, le_add_pause _ _, countP_snoc _ rfl⟩
    · exact ⟨Or.inl rfl, rfl, rfl, le_rfl, rfl⟩
  · exact ⟨Or.inl rfl, rfl, rfl, le_rfl, rfl⟩

theorem Phase.minds {s s' : System} {attempts : List Attempt} (h : Phase s attempts)
    (ha : atWork s.control = true) (hm : Minds s s') : Phase s' attempts := by
  cases h with
  | fresh hf _ => rw [hf] at ha; cases ha
  | ready hf _ _ _ => rw [hf] at ha; cases ha
  | waiting hd _ _ =>
    cases hc : s.control <;> simp [hc, atWork, waitsFor] at ha hd
  | ended ho _ _ _ =>
    cases hc : s.control <;> simp [hc, atWork, isOver] at ha ho
  | working _ hn hp hle =>
    have hb := hp.bounds
    obtain hw | ho := hm.control
    · rw [← hm.backoff] at hp
      exact .working hw (hm.started.trans hn) hp (hle.trans hm.clock)
    · rw [← hm.backoff] at hb
      exact .ended ho hp hb.1 hb.2

def forkAttempt (s : System) (pause : Duration) : Attempt :=
  ⟨s.clock, s.clock + (pause : Int), le_add_pause s.clock pause⟩

theorem forkWorker_phase {s : System} {attempts : List Attempt} (h : Phase s attempts)
    (hf : s.control = .forking) (pid : Nat) (pause : Duration) :
    Phase (forkWorker s pid pause) (forkAttempt s pause :: attempts) := by
  cases h with
  | fresh _ hb =>
    have hp : Paced policy [forkAttempt s pause] s.backoff := hb ▸ Paced.first (forkAttempt s pause)
    exact .working rfl rfl hp le_rfl
  | ready _ hp hw hb =>
    have hw' : Waits policy _ _ (forkAttempt s pause).noted _ := hw
    have hp' := hp.again hw'
    change Paced policy _ (min _ restartBackoffMax) at hp'
    rw [← hb] at hp'
    exact .working rfl rfl hp' le_rfl
  | working ha _ _ _ => rw [hf] at ha; cases ha
  | waiting hd _ _ => rw [hf] at hd; cases hd
  | ended ho _ _ _ => rw [hf] at ho; cases ho

theorem restartOrStop_phase {s : System} {attempts : List Attempt} {status : UInt32}
    (h : Phase s attempts) (he : s.control = .exited status) (pause : Duration) :
    Phase (restartOrStop s status pause) attempts := by
  cases h with
  | fresh hf _ => rw [he] at hf; cases hf
  | ready hf _ _ _ => rw [he] at hf; cases hf
  | waiting hd _ _ => rw [he] at hd; cases hd
  | ended ho _ _ _ => rw [he] at ho; cases ho
  | @working a _ _ hn hp hle =>
    rw [restartOrStop]
    split
    · exact .ended rfl hp hp.bounds.1 hp.bounds.2
    · refine .waiting rfl hp ?_
      have hnow : a.made ≤ s.clock + (pause : Int) := hle.trans (le_add_pause _ _)
      have hafter (d : Duration) : a.made + (d : Int) ≤ s.clock + (pause : Int) + (d : Int) :=
        Int.add_le_add_right hnow _
      by_cases hlong : durationSince s.clock s.started ≥ healthyRuntime
      · simp only [if_pos hlong]
        refine ⟨hafter _, Or.inr ⟨?_, rfl⟩⟩
        have hhealthy := (le_durationSince_iff (by decide)).mp hlong
        rw [hn] at hhealthy
        exact (hhealthy.trans (le_add_pause _ _)).trans (le_add_pause _ _)
      · simp only [if_neg hlong]
        exact ⟨hafter _, Or.inl rfl⟩

theorem backOff_phase {s : System} {attempts : List Attempt} {deadline : Instant}
    (h : Phase s attempts) (hd : s.control = .backingOff deadline) : Phase (backOff s deadline) attempts := by
  cases h with
  | fresh hf _ => rw [hd] at hf; cases hf
  | ready hf _ _ _ => rw [hd] at hf; cases hf
  | working ha _ _ _ => rw [hd] at ha; cases ha
  | ended ho _ _ _ => rw [hd] at ho; cases ho
  | waiting hd' hp hw =>
    rw [hd] at hd'
    cases hd'
    rw [backOff]
    split
    · rename_i hle
      exact .ready rfl hp (hw.mono hle) rfl
    · exact .waiting rfl hp hw

/-- A supervisor that waits for a deadline goes on doing so, or ends. -/
theorem Phase.waits {s s' : System} {attempts : List Attempt} {deadline : Instant}
    (h : Phase s attempts) (hd : waitsFor s.control = some deadline) (hb : s'.backoff = s.backoff)
    (hc : waitsFor s'.control = some deadline ∨ isOver s'.control = true) : Phase s' attempts := by
  cases h with
  | fresh hf _ => rw [hf] at hd; cases hd
  | ready hf _ _ _ => rw [hf] at hd; cases hd
  | working ha _ _ _ =>
    cases hc : s.control <;> simp [hc, atWork, waitsFor] at ha hd
  | ended ho _ _ _ =>
    cases hc : s.control <;> simp [hc, isOver, waitsFor] at ho hd
  | waiting hd' hp hw =>
    cases hd.symm.trans hd'
    obtain hc | hc := hc
    · exact .waiting hc hp (by rw [hb]; exact hw)
    · refine .ended hc hp ?_ ?_
      · rw [hb]
        exact hw.base_le hp.bounds.1
      · rw [hb]
        exact hw.le_cap hp.bounds.2

/-- The schedule is kept, and every fork has been noted. -/
structure Throttled (s : System) (times : List Instant) : Prop where
  phase : ∃ attempts, Phase s attempts ∧ attempts.map Attempt.made = times
  count : times.length = s.log.countP isForked

theorem Throttled.same {s s' : System} {times : List Instant} (h : Throttled s times)
    (hphase : ∀ {attempts}, Phase s attempts → Phase s' attempts)
    (hcount : s'.log.countP isForked = s.log.countP isForked) : Throttled s' times := by
  obtain ⟨attempts, hp, hmade⟩ := h.phase
  exact ⟨⟨attempts, hphase hp, hmade⟩, h.count.trans hcount.symm⟩

theorem Throttled.minds {s s' : System} {times : List Instant} (h : Throttled s times)
    (ha : atWork s.control = true) (hm : Minds s s') : Throttled s' times :=
  h.same (fun hp => hp.minds ha hm) hm.forks

theorem proceed_throttled {s s' : System} {times : List Instant} {a : Answer} (h : Throttled s times)
    (hp : proceed s a = some s') : Throttled s' (forkTimes s (.proceed a) ++ times) := by
  rw [proceed] at hp
  rw [forkTimes]
  cases hc : s.control with
  | forking =>
    simp only [hc] at hp
    split at hp
    · cases hp
    · cases hp
      rw [if_pos rfl]
      obtain ⟨attempts, hphase, hmade⟩ := h.phase
      refine ⟨⟨_, forkWorker_phase hphase hc a.pid a.pause, congrArg (List.cons _) hmade⟩, ?_⟩
      change times.length + 1 = (s.log ++ [Event.forked a.pid]).countP isForked
      rw [h.count, List.countP_append]
      rfl
  | supervising v =>
    simp only [hc, Option.some.injEq] at hp
    rw [← hp]
    exact h.minds (by rw [hc]; rfl) (superviseTop_minds s v)
  | polling v timeout =>
    simp only [hc, Option.some.injEq] at hp
    rw [← hp]
    refine h.minds (by rw [hc]; rfl) ⟨Or.inl ?_, rfl, rfl, le_rfl, rfl⟩
    cases a.poll <;> rfl
  | readable v =>
    simp only [hc, Option.some.injEq] at hp
    rw [← hp]
    exact h.minds (by rw [hc]; rfl) (superviseReadable_minds s v a.pause)
  | expired v =>
    simp only [hc, Option.some.injEq] at hp
    rw [← hp]
    exact h.minds (by rw [hc]; rfl) (superviseExpired_minds s v a.pause)
  | exited status =>
    simp only [hc, Option.some.injEq] at hp
    rw [← hp]
    refine h.same (fun hp => restartOrStop_phase hp hc a.pause) ?_
    rw [restartOrStop]
    split <;> rfl
  | backingOff deadline =>
    simp only [hc, Option.some.injEq] at hp
    rw [← hp]
    refine h.same (fun hp => backOff_phase hp hc) ?_
    rw [backOff]
    split <;> rfl
  | sleeping deadline timeout =>
    simp only [hc, Option.some.injEq] at hp
    rw [← hp]
    refine h.same (fun hp => hp.waits (by rw [hc]; rfl) rfl (Or.inl ?_)) rfl
    cases a.poll <;> rfl
  | waking deadline =>
    simp only [hc, Option.some.injEq] at hp
    rw [← hp]
    refine h.same (fun hp => hp.waits (by rw [hc]; rfl) rfl ?_) (countP_snoc _ rfl)
    rw [wake]
    dsimp only
    split
    · exact Or.inr rfl
    · exact Or.inl rfl
  | stopped => simp only [hc] at hp; cases hp
  | failed => simp only [hc] at hp; cases hp

theorem act_throttled {s s' : System} {times : List Instant} {choice : Choice}
    (h : Throttled s times) (ha : act s choice = some s') :
    Throttled s' (forkTimes s choice ++ times) := by
  cases choice with
  | deliver signal =>
    cases ha
    exact h.same (fun hp => hp.later rfl rfl rfl le_rfl) (countP_snoc _ rfl)
  | exit pid status =>
    simp only [act] at ha
    split at ha
    · cases ha
      exact h.same (fun hp => hp.later rfl rfl rfl le_rfl) rfl
    · cases ha
  | advance d =>
    cases ha
    exact h.same (fun hp => hp.later rfl rfl rfl (le_add_pause _ _)) rfl
  | proceed a => exact proceed_throttled h ha

theorem replay_throttled {clock : Instant} {choices : List Choice} {st : System × List Instant}
    (h : replay actTimed (start clock, []) choices = some st) : Throttled st.1 st.2 := by
  refine replay_invariant (P := fun st => Throttled st.1 st.2) ?_ ⟨⟨[], .fresh rfl rfl, rfl⟩, rfl⟩ h
  intro st choice st' hst hstep
  obtain ⟨s', hs', rfl⟩ := Option.map_eq_some_iff.mp hstep
  exact act_throttled hst hs'

theorem Phase.paced {s : System} {attempts : List Attempt} (h : Phase s attempts) :
    attempts = [] ∨ ∃ due, Paced policy attempts due := by
  cases h with
  | fresh _ _ => exact Or.inl rfl
  | ready _ hp _ _ => exact Or.inr ⟨_, hp⟩
  | working _ _ hp _ => exact Or.inr ⟨_, hp⟩
  | waiting _ hp _ => exact Or.inr ⟨_, hp⟩
  | ended _ hp _ _ => exact Or.inr ⟨_, hp⟩

theorem Phase.backoff_bounds {s : System} {attempts : List Attempt} (h : Phase s attempts) :
    restartBackoffMin ≤ s.backoff ∧ s.backoff ≤ restartBackoffMax := by
  cases h with
  | fresh _ hb =>
    rw [hb]
    exact ⟨le_rfl, policy.base_le⟩
  | ready _ hp hw hb =>
    rw [hb]
    have hw' : Waits policy _ _ (forkAttempt s 0).noted _ := hw
    exact (hp.again hw').bounds
  | working _ _ hp _ => exact hp.bounds
  | waiting _ hp hw => exact ⟨hw.base_le hp.bounds.1, hw.le_cap hp.bounds.2⟩
  | ended _ _ hmin hmax => exact ⟨hmin, hmax⟩

/-- Restarts are throttled whatever happens: from any fork to the one `m` forks
later at least `2 ^ m - 1` seconds pass, or a minute if that is less. So no
minute ever sees more than six forks. The delay stays between its bounds. -/
theorem restarts_throttled {clock : Instant} {choices : List Choice} {s : System}
    {times : List Instant} (h : replay actTimed (start clock, []) choices = some (s, times)) :
    times.length = s.log.countP isForked ∧
    (∀ (i m : Nat) (t t' : Instant), times[i]? = some t' → times[i + m]? = some t →
      t + ((min (fromSecs (2 ^ m - 1)) (fromSecs 60) : Nat) : Int) ≤ t') ∧
    restartBackoffMin ≤ s.backoff ∧ s.backoff ≤ restartBackoffMax := by
  obtain ⟨⟨attempts, hphase, rfl⟩, hcount⟩ := replay_throttled h
  refine ⟨hcount, ?_, hphase.backoff_bounds⟩
  intro i m t t' hi hm
  obtain rfl | ⟨due, hp⟩ := hphase.paced
  · cases hi
  · rw [List.getElem?_map, Option.map_eq_some_iff] at hi hm
    obtain ⟨a', hi, rfl⟩ := hi
    obtain ⟨a, hm, rfl⟩ := hm
    have hapart := hp.apart hi hm
    change a.made + ((min ((2 ^ m - 1) * (1 * nanosPerSec)) (fromSecs 60) : Nat) : Int) ≤ a'.made at hapart
    rw [Nat.one_mul] at hapart
    exact hapart

/-- A worker that crashes at once, twice, and is restarted after one second and
after two more. -/
def crashLoop : List Choice :=
  let go : Choice := .proceed ⟨100, .notReady, 0⟩
  let crash : List Choice := [go, .exit 100 256, go, go, go, .advance (fromSecs 1)]
  crash ++ [go, go] ++ crash ++ [go, go, .advance (fromSecs 1), go, go, go]

theorem restarts_throttled_crashLoop :
    ∃ s times, replay actTimed (start 0, []) crashLoop = some (s, times) ∧ times.length = 3 ∧
      times.length = s.log.countP isForked ∧
      ∀ t t' : Instant, times[0]? = some t' → times[2]? = some t → t + (fromSecs 3 : Int) ≤ t' := by
  have heval : (replay actTimed (start 0, []) crashLoop).any (fun st => st.2.length = 3) = true := by
    decide +kernel
  obtain ⟨⟨s, times⟩, hs, hlen⟩ := (Option.any_eq_true _ _).mp heval
  obtain ⟨hcount, hapart, -⟩ := restarts_throttled hs
  exact ⟨s, times, hs, of_decide_eq_true hlen, hcount, fun t t' h0 h2 => hapart 0 2 t t' h0 h2⟩

end NatStream.Supervisor.Restarts
