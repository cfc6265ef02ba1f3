import NatStream.Supervisor.Monitor

namespace NatStream.Supervisor.Safety

open NatStream.Lib.Time NatStream.Lib.Replay NatStream.Supervisor.Processes
open NatStream.Supervisor.Monitor

/-- The variables of `supervise_child` say what the watch says about the one
worker there is. -/
structure Guards (children : List Child) (v : Supervised) (w : Watch) : Prop where
  only : ∃ status, children = [⟨v.childPid, status⟩]
  live : w.live = some v.childPid
  shutdown : w.shutdown = v.shuttingDown
  untouched : v.shuttingDown = false → w.termTime = none ∧ w.killed = false
  deadline : ∀ d, v.killDeadline = some d → w.killed = false ∧
    ∃ asked, w.termTime = some asked ∧ asked + (workerStopGrace : Int) ≤ d

/-- What holds at each place the supervisor can stand. -/
inductive Stands (children : List Child) (w : Watch) : Control → Prop where
  | forking : children = [] → w.live = none → w.shutdown = false → Stands children w .forking
  | supervising {v : Supervised} : Guards children v w → Stands children w (.supervising v)
  | polling {v : Supervised} {timeout : Option Nat} : Guards children v w →
      Stands children w (.polling v timeout)
  | readable {v : Supervised} : Guards children v w → Stands children w (.readable v)
  | expired {v : Supervised} : Guards children v w → Stands children w (.expired v)
  | exited {status : UInt32} : children = [] → w.live = none → w.shutdown = false →
      Stands children w (.exited status)
  | backingOff {deadline : Instant} : children = [] → w.live = none → w.shutdown = false →
      Stands children w (.backingOff deadline)
  | sleeping {deadline : Instant} {timeout : Nat} : children = [] → w.live = none →
      w.shutdown = false → Stands children w (.sleeping deadline timeout)
  | waking {deadline : Instant} : children = [] → w.live = none → w.shutdown = false →
      Stands children w (.waking deadline)
  | stopped : children = [] → w.live = none → Stands children w .stopped

/-- The log keeps to the rules and the supervisor stands where they leave it. -/
def Watched (s : System) : Prop :=
  ∃ w, Follows idle s.log w ∧ Stands s.children w s.control

theorem waitpid_only {children : List Child} {pid : Nat} {status : Option UInt32}
    (h : children = [⟨pid, status⟩]) : waitpid children pid = some status := by
  simp [waitpid, h]

theorem Guards.finish {children : List Child} {v : Supervised} {w : Watch} (h : Guards children v w)
    (pid : Nat) (status : UInt32) : Guards (children.map (finish pid status)) v w := by
  obtain ⟨old, ho⟩ := h.only
  refine ⟨?_, h.live, h.shutdown, h.untouched, h.deadline⟩
  by_cases hp : v.childPid = pid
  · exact ⟨some status, by simp [ho, Processes.finish, hp]⟩
  · exact ⟨old, by simp [ho, Processes.finish, hp]⟩

theorem Stands.finish {children : List Child} {w : Watch} {control : Control}
    (h : Stands children w control) (pid : Nat) (status : UInt32) :
    Stands (children.map (finish pid status)) w control := by
  cases h with
  | supervising hg => exact .supervising (hg.finish pid status)
  | polling hg => exact .polling (hg.finish pid status)
  | readable hg => exact .readable (hg.finish pid status)
  | expired hg => exact .expired (hg.finish pid status)
  | forking hc hl hs => exact .forking (by rw [hc]; rfl) hl hs
  | exited hc hl hs => exact .exited (by rw [hc]; rfl) hl hs
  | backingOff hc hl hs => exact .backingOff (by rw [hc]; rfl) hl hs
  | sleeping hc hl hs => exact .sleeping (by rw [hc]; rfl) hl hs
  | waking hc hl hs => exact .waking (by rw [hc]; rfl) hl hs
  | stopped hc hl => exact .stopped (by rw [hc]; rfl) hl

theorem superviseTop_watched {s : System} {v : Supervised} {w : Watch} (hf : Follows idle s.log w)
    (hg : Guards s.children v w) : Watched (superviseTop s v) := by
  obtain ⟨status, hc⟩ := hg.only
  rw [superviseTop]
  rw [waitpid_only hc]
  cases status with
  | none => exact ⟨w, hf, .polling hg⟩
  | some status =>
    refine ⟨{ w with live := none }, hf.snoc (.reaped w v.childPid hg.live), ?_⟩
    have hnone : (s.children.filter fun c => c.pid ≠ v.childPid) = [] := by
      simp [hc]
    cases hs : v.shuttingDown with
    | true => exact .stopped hnone rfl
    | false => exact .exited hnone rfl (hg.shutdown.trans hs)

/-- However many signals are read together, the worker is told to stop once. -/
theorem takeSignals_eq (pause : Duration) (s : System) (v : Supervised) (signals : List Signal) :
    signals.foldl (takeSignal pause) (s, v) =
      if v.shuttingDown = true ∨ ∀ signal ∈ signals, signal = .chld then (s, v)
      else stopWorker pause s v := by
  induction signals generalizing s v with
  | nil => rw [List.foldl_nil, if_pos (Or.inr fun _ h => (nomatch h))]
  | cons signal signals ih =>
    rw [List.foldl_cons, takeSignal]
    by_cases hskip : signal = .chld ∨ v.shuttingDown = true
    · rw [if_pos hskip, ih]
      refine if_congr ?_ rfl rfl
      rw [List.forall_mem_cons]
      constructor
      · rintro (hs | hall)
        · exact Or.inl hs
        · exact hskip.elim (fun hchld => Or.inr ⟨hchld, hall⟩) Or.inl
      · rintro (hs | ⟨_, hall⟩)
        · exact Or.inl hs
        · exact Or.inr hall
    · rw [if_neg hskip, stopWorker, ih, if_pos (Or.inl rfl), if_neg]
      rintro (hs | hall)
      · exact hskip (Or.inr hs)
      · exact hskip (Or.inl (hall signal List.mem_cons_self))

theorem any_eq_false {signals : List Signal} (h : ∀ signal ∈ signals, signal = .chld) :
    (signals.any fun signal => signal ≠ .chld) = false := by
  rw [List.any_eq_false]
  intro signal hmem
  simp [h signal hmem]

theorem any_eq_true {signals : List Signal} (h : ¬ ∀ signal ∈ signals, signal = .chld) :
    (signals.any fun signal => signal ≠ .chld) = true := by
  rw [List.any_eq_true]
  push Not at h
  simpa using h

theorem superviseReadable_watched {s : System} {v : Supervised} {w : Watch}
    (hf : Follows idle s.log w) (hg : Guards s.children v w) (pause : Duration) :
    Watched (superviseReadable s v pause) := by
  have hread := hf.snoc (.read w (readPending s))
  rw [superviseReadable]
  rw [takeSignals_eq]
  by_cases hskip : v.shuttingDown = true ∨ ∀ signal ∈ readPending s, signal = .chld
  · rw [if_pos hskip]
    refine ⟨_, hread, .supervising ⟨hg.only, hg.live, ?_, hg.untouched, hg.deadline⟩⟩
    obtain hs | hall := hskip
    · rw [hg.shutdown, hs, Bool.true_or]
    · rw [any_eq_false hall, Bool.or_false, hg.shutdown]
  · rw [if_neg hskip]
    rw [not_or, Bool.not_eq_true] at hskip
    obtain ⟨hterm, hkilled⟩ := hg.untouched hskip.1
    refine ⟨_, hread.snoc (.term _ v.childPid s.clock hg.live hterm hkilled), .supervising
      ⟨hg.only, hg.live, ?_, ?_, ?_⟩⟩
    · rw [any_eq_true hskip.2, Bool.or_true]
      rfl
    · intro hfalse
      cases hfalse
    · intro d hd
      cases hd
      refine ⟨hkilled, s.clock, rfl, ?_⟩
      exact Int.add_le_add_right (Int.le_add_of_nonneg_right (Int.natCast_nonneg _)) _

theorem superviseExpired_watched {s : System} {v : Supervised} {w : Watch}
    (hf : Follows idle s.log w) (hg : Guards s.children v w) (pause : Duration) :
    Watched (superviseExpired s v pause) := by
  rw [superviseExpired]
  cases hd : v.killDeadline with
  | none => exact ⟨w, hf, .supervising hg⟩
  | some d =>
    by_cases hle : d ≤ s.clock
    · obtain ⟨hkilled, asked, hterm, hgrace⟩ := hg.deadline d hd
      have htime : asked + (workerStopGrace : Int) ≤ s.clock + (pause : Int) :=
        (hgrace.trans hle).trans (Int.le_add_of_nonneg_right (Int.natCast_nonneg _))
      simp only [if_pos hle]
      refine ⟨_, hf.snoc (.kill w v.childPid asked _ hg.live hterm hkilled htime), .supervising
        ⟨hg.only, hg.live, hg.shutdown, ?_, ?_⟩⟩
      · intro hs
        cases (hg.untouched hs).1.symm.trans hterm
      · intro d' hd'
        cases hd'
    · simp only [if_neg hle]
      exact ⟨w, hf, .supervising hg⟩

theorem forkWorker_watched {s : System} {w : Watch} (hf : Follows idle s.log w)
    (hc : s.children = []) (hl : w.live = none) (hs : w.shutdown = false) (pid : Nat)
    (pause : Duration) : Watched (forkWorker s pid pause) := by
  refine ⟨_, hf.snoc (.forked w pid hl hs), .supervising ⟨⟨none, ?_⟩, rfl, hs, ?_, ?_⟩⟩
  · change s.children ++ [(⟨pid, none⟩ : Child)] = _
    rw [hc, List.nil_append]
  · intro _
    exact ⟨rfl, rfl⟩
  · intro d hd
    cases hd

theorem wake_watched {s : System} {w : Watch} (hf : Follows idle s.log w) (hc : s.children = [])
    (hl : w.live = none) (hs : w.shutdown = false) (deadline : Instant) :
    Watched (wake s deadline) := by
  refine ⟨_, hf.snoc (.read w (readPending s)), ?_⟩
  change Stands s.children _ (if ((readPending s).any fun signal => signal ≠ .chld) = true then .stopped
    else .backingOff deadline)
  cases hany : (readPending s).any fun signal => signal ≠ .chld with
  | true => exact .stopped hc hl
  | false => exact .backingOff hc hl (by rw [hs]; rfl)

theorem proceed_watched {s s' : System} {a : Answer} (h : Watched s) (hp : proceed s a = some s') :
    Watched s' := by
  obtain ⟨w, hf, hst⟩ := h
  rw [proceed] at hp
  generalize hcontrol : s.control = control at hp hst
  cases hst with
  | forking hc hl hs =>
    simp only [hc, List.any_nil, Bool.false_eq_true, if_false, Option.some.injEq] at hp
    rw [← hp]
    exact forkWorker_watched hf hc hl hs a.pid a.pause
  | supervising hg =>
    cases hp
    exact superviseTop_watched hf hg
  | polling hg =>
    cases hp
    refine ⟨w, hf, ?_⟩
    cases a.poll with
    | ready => exact .readable hg
    | notReady => exact .expired hg
    | interrupted => exact .supervising hg
  | readable hg =>
    cases hp
    exact superviseReadable_watched hf hg a.pause
  | expired hg =>
    cases hp
    exact superviseExpired_watched hf hg a.pause
  | exited hc hl hs =>
    cases hp
    rw [restartOrStop]
    split
    · exact ⟨w, hf, .stopped hc hl⟩
    · exact ⟨w, hf, .backingOff hc hl hs⟩
  | backingOff hc hl hs =>
    cases hp
    rw [backOff]
    split
    · exact ⟨w, hf, .forking hc hl hs⟩
    · exact ⟨w, hf, .sleeping hc hl hs⟩
  | sleeping hc hl hs =>
    cases hp
    refine ⟨w, hf, ?_⟩
    cases a.poll with
    | ready => exact .waking hc hl hs
    | notReady => exact .backingOff hc hl hs
    | interrupted => exact .backingOff hc hl hs
  | waking hc hl hs =>
    cases hp
    exact wake_watched hf hc hl hs _
  | stopped _ _ => cases hp

theorem act_watched {s s' : System} {choice : Choice} (h : Watched s)
    (ha : act s choice = some s') : Watched s' := by
  obtain ⟨w, hf, hst⟩ := h
  cases choice with
  | deliver signal =>
    cases ha
    exact ⟨w, hf.snoc (.delivered w signal), hst⟩
  | exit pid status =>
    simp only [act] at ha
    split at ha
    · cases ha
      exact ⟨w, hf, hst.finish pid status⟩
    · cases ha
  | advance d =>
    cases ha
    exact ⟨w, hf, hst⟩
  | proceed a => exact proceed_watched ⟨w, hf, hst⟩ ha

theorem reachable_watched {s : System} (h : Reachable s) : Watched s := by
  obtain ⟨clock, choices, hr⟩ := h
  refine replay_invariant (fun s a s' => act_watched) ?_ hr
  exact ⟨idle, .nil, .forking rfl rfl rfl⟩

theorem Stands.length_le {children : List Child} {w : Watch} {control : Control}
    (h : Stands children w control) : children.length ≤ 1 := by
  have hguards : ∀ v, Guards children v w → children.length ≤ 1 := by
    intro v hg
    obtain ⟨status, hc⟩ := hg.only
    rw [hc]
    exact le_rfl
  have hnone : children = [] → children.length ≤ 1 := by
    rintro rfl
    exact Nat.zero_le 1
  cases h with
  | supervising hg => exact hguards _ hg
  | polling hg => exact hguards _ hg
  | readable hg => exact hguards _ hg
  | expired hg => exact hguards _ hg
  | forking hc _ _ => exact hnone hc
  | exited hc _ _ => exact hnone hc
  | backingOff hc _ _ => exact hnone hc
  | sleeping hc _ _ => exact hnone hc
  | waking hc _ _ => exact hnone hc
  | stopped hc _ => exact hnone hc

/-- In any order of events: one worker at a time, none after a shutdown request,
no return before the worker is reaped, signals only to a worker that has not
been reaped, and to each at most a SIGTERM and, a grace period later, a
SIGKILL. -/
theorem supervisor_safety {s : System} (h : Reachable s) :
    (s.children.length ≤ 1 ∧ ∀ before pid after, s.log = before ++ .forked pid :: after →
      unreaped before = []) ∧
    ((∀ before signals after, s.log = before ++ .read signals :: after →
      (∃ signal ∈ signals, signal ≠ .chld) → ∀ pid, .forked pid ∉ after) ∧
      (s.control = .stopped → s.children = []) ∧ s.control ≠ .failed) ∧
    (∀ before pid stop time after, s.log = before ++ .killed pid stop time :: after →
      pid ∈ unreaped before) ∧
    (∀ before pid during after, s.log = before ++ .forked pid :: (during ++ after) →
      (∀ other, .forked other ∉ during) → InOrder (stops during)) := by
  obtain ⟨w, hf, hst⟩ := reachable_watched h
  refine ⟨⟨hst.length_le, ?_⟩, ⟨?_, ?_, ?_⟩, ?_, ?_⟩
  · intro before pid after hlog
    rw [hlog] at hf
    obtain ⟨u, v, hu, ha, -⟩ := follows_split hf
    cases ha with
    | forked _ hlive _ => rw [follows_unreaped hu, hlive, Option.toList_none]
  · intro before signals after hlog hshutdown
    rw [hlog] at hf
    obtain ⟨u, v, -, ha, hafter⟩ := follows_split hf
    cases ha with
    | read _ =>
      apply (follows_shutdown hafter _).2
      have hany : (signals.any fun signal => signal ≠ .chld) = true := by
        apply any_eq_true
        obtain ⟨signal, hmem, hne⟩ := hshutdown
        exact fun hall => hne (hall signal hmem)
      rw [hany, Bool.or_true]
  · intro hstopped
    rw [hstopped] at hst
    cases hst with
    | stopped hc _ => exact hc
  · intro hfailed
    rw [hfailed] at hst
    cases hst
  · intro before pid stop time after hlog
    rw [hlog] at hf
    obtain ⟨u, v, hu, ha, -⟩ := follows_split hf
    rw [follows_unreaped hu]
    cases ha with
    | term _ _ hlive _ _ => rw [hlive]; exact List.mem_singleton_self pid
    | kill _ _ _ hlive _ _ _ => rw [hlive]; exact List.mem_singleton_self pid
  · intro before pid during after hlog hnone
    rw [hlog] at hf
    obtain ⟨u, v, -, ha, hrest⟩ := follows_split hf
    obtain ⟨x, hduring, -⟩ := follows_append hrest
    cases ha with
    | forked _ _ _ => exact (follows_stopping hduring (.untouched rfl rfl) hnone).inOrder

/-- A worker that ignores SIGTERM and is killed eleven seconds later. -/
def stubbornWorker : List Choice :=
  let answer (poll : Poll) : Choice := .proceed ⟨100, poll, 5⟩
  [answer .ready, .deliver .term, answer .ready, answer .ready, answer .ready, answer .ready,
    .advance (fromSecs 11), answer .notReady, answer .ready, .exit 100 9, answer .ready]

theorem supervisor_safety_stubborn :
    ∃ s, replay act (start 0) stubbornWorker = some s ∧ s.control = .stopped ∧ s.children = [] ∧
      (stops s.log).length = 2 ∧
      ∀ before pid stop time after, s.log = before ++ .killed pid stop time :: after →
        pid ∈ unreaped before := by
  have heval : (replay act (start 0) stubbornWorker).any (fun s =>
      s.control = .stopped ∧ (stops s.log).length = 2) = true := by
    decide +kernel
  obtain ⟨s, hs, hp⟩ := (Option.any_eq_true _ _).mp heval
  obtain ⟨hstopped, hlen⟩ := of_decide_eq_true hp
  obtain ⟨-, ⟨-, hreaped, -⟩, hkill, -⟩ := supervisor_safety ⟨0, stubbornWorker, hs⟩
  exact ⟨s, hs, hstopped, hreaped hstopped, hlen, hkill⟩

end NatStream.Supervisor.Safety
