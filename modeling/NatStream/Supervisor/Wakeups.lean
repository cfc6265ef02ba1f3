import NatStream.Supervisor.Safety

namespace NatStream.Supervisor.Wakeups

open NatStream.Lib.Time NatStream.Lib.Replay NatStream.Supervisor.Processes
open NatStream.Supervisor.Monitor NatStream.Supervisor.Safety

/-- A worker with this process id is running. -/
def Running (s : System) (pid : Nat) : Prop := ∃ c ∈ s.children, c.pid = pid ∧ c.status = none

/-- A supervisor that waits has not missed the exit of its worker. -/
def Awake (s : System) : Prop :=
  ∀ v timeout, s.control = .polling v timeout → Running s v.childPid ∨ s.pending .chld = true

/-- A shutdown request has taken effect. -/
inductive Heeded : Control → Prop where
  | supervising {v : Supervised} : v.shuttingDown = true → Heeded (.supervising v)
  | polling {v : Supervised} {timeout : Option Nat} : v.shuttingDown = true →
      Heeded (.polling v timeout)
  | readable {v : Supervised} : v.shuttingDown = true → Heeded (.readable v)
  | expired {v : Supervised} : v.shuttingDown = true → Heeded (.expired v)
  | stopped : Heeded .stopped

/-- No shutdown request that was delivered has been dropped. -/
def Attentive (s : System) : Prop :=
  ∀ signal, signal ≠ .chld → .delivered signal ∈ s.log → s.pending signal = true ∨ Heeded s.control

theorem running_of_waitpid {s : System} {pid : Nat} (h : waitpid s.children pid = some none) :
    Running s pid := by
  rw [waitpid, Option.map_eq_some_iff] at h
  obtain ⟨c, hc, hstatus⟩ := h
  have hpid := List.find?_some hc
  exact ⟨c, List.mem_of_find?_eq_some hc, of_decide_eq_true hpid, hstatus⟩

/-- The supervisor goes to wait only after it has seen its worker running. -/
theorem proceed_polling {s s' : System} {a : Answer} {v : Supervised} {timeout : Option Nat}
    (hp : proceed s a = some s') (hc : s'.control = .polling v timeout) :
    Running s' v.childPid := by
  rw [proceed] at hp
  cases hs : s.control with
  | supervising u =>
    simp only [hs, Option.some.injEq] at hp
    rw [← hp] at hc ⊢
    rw [superviseTop] at hc ⊢
    split at hc
    · cases hc
    · cases hu : u.shuttingDown <;> simp [record, hu] at hc
    · rename_i hwait
      cases hc
      exact running_of_waitpid hwait
  | forking =>
    simp only [hs] at hp
    split at hp
    · cases hp
    · cases hp
      cases hc
  | polling u t =>
    simp only [hs] at hp
    cases hp
    cases hpoll : a.poll <;> simp [hpoll] at hc
  | readable u =>
    simp only [hs] at hp
    cases hp
    cases hc
  | expired u =>
    simp only [hs] at hp
    cases hp
    rw [superviseExpired] at hc
    split at hc
    · split at hc <;> cases hc
    · cases hc
  | exited status =>
    simp only [hs] at hp
    cases hp
    rw [restartOrStop] at hc
    split at hc <;> cases hc
  | backingOff deadline =>
    simp only [hs] at hp
    cases hp
    rw [backOff] at hc
    split at hc <;> cases hc
  | sleeping deadline t =>
    simp only [hs] at hp
    cases hp
    cases hpoll : a.poll <;> simp [hpoll] at hc
  | waking deadline =>
    simp only [hs] at hp
    cases hp
    rw [wake] at hc
    simp only at hc
    split at hc <;> cases hc
  | stopped => simp [hs] at hp
  | failed => simp [hs] at hp

theorem act_awake {s s' : System} {choice : Choice} (h : Awake s) (ha : act s choice = some s') :
    Awake s' := by
  intro v timeout hc
  cases choice with
  | deliver signal =>
    cases ha
    obtain hrun | hpend := h v timeout hc
    · exact Or.inl hrun
    · apply Or.inr
      simp only [record, raise, hpend, Bool.or_true]
  | exit pid status =>
    simp only [act] at ha
    split at ha
    · cases ha
      exact Or.inr rfl
    · cases ha
  | advance d =>
    cases ha
    exact h v timeout hc
  | proceed a => exact Or.inl (proceed_polling ha hc)

theorem Attentive.keep {s s' : System} (h : Attentive s) (hp : s'.pending = s.pending)
    (hl : ∀ signal, .delivered signal ∈ s'.log → .delivered signal ∈ s.log)
    (hc : Heeded s.control → Heeded s'.control) : Attentive s' := by
  intro signal hne hmem
  rw [hp]
  exact (h signal hne (hl signal hmem)).imp_right hc

/-- Reading the descriptor empties it, so what was read has to take effect. -/
theorem Attentive.read {s s' : System} (h : Attentive s)
    (hl : ∀ signal, .delivered signal ∈ s'.log → .delivered signal ∈ s.log)
    (hc : Heeded s.control → Heeded s'.control)
    (hr : ∀ signal ∈ readPending s, signal ≠ .chld → Heeded s'.control) : Attentive s' := by
  intro signal hne hmem
  obtain hpend | hheeded := h signal hne (hl signal hmem)
  · refine Or.inr (hr signal ?_ hne)
    rw [readPending, List.mem_filter]
    refine ⟨?_, hpend⟩
    cases signal <;> decide
  · exact Or.inr (hc hheeded)

theorem superviseTop_attentive {s : System} {v : Supervised} {w : Watch} (h : Attentive s)
    (hcontrol : s.control = .supervising v) (hg : Guards s.children v w) :
    Attentive (superviseTop s v) := by
  obtain ⟨status, hc⟩ := hg.only
  have hshutting : Heeded s.control → v.shuttingDown = true := by
    rw [hcontrol]
    intro hh
    cases hh with
    | supervising hs => exact hs
  rw [superviseTop]
  rw [waitpid_only hc]
  cases status with
  | none => exact h.keep rfl (fun _ hmem => hmem) fun hh => .polling (hshutting hh)
  | some status =>
    refine h.keep rfl ?_ ?_
    · intro signal hmem
      simpa [record] using hmem
    · intro hh
      simp only [record, hshutting hh, if_true]
      exact .stopped

theorem superviseReadable_attentive {s : System} {v : Supervised} (h : Attentive s)
    (hcontrol : s.control = .readable v) (pause : Duration) :
    Attentive (superviseReadable s v pause) := by
  have hshutting : Heeded s.control → v.shuttingDown = true := by
    rw [hcontrol]
    intro hh
    cases hh with
    | readable hs => exact hs
  rw [superviseReadable]
  rw [takeSignals_eq]
  by_cases hskip : v.shuttingDown = true ∨ ∀ signal ∈ readPending s, signal = .chld
  · rw [if_pos hskip]
    apply h.read
    · intro signal hmem
      simpa [drained, record] using hmem
    · exact fun hh => .supervising (hshutting hh)
    · intro signal hmem hne
      exact hskip.elim .supervising fun hall => absurd (hall signal hmem) hne
  · rw [if_neg hskip]
    apply h.read
    · intro signal hmem
      simpa [stopWorker, drained, record] using hmem
    · exact fun _ => .supervising rfl
    · exact fun _ _ _ => .supervising rfl

theorem superviseExpired_attentive {s : System} {v : Supervised} (h : Attentive s)
    (hcontrol : s.control = .expired v) (pause : Duration) :
    Attentive (superviseExpired s v pause) := by
  have hshutting : Heeded s.control → v.shuttingDown = true := by
    rw [hcontrol]
    intro hh
    cases hh with
    | expired hs => exact hs
  rw [superviseExpired]
  split
  · split
    · refine h.keep rfl ?_ fun hh => .supervising (hshutting hh)
      intro signal hmem
      simpa [record] using hmem
    · exact h.keep rfl (fun _ hmem => hmem) fun hh => .supervising (hshutting hh)
  · exact h.keep rfl (fun _ hmem => hmem) fun hh => .supervising (hshutting hh)

theorem wake_attentive {s : System} {deadline : Instant} (h : Attentive s)
    (hcontrol : s.control = .waking deadline) : Attentive (wake s deadline) := by
  apply h.read
  · intro signal hmem
    simpa [wake, drained, record] using hmem
  · rw [hcontrol]
    intro hh
    cases hh
  · intro signal hmem hne
    have hany : (readPending s).any (fun signal => signal ≠ .chld) = true :=
      any_eq_true fun hall => hne (hall signal hmem)
    rw [wake]
    simp only [hany, if_true]
    exact .stopped

theorem proceed_attentive {s s' : System} {a : Answer} (hw : Watched s) (h : Attentive s)
    (hp : proceed s a = some s') : Attentive s' := by
  obtain ⟨w, -, hst⟩ := hw
  have hidle : ∀ control next, s.control = control → ¬ Heeded control → Heeded s.control →
      Heeded next := by
    intro control next hc hno hh
    exact absurd (hc ▸ hh) hno
  rw [proceed] at hp
  generalize hcontrol : s.control = control at hp hst
  cases hst with
  | forking hc _ _ =>
    simp only [hc, List.any_nil, Bool.false_eq_true, if_false, Option.some.injEq] at hp
    subst hp
    refine h.keep rfl ?_ (hidle _ _ hcontrol (by intro hh; cases hh))
    intro signal hmem
    simpa [forkWorker, record] using hmem
  | supervising hg =>
    cases hp
    exact superviseTop_attentive h hcontrol hg
  | polling _ =>
    cases hp
    refine h.keep rfl (fun _ hmem => hmem) ?_
    rw [hcontrol]
    intro hh
    cases hh with
    | polling hs =>
      cases a.poll with
      | ready => exact .readable hs
      | notReady => exact .expired hs
      | interrupted => exact .supervising hs
  | readable _ =>
    cases hp
    exact superviseReadable_attentive h hcontrol a.pause
  | expired _ =>
    cases hp
    exact superviseExpired_attentive h hcontrol a.pause
  | exited _ _ _ =>
    cases hp
    rw [restartOrStop]
    split
    · exact h.keep rfl (fun _ hmem => hmem) fun _ => .stopped
    · exact h.keep rfl (fun _ hmem => hmem) (hidle _ _ hcontrol (by intro hh; cases hh))
  | backingOff _ _ _ =>
    cases hp
    rw [backOff]
    split
    · exact h.keep rfl (fun _ hmem => hmem) (hidle _ _ hcontrol (by intro hh; cases hh))
    · exact h.keep rfl (fun _ hmem => hmem) (hidle _ _ hcontrol (by intro hh; cases hh))
  | sleeping _ _ _ =>
    cases hp
    exact h.keep rfl (fun _ hmem => hmem) (hidle _ _ hcontrol (by intro hh; cases hh))
  | waking _ _ _ =>
    cases hp
    exact wake_attentive h hcontrol
  | stopped _ _ => cases hp

theorem act_attentive {s s' : System} {choice : Choice} (hw : Watched s) (h : Attentive s)
    (ha : act s choice = some s') : Attentive s' := by
  cases choice with
  | deliver signal =>
    cases ha
    intro other hne hmem
    obtain hold | hnew := List.mem_append.mp hmem
    · apply (h other hne hold).imp_left
      intro hpend
      simp only [record, raise, hpend, Bool.or_true]
    · cases List.mem_singleton.mp hnew
      exact Or.inl (by simp [record, raise])
  | exit pid status =>
    simp only [act] at ha
    split at ha
    · cases ha
      intro other hne hmem
      apply (h other hne hmem).imp_left
      intro hpend
      simp only [raise, hpend, Bool.or_true]
    · cases ha
  | advance d =>
    cases ha
    exact h.keep rfl (fun _ hmem => hmem) fun hh => hh
  | proceed a => exact proceed_attentive hw h ha

structure Alert (s : System) : Prop where
  watched : Watched s
  awake : Awake s
  attentive : Attentive s

theorem reachable_alert {s : System} (h : Reachable s) : Alert s := by
  obtain ⟨clock, choices, hr⟩ := h
  apply replay_invariant (P := Alert) ?_ ?_ hr
  · intro s choice s' hs ha
    exact ⟨act_watched hs.watched ha, act_awake hs.awake ha, act_attentive hs.watched hs.attentive ha⟩
  · refine ⟨⟨idle, .nil, .forking rfl rfl rfl⟩, ?_, ?_⟩
    · intro v timeout hc
      cases hc
    · intro signal _ hmem
      cases hmem

/-- No wakeup and no shutdown request is lost: a supervisor that blocks without
a timeout has a running worker or a pending SIGCHLD, and every SIGTERM or
SIGINT delivered so far is pending, has made the supervisor stop its worker, or
has made it leave its loop. -/
theorem no_lost_wakeup {s : System} (h : Reachable s) :
    (∀ v, s.control = .polling v none → Running s v.childPid ∨ s.pending .chld = true) ∧
    ∀ signal, signal ≠ .chld → .delivered signal ∈ s.log →
      s.pending signal = true ∨ Heeded s.control := by
  have halert := reachable_alert h
  exact ⟨fun v hc => halert.awake v none hc, halert.attentive⟩

/-- A worker dies between the reap and the poll, and a shutdown request arrives
while the supervisor waits. -/
def exitBeforePoll : List Choice :=
  [.proceed ⟨100, .ready, 0⟩, .proceed ⟨100, .ready, 0⟩, .exit 100 9, .deliver .term]

theorem no_lost_wakeup_sample :
    ∃ s, replay act (start 0) exitBeforePoll = some s ∧
      (Running s 100 ∨ s.pending .chld = true) ∧
      (s.pending .term = true ∨ Heeded s.control) := by
  have heval : (replay act (start 0) exitBeforePoll).any (fun s =>
      s.control = .polling ⟨100, false, none⟩ none ∧ s.log.contains (.delivered .term) = true) =
        true := by
    decide +kernel
  obtain ⟨s, hs, hp⟩ := (Option.any_eq_true _ _).mp heval
  obtain ⟨hcontrol, hlog⟩ := of_decide_eq_true hp
  obtain ⟨hpoll, hsignal⟩ := no_lost_wakeup ⟨0, exitBeforePoll, hs⟩
  exact ⟨s, hs, hpoll _ hcontrol, hsignal .term (by decide) (List.contains_iff_mem.mp hlog)⟩

end NatStream.Supervisor.Wakeups
