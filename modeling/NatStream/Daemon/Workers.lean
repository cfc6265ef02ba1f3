import NatStream.Daemon.Startup

namespace NatStream.Daemon.Workers

open NatStream.Lib.Descriptors NatStream.Lib.Effects
open NatStream.Daemon.System NatStream.Daemon.Stdio NatStream.Daemon.Startup

/-- The supervisor up to its loop. The session a process belongs to is not part
of its state here. -/
def startSupervisor (cmd : CommandLine) : Os Nat := do
  syscall ["setsid() failed"] fun p => .ok ((), p)
  redirectStdio cmd.logFile
  context "Failed to set up signal handling" (newSignalFd [sigterm, sigint, sigchld])

/-- The child of a fork has the descriptors and the mask of its parent. Since
the supervisor started, other processes may have changed the settings. -/
def forked (supervisor : Process) (sysctls : String → String) (answers : List (Option Nat)) : Process :=
  { supervisor with sysctls, answers }

/-- The forked child up to the worker's loop. -/
def startChild (refuses : SocketAddr → Option Nat) (cmd : CommandLine) (signals : Nat) :
    Os Started := do
  close signals
  context "Failed to reset signal mask" unblockAll
  startUp refuses cmd

variable {calm : Prop} {cmd : CommandLine} {refuses : SocketAddr → Option Nat}

theorem startSupervisor_meets (hpass : calm → Passable cmd.logFile) (s : Sight) :
    Meets (startSupervisor cmd) (Is calm s)
      (fun signals p => ∃ t, Redirected cmd.logFile t ∧ Beyond s none t ∧ Fresh t.files signals ∧
        Is calm ((t.block [sigterm, sigint, sigchld]).put signals
          (some (.signals [sigterm, sigint, sigchld]))) p)
      (fun _ => ¬ calm) := by
  have hsetsid : Meets (syscall ["setsid() failed"] fun p => .ok ((), p)) (Is calm s)
      (fun _ => Is calm s) (Failed calm s) := by
    apply syscall_meets
    intro p hp
    exact ⟨_, _, rfl, hp⟩
  apply (hsetsid.weaken_err fun _ hp => hp.disturbed).bind
  intro _
  apply ((redirectStdio_meets hpass s).weaken_err fun _ hp => hp.1).bind
  intro _
  apply meets_exists
  intro t
  apply meets_and
  intro hred
  apply meets_and
  intro hbeyond
  apply (newSignalFd_meets _ t).mapError.weaken (fun _ hp => hp)
  · intro signals p hp
    exact ⟨t, hred, hbeyond, hp⟩
  · rintro p (hp | hp)
    · exact hp.disturbed
    · exact hp.disturbed

theorem startChild_meets (hcalm : calm → Startable refuses cmd) (signals : Nat) (s : Sight) :
    Meets (startChild refuses cmd signals) (Is calm s)
      (fun started p => ∃ t,
        Running calm refuses cmd { s.put signals none with mask := [] } started t ∧ Is calm t p)
      (fun _ => ¬ calm) := by
  apply (close_meets signals s).bind
  intro _
  apply ((sigmask_meets [] (fun _ => []) _).mapError.weaken_err fun _ hp => hp.disturbed).bind
  intro _
  exact (startUp_meets hcalm _).weaken_err fun _ hp => hp.disturbed

/-- What a worker finds around it when it enters its loop. The daemon was `p`, and
its supervisor reads signals from the descriptor given. -/
structure Environment (cmd : CommandLine) (p : Process) (supervisor : Nat) (started : Started)
    (w : Process) : Prop where
  stdin : file w.files stdinFileno = some nullFile
  stdout : file w.files stdoutFileno = some (outFile cmd.logFile)
  stderr : file w.files stderrFileno = some (outFile cmd.logFile)
  signals : file w.files started.signals = some (.signals [sigterm, sigint])
  udp : ∃ sendBuf, file w.files started.udp = some (.udp true (some cmd.collector) sendBuf)
  netlink : ∃ f, file w.files started.netlink = some f ∧ Subscribed f
  distinct : [started.signals, started.udp, started.netlink].Nodup
  inherited : ∀ n > stderrFileno, n ≠ started.signals → n ≠ started.udp → n ≠ started.netlink →
    file w.files n = file p.files n
  unshared : supervisor ≠ started.signals → supervisor ≠ started.udp →
    supervisor ≠ started.netlink → file w.files supervisor = none
  mask : w.mask = [sigterm, sigint]

theorem taken_of_redirected {logFile : Option String} {t : Sight} (h : Redirected logFile t) {n : Nat}
    (hn : n ≤ stderrFileno) : t.files n ≠ none := by
  have hcases : n = stdinFileno ∨ n = stdoutFileno ∨ n = stderrFileno := by
    simp only [stdinFileno, stdoutFileno, stderrFileno] at hn ⊢
    omega
  obtain rfl | rfl | rfl := hcases
  · simp [h.stdin]
  · simp [h.stdout]
  · simp [h.stderr]

theorem environment_of_running {s t u : Sight} {supervisor : Nat} {started : Started} {p w : Process}
    (hred : Redirected cmd.logFile t) (hbeyond : Beyond (sight p) none t)
    (hfree : t.files supervisor = none) (hs : s.files = t.files) (hmask : s.mask = [])
    (h : Running calm refuses cmd s started u) (hw : sight w = u) :
    Environment cmd p supervisor started w := by
  subst hw
  have hstay {n : Nat} (hn : n ≤ stderrFileno) : file w.files n = t.files n := by
    have htaken : s.files n ≠ none := by
      rw [hs]
      exact taken_of_redirected hred hn
    rw [← hs]
    apply h.others
    · rintro rfl
      exact htaken h.free.1
    · rintro rfl
      exact htaken h.free.2.1
    · rintro rfl
      exact htaken h.free.2.2
  refine ⟨(hstay (by decide)).trans hred.stdin, (hstay (by decide)).trans hred.stdout,
    (hstay (Nat.le_refl _)).trans hred.stderr, h.signals, h.udp, h.netlink, ?_, ?_, ?_, ?_⟩
  · obtain ⟨hsu, hsn, hun⟩ := h.distinct
    simp [hsu, hsn, hun]
  · intro n hn hne hne' hne''
    exact (h.others n hne hne' hne'').trans
      ((congrFun hs n).trans (hbeyond.files n hn (by simp)))
  · intro hne hne' hne''
    exact (h.others supervisor hne hne' hne'').trans ((congrFun hs supervisor).trans hfree)
  · exact h.mask.trans (by rw [hmask, List.nil_append])

/-- Whatever descriptors the daemon was started with and whichever calls fail on
the way: a worker that enters its loop, the first one or one started again, has
the redirected streams, three descriptors of its own and otherwise what the
daemon was started with. The descriptor its supervisor reads signals from is
not among them, and the only signals it blocks are the two it reads itself. -/
theorem worker_environment {refuses : SocketAddr → Option Nat} {cmd : CommandLine}
    {p q w : Process} {signals : Nat} {sysctls : String → String}
    {answers : List (Option Nat)} {started : Started}
    (hsupervisor : startSupervisor cmd p = (.ok signals, q))
    (hworker : startChild refuses cmd signals (forked q sysctls answers) = (.ok started, w)) :
    Environment cmd p signals started w := by
  have hpass : False → Passable cmd.logFile := False.elim
  have hstartable : False → Startable refuses cmd := False.elim
  have hends := startSupervisor_meets hpass (sight p) p ⟨rfl, False.elim⟩
  rw [hsupervisor] at hends
  obtain ⟨t, hred, hbeyond, hfresh, hq⟩ := hends
  have hfiles : file q.files = (t.put signals (some (.signals [sigterm, sigint, sigchld]))).files :=
    hq.files
  have hends := startChild_meets hstartable signals _ (forked q sysctls answers)
    ⟨rfl, False.elim⟩
  rw [hworker] at hends
  obtain ⟨u, hrunning, hw⟩ := hends
  refine environment_of_running hred hbeyond hfresh.free ?_ rfl hrunning hw.sight_eq
  funext n
  by_cases hn : n = signals
  · rw [hn, hfresh.free]
    exact Sight.put_self _ _ _
  · refine (Sight.put_of_ne _ hn _).trans ?_
    change file q.files n = t.files n
    rw [hfiles]
    exact t.put_of_ne hn _

def sampleCommandLine : CommandLine where
  worker := ⟨42, .ipfix, .natSource, 4, 300, 60⟩
  collector := .v4 0x7f000001 2055
  recvBuf := 1048576
  sendBuf := 1048576
  logFile := some "natstream.log"
  noSysctl := false

/-- A kernel that connects an IPv4 socket to IPv4 addresses only. -/
def refusesV6 : SocketAddr → Option Nat
  | .v4 _ _ => none
  | .v6 _ _ => some 97

/-- The daemon is started without a standard output. -/
theorem worker_environment_sample : ∃ q started w,
    startSupervisor sampleCommandLine sampleProcess = (.ok 4, q) ∧
      startChild refusesV6 sampleCommandLine 4 (forked q (fun _ => "0\n") []) = (.ok started, w) ∧
      Environment sampleCommandLine sampleProcess 4 started w := by
  have hsupervisor : startSupervisor sampleCommandLine sampleProcess =
      (.ok 4, (startSupervisor sampleCommandLine sampleProcess).2) := rfl
  have hok : (startChild refusesV6 sampleCommandLine 4 (forked
      (startSupervisor sampleCommandLine sampleProcess).2 (fun _ => "0\n") [])).1.isOk = true := by
    decide +kernel
  generalize hr : startChild refusesV6 sampleCommandLine 4 _ = r at hok
  obtain ⟨result, w⟩ := r
  cases result with
  | error e => cases hok
  | ok started => exact ⟨_, started, w, hsupervisor, hr, worker_environment hsupervisor hr⟩

end NatStream.Daemon.Workers
