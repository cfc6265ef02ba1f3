import NatStream.Daemon.Stdio

namespace NatStream.Daemon.Startup

open NatStream.Lib.Descriptors NatStream.Lib.Effects NatStream.Daemon.System
open NatStream.Worker.EventLoop (Args Config StartError validate)

def sigint : Nat := 2
def sigterm : Nat := 15
def sigchld : Nat := 17
def cIntMax : Nat := 2 ^ 31 - 1
def nfnlgrpConntrackNew : Nat := 1
def nfnlgrpConntrackDestroy : Nat := 3

def conntrackAcctSysctl : String := "/proc/sys/net/netfilter/nf_conntrack_acct"
def conntrackEventsSysctl : String := "/proc/sys/net/netfilter/nf_conntrack_events"

structure CommandLine where
  worker : Args
  collector : SocketAddr
  recvBuf : Nat
  sendBuf : Nat
  logFile : Option String
  noSysctl : Bool

/-- The characters with the Unicode property White_Space. -/
def isWhite (c : Char) : Bool :=
  let n := c.toNat
  (0x9 ≤ n && n ≤ 0xd) || n = 0x20 || n = 0x85 || n = 0xa0 || n = 0x1680 ||
    (0x2000 ≤ n && n ≤ 0x200a) || n = 0x2028 || n = 0x2029 || n = 0x202f || n = 0x205f || n = 0x3000

def trim (text : String) : String :=
  String.ofList ((text.toList.dropWhile isWhite).reverse.dropWhile isWhite).reverse

def setProcSysctl (path value : String) : Os Unit := do
  let current ← readToString ["failed to read sysctl " ++ path] path
  if trim current ≠ value then
    writeFile ["failed to write sysctl " ++ path ++ "=" ++ value] path (value ++ "\n")
  else pure ()

/-- Without accounting the flows are still exported, so that failing is only
logged. -/
def applyConntrackSysctlSettings (noSysctl : Bool) : Os Unit :=
  if noSysctl then pure ()
  else do
    context ("failed to enable conntrack event delivery; load the nf_conntrack module, " ++
      "run with CAP_NET_ADMIN, or pass --no-sysctl if the sysctls are already set")
      (setProcSysctl conntrackEventsSysctl "1")
    let _ ← observe (setProcSysctl conntrackAcctSysctl "1")
    pure ()

/-- Block the signals and open a descriptor for them. -/
def newSignalFd (signals : List Nat) : Os Nat := do
  sigmask [] fun mask => mask ++ signals
  openNew [] (.signals signals)

def unblockAll : Os Unit := sigmask [] fun _ => []

def bufferSize (size : Nat) : Nat := min size cIntMax

/-- Set a buffer size past the system's limit, or else within it, or else not. -/
def setBuffer (fd : Nat) (g : File → File) : Os Unit := do
  let forced ← observe (change [] fd g)
  match forced with
  | .ok _ => pure ()
  | .error _ => do
    let _ ← observe (change [] fd g)
    pure ()

def withSendBuf (size : Nat) : File → File
  | .udp bound peer _ => .udp bound peer (some size)
  | f => f

def setSendBuf (fd size : Nat) : Os Unit := setBuffer fd (withSendBuf (bufferSize size))

def asBound : File → File
  | .udp _ peer sendBuf => .udp true peer sendBuf
  | .netlink _ groups recvBuf noEnobufs => .netlink true groups recvBuf noEnobufs
  | f => f

def withPeer (addr : SocketAddr) : File → File
  | .udp bound _ sendBuf => .udp bound (some addr) sendBuf
  | f => f

/-- An IPv4 socket, closed again if it cannot be bound. -/
def bindUdp : Os Nat := do
  let fd ← openNew [] (.udp false none none)
  onError (closed fd) do
    change [] fd asBound
    pure fd

/-- Which addresses an IPv4 socket cannot be connected to, and with what error,
is up to the kernel and given by `refuses`. -/
def connect (refuses : SocketAddr → Option Nat) (fd : Nat) (addr : SocketAddr) : Os Unit :=
  match refuses addr with
  | none => change [] fd (withPeer addr)
  | some e => syscall [] fun _ => .error e

def withRecvBuf (size : Nat) : File → File
  | .netlink bound groups _ noEnobufs => .netlink bound groups (some size) noEnobufs
  | f => f

def joined (group : Nat) : File → File
  | .netlink bound groups recvBuf noEnobufs => .netlink bound (groups ++ [group]) recvBuf noEnobufs
  | f => f

def withNoEnobufs : File → File
  | .netlink bound groups recvBuf _ => .netlink bound groups recvBuf true
  | f => f

def addMembership (fd group : Nat) : Os Unit :=
  change ["NETLINK_ADD_MEMBERSHIP group " ++ toString group] fd (joined group)

/-- Open the conntrack event socket. It is dropped, and so closed, when a step
after its creation fails. -/
def openNetlink (recvBufSize : Nat) : Os Nat := do
  let fd ← openNew ["Failed to create netlink socket"] (.netlink false [] none false)
  onError (closed fd) do
    setBuffer fd (withRecvBuf (bufferSize recvBufSize))
    change ["Failed to bind netlink socket"] fd asBound
    context "Failed to join NFNLGRP_CONNTRACK_NEW" (addMembership fd nfnlgrpConntrackNew)
    context "Failed to join NFNLGRP_CONNTRACK_DESTROY" (addMembership fd nfnlgrpConntrackDestroy)
    let _ ← observe (change [] fd withNoEnobufs)
    pure fd

structure Started where
  config : Config
  signals : Nat
  udp : Nat
  netlink : Nat

def startContexts : StartError → List String
  | .exportConfiguration _ => ["Invalid export configuration"]
  | .templateInterval | .counterWidth _ => []

def checkConfig (args : Args) : Os Config :=
  ofExcept ((validate args).mapError fun e => ⟨startContexts e, .start e⟩)

/-- The worker up to its loop. What it has opened is closed again when a later
step fails. -/
def startUp (refuses : SocketAddr → Option Nat) (cmd : CommandLine) : Os Started := do
  let config ← checkConfig cmd.worker
  applyConntrackSysctlSettings cmd.noSysctl
  let signals ← context "Failed to set up signal handling" (newSignalFd [sigterm, sigint])
  onError (closed signals) do
    let udp ← context "Failed to bind UDP socket" bindUdp
    onError (closed udp) do
      context "Failed to connect UDP socket to collector" (connect refuses udp cmd.collector)
      setSendBuf udp cmd.sendBuf
      let netlink ← context "Failed to open netlink socket" (openNetlink cmd.recvBuf)
      pure ⟨config, signals, udp, netlink⟩

/-- The end of the worker: its values are dropped in the order opposite to that
of their creation. -/
def windDown (started : Started) : Os Unit := do
  close started.netlink
  close started.udp
  close started.signals

variable {calm : Prop} {α : Type} {refuses : SocketAddr → Option Nat}

/-- One descriptor stands for something with this property, and all else looks
as in `s`. -/
def At (calm : Prop) (s : Sight) (fd : Nat) (P : File → Prop) (p : Process) : Prop :=
  ∃ f, P f ∧ Is calm (s.put fd (some f)) p

/-- A step failed, and all looks as in `s` but for one descriptor. -/
def FailedBut (calm : Prop) (s : Sight) (fd : Nat) (p : Process) : Prop :=
  ∃ v, Failed calm (s.put fd v) p

theorem put_put (s : Sight) (fd : Nat) (v v' : Option File) : (s.put fd v).put fd v' = s.put fd v' := by
  simp only [Sight.put, Function.update_idem]

theorem change_at (contexts : List String) (fd : Nat) {g : File → File} {s : Sight}
    {P Q : File → Prop} (h : ∀ f, P f → Q (g f)) :
    Meets (change contexts fd g) (At calm s fd P) (fun _ => At calm s fd Q)
      (fun p => ¬ calm ∧ At calm s fd P p) := by
  apply meets_exists
  intro f
  apply meets_and
  intro hf
  apply (change_meets contexts g ((s.put_self fd (some f)))).weaken (fun _ hp => hp)
  · intro _ p hp
    rw [put_put] at hp
    exact ⟨g f, h f hf, hp⟩
  · intro p hp
    exact ⟨hp.disturbed, f, hf, hp.toIs⟩

theorem At.imp {s : Sight} {fd : Nat} {P Q : File → Prop} {p : Process} (h : At calm s fd P p)
    (himp : ∀ f, P f → Q f) : At calm s fd Q p := by
  obtain ⟨f, hf, hp⟩ := h
  exact ⟨f, himp f hf, hp⟩

theorem change_scoped (contexts : List String) (fd : Nat) {g : File → File} {s : Sight}
    {P Q : File → Prop} (h : ∀ f, P f → Q (g f)) :
    Meets (change contexts fd g) (At calm s fd P) (fun _ => At calm s fd Q) (FailedBut calm s fd) := by
  apply (change_at contexts fd h).weaken_err
  rintro p ⟨hdisturbed, f, -, hp⟩
  exact ⟨some f, hp, hdisturbed⟩

/-- A step whose failing does not matter. -/
theorem optional_at (contexts : List String) (fd : Nat) {g : File → File} {s : Sight}
    {P : File → Prop} (h : ∀ f, P f → P (g f)) {err : Process → Prop} :
    Meets (observe (change contexts fd g)) (At calm s fd P) (fun _ => At calm s fd P) err := by
  apply (change_at contexts fd h).observe.weaken_ok _
  intro result p hp
  cases result with
  | ok u => exact hp
  | error e => exact hp.2

theorem setBuffer_at (fd : Nat) {g : File → File} {s : Sight} {P : File → Prop}
    (h : ∀ f, P f → P (g f)) {err : Process → Prop} :
    Meets (setBuffer fd g) (At calm s fd P) (fun _ => At calm s fd P) err := by
  apply (optional_at [] fd h).bind
  intro forced
  cases forced with
  | ok u => exact meets_pure fun _ hp => hp
  | error e =>
    apply (optional_at [] fd h).bind
    intro _
    exact meets_pure fun _ hp => hp

theorem put_none_of_free {s : Sight} {fd : Nat} (h : s.files fd = none) : s.put fd none = s := by
  rw [Sight.put, ← h, Function.update_eq_self]

/-- The descriptor is closed when the step fails, so that all is as before. -/
theorem scoped_meets {x : Os α} {s : Sight} {fd : Nat} {pre : Process → Prop}
    {ok : α → Process → Prop} (hfree : s.files fd = none)
    (h : Meets x pre ok (FailedBut calm s fd)) :
    Meets (onError (closed fd) x) pre ok (Failed calm s) := by
  apply h.onError
  rintro p ⟨v, hp⟩
  have hclosed := hp.toIs.assign fd none
  rw [put_put, put_none_of_free hfree] at hclosed
  exact ⟨hclosed, hp.disturbed⟩

/-- The setting is in force, and it was written only if it was not already. -/
structure Tuned (path value : String) (s t : Sight) : Prop where
  files : t.files = s.files
  mask : t.mask = s.mask
  set : trim (t.sysctls path) = value
  others : ∀ path', path' ≠ path → t.sysctls path' = s.sysctls path'
  kept : trim (s.sysctls path) = value → t = s

theorem setProcSysctl_meets (path : String) {value : String} (hvalue : trim (value ++ "\n") = value)
    (s : Sight) :
    Meets (setProcSysctl path value) (Is calm s)
      (fun _ p => ∃ t, Tuned path value s t ∧ Is calm t p) (Failed calm s) := by
  apply (readToString_meets _ path s).bind
  intro current
  apply meets_and
  rintro rfl
  split
  · next hne =>
    apply (writeFile_meets _ path (value ++ "\n") s).weaken_ok _
    intro _ p hp
    refine ⟨{ s with sysctls := Function.update s.sysctls path (value ++ "\n") },
      ⟨rfl, rfl, ?_, ?_, fun heq => absurd heq hne⟩, hp⟩
    · simp [hvalue]
    · intro path' hpath'
      simp [hpath']
  · next heq =>
    apply meets_pure
    intro p hp
    exact ⟨s, ⟨rfl, rfl, not_not.mp heq, fun _ _ => rfl, fun _ => rfl⟩, hp⟩

/-- Events are delivered and, unless a call failed, accounted for, if the
settings are to be touched. No other setting is, and what is set already is not
written. -/
structure Delivering (calm : Prop) (noSysctl : Bool) (s t : Sight) : Prop where
  files : t.files = s.files
  mask : t.mask = s.mask
  untouched : noSysctl = true → t.sysctls = s.sysctls
  delivered : noSysctl = false → trim (t.sysctls conntrackEventsSysctl) = "1"
  accounted : noSysctl = false → trim (t.sysctls conntrackAcctSysctl) = "1" ∨
    ¬ calm ∧ t.sysctls conntrackAcctSysctl = s.sysctls conntrackAcctSysctl
  others : ∀ path, path ≠ conntrackEventsSysctl → path ≠ conntrackAcctSysctl →
    t.sysctls path = s.sysctls path
  kept : trim (s.sysctls conntrackEventsSysctl) = "1" → trim (s.sysctls conntrackAcctSysctl) = "1" →
    t.sysctls = s.sysctls

theorem applyConntrackSysctlSettings_meets (noSysctl : Bool) (s : Sight) :
    Meets (applyConntrackSysctlSettings noSysctl) (Is calm s)
      (fun _ p => ∃ t, Delivering calm noSysctl s t ∧ Is calm t p) (Failed calm s) := by
  cases noSysctl with
  | true =>
    apply meets_pure
    intro p hp
    refine ⟨s, ⟨rfl, rfl, fun _ => rfl, ?_, ?_, fun _ _ _ => rfl, fun _ _ => rfl⟩, hp⟩
    · intro h
      cases h
    · intro h
      cases h
  | false =>
    have hone : trim ("1" ++ "\n") = "1" := by decide
    have hne : conntrackAcctSysctl ≠ conntrackEventsSysctl := by decide
    apply (setProcSysctl_meets conntrackEventsSysctl hone s).mapError.bind
    intro _
    apply meets_exists
    intro t
    apply meets_and
    intro ht
    apply (setProcSysctl_meets conntrackAcctSysctl hone t).observe.bind
    intro result
    cases result with
    | ok u =>
      apply meets_pure
      rintro p ⟨t', ht', hp⟩
      refine ⟨t', ⟨ht'.files.trans ht.files, ht'.mask.trans ht.mask, ?_, ?_, ?_, ?_, ?_⟩, hp⟩
      · intro h
        cases h
      · intro _
        rw [ht'.others _ hne.symm]
        exact ht.set
      · intro _
        exact Or.inl ht'.set
      · intro path hevents hacct
        exact (ht'.others path hacct).trans (ht.others path hevents)
      · intro hevents hacct
        have hsame : t = s := ht.kept hevents
        rw [← hsame] at hacct
        rw [ht'.kept hacct, hsame]
    | error e =>
      apply meets_pure
      intro p hp
      refine ⟨t, ⟨ht.files, ht.mask, ?_, fun _ => ht.set, ?_, ?_, ?_⟩, Failed.toIs hp⟩
      · intro h
        cases h
      · intro _
        exact Or.inr ⟨Failed.disturbed hp, ht.others _ hne⟩
      · exact fun path hevents _ => ht.others path hevents
      · exact fun hevents _ => congrArg Sight.sysctls (ht.kept hevents)

theorem newSignalFd_meets (signals : List Nat) (s : Sight) :
    Meets (newSignalFd signals) (Is calm s)
      (fun fd p => Fresh s.files fd ∧ Is calm ((s.block signals).put fd (some (.signals signals))) p)
      (fun p => Failed calm s p ∨ Failed calm (s.block signals) p) := by
  apply ((sigmask_meets [] _ s).weaken_err fun _ => Or.inl).bind
  intro _
  exact (openNew_meets [] _ (s.block signals)).weaken_err fun _ => Or.inr

theorem bindUdp_meets (s : Sight) :
    Meets bindUdp (Is calm s)
      (fun fd p => s.files fd = none ∧ At calm s fd (· = .udp true none none) p)
      (Failed calm s) := by
  apply (openNew_meets [] _ s).bind
  intro fd
  apply meets_and
  intro hfresh
  apply scoped_meets hfresh.free
  apply ((change_scoped [] fd (P := (· = .udp false none none))
    (Q := (· = .udp true none none)) _).weaken_pre _).bind
  · intro _
    exact meets_pure fun _ hp => ⟨hfresh.free, hp⟩
  · rintro f rfl
    rfl
  · intro p hp
    exact ⟨_, rfl, hp⟩

theorem connect_meets {addr : SocketAddr} (haccept : calm → refuses addr = none) (fd : Nat)
    (s : Sight) :
    Meets (connect refuses fd addr) (At calm s fd (· = .udp true none none))
      (fun _ p => refuses addr = none ∧ At calm s fd (· = .udp true (some addr) none) p)
      (FailedBut calm s fd) := by
  cases hr : refuses addr with
  | none =>
    rw [connect, hr]
    apply (change_scoped [] fd (Q := (· = .udp true (some addr) none)) _).weaken_ok
      fun _ _ hp => ⟨rfl, hp⟩
    rintro f rfl
    rfl
  | some e =>
    have hrefused : ¬ calm := fun hc => Option.some_ne_none e (hr.symm.trans (haccept hc))
    rintro p ⟨f, -, hp⟩
    have hrest : FailedBut calm s fd { p with answers := p.answers.tail } :=
      ⟨some f, ⟨hp.sight_eq, fun hc => absurd hc hrefused⟩, hrefused⟩
    simp only [connect, hr, syscall]
    cases p.answers.head?.join with
    | some e => exact hrest
    | none => exact hrest

/-- The socket is bound and has joined both groups. The rest is as it may be. -/
def Subscribed (f : File) : Prop :=
  ∃ recvBuf noEnobufs,
    f = .netlink true [nfnlgrpConntrackNew, nfnlgrpConntrackDestroy] recvBuf noEnobufs

theorem openNetlink_meets (recvBufSize : Nat) (s : Sight) :
    Meets (openNetlink recvBufSize) (Is calm s)
      (fun fd p => s.files fd = none ∧ At calm s fd Subscribed p) (Failed calm s) := by
  apply (openNew_meets _ _ s).bind
  intro fd
  apply meets_and
  intro hfresh
  apply scoped_meets hfresh.free
  apply ((setBuffer_at fd (P := fun f => ∃ r, f = .netlink false [] r false) _).weaken_pre _).bind
  · intro _
    apply (change_scoped _ fd (Q := fun f => ∃ r, f = .netlink true [] r false) _).bind
    · intro _
      apply (change_scoped _ fd
        (Q := fun f => ∃ r, f = .netlink true [nfnlgrpConntrackNew] r false) _).mapError.bind
      · intro _
        apply (change_scoped _ fd (Q := Subscribed) _).mapError.bind
        · intro _
          apply (optional_at [] fd _).bind
          · intro _
            exact meets_pure fun _ hp => ⟨hfresh.free, hp⟩
          · rintro f ⟨r, e, rfl⟩
            exact ⟨r, true, rfl⟩
        · rintro f ⟨r, rfl⟩
          exact ⟨r, false, rfl⟩
      · rintro f ⟨r, rfl⟩
        exact ⟨r, rfl⟩
    · rintro f ⟨r, rfl⟩
      exact ⟨r, rfl⟩
  · rintro f ⟨r, rfl⟩
    exact ⟨some (bufferSize recvBufSize), rfl⟩
  · intro p hp
    exact ⟨_, ⟨none, rfl⟩, hp⟩

/-- A worker that has started: three descriptors of its own, at numbers that
were free, with all that it needs done to them, and everything else as it was. -/
structure Running (calm : Prop) (refuses : SocketAddr → Option Nat) (cmd : CommandLine) (s : Sight)
    (started : Started) (t : Sight) : Prop where
  config : validate cmd.worker = .ok started.config
  accepted : refuses cmd.collector = none
  free : s.files started.signals = none ∧ s.files started.udp = none ∧
    s.files started.netlink = none
  distinct : started.signals ≠ started.udp ∧ started.signals ≠ started.netlink ∧
    started.udp ≠ started.netlink
  signals : t.files started.signals = some (.signals [sigterm, sigint])
  udp : ∃ sendBuf, t.files started.udp = some (.udp true (some cmd.collector) sendBuf)
  netlink : ∃ f, t.files started.netlink = some f ∧ Subscribed f
  others : ∀ n, n ≠ started.signals → n ≠ started.udp → n ≠ started.netlink →
    t.files n = s.files n
  mask : t.mask = s.mask ++ [sigterm, sigint]
  sysctls : Delivering calm cmd.noSysctl s { t with files := s.files, mask := s.mask }

/-- The command line is one that a worker can start with. -/
def Startable (refuses : SocketAddr → Option Nat) (cmd : CommandLine) : Prop :=
  (∃ config, validate cmd.worker = .ok config) ∧ refuses cmd.collector = none

/-- What a start that failed on the way can have left: the descriptors as they
were, and of the settings and the mask what it had got to. -/
structure Abandoned (calm : Prop) (cmd : CommandLine) (s : Sight) (p : Process) : Prop where
  disturbed : ¬ calm
  files : (sight p).files = s.files
  progress : (sight p).sysctls = s.sysctls ∧ (sight p).mask = s.mask ∨
    Delivering calm cmd.noSysctl s { sight p with mask := s.mask } ∧
      ((sight p).mask = s.mask ∨ (sight p).mask = s.mask ++ [sigterm, sigint])

theorem Failed.abandoned {cmd : CommandLine} {s : Sight} {p : Process} (h : Failed calm s p) :
    Abandoned calm cmd s p := by
  have hsight := h.sight_eq
  subst hsight
  exact ⟨h.disturbed, rfl, Or.inl ⟨rfl, rfl⟩⟩

/-- A failure after the settings have been dealt with. -/
theorem Delivering.abandoned {cmd : CommandLine} {s t : Sight} {p : Process}
    (ht : Delivering calm cmd.noSysctl s t) (mask : List Nat)
    (hmask : mask = s.mask ∨ mask = s.mask ++ [sigterm, sigint])
    (h : Failed calm { t with mask } p) : Abandoned calm cmd s p := by
  refine ⟨h.disturbed, ?_, ?_⟩
  · rw [h.sight_eq]
    exact ht.files
  · rw [h.sight_eq]
    exact Or.inr ⟨⟨ht.files, rfl, ht.untouched, ht.delivered, ht.accounted, ht.others, ht.kept⟩,
      hmask⟩

theorem checkConfig_meets {args : Args} (hvalid : calm → ∃ config, validate args = .ok config)
    (s : Sight) :
    Meets (checkConfig args) (Is calm s)
      (fun config p => validate args = .ok config ∧ Is calm s p) (Failed calm s) := by
  apply meets_ofExcept
  intro p hp
  cases hv : validate args with
  | ok config => exact ⟨rfl, hp⟩
  | error e =>
    refine ⟨hp, fun hc => ?_⟩
    obtain ⟨config, hconfig⟩ := hvalid hc
    rw [hv] at hconfig
    cases hconfig

/-- The process as it looks once the three descriptors are there. -/
def opened (t : Sight) (signals udp netlink : Nat) (collector : SocketAddr) (sendBuf : Option Nat)
    (f : File) : Sight :=
  (((t.block [sigterm, sigint]).put signals (some (.signals [sigterm, sigint]))).put udp
    (some (.udp true (some collector) sendBuf))).put netlink (some f)

theorem opened_running {cmd : CommandLine} {s t : Sight} {config : Config}
    {signals udp netlink : Nat} {sendBuf : Option Nat} {f : File}
    (hconfig : validate cmd.worker = .ok config) (haccept : refuses cmd.collector = none)
    (ht : Delivering calm cmd.noSysctl s t) (hsignals : t.files signals = none)
    (hudp : (t.put signals (some (.signals [sigterm, sigint]))).files udp = none)
    (hnetlink : ((t.put signals (some (.signals [sigterm, sigint]))).put udp
      (some (.udp true (some cmd.collector) sendBuf))).files netlink = none)
    (hf : Subscribed f) :
    Running calm refuses cmd s ⟨config, signals, udp, netlink⟩
      (opened t signals udp netlink cmd.collector sendBuf f) := by
  obtain ⟨hu, hudp⟩ := free_of_put hudp
  obtain ⟨hnu, hnetlink⟩ := free_of_put hnetlink
  obtain ⟨hns, hnetlink⟩ := free_of_put hnetlink
  rw [ht.files] at hsignals hudp hnetlink
  refine ⟨hconfig, haccept, ⟨hsignals, hudp, hnetlink⟩, ⟨hu.symm, hns.symm, hnu.symm⟩, ?_,
    ⟨sendBuf, ?_⟩, ⟨f, Sight.put_self _ _ _, hf⟩, ?_, ?_, rfl, rfl, ht.untouched, ht.delivered,
    ht.accounted, ht.others, ht.kept⟩
  · rw [opened, Sight.put_of_ne _ hns.symm, Sight.put_of_ne _ hu.symm, Sight.put_self]
  · rw [opened, Sight.put_of_ne _ hnu.symm, Sight.put_self]
  · intro n hn hn' hn''
    rw [opened, Sight.put_of_ne _ hn'', Sight.put_of_ne _ hn', Sight.put_of_ne _ hn]
    exact congrFun ht.files n
  · change t.mask ++ [sigterm, sigint] = s.mask ++ [sigterm, sigint]
    rw [ht.mask]

theorem startUp_meets {cmd : CommandLine} (hcalm : calm → Startable refuses cmd) (s : Sight) :
    Meets (startUp refuses cmd) (Is calm s)
      (fun started p => ∃ t, Running calm refuses cmd s started t ∧ Is calm t p)
      (Abandoned calm cmd s) := by
  apply ((checkConfig_meets (fun hc => (hcalm hc).1) s).weaken_err fun _ => Failed.abandoned).bind
  intro config
  apply meets_and
  intro hconfig
  apply ((applyConntrackSysctlSettings_meets cmd.noSysctl s).weaken_err
    fun _ => Failed.abandoned).bind
  intro _
  apply meets_exists
  intro t
  apply meets_and
  intro ht
  apply ((newSignalFd_meets [sigterm, sigint] t).mapError.weaken_err _).bind
  · intro signals
    apply meets_and
    intro hsignals
    apply (scoped_meets (s := t.block [sigterm, sigint]) hsignals.free _).weaken_err
      fun _ => ht.abandoned _ (Or.inr (congrArg (· ++ [sigterm, sigint]) ht.mask))
    let t₁ : Sight := (t.block [sigterm, sigint]).put signals (some (.signals [sigterm, sigint]))
    apply ((bindUdp_meets t₁).mapError.weaken_err fun _ hp => ⟨_, hp⟩).bind
    intro udp
    apply meets_and
    intro hudp
    apply (scoped_meets (s := t₁) hudp _).weaken_err fun _ hp => ⟨_, hp⟩
    apply (connect_meets (fun hc => (hcalm hc).2) udp t₁).mapError.bind
    intro _
    apply meets_and
    intro haccept
    apply ((setBuffer_at udp (s := t₁)
      (P := fun f => ∃ b, f = .udp true (some cmd.collector) b) _).weaken_pre _).bind
    · intro _
      apply meets_exists
      intro f
      apply meets_and
      rintro ⟨sendBuf, rfl⟩
      apply ((openNetlink_meets cmd.recvBuf _).mapError.weaken_err fun _ hp => ⟨_, hp⟩).bind
      intro netlink
      apply meets_and
      intro hnetlink
      apply meets_pure
      rintro p ⟨f, hf, hp⟩
      exact ⟨_, opened_running hconfig haccept ht hsignals.free hudp hnetlink hf, hp⟩
    · rintro f ⟨b, rfl⟩
      exact ⟨some (bufferSize cmd.sendBuf), rfl⟩
    · intro p hp
      exact hp.imp fun f hf => ⟨none, hf⟩
  · rintro p (hp | hp)
    · exact ht.abandoned t.mask (Or.inl ht.mask) hp
    · exact ht.abandoned _ (Or.inr (congrArg (· ++ [sigterm, sigint]) ht.mask)) hp

theorem Running.imp {calm' : Prop} {cmd : CommandLine} {s t : Sight} {started : Started}
    (h : Running calm refuses cmd s started t) (hcalm : calm' → calm) :
    Running calm' refuses cmd s started t := by
  have hs := h.sysctls
  refine { h with sysctls := { hs with accounted := fun hn => ?_ } }
  exact (hs.accounted hn).imp_right fun hkept => ⟨fun hc => hkept.1 (hcalm hc), hkept.2⟩

theorem startUp_refused {cmd : CommandLine} {err : StartError} (h : validate cmd.worker = .error err)
    (p : Process) : startUp refuses cmd p = (.error ⟨startContexts err, .start err⟩, p) := by
  have hcheck : checkConfig cmd.worker = fail ⟨startContexts err, .start err⟩ := by
    rw [checkConfig, h]
    rfl
  rw [startUp, hcheck]
  rfl

theorem windDown_meets (started : Started) (t : Sight) {err : Process → Prop} :
    Meets (windDown started) (Is calm t)
      (fun _ => Is calm (((t.put started.netlink none).put started.udp none).put
        started.signals none)) err := by
  apply (close_meets started.netlink t).bind
  intro _
  apply (close_meets started.udp _).bind
  intro _
  exact close_meets started.signals _

theorem Running.wound_down {cmd : CommandLine} {s t : Sight} {started : Started}
    (h : Running calm refuses cmd s started t) :
    (((t.put started.netlink none).put started.udp none).put started.signals none).files =
      s.files := by
  funext n
  by_cases hs : n = started.signals
  · rw [hs, Sight.put_self, h.free.1]
  rw [Sight.put_of_ne _ hs]
  by_cases hu : n = started.udp
  · rw [hu, Sight.put_self, h.free.2.1]
  rw [Sight.put_of_ne _ hu]
  by_cases hn : n = started.netlink
  · rw [hn, Sight.put_self, h.free.2.2]
  rw [Sight.put_of_ne _ hn]
  exact h.others n hs hu hn

/-- How the start of a worker can end. -/
inductive Outcome (refuses : SocketAddr → Option Nat) (cmd : CommandLine) (p : Process) :
    Except Error Started × Process → Prop where
  | refused (err : StartError) (invalid : validate cmd.worker = .error err) :
    Outcome refuses cmd p (.error ⟨startContexts err, .start err⟩, p)
  | failed (e : Error) (q : Process) (valid : ∃ config, validate cmd.worker = .ok config)
    (abandoned : Abandoned (Calm p ∧ refuses cmd.collector = none) cmd (sight p) q) :
    Outcome refuses cmd p (.error e, q)
  | started (started : Started) (q : Process)
    (running : Running (Calm p) refuses cmd (sight p) started (sight q))
    (undone : ∀ n, file (windDown started q).2.files n = file p.files n) :
    Outcome refuses cmd p (.ok started, q)

/-- However the start of a worker ends and whichever calls fail, it leaves no
descriptor behind. A bad setting is reported as such before anything is touched.
Otherwise the worker has its three descriptors, which it gives back at its end,
or the start failed and all descriptors are as before; the signals it blocked
and the settings it wrote by then stay. No start fails unless a call does or
the kernel refuses the collector's address, and none succeeds if it does. -/
theorem start_gives_back_descriptors (refuses : SocketAddr → Option Nat) (cmd : CommandLine)
    (p : Process) : Outcome refuses cmd p (startUp refuses cmd p) := by
  cases hvalid : validate cmd.worker with
  | error err =>
    rw [startUp_refused hvalid]
    exact .refused err hvalid
  | ok config =>
    have hp : Is (Calm p ∧ refuses cmd.collector = none) (sight p) p := ⟨rfl, And.left⟩
    have hends := startUp_meets (fun hc => ⟨⟨config, hvalid⟩, hc.2⟩) (sight p) p hp
    generalize startUp refuses cmd p = r at hends
    obtain ⟨result, q⟩ := r
    cases result with
    | error e => exact .failed e q ⟨config, hvalid⟩ hends
    | ok started =>
      obtain ⟨t, hrunning, ⟨rfl, hcalm⟩⟩ := hends
      refine .started started q (hrunning.imp fun hc => ⟨hc, hrunning.accepted⟩) fun n => ?_
      have hdown : Ends _ (fun _ => False) (windDown started q) :=
        windDown_meets started (sight q) q ⟨rfl, hcalm⟩
      exact (congrFun hdown.files n).trans (congrFun hrunning.wound_down n)

end NatStream.Daemon.Startup
