import NatStream.Lib.Replay
import NatStream.Worker.EventLoop

namespace NatStream.Supervisor.Processes

open NatStream.Lib.Time NatStream.Lib.Replay
open NatStream.Worker.EventLoop (msUntil)

def workerStopGrace : Duration := fromSecs 10
def restartBackoffMin : Duration := fromSecs 1
def restartBackoffMax : Duration := fromSecs 60
def healthyRuntime : Duration := fromSecs 60

/-- The signals the supervisor takes through its descriptor. -/
inductive Signal where
  | int
  | term
  | chld
  deriving DecidableEq, Repr

/-- The signals it sends to a worker. -/
inductive Stop where
  | term
  | kill
  deriving DecidableEq, Repr

def wifexited (status : UInt32) : Bool := status &&& 0x7f = 0

def wexitstatus (status : UInt32) : UInt32 := (status >>> 8) &&& 0xff

def wifsignaled (status : UInt32) : Bool := status &&& 0x7f ≠ 0 ∧ status &&& 0x7f ≠ 0x7f

def shouldRestart (status : UInt32) : Bool :=
  if wifexited status then wexitstatus status ≠ 0 else wifsignaled status

/-- A worker that has not been reaped, with its wait status once it has exited. -/
structure Child where
  pid : Nat
  status : Option UInt32
  deriving DecidableEq

/-- The variables of `supervise_child`. -/
structure Supervised where
  childPid : Nat
  shuttingDown : Bool
  killDeadline : Option Instant
  deriving DecidableEq

/-- Where the supervisor stands. A poll without a timeout blocks. -/
inductive Control where
  | forking
  | supervising (v : Supervised)
  | polling (v : Supervised) (timeout : Option Nat)
  | readable (v : Supervised)
  | expired (v : Supervised)
  | exited (status : UInt32)
  | backingOff (deadline : Instant)
  | sleeping (deadline : Instant) (timeout : Nat)
  | waking (deadline : Instant)
  | stopped
  | failed
  deriving DecidableEq

inductive Event where
  | delivered (signal : Signal)
  | forked (pid : Nat)
  | reaped (pid : Nat)
  | read (signals : List Signal)
  | killed (pid : Nat) (stop : Stop) (time : Instant)
  deriving DecidableEq

/-- The supervisor with the processes, the pending signals and the clock it
lives among, and a log of what happened. -/
structure System where
  control : Control
  started : Instant
  backoff : Duration
  children : List Child
  pending : Signal → Bool
  clock : Instant
  log : List Event

def start (clock : Instant) : System where
  control := .forking
  started := clock
  backoff := restartBackoffMin
  children := []
  pending := fun _ => false
  clock
  log := []

def record (s : System) (event : Event) : System := { s with log := s.log ++ [event] }

def raise (s : System) (signal : Signal) : System :=
  { s with pending := fun other => other = signal || s.pending other }

/-- The clock is read before the fork. -/
def forkWorker (s : System) (pid : Nat) (pause : Duration) : System :=
  record { s with
    control := .supervising ⟨pid, false, none⟩
    started := s.clock
    clock := s.clock + (pause : Int)
    children := s.children ++ [⟨pid, none⟩] } (.forked pid)

/-- Wait for a child without blocking; `none` is the error for a process that
is no child of ours. -/
def waitpid (children : List Child) (pid : Nat) : Option (Option UInt32) :=
  (children.find? fun c => c.pid = pid).map Child.status

/-- The top of the loop in `supervise_child`: reap the worker, or go on to wait. -/
def superviseTop (s : System) (v : Supervised) : System :=
  match waitpid s.children v.childPid with
  | none => { s with control := .failed }
  | some (some status) =>
    record { s with
      children := s.children.filter fun c => c.pid ≠ v.childPid
      control := if v.shuttingDown then .stopped else .exited status } (.reaped v.childPid)
  | some none =>
    { s with control := .polling v (v.killDeadline.map fun deadline => msUntil deadline s.clock) }

def readPending (s : System) : List Signal := [.int, .term, .chld].filter s.pending

def drained (s : System) : System :=
  record { s with pending := fun _ => false } (.read (readPending s))

/-- Tell the worker to stop. The deadline counts from a clock reading that
follows the signal. -/
def stopWorker (pause : Duration) (s : System) (v : Supervised) : System × Supervised :=
  (record { s with clock := s.clock + (pause : Int) } (.killed v.childPid .term s.clock),
    { v with
      shuttingDown := true
      killDeadline := some (s.clock + (pause : Int) + (workerStopGrace : Int)) })

def takeSignal (pause : Duration) (sv : System × Supervised) (signal : Signal) :
    System × Supervised :=
  if signal = .chld ∨ sv.2.shuttingDown = true then sv else stopWorker pause sv.1 sv.2

def superviseReadable (s : System) (v : Supervised) (pause : Duration) : System :=
  let (s', v') := (readPending s).foldl (takeSignal pause) (drained s, v)
  { s' with control := .supervising v' }

def superviseExpired (s : System) (v : Supervised) (pause : Duration) : System :=
  match v.killDeadline with
  | some deadline =>
    if deadline ≤ s.clock then
      record { s with
        control := .supervising { v with killDeadline := none }
        clock := s.clock + (pause : Int) } (.killed v.childPid .kill (s.clock + (pause : Int)))
    else { s with control := .supervising v }
  | none => { s with control := .supervising v }

def restartOrStop (s : System) (status : UInt32) (pause : Duration) : System :=
  if !shouldRestart status then { s with control := .stopped }
  else
    let backoff := if durationSince s.clock s.started ≥ healthyRuntime then restartBackoffMin
      else s.backoff
    { s with
      backoff
      clock := s.clock + (pause : Int)
      control := .backingOff (s.clock + (pause : Int) + (backoff : Int)) }

/-- The top of the loop in `wait_before_restart`. -/
def backOff (s : System) (deadline : Instant) : System :=
  if deadline ≤ s.clock then
    { s with backoff := min (s.backoff * 2) restartBackoffMax, control := .forking }
  else { s with control := .sleeping deadline (msUntil deadline s.clock) }

def wake (s : System) (deadline : Instant) : System :=
  { drained s with
    control := if (readPending s).any (fun signal => signal ≠ .chld) then .stopped
      else .backingOff deadline }

inductive Poll where
  | ready
  | notReady
  | interrupted
  deriving DecidableEq, Repr

/-- What the system answers: the process id of a fork, the result of a poll,
and the time that passes between a clock reading and what follows it. -/
structure Answer where
  pid : Nat
  poll : Poll
  pause : Duration

/-- The supervisor runs to its next point of interaction. A fork never reuses
the process id of a child that has not been reaped. -/
def proceed (s : System) (a : Answer) : Option System :=
  match s.control with
  | .forking =>
    if s.children.any (fun c => c.pid = a.pid) then none else some (forkWorker s a.pid a.pause)
  | .supervising v => some (superviseTop s v)
  | .polling v _ => some { s with control := match a.poll with
      | .ready => .readable v
      | .notReady => .expired v
      | .interrupted => .supervising v }
  | .readable v => some (superviseReadable s v a.pause)
  | .expired v => some (superviseExpired s v a.pause)
  | .exited status => some (restartOrStop s status a.pause)
  | .backingOff deadline => some (backOff s deadline)
  | .sleeping deadline _ => some { s with control := match a.poll with
      | .ready => .waking deadline
      | .notReady | .interrupted => .backingOff deadline }
  | .waking deadline => some (wake s deadline)
  | .stopped | .failed => none

def finish (pid : Nat) (status : UInt32) (c : Child) : Child :=
  if c.pid = pid then { c with status := some status } else c

/-- Whatever happens next: a signal arrives, a running worker exits, time
passes, or the supervisor gets to run. -/
inductive Choice where
  | deliver (signal : Signal)
  | exit (pid : Nat) (status : UInt32)
  | advance (d : Duration)
  | proceed (a : Answer)

def act (s : System) : Choice → Option System
  | .deliver signal => some (record (raise s signal) (.delivered signal))
  | .exit pid status =>
    if waitpid s.children pid = some none then
      some (raise { s with children := s.children.map (finish pid status) } .chld)
    else none
  | .advance d => some { s with clock := s.clock + (d : Int) }
  | .proceed a => proceed s a

def Reachable (s : System) : Prop := ∃ clock choices, replay act (start clock) choices = some s

end NatStream.Supervisor.Processes
