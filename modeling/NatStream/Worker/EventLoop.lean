import NatStream.Export.Encoders
import NatStream.Netlink.Parsers

namespace NatStream.Worker.EventLoop

open NatStream.Lib.Bytes NatStream.Lib.Time NatStream.Events NatStream.Export.Templates
open NatStream.Export.Encoders NatStream.Netlink.Parsers

def flushTimeoutMs : Nat := 100
def statsIntervalSecs : Nat := 10
def maxBatchesPerPoll : Nat := 64
def recvBatchSize : Nat := 16
def recvSlotSize : Nat := 64 * 1024
def i32Max : Nat := 2 ^ 31 - 1

structure Args where
  domainId : UInt32
  protocol : Protocol
  profile : Profile
  counterWidth : UInt8
  templateId : UInt16
  templateInterval : UInt64
  deriving DecidableEq

/-- Why the worker refuses to start. Only the last has the context
"Invalid export configuration". -/
inductive StartError where
  | templateInterval
  | counterWidth (error : ConfigError)
  | exportConfiguration (error : ConfigError)
  deriving DecidableEq

/-- A configuration the worker runs with. -/
structure Config where
  domainId : UInt32
  template : Template
  templateInterval : UInt64
  interval_ne_zero : templateInterval ≠ 0
  resolved : ∃ protocol profile width templateId,
    resolve protocol profile width templateId = .ok template

def validate (args : Args) : Except StartError Config :=
  if hi : args.templateInterval = 0 then .error .templateInterval
  else match CounterWidth.fromBytes args.counterWidth with
    | .error e => .error (.counterWidth e)
    | .ok width =>
      match hr : resolve args.protocol args.profile width args.templateId with
      | .error e => .error (.exportConfiguration e)
      | .ok template => .ok {
          domainId := args.domainId
          template
          templateInterval := args.templateInterval
          interval_ne_zero := hi
          resolved := ⟨_, _, _, _, hr⟩ }

/-- Everything outside the program: the machine's byte order, what each reading
of the clocks shows and whether each send succeeds. -/
structure World where
  endian : Endian
  clock : Nat → Instant
  monotone : ∀ i j, i ≤ j → clock i ≤ clock j
  systemTime : Nat → Int
  sendOk : Nat → Bool

inductive Reason where
  | template
  | flush
  | full
  | shutdown
  deriving DecidableEq, Repr

/-- A datagram handed to the UDP socket. `templateTime` is when the template
was last sent, this message included. -/
structure Sent where
  bytes : List UInt8
  count : UInt32
  template : Bool
  reason : Reason
  templateTime : Instant
  delivered : Bool
  deriving DecidableEq

structure Datagram where
  senderPortid : UInt32
  payload : List UInt8
  deriving DecidableEq

def kept (d : Datagram) : List UInt8 := d.payload.take recvSlotSize

/-- The numbers in one line of the statistics: what is new since the last
report, and the totals. -/
structure Report where
  newNlDrops : Nat
  newSendErrors : Nat
  newTruncated : Nat
  newForeign : Nat
  newSaturated : Nat
  nlDrops : Nat
  sendErrors : Nat
  truncatedMsgs : Nat
  foreignMsgs : Nat
  saturated : Nat
  deriving DecidableEq

/-- The variables of the loop, and after them what only an observer keeps: the
number of clock readings, what went out and what came in, the lines of the
statistics with the time of each, and the readings of the kernel's drop counter
that were reported. The counters are 64-bit numbers in the program and are kept
unbounded here. -/
structure State where
  encoder : Encoder
  includeTemplate : Bool
  lastTemplateTime : Instant
  messageActive : Bool
  lastStatsTime : Instant
  prevNlDrops : Nat
  sendErrors : Nat
  prevSendErrors : Nat
  truncatedMsgs : Nat
  prevTruncatedMsgs : Nat
  foreignMsgs : Nat
  prevForeignMsgs : Nat
  prevSaturated : Nat
  ticks : Nat
  outbox : List Sent
  received : List Datagram
  lines : List (Instant × Report)
  dropReadings : List Nat
  deriving DecidableEq

def startWorker (world : World) (config : Config) (nlDrops : Nat) : State where
  encoder := newEncoder config.domainId config.template (world.clock 0)
  includeTemplate := true
  lastTemplateTime := world.clock 1
  messageActive := false
  lastStatsTime := world.clock 2
  prevNlDrops := nlDrops
  sendErrors := 0
  prevSendErrors := 0
  truncatedMsgs := 0
  prevTruncatedMsgs := 0
  foreignMsgs := 0
  prevForeignMsgs := 0
  prevSaturated := 0
  ticks := 3
  outbox := []
  received := []
  lines := []
  dropReadings := [nlDrops]

def templateInterval (config : Config) : Duration := fromSecs config.templateInterval.toNat

def statsInterval : Duration := fromSecs statsIntervalSecs

def settleTemplate (world : World) (w : State) : State :=
  if w.encoder.templateIncluded then
    { w with
      includeTemplate := false
      lastTemplateTime := world.clock w.ticks
      ticks := w.ticks + 1 }
  else w

/-- Send the buffered message, if it holds anything worth sending. -/
def flushMessage (world : World) (reason : Reason) (w : State) : Option State :=
  if !hasPendingOutput w.encoder then some w
  else do
    let w := settleTemplate world w
    let stamp := ⟨world.systemTime w.outbox.length, world.clock w.ticks⟩
    let (encoder, bytes, count) ← finalize w.encoder stamp
    let delivered := world.sendOk w.outbox.length
    return { w with
      encoder
      ticks := w.ticks + 1
      sendErrors := if delivered then w.sendErrors else w.sendErrors + 1
      outbox := w.outbox ++ [{
        bytes, count, reason, delivered
        template := w.encoder.templateIncluded
        templateTime := w.lastTemplateTime }] }

/-- The callback given to the parser. A refused record goes into the next
message; were it refused again, the program would only log it. -/
def recordEvent (world : World) (w : State) (event : ConntrackEvent) : Option State := do
  let (encoder, accepted) ← addRecord w.encoder event
  let w := { w with encoder }
  if accepted then return w
  else
    let w ← flushMessage world .full w
    let encoder ← beginMessage w.encoder w.includeTemplate
    let (encoder, _) ← addRecord encoder event
    return { w with encoder }

def ensureActive (w : State) : Option State :=
  if w.messageActive then some w
  else do
    let encoder ← beginMessage w.encoder w.includeTemplate
    return { w with encoder, messageActive := true }

def countTruncated (w : State) (d : Datagram) : State :=
  if d.payload.length > (kept d).length then { w with truncatedMsgs := w.truncatedMsgs + 1 } else w

def receiveDatagram (world : World) (w : State) (d : Datagram) : Option State :=
  let w := { w with received := w.received ++ [d] }
  if d.senderPortid ≠ 0 then some { w with foreignMsgs := w.foreignMsgs + 1 }
  else
    let w := countTruncated w d
    if (kept d).length = 0 then some w
    else do
      let w ← ensureActive w
      parseConntrackMessages world.endian (kept d) (recordEvent world) w

/-- What one receive call fills. -/
structure Batch where
  datagrams : List Datagram
  within : datagrams.length ≤ recvBatchSize

/-- Drain the socket. The answers run out when the socket would block, the call
is interrupted, or it fails. -/
def drain (world : World) : Nat → List Batch → State → Option State
  | 0, _, w => some w
  | _ + 1, [], w => some w
  | k + 1, batch :: batches, w =>
    if batch.datagrams = [] then some w
    else do
      let w ← batch.datagrams.foldlM (receiveDatagram world) w
      if batch.datagrams.length < recvBatchSize then return w
      else drain world k batches w

def statsReport (nlDrops : Nat) (w : State) : Report where
  newNlDrops := nlDrops - w.prevNlDrops
  newSendErrors := w.sendErrors - w.prevSendErrors
  newTruncated := w.truncatedMsgs - w.prevTruncatedMsgs
  newForeign := w.foreignMsgs - w.prevForeignMsgs
  newSaturated := w.encoder.saturatedCounters - w.prevSaturated
  nlDrops
  sendErrors := w.sendErrors
  truncatedMsgs := w.truncatedMsgs
  foreignMsgs := w.foreignMsgs
  saturated := w.encoder.saturatedCounters

def Report.isNews (r : Report) : Bool :=
  r.newNlDrops > 0 || r.newSendErrors > 0 || r.newTruncated > 0 || r.newForeign > 0 ||
    r.newSaturated > 0

/-- The line of a report, which is logged only if it has something new. -/
def statsLine (now : Instant) (nlDrops : Nat) (w : State) : List (Instant × Report) :=
  if (statsReport nlDrops w).isNews then [(now, statsReport nlDrops w)] else []

def reportDue (now : Instant) (w : State) : Bool := durationSince now w.lastStatsTime ≥ statsInterval

def reportStats (now : Instant) (nlDrops : Nat) (w : State) : State :=
  if reportDue now w then
    { w with
      lines := w.lines ++ statsLine now nlDrops w
      dropReadings := w.dropReadings ++ [nlDrops]
      prevNlDrops := nlDrops
      prevSendErrors := w.sendErrors
      prevTruncatedMsgs := w.truncatedMsgs
      prevForeignMsgs := w.foreignMsgs
      prevSaturated := w.encoder.saturatedCounters
      lastStatsTime := now }
  else w

def retransmitDue (world : World) (config : Config) (w : State) : Bool :=
  durationSince (world.clock w.ticks) w.lastTemplateTime ≥ templateInterval config

def checkTimers (world : World) (config : Config) (nlDrops : Nat) (w : State) : State :=
  reportStats (world.clock w.ticks) nlDrops
    { w with
      includeTemplate := w.includeTemplate || retransmitDue world config w
      ticks := w.ticks + 1 }

def sendTemplate (world : World) (w : State) : Option State :=
  if w.includeTemplate && !w.messageActive then do
    let encoder ← beginMessage w.encoder true
    flushMessage world .template { w with encoder }
  else some w

/-- From the top of the loop to the computation of the poll timeout. -/
def loopTop (world : World) (config : Config) (nlDrops : Nat) (w : State) : Option State :=
  sendTemplate world (checkTimers world config nlDrops w)

def msUntil (deadline now : Instant) : Nat := min (asMillis (durationSince deadline now)) i32Max

def pollTimeout (world : World) (config : Config) (w : State) : Option (Nat × State) :=
  if w.messageActive then some (flushTimeoutMs, w)
  else do
    let nextTemplate ← addDuration w.lastTemplateTime (templateInterval config)
    let nextStats ← addDuration w.lastStatsTime statsInterval
    return (msUntil (min nextTemplate nextStats) (world.clock w.ticks),
      { w with ticks := w.ticks + 1 })

inductive Signal where
  | term
  | int
  deriving DecidableEq, Repr

/-- The answer of the poll, with the signals read if the descriptor was ready
and the batches received if the socket was. -/
inductive PollAnswer where
  | interrupted
  | failed
  | returned (signals : List Signal) (ready : Bool) (batches : List Batch)

inductive Outcome where
  | again (w : State)
  | stopped (w : State)
  | failed (w : State)

def shutdown (world : World) (w : State) : Option State :=
  if w.messageActive then flushMessage world .shutdown w else some w

def flushOnTimeout (world : World) (w : State) : Option State :=
  if w.messageActive then do
    let w ← flushMessage world .flush w
    return { w with messageActive := false }
  else some w

def afterPoll (world : World) (w : State) : PollAnswer → Option Outcome
  | .interrupted => some (.again w)
  | .failed => some (.failed w)
  | .returned (_ :: _) _ _ => (shutdown world w).map .stopped
  | .returned [] false _ => (flushOnTimeout world w).map .again
  | .returned [] true batches => (drain world maxBatchesPerPoll batches w).map .again

/-- What the system answers in one iteration. -/
structure Turn where
  nlDrops : Nat
  answer : PollAnswer

def iterate (world : World) (config : Config) (w : State) (turn : Turn) : Option Outcome := do
  let w ← loopTop world config turn.nlDrops w
  let (_, w) ← pollTimeout world config w
  afterPoll world w turn.answer

/-- From one state at the top of the loop to a later one. -/
inductive Runs (world : World) (config : Config) (w : State) : State → Prop where
  | refl : Runs world config w w
  | turn {w' w'' : State} {t : Turn} : Runs world config w w' →
      iterate world config w' t = some (.again w'') → Runs world config w w''

def resume : Outcome → Option State
  | .again w => some w
  | .stopped _ | .failed _ => none

/-- Some iterations in a row, as long as none of them leaves the loop. -/
def runTurns (world : World) (config : Config) (w : State) (turns : List Turn) : Option State :=
  turns.foldlM (fun w t => (iterate world config w t).bind resume) w

theorem resume_eq_some {outcome : Outcome} {w : State} (h : resume outcome = some w) :
    outcome = .again w := by
  cases outcome with
  | again _ => rw [Option.some.inj h]
  | stopped _ => cases h
  | failed _ => cases h

theorem Runs.turns {world : World} {config : Config} {w w' w'' : State} {turns : List Turn}
    (h : Runs world config w w') (ht : runTurns world config w' turns = some w'') :
    Runs world config w w'' := by
  induction turns generalizing w' with
  | nil =>
    cases ht
    exact h
  | cons t turns ih =>
    simp only [runTurns, List.foldlM_cons, Option.bind_eq_bind, Option.bind_eq_some_iff] at ht
    obtain ⟨w₁, ⟨outcome, hi, ho⟩, hrest⟩ := ht
    rw [resume_eq_some ho] at hi
    exact ih (h.turn hi) hrest

/-- The states a run passes through at the top of the loop, and the one a
shutdown signal leaves it in. -/
inductive Visits (world : World) (config : Config) (w : State) : State → Prop where
  | top {w' : State} : Runs world config w w' → Visits world config w w'
  | stopped {w' w'' : State} {t : Turn} : Runs world config w w' →
      iterate world config w' t = some (.stopped w'') → Visits world config w w''

def Reaches (world : World) (config : Config) (w : State) : Prop :=
  ∃ nlDrops, Runs world config (startWorker world config nlDrops) w

end NatStream.Worker.EventLoop
