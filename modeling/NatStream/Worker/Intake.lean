import NatStream.Worker.Batches
import NatStream.Worker.Bookkeeping
import NatStream.Worker.Exports

namespace NatStream.Worker.Intake

open NatStream.Lib.Bytes NatStream.Events NatStream.Netlink.Parsers NatStream.Worker.EventLoop
open NatStream.Worker.Iterations NatStream.Worker.Batches NatStream.Worker.Bookkeeping
open NatStream.Worker.Exports

variable {world : World} {config : Config}

/-- The kernel's side of the netlink socket: the datagrams queued on it, and
all that were ever put there. -/
structure Socket where
  queue : List Datagram
  arrived : List Datagram

/-- What happens around one receive call: the datagrams queued before it runs,
and a disturbance that ends it after some datagrams, if there is one. -/
structure Call where
  arrivals : List Datagram
  disturbed : Option (Nat × RecvError)

def quiet : Call := ⟨[], none⟩

/-- How many datagrams a call gets to take. -/
def Call.reach (call : Call) (queued : Nat) : Nat :=
  match call.disturbed with
  | none => queued
  | some (n, _) => min n queued

def Call.failure (call : Call) : RecvError :=
  match call.disturbed with
  | some (0, e) => e
  | _ => .wouldBlock

def recvmmsg (sock : Socket) (call : Call) : Answer recvBatchSize × Socket :=
  let queue := sock.queue ++ call.arrivals
  let arrived := sock.arrived ++ call.arrivals
  let n := min recvBatchSize (call.reach queue.length)
  if n = 0 then (.error call.failure, ⟨queue, arrived⟩)
  else (.filled (queue.take n) (Nat.le_trans (List.length_take_le n queue) (Nat.min_le_left _ _)),
    ⟨queue.drop n, arrived⟩)

/-- The body of the loop over a batch. -/
def receiveSlot (world : World) (w : State) (slot : Slot) (bytes : List UInt8) : Option State :=
  if slot.senderPortid ≠ 0 then some { w with foreignMsgs := w.foreignMsgs + 1 }
  else
    let w := if slot.datagramLen > slot.len then { w with truncatedMsgs := w.truncatedMsgs + 1 } else w
    if slot.len = 0 then some w
    else do
      let w ← ensureActive w
      parseConntrackMessages world.endian bytes (recordEvent world) w

/-- The loop over a batch. What was handed over is only for the observer. -/
def receiveSlots (world : World) (b : ReceiveBatch recvBatchSize recvSlotSize)
    (handed : List Datagram) (received : Nat) (w : State) : Option State :=
  (List.range received).foldlM (fun w index => do
    let (slot, bytes) ← datagram b index
    receiveSlot world { w with received := w.received ++ handed[index]?.toList } slot bytes) w

/-- The worker with its socket and its receive buffers. -/
structure Ingest where
  socket : Socket
  batch : ReceiveBatch recvBatchSize recvSlotSize
  worker : State

def drainSocket (world : World) : Nat → List Call → Ingest → Option Ingest
  | 0, _, s => some s
  | k + 1, calls, s => do
    let (answer, socket) := recvmmsg s.socket (calls.headD quiet)
    let (result, batch) ← recvBatch s.batch answer
    match result with
    | .error _ => some { s with socket, batch }
    | .ok 0 => some { s with socket, batch }
    | .ok received =>
      let worker ← receiveSlots world batch answer.datagrams received s.worker
      if received < recvBatchSize then some ⟨socket, batch, worker⟩
      else drainSocket world k calls.tail ⟨socket, batch, worker⟩

inductive SocketAnswer where
  | interrupted
  | failed
  | returned (signals : List Signal) (ready : Bool) (calls : List Call)

structure SocketTurn where
  nlDrops : Nat
  answer : SocketAnswer

inductive SocketOutcome where
  | again (s : Ingest)
  | stopped (s : Ingest)
  | failed (s : Ingest)

def afterPollSocket (world : World) (s : Ingest) : SocketAnswer → Option SocketOutcome
  | .interrupted => some (.again s)
  | .failed => some (.failed s)
  | .returned (_ :: _) _ _ => (shutdown world s.worker).map fun worker => .stopped { s with worker }
  | .returned [] false _ =>
    (flushOnTimeout world s.worker).map fun worker => .again { s with worker }
  | .returned [] true calls => (drainSocket world maxBatchesPerPoll calls s).map .again

def iterateSocket (world : World) (config : Config) (s : Ingest) (turn : SocketTurn) :
    Option SocketOutcome := do
  let worker ← loopTop world config turn.nlDrops s.worker
  let (_, worker) ← pollTimeout world config worker
  afterPollSocket world { s with worker } turn.answer

/-- The worker starts with fresh buffers and whatever is queued already. -/
def startIngest (world : World) (config : Config) (nlDrops : Nat) (queue : List Datagram) :
    Option Ingest :=
  (newBatch recvBatchSize recvSlotSize).map fun batch =>
    ⟨⟨queue, queue⟩, batch, startWorker world config nlDrops⟩

def resumeSocket : SocketOutcome → Option Ingest
  | .again s => some s
  | .stopped _ | .failed _ => none

/-- Some iterations in a row, as long as none of them leaves the loop. -/
def runSocket (world : World) (config : Config) (s : Ingest) (turns : List SocketTurn) :
    Option Ingest :=
  turns.foldlM (fun s t => (iterateSocket world config s t).bind resumeSocket) s

/-- On what a slot shows of a datagram, the loop body does what the model of
the worker does with the datagram itself. -/
theorem receiveSlot_shown (w : State) (d : Datagram) :
    receiveSlot world { w with received := w.received ++ [d] } (shown recvSlotSize d).1
        (shown recvSlotSize d).2 = receiveDatagram world w d := by
  have hlen : (shown recvSlotSize d).1.len = (kept d).length := by
    rw [kept, List.length_take, Nat.min_comm]
    rfl
  simp only [receiveSlot, receiveDatagram, countTruncated, hlen]
  rfl

theorem receiveSlots_eq {b : ReceiveBatch recvBatchSize recvSlotSize} {ds : List Datagram}
    (h : Exposes b ds) (w : State) :
    receiveSlots world b ds ds.length w = ds.foldlM (receiveDatagram world) w := by
  rw [receiveSlots]
  suffices hgen : ∀ n ≤ ds.length, ∀ w, (List.range n).foldlM (fun w index => do
      let (slot, bytes) ← datagram b index
      receiveSlot world { w with received := w.received ++ ds[index]?.toList } slot bytes) w =
      (ds.take n).foldlM (receiveDatagram world) w by
    rw [hgen _ (Nat.le_refl _), List.take_length]
  intro n hn
  induction n with
  | zero => exact fun w => rfl
  | succ n ih =>
    intro w
    have hget : ds[n]? = some ds[n] := List.getElem?_eq_getElem hn
    rw [List.range_succ, List.foldlM_append, ih (Nat.le_of_succ_le hn), List.take_add_one, hget,
      List.foldlM_append]
    congr 1
    funext w
    simp only [List.foldlM_cons, List.foldlM_nil, h n, hget, Option.map_some, Option.bind_eq_bind,
      Option.bind_some, Option.toList_some, receiveSlot_shown]

/-- What the kernel hands over to one drain of the socket, batch by batch, and
what it keeps. -/
def handedOver : Nat → List Call → Socket → List Batch × Socket
  | 0, _, sock => ([], sock)
  | k + 1, calls, sock =>
    match recvmmsg sock (calls.headD quiet) with
    | (.error _, sock) => ([], sock)
    | (.filled ds within, sock) =>
      if ds.length < recvBatchSize then ([⟨ds, within⟩], sock)
      else (⟨ds, within⟩ :: (handedOver k calls.tail sock).1, (handedOver k calls.tail sock).2)

theorem drainSocket_error {k : Nat} {calls : List Call} {s : Ingest} {sock : Socket} {e : RecvError}
    {b : ReceiveBatch recvBatchSize recvSlotSize}
    (hr : recvmmsg s.socket (calls.headD quiet) = (.error e, sock))
    (hb : recvBatch s.batch (.error e) = some (.error e, b)) :
    drainSocket world (k + 1) calls s = some ⟨sock, b, s.worker⟩ := by
  simp only [drainSocket, hr, hb, Option.bind_eq_bind, Option.bind_some]

theorem drainSocket_filled {k : Nat} {calls : List Call} {s : Ingest} {sock : Socket}
    {ds : List Datagram} {within : ds.length ≤ recvBatchSize}
    {b : ReceiveBatch recvBatchSize recvSlotSize}
    (hr : recvmmsg s.socket (calls.headD quiet) = (.filled ds within, sock))
    (hb : recvBatch s.batch (.filled ds within) = some (.ok ds.length, b)) (hx : Exposes b ds) :
    drainSocket world (k + 1) calls s =
      if ds = [] then some ⟨sock, b, s.worker⟩
      else (ds.foldlM (receiveDatagram world) s.worker).bind fun worker =>
        if ds.length < recvBatchSize then some ⟨sock, b, worker⟩
        else drainSocket world k calls.tail ⟨sock, b, worker⟩ := by
  cases ds with
  | nil => simp only [drainSocket, hr, hb, Option.bind_eq_bind, Option.bind_some, List.length_nil, if_true]
  | cons d ds =>
    rw [if_neg (List.cons_ne_nil d ds), ← receiveSlots_eq hx]
    simp only [drainSocket, hr, hb, Option.bind_eq_bind, Option.bind_some, List.length_cons,
      Answer.datagrams]

/-- Draining the socket through the receive buffers is the drain of the model
on what the kernel hands over. -/
theorem drainSocket_eq (world : World) (k : Nat) (calls : List Call) (sock : Socket)
    {b : ReceiveBatch recvBatchSize recvSlotSize} (hw : Wired b) :
    ∃ b', Wired b' ∧ ∀ w, drainSocket world k calls ⟨sock, b, w⟩ =
      (drain world k (handedOver k calls sock).1 w).map fun worker =>
        ⟨(handedOver k calls sock).2, b', worker⟩ := by
  induction k generalizing calls sock b with
  | zero => exact ⟨b, hw, fun w => rfl⟩
  | succ k ih =>
    rw [handedOver]
    cases hr : recvmmsg sock (calls.headD quiet) with
    | mk answer sock₁ =>
      obtain ⟨result, b₁, hb₁, hw₁, hx, herr, hok⟩ := recvBatch_spec hw answer
      cases answer with
      | error e =>
        rw [herr e rfl] at hb₁
        exact ⟨b₁, hw₁, fun w => drainSocket_error (s := ⟨sock, b, w⟩) hr hb₁⟩
      | filled ds within =>
        rw [hok ds within rfl] at hb₁
        dsimp only
        by_cases hlt : ds.length < recvBatchSize
        · refine ⟨b₁, hw₁, fun w => ?_⟩
          rw [drainSocket_filled (s := ⟨sock, b, w⟩) hr hb₁ hx, if_pos hlt, drain]
          by_cases hne : ds = []
          · rw [if_pos hne, if_pos hne]
            rfl
          · simp only [if_neg hne, if_pos hlt, Option.bind_eq_bind, Option.map_bind]
            rfl
        · obtain ⟨b', hw', hrest⟩ := ih calls.tail sock₁ hw₁
          refine ⟨b', hw', fun w => ?_⟩
          have hne : ds ≠ [] := by
            rintro rfl
            exact hlt (by decide)
          rw [drainSocket_filled (s := ⟨sock, b, w⟩) hr hb₁ hx, if_neg hlt, drain]
          simp only [if_neg hne, if_neg hlt, Option.bind_eq_bind, Option.map_bind, hrest]
          rfl

theorem recvmmsg_accounts (sock : Socket) (call : Call) :
    (recvmmsg sock call).2.arrived = sock.arrived ++ call.arrivals ∧
      (recvmmsg sock call).1.datagrams ++ (recvmmsg sock call).2.queue =
        sock.queue ++ call.arrivals := by
  rw [recvmmsg]
  split
  · exact ⟨rfl, rfl⟩
  · exact ⟨rfl, List.take_append_drop _ _⟩

/-- What arrives around the first few calls. -/
def arrivalsOf (m : Nat) (calls : List Call) : List Datagram := (calls.take m).flatMap Call.arrivals

theorem arrivalsOf_succ (m : Nat) (calls : List Call) :
    arrivalsOf (m + 1) calls = (calls.headD quiet).arrivals ++ arrivalsOf m calls.tail := by
  cases calls with
  | nil => rw [arrivalsOf, arrivalsOf, List.take_nil, List.tail_nil, List.take_nil]; rfl
  | cons call calls => rfl

/-- Nothing is lost or handed over twice: the batches and what stays queued
are what was queued and what arrived around the calls that were made. -/
theorem handedOver_accounts (k : Nat) (calls : List Call) (sock : Socket) :
    ∃ m ≤ k, (handedOver k calls sock).2.arrived = sock.arrived ++ arrivalsOf m calls ∧
      (handedOver k calls sock).1.flatMap Batch.datagrams ++ (handedOver k calls sock).2.queue =
        sock.queue ++ arrivalsOf m calls := by
  induction k generalizing calls sock with
  | zero => exact ⟨0, Nat.le_refl 0, (List.append_nil _).symm, (List.append_nil _).symm⟩
  | succ k ih =>
    obtain ⟨harrived, hqueue⟩ := recvmmsg_accounts sock (calls.headD quiet)
    have hone : arrivalsOf 1 calls = (calls.headD quiet).arrivals := by
      rw [arrivalsOf_succ]
      exact List.append_nil _
    rw [handedOver]
    cases hr : recvmmsg sock (calls.headD quiet) with
    | mk answer sock₁ =>
      rw [hr] at harrived hqueue
      cases answer with
      | error e =>
        refine ⟨1, Nat.le_add_left 1 k, ?_⟩
        rw [hone]
        exact ⟨harrived, hqueue⟩
      | filled ds within =>
        dsimp only [Answer.datagrams] at harrived hqueue ⊢
        split
        · refine ⟨1, Nat.le_add_left 1 k, ?_⟩
          rw [hone, List.flatMap_cons, List.flatMap_nil, List.append_nil]
          exact ⟨harrived, hqueue⟩
        · obtain ⟨m, hm, hnew, hrest⟩ := ih calls.tail sock₁
          refine ⟨m + 1, Nat.succ_le_succ hm, ?_, ?_⟩
          · rw [hnew, harrived, arrivalsOf_succ, List.append_assoc]
          · rw [List.flatMap_cons, List.append_assoc, hrest, ← List.append_assoc, hqueue,
              arrivalsOf_succ, List.append_assoc]

/-- The drain of the model takes in everything that is handed over. -/
theorem drain_handedOver (k : Nat) (calls : List Call) (sock : Socket) (w : State) :
    drain world k (handedOver k calls sock).1 w =
      ((handedOver k calls sock).1.flatMap Batch.datagrams).foldlM (receiveDatagram world) w := by
  induction k generalizing calls sock w with
  | zero => rfl
  | succ k ih =>
    rw [handedOver]
    cases recvmmsg sock (calls.headD quiet) with
    | mk answer sock₁ =>
      cases answer with
      | error e => rfl
      | filled ds within =>
        dsimp only
        by_cases hlt : ds.length < recvBatchSize
        · rw [if_pos hlt, drain, List.flatMap_cons, List.flatMap_nil, List.append_nil]
          by_cases hne : ds = []
          · subst hne
            rfl
          · simp only [if_neg hne, if_pos hlt]
            exact bind_pure _
        · have hne : ds ≠ [] := by
            rintro rfl
            exact hlt (by decide)
          rw [if_neg hlt, drain, List.flatMap_cons, List.foldlM_append]
          simp only [if_neg hne, if_neg hlt, ih]

theorem recvmmsg_exhausts (sock : Socket) (call : Call) :
    (recvmmsg sock call).2.queue = [] ∨ (recvmmsg sock call).1.datagrams.length = recvBatchSize ∨
      call.disturbed.isSome := by
  cases hd : call.disturbed with
  | some disturbance => exact Or.inr (Or.inr rfl)
  | none =>
    have hreach (n : Nat) : call.reach n = n := by rw [Call.reach, hd]
    have hpos : 0 < recvBatchSize := by decide
    rw [recvmmsg]
    simp only [hreach]
    split
    · rename_i hzero
      refine Or.inl (List.length_eq_zero_iff.mp ?_)
      dsimp only
      omega
    · by_cases hle : (sock.queue ++ call.arrivals).length ≤ recvBatchSize
      · refine Or.inl (List.drop_eq_nil_of_le ?_)
        omega
      · refine Or.inr (Or.inl ?_)
        rw [Answer.datagrams, List.length_take]
        omega

/-- A drain leaves datagrams queued only if it has filled every batch it may
ask for, or if a call was disturbed. -/
theorem handedOver_exhausts (k : Nat) (calls : List Call) (sock : Socket) :
    (handedOver k calls sock).2.queue = [] ∨
      ((handedOver k calls sock).1.flatMap Batch.datagrams).length = k * recvBatchSize ∨
      ∃ call ∈ calls.take k, call.disturbed.isSome := by
  induction k generalizing calls sock with
  | zero => exact Or.inr (Or.inl (by rw [Nat.zero_mul]; rfl))
  | succ k ih =>
    have hhead : (calls.headD quiet).disturbed.isSome →
        ∃ call ∈ calls.take (k + 1), call.disturbed.isSome := by
      intro h
      cases calls with
      | nil => cases h
      | cons call calls => exact ⟨call, List.mem_cons_self, h⟩
    have hstep := recvmmsg_exhausts sock (calls.headD quiet)
    rw [handedOver]
    cases hr : recvmmsg sock (calls.headD quiet) with
    | mk answer sock₁ =>
      rw [hr] at hstep
      cases answer with
      | error e =>
        obtain hq | hl | hd := hstep
        · exact Or.inl hq
        · cases hl
        · exact Or.inr (Or.inr (hhead hd))
      | filled ds within =>
        dsimp only [Answer.datagrams] at hstep ⊢
        split
        · rename_i hlt
          obtain hq | hl | hd := hstep
          · exact Or.inl hq
          · exact absurd hl (Nat.ne_of_lt hlt)
          · exact Or.inr (Or.inr (hhead hd))
        · rename_i hlt
          obtain hq | hl | ⟨call, hmem, hd⟩ := ih calls.tail sock₁
          · exact Or.inl hq
          · refine Or.inr (Or.inl ?_)
            rw [List.flatMap_cons, List.length_append, hl, Nat.succ_mul]
            dsimp only
            omega
          · refine Or.inr (Or.inr ⟨call, ?_, hd⟩)
            cases calls with
            | nil =>
              rw [List.tail_nil, List.take_nil] at hmem
              cases hmem
            | cons first calls => exact List.mem_cons_of_mem first hmem

theorem drainSocket_plain (world : World) (k : Nat) (calls : List Call) {s : Ingest}
    (hw : Wired s.batch) :
    ∃ taken m sock b, Wired b ∧ m ≤ k ∧
      sock.arrived = s.socket.arrived ++ arrivalsOf m calls ∧
      taken ++ sock.queue = s.socket.queue ++ arrivalsOf m calls ∧
      drainSocket world k calls s =
        (taken.foldlM (receiveDatagram world) s.worker).map (fun worker => ⟨sock, b, worker⟩) ∧
      (sock.queue = [] ∨ taken.length = k * recvBatchSize ∨
        ∃ call ∈ calls.take k, call.disturbed.isSome) := by
  obtain ⟨b, hb, hdrain⟩ := drainSocket_eq world k calls s.socket hw
  obtain ⟨m, hm, harrived, hqueue⟩ := handedOver_accounts k calls s.socket
  refine ⟨_, m, (handedOver k calls s.socket).2, b, hb, hm, harrived, hqueue, ?_,
    handedOver_exhausts k calls s.socket⟩
  rw [← drain_handedOver]
  exact hdrain s.worker

/-- The buffers are wired up, and what arrived at the socket has been taken in
or is still queued. -/
structure Sound (s : Ingest) : Prop where
  wired : Wired s.batch
  accounted : s.worker.received ++ s.socket.queue = s.socket.arrived

theorem Sound.setWorker {s : Ingest} {w : State} (h : Sound s)
    (hr : w.received = s.worker.received) : Sound { s with worker := w } := by
  refine ⟨h.wired, ?_⟩
  rw [hr]
  exact h.accounted

theorem takes_nothing_received {w w' : State} (h : Takes (fun _ => True) w [] w') :
    w'.received = w.received := by
  rw [h.received, List.append_nil]

theorem drainSocket_sound {s s' : Ingest} {k : Nat} {calls : List Call} (h : Sound s)
    (hd : drainSocket world k calls s = some s') : Sound s' := by
  obtain ⟨taken, m, sock, b, hb, -, harrived, hqueue, hplain, -⟩ :=
    drainSocket_plain world k calls h.wired
  rw [hplain, Option.map_eq_some_iff] at hd
  obtain ⟨w, hw, rfl⟩ := hd
  refine ⟨hb, ?_⟩
  rw [(receiveBatch_takes (R := fun _ => True) trivial hw).received, List.append_assoc, hqueue, harrived, ← h.accounted,
    List.append_assoc]

def stateOf : SocketOutcome → Ingest
  | .again s | .stopped s | .failed s => s

theorem afterPollSocket_sound {s : Ingest} {answer : SocketAnswer} {outcome : SocketOutcome}
    (h : Sound s) (hr : afterPollSocket world s answer = some outcome) : Sound (stateOf outcome) := by
  cases answer with
  | interrupted =>
    cases hr
    exact h
  | failed =>
    cases hr
    exact h
  | returned signals ready calls =>
    cases signals with
    | cons signal signals =>
      obtain ⟨w, hw, rfl⟩ := Option.map_eq_some_iff.mp hr
      exact h.setWorker (takes_nothing_received (shutdown_takes trivial hw))
    | nil =>
      cases ready with
      | false =>
        obtain ⟨w, hw, rfl⟩ := Option.map_eq_some_iff.mp hr
        exact h.setWorker (takes_nothing_received (flushOnTimeout_takes trivial hw))
      | true =>
        obtain ⟨s', hs', rfl⟩ := Option.map_eq_some_iff.mp hr
        exact drainSocket_sound h hs'

theorem iterateSocket_sound {s : Ingest} {t : SocketTurn} {outcome : SocketOutcome} (h : Sound s)
    (hr : iterateSocket world config s t = some outcome) : Sound (stateOf outcome) := by
  simp only [iterateSocket, Option.bind_eq_bind, Option.bind_eq_some_iff] at hr
  obtain ⟨w₁, hl, ⟨timeout, w₂⟩, hp, hr⟩ := hr
  refine afterPollSocket_sound (h.setWorker ?_) hr
  rw [takes_nothing_received (pollTimeout_takes hp), loopTop_received hl]

theorem runSocket_sound {s s' : Ingest} {turns : List SocketTurn} (h : Sound s)
    (hr : runSocket world config s turns = some s') : Sound s' := by
  induction turns generalizing s with
  | nil =>
    cases hr
    exact h
  | cons t turns ih =>
    rw [runSocket, List.foldlM_cons, Option.bind_eq_bind, Option.bind_eq_some_iff] at hr
    obtain ⟨s₁, hs₁, hrest⟩ := hr
    obtain ⟨outcome, ho, hresume⟩ := Option.bind_eq_some_iff.mp hs₁
    have hsound := iterateSocket_sound h ho
    cases outcome with
    | again s₂ =>
      cases hresume
      exact ih hsound hrest
    | stopped _ => cases hresume
    | failed _ => cases hresume

theorem recv_sized : Sized recvBatchSize recvSlotSize :=
  ⟨by decide, by decide, by decide, by decide⟩

theorem startIngest_sound (world : World) (config : Config) (nlDrops : Nat)
    (queue : List Datagram) :
    ∃ s, startIngest world config nlDrops queue = some s ∧
      s.worker = startWorker world config nlDrops ∧ Sound s := by
  obtain ⟨b, hb, hw⟩ := newBatch_wired recv_sized
  refine ⟨⟨⟨queue, queue⟩, b, startWorker world config nlDrops⟩, ?_, rfl, hw, rfl⟩
  rw [startIngest, hb]
  rfl

/-- The batched receive is the plain loop over the datagrams: wherever the
worker has got to, draining the socket handles the first datagrams of the queue
one by one, in order, exactly as the worker would handle each alone, and it
stops with datagrams still queued only if it has filled every batch it may ask
for or a call was disturbed. -/
theorem drain_is_plain_loop {world : World} {config : Config} {nlDrops : Nat}
    {queue : List Datagram} {turns : List SocketTurn} {s₀ s : Ingest}
    (hstart : startIngest world config nlDrops queue = some s₀)
    (hruns : runSocket world config s₀ turns = some s) (k : Nat) (calls : List Call) :
    ∃ taken m sock b, m ≤ k ∧ taken ++ sock.queue = s.socket.queue ++ arrivalsOf m calls ∧
      drainSocket world k calls s =
        (taken.foldlM (receiveDatagram world) s.worker).map (fun worker => ⟨sock, b, worker⟩) ∧
      (sock.queue = [] ∨ taken.length = k * recvBatchSize ∨
        ∃ call ∈ calls.take k, call.disturbed.isSome) := by
  obtain ⟨s₁, hs₁, -, hsound⟩ := startIngest_sound world config nlDrops queue
  cases hstart.symm.trans hs₁
  obtain ⟨taken, m, sock, b, -, hm, -, hqueue, hplain, hstop⟩ :=
    drainSocket_plain world k calls (runSocket_sound hsound hruns).wired
  exact ⟨taken, m, sock, b, hm, hqueue, hplain, hstop⟩

/-- Two queued datagrams and nothing in the way: both are taken. -/
theorem drain_is_plain_loop_sample :
    ∃ s₀ sock b, startIngest sampleWorld sampleConfig 0 [snatDatagram, snatDatagram] = some s₀ ∧
      sock.queue = [] ∧
      drainSocket sampleWorld maxBatchesPerPoll [] s₀ =
        ([snatDatagram, snatDatagram].foldlM (receiveDatagram sampleWorld) s₀.worker).map
          fun worker => ⟨sock, b, worker⟩ := by
  obtain ⟨b₀, hb₀, -⟩ := newBatch_wired recv_sized
  have hstart : startIngest sampleWorld sampleConfig 0 [snatDatagram, snatDatagram] =
      some ⟨⟨[snatDatagram, snatDatagram], [snatDatagram, snatDatagram]⟩, b₀,
        startWorker sampleWorld sampleConfig 0⟩ := by
    rw [startIngest, hb₀]
    rfl
  have hruns (s : Ingest) : runSocket sampleWorld sampleConfig s [] = some s := rfl
  obtain ⟨taken, m, sock, b, -, hqueue, hplain, hstop⟩ :=
    drain_is_plain_loop hstart (hruns _) maxBatchesPerPoll []
  rw [arrivalsOf, List.take_nil, List.flatMap_nil, List.append_nil] at hqueue
  obtain hempty | hlen | ⟨call, hmem, -⟩ := hstop
  · rw [hempty, List.append_nil] at hqueue
    subst hqueue
    exact ⟨_, sock, b, hstart, hempty, hplain⟩
  · have htotal := congrArg List.length hqueue
    rw [List.length_append, hlen] at htotal
    have hsize : 2 < maxBatchesPerPoll * recvBatchSize := by decide
    have htwo : [snatDatagram, snatDatagram].length = 2 := rfl
    dsimp only at htotal
    omega
  · rw [List.take_nil] at hmem
    cases hmem

end NatStream.Worker.Intake
