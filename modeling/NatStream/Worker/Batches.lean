import Mathlib.Data.Vector.Basic
import NatStream.Lib.ByteBuffer
import NatStream.Worker.EventLoop

namespace NatStream.Worker.Batches

open NatStream.Lib.Slice NatStream.Lib.ByteBuffer NatStream.Worker.EventLoop

variable {slots slotLen : Nat}

def isizeMax : Nat := 2 ^ 63 - 1
def cUintMax : Nat := 2 ^ 32 - 1

/-- The sizes of the records the program shares with the kernel. -/
def sockaddrNlLen : Nat := 12
def iovecLen : Nat := 16
def mmsghdrLen : Nat := 64

/-- The product of two sizes in a release build, where it wraps. -/
def mulUsize (a b : Nat) : Nat := a * b % 2 ^ 64

/-- Pointers are offsets into the vector they point into. -/
structure Iovec where
  base : Option Nat
  len : Nat
  deriving DecidableEq

structure Mmsghdr where
  name : Option Nat
  namelen : Nat
  iov : Option Nat
  iovlen : Nat
  truncated : Bool
  msgLen : Nat
  deriving DecidableEq

/-- Buffers and headers for one batched receive. The vectors are never
resized. -/
structure ReceiveBatch (slots slotLen : Nat) where
  storage : Buffer (mulUsize slots slotLen)
  addresses : Vector UInt32 slots
  iovecs : Vector Iovec slots
  headers : Vector Mmsghdr slots
  filled : Nat

def wireUp (b : ReceiveBatch slots slotLen) : ReceiveBatch slots slotLen :=
  { b with
    iovecs := Vector.ofFn fun index => ⟨some (mulUsize index slotLen), slotLen⟩
    headers := Vector.ofFn fun index => ⟨some index, sockaddrNlLen, some index, 1, false, 0⟩ }

/-- After the two assertions come the four vectors, none of which can have more
than `isizeMax` bytes. -/
def newBatch (slots slotLen : Nat) : Option (ReceiveBatch slots slotLen) := do
  check (0 < slots)
  check (0 < slotLen)
  check (mulUsize slots slotLen ≤ isizeMax)
  check (slots * sockaddrNlLen ≤ isizeMax)
  check (slots * iovecLen ≤ isizeMax)
  check (slots * mmsghdrLen ≤ isizeMax)
  some (wireUp {
    storage := zeroed (mulUsize slots slotLen)
    addresses := Vector.replicate slots 0
    iovecs := Vector.replicate slots ⟨none, 0⟩
    headers := Vector.replicate slots ⟨none, 0, none, 0, false, 0⟩
    filled := 0 })

/-- Restore the fields the kernel writes back. -/
def reset (b : ReceiveBatch slots slotLen) : ReceiveBatch slots slotLen :=
  { b with
    filled := 0
    headers := b.headers.map fun header =>
      { header with namelen := sockaddrNlLen, truncated := false, msgLen := 0 } }

/-- The kernel's part: it follows the pointers of one header, copies what fits
into the buffer and the sender into the address, and reports the full length.
A pointer that leads nowhere is a fault. -/
def deliver (b : ReceiveBatch slots slotLen) (index : Nat) (d : Datagram) :
    Option (ReceiveBatch slots slotLen) := do
  let header ← b.headers[index]?
  check (header.iovlen = 1)
  let iov ← header.iov
  let iovec ← b.iovecs[iov]?
  let base ← iovec.base
  let copied := d.payload.take iovec.len
  let storage ← copyFromSlice b.storage base (base + copied.length) copied
  let name ← header.name
  check (name < slots)
  some { b with
    storage
    addresses := if header.namelen < sockaddrNlLen then b.addresses
      else b.addresses.setIfInBounds name d.senderPortid
    headers := b.headers.setIfInBounds index { header with
      namelen := sockaddrNlLen
      truncated := d.payload.length > iovec.len
      msgLen := d.payload.length } }

def deliverFrom (b : ReceiveBatch slots slotLen) (index : Nat) :
    List Datagram → Option (ReceiveBatch slots slotLen)
  | [] => some b
  | d :: ds => do
    let b ← deliver b index d
    deliverFrom b (index + 1) ds

inductive RecvError where
  | wouldBlock
  | interrupted
  | other
  deriving DecidableEq

/-- What the kernel decides for one call: an error, or as many datagrams as it
hands over. -/
inductive Answer (slots : Nat) where
  | error (e : RecvError)
  | filled (datagrams : List Datagram) (within : datagrams.length ≤ slots)

def Answer.datagrams : Answer slots → List Datagram
  | .error _ => []
  | .filled ds _ => ds

/-- The number of slots as the kernel takes it; `none` is the panic of a number
that does not fit. -/
def capacityAsCUint (slots : Nat) : Option Nat := if slots ≤ cUintMax then some slots else none

def recvBatch (b : ReceiveBatch slots slotLen) (answer : Answer slots) :
    Option (Except RecvError Nat × ReceiveBatch slots slotLen) := do
  let _ ← capacityAsCUint slots
  match answer with
  | .error e => some (.error e, { reset b with filled := 0 })
  | .filled ds _ => do
    let b ← deliverFrom (reset b) 0 ds
    some (.ok ds.length, { b with filled := ds.length })

/-- What the program learns about a datagram: the bytes it has, the bytes there
were, and the sender. -/
structure Slot where
  len : Nat
  datagramLen : Nat
  senderPortid : UInt32
  deriving DecidableEq

def datagram (b : ReceiveBatch slots slotLen) (index : Nat) : Option (Slot × List UInt8) := do
  check (index < b.filled)
  let header ← b.headers[index]?
  let len := min header.msgLen slotLen
  let start := mulUsize index slotLen
  let senderPortid ← b.addresses[index]?
  let bytes ← slice b.storage.bytes start (start + len)
  some (⟨len, header.msgLen, senderPortid⟩, bytes)

/-- Sizes for which no product wraps and every vector can be allocated. -/
structure Sized (slots slotLen : Nat) : Prop where
  slots_pos : 0 < slots
  slotLen_pos : 0 < slotLen
  slots_le : slots ≤ cUintMax
  storage_le : slots * slotLen ≤ isizeMax

theorem mulUsize_eq {a b : Nat} (h : a * b ≤ isizeMax) : mulUsize a b = a * b := by
  apply Nat.mod_eq_of_lt
  rw [isizeMax] at h
  omega

theorem Sized.start_eq (h : Sized slots slotLen) {i : Nat} (hi : i ≤ slots) :
    mulUsize i slotLen = i * slotLen :=
  mulUsize_eq (Nat.le_trans (Nat.mul_le_mul_right slotLen hi) h.storage_le)

/-- Every header points at its own buffer and address. -/
structure Wired (b : ReceiveBatch slots slotLen) : Prop where
  sized : Sized slots slotLen
  iovec : ∀ {i : Nat}, i < slots → b.iovecs[i]? = some ⟨some (i * slotLen), slotLen⟩
  header : ∀ {i : Nat}, i < slots → ∃ truncated msgLen,
    b.headers[i]? = some ⟨some i, sockaddrNlLen, some i, 1, truncated, msgLen⟩

theorem wireUp_wired (h : Sized slots slotLen) (b : ReceiveBatch slots slotLen) :
    Wired (wireUp b) where
  sized := h
  iovec hi := by simp [wireUp, hi, h.start_eq (Nat.le_of_lt hi)]
  header hi := ⟨false, 0, by simp [wireUp, hi]⟩

theorem reset_wired {b : ReceiveBatch slots slotLen} (h : Wired b) : Wired (reset b) where
  sized := h.sized
  iovec hi := h.iovec hi
  header hi := by
    obtain ⟨_, _, hh⟩ := h.header hi
    exact ⟨false, 0, by simp [reset, hh]⟩

theorem Wired.setFilled {b : ReceiveBatch slots slotLen} (h : Wired b) (filled : Nat) :
    Wired { b with filled } := ⟨h.sized, h.iovec, h.header⟩

/-- What a slot holds for a datagram put there, up to the end of what was
copied. -/
structure Holding (b : ReceiveBatch slots slotLen) (i : Nat) (d : Datagram) : Prop where
  length : ∃ header, b.headers[i]? = some header ∧ header.msgLen = d.payload.length
  sender : b.addresses[i]? = some d.senderPortid
  bytes : (b.storage.bytes.take (i * slotLen + min d.payload.length slotLen)).drop (i * slotLen) =
    d.payload.take slotLen

theorem slot_end_le {i k : Nat} (hi : i < k) (n : Nat) :
    i * slotLen + min n slotLen ≤ k * slotLen := by
  have h := Nat.mul_le_mul_right slotLen (Nat.succ_le_of_lt hi)
  rw [Nat.succ_mul] at h
  omega

/-- A batch in which one slot has been overwritten. -/
def stored (b : ReceiveBatch slots slotLen) (i : Nat) (d : Datagram)
    (storage : Buffer (mulUsize slots slotLen)) : ReceiveBatch slots slotLen :=
  { b with
    storage
    addresses := b.addresses.setIfInBounds i d.senderPortid
    headers := b.headers.setIfInBounds i
      ⟨some i, sockaddrNlLen, some i, 1, d.payload.length > slotLen, d.payload.length⟩ }

theorem deliver_eq {b : ReceiveBatch slots slotLen} (hw : Wired b) {i : Nat} (hi : i < slots)
    {d : Datagram} {storage : Buffer (mulUsize slots slotLen)}
    (hs : copyFromSlice b.storage (i * slotLen) (i * slotLen + (d.payload.take slotLen).length)
      (d.payload.take slotLen) = some storage) : deliver b i d = some (stored b i d storage) := by
  obtain ⟨_, _, hheader⟩ := hw.header hi
  simp only [deliver, hheader, hw.iovec hi, hs, Option.bind_eq_bind, Option.bind_some, decide_true,
    check_true, hi, Nat.lt_irrefl, if_false, stored]

theorem stored_wired {b : ReceiveBatch slots slotLen} (hw : Wired b) (i : Nat) (d : Datagram)
    (storage : Buffer (mulUsize slots slotLen)) : Wired (stored b i d storage) where
  sized := hw.sized
  iovec hk := hw.iovec hk
  header {k} hk := by
    by_cases hik : i = k
    · subst hik
      exact ⟨_, _, Vector.getElem?_setIfInBounds_self_of_lt hk⟩
    · obtain ⟨truncated, msgLen, hk'⟩ := hw.header hk
      exact ⟨truncated, msgLen, (Vector.getElem?_setIfInBounds_ne hik).trans hk'⟩

/-- The kernel fills the slot it was pointed at and no slot before it. -/
theorem deliver_spec {b : ReceiveBatch slots slotLen} (hw : Wired b) {i : Nat} (hi : i < slots)
    (d : Datagram) :
    ∃ b', deliver b i d = some b' ∧ Wired b' ∧ Holding b' i d ∧
      ∀ j d', j < i → Holding b j d' → Holding b' j d' := by
  have hsize : mulUsize slots slotLen = slots * slotLen := hw.sized.start_eq (Nat.le_refl slots)
  have hcopied : (d.payload.take slotLen).length = min d.payload.length slotLen := by
    rw [List.length_take, Nat.min_comm]
  have hstart : (b.storage.bytes.take (i * slotLen)).length = i * slotLen :=
    length_take_bytes _ (by rw [hsize]; exact Nat.mul_le_mul_right _ (Nat.le_of_lt hi))
  obtain ⟨storage, hcopy, hwrites⟩ := copy_writes b.storage (i * slotLen)
    (i * slotLen + (d.payload.take slotLen).length) (d.payload.take slotLen) rfl
    (by rw [hcopied, hsize]; exact slot_end_le hi _)
  have hprefix := hwrites.written
  simp only [written] at hprefix
  have hbefore : storage.bytes.take (i * slotLen) = b.storage.bytes.take (i * slotLen) := by
    have h := congrArg (List.take (i * slotLen)) hprefix
    rwa [List.take_take, Nat.min_eq_left (Nat.le_add_right _ _), List.take_left' hstart] at h
  refine ⟨_, deliver_eq hw hi hcopy, stored_wired hw i d storage, ⟨?_, ?_, ?_⟩, ?_⟩
  · exact ⟨_, Vector.getElem?_setIfInBounds_self_of_lt hi, rfl⟩
  · exact Vector.getElem?_setIfInBounds_self_of_lt hi
  · rw [← hcopied, stored, hprefix, List.drop_left' hstart]
  · intro j d' hj h
    have hij : i ≠ j := Nat.ne_of_gt hj
    obtain ⟨header, hh, hlen⟩ := h.length
    have hend : j * slotLen + min d'.payload.length slotLen ≤ i * slotLen := slot_end_le hj _
    refine ⟨⟨header, (Vector.getElem?_setIfInBounds_ne hij).trans hh, hlen⟩,
      (Vector.getElem?_setIfInBounds_ne hij).trans h.sender, ?_⟩
    have htake := congrArg (List.take (j * slotLen + min d'.payload.length slotLen)) hbefore
    rw [List.take_take, List.take_take, Nat.min_eq_left hend] at htake
    rw [stored, htake]
    exact h.bytes

theorem deliverFrom_spec {b : ReceiveBatch slots slotLen} (hw : Wired b) {i : Nat}
    {ds : List Datagram} (hi : i + ds.length ≤ slots) :
    ∃ b', deliverFrom b i ds = some b' ∧ Wired b' ∧
      (∀ k d, ds[k]? = some d → Holding b' (i + k) d) ∧
      ∀ j d', j < i → Holding b j d' → Holding b' j d' := by
  induction ds generalizing b i with
  | nil =>
    refine ⟨b, rfl, hw, ?_, fun _ _ _ h => h⟩
    intro k d h
    cases h
  | cons d ds ih =>
    rw [List.length_cons] at hi
    obtain ⟨b₁, hb₁, hw₁, hd, hbefore⟩ := deliver_spec hw (i := i) (by omega) d
    obtain ⟨b', hb', hw', hds, hkeep⟩ := ih hw₁ (i := i + 1) (by omega)
    refine ⟨b', by rw [deliverFrom, hb₁]; exact hb', hw', ?_, ?_⟩
    · intro k d' hk
      cases k with
      | zero =>
        cases hk
        exact hkeep i d (Nat.lt_succ_self i) hd
      | succ k =>
        rw [← Nat.succ_add_eq_add_succ]
        exact hds k d' hk
    · exact fun j d' hj h => hkeep j d' (Nat.lt_succ_of_lt hj) (hbefore j d' hj h)

/-- What the program should learn about a datagram. -/
def shown (slotLen : Nat) (d : Datagram) : Slot × List UInt8 :=
  (⟨min d.payload.length slotLen, d.payload.length, d.senderPortid⟩, d.payload.take slotLen)

theorem datagram_of_holding {b : ReceiveBatch slots slotLen} {i : Nat} {d : Datagram}
    (hs : Sized slots slotLen) (hi : i < slots) (hf : i < b.filled) (h : Holding b i d) :
    datagram b i = some (shown slotLen d) := by
  obtain ⟨header, hh, hlen⟩ := h.length
  have hend : i * slotLen + min d.payload.length slotLen ≤ b.storage.bytes.length := by
    rw [b.storage.size_eq, hs.start_eq (Nat.le_refl slots)]
    exact slot_end_le hi _
  have hslice := slice_of_le (Nat.le_add_right (i * slotLen) _) hend
  rw [h.bytes] at hslice
  simp only [datagram, hf, decide_true, check_true, hh, hlen, h.sender, hs.start_eq (Nat.le_of_lt hi),
    hslice, Option.bind_eq_bind, Option.bind_some, shown]

theorem datagram_of_le {b : ReceiveBatch slots slotLen} {i : Nat} (h : b.filled ≤ i) :
    datagram b i = none := by
  rw [datagram, decide_eq_false (Nat.not_lt.mpr h)]
  rfl

/-- The program sees this list of datagrams in the batch and nothing else. -/
def Exposes (b : ReceiveBatch slots slotLen) (ds : List Datagram) : Prop :=
  ∀ i, datagram b i = ds[i]?.map (shown slotLen)

theorem recvBatch_spec {b : ReceiveBatch slots slotLen} (hw : Wired b) (answer : Answer slots) :
    ∃ result b', recvBatch b answer = some (result, b') ∧ Wired b' ∧ Exposes b' answer.datagrams ∧
      (∀ e, answer = .error e → result = .error e) ∧
      ∀ ds within, answer = .filled ds within → result = .ok ds.length := by
  have hfits : capacityAsCUint slots = some slots := if_pos hw.sized.slots_le
  cases answer with
  | error e =>
    have hcall : recvBatch b (.error e) = some (.error e, { reset b with filled := 0 }) := by
      simp only [recvBatch, hfits, Option.bind_eq_bind, Option.bind_some]
    refine ⟨_, _, hcall, (reset_wired hw).setFilled 0, fun i => ?_, fun _ h => ?_, fun _ _ h => ?_⟩
    · exact datagram_of_le (Nat.zero_le i)
    · cases h
      rfl
    · cases h
  | filled ds within =>
    obtain ⟨b', hb', hw', hds, -⟩ := deliverFrom_spec (reset_wired hw) (i := 0)
      (Nat.le_trans (Nat.le_of_eq (Nat.zero_add _)) within)
    have hcall : recvBatch b (.filled ds within) =
        some (.ok ds.length, { b' with filled := ds.length }) := by
      simp only [recvBatch, hfits, hb', Option.bind_eq_bind, Option.bind_some]
    refine ⟨_, _, hcall, hw'.setFilled ds.length, fun i => ?_, fun _ h => ?_, fun _ _ h => ?_⟩
    · by_cases hi : i < ds.length
      · have hd := hds i _ (List.getElem?_eq_getElem hi)
        rw [Nat.zero_add] at hd
        rw [Answer.datagrams, List.getElem?_eq_getElem hi]
        exact datagram_of_holding hw.sized (Nat.lt_of_lt_of_le hi within) hi
          ⟨hd.length, hd.sender, hd.bytes⟩
      · rw [Answer.datagrams, List.getElem?_eq_none (Nat.not_lt.mp hi)]
        exact datagram_of_le (Nat.not_lt.mp hi)
    · cases h
    · cases h
      rfl

/-- A batch and the calls it has been used for. -/
def receives (slots slotLen : Nat) (answers : List (Answer slots)) :
    Option (ReceiveBatch slots slotLen) := do
  let b ← newBatch slots slotLen
  answers.foldlM (fun b answer => (recvBatch b answer).map Prod.snd) b

theorem newBatch_wired (h : Sized slots slotLen) :
    ∃ b, newBatch slots slotLen = some b ∧ Wired b := by
  have hstorage : mulUsize slots slotLen ≤ isizeMax := by
    rw [h.start_eq (Nat.le_refl slots)]
    exact h.storage_le
  have hslots := h.slots_le
  have hrecords (size : Nat) (hle : size ≤ 64) : slots * size ≤ isizeMax := by
    refine (Nat.mul_le_mul hslots hle).trans ?_
    decide
  simp only [newBatch, h.slots_pos, h.slotLen_pos, hstorage, hrecords sockaddrNlLen (by decide),
    hrecords iovecLen (by decide), hrecords mmsghdrLen (by decide), decide_true, check_true,
    Option.bind_eq_bind, Option.bind_some]
  exact ⟨_, rfl, wireUp_wired h _⟩

theorem receives_wired {b : ReceiveBatch slots slotLen} (hw : Wired b) (answers : List (Answer slots)) :
    ∃ b', answers.foldlM (fun b answer => (recvBatch b answer).map Prod.snd) b = some b' ∧
      Wired b' := by
  induction answers generalizing b with
  | nil => exact ⟨b, rfl, hw⟩
  | cons answer answers ih =>
    obtain ⟨result, b₁, hb₁, hw₁, -⟩ := recvBatch_spec hw answer
    obtain ⟨b', hb', hw'⟩ := ih hw₁
    exact ⟨b', by rw [List.foldlM_cons, hb₁]; exact hb', hw'⟩

/-- However often a batch has been reused and whatever happened to the calls,
no pointer ever leads nowhere, and what can be read from it is exactly what the
last call received: the datagrams in order, cut to the slot, each with its full
length and sender. Nothing is left of earlier calls, and a slot that was not
filled cannot be read. -/
theorem batch_exposes_last_receive (h : Sized slots slotLen)
    (history : List (Answer slots)) (last : Answer slots) :
    ∃ b, receives slots slotLen (history ++ [last]) = some b ∧
      ∀ i, datagram b i = last.datagrams[i]?.map (shown slotLen) := by
  obtain ⟨b₀, hb₀, hw₀⟩ := newBatch_wired h
  obtain ⟨b₁, hb₁, hw₁⟩ := receives_wired hw₀ history
  obtain ⟨result, b₂, hb₂, -, hx, -⟩ := recvBatch_spec hw₁ last
  refine ⟨b₂, ?_, hx⟩
  rw [receives, hb₀, Option.bind_eq_bind, Option.bind_some, List.foldlM_append, hb₁,
    Option.bind_eq_bind, Option.bind_some, List.foldlM_cons, hb₂]
  rfl

/-- A long datagram is cut, and the short one that is read into its slot later
shows nothing of it. -/
theorem batch_exposes_last_receive_sample :
    Sized 2 4 ∧ ∃ b, receives 2 4 [.filled [⟨0, [1, 2, 3, 4, 5, 6]⟩, ⟨7, [8]⟩] (by decide),
        .error .interrupted, .filled [⟨0, [9, 9]⟩] (by decide)] = some b ∧
      datagram b 0 = some (⟨2, 2, 0⟩, [9, 9]) ∧ datagram b 1 = none := by
  have hsized : Sized 2 4 := ⟨by decide, by decide, by decide, by decide⟩
  obtain ⟨b, hb, hx⟩ := batch_exposes_last_receive hsized
    [.filled [⟨0, [1, 2, 3, 4, 5, 6]⟩, ⟨7, [8]⟩] (by decide), .error .interrupted]
    (.filled [⟨0, [9, 9]⟩] (by decide))
  exact ⟨hsized, b, hb, hx 0, hx 1⟩

/-- Without the bounds the storage may be far too small: three slots of more
than six exabytes get two bytes. -/
example : mulUsize 3 6148914691236517206 = 2 := by decide

end NatStream.Worker.Batches
