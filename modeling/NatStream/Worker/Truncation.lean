import NatStream.Netlink.Totality
import NatStream.Worker.EventLoop

namespace NatStream.Worker.Truncation

open NatStream.Lib.Bytes NatStream.Lib.Slice NatStream.Lib.Frames NatStream.Lib.Trails
open NatStream.Events NatStream.Netlink.Parsers NatStream.Netlink.Datagrams
open NatStream.Netlink.Totality NatStream.Worker.EventLoop

/-- Where the message at `offset` ends, by its own length field. -/
def messageEnd (en : Endian) (buf : List UInt8) (offset : Nat) : Option Nat := do
  let nlmsgLen ← readU32 en (← sliceFrom buf offset)
  return offset + nlmsgLen.toNat

/-- The messages the parser walks over, each with its offset and with what it
reports. -/
def walk (en : Endian) (buf : List UInt8) : List (Nat × Option ConntrackEvent) :=
  trail (messageWalker en buf) 0

/-- Those of them that end at or before `k`. -/
def wholeBy (en : Endian) (buf : List UInt8) (k : Nat) : List (Nat × Option ConntrackEvent) :=
  (walk en buf).filter fun m => (messageEnd en buf m.1).any (· ≤ k)

theorem messageEnd_of_mem {en : Endian} {buf : List UInt8} {m : Nat × Option ConntrackEvent}
    (h : m ∈ walk en buf) : messageEnd en buf m.1 = some (endOf (messageFormat en) buf m.1) := by
  obtain ⟨frame, rest, hc, -⟩ :=
    cut_of_mem_trail (messageWalker_follows en buf) (Nat.dvd_zero _) h
  obtain ⟨hmin, hle, -, -, -⟩ := cut_eq_some hc
  have hlen : 4 ≤ (buf.drop m.1).length := by
    have h20 : 20 ≤ frame.length := hmin
    omega
  have hin : m.1 ≤ buf.length := by
    rw [List.length_drop] at hlen
    omega
  have hmod : neNat en ((buf.drop m.1).take 4) % 2 ^ 32 = neNat en ((buf.drop m.1).take 4) :=
    Nat.mod_eq_of_lt (neNat_take_lt en 4 _)
  have hhead : ((buf.drop m.1).take nlmsgHdrlen).take 4 = (buf.drop m.1).take 4 := by
    rw [List.take_take]
    rfl
  simp only [messageEnd, sliceFrom_of_le hin, readU32_of_le hlen, Option.bind_eq_bind,
    Option.bind_some, Option.pure_def, UInt32.toNat_ofNat', hmod, endOf, messageFormat, hhead]

theorem wholeBy_eq (en : Endian) (buf : List UInt8) (k : Nat) :
    wholeBy en buf k =
      (walk en buf).takeWhile fun m => endOf (messageFormat en) buf m.1 ≤ k := by
  rw [walk, takeWhile_trail (messageWalker_follows en buf) k (Nat.dvd_zero _)]
  apply List.filter_congr
  intro m hm
  rw [messageEnd_of_mem hm, Option.any_some]

theorem walk_take (en : Endian) (buf : List UInt8) (k : Nat) :
    walk en (buf.take k) = wholeBy en buf k := by
  rw [wholeBy_eq]
  exact trail_take (messageWalker_follows en buf) (messageWalker_follows en (buf.take k))
    (Nat.dvd_zero _)

theorem collected_eq_walk (en : Endian) (buf : List UInt8) :
    collected en buf = some ((walk en buf).filterMap Prod.snd) := by
  rw [collected_eq, events_eq_trail, walk]

/-- Cutting a buffer short leaves the reports of the messages that are still
whole, a prefix of all of them. A datagram that overflows its receive slot is
such a buffer. -/
theorem truncation_keeps_whole_messages (en : Endian) (buf : List UInt8) (k : Nat) :
    collected en buf = some ((walk en buf).filterMap Prod.snd) ∧
    collected en (buf.take k) = some ((wholeBy en buf k).filterMap Prod.snd) ∧
    (wholeBy en buf k).filterMap Prod.snd <+: (walk en buf).filterMap Prod.snd ∧
    ∀ senderPortid, collected en (kept ⟨senderPortid, buf⟩) =
      some ((wholeBy en buf recvSlotSize).filterMap Prod.snd) := by
  refine ⟨collected_eq_walk en buf, ?_, ?_, ?_⟩
  · rw [collected_eq_walk, walk_take]
  · rw [wholeBy_eq]
    exact (List.takeWhile_prefix _).filterMap _
  · intro senderPortid
    rw [kept, collected_eq_walk, walk_take]

end NatStream.Worker.Truncation
