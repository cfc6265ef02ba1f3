import NatStream.Lib.Trails
import NatStream.Netlink.Datagrams

namespace NatStream.Netlink.Totality

open NatStream.Lib.Bytes NatStream.Lib.Frames NatStream.Lib.Trails NatStream.Events
open NatStream.Netlink.Parsers NatStream.Netlink.Attributes NatStream.Netlink.Reference
open NatStream.Netlink.Datagrams

variable {α : Type}

/-- No iteration of a loop over `data` reads out of bounds, wherever it
starts. One that goes on does so from a later aligned position, at most three
bytes beyond the end, so no sum of positions and lengths leaves 64 bits. -/
def Progresses (data : List UInt8) (w : Walker α) : Prop :=
  ∀ o, ∃ outcome, w.next o = some outcome ∧ ∀ a o', outcome = some (a, o') →
    o < o' ∧ nlaAlignto ∣ o' ∧ o' < data.length + nlaAlignto

theorem nlaAlign_lt (len : Nat) : nlaAlign len < len + nlaAlignto := by
  simp only [nlaAlign, roundUp, nlaAlignto]
  omega

theorem nlaWalker_progresses (en : Endian) (data : List UInt8) :
    Progresses data (nlaWalker en data) := by
  intro o
  change ∃ outcome, nextNla en data o = some outcome ∧ _
  by_cases hh : o + nlaHdrlen ≤ data.length
  · rw [nextNla_of_le hh]
    split
    · exact ⟨none, rfl, fun _ _ h => by cases h⟩
    · rename_i hl
      refine ⟨_, rfl, ?_⟩
      intro a o' h
      cases h
      have hlt := nlaAlign_lt (o + neNat en ((data.drop o).take 2))
      exact ⟨lt_nlaAlign (by omega), dvd_roundUp _ _, by omega⟩
  · rw [nextNla, if_neg hh]
    exact ⟨none, rfl, fun _ _ h => by cases h⟩

theorem messageWalker_progresses (en : Endian) (buf : List UInt8) :
    Progresses buf (messageWalker en buf) := by
  intro o
  change ∃ outcome, nextMessage en buf o = some outcome ∧ _
  by_cases hh : o + nlmsgHdrlen ≤ buf.length
  · rw [nextMessage_of_le hh]
    split
    · exact ⟨none, rfl, fun _ _ h => by cases h⟩
    · rename_i hl
      refine ⟨_, rfl, ?_⟩
      intro a o' h
      cases h
      have hlt := nlaAlign_lt (o + neNat en ((buf.drop o).take 4))
      have hmin : nlaHdrlen ≤ nlmsgHdrlen + nfgenmsgLen := by decide
      exact ⟨lt_nlaAlign (by omega), dvd_roundUp _ _, by omega⟩
  · rw [nextMessage, if_neg hh]
    exact ⟨none, rfl, fun _ _ h => by cases h⟩

theorem length_trail_nla (en : Endian) (data : List UInt8) :
    (trail (nlaWalker en data) 0).length ≤ data.length / 4 := by
  have hle : 4 * _ ≤ data.length := length_trail_le (nlaWalker_follows en data)
  omega

theorem length_trail_messages (en : Endian) (buf : List UInt8) :
    (trail (messageWalker en buf) 0).length ≤ buf.length / 20 := by
  have hle : 20 * _ ≤ buf.length := length_trail_le (messageWalker_follows en buf)
  omega

/-- The events are what the message loop yields on its way. -/
theorem events_eq_trail (en : Endian) (buf : List UInt8) :
    events en buf = (trail (messageWalker en buf) 0).filterMap Prod.snd := by
  have hmap := map_snd_trail (messageWalker_follows en buf) (Nat.dvd_zero _)
  rw [List.drop_zero] at hmap
  have hid := congrArg (List.filterMap id) hmap
  rwa [List.filterMap_map, List.filterMap_map, Function.id_comp, Function.id_comp, eq_comm] at hid

theorem length_events_le (en : Endian) (buf : List UInt8) :
    (events en buf).length ≤ buf.length / 20 := by
  rw [events_eq_trail]
  exact (List.length_filterMap_le _ _).trans (length_trail_messages en buf)

/-- Whatever the bytes are, no function of the parser fails, every round of
its loops makes progress, and so each loop ends after a bounded number of them.
The only thing that can stop the parser early is a callback that fails. -/
theorem parser_total (en : Endian) (data : List UInt8) :
    Progresses data (messageWalker en data) ∧ Progresses data (nlaWalker en data) ∧
    (trail (messageWalker en data) 0).length ≤ data.length / 20 ∧
    (trail (nlaWalker en data) 0).length ≤ data.length / 4 ∧
    (∀ t, (parseTupleIp en data t).isSome ∧ (parseTupleProto en data t).isSome ∧
      (parseTuple en data t).isSome) ∧
    (∀ c, (parseCounters en data c).isSome) ∧
    (∀ natEvent, (parseNlaTree en natEvent data).isSome) ∧
    ∃ reports : List ConntrackEvent, reports.length ≤ data.length / 20 ∧
      ∀ (σ : Type) (callback : σ → ConntrackEvent → Option σ) (s : σ),
        parseConntrackMessages en data callback s = reports.foldlM callback s := by
  refine ⟨messageWalker_progresses en data, nlaWalker_progresses en data,
    length_trail_messages en data, length_trail_nla en data, ?_, ?_, ?_, events en data,
    length_events_le en data, ?_⟩
  · intro t
    rw [parseTupleIp_eq, parseTupleProto_eq, parseTuple_eq]
    exact ⟨rfl, rfl, rfl⟩
  · intro c
    rw [parseCounters_eq]
    rfl
  · intro natEvent
    rw [parseNlaTree_eq]
    rfl
  · intro σ callback s
    exact parseConntrackMessages_eq en data callback s

end NatStream.Netlink.Totality
