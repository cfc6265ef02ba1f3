import NatStream.Netlink.BuildParse

namespace NatStream.Netlink.Streams

open NatStream.Lib.Bytes NatStream.Lib.Frames NatStream.Events NatStream.Netlink.Parsers
open NatStream.Netlink.Datagrams NatStream.Netlink.Builders NatStream.Netlink.BuildParse

variable {en : Endian}

/-- Framing as netlink defines it: a message may be as short as its header. -/
def netlinkFormat (en : Endian) : Format :=
  { messageFormat en with
    minLen := nlmsgHdrlen
    headerLen_le := Nat.le_refl _
    minLen_pos := Nat.succ_pos _ }

/-- A well-framed message of any type, with the padding that follows it. -/
structure Message (en : Endian) where
  frame : List UInt8
  padding : List UInt8
  wellFramed : WellFramed (netlinkFormat en) frame
  padded : frame.length + padding.length = nlaAlign frame.length

def Message.bytes (m : Message en) : List UInt8 := m.frame ++ m.padding

def concat (ms : List (Message en)) : List UInt8 := ms.flatMap Message.bytes

/-- Long enough for the header every conntrack message has. -/
def Message.Long (m : Message en) : Prop := nlmsgHdrlen + nfgenmsgLen ≤ m.frame.length

instance (m : Message en) : Decidable m.Long := inferInstanceAs (Decidable (_ ≤ _))

theorem events_of_long {m : Message en} (h : m.Long) (rest : List UInt8) :
    events en (m.bytes ++ rest) = (reportOf en m.frame).toList ++ events en rest := by
  have hw : WellFramed (messageFormat en) m.frame := ⟨h, m.wellFramed.lengthOf_eq⟩
  rw [events, Message.bytes, frames_append hw m.padded, List.filterMap_cons, events]
  cases reportOf en m.frame <;> rfl

theorem events_of_short {m : Message en} (h : ¬ m.Long) (rest : List UInt8) :
    events en (m.bytes ++ rest) = [] := by
  have hmin : 16 ≤ m.frame.length := m.wellFramed.minLen_le
  have hhead : (m.bytes ++ rest).take nlmsgHdrlen = m.frame.take nlmsgHdrlen := by
    rw [Message.bytes, List.append_assoc, List.take_append_of_le_length (by exact hmin)]
  have hlen : (messageFormat en).lengthOf ((m.bytes ++ rest).take (messageFormat en).headerLen) =
      m.frame.length := by
    change neNat en (((m.bytes ++ rest).take nlmsgHdrlen).take 4) = _
    rw [hhead]
    exact m.wellFramed.lengthOf_eq
  have hcut : cut (messageFormat en) (m.bytes ++ rest) = none := by
    cases hc : cut (messageFormat en) (m.bytes ++ rest) with
    | none => rfl
    | some p =>
      obtain ⟨frame, rest'⟩ := p
      obtain ⟨hle, -, hl, -, -⟩ := cut_eq_some hc
      rw [hlen] at hl
      rw [← hl] at hle
      exact absurd hle h
  rw [events, frames_of_none hcut, List.filterMap_nil]

theorem concat_cons (m : Message en) (ms : List (Message en)) :
    concat (m :: ms) = m.bytes ++ concat ms := List.flatMap_cons

theorem events_bytes (m : Message en) : events en m.bytes =
    if m.Long then (reportOf en m.frame).toList else [] := by
  have hempty : events en [] = [] := by rw [events, frames_nil, List.filterMap_nil]
  split
  · rename_i h
    have hl := events_of_long h []
    rwa [List.append_nil, hempty, List.append_nil] at hl
  · rename_i h
    have hs := events_of_short h []
    rwa [List.append_nil] at hs

/-- Long messages hide nothing. -/
theorem events_concat_of_long {ms : List (Message en)} (h : ∀ m ∈ ms, m.Long) (rest : List UInt8) :
    events en (concat ms ++ rest) = events en (concat ms) ++ events en rest := by
  induction ms with
  | nil => simp [concat, events, frames_nil]
  | cons m ms ih =>
    have hm := h m (List.mem_cons_self ..)
    rw [concat_cons, List.append_assoc, events_of_long hm, events_of_long hm,
      ih fun m' hm' => h m' (List.mem_cons_of_mem _ hm'), List.append_assoc]

/-- A short message hides everything that follows it. -/
theorem events_concat_of_short {ms : List (Message en)} (h : ¬ ∀ m ∈ ms, m.Long)
    (rest : List UInt8) : events en (concat ms ++ rest) = events en (concat ms) := by
  induction ms with
  | nil => exact absurd (fun _ hm => by cases hm) h
  | cons m ms ih =>
    rw [concat_cons, List.append_assoc]
    by_cases hm : m.Long
    · have hms : ¬ ∀ m' ∈ ms, m'.Long := by
        intro hall
        apply h
        intro m' hm'
        obtain rfl | hin := List.mem_cons.mp hm'
        · exact hm
        · exact hall m' hin
      rw [events_of_long hm, events_of_long hm, ih hms]
    · rw [events_of_short hm, events_of_short hm]

def stream (a : List (Message en)) (m : Message en) (b : List UInt8) : List UInt8 :=
  concat a ++ m.bytes ++ b

/-- The reports for the parts of a stream, one after the other. -/
def partReports (a : List (Message en)) (m : Message en) (b : List UInt8) :
    Option (List ConntrackEvent) := do
  return (← collected en (concat a)) ++ (← collected en m.bytes) ++ (← collected en b)

/-- A short message does no harm only where nothing after it is reported. -/
theorem reports_parts_iff_silent (a : List (Message en)) (m : Message en) (b : List UInt8) :
    collected en (stream a m b) = partReports a m b ↔
      ((∀ x ∈ a, x.Long) ∨ collected en m.bytes = some [] ∧ collected en b = some []) ∧
        (m.Long ∨ collected en b = some []) := by
  simp only [partReports, collected_eq, Option.bind_eq_bind, Option.bind_some, Option.pure_def,
    Option.some.injEq]
  rw [stream, List.append_assoc, List.append_assoc]
  by_cases ha : ∀ x ∈ a, x.Long
  · rw [events_concat_of_long ha, List.append_cancel_left_eq, events_bytes]
    by_cases hm : m.Long
    · rw [events_of_long hm, if_pos hm]
      exact ⟨fun _ => ⟨Or.inl ha, Or.inl hm⟩, fun _ => rfl⟩
    · rw [events_of_short hm, if_neg hm, List.nil_append]
      constructor
      · intro hb
        exact ⟨Or.inl ha, Or.inr hb.symm⟩
      · rintro ⟨-, hlong | hb⟩
        · exact absurd hlong hm
        · exact hb.symm
  · rw [events_concat_of_short ha, List.self_eq_append_right, List.append_eq_nil_iff]
    constructor
    · intro hnil
      exact ⟨Or.inr hnil, Or.inr hnil.2⟩
    · rintro ⟨hlong | hnil, -⟩
      · exact absurd hlong ha
      · exact hnil

def natMessage (en : Endian) : Option (List UInt8) :=
  sessionMessage en { snatSession with
    origCounters := none
    replyCounters := none }

theorem natMessage_reported (en : Endian) : collected en ((natMessage en).getD []) ≠ some [] := by
  cases en <;> decide +kernel

/-- Whatever follows, the parser reports for a stream what it reports for its
parts: this holds exactly when no message is shorter than a conntrack header. -/
theorem stream_reports_parts_iff (en : Endian) (a : List (Message en)) (m : Message en) :
    (∀ b, collected en (stream a m b) = partReports a m b) ↔ (∀ x ∈ a, x.Long) ∧ m.Long := by
  constructor
  · intro h
    have hb := natMessage_reported en
    obtain ⟨ha, hm⟩ := (reports_parts_iff_silent a m _).mp (h ((natMessage en).getD []))
    exact ⟨ha.resolve_right fun hsilent => hb hsilent.2, hm.resolve_right hb⟩
  · rintro ⟨ha, hm⟩ b
    exact (reports_parts_iff_silent a m b).mpr ⟨Or.inl ha, Or.inl hm⟩

/-- The header of a message of type `NLMSG_NOOP`, which is the whole message. -/
def noop : Message .little where
  frame := neBytes .little 4 16 ++ neBytes .little 2 1 ++ List.replicate 10 0
  padding := []
  wellFramed := ⟨by decide, by decide⟩
  padded := by decide

theorem noop_hides_event :
    collected .little (stream [] noop ((natMessage .little).getD [])) = some [] ∧
      (partReports [] noop ((natMessage .little).getD [])).any (fun found => found.length = 1) = true ∧
      collected .little (stream [] noop ((natMessage .little).getD [])) ≠
        partReports [] noop ((natMessage .little).getD []) := by
  decide +kernel

end NatStream.Netlink.Streams
