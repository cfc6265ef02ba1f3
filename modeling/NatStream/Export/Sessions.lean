import NatStream.Export.Messages

namespace NatStream.Export.Sessions

open NatStream.Lib.Bytes NatStream.Lib.ByteBuffer NatStream.Lib.Time
open NatStream.Events NatStream.Export.Templates NatStream.Export.Records
open NatStream.Export.Encoders NatStream.Export.Resolved NatStream.Export.Layout
open NatStream.Export.Filling NatStream.Export.Messages

/-- Where an encoder is in its cycle, with the records the current message
has accepted so far. -/
inductive Phase where
  | idle
  | filling (flag : Bool) (events : List ConntrackEvent)
  | finalized (flag : Bool) (events : List ConntrackEvent)

/-- Every state a new encoder reaches through any sequence of calls. -/
inductive Reaches (t : Template) (domain : UInt32) (started : Instant) : Encoder → Phase → Prop where
  | new : Reaches t domain started (newEncoder domain t started) .idle
  | begin {e e' : Encoder} {phase : Phase} {flag : Bool} :
      Reaches t domain started e phase → beginMessage e flag = some e' →
      Reaches t domain started e' (.filling flag [])
  | accept {e e' : Encoder} {flag : Bool} {events : List ConntrackEvent} {event : ConntrackEvent} :
      Reaches t domain started e (.filling flag events) → addRecord e event = some (e', true) →
      Reaches t domain started e' (.filling flag (events ++ [event]))
  | refuse {e e' : Encoder} {flag : Bool} {events : List ConntrackEvent} {event : ConntrackEvent} :
      Reaches t domain started e (.filling flag events) → addRecord e event = some (e', false) →
      Reaches t domain started e' (.filling flag events)
  | finalize {e e' : Encoder} {flag : Bool} {events : List ConntrackEvent} {stamp : Stamp}
      {bytes : List UInt8} {count : UInt32} :
      Reaches t domain started e (.filling flag events) →
      finalize e stamp = some (e', bytes, count) →
      Reaches t domain started e' (.finalized flag events)

/-- A finalized message, still in the buffer it was built in. -/
structure Closed (e : Encoder) (t : Template) (flag : Bool) (events : List ConntrackEvent) : Prop where
  template : e.template = t
  count : e.recordCount.toNat = events.length
  isOpen : e.dataSetOpen = !events.isEmpty
  offset : e.offset = closedLen t flag events.length
  fits : e.offset ≤ maxMsgSize
  body : ∃ header, header.length = headerLen t.protocol ∧
    written (cursor e) = header ++ (templatePart t flag ++ dataPart t events)

def Tracks (t : Template) (e : Encoder) : Phase → Prop
  | .idle => e.template = t
  | .filling flag events => Holds e t flag events
  | .finalized flag events => Closed e t flag events

theorem tracks_template {t : Template} {e : Encoder} {phase : Phase} (h : Tracks t e phase) :
    e.template = t := by
  cases phase with
  | idle => exact h
  | filling flag events => exact Holds.template h
  | finalized flag events => exact Closed.template h

theorem addRecord_cases {e : Encoder} {t : Template} {flag : Bool} {events : List ConntrackEvent}
    (hu : Usable t) (h : Holds e t flag events) (event : ConntrackEvent) :
    addRecord e event = some (e, false) ∨
      ∃ e', addRecord e event = some (e', true) ∧ Holds e' t flag (events ++ [event]) ∧ Kept e e' := by
  by_cases hr : hasRoom t flag events.length
  · obtain ⟨e', he, hh, hk, -⟩ := addRecord_room hu h event hr
    exact Or.inr ⟨e', he, hh, hk⟩
  · exact Or.inl (addRecord_full h event hr)

theorem finalize_closed {e e' : Encoder} {t : Template} {flag : Bool} {events : List ConntrackEvent}
    {stamp : Stamp} {bytes : List UInt8} {count : UInt32}
    (hu : Usable t) (h : Holds e t flag events) (hf : finalize e stamp = some (e', bytes, count)) :
    Closed e' t flag events := by
  obtain ⟨b, hb, hm⟩ := finalize_spec hu h stamp
  rw [hb] at hf
  cases hf
  exact ⟨h.template, h.count, h.isOpen, rfl, closedLen_le h, _,
    length_headerBytes t flag events.length _ _ _ _, hm⟩

theorem reaches_tracks {t : Template} {domain : UInt32} {started : Instant} {e : Encoder}
    {phase : Phase} (hu : Usable t) (h : Reaches t domain started e phase) : Tracks t e phase := by
  induction h with
  | new => rfl
  | @begin e e' phase flag _ hb ih =>
    obtain rfl := tracks_template ih
    obtain ⟨e'', he, hh, -, -⟩ := beginMessage_holds hu flag
    rw [he] at hb
    cases hb
    exact hh
  | @accept e e' flag events event _ ha ih =>
    obtain hr | ⟨e'', hr, hh, -⟩ := addRecord_cases hu ih event
    · rw [hr] at ha
      cases ha
    · rw [hr] at ha
      cases ha
      exact hh
  | @refuse e e' flag events event _ ha ih =>
    obtain hr | ⟨e'', hr, hh, -⟩ := addRecord_cases hu ih event
    · rw [hr] at ha
      cases ha
      exact ih
    · rw [hr] at ha
      cases ha
  | finalize _ hf ih => exact finalize_closed hu ih hf

/-- A message to build: whether it carries the template, the events offered
to it and the clocks it is finalized under. -/
structure Offered where
  flag : Bool
  events : List ConntrackEvent
  stamp : Stamp

/-- A finalized message with what went into it. The sequence number is the
encoder's own, read just before it finalizes. -/
structure Built where
  bytes : List UInt8
  sequenceNumber : UInt32
  flag : Bool
  accepted : List ConntrackEvent
  stamp : Stamp
  deriving DecidableEq

end NatStream.Export.Sessions
