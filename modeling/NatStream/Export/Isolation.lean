import NatStream.Export.Capacity
import NatStream.Export.Sessions

namespace NatStream.Export.Isolation

open NatStream.Lib.ByteBuffer NatStream.Lib.Time NatStream.Events NatStream.Export.Templates
open NatStream.Export.Encoders NatStream.Export.Resolved NatStream.Export.Layout
open NatStream.Export.Messages NatStream.Export.Capacity NatStream.Export.Sessions

/-- Two encoders that may go on to send the same messages. Their buffers and
everything they remember of earlier messages may differ. -/
structure SameSession (e e' : Encoder) : Prop where
  template : e'.template = e.template
  domain : e'.observationDomainId = e.observationDomainId
  sequenceNumber : e'.sequenceNumber = e.sequenceNumber
  started : e'.started = e.started

/-- All that comes out of an encoder while it builds a message. -/
structure Output where
  answers : List Bool
  bytes : List UInt8
  count : UInt32
  deriving DecidableEq

def send (e : Encoder) (m : Offered) : Option (Encoder × Output) := do
  let e ← beginMessage e m.flag
  let (e, answers) ← offer e m.events
  let (e, bytes, count) ← finalize e m.stamp
  return (e, ⟨answers, bytes, count⟩)

/-- The output as a function of what the two encoders share. -/
def outputOf (t : Template) (sequenceNumber domain : UInt32) (started : Instant) (m : Offered) :
    Output where
  answers := answers (capacity t m.flag) m.events.length
  bytes := messageBytes t m.flag (m.events.take (capacity t m.flag)) sequenceNumber domain started
    m.stamp
  count := UInt32.ofNat (m.events.take (capacity t m.flag)).length

theorem send_eq {e : Encoder} (hu : Usable e.template) (m : Offered) :
    ∃ e', send e m = some (e', outputOf e.template e.sequenceNumber e.observationDomainId e.started m) ∧
      e'.template = e.template ∧ e'.observationDomainId = e.observationDomainId ∧
      e'.sequenceNumber = nextSequence e.template.protocol e.sequenceNumber
        (UInt32.ofNat (m.events.take (capacity e.template m.flag)).length) ∧
      e'.started = e.started := by
  obtain ⟨e₀, e₁, hb, ho, hh, hk⟩ := begin_offer hu m.flag m.events
  obtain ⟨e₂, hf, ht, hs, hd, hst, -⟩ := finalize_kept hu hh m.stamp
  have hcount : e₁.recordCount = UInt32.ofNat (m.events.take (capacity e.template m.flag)).length := by
    rw [← hh.count, UInt32.ofNat_toNat]
  rw [hk.sequenceNumber, hk.domain, hk.started, hcount] at hf
  refine ⟨e₂, ?_, ht, hd.trans hk.domain, ?_, hst.trans hk.started⟩
  · simp only [send, hb, ho, hf, Option.bind_eq_bind, Option.bind_some, Option.pure_def, outputOf]
  · rw [hs, hk.sequenceNumber, hcount]

theorem send_same {e e' : Encoder} (hu : Usable e.template) (h : SameSession e e') (m : Offered) :
    ∃ output next next', send e m = some (next, output) ∧ send e' m = some (next', output) ∧
      next.template = e.template ∧ SameSession next next' := by
  have hu' : Usable e'.template := by
    rw [h.template]
    exact hu
  obtain ⟨next, hs, ht, hd, hq, hst⟩ := send_eq hu m
  obtain ⟨next', hs', ht', hd', hq', hst'⟩ := send_eq hu' m
  rw [h.template, h.domain, h.sequenceNumber, h.started] at hs'
  rw [h.template] at ht'
  rw [h.domain] at hd'
  rw [h.template, h.sequenceNumber] at hq'
  rw [h.started] at hst'
  exact ⟨_, next, next', hs, hs', ht, ht'.trans ht.symm, hd'.trans hd.symm, hq'.trans hq.symm,
    hst'.trans hst.symm⟩

def sendAll (e : Encoder) : List Offered → Option (List Output)
  | [] => some []
  | m :: ms => do
    let (e, output) ← send e m
    let outputs ← sendAll e ms
    return output :: outputs

/-- Two encoders that share a session cannot be told apart by any number of
messages they send. -/
theorem sendAll_same {e e' : Encoder} (hu : Usable e.template) (h : SameSession e e')
    (ms : List Offered) : (sendAll e ms).isSome ∧ sendAll e' ms = sendAll e ms := by
  induction ms generalizing e e' with
  | nil => exact ⟨rfl, rfl⟩
  | cons m ms ih =>
    obtain ⟨output, next, next', hs, hs', ht, hn⟩ := send_same hu h m
    obtain ⟨hsome, hrest⟩ := ih (ht ▸ hu) hn
    obtain ⟨outputs, ho⟩ := Option.isSome_iff_exists.mp hsome
    simp [sendAll, hs, hs', hrest, ho]

/-- Nothing of an earlier message gets into a later one: encoders that share a
session give the same output, and share the session afterwards. -/
theorem output_independent_of_history {p : Protocol} {profile : Profile} {w : CounterWidth}
    {id : UInt16} {e e' : Encoder} (hr : resolve p profile w id = .ok e.template)
    (h : SameSession e e') (m : Offered) :
    ∃ output next next', send e m = some (next, output) ∧ send e' m = some (next', output) ∧
      SameSession next next' := by
  obtain ⟨output, next, next', hs, hs', -, hn⟩ := send_same (resolve_usable hr) h m
  exact ⟨output, next, next', hs, hs', hn⟩

def freshEncoder : Encoder :=
  newEncoder 7 ⟨resolvedFields .netflow9 .flowOnly .four, 29, 256, .netflow9, .flowOnly, .four⟩ 0

/-- The same session in an encoder that is full of something else. -/
def usedEncoder : Encoder :=
  { freshEncoder with
    buf := ⟨List.replicate maxMsgSize 0xAA, List.length_replicate⟩
    offset := 3000
    recordCount := 5
    dataSetOffset := 9
    dataSetOpen := true
    templateIncluded := true
    saturatedCounters := 11 }

/-- More events than a message takes, each with a count its field cannot hold. -/
def sampleOffer : Offered where
  flag := false
  events := List.replicate 51 ⟨.create, 6, unspecified, unspecified, 1, 2, unspecified, 3, unspecified,
    4, 1099511627776, 1, 1, 1⟩
  stamp := ⟨1000, 5000000⟩

theorem output_independent_of_history_sample :
    freshEncoder.buf ≠ usedEncoder.buf ∧
      ∃ output next next', send freshEncoder sampleOffer = some (next, output) ∧
        send usedEncoder sampleOffer = some (next', output) ∧ SameSession next next' := by
  have hr : resolve .netflow9 .flowOnly .four 256 = .ok freshEncoder.template := by decide +kernel
  have hs : SameSession freshEncoder usedEncoder := ⟨rfl, rfl, rfl, rfl⟩
  exact ⟨by decide +kernel, output_independent_of_history (e := freshEncoder) hr hs sampleOffer⟩

end NatStream.Export.Isolation
