import NatStream.Export.Filling

namespace NatStream.Export.Messages

open NatStream.Lib.Bytes NatStream.Lib.Slice NatStream.Lib.ByteBuffer NatStream.Lib.Time
open NatStream.Events NatStream.Export.Templates NatStream.Export.Records
open NatStream.Export.Encoders NatStream.Export.Resolved NatStream.Export.Layout
open NatStream.Export.Filling

def closedLen (t : Template) (flag : Bool) (count : Nat) : Nat :=
  baseLen t flag + if count = 0 then 0 else dataSetSize t count

/-- The data set as a collector sees it: the length field covers the padding. -/
def dataPart (t : Template) (events : List ConntrackEvent) : List UInt8 :=
  if events = [] then []
  else beBytes 2 t.templateId.toNat ++ beBytes 2 (dataSetSize t events.length) ++
    records t events ++
      zeros (dataSetSize t events.length - (setHeaderLen + events.length * t.recordSize))

def headerBytes (t : Template) (flag : Bool) (count : Nat) (sequenceNumber domain : UInt32)
    (started : Instant) (stamp : Stamp) : List UInt8 :=
  match t.protocol with
  | .ipfix =>
    beBytes 2 ipfixVersion.toNat ++ beBytes 2 (closedLen t flag count) ++
      beBytes 4 (unixSecs stamp).toNat ++ beBytes 4 sequenceNumber.toNat ++ beBytes 4 domain.toNat
  | .netflow9 =>
    beBytes 2 netflow9Version.toNat ++ beBytes 2 (count + flag.toNat) ++
      beBytes 4 (uptimeMs started stamp).toNat ++ beBytes 4 (unixSecs stamp).toNat ++
      beBytes 4 sequenceNumber.toNat ++ beBytes 4 domain.toNat

/-- A whole message, as a function of what it carries and of the encoder's
identity. No byte of it depends on what the buffer held before. -/
def messageBytes (t : Template) (flag : Bool) (events : List ConntrackEvent)
    (sequenceNumber domain : UInt32) (started : Instant) (stamp : Stamp) : List UInt8 :=
  headerBytes t flag events.length sequenceNumber domain started stamp ++
    (templatePart t flag ++ dataPart t events)

def nextSequence (p : Protocol) (sequenceNumber count : UInt32) : UInt32 :=
  match p with
  | .ipfix => sequenceNumber + count
  | .netflow9 => sequenceNumber + 1

theorem openLen_le_dataSetSize (t : Template) (count : Nat) :
    setHeaderLen + count * t.recordSize ≤ dataSetSize t count :=
  le_alignUp _ (setAlignment_pos _)

theorem dataSetSize_lt (t : Template) (count : Nat) :
    dataSetSize t count < setHeaderLen + count * t.recordSize + setAlignment t.protocol :=
  alignUp_lt _ (setAlignment_pos _)

theorem setAlignment_dvd_baseLen (t : Template) (flag : Bool) :
    setAlignment t.protocol ∣ baseLen t flag := by
  apply Nat.dvd_add (setAlignment_dvd_headerLen _)
  cases flag with
  | false => exact Nat.dvd_zero _
  | true => exact dvd_alignUp _ _

theorem length_dataPart {t : Template} (h : Usable t) (events : List ConntrackEvent) :
    (dataPart t events).length = if events.length = 0 then 0 else dataSetSize t events.length := by
  by_cases he : events = []
  · simp [dataPart, he]
  · have hl : events.length ≠ 0 := fun h0 => he (List.length_eq_zero_iff.mp h0)
    have hle := openLen_le_dataSetSize t events.length
    simp only [dataPart, if_neg he, if_neg hl, List.length_append, length_beBytes,
      length_records h, length_zeros, setHeaderLen] at hle ⊢
    omega

theorem length_headerBytes (t : Template) (flag : Bool) (count : Nat) (sequenceNumber domain : UInt32)
    (started : Instant) (stamp : Stamp) :
    (headerBytes t flag count sequenceNumber domain started stamp).length = headerLen t.protocol := by
  cases hp : t.protocol <;>
    simp [headerBytes, hp, headerLen, ipfixHeaderLen, netflow9HeaderLen]

theorem length_messageBytes {t : Template} (h : Usable t) (flag : Bool) (events : List ConntrackEvent)
    (sequenceNumber domain : UInt32) (started : Instant) (stamp : Stamp) :
    (messageBytes t flag events sequenceNumber domain started stamp).length =
      closedLen t flag events.length := by
  simp only [messageBytes, List.length_append, length_headerBytes, length_templatePart,
    length_dataPart h, closedLen, baseLen, Nat.add_assoc]

theorem drop_messageBytes (t : Template) (flag : Bool) (events : List ConntrackEvent)
    (sequenceNumber domain : UInt32) (started : Instant) (stamp : Stamp) :
    (messageBytes t flag events sequenceNumber domain started stamp).drop (headerLen t.protocol) =
      templatePart t flag ++ dataPart t events :=
  List.drop_left' (length_headerBytes t flag events.length sequenceNumber domain started stamp)

/-- A data set cannot be taken for the template: their numbers differ. -/
theorem templateSet_isPrefixOf {t : Template} (h : Usable t) (flag : Bool)
    (events : List ConntrackEvent) :
    (templateSet t).isPrefixOf (templatePart t flag ++ dataPart t events) = flag := by
  cases flag with
  | true =>
    rw [templatePart, if_pos rfl, List.isPrefixOf_iff_prefix]
    exact List.prefix_append _ _
  | false =>
    rw [templatePart, if_neg Bool.false_ne_true, List.nil_append, Bool.eq_false_iff, ne_eq,
      List.isPrefixOf_iff_prefix]
    rintro ⟨rest, hrest⟩
    simp only [templateSet, templateRecord, dataPart, List.append_assoc] at hrest
    by_cases he : events = []
    · rw [if_pos he] at hrest
      cases hrest
    · rw [if_neg he] at hrest
      have hid : beBytes 2 (templateSetId t.protocol).toNat = beBytes 2 t.templateId.toNat := by
        have htake := congrArg (List.take 2) hrest
        simpa only [List.append_assoc, List.take_left' (length_beBytes 2 _)] using htake
      have hnum := congrArg beNat hid
      rw [beNat_beBytes (templateSetId t.protocol).toNat_lt, beNat_beBytes t.templateId.toNat_lt]
        at hnum
      have hge := h.templateId_ge
      have hsmall : (templateSetId t.protocol).toNat < 256 := by cases t.protocol <;> decide
      omega

theorem closedLen_le {e : Encoder} {t : Template} {flag : Bool} {events : List ConntrackEvent}
    (h : Holds e t flag events) : closedLen t flag events.length ≤ maxMsgSize := by
  have hr := h.room
  rw [h.offset] at hr
  rw [closedLen]
  cases events with
  | nil => simpa [openLen] using Nat.le_trans (Nat.le_add_right _ _) hr
  | cons event events =>
    have hd := dataSetSize_lt t (events.length + 1)
    simp only [List.length_cons, openLen, Nat.add_one_ne_zero, if_false] at hr ⊢
    omega

theorem padSet_spec {e : Encoder} {t : Template} {flag : Bool} {events : List ConntrackEvent}
    (h : Holds e t flag events) (hne : events ≠ []) :
    ∃ b, padSet e = some { e with buf := b, offset := closedLen t flag events.length } ∧
      b.bytes.take (closedLen t flag events.length) = written (cursor e) ++
        zeros (dataSetSize t events.length - (setHeaderLen + events.length * t.recordSize)) := by
  have hlen : events.length ≠ 0 := fun h0 => hne (List.length_eq_zero_iff.mp h0)
  have hmax := closedLen_le h
  have hsize := openLen_le_dataSetSize t events.length
  have ho : e.offset = baseLen t flag + (setHeaderLen + events.length * t.recordSize) := by
    rw [h.offset, openLen, if_neg hlen]
  have hclosed : closedLen t flag events.length = baseLen t flag + dataSetSize t events.length := by
    rw [closedLen, if_neg hlen]
  have halign : alignUp e.offset (setAlignment e.template.protocol) = closedLen t flag events.length := by
    rw [ho, h.template, alignUp_add _ (setAlignment_pos _) (setAlignment_dvd_baseLen t flag),
      ← dataSetSize, hclosed]
  have hpad : alignUp e.offset (setAlignment e.template.protocol) - e.offset =
      dataSetSize t events.length - (setHeaderLen + events.length * t.recordSize) := by
    rw [halign, hclosed, ho, Nat.add_sub_add_left]
  obtain ⟨c, hc, hw⟩ := put_writes (c := cursor e)
    (zeros (alignUp e.offset (setAlignment e.template.protocol) - e.offset))
    (by simp only [length_zeros, cursor]; omega)
  have hco : c.offset = closedLen t flag events.length := by
    have h1 : c.offset = e.offset + _ := hw.offset
    rw [length_zeros, halign] at h1
    omega
  refine ⟨c.buf, ?_, ?_⟩
  · rw [padSet_eq c hc, moved, hco]
  · rw [← hpad, ← hw.written, written, hco]

/-- Closing the data set pads it and patches its length; the header area is
left for later. -/
theorem closeDataSet_spec {e : Encoder} {t : Template} {flag : Bool} {events : List ConntrackEvent}
    (h : Holds e t flag events) :
    ∃ b header, closeDataSet e = some { e with buf := b, offset := closedLen t flag events.length } ∧
      header.length = headerLen t.protocol ∧
      b.bytes.take (closedLen t flag events.length) =
        header ++ (templatePart t flag ++ dataPart t events) := by
  obtain ⟨header, hl, hb⟩ := h.body
  have hmax := closedLen_le h
  by_cases hne : events = []
  · subst hne
    have hopen : e.dataSetOpen = false := h.isOpen
    have ho : e.offset = closedLen t flag 0 := h.offset
    refine ⟨e.buf, header, ?_, hl, ?_⟩
    · simp only [closeDataSet, hopen, Bool.false_eq_true, if_false, List.length_nil, ← ho]
      rw [← hopen]
    · rw [List.length_nil, ← ho]
      exact hb
  · have hopen : e.dataSetOpen = true := by
      rw [h.isOpen]
      simp [hne]
    have hlen : events.length ≠ 0 := fun h0 => hne (List.length_eq_zero_iff.mp h0)
    have hstart := h.start hne
    have hclosed : closedLen t flag events.length = baseLen t flag + dataSetSize t events.length := by
      rw [closedLen, if_neg hlen]
    have hsize := openLen_le_dataSetSize t events.length
    obtain ⟨b, hp, hz⟩ := padSet_spec h hne
    obtain ⟨b', hcopy, hpatch⟩ := copy_writes b (e.dataSetOffset + 2)
      (e.dataSetOffset + 4) (beBytes 2 (dataSetSize t events.length)) (by simp)
      (by simp only [setHeaderLen] at hsize; omega)
    refine ⟨b', header, ?_, hl, ?_⟩
    · have hsub : closedLen t flag events.length - e.dataSetOffset = dataSetSize t events.length := by
        omega
      have hm : dataSetSize t events.length < 65536 := by
        simp only [maxMsgSize] at hmax
        omega
      simp only [closeDataSet, hopen, if_true, hp, Option.bind_eq_bind, Option.bind_some, hsub,
        messageLen_of_lt hm, UInt16.toNat_ofNat', Nat.mod_eq_of_lt hm, hcopy, Option.pure_def]
    · have hwr : b.bytes.take (closedLen t flag events.length) =
          (header ++ templatePart t flag ++ beBytes 2 t.templateId.toNat) ++ beBytes 2 0 ++
            (records t events ++ zeros (dataSetSize t events.length -
              (setHeaderLen + events.length * t.recordSize))) := by
        rw [hz, hb, openPart, if_neg hne]
        simp only [List.append_assoc]
      have hlo : (header ++ templatePart t flag ++ beBytes 2 t.templateId.toNat).length =
          e.dataSetOffset + 2 := by
        rw [hstart]
        simp only [List.length_append, hl, length_templatePart, length_beBytes, baseLen]
      rw [take_of_patch hpatch hwr hlo (by simp) hmax, dataPart, if_neg hne]
      simp only [List.append_assoc]

/-- Writing the header over the reserved area leaves the body alone. -/
theorem take_of_header {b b' : Buffer maxMsgSize} {m k : Nat} {header header' body : List UInt8}
    (hw : Writes ⟨b, 0⟩ header' ⟨b', k⟩) (hb : b.bytes.take m = header ++ body)
    (hl : header.length = header'.length) (hm : m ≤ maxMsgSize) :
    b'.bytes.take m = header' ++ body := by
  have h : b.bytes.take m = [] ++ header ++ body := hb
  exact take_of_patch hw h rfl hl hm

theorem finalizeIpfix_spec {e : Encoder} (stamp : Stamp)
    {header body : List UInt8} (hm : e.offset ≤ maxMsgSize)
    (hl : header.length = 16) (hb : e.buf.bytes.take e.offset = header ++ body) :
    ∃ b, finalizeIpfix e stamp = some { e with
        buf := b, sequenceNumber := nextSequence .ipfix e.sequenceNumber e.recordCount } ∧
      b.bytes.take e.offset = beBytes 2 ipfixVersion.toNat ++ beBytes 2 e.offset ++
        beBytes 4 (unixSecs stamp).toNat ++ beBytes 4 e.sequenceNumber.toNat ++
        beBytes 4 e.observationDomainId.toNat ++ body := by
  have hlt : e.offset < 65536 := by
    simp only [maxMsgSize] at hm
    omega
  obtain ⟨b1, h1, w1⟩ := copy_writes e.buf 0 2
    (beBytes 2 ipfixVersion.toNat) (by simp) (by decide)
  obtain ⟨b2, h2, w2⟩ := copy_writes b1 2 4
    (beBytes 2 e.offset) (by simp) (by decide)
  obtain ⟨b3, h3, w3⟩ := copy_writes b2 4 8
    (beBytes 4 (unixSecs stamp).toNat) (by simp) (by decide)
  obtain ⟨b4, h4, w4⟩ := copy_writes b3 8 12
    (beBytes 4 e.sequenceNumber.toNat) (by simp) (by decide)
  obtain ⟨b5, h5, w5⟩ := copy_writes b4 12 16
    (beBytes 4 e.observationDomainId.toNat) (by simp) (by decide)
  have hw := (((w1.trans w2).trans w3).trans w4).trans w5
  refine ⟨b5, ?_, take_of_header hw hb (by simp [hl]) hm⟩
  simp [finalizeIpfix, h1, messageLen_of_lt hlt, Nat.mod_eq_of_lt hlt, h2, h3, h4, h5, nextSequence]

theorem finalizeNetflow9_spec {e : Encoder} (stamp : Stamp) {total : Nat}
    {header body : List UInt8} (hm : e.offset ≤ maxMsgSize)
    (ht : (e.recordCount + e.templateIncluded.toUInt32).toNat = total) (hlt : total < 65536)
    (hl : header.length = 20) (hb : e.buf.bytes.take e.offset = header ++ body) :
    ∃ b, finalizeNetflow9 e stamp = some { e with
        buf := b, sequenceNumber := nextSequence .netflow9 e.sequenceNumber e.recordCount } ∧
      b.bytes.take e.offset = beBytes 2 netflow9Version.toNat ++ beBytes 2 total ++
        beBytes 4 (uptimeMs e.started stamp).toNat ++ beBytes 4 (unixSecs stamp).toNat ++
        beBytes 4 e.sequenceNumber.toNat ++ beBytes 4 e.observationDomainId.toNat ++ body := by
  obtain ⟨b1, h1, w1⟩ := copy_writes e.buf 0 2
    (beBytes 2 netflow9Version.toNat) (by simp) (by decide)
  obtain ⟨b2, h2, w2⟩ := copy_writes b1 2 4
    (beBytes 2 total) (by simp) (by decide)
  obtain ⟨b3, h3, w3⟩ := copy_writes b2 4 8
    (beBytes 4 (uptimeMs e.started stamp).toNat) (by simp) (by decide)
  obtain ⟨b4, h4, w4⟩ := copy_writes b3 8 12
    (beBytes 4 (unixSecs stamp).toNat) (by simp) (by decide)
  obtain ⟨b5, h5, w5⟩ := copy_writes b4 12 16
    (beBytes 4 e.sequenceNumber.toNat) (by simp) (by decide)
  obtain ⟨b6, h6, w6⟩ := copy_writes b5 16 20
    (beBytes 4 e.observationDomainId.toNat) (by simp) (by decide)
  have hw := ((((w1.trans w2).trans w3).trans w4).trans w5).trans w6
  refine ⟨b6, ?_, take_of_header hw hb (by simp [hl]) hm⟩
  simp only [finalizeNetflow9, h1, ht, messageLen_of_lt hlt, UInt16.toNat_ofNat',
    Nat.mod_eq_of_lt hlt, h2, h3, h4, h5, h6, nextSequence, Option.bind_eq_bind, Option.bind_some,
    Option.pure_def]

theorem toNat_recordTotal {e : Encoder} {t : Template} {flag : Bool} {events : List ConntrackEvent}
    (hu : Usable t) (h : Holds e t flag events) :
    (e.recordCount + e.templateIncluded.toUInt32).toNat = events.length + flag.toNat ∧
      events.length + flag.toNat < 65536 := by
  have hmul : events.length ≤ events.length * t.recordSize :=
    Nat.le_mul_of_pos_right _ (by have := hu.recordSize_ge; omega)
  have hr := closedLen_le h
  have hsize := openLen_le_dataSetSize t events.length
  have hlen : events.length ≤ maxMsgSize := by
    rw [closedLen] at hr
    split at hr <;> omega
  have hf : flag.toNat ≤ 1 := Bool.toNat_le flag
  simp only [maxMsgSize] at hlen
  refine ⟨?_, by omega⟩
  rw [UInt32.toNat_add, h.count, h.included]
  cases flag with
  | false => exact Nat.mod_eq_of_lt (by change events.length + 0 < 2 ^ 32; omega)
  | true => exact Nat.mod_eq_of_lt (by change events.length + 1 < 2 ^ 32; omega)

/-- Finalizing a message produces exactly its wire form, whatever the buffer
held before, and steps the sequence counter. -/
theorem finalize_spec {e : Encoder} {t : Template} {flag : Bool} {events : List ConntrackEvent}
    (hu : Usable t) (h : Holds e t flag events) (stamp : Stamp) :
    ∃ b, finalize e stamp = some ({ e with
        buf := b
        offset := closedLen t flag events.length
        sequenceNumber := nextSequence t.protocol e.sequenceNumber e.recordCount },
      messageBytes t flag events e.sequenceNumber e.observationDomainId e.started stamp,
      e.recordCount) ∧
      b.bytes.take (closedLen t flag events.length) =
        messageBytes t flag events e.sequenceNumber e.observationDomainId e.started stamp := by
  obtain rfl := h.template
  obtain ⟨b, header, hc, hl, hb⟩ := closeDataSet_spec h
  have hmax := closedLen_le h
  obtain ⟨ht, hlt⟩ := toNat_recordTotal hu h
  have hslice (b' : Buffer maxMsgSize) : slice b'.bytes 0 (closedLen e.template flag events.length) =
      some (b'.bytes.take (closedLen e.template flag events.length)) :=
    slice_of_le (by omega) (by rw [b'.size_eq]; exact hmax)
  cases hp : e.template.protocol with
  | ipfix =>
    rw [hp] at hl
    obtain ⟨b', hf, hb'⟩ := finalizeIpfix_spec (e := { e with
      buf := b, offset := closedLen e.template flag events.length }) stamp hmax hl hb
    have hmsg : b'.bytes.take (closedLen e.template flag events.length) =
        messageBytes e.template flag events e.sequenceNumber e.observationDomainId e.started stamp := by
      simp only [hb', messageBytes, headerBytes, hp]
    refine ⟨b', ?_, hmsg⟩
    simp only [finalize, hc, Option.bind_eq_bind, Option.bind_some, hp, hf, hslice,
      Option.pure_def, hmsg]
  | netflow9 =>
    rw [hp] at hl
    obtain ⟨b', hf, hb'⟩ := finalizeNetflow9_spec (e := { e with
      buf := b, offset := closedLen e.template flag events.length }) stamp hmax ht hlt hl hb
    have hmsg : b'.bytes.take (closedLen e.template flag events.length) =
        messageBytes e.template flag events e.sequenceNumber e.observationDomainId e.started stamp := by
      simp only [hb', messageBytes, headerBytes, hp]
    refine ⟨b', ?_, hmsg⟩
    simp only [finalize, hc, Option.bind_eq_bind, Option.bind_some, hp, hf, hslice,
      Option.pure_def, hmsg]

theorem finalize_kept {e : Encoder} {t : Template} {flag : Bool} {events : List ConntrackEvent}
    (hu : Usable t) (h : Holds e t flag events) (stamp : Stamp) :
    ∃ e', finalize e stamp = some (e', messageBytes t flag events e.sequenceNumber
        e.observationDomainId e.started stamp, e.recordCount) ∧
      e'.template = t ∧ e'.sequenceNumber = nextSequence t.protocol e.sequenceNumber e.recordCount ∧
      e'.observationDomainId = e.observationDomainId ∧ e'.started = e.started ∧
      e'.saturatedCounters = e.saturatedCounters := by
  obtain ⟨b, hf, -⟩ := finalize_spec hu h stamp
  exact ⟨_, hf, h.template, rfl, rfl, rfl, rfl⟩

end NatStream.Export.Messages
