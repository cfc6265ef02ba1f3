import NatStream.Export.Layout

namespace NatStream.Export.Filling

open NatStream.Lib.Bytes NatStream.Lib.Slice NatStream.Lib.ByteBuffer
open NatStream.Events NatStream.Export.Templates NatStream.Export.Records
open NatStream.Export.Encoders NatStream.Export.Resolved NatStream.Export.Layout

theorem messageLen_of_lt {value : Nat} (h : value < 65536) :
    messageLen value = some (UInt16.ofNat value) := if_pos h

theorem writeTemplateRecord_eq {n : Nat} {t : Template} (h : Usable t) (c : Cursor n) :
    writeTemplateRecord t c = put c (templateRecord t) := by
  have hs := h.setSize_le
  have hl := h.length_le
  have hm : messageLen (setSize t) = some (UInt16.ofNat (setSize t)) := messageLen_of_lt (by omega)
  have hf : fieldCount t = some (UInt16.ofNat t.fields.length) := if_pos (by omega)
  have hk (k : Nat) (d : Cursor n) (hk : k < 65536) :
      putU16 d (UInt16.ofNat k) = put d (beBytes 2 k) := by
    rw [putU16, UInt16.toNat_ofNat', Nat.mod_eq_of_lt hk]
  rw [templateRecord, put_append, put_append, put_append, put_append]
  simp only [writeTemplateRecord, hm, hf, Option.bind_eq_bind, Option.bind_some, Option.bind_assoc]
  refine Option.bind_congr (fun c1 h1 => ?_)
  rw [hk _ c1 (by omega)]
  refine Option.bind_congr (fun c2 h2 => ?_)
  refine Option.bind_congr (fun c3 h3 => ?_)
  rw [hk _ c3 (by omega)]
  refine Option.bind_congr (fun c4 h4 => ?_)
  exact writeSpecifiers_eq _ c4 _ h.plain (writes_of_put h4).fits

theorem writeTemplateSet_eq {e : Encoder} (h : Usable e.template)
    (ha : setAlignment e.template.protocol ∣ e.offset)
    (hfit : e.offset + setSize e.template ≤ maxMsgSize) :
    ∃ c, writeTemplateSet e = some (moved e c) ∧ Writes (cursor e) (templateSet e.template) c := by
  have hlen := length_templateSet e.template
  obtain ⟨c, hc, hw⟩ := put_writes (c := cursor e) (templateSet e.template)
    (by rw [hlen]; exact hfit)
  refine ⟨c, ?_, hw⟩
  rw [templateSet, put_append] at hc
  obtain ⟨d, hd, hz⟩ := Option.bind_eq_some_iff.mp hc
  have hdo : d.offset = e.offset + (templateRecord e.template).length := (writes_of_put hd).offset
  have hco : c.offset - e.offset = setSize e.template := by
    have h1 : c.offset = e.offset + (templateSet e.template).length := hw.offset
    omega
  have hpad : alignUp d.offset (setAlignment e.template.protocol) - d.offset =
      setSize e.template - (templateRecord e.template).length := by
    rw [hdo, alignUp_add _ (setAlignment_pos _) ha, setSize, length_templateRecord]
    omega
  have hp : padSet (moved e d) = some (moved e c) := by
    apply padSet_eq (e := moved e d) c
    change put d (zeros (alignUp d.offset (setAlignment e.template.protocol) - d.offset)) = some c
    rw [hpad]
    exact hz
  simp only [writeTemplateSet, writeTemplateRecord_eq h, hd, hp, Option.bind_eq_bind, Option.bind_some]
  simp [moved, hco]

theorem writeTemplateSet_reserved {e : Encoder} (h : Usable e.template) :
    ∃ c, writeTemplateSet (reserveHeader e true) = some (moved (reserveHeader e true) c) ∧
      Writes (cursor (reserveHeader e true)) (templateSet e.template) c := by
  have hh := headerLen_le e.template.protocol
  have hs := h.setSize_le
  exact writeTemplateSet_eq (e := reserveHeader e true) h (setAlignment_dvd_headerLen _)
    (by change headerLen _ + setSize e.template ≤ maxMsgSize; simp only [maxMsgSize]; omega)

theorem beginMessage_holds {e : Encoder} (h : Usable e.template) (flag : Bool) :
    ∃ e', beginMessage e flag = some e' ∧ Holds e' e.template flag [] ∧ Kept e e' ∧
      e'.saturatedCounters = e.saturatedCounters := by
  have hh := headerLen_le e.template.protocol
  have hs := h.setSize_le
  have hl := setAlignment_le e.template.protocol
  let e0 := reserveHeader e flag
  have hw0 : (written (cursor e0)).length = headerLen e.template.protocol :=
    length_written (by change headerLen _ ≤ maxMsgSize; simp only [maxMsgSize]; omega)
  cases flag with
  | false =>
    refine ⟨e0, rfl, ⟨rfl, rfl, rfl, rfl, rfl, ?_, by simp, ⟨_, hw0, ?_⟩⟩, ⟨rfl, rfl, rfl⟩, rfl⟩
    · change headerLen _ + _ ≤ maxMsgSize
      simp only [maxMsgSize]
      omega
    · simp [templatePart, openPart]
  | true =>
    obtain ⟨c, hc, hw⟩ := writeTemplateSet_reserved h
    have ho : c.offset = headerLen e.template.protocol + setSize e.template := by
      have h1 := hw.offset
      rw [length_templateSet] at h1
      exact h1
    refine ⟨moved e0 c, hc, ⟨rfl, rfl, rfl, rfl, ?_, ?_, by simp, ⟨_, hw0, ?_⟩⟩, ⟨rfl, rfl, rfl⟩, rfl⟩
    · simpa [baseLen, openLen, moved] using ho
    · change c.offset + _ ≤ maxMsgSize
      simp only [maxMsgSize]
      omega
    · rw [templatePart, if_pos rfl, openPart, if_pos rfl, List.append_nil]
      exact hw.written

def setHeader (t : Template) (events : List ConntrackEvent) : List UInt8 :=
  if events = [] then beBytes 2 t.templateId.toNat ++ beBytes 2 0 else []

theorem openPart_concat (t : Template) (events : List ConntrackEvent) (event : ConntrackEvent) :
    openPart t (events ++ [event]) =
      openPart t events ++ setHeader t events ++ recordBytes t.fields event := by
  by_cases h : events = []
  · simp [openPart, setHeader, records, h]
  · simp [openPart, setHeader, records, h]

theorem openLen_succ (t : Template) (count : Nat) :
    openLen t (count + 1) =
      openLen t count + (if count = 0 then setHeaderLen + t.recordSize else t.recordSize) := by
  by_cases h : count = 0
  · simp [openLen, h]
  · simp [openLen, h, Nat.add_mul, Nat.add_assoc]

theorem needed_eq {e : Encoder} {t : Template} {flag : Bool} {events : List ConntrackEvent}
    (h : Holds e t flag events) :
    e.offset + (if e.dataSetOpen then e.template.recordSize
      else setHeaderLen + e.template.recordSize) = baseLen t flag + openLen t (events.length + 1) := by
  rw [h.offset, h.isOpen, h.template, openLen_succ]
  cases events with
  | nil => simp [Nat.add_assoc]
  | cons event events => simp [Nat.add_assoc]

theorem addRecord_full {e : Encoder} {t : Template} {flag : Bool} {events : List ConntrackEvent}
    (h : Holds e t flag events) (event : ConntrackEvent) (hr : ¬ hasRoom t flag events.length) :
    addRecord e event = some (e, false) := by
  rw [hasRoom, ← needed_eq h, ← h.template] at hr
  rw [addRecord, if_pos (by omega)]

theorem openDataSet_writes {e : Encoder} {t : Template} {flag : Bool} {events : List ConntrackEvent}
    (h : Holds e t flag events) (hr : hasRoom t flag events.length) :
    ∃ c, openDataSet e = some { moved e c with dataSetOffset := baseLen t flag, dataSetOpen := true } ∧
      Writes (cursor e) (setHeader t events) c := by
  cases events with
  | nil =>
    have ho := h.offset
    have hfit : (cursor e).offset + (setHeader t []).length ≤ maxMsgSize := by
      simp only [hasRoom, List.length_nil, openLen_succ, if_true, setHeaderLen] at hr
      change e.offset + _ ≤ _
      simp only [setHeader, if_true, List.length_append, length_beBytes, ho, List.length_nil]
      omega
    obtain ⟨c, hc, hw⟩ := put_writes _ hfit
    refine ⟨c, ?_, hw⟩
    simp only [setHeader, if_true, put_append] at hc
    obtain ⟨d, hd, hz⟩ := Option.bind_eq_some_iff.mp hc
    have hopen : e.dataSetOpen = false := h.isOpen
    have hbase : e.offset = baseLen t flag := by simpa [openLen] using ho
    simp [openDataSet, hopen, putU16, h.template, hd, hz, hbase]
  | cons event events =>
    have hopen : e.dataSetOpen = true := h.isOpen
    have hstart := h.start (by simp)
    refine ⟨cursor e, ?_, ?_⟩
    · simp only [openDataSet, hopen, if_true, moved, cursor, ← hstart]
      rw [← hopen]
    · simpa [setHeader] using Writes.nil (c := cursor e) (by
        have hroom := h.room
        change e.offset ≤ _
        omega)

theorem count_le {t : Template} (h : Usable t) (flag : Bool) {count : Nat}
    (hr : hasRoom t flag count) : count < maxMsgSize := by
  have hmul : count + 1 ≤ (count + 1) * t.recordSize :=
    Nat.le_mul_of_pos_right _ (by have := h.recordSize_ge; omega)
  simp only [hasRoom, openLen, Nat.add_one_ne_zero, if_false] at hr
  omega

theorem addRecord_room {e : Encoder} {t : Template} {flag : Bool} {events : List ConntrackEvent}
    (hu : Usable t) (h : Holds e t flag events) (event : ConntrackEvent)
    (hr : hasRoom t flag events.length) :
    ∃ e', addRecord e event = some (e', true) ∧ Holds e' t flag (events ++ [event]) ∧ Kept e e' ∧
      e'.saturatedCounters = e.saturatedCounters + t.fields.countP (exceeds event) := by
  obtain ⟨c, hc, hw⟩ := openDataSet_writes h hr
  have hlen : (recordBytes t.fields event).length = t.recordSize := by
    rw [length_recordBytes event hu.fits, hu.recordSize_eq, totalLength]
  have hco : c.offset + t.recordSize = baseLen t flag + openLen t (events.length + 1) := by
    have ho : c.offset = e.offset + (setHeader t events).length := hw.offset
    have hn := needed_eq h
    rw [h.isOpen, h.template] at hn
    cases events with
    | nil => simp [setHeader, setHeaderLen] at ho hn ⊢; omega
    | cons event events => simp [setHeader] at ho hn ⊢; omega
  have hr' := hr
  rw [hasRoom, ← hco] at hr'
  obtain ⟨d, hd, hv⟩ := put_writes (c := c) (recordBytes t.fields event)
    (by rw [hlen]; omega)
  have hrec := writeRecord_eq c t.fields event hu.fits hw.fits
  rw [hd, Option.map_some] at hrec
  have hdo : d.offset = c.offset + t.recordSize := by rw [hv.offset, hlen]
  have hcount := count_le hu flag hr
  refine ⟨{ moved e d with
    dataSetOffset := baseLen t flag
    dataSetOpen := true
    saturatedCounters := e.saturatedCounters + t.fields.countP (exceeds event)
    recordCount := e.recordCount + 1 }, ?_, ?_, ⟨rfl, rfl, rfl⟩, rfl⟩
  · have hn : ¬ e.offset + (if e.dataSetOpen then e.template.recordSize
        else setHeaderLen + e.template.recordSize) + (setAlignment e.template.protocol - 1) >
        maxMsgSize := by
      rw [needed_eq h, h.template]
      exact Nat.not_lt.mpr hr
    rw [addRecord, if_neg hn, hc]
    simp only [Option.bind_eq_bind, Option.bind_some, moved, cursor, h.template]
    rw [hrec]
    simp [Option.bind_some]
  · refine ⟨h.template, h.included, ?_, by simp, ?_, ?_, fun _ => rfl, ?_⟩
    · have hm : maxMsgSize < 2 ^ 32 - 1 := by decide
      rw [UInt32.toNat_add, h.count, List.length_append, List.length_singleton]
      exact Nat.mod_eq_of_lt (by change events.length + 1 < 2 ^ 32; omega)
    · change d.offset = _
      rw [hdo, hco, List.length_append, List.length_singleton]
    · change d.offset + _ ≤ _
      rw [hdo]
      exact hr'
    · obtain ⟨header, hl, hb⟩ := h.body
      refine ⟨header, hl, ?_⟩
      change written d = _
      rw [hv.written, hw.written, hb, openPart_concat]
      simp only [List.append_assoc]

end NatStream.Export.Filling
