import NatStream.Export.Capacity
import NatStream.Export.Sessions

namespace NatStream.Export.Invariant

open NatStream.Lib.Bytes NatStream.Lib.ByteBuffer NatStream.Lib.Time
open NatStream.Events NatStream.Export.Templates NatStream.Export.Records
open NatStream.Export.Encoders NatStream.Export.Resolved NatStream.Export.Layout
open NatStream.Export.Filling NatStream.Export.Messages NatStream.Export.Sessions
open NatStream.Export.Capacity

/-- The offset, the count and the open flag agree with the records accepted.
`dataLen` is the size of the data set for that many records. -/
structure Consistent (t : Template) (e : Encoder) (flag : Bool) (count : Nat)
    (dataLen : Nat → Nat) : Prop where
  offset : e.offset = headerLen t.protocol + (if flag then setSize t else 0) +
    (if 0 < count then dataLen count else 0)
  fits : e.offset ≤ maxMsgSize
  recordCount : e.recordCount.toNat = count
  dataSetOpen : e.dataSetOpen = true ↔ 0 < count

/-- A set inside a message: `content` bytes of its own, then padding. -/
structure PaddedSet (bytes : List UInt8) (start content length : Nat) : Prop where
  start_dvd : 4 ∣ start
  length_dvd : 4 ∣ length
  inside : start + length ≤ bytes.length
  announced : beNat ((bytes.drop (start + 2)).take 2) = length
  content_le : content ≤ length
  padding_lt : length - content < 4
  padding_zero : (bytes.drop (start + content)).take (length - content) = zeros (length - content)

def templateContent (t : Template) : Nat := setHeaderLen + 4 + (t.fields.map specifierLen).sum

def dataContent (t : Template) (count : Nat) : Nat := setHeaderLen + count * t.recordSize

def Sound (t : Template) (e : Encoder) : Phase → Prop
  | .idle => True
  | .filling flag events => Consistent t e flag events.length (dataContent t)
  | .finalized flag events => Consistent t e flag events.length (dataSetSize t)

def SetsAligned (t : Template) (e : Encoder) : Phase → Prop
  | .idle => True
  | .filling flag _ => flag = true →
      PaddedSet (written (cursor e)) (headerLen t.protocol) (templateContent t) (setSize t)
  | .finalized flag events =>
      (flag = true →
        PaddedSet (written (cursor e)) (headerLen t.protocol) (templateContent t) (setSize t)) ∧
      (0 < events.length →
        PaddedSet (written (cursor e)) (baseLen t flag) (dataContent t events.length)
          (dataSetSize t events.length))

def Panics {α : Type} (r : Option α) : Prop := r = none

def CannotPanic (e : Encoder) : Phase → Prop
  | .filling _ _ => (∀ flag, ¬ Panics (beginMessage e flag)) ∧
      (∀ event, ¬ Panics (addRecord e event)) ∧ ∀ stamp, ¬ Panics (finalize e stamp)
  | _ => ∀ flag, ¬ Panics (beginMessage e flag)

theorem holds_consistent {t : Template} {e : Encoder} {flag : Bool} {events : List ConntrackEvent}
    (h : Holds e t flag events) : Consistent t e flag events.length (dataContent t) := by
  have hroom := h.room
  refine ⟨?_, by omega, h.count, ?_⟩
  · rw [h.offset, baseLen]
    cases events <;> simp [openLen, dataContent]
  · rw [h.isOpen]
    cases events <;> simp

theorem closed_consistent {t : Template} {e : Encoder} {flag : Bool} {events : List ConntrackEvent}
    (h : Closed e t flag events) : Consistent t e flag events.length (dataSetSize t) := by
  refine ⟨?_, h.fits, h.count, ?_⟩
  · rw [h.offset, closedLen, baseLen]
    cases events <;> simp
  · rw [h.isOpen]
    cases events <;> simp

theorem paddedSet_of_append {bytes : List UInt8} (pre id content post : List UInt8) {length pad : Nat}
    (hb : bytes = pre ++ (id ++ beBytes 2 length ++ content ++ zeros pad) ++ post)
    (hid : id.length = 2) (hpre : 4 ∣ pre.length) (hlen : 4 ∣ length)
    (hsum : length = 4 + content.length + pad) (hpad : pad < 4) (hlt : length < 65536) :
    PaddedSet bytes pre.length (4 + content.length) length := by
  subst hb
  have hk : length - (4 + content.length) = pad := by omega
  refine ⟨hpre, hlen, ?_, ?_, by omega, by omega, ?_⟩
  · simp only [List.length_append, length_beBytes, length_zeros, hid]
    omega
  · have h1 : pre ++ (id ++ beBytes 2 length ++ content ++ zeros pad) ++ post =
        (pre ++ id) ++ (beBytes 2 length ++ (content ++ zeros pad ++ post)) := by
      simp only [List.append_assoc]
    rw [h1, List.drop_left' (by simp [hid]), List.take_left' (by simp), beNat_beBytes (by omega)]
  · have h1 : pre ++ (id ++ beBytes 2 length ++ content ++ zeros pad) ++ post =
        (pre ++ id ++ beBytes 2 length ++ content) ++ (zeros pad ++ post) := by
      simp only [List.append_assoc]
    rw [hk, h1, List.drop_left' (by simp [hid]; omega), List.take_left' (by simp)]

theorem paddedSet_template {t : Template} {header bytes : List UInt8} (post : List UInt8)
    (hu : Usable t) (hp : t.protocol = .netflow9) (hl : header.length = headerLen t.protocol)
    (hb : bytes = header ++ templateSet t ++ post) :
    PaddedSet bytes (headerLen t.protocol) (templateContent t) (setSize t) := by
  have hlen := length_templateRecord t
  have hset := length_templateSet t
  have hlt := alignUp_lt (setHeaderLen + 4 + (t.fields.map specifierLen).sum)
    (setAlignment_pos t.protocol)
  have hs : setSize t = alignUp (setHeaderLen + 4 + (t.fields.map specifierLen).sum)
    (setAlignment t.protocol) := rfl
  have ha : setAlignment t.protocol = 4 := by rw [hp]; rfl
  have hle := hu.setSize_le
  have hrec : (templateRecord t).length = 4 + (beBytes 2 t.templateId.toNat ++
      beBytes 2 t.fields.length ++ t.fields.flatMap specifierBytes).length := by
    simp only [templateRecord, List.length_append, length_beBytes]
    omega
  rw [← hs, ha] at hlt
  rw [templateSet, List.length_append, length_zeros] at hset
  have hsplit : bytes = header ++ (beBytes 2 (templateSetId t.protocol).toNat ++
      beBytes 2 (setSize t) ++ (beBytes 2 t.templateId.toNat ++ beBytes 2 t.fields.length ++
        t.fields.flatMap specifierBytes) ++ zeros (setSize t - (templateRecord t).length)) ++ post := by
    rw [hb, templateSet, templateRecord]
    simp only [List.append_assoc]
  have h := paddedSet_of_append _ _ _ _ hsplit (by simp) (by rw [hl, hp]; decide)
    (by rw [hs, ha]; exact dvd_alignUp _ _) (by omega) (by omega) (by omega)
  rw [← hrec, hlen, hl] at h
  exact h

theorem paddedSet_data {t : Template} {flag : Bool} {events : List ConntrackEvent}
    {header bytes : List UInt8} (hu : Usable t) (hp : t.protocol = .netflow9)
    (hl : header.length = headerLen t.protocol) (hne : events ≠ [])
    (hmax : dataSetSize t events.length ≤ maxMsgSize)
    (hb : bytes = header ++ (templatePart t flag ++ dataPart t events)) :
    PaddedSet bytes (baseLen t flag) (dataContent t events.length)
      (dataSetSize t events.length) := by
  have hlen := length_records hu events
  have hge := openLen_le_dataSetSize t events.length
  have hlt := dataSetSize_lt t events.length
  have ha : setAlignment t.protocol = 4 := by rw [hp]; rfl
  have hbase : (header ++ templatePart t flag).length = baseLen t flag := by
    rw [List.length_append, hl, length_templatePart, baseLen]
  have hdvd := setAlignment_dvd_baseLen t flag
  have hdvd' : setAlignment t.protocol ∣ dataSetSize t events.length := dvd_alignUp _ _
  rw [ha] at hlt hdvd hdvd'
  simp only [setHeaderLen, maxMsgSize] at hge hlt hmax
  have hsplit : bytes = header ++ templatePart t flag ++ (beBytes 2 t.templateId.toNat ++
      beBytes 2 (dataSetSize t events.length) ++ records t events ++
        zeros (dataSetSize t events.length - (setHeaderLen + events.length * t.recordSize))) ++ [] := by
    rw [hb, dataPart, if_neg hne]
    simp only [List.append_assoc, List.append_nil]
  have h := paddedSet_of_append _ _ _ _ hsplit (by simp) (by rw [hbase]; exact hdvd) hdvd'
    (by simp only [setHeaderLen]; omega) (by simp only [setHeaderLen]; omega) (by omega)
  rw [hbase, hlen] at h
  exact h

theorem tracks_sound {t : Template} {e : Encoder} {phase : Phase} (h : Tracks t e phase) :
    Sound t e phase := by
  cases phase with
  | idle => trivial
  | filling flag events => exact holds_consistent h
  | finalized flag events => exact closed_consistent h

theorem tracks_setsAligned {t : Template} {e : Encoder} {phase : Phase} (hu : Usable t)
    (hp : t.protocol = .netflow9) (h : Tracks t e phase) : SetsAligned t e phase := by
  cases phase with
  | idle => trivial
  | filling flag events =>
    intro hf
    obtain ⟨header, hl, hb⟩ := Holds.body h
    apply paddedSet_template (openPart t events) hu hp hl
    rw [hb, templatePart, if_pos hf, List.append_assoc]
  | finalized flag events =>
    obtain ⟨header, hl, hb⟩ := Closed.body h
    constructor
    · intro hf
      apply paddedSet_template (dataPart t events) hu hp hl
      rw [hb, templatePart, if_pos hf, List.append_assoc]
    · intro hn
      have hlen : events.length ≠ 0 := by omega
      have hne : events ≠ [] := fun he => hlen (by simp [he])
      have hfits := Closed.fits h
      rw [Closed.offset h, closedLen, if_neg hlen] at hfits
      exact paddedSet_data hu hp hl hne (by omega) hb

theorem tracks_cannotPanic {t : Template} {e : Encoder} {phase : Phase} (hu : Usable t)
    (h : Tracks t e phase) : CannotPanic e phase := by
  obtain rfl := tracks_template h
  have hbegin : ∀ flag, ¬ Panics (beginMessage e flag) := by
    intro flag hn
    obtain ⟨e', he, -⟩ := beginMessage_holds hu flag
    rw [Panics, he] at hn
    cases hn
  cases phase with
  | idle | finalized flag events => exact hbegin
  | filling flag events =>
    refine ⟨hbegin, ?_, ?_⟩
    · intro event hn
      obtain hr | ⟨e', hr, -, -⟩ := addRecord_cases hu h event
      · rw [Panics, hr] at hn
        cases hn
      · rw [Panics, hr] at hn
        cases hn
    · intro stamp hn
      obtain ⟨b, hf, -⟩ := finalize_spec hu h stamp
      rw [Panics, hf] at hn
      cases hn

theorem addRecord_false {e e' : Encoder} {event : ConntrackEvent}
    (h : addRecord e event = some (e', false)) : e' = e := by
  by_cases hfull : e.offset + (if e.dataSetOpen then e.template.recordSize
      else setHeaderLen + e.template.recordSize) + (setAlignment e.template.protocol - 1) > maxMsgSize
  · rw [addRecord, if_pos hfull] at h
    cases h
    rfl
  · rw [addRecord, if_neg hfull] at h
    simp only [Option.bind_eq_bind, Option.bind_eq_some_iff, Option.pure_def, Option.some.injEq,
      Prod.mk.injEq, Bool.true_eq_false, and_false, exists_false] at h

theorem writeRecord_offset {n : Nat} {fields : List ResolvedField} {event : ConntrackEvent}
    (hf : ∀ f ∈ fields, FieldFits f) {c c' : Cursor n} {k : Nat}
    (h : writeRecord c fields event = some (c', k)) : c'.offset = c.offset + totalLength fields := by
  induction fields generalizing c k with
  | nil =>
    cases h
    rfl
  | cons f fs ih =>
    simp only [writeRecord, writeField_eq c event (hf f (by simp)), Option.bind_eq_bind,
      Option.bind_eq_some_iff, Option.map_eq_some_iff] at h
    obtain ⟨⟨d, i⟩, ⟨d', hd, hd'⟩, ⟨c'', j⟩, hr, hc⟩ := h
    cases hd'
    cases hc
    have ho := (writes_of_put hd).offset
    rw [length_fieldBytes event (hf f (by simp))] at ho
    rw [ih (fun g hg => hf g (by simp [hg])) hr, ho, totalLength, totalLength, List.map_cons,
      List.sum_cons, Nat.add_assoc]

/-- Through any history of calls the encoder's bookkeeping matches the
records it accepted, its sets are laid out as announced, and no call panics. -/
theorem encoder_invariant {p : Protocol} {profile : Profile} {w : CounterWidth} {id : UInt16}
    {t : Template} (ht : resolve p profile w id = .ok t) (domain : UInt32) (started : Instant)
    {e : Encoder} {phase : Phase} (h : Reaches t domain started e phase) :
    Sound t e phase ∧
    (t.protocol = .netflow9 → SetsAligned t e phase) ∧
    CannotPanic e phase ∧
    (∀ event e', addRecord e event = some (e', false) → e' = e) ∧
    (∀ e', writeTemplateSet (reserveHeader e true) = some e' →
      ∃ bs, bs.length = setSize t ∧ Writes (cursor (reserveHeader e true)) bs (cursor e')) ∧
    (∀ event c k, writeRecord (cursor e) t.fields event = some (c, k) →
      c.offset = e.offset + t.recordSize) := by
  have hu := resolve_usable ht
  have htr := reaches_tracks hu h
  refine ⟨tracks_sound htr, fun hp => tracks_setsAligned hu hp htr, tracks_cannotPanic hu htr,
    fun event e' => addRecord_false, ?_, ?_⟩
  · intro e' he
    obtain rfl := tracks_template htr
    obtain ⟨c, hc, hw⟩ := writeTemplateSet_reserved hu
    rw [hc] at he
    cases he
    exact ⟨_, length_templateSet _, hw⟩
  · intro event c k hr
    rw [hu.recordSize_eq]
    exact writeRecord_offset hu.fits hr

theorem reaches_offer {t : Template} {domain : UInt32} {started : Instant} {e e' : Encoder}
    {flag : Bool} {events offered : List ConntrackEvent} {replies : List Bool}
    (h : Reaches t domain started e (.filling flag events))
    (ho : offer e offered = some (e', replies)) :
    ∃ taken, taken.length = replies.count true ∧
      Reaches t domain started e' (.filling flag (events ++ taken)) := by
  induction offered generalizing e events replies with
  | nil =>
    cases ho
    exact ⟨[], rfl, by rwa [List.append_nil]⟩
  | cons event offered ih =>
    simp only [offer, Option.bind_eq_bind, Option.bind_eq_some_iff, Option.pure_def,
      Option.some.injEq, Prod.mk.injEq, Prod.exists] at ho
    obtain ⟨e₁, accepted, hadd, _, rest, hrest, rfl, rfl⟩ := ho
    cases accepted with
    | true =>
      obtain ⟨taken, hlen, hreach⟩ := ih (h.accept hadd) hrest
      refine ⟨event :: taken, by rw [List.length_cons, hlen, List.count_cons_self], ?_⟩
      rwa [List.append_assoc] at hreach
    | false =>
      obtain ⟨taken, hlen, hreach⟩ := ih (h.refuse hadd) hrest
      exact ⟨taken, by rw [hlen, List.count_cons_of_ne (by decide)], hreach⟩

def sampleTemplate : Template :=
  ⟨resolvedFields .netflow9 .full .eight, 58, 256, .netflow9, .full, .eight⟩

def sampleEncoder : Encoder := newEncoder 7 sampleTemplate 0

def sampleEvent : ConntrackEvent :=
  ⟨.create, 6, ⟨10, 0, 0, 1⟩, ⟨8, 8, 8, 8⟩, 40000, 53, ⟨192, 0, 2, 1⟩, 50000, ⟨8, 8, 8, 8⟩, 53,
    5000, 7, 90, 2⟩

/-- Of twenty-five records the last two are refused, and the data set of the
others is closed with two bytes of padding. -/
theorem encoder_invariant_sample :
    ∃ e₀ e₁ e₂ bytes count, beginMessage sampleEncoder true = some e₀ ∧
      offer e₀ (List.replicate 25 sampleEvent) = some (e₁, answers 23 25) ∧
      finalize e₁ ⟨0, 0⟩ = some (e₂, bytes, count) ∧
      (∀ e', addRecord e₁ sampleEvent = some (e', false) → e' = e₁) ∧
      Consistent sampleTemplate e₂ true 23 (dataSetSize sampleTemplate) ∧
      PaddedSet (written (cursor e₂)) 20 64 64 ∧
      PaddedSet (written (cursor e₂)) 84 1338 1340 := by
  have ht : resolve .netflow9 .full .eight 256 = .ok sampleTemplate := by decide +kernel
  obtain ⟨e₀, e₁, hb, ho, -, -⟩ := begin_offer (e := sampleEncoder) (resolve_usable ht) true
    (List.replicate 25 sampleEvent)
  obtain ⟨taken, hlen, hfilled⟩ := reaches_offer (Reaches.begin Reaches.new hb) ho
  obtain ⟨-, -, hpanic, hrefused, -, -⟩ := encoder_invariant ht 7 0 hfilled
  obtain ⟨⟨e₂, bytes, count⟩, hfin⟩ := Option.ne_none_iff_exists'.mp (hpanic.2.2 ⟨0, 0⟩)
  obtain ⟨hsound, haligned, -⟩ := encoder_invariant ht 7 0 (hfilled.finalize hfin)
  have htaken : ([] ++ taken).length = 23 := hlen
  obtain ⟨htemplate, hdata⟩ := haligned rfl
  rw [Sound, htaken] at hsound
  rw [htaken] at hdata
  exact ⟨e₀, e₁, e₂, bytes, count, hb, ho, hfin, hrefused sampleEvent, hsound, htemplate rfl,
    hdata (by decide)⟩

end NatStream.Export.Invariant
