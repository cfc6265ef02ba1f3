import Mathlib.Data.Nat.Bitwise
import NatStream.Collector.FlowDecode
import NatStream.Export.Messages

namespace NatStream.Collector.Reading

open NatStream.Lib.Bytes NatStream.Events NatStream.Export.Records NatStream.Export.Resolved
open NatStream.Export.Layout NatStream.Collector.FlowDecode
open NatStream.Export.Templates (FieldSource ResolvedField Protocol Profile CounterWidth)

theorem bind_eq_ok {ε α β : Type} {x : Except ε α} {f : α → Except ε β} {b : β}
    (h : (x >>= f) = .ok b) : ∃ a, x = .ok a ∧ f a = .ok b := by
  cases x with
  | error e => cases h
  | ok a => exact ⟨a, rfl, h⟩

def fieldName : FieldSource → ElementName
  | .natEvent => .natEvent
  | .protocol => .protocolIdentifier
  | .srcIp => .sourceIPv4Address
  | .dstIp => .destinationIPv4Address
  | .srcPort => .sourceTransportPort
  | .dstPort => .destinationTransportPort
  | .postNatSrcIp => .postNATSourceIPv4Address
  | .postNatSrcPort => .postNAPTSourceTransportPort
  | .postNatDstIp => .postNATDestinationIPv4Address
  | .postNatDstPort => .postNAPTDestinationTransportPort
  | .origBytes => .octetDeltaCount
  | .origPackets => .packetDeltaCount
  | .replyBytes => .reverseOctetDeltaCount
  | .replyPackets => .reversePacketDeltaCount

/-- A field as the collector should see it announced. -/
def announced (f : ResolvedField) : Field :=
  ⟨fieldName f.source, f.length.toNat, f.id.toNat, f.pen.map UInt32.toNat⟩

def announcedTemplate (t : Export.Templates.Template) : Template :=
  ⟨t.templateId.toNat, t.fields.map announced⟩

def quad (ip : Ipv4Addr) : String :=
  toString ip.a.toNat ++ "." ++ toString ip.b.toNat ++ "." ++ toString ip.c.toNat ++ "." ++
    toString ip.d.toNat

/-- The value a collector should read back. Only a counter that is too large
for its field differs from the event's own value. -/
def reported (event : ConntrackEvent) (f : ResolvedField) : FlowDecode.Value :=
  match valueOf f.source event with
  | .byte v => .number v.toNat
  | .port v => .number v.toNat
  | .addr v => .text (quad v)
  | .counter v => .number (min v.toNat (256 ^ f.length.toNat - 1))

def reportedRecord (fields : List ResolvedField) (event : ConntrackEvent) : Record :=
  fields.map (fun f => (fieldName f.source, reported event f))

theorem resolvedFields_named (p : Protocol) (profile : Profile) (w : CounterWidth) :
    ∀ f ∈ resolvedFields p profile w, elementName f.id.toNat (f.pen.map UInt32.toNat)
      (Export.Templates.version p).toNat = fieldName f.source := by
  cases p <;> cases profile <;> cases w <;> decide

theorem resolvedFields_nodup (p : Protocol) (profile : Profile) (w : CounterWidth) :
    ((resolvedFields p profile w).map (fun f => fieldName f.source)).Nodup := by
  cases p <;> cases profile <;> cases w <;> decide

/-- What the collector's tables have to say about a template's fields. -/
structure Known (t : Export.Templates.Template) : Prop where
  named : ∀ f ∈ t.fields, elementName f.id.toNat (f.pen.map UInt32.toNat)
    (Export.Templates.version t.protocol).toNat = fieldName f.source
  nodup : (t.fields.map (fun f => fieldName f.source)).Nodup

theorem resolve_known {p : Protocol} {profile : Profile} {w : CounterWidth} {id : UInt16}
    {t : Export.Templates.Template} (h : Export.Templates.resolve p profile w id = .ok t) :
    Known t := by
  obtain ⟨-, rfl⟩ := resolve_ok h
  exact ⟨resolvedFields_named p profile w, resolvedFields_nodup p profile w⟩

theorem dotted_octets (ip : Ipv4Addr) : dotted (octets ip) = quad ip := rfl

theorem u16At_append (pre rest : List UInt8) {v k : Nat} (hk : pre.length = k) (hv : v < 65536) :
    u16At (pre ++ (beBytes 2 v ++ rest)) k = v := by
  rw [u16At, List.drop_left' hk, List.take_left' (length_beBytes 2 v), beNat_beBytes hv]

theorem u32At_append (pre rest : List UInt8) {v k : Nat} (hk : pre.length = k) (hv : v < 2 ^ 32) :
    u32At (pre ++ (beBytes 4 v ++ rest)) k = v := by
  rw [u32At, List.drop_left' hk, List.take_left' (length_beBytes 4 v), beNat_beBytes hv]

theorem u16At_first {v w : Nat} (rest : List UInt8) (hv : v < 65536) :
    u16At (beBytes 2 v ++ (beBytes 2 w ++ rest)) 0 = v :=
  u16At_append [] _ rfl hv

theorem u16At_second {v w : Nat} (rest : List UInt8) (hw : w < 65536) :
    u16At (beBytes 2 v ++ (beBytes 2 w ++ rest)) 2 = w :=
  u16At_append _ rest (length_beBytes 2 v) hw

theorem drop_words (v w : Nat) (rest : List UInt8) :
    (beBytes 2 v ++ (beBytes 2 w ++ rest)).drop 4 = rest := by
  rw [← List.append_assoc]
  exact List.drop_left' (by simp)

theorem decodeValue_fieldBytes {f : ResolvedField} (event : ConntrackEvent) (h : FieldFits f) :
    decodeValue (fieldName f.source) (fieldBytes event f) = .ok (reported event f) := by
  have hcounter (v : UInt64) :
      beNat (beBytes f.length.toNat (min v.toNat (256 ^ f.length.toNat - 1))) =
        min v.toNat (256 ^ f.length.toNat - 1) := by
    have hpos : 0 < 256 ^ f.length.toNat := Nat.pow_pos (by decide)
    exact beNat_beBytes (by omega)
  have hport (v : UInt16) : beNat (beBytes 2 v.toNat) = v.toNat := beNat_beBytes v.toNat_lt
  have hbyte (v : UInt8) : beNat [v] = v.toNat := by simp [beNat]
  obtain ⟨id, pen, len, source⟩ := f
  cases source with
  | srcIp | dstIp | postNatSrcIp | postNatDstIp =>
    simp [decodeValue, fieldName, addressFields, fieldBytes, reported, valueOf, dotted_octets]
  | srcPort | dstPort | postNatSrcPort | postNatDstPort =>
    simp [decodeValue, fieldName, addressFields, fieldBytes, reported, valueOf, hport]
  | natEvent | protocol =>
    simp [decodeValue, fieldName, addressFields, fieldBytes, reported, valueOf, hbyte]
  | origBytes | origPackets | replyBytes | replyPackets =>
    simp [decodeValue, fieldName, addressFields, fieldBytes, reported, valueOf, hcounter]

theorem set_of_not_mem {κ ν : Type} [DecidableEq κ] {d : Dict κ ν} {k : κ} (v : ν)
    (h : k ∉ d.map Prod.fst) : Dict.set d k v = d ++ [(k, v)] := by
  apply if_neg
  simpa using h

theorem get?_eq_none {κ ν : Type} [DecidableEq κ] {d : Dict κ ν} {k : κ}
    (h : ∀ p ∈ d, p.1 ≠ k) : Dict.get? d k = none := by
  rw [Dict.get?, List.find?_eq_none.mpr]
  · rfl
  · intro p hp
    simpa using h p hp

theorem get?_set_self {κ ν : Type} [DecidableEq κ] (d : Dict κ ν) (k : κ) (v : ν) :
    Dict.get? (Dict.set d k v) k = some v := by
  by_cases h : d.any (fun p => p.1 = k)
  · rw [Dict.set, if_pos h]
    induction d with
    | nil => simp at h
    | cons p d ih =>
      by_cases hp : p.1 = k
      · simp [Dict.get?, hp]
      · have hd : d.any (fun p => p.1 = k) := by simpa [hp] using h
        have ih' := ih hd
        rw [Dict.get?] at ih'
        simpa [Dict.get?, hp] using ih'
  · have hn : d.find? (fun p => p.1 = k) = none := by
      rw [List.find?_eq_none]
      intro p hp hk
      exact h (List.any_eq_true.mpr ⟨p, hp, hk⟩)
    rw [Dict.set, if_neg h, Dict.get?, List.find?_append, hn]
    simp

theorem get?_replace_of_ne {κ ν : Type} [DecidableEq κ] (d : Dict κ ν) {k j : κ} (v : ν)
    (h : j ≠ k) :
    Dict.get? (d.map fun p => if p.1 = k then (k, v) else p) j = Dict.get? d j := by
  induction d with
  | nil => rfl
  | cons p d ih =>
    rw [Dict.get?, Dict.get?] at ih ⊢
    rw [List.map_cons]
    by_cases hp : p.1 = k
    · have hj : ¬ p.1 = j := fun hpj => h (hpj.symm.trans hp)
      rw [if_pos hp, List.find?_cons_of_neg (by simpa using Ne.symm h),
        List.find?_cons_of_neg (by simpa using hj), ih]
    · rw [if_neg hp]
      by_cases hj : p.1 = j
      · rw [List.find?_cons_of_pos (by simpa using hj), List.find?_cons_of_pos (by simpa using hj)]
      · rw [List.find?_cons_of_neg (by simpa using hj), List.find?_cons_of_neg (by simpa using hj), ih]

theorem get?_set_of_ne {κ ν : Type} [DecidableEq κ] (d : Dict κ ν) {k j : κ} (v : ν) (h : j ≠ k) :
    Dict.get? (Dict.set d k v) j = Dict.get? d j := by
  rw [Dict.set]
  split
  · exact get?_replace_of_ne d v h
  · simp [Dict.get?, List.find?_append, Ne.symm h]

theorem parseRecord_recordBytes {fields : List ResolvedField} (event : ConntrackEvent)
    (record : Record) (rest : List UInt8) (hfit : ∀ f ∈ fields, FieldFits f)
    (hn : (fields.map (fun f => fieldName f.source)).Nodup)
    (hd : ∀ f ∈ fields, fieldName f.source ∉ record.map Prod.fst) :
    parseRecord record (fields.map announced) (recordBytes fields event ++ rest) =
      .ok (record ++ reportedRecord fields event) := by
  induction fields generalizing record with
  | nil => simp [parseRecord, reportedRecord]
  | cons f fs ih =>
    have hl : (fieldBytes event f).length = (announced f).length :=
      length_fieldBytes event (hfit f (by simp))
    have hv := decodeValue_fieldBytes event (hfit f (by simp))
    have hset := set_of_not_mem (reported event f) (hd f (by simp))
    rw [List.map_cons, List.nodup_cons] at hn
    have hfresh : ∀ g ∈ fs, fieldName g.source ∉
        (record ++ [(fieldName f.source, reported event f)]).map Prod.fst := by
      intro g hg hmem
      rw [List.map_append, List.mem_append] at hmem
      obtain hold | hnew := hmem
      · exact hd g (by simp [hg]) hold
      · refine hn.1 (List.mem_map.mpr ⟨g, hg, ?_⟩)
        simpa using hnew
    have ih' := ih (record ++ [(fieldName f.source, reported event f)])
      (fun g hg => hfit g (by simp [hg])) hn.2 hfresh
    rw [List.map_cons, recordBytes, List.flatMap_cons, List.append_assoc, parseRecord,
      List.take_left' hl, List.drop_left' hl]
    change (do
      let value ← decodeValue (fieldName f.source) (fieldBytes event f)
      parseRecord (Dict.set record (fieldName f.source) value) (fs.map announced)
        (recordBytes fs event ++ rest)) = _
    rw [hv]
    change parseRecord (Dict.set record (fieldName f.source) (reported event f)) _ _ = _
    rw [hset, ih']
    simp [reportedRecord]

theorem recordSize_announced (t : Export.Templates.Template) :
    recordSize (announcedTemplate t) = totalLength t.fields := by
  simp [recordSize, announcedTemplate, totalLength, announced, Function.comp_def]

theorem parseRecords_records {t : Export.Templates.Template} (hu : Usable t) (hk : Known t)
    (events : List ConntrackEvent) {k : Nat} (hlt : k < t.recordSize)
    (hpos : 0 < recordSize (announcedTemplate t)) :
    parseRecords (announcedTemplate t) hpos (records t events ++ zeros k) =
      .ok (events.map (reportedRecord t.fields)) := by
  have hs : recordSize (announcedTemplate t) = t.recordSize := by
    rw [recordSize_announced, hu.recordSize_eq]
  induction events with
  | nil =>
    have hshort : ¬ recordSize (announcedTemplate t) ≤ (records t [] ++ zeros k).length := by
      simp only [records, List.flatMap_nil, List.nil_append, length_zeros]
      omega
    rw [parseRecords, dif_neg hshort]
    rfl
  | cons event events ih =>
    have hl : (recordBytes t.fields event).length = recordSize (announcedTemplate t) := by
      rw [length_recordBytes event hu.fits, recordSize_announced, totalLength]
    have hcons : records t (event :: events) ++ zeros k =
        recordBytes t.fields event ++ (records t events ++ zeros k) := by
      rw [records, List.flatMap_cons, List.append_assoc, records]
    have hlong : recordSize (announcedTemplate t) ≤
        (recordBytes t.fields event ++ (records t events ++ zeros k)).length := by
      rw [List.length_append]
      omega
    have hr := parseRecord_recordBytes event [] (records t events ++ zeros k) hu.fits hk.nodup
      (by simp)
    rw [hcons, parseRecords, dif_pos hlong, List.drop_left' hl, ih]
    simp only [announcedTemplate, hr]
    rfl

theorem and_enterpriseBit {id : Nat} (h : id < 32768) : id &&& enterpriseBit = 0 := by
  have hbit : id.testBit 15 = false := Nat.testBit_lt_two_pow h
  change id &&& 2 ^ 15 = 0
  rw [Nat.and_two_pow, hbit]
  rfl

theorem or_and_enterpriseBit (id : Nat) : (id ||| enterpriseBit) &&& enterpriseBit ≠ 0 := by
  have hbit : (id ||| enterpriseBit).testBit 15 = true := by
    rw [Nat.testBit_or]
    simp [enterpriseBit, show Nat.testBit 32768 15 = true by decide]
  change (id ||| enterpriseBit) &&& 2 ^ 15 ≠ 0
  rw [Nat.and_two_pow, hbit]
  decide

theorem or_and_elementId {id : Nat} (h : id < 32768) :
    (id ||| enterpriseBit) &&& (enterpriseBit - 1) = id := by
  change (id ||| enterpriseBit) &&& (2 ^ 15 - 1) = id
  rw [Nat.and_two_pow_sub_one_eq_mod, Nat.or_mod_two_pow]
  have h1 : enterpriseBit % 2 ^ 15 = 0 := by decide
  rw [h1, Nat.or_zero, Nat.mod_eq_of_lt h]

theorem parseSpecifier_specifierBytes {t : Export.Templates.Template} (hu : Usable t)
    (hk : Known t) {f : ResolvedField} (hf : f ∈ t.fields) (rest : List UInt8) :
    parseSpecifier (Export.Templates.version t.protocol).toNat (specifierBytes f ++ rest) =
      .ok (announced f, (specifierBytes f).length) := by
  have hid := hu.id_lt f hf
  have hname := hk.named f hf
  have hlen : f.length.toNat < 65536 := f.length.toNat_lt
  cases hp : f.pen with
  | none =>
    have hb : specifierBytes f ++ rest =
        beBytes 2 f.id.toNat ++ (beBytes 2 f.length.toNat ++ rest) := by
      simp [specifierBytes, hp]
    have hl : (specifierBytes f).length = 4 := by simp [specifierBytes, hp]
    rw [hp] at hname
    rw [parseSpecifier, if_neg (by rw [List.length_append]; omega), hb,
      u16At_first rest (by omega), u16At_second rest hlen]
    simp only [and_enterpriseBit hid, ne_eq, not_true_eq_false, and_false, if_false, hl]
    simpa [announced, hp] using hname
  | some pen =>
    have hv : (Export.Templates.version t.protocol).toNat = ipfixVersion := by
      have hs := hu.plain f hf (by simp [hp])
      cases ht : t.protocol with
      | ipfix => rfl
      | netflow9 => simp [ht, Export.Templates.supportsEnterprise] at hs
    have hor : (f.id ||| Export.Templates.enterpriseBit).toNat = f.id.toNat ||| enterpriseBit := by
      rw [UInt16.toNat_or]
      rfl
    have hraw : f.id.toNat ||| enterpriseBit < 65536 :=
      Nat.or_lt_two_pow (n := 16) (by omega) (by decide)
    have hb : specifierBytes f ++ rest = beBytes 2 (f.id.toNat ||| enterpriseBit) ++
        (beBytes 2 f.length.toNat ++ (beBytes 4 pen.toNat ++ rest)) := by
      simp [specifierBytes, hp, hor]
    have h4 : u32At (beBytes 2 (f.id.toNat ||| enterpriseBit) ++
        (beBytes 2 f.length.toNat ++ (beBytes 4 pen.toNat ++ rest))) 4 = pen.toNat := by
      rw [← List.append_assoc]
      exact u32At_append _ rest (by simp) pen.toNat_lt
    have hl : (specifierBytes f).length = 8 := by simp [specifierBytes, hp]
    have hlong : ¬ (specifierBytes f ++ rest).length < 8 := by
      rw [List.length_append]
      omega
    rw [hb] at hlong
    rw [hp] at hname
    rw [parseSpecifier, if_neg (by rw [List.length_append]; omega), hb, u16At_first _ hraw,
      u16At_second _ hlen, h4, if_pos ⟨hv, or_and_enterpriseBit _⟩, if_neg hlong,
      or_and_elementId hid, hl]
    simpa [announced, hp] using hname

theorem parseFields_specifiers {t : Export.Templates.Template} (hu : Usable t) (hk : Known t)
    {fields : List ResolvedField} (hf : ∀ f ∈ fields, f ∈ t.fields) (rest : List UInt8) :
    parseFields (Export.Templates.version t.protocol).toNat fields.length
        (fields.flatMap specifierBytes ++ rest) =
      .ok (fields.map announced, (fields.flatMap specifierBytes).length) := by
  induction fields with
  | nil => rfl
  | cons f fs ih =>
    have hs := parseSpecifier_specifierBytes hu hk (hf f (by simp)) (fs.flatMap specifierBytes ++ rest)
    have ih' := ih (fun g hg => hf g (by simp [hg]))
    have hdrop : (specifierBytes f ++ (fs.flatMap specifierBytes ++ rest)).drop
        (specifierBytes f).length = fs.flatMap specifierBytes ++ rest := List.drop_left' rfl
    rw [List.flatMap_cons, List.append_assoc, List.length_cons, parseFields, hs, List.length_append]
    simp only [bind, Except.bind, hdrop, ih']
    rfl

end NatStream.Collector.Reading
