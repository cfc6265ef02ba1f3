import NatStream.Collector.Reading
import NatStream.Export.Sessions

namespace NatStream.Collector.RoundTrip

open NatStream.Lib.Bytes NatStream.Lib.ByteBuffer NatStream.Lib.Time
open NatStream.Events NatStream.Export.Resolved NatStream.Export.Layout NatStream.Export.Filling
open NatStream.Export.Encoders NatStream.Export.Messages NatStream.Export.Sessions
open NatStream.Collector.FlowDecode NatStream.Collector.Reading
open NatStream.Export.Templates (Protocol Profile CounterWidth setSize dataSetSize setHeaderLen
  setAlignment headerLen maxMsgSize)

theorem parseTemplateSet_zeros (version : Nat) {k : Nat} (hk : k < 4) :
    parseTemplateSet version (zeros k) = .ok [] := by
  rw [parseTemplateSet, dif_neg]
  intro h
  rw [length_zeros] at h
  omega

theorem parseTemplateSet_record {t : Export.Templates.Template} (hu : Usable t) (hk : Known t)
    {k : Nat} (hk4 : k < 4) :
    parseTemplateSet (Export.Templates.version t.protocol).toNat
        (beBytes 2 t.templateId.toNat ++ (beBytes 2 t.fields.length ++
          (t.fields.flatMap specifierBytes ++ zeros k))) =
      .ok [announcedTemplate t] := by
  have hid := hu.templateId_ge
  have hcount := hu.length_le
  have hid0 := u16At_first (w := t.fields.length) (t.fields.flatMap specifierBytes ++ zeros k)
    t.templateId.toNat_lt
  have hgo : 4 ≤ (beBytes 2 t.templateId.toNat ++ (beBytes 2 t.fields.length ++
      (t.fields.flatMap specifierBytes ++ zeros k))).length ∧
      (beBytes 2 t.templateId.toNat ++ (beBytes 2 t.fields.length ++
        (t.fields.flatMap specifierBytes ++ zeros k))).take 4 ≠ [0, 0, 0, 0] := by
    refine ⟨by simp; omega, ?_⟩
    intro hz
    have h2 := congrArg (fun l => beNat (l.take 2)) hz
    simp only [List.take_take] at h2
    rw [u16At, List.drop_zero] at hid0
    rw [show min 2 4 = 2 from rfl, hid0] at h2
    have h0 : beNat (List.take 2 [(0 : UInt8), 0, 0, 0]) = 0 := by decide
    omega
  rw [parseTemplateSet, dif_pos hgo, hid0, u16At_second _ (by omega), drop_words]
  dsimp only
  rw [parseFields_specifiers hu hk (fun f hf => hf)]
  change (do
    let templates ← parseTemplateSet _ (List.drop (4 + (t.fields.flatMap specifierBytes).length) _)
    return announcedTemplate t :: templates) = _
  rw [← List.drop_drop, drop_words, List.drop_left' rfl, parseTemplateSet_zeros _ hk4]
  rfl

/-- One turn of the set loop on a set that is framed correctly. -/
theorem decodeSets_set {version templateSetId : Nat} {table table' : Table}
    {templates more : List Template} {records found : List Record} {id length : Nat}
    {payload : List UInt8} (rest : List UInt8) (hid : id < 65536) (hl : length = 4 + payload.length)
    (hlt : length < 65536)
    (h : handleSet version templateSetId table id payload = .ok (table', more, found)) :
    decodeSets version templateSetId table templates records
        (beBytes 2 id ++ (beBytes 2 length ++ (payload ++ rest))) =
      decodeSets version templateSetId table' (templates ++ more) (records ++ found) rest := by
  have h0 := u16At_first (w := length) (payload ++ rest) hid
  have h2 := u16At_second (v := id) (payload ++ rest) hlt
  have hsplit : beBytes 2 id ++ (beBytes 2 length ++ (payload ++ rest)) =
      (beBytes 2 id ++ beBytes 2 length ++ payload) ++ rest := by
    simp only [List.append_assoc]
  have hwhole : (beBytes 2 id ++ beBytes 2 length ++ payload).length = length := by
    simp only [List.length_append, length_beBytes]
    omega
  have hdrop := congrArg (List.drop length) hsplit
  rw [List.drop_left' hwhole] at hdrop
  have htake : ((beBytes 2 id ++ (beBytes 2 length ++ (payload ++ rest))).take length).drop 4 =
      payload := by
    rw [hsplit, List.take_left' hwhole, List.append_assoc, drop_words]
  have hlen : (beBytes 2 id ++ (beBytes 2 length ++ (payload ++ rest))).length =
      length + rest.length := by
    rw [hsplit, List.length_append, hwhole]
  have hstep := decodeSets.eq_def version templateSetId table templates records
    (beBytes 2 id ++ (beBytes 2 length ++ (payload ++ rest)))
  rw [dif_pos (by omega)] at hstep
  simp only [h0, h2, htake, hdrop] at hstep
  rw [dif_neg (by omega), if_neg (by omega), h] at hstep
  exact hstep

theorem decodeSets_short (version templateSetId : Nat) (table : Table) (templates : List Template)
    (records : List Record) {rest : List UInt8} (h : rest.length < 4) :
    decodeSets version templateSetId table templates records rest =
      (table, .ok (templates, records)) := by
  rw [decodeSets, dif_neg (Nat.not_le.mpr h)]

theorem handleSet_templates {version templateSetId : Nat} {payload : List UInt8}
    {templates : List Template} (h : parseTemplateSet version payload = .ok templates)
    (table : Table) :
    handleSet version templateSetId table templateSetId payload =
      .ok (learn table templates, templates, []) := by
  rw [handleSet, if_pos rfl, h]
  rfl

/-- The sets that do not raise: a template set, a data set without a known
template, and a data set that can be read. -/
theorem handleSet_eq_ok {version templateSetId id : Nat} {table table' : Table}
    {payload : List UInt8} {new : List Template} {found : List Record}
    (h : handleSet version templateSetId table id payload = .ok (table', new, found)) :
    (id = templateSetId ∧ parseTemplateSet version payload = .ok new ∧
      table' = learn table new ∧ found = []) ∨
    (id ≠ templateSetId ∧ 256 ≤ id ∧ table' = table ∧ new = [] ∧
      (Dict.get? table id = none ∧ found = [] ∨
        ∃ t, Dict.get? table id = some t ∧ parseDataSet payload t = .ok found)) := by
  rw [handleSet] at h
  split at h
  · next hid =>
    obtain ⟨templates, hp, h⟩ := bind_eq_ok h
    cases h
    exact .inl ⟨hid, hp, rfl, rfl⟩
  · next hid =>
    split at h
    · cases h
    · next hres =>
      refine .inr ⟨hid, Nat.not_lt.mp hres, ?_⟩
      split at h
      · next hget =>
        cases h
        exact ⟨rfl, rfl, .inl ⟨hget, rfl⟩⟩
      · next t hget =>
        obtain ⟨records, hp, h⟩ := bind_eq_ok h
        cases h
        exact ⟨rfl, rfl, .inr ⟨t, hget, hp⟩⟩

theorem handleSet_unknown (version : Nat) {templateSetId id : Nat} {table : Table}
    (payload : List UInt8) (hid : templateSetId < 256) (hge : 256 ≤ id)
    (h : Dict.get? table id = none) :
    handleSet version templateSetId table id payload = .ok (table, [], []) := by
  rw [handleSet, if_neg (by omega), if_neg (by omega), h]

theorem handleSet_data (version : Nat) {templateSetId id : Nat} {table : Table}
    {payload : List UInt8} {t : Template} {records : List Record} (hid : templateSetId < 256)
    (hge : 256 ≤ id) (h : Dict.get? table id = some t)
    (hp : parseDataSet payload t = .ok records) :
    handleSet version templateSetId table id payload = .ok (table, [], records) := by
  rw [handleSet, if_neg (by omega), if_neg (by omega), h]
  dsimp only
  rw [hp]
  rfl

/-- The table after a message: the template set, if there is one, is stored
under its own id. -/
def learned (t : Export.Templates.Template) (flag : Bool) (table : Table) : Table :=
  if flag then Dict.set table t.templateId.toNat (announcedTemplate t) else table

def announcements (t : Export.Templates.Template) (flag : Bool) : List Template :=
  if flag then [announcedTemplate t] else []

def collectorSetId (p : Protocol) : Nat :=
  match p with
  | .ipfix => ipfixTemplateSetId
  | .netflow9 => netflow9TemplateFlowsetId

theorem toNat_templateSetId (p : Protocol) :
    (Export.Templates.templateSetId p).toNat = collectorSetId p := by
  cases p <;> rfl

theorem decodeSets_templatePart {t : Export.Templates.Template} (hu : Usable t) (hk : Known t)
    (flag : Bool) (table : Table) (records : List Record) (rest : List UInt8) :
    decodeSets (Export.Templates.version t.protocol).toNat (collectorSetId t.protocol) table []
        records (templatePart t flag ++ rest) =
      decodeSets (Export.Templates.version t.protocol).toNat (collectorSetId t.protocol)
        (learned t flag table) (announcements t flag) records rest := by
  cases flag with
  | false => rfl
  | true =>
    have hset := length_templateSet t
    have hpad := alignUp_lt (templateRecord t).length (setAlignment_pos t.protocol)
    have hal := setAlignment_le t.protocol
    have hsize : setSize t =
        Export.Templates.alignUp (templateRecord t).length (setAlignment t.protocol) := by
      rw [length_templateRecord, setSize]
    have hk4 : setSize t - (templateRecord t).length < 4 := by omega
    have hle := hu.setSize_le
    have hframe : templatePart t true ++ rest = beBytes 2 (collectorSetId t.protocol) ++
        (beBytes 2 (setSize t) ++ ((beBytes 2 t.templateId.toNat ++ (beBytes 2 t.fields.length ++
          (t.fields.flatMap specifierBytes ++
            zeros (setSize t - (templateRecord t).length)))) ++ rest)) := by
      rw [← toNat_templateSetId]
      simp only [templatePart, if_true, templateSet, templateRecord, List.append_assoc]
    have hid : collectorSetId t.protocol < 65536 := by
      cases t.protocol <;> decide
    have hl : setSize t = 4 + (beBytes 2 t.templateId.toNat ++ (beBytes 2 t.fields.length ++
        (t.fields.flatMap specifierBytes ++
          zeros (setSize t - (templateRecord t).length)))).length := by
      have hge := le_alignUp (templateRecord t).length (setAlignment_pos t.protocol)
      have hrec := length_templateRecord t
      simp only [List.length_append, length_beBytes, length_zeros, length_specifiers]
      simp only [setHeaderLen] at hrec
      omega
    rw [hframe, decodeSets_set rest hid hl (by omega)
      (handleSet_templates (parseTemplateSet_record hu hk hk4) table), List.append_nil]
    rfl

theorem parseDataSet_records {t : Export.Templates.Template} (hu : Usable t) (hk : Known t)
    (events : List ConntrackEvent) {k : Nat} (hlt : k < t.recordSize) :
    parseDataSet (records t events ++ zeros k) (announcedTemplate t) =
      .ok (events.map (reportedRecord t.fields)) := by
  have hpos : 0 < recordSize (announcedTemplate t) := by
    have hge := hu.recordSize_ge
    rw [recordSize_announced, ← hu.recordSize_eq]
    omega
  rw [parseDataSet, dif_pos hpos, parseRecords_records hu hk events hlt]

theorem collectorSetId_lt (p : Protocol) : collectorSetId p < 256 := by
  cases p <;> decide

/-- The data set of a message, with its padding. -/
def dataPayload (t : Export.Templates.Template) (events : List ConntrackEvent) : List UInt8 :=
  records t events ++
    zeros (dataSetSize t events.length - (setHeaderLen + events.length * t.recordSize))

/-- A data set comes to what the collector finds in it, which is nothing if there
is no data set. -/
theorem decodeSets_dataPart {t : Export.Templates.Template} (hu : Usable t) {table : Table}
    (templates : List Template) {events : List ConntrackEvent} {found : List Record}
    (hfound : handleSet (Export.Templates.version t.protocol).toNat (collectorSetId t.protocol)
      table t.templateId.toNat (dataPayload t events) = .ok (table, [], found))
    (hnone : events = [] → found = []) (hmax : dataSetSize t events.length ≤ maxMsgSize) :
    decodeSets (Export.Templates.version t.protocol).toNat (collectorSetId t.protocol) table
        templates [] (dataPart t events) = (table, .ok (templates, found)) := by
  by_cases he : events = []
  · rw [hnone he, he, dataPart, if_pos rfl]
    exact decodeSets_short _ _ _ _ _ (by decide)
  · have hlen := length_records hu events
    have hge := openLen_le_dataSetSize t events.length
    have hframe : dataPart t events = beBytes 2 t.templateId.toNat ++
        (beBytes 2 (dataSetSize t events.length) ++ (dataPayload t events ++ [])) := by
      simp only [dataPart, dataPayload, if_neg he, List.append_assoc, List.append_nil]
    have hl : dataSetSize t events.length = 4 + (dataPayload t events).length := by
      simp only [dataPayload, List.length_append, length_zeros, hlen, setHeaderLen] at hge ⊢
      omega
    simp only [maxMsgSize] at hmax
    rw [hframe, decodeSets_set [] t.templateId.toNat_lt hl (by omega) hfound, List.append_nil,
      List.nil_append]
    exact decodeSets_short _ _ _ _ _ (by decide)

theorem handleSet_known {t : Export.Templates.Template} (hu : Usable t) (hk : Known t)
    {table : Table} (ht : Dict.get? table t.templateId.toNat = some (announcedTemplate t))
    (events : List ConntrackEvent) :
    handleSet (Export.Templates.version t.protocol).toNat (collectorSetId t.protocol) table
      t.templateId.toNat (dataPayload t events) =
        .ok (table, [], events.map (reportedRecord t.fields)) := by
  have hlt := dataSetSize_lt t events.length
  have hal := setAlignment_le t.protocol
  have hrec := hu.recordSize_ge
  exact handleSet_data _ (collectorSetId_lt _) hu.templateId_ge ht
    (parseDataSet_records hu hk events (by omega))

theorem decodeSets_body {t : Export.Templates.Template} (hu : Usable t) (hk : Known t)
    (flag : Bool) {table : Table} (events : List ConntrackEvent)
    (ht : Dict.get? (learned t flag table) t.templateId.toNat = some (announcedTemplate t))
    (hmax : dataSetSize t events.length ≤ maxMsgSize) :
    decodeSets (Export.Templates.version t.protocol).toNat (collectorSetId t.protocol) table [] []
        (templatePart t flag ++ dataPart t events) =
      (learned t flag table, .ok (announcements t flag, events.map (reportedRecord t.fields))) := by
  rw [decodeSets_templatePart hu hk]
  apply decodeSets_dataPart hu _ (handleSet_known hu hk ht events) _ hmax
  rintro rfl
  rfl

theorem parseHeader_ipfix {length seconds sequenceNumber domain : Nat} (body : List UInt8)
    (hl : length = 16 + body.length) (hlt : length < 65536) (ht : seconds < 2 ^ 32)
    (hs : sequenceNumber < 2 ^ 32) (hd : domain < 2 ^ 32) {bytes : List UInt8}
    (hb : bytes = beBytes 2 ipfixVersion ++ (beBytes 2 length ++ (beBytes 4 seconds ++
      (beBytes 4 sequenceNumber ++ (beBytes 4 domain ++ body))))) :
    parseHeader bytes = .ok ⟨ipfixVersion, sequenceNumber, domain, seconds, none,
      ipfixTemplateSetId, ipfixHeaderLen⟩ := by
  have h0 := u16At_first (w := length) (beBytes 4 seconds ++ (beBytes 4 sequenceNumber ++
    (beBytes 4 domain ++ body))) (show ipfixVersion < 65536 by decide)
  have h2 := u16At_second (v := ipfixVersion) (beBytes 4 seconds ++ (beBytes 4 sequenceNumber ++
    (beBytes 4 domain ++ body))) hlt
  have h4 := u32At_append (beBytes 2 ipfixVersion ++ beBytes 2 length)
    (beBytes 4 sequenceNumber ++ (beBytes 4 domain ++ body)) (k := 4) (by simp) ht
  have h8 := u32At_append (beBytes 2 ipfixVersion ++ beBytes 2 length ++ beBytes 4 seconds)
    (beBytes 4 domain ++ body) (k := 8) (by simp) hs
  have h12 := u32At_append (beBytes 2 ipfixVersion ++ beBytes 2 length ++ beBytes 4 seconds ++
    beBytes 4 sequenceNumber) body (k := 12) (by simp) hd
  have hlen : bytes.length = length := by
    simp only [hb, List.length_append, length_beBytes]
    omega
  simp only [List.append_assoc, ← hb] at h0 h2 h4 h8 h12
  rw [parseHeader, if_neg (by omega), h0, h2, h4, h8, h12, hlen, if_pos rfl,
    if_neg (by simp only [ipfixHeaderLen]; omega), if_neg (not_not_intro rfl)]

theorem parseHeader_netflow9 {count uptime seconds sequenceNumber domain : Nat} (body : List UInt8)
    (hc : count < 65536) (ht : seconds < 2 ^ 32) (hs : sequenceNumber < 2 ^ 32)
    (hd : domain < 2 ^ 32) {bytes : List UInt8}
    (hb : bytes = beBytes 2 netflow9Version ++ (beBytes 2 count ++ (beBytes 4 uptime ++
      (beBytes 4 seconds ++ (beBytes 4 sequenceNumber ++ (beBytes 4 domain ++ body)))))) :
    parseHeader bytes = .ok ⟨netflow9Version, sequenceNumber, domain, seconds, some count,
      netflow9TemplateFlowsetId, netflow9HeaderLen⟩ := by
  have h0 := u16At_first (w := count) (beBytes 4 uptime ++ (beBytes 4 seconds ++
    (beBytes 4 sequenceNumber ++ (beBytes 4 domain ++ body)))) (show netflow9Version < 65536 by decide)
  have h2 := u16At_second (v := netflow9Version) (beBytes 4 uptime ++ (beBytes 4 seconds ++
    (beBytes 4 sequenceNumber ++ (beBytes 4 domain ++ body)))) hc
  have h8 := u32At_append (beBytes 2 netflow9Version ++ beBytes 2 count ++ beBytes 4 uptime)
    (beBytes 4 sequenceNumber ++ (beBytes 4 domain ++ body)) (k := 8) (by simp) ht
  have h12 := u32At_append (beBytes 2 netflow9Version ++ beBytes 2 count ++ beBytes 4 uptime ++
    beBytes 4 seconds) (beBytes 4 domain ++ body) (k := 12) (by simp) hs
  have h16 := u32At_append (beBytes 2 netflow9Version ++ beBytes 2 count ++ beBytes 4 uptime ++
    beBytes 4 seconds ++ beBytes 4 sequenceNumber) body (k := 16) (by simp) hd
  have hlen : 20 ≤ bytes.length := by
    simp only [hb, List.length_append, length_beBytes]
    omega
  simp only [List.append_assoc, ← hb] at h0 h2 h8 h12 h16
  rw [parseHeader, if_neg (by omega), h0, h2, h8, h12, h16, if_neg (by decide), if_pos rfl,
    if_neg (by simp only [netflow9HeaderLen]; omega)]

/-- What the collector should make of one message. -/
def understood (t : Export.Templates.Template) (flag : Bool) (events : List ConntrackEvent)
    (sequenceNumber domain : UInt32) (started : Instant) (stamp : Stamp) : Message where
  version := (Export.Templates.version t.protocol).toNat
  sequenceNumber := sequenceNumber.toNat
  domainId := domain.toNat
  exportTime := (unixSecs stamp).toNat
  count := match t.protocol with
    | .ipfix => none
    | .netflow9 => some (events.length + flag.toNat)
  templates := announcements t flag
  records := events.map (reportedRecord t.fields)
  raw := messageBytes t flag events sequenceNumber domain started stamp

theorem parseHeader_messageBytes {t : Export.Templates.Template} (hu : Usable t) (flag : Bool)
    (events : List ConntrackEvent) (sequenceNumber domain : UInt32) (started : Instant)
    (stamp : Stamp) (hmax : closedLen t flag events.length ≤ maxMsgSize)
    (hcount : events.length + flag.toNat < 65536) :
    parseHeader (messageBytes t flag events sequenceNumber domain started stamp) =
      .ok ⟨(Export.Templates.version t.protocol).toNat, sequenceNumber.toNat, domain.toNat,
        (unixSecs stamp).toNat,
        (understood t flag events sequenceNumber domain started stamp).count,
        collectorSetId t.protocol, headerLen t.protocol⟩ := by
  have hlen := length_messageBytes hu flag events sequenceNumber domain started stamp
  rw [messageBytes, List.length_append, length_headerBytes] at hlen
  simp only [maxMsgSize] at hmax
  cases hp : t.protocol with
  | ipfix =>
    rw [hp] at hlen
    have hm : messageBytes t flag events sequenceNumber domain started stamp =
        beBytes 2 ipfixVersion ++ (beBytes 2 (closedLen t flag events.length) ++
          (beBytes 4 (unixSecs stamp).toNat ++ (beBytes 4 sequenceNumber.toNat ++
            (beBytes 4 domain.toNat ++ (templatePart t flag ++ dataPart t events))))) := by
      simp only [messageBytes, headerBytes, hp, List.append_assoc]
      rfl
    rw [parseHeader_ipfix _ hlen.symm (by omega) (unixSecs stamp).toNat_lt sequenceNumber.toNat_lt
      domain.toNat_lt hm]
    simp only [understood, hp]
    rfl
  | netflow9 =>
    have hm : messageBytes t flag events sequenceNumber domain started stamp =
        beBytes 2 netflow9Version ++ (beBytes 2 (events.length + flag.toNat) ++
          (beBytes 4 (uptimeMs started stamp).toNat ++ (beBytes 4 (unixSecs stamp).toNat ++
            (beBytes 4 sequenceNumber.toNat ++ (beBytes 4 domain.toNat ++
              (templatePart t flag ++ dataPart t events)))))) := by
      simp only [messageBytes, headerBytes, hp, List.append_assoc]
      rfl
    rw [parseHeader_netflow9 _ hcount (unixSecs stamp).toNat_lt sequenceNumber.toNat_lt
      domain.toNat_lt hm]
    simp only [understood, hp]
    rfl

/-- A message is read as the sets in its body are. -/
theorem receive_of_sets {t : Export.Templates.Template} (hu : Usable t) (flag : Bool)
    (events : List ConntrackEvent) (sequenceNumber domain : UInt32) (started : Instant)
    (stamp : Stamp) {table table' : Table} {templates : List Template} {found : List Record}
    (hsets : decodeSets (Export.Templates.version t.protocol).toNat (collectorSetId t.protocol)
      table [] [] (templatePart t flag ++ dataPart t events) = (table', .ok (templates, found)))
    (hmax : closedLen t flag events.length ≤ maxMsgSize)
    (hcount : events.length + flag.toNat < 65536) :
    receive table (messageBytes t flag events sequenceNumber domain started stamp) =
      (table', .ok { understood t flag events sequenceNumber domain started stamp with
        templates := templates
        records := found }) := by
  rw [receive, parseHeader_messageBytes hu flag events sequenceNumber domain started stamp hmax hcount]
  simp only [drop_messageBytes, hsets]
  rfl

theorem decode_iff_receive {table table' : Table} {datagram : List UInt8} {m : Message} :
    decode datagram table = .ok (m, table') ↔ receive table datagram = (table', .ok m) := by
  rw [decode]
  generalize receive table datagram = r
  obtain ⟨table'', e | m'⟩ := r
  · constructor <;> intro h <;> cases h
  · constructor <;> intro h <;> cases h <;> rfl

theorem dataSetSize_le_of_closedLen {t : Export.Templates.Template} {flag : Bool} {count : Nat}
    (h : closedLen t flag count ≤ maxMsgSize) : dataSetSize t count ≤ maxMsgSize := by
  by_cases hc : count = 0
  · have hlt := dataSetSize_lt t 0
    have hal := setAlignment_le t.protocol
    rw [hc]
    simp only [maxMsgSize, setHeaderLen] at hlt ⊢
    omega
  · rw [closedLen, if_neg hc] at h
    omega

end NatStream.Collector.RoundTrip
