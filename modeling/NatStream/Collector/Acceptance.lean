import NatStream.Collector.Grammar
import NatStream.Collector.RoundTrip

namespace NatStream.Collector.Acceptance

open NatStream.Lib.Bytes NatStream.Collector.FlowDecode NatStream.Collector.Reading
open NatStream.Collector.Grammar NatStream.Collector.RoundTrip

section Dictionary

variable {κ ν : Type} [DecidableEq κ]

theorem lookup_filter_ne {d : List (κ × ν)} {k j : κ} (h : j ≠ k) :
    (d.filter fun p => p.1 ≠ k).lookup j = d.lookup j := by
  induction d with
  | nil => rfl
  | cons p d ih =>
    obtain ⟨i, v⟩ := p
    by_cases hi : i = k
    · have hij : (j == i) = false := beq_false_of_ne (hi ▸ h)
      rw [List.filter_cons_of_neg (by simpa using hi), ih, List.lookup_cons, hij]
    · rw [List.filter_cons_of_pos (by simpa using hi), List.lookup_cons, List.lookup_cons, ih]

theorem lookup_gathered_self (k : κ) (v : ν) (entries : List (κ × ν)) :
    (gathered ((k, v) :: entries)).lookup k = some (((gathered entries).lookup k).getD v) := by
  rw [gathered, List.lookup_cons, beq_self_eq_true]

theorem lookup_gathered_of_ne {k j : κ} (h : j ≠ k) (v : ν) (entries : List (κ × ν)) :
    (gathered ((k, v) :: entries)).lookup j = (gathered entries).lookup j := by
  rw [gathered, List.lookup_cons, beq_false_of_ne h]
  exact lookup_filter_ne h

theorem set_of_mem {d : Dict κ ν} {k : κ} (v : ν) (h : k ∈ d.map Prod.fst) :
    Dict.set d k v = d.map fun p => if p.1 = k then (k, v) else p := by
  apply if_pos
  simpa using h

theorem keys_replace (d : Dict κ ν) (k : κ) (v : ν) :
    (d.map fun p => if p.1 = k then (k, v) else p).map Prod.fst = d.map Prod.fst := by
  rw [List.map_map]
  apply List.map_congr_left
  intro p _
  by_cases hp : p.1 = k <;> simp [hp]

/-- Setting one entry after the other leaves what is already there in place,
with its last value, and adds the rest. -/
theorem foldl_set (entries : List (κ × ν)) (d : Dict κ ν) :
    entries.foldl (fun d p => Dict.set d p.1 p.2) d =
      d.map (fun p => (p.1, ((gathered entries).lookup p.1).getD p.2)) ++
        (gathered entries).filter fun p => p.1 ∉ d.map Prod.fst := by
  induction entries generalizing d with
  | nil => simp [gathered]
  | cons e entries ih =>
    obtain ⟨k, v⟩ := e
    rw [List.foldl_cons, ih]
    by_cases hk : k ∈ d.map Prod.fst
    · rw [set_of_mem v hk, keys_replace, List.map_map]
      congr 1
      · apply List.map_congr_left
        intro p _
        by_cases hp : p.1 = k
        · simp [hp, lookup_gathered_self]
        · simp [hp, lookup_gathered_of_ne hp]
      · rw [gathered, List.filter_cons_of_neg (by simpa using hk), List.filter_filter]
        apply List.filter_congr
        intro p _
        by_cases hp : p.1 = k
        · simp [hp, hk]
        · simp [hp]
    · rw [set_of_not_mem v hk, List.map_append, List.map_append, List.append_assoc]
      congr 1
      · apply List.map_congr_left
        intro p hp
        have hpk : p.1 ≠ k := fun h => hk (h ▸ List.mem_map_of_mem hp)
        rw [lookup_gathered_of_ne hpk]
      · rw [gathered, List.filter_cons_of_pos (by simpa using hk), List.filter_filter, List.map_cons,
          List.map_nil, List.cons_append, List.nil_append]
        congr 1
        apply List.filter_congr
        intro p _
        rw [← Bool.decide_and]
        apply decide_eq_decide.mpr
        rw [List.mem_append, not_or]
        simp

theorem foldl_set_nil (entries : List (κ × ν)) :
    entries.foldl (fun d p => Dict.set d p.1 p.2) [] = gathered entries := by
  rw [foldl_set]
  simp

end Dictionary

theorem mem_addressFields (name : ElementName) : name ∈ addressFields ↔ isAddress name = true := by
  cases name <;> simp [addressFields, isAddress]

theorem decodeValue_iff {name : ElementName} {raw : List UInt8} {v : Value} :
    decodeValue name raw = .ok v ↔ Reads name raw v := by
  constructor
  · intro h
    rw [decodeValue] at h
    split at h
    · next hname =>
      split at h
      · cases h
      · next hlen =>
        cases h
        obtain ⟨a, b, c, d, rfl⟩ := List.length_eq_four.mp (not_not.mp hlen)
        exact .address a b c d ((mem_addressFields name).mp hname)
    · next hname =>
      cases h
      have hnot : isAddress name = false :=
        Bool.eq_false_iff.mpr fun h => hname ((mem_addressFields name).mpr h)
      have hreads := Reads.number hnot (beNat_lt raw)
      rwa [beBytes_beNat] at hreads
  · intro h
    cases h with
    | address a b c d hname =>
      rw [decodeValue, if_pos ((mem_addressFields name).mpr hname), if_neg (by simp)]
      rfl
    | number hname hv =>
      have hnot : name ∉ addressFields := by
        rw [mem_addressFields, hname]
        decide
      rw [decodeValue, if_neg hnot, beNat_beBytes hv]

theorem parseRecord_sound {fields : List Field} {bytes : List UInt8} {record result : Record}
    (hlen : (fields.map fun f => f.length).sum ≤ bytes.length)
    (h : parseRecord record fields bytes = .ok result) :
    ∃ entries, IsRecord fields (bytes.take (fields.map fun f => f.length).sum) entries ∧
      result = entries.foldl (fun d p => Dict.set d p.1 p.2) record := by
  induction fields generalizing bytes record with
  | nil =>
    cases h
    exact ⟨[], .nil, rfl⟩
  | cons f fields ih =>
    rw [List.map_cons, List.sum_cons] at hlen ⊢
    have hcell : (bytes.take f.length).length = f.length := by
      rw [List.length_take]
      omega
    rw [parseRecord] at h
    obtain ⟨v, hv, h⟩ := bind_eq_ok h
    obtain ⟨entries, hrecord, hresult⟩ := ih (by rw [List.length_drop]; omega) h
    rw [List.take_add]
    exact ⟨(f.name, v) :: entries, .cons hcell (decodeValue_iff.mp hv) hrecord, hresult⟩

theorem parseRecord_complete {fields : List Field} {bytes : List UInt8}
    {entries : List (ElementName × Value)} (h : IsRecord fields bytes entries) (record : Record)
    (rest : List UInt8) : parseRecord record fields (bytes ++ rest) =
      .ok (entries.foldl (fun d p => Dict.set d p.1 p.2) record) := by
  induction h generalizing record with
  | nil => rfl
  | cons hcell hv _ ih =>
    rw [parseRecord, List.append_assoc, List.take_left' hcell, List.drop_left' hcell,
      decodeValue_iff.mpr hv]
    exact ih _

theorem parseRecords_sound {t : Template} {hpos : 0 < recordSize t} {payload : List UInt8}
    {records : List Record} (h : parseRecords t hpos payload = .ok records) :
    IsRecords t payload records := by
  fun_induction parseRecords t hpos payload generalizing records with
  | case1 payload hmore ih =>
    obtain ⟨record, hr, h⟩ := bind_eq_ok h
    obtain ⟨others, hp, h⟩ := bind_eq_ok h
    cases h
    obtain ⟨entries, hrecord, rfl⟩ := parseRecord_sound hmore hr
    have hcons := IsRecords.cons hrecord (ih hp)
    rw [← recordSize, List.take_append_drop] at hcons
    rw [foldl_set_nil]
    exact hcons
  | case2 payload hshort =>
    cases h
    exact .unread (Nat.not_le.mp hshort)

theorem parseRecords_complete {t : Template} (hpos : 0 < recordSize t) {payload : List UInt8}
    {records : List Record} (h : IsRecords t payload records) :
    parseRecords t hpos payload = .ok records := by
  induction h with
  | unread hshort =>
    rw [recordLen, ← recordSize] at hshort
    rw [parseRecords, dif_neg (Nat.not_le.mpr hshort)]
  | @cons bytes rest entries records hrecord _ ih =>
    have hlen : bytes.length = recordSize t := hrecord.length_eq
    rw [parseRecords, dif_pos (by rw [List.length_append]; omega), List.drop_left' hlen, ih,
      parseRecord_complete hrecord, foldl_set_nil]
    rfl

theorem parseDataSet_iff {t : Template} {payload : List UInt8} {records : List Record} :
    parseDataSet payload t = .ok records ↔ 0 < recordLen t ∧ IsRecords t payload records := by
  rw [parseDataSet]
  split
  · next hpos => exact ⟨fun h => ⟨hpos, parseRecords_sound h⟩, fun h => parseRecords_complete hpos h.2⟩
  · next hpos =>
    refine ⟨fun h => ?_, fun h => absurd h.1 hpos⟩
    cases h

theorem set_split {bytes : List UInt8} {length : Nat} (h : 4 ≤ bytes.length)
    (hlength : u16At bytes 2 = length) (hmin : 4 ≤ length) (hle : length ≤ bytes.length) :
    bytes = setBytes (u16At bytes 0) ((bytes.take length).drop 4) ++ bytes.drop length := by
  have hpayload : ((bytes.take length).drop 4).length + 4 = length := by
    rw [List.length_drop, List.length_take]
    omega
  have hrest : (bytes.take length).drop 4 ++ bytes.drop length = bytes.drop 4 := by
    rw [List.drop_take]
    have hsum : bytes.drop length = (bytes.drop 4).drop (length - 4) := by
      rw [List.drop_drop]
      congr 1
      omega
    rw [hsum, List.take_append_drop]
  have hwords := words_split h
  rw [setBytes, hpayload, List.append_assoc, List.append_assoc, hrest, ← hlength]
  exact hwords

theorem handleSet_sound {version templateSetId id : Nat} {table table' : Table}
    {payload : List UInt8} {new : List Template} {found : List Record} (hv : Spoken version)
    (h : handleSet version templateSetId table id payload = .ok (table', new, found)) :
    IsSet version templateSetId (Dict.get? table) id payload (Dict.get? table') new found := by
  obtain ⟨rfl, hp, rfl, rfl⟩ | ⟨-, hge, rfl, rfl, ⟨hget, rfl⟩ | ⟨t, hget, hp⟩⟩ := handleSet_eq_ok h
  · rw [get?_learn]
    exact .templates (parseTemplateSet_sound hv hp)
  · exact .unknown hge hget
  · obtain ⟨hpos, hrecords⟩ := parseDataSet_iff.mp hp
    exact .data hge hget hpos hrecords

theorem handleSet_complete {version templateSetId id : Nat} {table : Table}
    {known : Knowledge} {payload : List UInt8} {new : List Template} {found : List Record}
    (hid : templateSetId < 256)
    (h : IsSet version templateSetId (Dict.get? table) id payload known new found) :
    ∃ table', handleSet version templateSetId table id payload = .ok (table', new, found) ∧
      Dict.get? table' = known := by
  cases h with
  | templates htemplates =>
    exact ⟨_, handleSet_templates (parseTemplateSet_complete htemplates) table, get?_learn table new⟩
  | unknown hge hget => exact ⟨table, handleSet_unknown version payload hid hge hget, rfl⟩
  | data hge hget hpos hrecords =>
    exact ⟨table, handleSet_data version hid hge hget (parseDataSet_iff.mpr ⟨hpos, hrecords⟩), rfl⟩

theorem decodeSets_sound {version templateSetId : Nat} {table table' : Table}
    {newTemplates templates : List Template} {records result : List Record} {rest : List UInt8}
    (hv : Spoken version)
    (h : decodeSets version templateSetId table newTemplates records rest =
      (table', .ok (templates, result))) :
    ∃ more found, templates = newTemplates ++ more ∧ result = records ++ found ∧
      IsSets version templateSetId (Dict.get? table) rest (Dict.get? table') more found := by
  fun_induction decodeSets version templateSetId table newTemplates records rest with
  | case1 | case2 | case3 => cases h
  | case4 table newTemplates records rest hlong setId setLength hmin hover table₁ new found hset ih =>
    have hsplit := set_split hlong rfl (Nat.not_lt.mp hmin) (Nat.not_lt.mp hover)
    have hbound := u16At_lt rest 2
    have hpayload : ((rest.take setLength).drop 4).length + 4 < 65536 := by
      simp only [List.length_drop, List.length_take]
      omega
    obtain ⟨more, others, rfl, rfl, hsets⟩ := ih h
    have hwhole := IsSets.cons (u16At_lt rest 0) hpayload (handleSet_sound hv hset) hsets
    rw [← hsplit] at hwhole
    exact ⟨new ++ more, found ++ others, List.append_assoc _ _ _, List.append_assoc _ _ _, hwhole⟩
  | case5 table newTemplates records rest hshort =>
    cases h
    exact ⟨[], [], (List.append_nil _).symm, (List.append_nil _).symm, .done (Nat.not_le.mp hshort)⟩

theorem decodeSets_complete {version templateSetId : Nat} {known known' : Knowledge}
    {bytes : List UInt8} {more : List Template} {found : List Record} (hid : templateSetId < 256)
    (h : IsSets version templateSetId known bytes known' more found) {table : Table}
    (htable : Dict.get? table = known) (newTemplates : List Template) (records : List Record) :
    ∃ table', decodeSets version templateSetId table newTemplates records bytes =
        (table', .ok (newTemplates ++ more, records ++ found)) ∧ Dict.get? table' = known' := by
  induction h generalizing table newTemplates records with
  | done hshort =>
    rw [decodeSets_short _ _ _ _ _ hshort, List.append_nil, List.append_nil]
    exact ⟨table, rfl, htable⟩
  | @cons known known₁ known' id payload rest new more found others hlt hlen hset _ ih =>
    rw [← htable] at hset
    obtain ⟨table₁, hhandled, htable₁⟩ := handleSet_complete hid hset
    obtain ⟨table', hrest, htable'⟩ := ih htable₁ (newTemplates ++ new) (records ++ found)
    have hframe : setBytes id payload ++ rest =
        beBytes 2 id ++ (beBytes 2 (payload.length + 4) ++ (payload ++ rest)) := by
      simp only [setBytes, List.append_assoc]
    rw [hframe, decodeSets_set rest hlt (Nat.add_comm _ _) hlen hhandled, hrest, List.append_assoc,
      List.append_assoc]
    exact ⟨table', rfl, htable'⟩

theorem ipfixHeader_split {bytes : List UInt8} (h : 16 ≤ bytes.length)
    (hv : u16At bytes 0 = 10) :
    bytes = ipfixHeader (u16At bytes 2) (u32At bytes 4) (u32At bytes 8) (u32At bytes 12) ++
      bytes.drop 16 := by
  have hwords := words_split (show 4 ≤ bytes.length by omega)
  have h4 : bytes.drop 4 = _ := drop_u32 4 (by omega)
  have h8 : bytes.drop 8 = _ := drop_u32 8 (by omega)
  have h12 : bytes.drop 12 = _ := drop_u32 12 (by omega)
  rw [h4, h8, h12, hv] at hwords
  simpa only [ipfixHeader, List.append_assoc] using hwords

theorem netflow9Header_split {bytes : List UInt8} (h : 20 ≤ bytes.length)
    (hv : u16At bytes 0 = 9) :
    bytes = netflow9Header (u16At bytes 2) (u32At bytes 4) (u32At bytes 8) (u32At bytes 12)
      (u32At bytes 16) ++ bytes.drop 20 := by
  have hwords := words_split (show 4 ≤ bytes.length by omega)
  have h4 : bytes.drop 4 = _ := drop_u32 4 (by omega)
  have h8 : bytes.drop 8 = _ := drop_u32 8 (by omega)
  have h12 : bytes.drop 12 = _ := drop_u32 12 (by omega)
  have h16 : bytes.drop 16 = _ := drop_u32 16 (by omega)
  rw [h4, h8, h12, h16, hv] at hwords
  simpa only [netflow9Header, List.append_assoc] using hwords

theorem ipfixHeader_append (length exportTime sequence domainId : Nat) (body : List UInt8) :
    ipfixHeader length exportTime sequence domainId ++ body =
      beBytes 2 ipfixVersion ++ (beBytes 2 length ++ (beBytes 4 exportTime ++
        (beBytes 4 sequence ++ (beBytes 4 domainId ++ body)))) := by
  simp only [ipfixHeader, ipfixVersion, List.append_assoc]

theorem netflow9Header_append (count uptime exportTime sequence domainId : Nat)
    (body : List UInt8) :
    netflow9Header count uptime exportTime sequence domainId ++ body =
      beBytes 2 netflow9Version ++ (beBytes 2 count ++ (beBytes 4 uptime ++
        (beBytes 4 exportTime ++ (beBytes 4 sequence ++ (beBytes 4 domainId ++ body))))) := by
  simp only [netflow9Header, netflow9Version, List.append_assoc]

theorem ipfix_sound {table table' : Table} {datagram : List UInt8} {templates : List Template}
    {records : List Record} (hv : u16At datagram 0 = 10) (hlen : 16 ≤ datagram.length)
    (hlength : u16At datagram 2 = datagram.length)
    (hs : decodeSets 10 2 table [] [] (datagram.drop 16) = (table', .ok (templates, records))) :
    IsPacket (Dict.get? table) datagram ⟨10, u32At datagram 8, u32At datagram 12,
      u32At datagram 4, none, templates, records, datagram⟩ (Dict.get? table') := by
  obtain ⟨more, found, rfl, rfl, hsets⟩ := decodeSets_sound (.inl rfl) hs
  have hsplit := ipfixHeader_split hlen hv
  have hbody : 16 + (datagram.drop 16).length = u16At datagram 2 := by
    rw [List.length_drop]
    omega
  have hpacket := IsPacket.ipfix (u32At_lt datagram 4) (u32At_lt datagram 8)
    (u32At_lt datagram 12) (by rw [hbody]; exact u16At_lt datagram 2) hsets
  rw [hbody, ← hsplit] at hpacket
  exact hpacket

theorem netflow9_sound {table table' : Table} {datagram : List UInt8} {templates : List Template}
    {records : List Record} (hv : u16At datagram 0 = 9) (hlen : 20 ≤ datagram.length)
    (hs : decodeSets 9 0 table [] [] (datagram.drop 20) = (table', .ok (templates, records))) :
    IsPacket (Dict.get? table) datagram ⟨9, u32At datagram 12, u32At datagram 16,
      u32At datagram 8, some (u16At datagram 2), templates, records, datagram⟩
      (Dict.get? table') := by
  obtain ⟨more, found, rfl, rfl, hsets⟩ := decodeSets_sound (.inr rfl) hs
  have hsplit := netflow9Header_split hlen hv
  have hpacket := IsPacket.netflow9 (u16At_lt datagram 2) (u32At_lt datagram 4)
    (u32At_lt datagram 8) (u32At_lt datagram 12) (u32At_lt datagram 16) hsets
  rw [← hsplit] at hpacket
  exact hpacket

theorem parseHeader_sound {datagram : List UInt8} {h : Header}
    (hp : parseHeader datagram = .ok h) :
    (u16At datagram 0 = 10 ∧ 16 ≤ datagram.length ∧ u16At datagram 2 = datagram.length ∧
      h = ⟨10, u32At datagram 8, u32At datagram 12, u32At datagram 4, none, 2, 16⟩) ∨
    (u16At datagram 0 = 9 ∧ 20 ≤ datagram.length ∧
      h = ⟨9, u32At datagram 12, u32At datagram 16, u32At datagram 8,
        some (u16At datagram 2), 0, 20⟩) := by
  rw [parseHeader] at hp
  split at hp
  · cases hp
  · dsimp only at hp
    split at hp
    · next hv =>
      split at hp
      · cases hp
      · next hlen =>
        split at hp
        · cases hp
        · next hlength =>
          cases hp
          exact .inl ⟨hv, Nat.not_lt.mp hlen, not_not.mp hlength, by rw [hv]; rfl⟩
    · split at hp
      · next hv =>
        split at hp
        · cases hp
        · next hlen =>
          cases hp
          exact .inr ⟨hv, Nat.not_lt.mp hlen, by rw [hv]; rfl⟩
      · cases hp

theorem receive_sound {table table' : Table} {datagram : List UInt8} {m : Message}
    (h : receive table datagram = (table', .ok m)) :
    IsPacket (Dict.get? table) datagram m (Dict.get? table') := by
  rw [receive] at h
  split at h
  · cases h
  · next header hp =>
    generalize hs : decodeSets header.version header.templateSetId table [] []
      (datagram.drop header.offset) = r at h
    obtain ⟨table₁, e | ⟨templates, records⟩⟩ := r
    · cases h
    · cases h
      obtain ⟨hv, hlen, hlength, rfl⟩ | ⟨hv, hlen, rfl⟩ := parseHeader_sound hp
      · exact ipfix_sound hv hlen hlength hs
      · exact netflow9_sound hv hlen hs

theorem receive_complete {table : Table} {known : Knowledge} {datagram : List UInt8} {m : Message}
    (h : IsPacket (Dict.get? table) datagram m known) :
    ∃ table', receive table datagram = (table', .ok m) ∧ Dict.get? table' = known := by
  cases h with
  | @ipfix _ body _ _ exportTime sequence domainId htime hseq hdom hlen hsets =>
    obtain ⟨table', hdecode, htable'⟩ := decodeSets_complete (by decide) hsets rfl [] []
    have hbody : (ipfixHeader (16 + body.length) exportTime sequence domainId ++ body).drop 16 =
        body := List.drop_left' (by simp [ipfixHeader])
    refine ⟨table', ?_, htable'⟩
    rw [receive, parseHeader_ipfix _ rfl hlen htime hseq hdom (ipfixHeader_append _ _ _ _ _)]
    simp only [ipfixVersion, ipfixTemplateSetId, ipfixHeaderLen, hbody, hdecode]
    rfl
  | @netflow9 _ body _ _ count uptime exportTime sequence domainId hcount _ htime hseq hdom hsets =>
    obtain ⟨table', hdecode, htable'⟩ := decodeSets_complete (by decide) hsets rfl [] []
    have hbody : (netflow9Header count uptime exportTime sequence domainId ++ body).drop 20 =
        body := List.drop_left' (by simp [netflow9Header])
    refine ⟨table', ?_, htable'⟩
    rw [receive, parseHeader_netflow9 _ hcount htime hseq hdom (netflow9Header_append _ _ _ _ _ _)]
    simp only [netflow9Version, netflow9TemplateFlowsetId, netflow9HeaderLen, hbody, hdecode]
    rfl

/-- The packets the collector accepts are exactly those of the grammar, and it
reads and learns from each what the grammar says. -/
theorem decode_iff_packet (table : Table) (datagram : List UInt8) (m : Message)
    (known : Knowledge) :
    (∃ table', decode datagram table = .ok (m, table') ∧ Dict.get? table' = known) ↔
      IsPacket (Dict.get? table) datagram m known := by
  constructor
  · rintro ⟨table', h, rfl⟩
    exact receive_sound (decode_iff_receive.mp h)
  · intro h
    obtain ⟨table', hreceive, htable'⟩ := receive_complete h
    exact ⟨table', decode_iff_receive.mpr hreceive, htable'⟩

end NatStream.Collector.Acceptance
