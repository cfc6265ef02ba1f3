import NatStream.Collector.Reading

namespace NatStream.Collector.Grammar

open NatStream.Lib.Bytes NatStream.Collector.FlowDecode NatStream.Collector.Reading

/-- The name of an information element. NetFlow v9 has numbers of its own for
the counters of the reverse direction; in IPFIX those are enterprise elements. -/
def nameOf (version : Nat) : Option Nat → Nat → ElementName
  | none, 1 => .octetDeltaCount
  | none, 2 => .packetDeltaCount
  | none, 4 => .protocolIdentifier
  | none, 7 => .sourceTransportPort
  | none, 8 => .sourceIPv4Address
  | none, 11 => .destinationTransportPort
  | none, 12 => .destinationIPv4Address
  | none, 23 => if version = 9 then .reverseOctetDeltaCount else .element 23
  | none, 24 => if version = 9 then .reversePacketDeltaCount else .element 24
  | none, 225 => .postNATSourceIPv4Address
  | none, 226 => .postNATDestinationIPv4Address
  | none, 227 => .postNAPTSourceTransportPort
  | none, 228 => .postNAPTDestinationTransportPort
  | none, 230 => .natEvent
  | none, id => .element id
  | some 29305, 1 => .reverseOctetDeltaCount
  | some 29305, 2 => .reversePacketDeltaCount
  | some pen, id => .enterprise pen id

def isAddress : ElementName → Bool
  | .sourceIPv4Address => true
  | .destinationIPv4Address => true
  | .postNATSourceIPv4Address => true
  | .postNATDestinationIPv4Address => true
  | _ => false

/-- A field specifier as it stands in a template record. -/
def specifier (f : Field) : List UInt8 :=
  match f.pen with
  | none => beBytes 2 f.elementId ++ beBytes 2 f.length
  | some pen => beBytes 2 (32768 + f.elementId) ++ (beBytes 2 f.length ++ beBytes 4 pen)

/-- The numbers fit their places, and only IPFIX has enterprise numbers. -/
structure FieldOk (version : Nat) (f : Field) : Prop where
  elementId_lt : f.elementId < 32768
  length_lt : f.length < 65536
  pen_lt : ∀ pen, f.pen = some pen → pen < 2 ^ 32
  ipfix : f.pen ≠ none → version = 10
  named : f.name = nameOf version f.pen f.elementId

def templateRecord (t : Template) : List UInt8 :=
  beBytes 2 t.templateId ++ (beBytes 2 t.fields.length ++ t.fields.flatMap specifier)

/-- A template record with number zero and no fields would read as zeros. -/
structure TemplateOk (version : Nat) (t : Template) : Prop where
  templateId_lt : t.templateId < 65536
  fields_lt : t.fields.length < 65536
  fields : ∀ f ∈ t.fields, FieldOk version f
  nonzero : t.templateId ≠ 0 ∨ t.fields.length ≠ 0

/-- What may be left unread of a template set. After four zero bytes it can be
anything, not only padding. -/
def Unread (bytes : List UInt8) : Prop := bytes.length < 4 ∨ [0, 0, 0, 0] <+: bytes

structure IsTemplates (version : Nat) (payload : List UInt8) (templates : List Template) : Prop where
  ok : ∀ t ∈ templates, TemplateOk version t
  bytes : ∃ unread, Unread unread ∧ payload = templates.flatMap templateRecord ++ unread

/-- What the bytes of a field stand for. -/
inductive Reads : ElementName → List UInt8 → Value → Prop where
  | address {name : ElementName} (a b c d : UInt8) : isAddress name = true →
      Reads name [a, b, c, d] (.text (toString a.toNat ++ "." ++ toString b.toNat ++ "." ++
        toString c.toNat ++ "." ++ toString d.toNat))
  | number {name : ElementName} {width v : Nat} : isAddress name = false → v < 256 ^ width →
      Reads name (beBytes width v) (.number v)

/-- One record, field by field, with the entries it gives. -/
inductive IsRecord : List Field → List UInt8 → List (ElementName × Value) → Prop where
  | nil : IsRecord [] [] []
  | cons {f : Field} {fields : List Field} {cell bytes : List UInt8} {v : Value}
      {entries : List (ElementName × Value)} : cell.length = f.length →
      Reads f.name cell v → IsRecord fields bytes entries →
      IsRecord (f :: fields) (cell ++ bytes) ((f.name, v) :: entries)

def recordLen (t : Template) : Nat := (t.fields.map fun f => f.length).sum

theorem IsRecord.length_eq {fields : List Field} {bytes : List UInt8}
    {entries : List (ElementName × Value)} (h : IsRecord fields bytes entries) :
    bytes.length = (fields.map fun f => f.length).sum := by
  induction h with
  | nil => rfl
  | cons hcell _ _ ih => simp [hcell, ih]

/-- One entry for each name: the first field of that name gives its place, the
last its value. -/
def gathered {κ ν : Type} [DecidableEq κ] : List (κ × ν) → List (κ × ν)
  | [] => []
  | (k, v) :: entries => (k, ((gathered entries).lookup k).getD v) ::
      (gathered entries).filter fun p => p.1 ≠ k

/-- Less than a record at the end of a data set is left unread. -/
inductive IsRecords (t : Template) : List UInt8 → List Record → Prop where
  | unread {bytes : List UInt8} : bytes.length < recordLen t → IsRecords t bytes []
  | cons {bytes rest : List UInt8} {entries : List (ElementName × Value)} {records : List Record} :
      IsRecord t.fields bytes entries → IsRecords t rest records →
      IsRecords t (bytes ++ rest) (gathered entries :: records)

/-- The templates a collector knows, by number. -/
abbrev Knowledge := Nat → Option Template

/-- The last template of a number is the one that counts. -/
def Knowledge.after (known : Knowledge) (templates : List Template) : Knowledge := fun id =>
  (templates.reverse.find? fun t => t.templateId = id).or (known id)

/-- A set and what it means to a collector that knows these templates: what it
then knows, the templates announced and the records read. A data set without a
known template is passed over. -/
inductive IsSet (version templateSetId : Nat) (known : Knowledge) :
    Nat → List UInt8 → Knowledge → List Template → List Record → Prop where
  | templates {payload : List UInt8} {new : List Template} : IsTemplates version payload new →
      IsSet version templateSetId known templateSetId payload (known.after new) new []
  | unknown {id : Nat} {payload : List UInt8} : 256 ≤ id → known id = none →
      IsSet version templateSetId known id payload known [] []
  | data {id : Nat} {t : Template} {payload : List UInt8} {records : List Record} : 256 ≤ id →
      known id = some t → 0 < recordLen t → IsRecords t payload records →
      IsSet version templateSetId known id payload known [] records

def setBytes (id : Nat) (payload : List UInt8) : List UInt8 :=
  beBytes 2 id ++ (beBytes 2 (payload.length + 4) ++ payload)

/-- The sets of a packet. Fewer than four bytes after them are left unread. -/
inductive IsSets (version templateSetId : Nat) :
    Knowledge → List UInt8 → Knowledge → List Template → List Record → Prop where
  | done {known : Knowledge} {rest : List UInt8} : rest.length < 4 →
      IsSets version templateSetId known rest known [] []
  | cons {known known₁ known' : Knowledge} {id : Nat} {payload rest : List UInt8}
      {new more : List Template} {found records : List Record} : id < 65536 →
      payload.length + 4 < 65536 → IsSet version templateSetId known id payload known₁ new found →
      IsSets version templateSetId known₁ rest known' more records →
      IsSets version templateSetId known (setBytes id payload ++ rest) known' (new ++ more)
        (found ++ records)

/-- The header of a packet, up to its sets. -/
def ipfixHeader (length exportTime sequence domainId : Nat) : List UInt8 :=
  beBytes 2 10 ++ (beBytes 2 length ++
    (beBytes 4 exportTime ++ (beBytes 4 sequence ++ beBytes 4 domainId)))

def netflow9Header (count uptime exportTime sequence domainId : Nat) : List UInt8 :=
  beBytes 2 9 ++ (beBytes 2 count ++ (beBytes 4 uptime ++
    (beBytes 4 exportTime ++ (beBytes 4 sequence ++ beBytes 4 domainId))))

/-- A packet and what it means to a collector that knows these templates. The
record count of NetFlow v9 is not compared with the sets. -/
inductive IsPacket (known : Knowledge) : List UInt8 → Message → Knowledge → Prop where
  | ipfix {known' : Knowledge} {body : List UInt8} {templates : List Template} {records : List Record}
      {exportTime sequence domainId : Nat} : exportTime < 2 ^ 32 → sequence < 2 ^ 32 →
      domainId < 2 ^ 32 → 16 + body.length < 65536 →
      IsSets 10 2 known body known' templates records →
      IsPacket known (ipfixHeader (16 + body.length) exportTime sequence domainId ++ body)
        ⟨10, sequence, domainId, exportTime, none, templates, records,
          ipfixHeader (16 + body.length) exportTime sequence domainId ++ body⟩ known'
  | netflow9 {known' : Knowledge} {body : List UInt8} {templates : List Template}
      {records : List Record} {count uptime exportTime sequence domainId : Nat} :
      count < 65536 → uptime < 2 ^ 32 → exportTime < 2 ^ 32 → sequence < 2 ^ 32 →
      domainId < 2 ^ 32 → IsSets 9 0 known body known' templates records →
      IsPacket known (netflow9Header count uptime exportTime sequence domainId ++ body)
        ⟨9, sequence, domainId, exportTime, some count, templates, records,
          netflow9Header count uptime exportTime sequence domainId ++ body⟩ known'

/-- A version the collector knows. -/
def Spoken (version : Nat) : Prop := version = 10 ∨ version = 9

theorem elementName_of_ne {version : Nat} (hv : version ≠ 9) (pen : Option Nat) (id : Nat) :
    elementName id pen version = nameOf version pen id := by
  have hplain : elementName id pen version = (ipfixElements.get? (pen, id)).getD
      (pen.elim (.element id) fun pen => .enterprise pen id) := by
    unfold elementName
    rw [if_neg (show version ≠ netflow9Version from hv)]
    cases ipfixElements.get? (pen, id) <;> cases pen <;> rfl
  rw [hplain]
  unfold nameOf
  split
  case h_8 => rw [if_neg hv]; rfl
  case h_9 => rw [if_neg hv]; rfl
  case h_15 =>
    rw [get?_eq_none]
    · rfl
    · simp [ipfixElements]
      grind
  case h_18 pen id hoctets hpackets =>
    rw [get?_eq_none]
    · rfl
    · simp only [ipfixElements, reversePen, List.forall_mem_cons]
      simp [eq_comm]
      exact ⟨fun h h' => hoctets h' h, fun h h' => hpackets h' h⟩
  all_goals rfl

theorem elementName_netflow9 (id : Nat) : elementName id none 9 = nameOf 9 none id := by
  by_cases hoctets : id = 23
  · rw [hoctets]
    rfl
  by_cases hpackets : id = 24
  · rw [hpackets]
    rfl
  have hnone : netflow9Elements.get? id = none := by
    apply get?_eq_none
    simp [netflow9Elements]
    omega
  have hsame : elementName id none 9 = elementName id none 10 := by
    unfold elementName
    rw [if_pos (by decide), hnone, if_neg (by decide)]
  rw [hsame, elementName_of_ne (by decide)]
  unfold nameOf
  split
  case h_8 => exact absurd rfl hoctets
  case h_9 => exact absurd rfl hpackets
  all_goals rfl

theorem elementName_eq {version : Nat} {pen : Option Nat} (h : pen ≠ none → version = 10)
    (id : Nat) : elementName id pen version = nameOf version pen id := by
  by_cases hv : version = 9
  · cases pen with
    | none =>
      rw [hv]
      exact elementName_netflow9 id
    | some pen =>
      have hten := h (Option.some_ne_none pen)
      omega
  · exact elementName_of_ne hv pen id

theorem get?_learn (table : Table) (templates : List Template) :
    Dict.get? (learn table templates) = Knowledge.after (Dict.get? table) templates := by
  induction templates generalizing table with
  | nil => rfl
  | cons t templates ih =>
    rw [learn, List.foldl_cons, ← learn, ih]
    funext id
    rw [Knowledge.after, Knowledge.after, List.reverse_cons, List.find?_append, Option.or_assoc]
    congr 1
    by_cases hid : t.templateId = id
    · rw [← hid, get?_set_self, List.find?_cons_of_pos (by simp)]
      rfl
    · rw [get?_set_of_ne table t (Ne.symm hid), List.find?_cons_of_neg (by simpa using hid)]
      rfl

theorem u16At_lt (bytes : List UInt8) (offset : Nat) : u16At bytes offset < 65536 := by
  have h := beNat_lt ((bytes.drop offset).take 2)
  have hlen : ((bytes.drop offset).take 2).length ≤ 2 := by
    rw [List.length_take]
    omega
  exact Nat.lt_of_lt_of_le h (Nat.pow_le_pow_right (by decide) hlen)

theorem u32At_lt (bytes : List UInt8) (offset : Nat) : u32At bytes offset < 2 ^ 32 := by
  have h := beNat_lt ((bytes.drop offset).take 4)
  have hlen : ((bytes.drop offset).take 4).length ≤ 4 := by
    rw [List.length_take]
    omega
  exact Nat.lt_of_lt_of_le h (Nat.pow_le_pow_right (by decide) hlen)

theorem drop_u16 {bytes : List UInt8} (offset : Nat) (h : offset + 2 ≤ bytes.length) :
    bytes.drop offset = beBytes 2 (u16At bytes offset) ++ bytes.drop (offset + 2) := by
  have hlen : ((bytes.drop offset).take 2).length = 2 := by
    rw [List.length_take, List.length_drop]
    omega
  have hword := beBytes_beNat ((bytes.drop offset).take 2)
  rw [hlen] at hword
  rw [u16At, hword, ← List.drop_drop, List.take_append_drop]

theorem drop_u32 {bytes : List UInt8} (offset : Nat) (h : offset + 4 ≤ bytes.length) :
    bytes.drop offset = beBytes 4 (u32At bytes offset) ++ bytes.drop (offset + 4) := by
  have hlen : ((bytes.drop offset).take 4).length = 4 := by
    rw [List.length_take, List.length_drop]
    omega
  have hword := beBytes_beNat ((bytes.drop offset).take 4)
  rw [hlen] at hword
  rw [u32At, hword, ← List.drop_drop, List.take_append_drop]

/-- Any four bytes are two words. -/
theorem words_split {bytes : List UInt8} (h : 4 ≤ bytes.length) :
    bytes = beBytes 2 (u16At bytes 0) ++ (beBytes 2 (u16At bytes 2) ++ bytes.drop 4) := by
  rw [← drop_u16 2 (by omega)]
  exact drop_u16 0 (by omega)

theorem and_enterpriseBit_eq_zero_iff {raw : Nat} (h : raw < 65536) :
    raw &&& enterpriseBit = 0 ↔ raw < 32768 := by
  refine ⟨fun hbit => ?_, and_enterpriseBit⟩
  by_contra hge
  have htest : raw.testBit 15 = true := by
    rw [Nat.testBit_eq_decide_div_mod_eq]
    exact decide_eq_true (by omega)
  change raw &&& 2 ^ 15 = 0 at hbit
  rw [Nat.and_two_pow, htest] at hbit
  exact absurd hbit (by decide)

theorem or_enterpriseBit {id : Nat} (h : id < 32768) : id ||| enterpriseBit = 32768 + id := by
  have hor := Nat.two_pow_add_eq_or_of_lt (i := 15) h 1
  rw [Nat.or_comm]
  exact hor.symm

theorem enterprise_split {raw : Nat} (h : raw < 65536) (hbit : raw &&& enterpriseBit ≠ 0) :
    raw &&& (enterpriseBit - 1) < 32768 ∧ 32768 + (raw &&& (enterpriseBit - 1)) = raw := by
  rw [ne_eq, and_enterpriseBit_eq_zero_iff h] at hbit
  have hmod : raw &&& (enterpriseBit - 1) = raw % 2 ^ 15 := Nat.and_two_pow_sub_one_eq_mod raw 15
  rw [hmod]
  omega

theorem parseSpecifier_sound {version taken : Nat} {bytes : List UInt8} {f : Field}
    (hv : Spoken version) (h : parseSpecifier version bytes = .ok (f, taken)) :
    FieldOk version f ∧ taken = (specifier f).length ∧ bytes = specifier f ++ bytes.drop taken := by
  rw [parseSpecifier] at h
  split at h
  · cases h
  · next hlen =>
    have hsplit : bytes = _ := words_split (Nat.not_lt.mp hlen)
    have hraw := u16At_lt bytes 0
    dsimp only at h
    split at h
    · next hent =>
      split at h
      · cases h
      · next hlong =>
        obtain ⟨hlt, hsum⟩ := enterprise_split hraw hent.2
        have hpen : bytes.drop 4 = _ := drop_u32 4 (Nat.not_lt.mp hlong)
        cases h
        refine ⟨⟨hlt, u16At_lt bytes 2, ?_, fun _ => hent.1, elementName_eq (fun _ => hent.1) _⟩,
          by simp [specifier], ?_⟩
        · intro pen heq
          rw [← Option.some.inj heq]
          exact u32At_lt bytes 4
        · rw [specifier, hsum, List.append_assoc, List.append_assoc, ← hpen]
          exact hsplit
    · next hent =>
      split at h
      · cases h
      · next hnine =>
        have hplain : u16At bytes 0 &&& enterpriseBit = 0 := by
          by_contra hbit
          obtain hten | hnv := hv
          · exact hent ⟨hten, hbit⟩
          · exact hnine ⟨hnv, hbit⟩
        cases h
        have hnone : (none : Option Nat) ≠ none → version = 10 := fun hne => absurd rfl hne
        refine ⟨⟨(and_enterpriseBit_eq_zero_iff hraw).mp hplain, u16At_lt bytes 2, ?_, hnone,
          elementName_eq hnone _⟩, by simp [specifier], ?_⟩
        · intro pen heq
          cases heq
        · rw [specifier, List.append_assoc]
          exact hsplit

theorem parseSpecifier_complete {version : Nat} {f : Field} (h : FieldOk version f)
    (rest : List UInt8) :
    parseSpecifier version (specifier f ++ rest) = .ok (f, (specifier f).length) := by
  obtain ⟨name, length, elementId, pen⟩ := f
  have hid : elementId < 32768 := h.elementId_lt
  have hlen : length < 65536 := h.length_lt
  have hname : name = elementName elementId pen version :=
    h.named.trans (elementName_eq h.ipfix elementId).symm
  subst hname
  cases pen with
  | none =>
    have hfirst := u16At_first (w := length) rest (Nat.lt_trans hid (by decide))
    have hsecond := u16At_second (v := elementId) rest hlen
    have hbytes : specifier ⟨elementName elementId none version, length, elementId, none⟩ ++ rest =
        beBytes 2 elementId ++ (beBytes 2 length ++ rest) := List.append_assoc _ _ _
    rw [parseSpecifier, hbytes, if_neg (by simp; omega)]
    simp only [hfirst, hsecond, and_enterpriseBit hid, ne_eq, not_true_eq_false, and_false, if_false]
    simp [specifier]
  | some pen =>
    have hten : version = 10 := h.ipfix (by simp)
    have hraw : elementId ||| enterpriseBit < 65536 :=
      Nat.or_lt_two_pow (n := 16) (Nat.lt_trans hid (by decide)) (by decide)
    have hfirst := u16At_first (w := length) (beBytes 4 pen ++ rest) hraw
    have hsecond := u16At_second (v := elementId ||| enterpriseBit) (beBytes 4 pen ++ rest) hlen
    have hthird : u32At (beBytes 2 (elementId ||| enterpriseBit) ++
        (beBytes 2 length ++ (beBytes 4 pen ++ rest))) 4 = pen := by
      rw [← List.append_assoc]
      exact u32At_append _ rest (by simp) (h.pen_lt pen rfl)
    have hbytes : specifier ⟨elementName elementId (some pen) version, length, elementId, some pen⟩ ++
        rest = beBytes 2 (elementId ||| enterpriseBit) ++
          (beBytes 2 length ++ (beBytes 4 pen ++ rest)) := by
      simp [specifier, or_enterpriseBit hid]
    rw [parseSpecifier, hbytes, if_neg (by simp; omega)]
    simp only [hfirst, hsecond, hthird, or_and_elementId hid]
    rw [if_pos ⟨hten, or_and_enterpriseBit elementId⟩, if_neg (by simp; omega)]
    simp [specifier]

theorem parseFields_sound {version count taken : Nat} {bytes : List UInt8} {fields : List Field}
    (hv : Spoken version) (h : parseFields version count bytes = .ok (fields, taken)) :
    fields.length = count ∧ (∀ f ∈ fields, FieldOk version f) ∧
      taken = (fields.flatMap specifier).length ∧
      bytes = fields.flatMap specifier ++ bytes.drop taken := by
  induction count generalizing bytes fields taken with
  | zero =>
    cases h
    simp
  | succ count ih =>
    rw [parseFields] at h
    obtain ⟨⟨f, n⟩, hs, h⟩ := bind_eq_ok h
    obtain ⟨⟨fs, m⟩, hp, h⟩ := bind_eq_ok h
    cases h
    obtain ⟨hf, hn, hbytes⟩ := parseSpecifier_sound hv hs
    obtain ⟨hlen, hok, hm, hrest⟩ := ih hp
    refine ⟨by rw [List.length_cons, hlen], ?_, ?_, ?_⟩
    · intro g hg
      obtain rfl | hmem := List.mem_cons.mp hg
      · exact hf
      · exact hok g hmem
    · rw [List.flatMap_cons, List.length_append, hn, hm]
    · rw [List.flatMap_cons, List.append_assoc, ← List.drop_drop, ← hrest]
      exact hbytes

theorem parseFields_complete {version : Nat} {fields : List Field}
    (h : ∀ f ∈ fields, FieldOk version f) (rest : List UInt8) :
    parseFields version fields.length (fields.flatMap specifier ++ rest) =
      .ok (fields, (fields.flatMap specifier).length) := by
  induction fields with
  | nil => rfl
  | cons f fs ih =>
    have hs := parseSpecifier_complete (h f List.mem_cons_self) (fs.flatMap specifier ++ rest)
    have ih' := ih fun g hg => h g (List.mem_cons_of_mem f hg)
    have hdrop : (specifier f ++ (fs.flatMap specifier ++ rest)).drop (specifier f).length =
        fs.flatMap specifier ++ rest := List.drop_left' rfl
    rw [List.flatMap_cons, List.append_assoc, List.length_cons, parseFields, hs, List.length_append]
    simp only [bind, Except.bind, hdrop, ih']
    rfl

theorem words_zero {v w : Nat} (hv : v < 65536) (hw : w < 65536) (rest : List UInt8)
    (h : (beBytes 2 v ++ (beBytes 2 w ++ rest)).take 4 = [0, 0, 0, 0]) : v = 0 ∧ w = 0 := by
  rw [← List.append_assoc, List.take_left' (by simp)] at h
  have hfirst := u16At_first (w := w) [] hv
  have hsecond := u16At_second (v := v) [] hw
  rw [List.append_nil, h] at hfirst hsecond
  exact ⟨hfirst.symm, hsecond.symm⟩

theorem unread_iff {bytes : List UInt8} :
    Unread bytes ↔ ¬ (4 ≤ bytes.length ∧ bytes.take 4 ≠ [0, 0, 0, 0]) := by
  rw [Unread, List.prefix_iff_eq_take, not_and_or, not_not, Nat.not_le, eq_comm]
  rfl

theorem parseTemplateSet_sound {version : Nat} {payload : List UInt8} {templates : List Template}
    (hv : Spoken version) (h : parseTemplateSet version payload = .ok templates) :
    IsTemplates version payload templates := by
  fun_induction parseTemplateSet version payload generalizing templates with
  | case1 payload hmore templateId fieldCount =>
    rename_i ih
    obtain ⟨⟨fields, taken⟩, hf, h⟩ := bind_eq_ok h
    obtain ⟨others, hp, h⟩ := bind_eq_ok h
    cases h
    obtain ⟨hlen, hok, htaken, hbytes⟩ := parseFields_sound hv hf
    obtain ⟨hothers, unread, hunread, hrest⟩ := ih taken hp
    have hsplit := words_split hmore.1
    refine ⟨?_, unread, hunread, ?_⟩
    · intro t ht
      obtain rfl | hmem := List.mem_cons.mp ht
      · refine ⟨u16At_lt payload 0, ?_, hok, ?_⟩
        · rw [hlen]
          exact u16At_lt payload 2
        · by_contra hzero
          rw [not_or, not_not, not_not, hlen] at hzero
          have hid : u16At payload 0 = 0 := hzero.1
          have hcount : u16At payload 2 = 0 := hzero.2
          apply hmore.2
          rw [hsplit, hid, hcount]
          rfl
      · exact hothers t hmem
    · rw [List.flatMap_cons, List.append_assoc, ← hrest, templateRecord, hlen,
        List.append_assoc, List.append_assoc, ← List.drop_drop, ← hbytes]
      exact hsplit
  | case2 payload hstop =>
    cases h
    exact ⟨by simp, payload, unread_iff.mpr hstop, rfl⟩

theorem parseTemplateSet_complete {version : Nat} {payload : List UInt8}
    {templates : List Template} (h : IsTemplates version payload templates) :
    parseTemplateSet version payload = .ok templates := by
  obtain ⟨hok, unread, hunread, rfl⟩ := h
  induction templates with
  | nil =>
    rw [List.flatMap_nil, List.nil_append, parseTemplateSet, dif_neg (unread_iff.mp hunread)]
  | cons t ts ih =>
    have ht := hok t List.mem_cons_self
    have ih' := ih fun u hu => hok u (List.mem_cons_of_mem t hu)
    have hbytes : (t :: ts).flatMap templateRecord ++ unread = beBytes 2 t.templateId ++
        (beBytes 2 t.fields.length ++
          (t.fields.flatMap specifier ++ (ts.flatMap templateRecord ++ unread))) := by
      simp [templateRecord]
    have hfields := parseFields_complete ht.fields (ts.flatMap templateRecord ++ unread)
    rw [hbytes, parseTemplateSet, dif_pos, u16At_first _ ht.templateId_lt,
      u16At_second _ ht.fields_lt, drop_words]
    · simp only [hfields, bind, Except.bind]
      rw [← List.drop_drop, drop_words, List.drop_left' rfl, ih']
      rfl
    · refine ⟨by simp; omega, fun hzero => ?_⟩
      obtain ⟨hid, hcount⟩ := words_zero ht.templateId_lt ht.fields_lt _ hzero
      obtain hne | hne := ht.nonzero
      · exact hne hid
      · exact hne hcount

/-- A template record after four zero bytes is not read. -/
example : parseTemplateSet 10
    ([0, 0, 0, 0] ++ templateRecord ⟨256, [⟨.natEvent, 1, 230, none⟩]⟩) = .ok [] := by
  rw [parseTemplateSet, dif_neg (by decide)]

end NatStream.Collector.Grammar
