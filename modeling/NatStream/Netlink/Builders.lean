import NatStream.Netlink.Datagrams

namespace NatStream.Netlink.Builders

open NatStream.Lib.Bytes NatStream.Lib.Slice NatStream.Lib.Frames
open NatStream.Events NatStream.Netlink.Parsers NatStream.Netlink.Attributes
open NatStream.Netlink.Reference NatStream.Netlink.Datagrams

def nlaFNested : UInt16 := 0x8000

/-- Push zeros until the length is a multiple of the alignment. -/
def padded (out : List UInt8) : List UInt8 :=
  if out.length % nlaAlignto ≠ 0 then padded (out ++ [0]) else out
termination_by (nlaAlignto - out.length % nlaAlignto) % nlaAlignto
decreasing_by
  simp only [nlaAlignto, List.length_append, List.length_singleton] at *
  omega

/-- One attribute; `none` is the panic of a length that does not fit. -/
def attr (en : Endian) (nlaType : UInt16) (payload : List UInt8) : Option (List UInt8) := do
  let len := nlaHdrlen + payload.length
  check (len < 65536)
  return padded (neBytes en 2 len ++ neBytes en 2 nlaType.toNat ++ payload)

def nested (en : Endian) (nlaType : UInt16) (children : List (List UInt8)) : Option (List UInt8) :=
  attr en (nlaType ||| nlaFNested) children.flatten

def tuple (en : Endian) (nlaType : UInt16) (t : Tuple) : Option (List UInt8) := do
  let ip ← nested en ctaTupleIp
    [← attr en ctaIpV4Src (octets t.srcIp), ← attr en ctaIpV4Dst (octets t.dstIp)]
  let proto ← nested en ctaTupleProto
    [← attr en ctaProtoNum [t.protocol],
      ← attr en ctaProtoSrcPort (beBytes 2 t.srcPort.toNat),
      ← attr en ctaProtoDstPort (beBytes 2 t.dstPort.toNat)]
  nested en nlaType [ip, proto]

def counters (en : Endian) (nlaType : UInt16) (c : Counters) : Option (List UInt8) := do
  nested en nlaType
    [← attr en ctaCountersPackets (beBytes 8 c.packets.toNat),
      ← attr en ctaCountersBytes (beBytes 8 c.bytes.toNat)]

def message (en : Endian) (nlmsgType : UInt16) (family : UInt8) (attrs : List (List UInt8)) :
    Option (List UInt8) := do
  let body := [family, 0, 0, 0] ++ attrs.flatten
  let len := nlmsgHdrlen + body.length
  check (len < 2 ^ 32)
  return padded (neBytes en 4 len ++ neBytes en 2 nlmsgType.toNat ++ neBytes en 2 0 ++
    neBytes en 4 0 ++ neBytes en 4 0 ++ body)

def ctEvent (en : Endian) (msgType family : UInt8) (attrs : List (List UInt8)) :
    Option (List UInt8) :=
  message en ((nfnlSubsysCtnetlink <<< 8) ||| msgType.toUInt16) family attrs

theorem padded_eq (out : List UInt8) :
    ∃ pad, padded out = out ++ pad ∧ out.length + pad.length = roundUp nlaAlignto out.length := by
  by_cases h : out.length % nlaAlignto ≠ 0
  · obtain ⟨pad, hp, hl⟩ := padded_eq (out ++ [0])
    refine ⟨0 :: pad, ?_, ?_⟩
    · rw [padded, if_pos h, hp, List.append_assoc, List.singleton_append]
    · simp only [roundUp, nlaAlignto, List.length_append, List.length_cons, List.length_nil] at h hl ⊢
      omega
  · refine ⟨[], ?_, ?_⟩
    · rw [padded, if_neg h, List.append_nil]
    · simp only [roundUp, nlaAlignto, List.length_nil] at h ⊢
      omega
termination_by (nlaAlignto - out.length % nlaAlignto) % nlaAlignto
decreasing_by
  simp only [nlaAlignto, List.length_append, List.length_singleton] at *
  omega

/-- The frames of padded pieces that are framed correctly are the pieces. -/
theorem frames_padded {fmt : Format} {frame : List UInt8} (h : WellFramed fmt frame)
    (ha : fmt.alignment = nlaAlignto) (rest : List UInt8) :
    frames fmt (padded frame ++ rest) = frame :: frames fmt rest := by
  obtain ⟨pad, hp, hl⟩ := padded_eq frame
  rw [hp]
  exact frames_append h (by rw [hl, ha]) rest

theorem attributes_attr {en : Endian} {nlaType : UInt16} {payload bytes : List UInt8}
    (h : attr en nlaType payload = some bytes) (rest : List UInt8) :
    attributes en (bytes ++ rest) = (nlaType &&& nlaTypeMask, payload) :: attributes en rest := by
  by_cases hlt : nlaHdrlen + payload.length < 65536
  · simp only [attr, hlt, decide_true, check_true, Option.bind_eq_bind, Option.bind_some,
      Option.pure_def, Option.some.injEq] at h
    subst h
    have hlen : (neBytes en 2 (nlaHdrlen + payload.length) ++ neBytes en 2 nlaType.toNat ++
        payload).length = nlaHdrlen + payload.length := by
      simp only [List.length_append, length_neBytes, nlaHdrlen]
    have hframed : WellFramed (nlaFormat en) (neBytes en 2 (nlaHdrlen + payload.length) ++
        neBytes en 2 nlaType.toNat ++ payload) := by
      refine ⟨by rw [hlen]; exact Nat.le_add_right _ _, ?_⟩
      change neNat en ((List.take 4 _).take 2) = _
      rw [hlen, List.take_take, List.append_assoc, List.take_left' (by simp), neNat_neBytes en hlt]
    have hattr : attributeOf en (neBytes en 2 (nlaHdrlen + payload.length) ++
        neBytes en 2 nlaType.toNat ++ payload) = (nlaType &&& nlaTypeMask, payload) := by
      have htype : neNat en (neBytes en 2 nlaType.toNat) = nlaType.toNat :=
        neNat_neBytes en nlaType.toNat_lt
      have hpayload : (neBytes en 2 (nlaHdrlen + payload.length) ++ neBytes en 2 nlaType.toNat ++
          payload).drop nlaHdrlen = payload := List.drop_left' (by simp [nlaHdrlen])
      rw [attributeOf, hpayload, List.append_assoc, List.drop_left' (by simp),
        List.take_left' (by simp), htype, UInt16.ofNat_toNat]
    rw [attributes, frames_padded hframed rfl, List.map_cons, hattr]
    rfl
  · simp [attr, hlt, check] at h

/-- The bytes of a message before it is padded. -/
def messageFrame (en : Endian) (nlmsgType : UInt16) (family : UInt8) (attrs : List (List UInt8)) :
    List UInt8 :=
  neBytes en 4 (nlmsgHdrlen + ([family, 0, 0, 0] ++ attrs.flatten).length) ++
    neBytes en 2 nlmsgType.toNat ++ neBytes en 2 0 ++ neBytes en 4 0 ++ neBytes en 4 0 ++
    ([family, 0, 0, 0] ++ attrs.flatten)

theorem message_eq_some {en : Endian} {nlmsgType : UInt16} {family : UInt8}
    {attrs : List (List UInt8)} {bytes : List UInt8}
    (h : message en nlmsgType family attrs = some bytes) :
    bytes = padded (messageFrame en nlmsgType family attrs) ∧
      (messageFrame en nlmsgType family attrs).length < 2 ^ 32 := by
  by_cases hlt : nlmsgHdrlen + ([family, 0, 0, 0] ++ attrs.flatten).length < 2 ^ 32
  · simp only [message, hlt, decide_true, check_true, Option.bind_eq_bind, Option.bind_some,
      Option.pure_def, Option.some.injEq] at h
    refine ⟨h.symm, ?_⟩
    simp only [messageFrame, List.length_append, length_neBytes, nlmsgHdrlen] at hlt ⊢
    omega
  · simp only [message, hlt, decide_false] at h
    cases h

theorem reportOf_messageFrame (en : Endian) (nlmsgType : UInt16) (family : UInt8)
    (attrs : List (List UInt8)) :
    reportOf en (messageFrame en nlmsgType family attrs) = match announces nlmsgType with
      | none => none
      | some natEvent => if family ≠ nfprotoIpv4 then none
        else referenceEvent en natEvent attrs.flatten := by
  have htype : typeOf en (messageFrame en nlmsgType family attrs) = nlmsgType := by
    have hval : neNat en (neBytes en 2 nlmsgType.toNat) = nlmsgType.toNat :=
      neNat_neBytes en nlmsgType.toNat_lt
    simp only [typeOf, messageFrame, List.append_assoc]
    rw [List.drop_left' (by simp), List.take_left' (by simp), hval, UInt16.ofNat_toNat]
  have hbody : (messageFrame en nlmsgType family attrs).drop nlmsgHdrlen =
      [family, 0, 0, 0] ++ attrs.flatten := List.drop_left' (by simp [nlmsgHdrlen])
  have hfamily : (messageFrame en nlmsgType family attrs).getD nlmsgHdrlen 0 = family := by
    have hget : ((messageFrame en nlmsgType family attrs).drop nlmsgHdrlen)[0]? =
        (messageFrame en nlmsgType family attrs)[nlmsgHdrlen + 0]? := List.getElem?_drop
    rw [hbody, Nat.add_zero] at hget
    rw [List.getD_eq_getElem?_getD, ← hget]
    rfl
  have hattrs : (messageFrame en nlmsgType family attrs).drop (nlmsgHdrlen + nfgenmsgLen) =
      attrs.flatten := by
    rw [← List.drop_drop, hbody]
    rfl
  have hreport := reportOf.eq_def en (messageFrame en nlmsgType family attrs)
  rw [htype, hfamily, hattrs] at hreport
  exact hreport

theorem events_message {en : Endian} {nlmsgType : UInt16} {family : UInt8}
    {attrs : List (List UInt8)} {bytes : List UInt8}
    (h : message en nlmsgType family attrs = some bytes) (rest : List UInt8) :
    events en (bytes ++ rest) =
      (reportOf en (messageFrame en nlmsgType family attrs)).toList ++ events en rest := by
  obtain ⟨rfl, hlt⟩ := message_eq_some h
  have hlen : (messageFrame en nlmsgType family attrs).length =
      nlmsgHdrlen + ([family, 0, 0, 0] ++ attrs.flatten).length := by
    simp only [messageFrame, List.length_append, length_neBytes, nlmsgHdrlen]
  have hframed : WellFramed (messageFormat en) (messageFrame en nlmsgType family attrs) := by
    refine ⟨?_, ?_⟩
    · change nlmsgHdrlen + nfgenmsgLen ≤ _
      rw [hlen, List.length_append]
      exact Nat.add_le_add_left (Nat.le_add_right _ _) _
    · change neNat en (((messageFrame en nlmsgType family attrs).take nlmsgHdrlen).take 4) = _
      rw [hlen] at hlt ⊢
      rw [List.take_take]
      simp only [messageFrame, List.append_assoc]
      rw [List.take_left' (by simp [nlmsgHdrlen])]
      exact neNat_neBytes en hlt
  rw [events, frames_padded hframed rfl, List.filterMap_cons]
  cases reportOf en (messageFrame en nlmsgType family attrs) <;> rfl

end NatStream.Netlink.Builders
