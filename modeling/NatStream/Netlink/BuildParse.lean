import NatStream.Netlink.Builders

namespace NatStream.Netlink.BuildParse

open NatStream.Lib.Bytes NatStream.Lib.LastWins
open NatStream.Events NatStream.Netlink.Parsers NatStream.Netlink.Attributes
open NatStream.Netlink.Reference NatStream.Netlink.Datagrams NatStream.Netlink.Builders

/-- The bytes of a list of attributes, each built with `attr`. -/
inductive Built (en : Endian) : List (UInt16 × List UInt8) → List UInt8 → Prop where
  | nil : Built en [] []
  | cons {nlaType : UInt16} {payload bytes rest : List UInt8} {l : List (UInt16 × List UInt8)} :
      attr en nlaType payload = some bytes → Built en l rest →
      Built en ((nlaType, payload) :: l) (bytes ++ rest)

def masked (a : UInt16 × List UInt8) : UInt16 × List UInt8 := (a.1 &&& nlaTypeMask, a.2)

/-- One nesting level as a builder may lay it out: the attributes of the used
types are the required ones in some order, whatever their flag bits, and
attributes of other types stand anywhere between them. -/
def Level (en : Endian) (used : List UInt16) (required : List (UInt16 × List UInt8))
    (bytes : List UInt8) : Prop :=
  ∃ l, Built en l bytes ∧ ((l.map masked).filter (fun a => used.contains a.1)).Perm required

def IpLevel (en : Endian) (t : Tuple) (bytes : List UInt8) : Prop :=
  ∃ x y, Level en [ctaIpV4Src, ctaIpV4Dst]
    [(ctaIpV4Src, octets t.srcIp ++ x), (ctaIpV4Dst, octets t.dstIp ++ y)] bytes

def ProtoLevel (en : Endian) (t : Tuple) (bytes : List UInt8) : Prop :=
  ∃ x y z, Level en [ctaProtoNum, ctaProtoSrcPort, ctaProtoDstPort]
    [(ctaProtoNum, [t.protocol] ++ x), (ctaProtoSrcPort, beBytes 2 t.srcPort.toNat ++ y),
      (ctaProtoDstPort, beBytes 2 t.dstPort.toNat ++ z)] bytes

def TupleLevel (en : Endian) (t : Tuple) (bytes : List UInt8) : Prop :=
  ∃ ip proto, IpLevel en t ip ∧ ProtoLevel en t proto ∧
    Level en [ctaTupleIp, ctaTupleProto] [(ctaTupleIp, ip), (ctaTupleProto, proto)] bytes

def CountersLevel (en : Endian) (c : Counters) (bytes : List UInt8) : Prop :=
  ∃ x y, Level en [ctaCountersPackets, ctaCountersBytes]
    [(ctaCountersPackets, beBytes 8 c.packets.toNat ++ x),
      (ctaCountersBytes, beBytes 8 c.bytes.toNat ++ y)] bytes

/-- What a conntrack message is about. -/
structure Session where
  orig : Tuple
  reply : Tuple
  status : UInt32
  origCounters : Option Counters
  replyCounters : Option Counters

def SessionLevel (en : Endian) (s : Session) (bytes : List UInt8) : Prop :=
  ∃ orig reply x co cr, TupleLevel en s.orig orig ∧ TupleLevel en s.reply reply ∧
    Option.Rel (CountersLevel en) s.origCounters co ∧
    Option.Rel (CountersLevel en) s.replyCounters cr ∧
    Level en [ctaTupleOrig, ctaTupleReply, ctaStatus, ctaCountersOrig, ctaCountersReply]
      ([(ctaTupleOrig, orig), (ctaTupleReply, reply), (ctaStatus, beBytes 4 s.status.toNat ++ x)] ++
        co.toList.map (fun b => (ctaCountersOrig, b)) ++
        cr.toList.map (fun b => (ctaCountersReply, b))) bytes

/-- The event a session should be reported as, if it is translated at all. -/
def expected (natEvent : NatEventType) (s : Session) : Option ConntrackEvent :=
  if s.status &&& ipsSrcNat ≠ 0 ∨ s.status &&& ipsDstNat ≠ 0 then
    some {
      natEvent
      protocol := s.orig.protocol
      srcIp := s.orig.srcIp
      dstIp := s.orig.dstIp
      srcPort := s.orig.srcPort
      dstPort := s.orig.dstPort
      postNatSrcIp := s.reply.dstIp
      postNatSrcPort := s.reply.dstPort
      postNatDstIp := s.reply.srcIp
      postNatDstPort := s.reply.srcPort
      origBytes := (s.origCounters.map Counters.bytes).getD 0
      origPackets := (s.origCounters.map Counters.packets).getD 0
      replyBytes := (s.replyCounters.map Counters.bytes).getD 0
      replyPackets := (s.replyCounters.map Counters.packets).getD 0 }
  else none

theorem attributes_built {en : Endian} {l : List (UInt16 × List UInt8)} {bytes : List UInt8}
    (h : Built en l bytes) : attributes en bytes = l.map masked := by
  induction h with
  | nil => rw [attributes, Lib.Frames.frames_nil]; rfl
  | cons ha _ ih => rw [attributes_attr ha, ih, List.map_cons]; rfl

/-- What a level decides below one of its used types is what the required
attribute of that type decides. -/
theorem decided_level {en : Endian} {used : List UInt16} {required : List (UInt16 × List UInt8)}
    {bytes : List UInt8} (h : Level en used required bytes) {type : UInt16} (hu : type ∈ used)
    {o : Option (List UInt8)}
    (hr : required.filter (fun a => a.1 = type) = o.toList.map (fun p => (type, p)))
    (path : List UInt16) (width : Nat) :
    decided en (type :: path) width bytes = o.bind (decided en path width) := by
  obtain ⟨l, hb, hperm⟩ := h
  rw [decided_cons, attributes_built hb]
  apply lastOf_of_perm hperm
  · intro a ha
    apply if_neg
    rintro rfl
    simp [hu] at ha
  · have hfilter : required.filterMap (fun a => if a.1 = type then decided en path width a.2 else none) =
        (required.filter (fun a => a.1 = type)).filterMap
          (fun a => if a.1 = type then decided en path width a.2 else none) := by
      rw [List.filterMap_filter]
      apply congrArg (fun f => required.filterMap f)
      funext a
      by_cases ha : a.1 = type <;> simp [ha]
    rw [hfilter, hr]
    cases o with
    | none => rfl
    | some p =>
      cases hd : decided en path width p <;> simp [hd]

theorem decided_nil {en : Endian} {width : Nat} {data : List UInt8} (h : width ≤ data.length) :
    decided en [] width data = some data := by
  rw [decided, decidedAt_nil, if_pos h]
  rfl

theorem be16Of_append (v : UInt16) (x : List UInt8) : be16Of (beBytes 2 v.toNat ++ x) = v := by
  rw [be16Of, List.take_left' (by simp), beNat_beBytes v.toNat_lt, UInt16.ofNat_toNat]

theorem be32Of_append (v : UInt32) (x : List UInt8) : be32Of (beBytes 4 v.toNat ++ x) = v := by
  rw [be32Of, List.take_left' (by simp), beNat_beBytes v.toNat_lt, UInt32.ofNat_toNat]

theorem be64Of_append (v : UInt64) (x : List UInt8) : be64Of (beBytes 8 v.toNat ++ x) = v := by
  rw [be64Of, List.take_left' (by simp), beNat_beBytes v.toNat_lt, UInt64.ofNat_toNat]

/-- Everything the parser reads from a tuple. -/
structure ReadsTuple (en : Endian) (t : Tuple) (bytes : List UInt8) : Prop where
  srcIp : (decided en [ctaTupleIp, ctaIpV4Src] 4 bytes).map addressOf = some t.srcIp
  dstIp : (decided en [ctaTupleIp, ctaIpV4Dst] 4 bytes).map addressOf = some t.dstIp
  protocol : (decided en [ctaTupleProto, ctaProtoNum] 1 bytes).map byteOf = some t.protocol
  srcPort : (decided en [ctaTupleProto, ctaProtoSrcPort] 2 bytes).map be16Of = some t.srcPort
  dstPort : (decided en [ctaTupleProto, ctaProtoDstPort] 2 bytes).map be16Of = some t.dstPort

structure ReadsCounters (en : Endian) (c : Counters) (data : List UInt8) : Prop where
  bytes : (decided en [ctaCountersBytes] 8 data).map be64Of = some c.bytes
  packets : (decided en [ctaCountersPackets] 8 data).map be64Of = some c.packets

theorem decided_required {en : Endian} {used : List UInt16} {required : List (UInt16 × List UInt8)}
    {bytes payload : List UInt8} (h : Level en used required bytes) {type : UInt16}
    (hu : type ∈ used) (hr : required.filter (fun a => a.1 = type) = [(type, payload)])
    {width : Nat} (hw : width ≤ payload.length) : decided en [type] width bytes = some payload := by
  rw [decided_level (o := some payload) h hu hr, Option.bind_some, decided_nil hw]

theorem readsTuple_of_level {en : Endian} {t : Tuple} {bytes : List UInt8}
    (h : TupleLevel en t bytes) : ReadsTuple en t bytes := by
  obtain ⟨ip, proto, ⟨x, y, hip⟩, ⟨u, v, w, hproto⟩, htuple⟩ := h
  have hi (path : List UInt16) (width : Nat) :
      decided en (ctaTupleIp :: path) width bytes = decided en path width ip :=
    decided_level (o := some ip) htuple (by decide) rfl path width
  have hp (path : List UInt16) (width : Nat) :
      decided en (ctaTupleProto :: path) width bytes = decided en path width proto :=
    decided_level (o := some proto) htuple (by decide) rfl path width
  refine ⟨?_, ?_, ?_, ?_, ?_⟩
  · rw [hi, decided_required hip (by decide) rfl (by simp)]
    rfl
  · rw [hi, decided_required hip (by decide) rfl (by simp)]
    rfl
  · rw [hp, decided_required hproto (by decide) rfl (by simp)]
    rfl
  · rw [hp, decided_required hproto (by decide) rfl (by simp), Option.map_some, be16Of_append]
  · rw [hp, decided_required hproto (by decide) rfl (by simp), Option.map_some, be16Of_append]

theorem readsCounters_of_level {en : Endian} {c : Counters} {bytes : List UInt8}
    (h : CountersLevel en c bytes) : ReadsCounters en c bytes := by
  obtain ⟨x, y, hc⟩ := h
  constructor
  · rw [decided_required hc (by decide) rfl (by simp), Option.map_some, be64Of_append]
  · rw [decided_required hc (by decide) rfl (by simp), Option.map_some, be64Of_append]

theorem readsCounters_bind {en : Endian} {counters : Option Counters} {part : Option (List UInt8)}
    (h : Option.Rel (CountersLevel en) counters part) :
    ((part.bind (decided en [ctaCountersBytes] 8)).map be64Of).getD 0 =
        (counters.map Counters.bytes).getD 0 ∧
      ((part.bind (decided en [ctaCountersPackets] 8)).map be64Of).getD 0 =
        (counters.map Counters.packets).getD 0 := by
  cases h with
  | none => exact ⟨rfl, rfl⟩
  | some hc =>
    have hr := readsCounters_of_level hc
    rw [Option.bind_some, Option.bind_some, hr.bytes, hr.packets]
    exact ⟨rfl, rfl⟩

/-- However a session is laid out, its meaning is the expected event. -/
theorem referenceEvent_session {en : Endian} {s : Session} {bytes : List UInt8}
    (h : SessionLevel en s bytes) (natEvent : NatEventType) :
    referenceEvent en natEvent bytes = expected natEvent s := by
  obtain ⟨orig, reply, x, co, cr, horig, hreply, hco, hcr, hlevel⟩ := h
  have ho (path : List UInt16) (width : Nat) :
      decided en (ctaTupleOrig :: path) width bytes = decided en path width orig :=
    decided_level (o := some orig) hlevel (by decide) (by cases co <;> cases cr <;> rfl) path width
  have hr (path : List UInt16) (width : Nat) :
      decided en (ctaTupleReply :: path) width bytes = decided en path width reply :=
    decided_level (o := some reply) hlevel (by decide) (by cases co <;> cases cr <;> rfl) path width
  have hs : decided en [ctaStatus] 4 bytes = some (beBytes 4 s.status.toNat ++ x) :=
    decided_required hlevel (by decide) (by cases co <;> cases cr <;> rfl) (by simp)
  have hc (path : List UInt16) (width : Nat) :
      decided en (ctaCountersOrig :: path) width bytes = co.bind (decided en path width) :=
    decided_level hlevel (by decide) (by cases co <;> cases cr <;> rfl) path width
  have hc' (path : List UInt16) (width : Nat) :
      decided en (ctaCountersReply :: path) width bytes = cr.bind (decided en path width) :=
    decided_level hlevel (by decide) (by cases co <;> cases cr <;> rfl) path width
  have hto := readsTuple_of_level horig
  have htr := readsTuple_of_level hreply
  obtain ⟨hob, hop⟩ := readsCounters_bind hco
  obtain ⟨hrb, hrp⟩ := readsCounters_bind hcr
  simp only [referenceEvent, fieldOf, path, width, ho, hr, hs, hc, hc', hto.srcIp, hto.dstIp,
    hto.protocol, hto.srcPort, hto.dstPort, htr.srcIp, htr.dstIp, htr.srcPort, htr.dstPort, hob, hop,
    hrb, hrp, be32Of_append, Option.getD_some, expected]

def msgTypeOf : NatEventType → UInt8
  | .create => ipctnlMsgCtNew
  | .delete => ipctnlMsgCtDelete

theorem announces_msgTypeOf (natEvent : NatEventType) :
    announces ((nfnlSubsysCtnetlink <<< 8) ||| (msgTypeOf natEvent).toUInt16) = some natEvent := by
  cases natEvent <;> decide

theorem built_pair {en : Endian} {a b : UInt16} {p q x y : List UInt8} (ha : attr en a p = some x)
    (hb : attr en b q = some y) : Built en [(a, p), (b, q)] (x ++ y) := by
  have h := Built.cons ha (Built.cons hb Built.nil)
  rwa [List.append_nil] at h

theorem level_of_built {en : Endian} {used : List UInt16} {l required : List (UInt16 × List UInt8)}
    {bytes : List UInt8} (h : Built en l bytes)
    (ht : l.map (fun a => a.1 &&& nlaTypeMask) = required.map Prod.fst)
    (hp : l.map Prod.snd = required.map Prod.snd)
    (hu : ∀ type ∈ required.map Prod.fst, type ∈ used) : Level en used required bytes := by
  have hm : l.map masked = required := by
    have hz : (l.map (fun a => a.1 &&& nlaTypeMask)).zip (l.map Prod.snd) = l.map masked :=
      List.zip_map'
    rw [ht, hp, List.zip_map'] at hz
    simpa using hz.symm
  refine ⟨l, h, ?_⟩
  rw [hm, List.filter_eq_self.mpr]
  intro a ha
  simpa using hu a.1 (List.mem_map_of_mem ha)

/-- The builder's own tuples are laid out as a tuple level. -/
theorem tuple_level {en : Endian} {nlaType : UInt16} {t : Tuple} {bytes : List UInt8}
    (h : tuple en nlaType t = some bytes) :
    ∃ payload, attr en (nlaType ||| nlaFNested) payload = some bytes ∧ TupleLevel en t payload := by
  simp only [tuple, nested, Option.bind_eq_bind, Option.bind_eq_some_iff, List.flatten_cons,
    List.flatten_nil, List.append_nil] at h
  obtain ⟨src, hsrc, dst, hdst, ip, hip, num, hnum, sport, hsport, dport, hdport, proto, hproto, h⟩ := h
  have hi : IpLevel en t (src ++ dst) := by
    refine ⟨[], [], level_of_built (built_pair hsrc hdst) ?_ (by simp) (by simp)⟩
    simp only [List.map_cons, List.map_nil]
    decide
  have hp : ProtoLevel en t (num ++ (sport ++ dport)) := by
    refine ⟨[], [], [], level_of_built (Built.cons hnum (built_pair hsport hdport)) ?_ (by simp)
      (by simp)⟩
    simp only [List.map_cons, List.map_nil]
    decide
  refine ⟨_, h, _, _, hi, hp, level_of_built (built_pair hip hproto) ?_ (by simp) (by simp)⟩
  simp only [List.map_cons, List.map_nil]
  decide

theorem counters_level {en : Endian} {nlaType : UInt16} {c : Counters} {bytes : List UInt8}
    (h : counters en nlaType c = some bytes) :
    ∃ payload, attr en (nlaType ||| nlaFNested) payload = some bytes ∧ CountersLevel en c payload := by
  simp only [counters, nested, Option.bind_eq_bind, Option.bind_eq_some_iff, List.flatten_cons,
    List.flatten_nil, List.append_nil] at h
  obtain ⟨packets, hpackets, bytes', hbytes, h⟩ := h
  refine ⟨_, h, [], [], level_of_built (built_pair hpackets hbytes) ?_ (by simp) (by simp)⟩
  simp only [List.map_cons, List.map_nil]
  decide

/-- The attributes of a message as the fixtures write them, in their order and
with both pairs of counters, are one layout of a session. -/
theorem session_level {en : Endian} {s : Session} {orig reply status co cr : List UInt8}
    {c c' : Counters} (ho : tuple en ctaTupleOrig s.orig = some orig)
    (hr : tuple en ctaTupleReply s.reply = some reply)
    (hs : attr en ctaStatus (beBytes 4 s.status.toNat) = some status)
    (hc : s.origCounters = some c) (hc' : s.replyCounters = some c')
    (hco : counters en ctaCountersOrig c = some co)
    (hcr : counters en ctaCountersReply c' = some cr) :
    SessionLevel en s [orig, reply, status, co, cr].flatten := by
  obtain ⟨op, hop, hot⟩ := tuple_level ho
  obtain ⟨rp, hrp, hrt⟩ := tuple_level hr
  obtain ⟨cp, hcp, hcl⟩ := counters_level hco
  obtain ⟨cp', hcp', hcl'⟩ := counters_level hcr
  have hrel : Option.Rel (CountersLevel en) s.origCounters (some cp) := hc ▸ Option.Rel.some hcl
  have hrel' : Option.Rel (CountersLevel en) s.replyCounters (some cp') := hc' ▸ Option.Rel.some hcl'
  refine ⟨op, rp, [], some cp, some cp', hot, hrt, hrel, hrel', ?_⟩
  refine level_of_built (Built.cons hop (Built.cons hrp (Built.cons hs (Built.cons hcp
    (Built.cons hcp' Built.nil))))) ?_ (by simp) (by simp)
  simp only [List.map_cons, List.map_nil, Option.toList_some, List.cons_append, List.nil_append]
  decide

/-- The messages a datagram may be put together from, each with what it
should report. -/
inductive Piece (en : Endian) : List UInt8 → Option ConntrackEvent → Prop where
  | session {natEvent : NatEventType} {s : Session} {attrs : List (List UInt8)} {bytes : List UInt8} :
      SessionLevel en s attrs.flatten → ctEvent en (msgTypeOf natEvent) nfprotoIpv4 attrs = some bytes →
      Piece en bytes (expected natEvent s)
  | other {nlmsgType : UInt16} {family : UInt8} {attrs : List (List UInt8)} {bytes : List UInt8} :
      announces nlmsgType = none ∨ family ≠ nfprotoIpv4 →
      message en nlmsgType family attrs = some bytes → Piece en bytes none

theorem events_piece {en : Endian} {bytes : List UInt8} {outcome : Option ConntrackEvent}
    (h : Piece en bytes outcome) (rest : List UInt8) :
    events en (bytes ++ rest) = outcome.toList ++ events en rest := by
  cases h with
  | @session natEvent s attrs _ hs hb =>
    rw [events_message hb, reportOf_messageFrame, announces_msgTypeOf]
    simp only [ne_eq, not_true_eq_false, if_false, referenceEvent_session hs]
  | @other nlmsgType family attrs _ ho hb =>
    rw [events_message hb, reportOf_messageFrame]
    obtain ho | ho := ho
    · simp only [ho]
    · cases announces nlmsgType with
      | none => rfl
      | some natEvent => simp only [if_pos ho]

/-- The parser undoes the builder: a datagram put together from any messages
reports exactly the translated sessions among them, in order. -/
theorem parser_undoes_builder {en : Endian} {pieces : List (List UInt8)}
    {outcomes : List (Option ConntrackEvent)} (h : List.Forall₂ (Piece en) pieces outcomes) :
    collected en pieces.flatten = some (outcomes.filterMap id) := by
  rw [collected_eq]
  apply congrArg some
  induction h with
  | nil => rw [List.flatten_nil, events, Lib.Frames.frames_nil]; rfl
  | @cons bytes outcome pieces outcomes hp _ ih =>
    rw [List.flatten_cons, events_piece hp, ih]
    cases outcome <;> rfl

def counterPart (en : Endian) (nlaType : UInt16) : Option Counters → Option (List (List UInt8))
  | none => some []
  | some c => (counters en nlaType c).map fun part => [part]

/-- The message of a new session. -/
def sessionMessage (en : Endian) (s : Session) : Option (List UInt8) := do
  let orig ← tuple en ctaTupleOrig s.orig
  let reply ← tuple en ctaTupleReply s.reply
  let status ← attr en ctaStatus (beBytes 4 s.status.toNat)
  let origCounters ← counterPart en ctaCountersOrig s.origCounters
  let replyCounters ← counterPart en ctaCountersReply s.replyCounters
  ctEvent en ipctnlMsgCtNew nfprotoIpv4 ([orig, reply, status] ++ (origCounters ++ replyCounters))

theorem sessionMessage_piece {en : Endian} {s : Session} {c c' : Counters} {bytes : List UInt8}
    (hc : s.origCounters = some c) (hc' : s.replyCounters = some c')
    (h : sessionMessage en s = some bytes) : Piece en bytes (expected .create s) := by
  simp only [sessionMessage, hc, hc', counterPart, Option.bind_eq_bind, Option.bind_eq_some_iff,
    Option.map_eq_some_iff] at h
  obtain ⟨orig, ho, reply, hr, status, hs, _, ⟨co, hco, rfl⟩, _, ⟨cr, hcr, rfl⟩, hm⟩ := h
  exact Piece.session (session_level ho hr hs hc hc' hco hcr) hm

def snatSession : Session where
  orig := ⟨⟨192, 168, 1, 10⟩, ⟨8, 8, 8, 8⟩, 6, 1234, 53⟩
  reply := ⟨⟨8, 8, 8, 8⟩, ⟨203, 0, 113, 5⟩, 6, 53, 40000⟩
  status := ipsSrcNat
  origCounters := some ⟨700, 7⟩
  replyCounters := some ⟨900, 9⟩

def snatMessage : Option (List UInt8) := sessionMessage .little snatSession

theorem parser_undoes_builder_snat :
    ∃ bytes, snatMessage = some bytes ∧
      collected .little [bytes, bytes].flatten =
        some ([expected .create snatSession, expected .create snatSession].filterMap id) := by
  obtain ⟨bytes, hb⟩ : ∃ bytes, snatMessage = some bytes :=
    Option.isSome_iff_exists.mp (by decide +kernel)
  have hpiece : Piece .little bytes (expected .create snatSession) := sessionMessage_piece rfl rfl hb
  exact ⟨bytes, hb, parser_undoes_builder (.cons hpiece (.cons hpiece .nil))⟩

end NatStream.Netlink.BuildParse
