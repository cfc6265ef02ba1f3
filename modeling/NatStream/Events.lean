import NatStream.Lib.Bytes

namespace NatStream.Events

inductive NatEventType where
  | create
  | delete
  deriving DecidableEq, Repr

def nat44SessionCreate : UInt8 := 4
def nat44SessionDelete : UInt8 := 5

def natEventCode : NatEventType → UInt8
  | .create => nat44SessionCreate
  | .delete => nat44SessionDelete

structure Ipv4Addr where
  a : UInt8
  b : UInt8
  c : UInt8
  d : UInt8
  deriving DecidableEq, Repr

def octets (ip : Ipv4Addr) : List UInt8 := [ip.a, ip.b, ip.c, ip.d]

def unspecified : Ipv4Addr := ⟨0, 0, 0, 0⟩

/-- A NAT session event as reported by conntrack. The fields keep the widths
they have in the kernel message and in the exported record. -/
structure ConntrackEvent where
  natEvent : NatEventType
  protocol : UInt8
  srcIp : Ipv4Addr
  dstIp : Ipv4Addr
  srcPort : UInt16
  dstPort : UInt16
  postNatSrcIp : Ipv4Addr
  postNatSrcPort : UInt16
  postNatDstIp : Ipv4Addr
  postNatDstPort : UInt16
  origBytes : UInt64
  origPackets : UInt64
  replyBytes : UInt64
  replyPackets : UInt64
  deriving DecidableEq, Repr

@[simp] theorem length_octets (ip : Ipv4Addr) : (octets ip).length = 4 := rfl

end NatStream.Events
