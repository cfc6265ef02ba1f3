import NatStream.Netlink.Reference

namespace NatStream.Netlink.Datagrams

open NatStream.Lib.Bytes NatStream.Lib.Slice NatStream.Lib.Frames
open NatStream.Events NatStream.Netlink.Parsers NatStream.Netlink.Attributes
open NatStream.Netlink.Reference

variable {σ : Type}

def messageFormat (en : Endian) : Format where
  headerLen := nlmsgHdrlen
  minLen := nlmsgHdrlen + nfgenmsgLen
  alignment := nlaAlignto
  lengthOf := fun header => neNat en (header.take 4)
  headerLen_le := Nat.le_add_right _ _
  minLen_pos := Nat.succ_pos _
  alignment_pos := Nat.succ_pos _

/-- Which session event a message type announces. Everything that is not a
new or deleted conntrack entry announces none. -/
def announces (nlmsgType : UInt16) : Option NatEventType :=
  if nlmsgType < nlmsgMinType ∨ nlmsgType >>> 8 ≠ nfnlSubsysCtnetlink then none
  else if (nlmsgType &&& 0xFF).toUInt8 = ipctnlMsgCtNew then some .create
  else if (nlmsgType &&& 0xFF).toUInt8 = ipctnlMsgCtDelete then some .delete
  else none

def typeOf (en : Endian) (frame : List UInt8) : UInt16 :=
  UInt16.ofNat (neNat en ((frame.drop 4).take 2))

/-- What a whole message reports. -/
def reportOf (en : Endian) (frame : List UInt8) : Option ConntrackEvent :=
  match announces (typeOf en frame) with
  | none => none
  | some natEvent =>
    if frame.getD nlmsgHdrlen 0 ≠ nfprotoIpv4 then none
    else referenceEvent en natEvent (frame.drop (nlmsgHdrlen + nfgenmsgLen))

/-- The events of a receive buffer, in order. -/
def events (en : Endian) (buf : List UInt8) : List ConntrackEvent :=
  (frames (messageFormat en) buf).filterMap (reportOf en)

theorem readU32_of_le {en : Endian} {data : List UInt8} (h : 4 ≤ data.length) :
    readU32 en data = some (UInt32.ofNat (neNat en (data.take 4))) := by
  simp [readU32, slice_of_le (Nat.zero_le 4) h]

theorem parseMessage_eq {en : Endian} {buf : List UInt8} {o len : Nat} (nlmsgType : UInt16)
    (hmin : nlmsgHdrlen + nfgenmsgLen ≤ len) (hle : o + len ≤ buf.length) :
    parseMessage en buf o len nlmsgType =
      some (match announces nlmsgType with
        | none => none
        | some natEvent =>
          if ((buf.drop o).take len).getD nlmsgHdrlen 0 ≠ nfprotoIpv4 then none
          else referenceEvent en natEvent (((buf.drop o).take len).drop
            (nlmsgHdrlen + nfgenmsgLen))) := by
  simp only [nlmsgHdrlen, nfgenmsgLen] at hmin
  have hfamily : buf[o + nlmsgHdrlen]? = some (((buf.drop o).take len).getD nlmsgHdrlen 0) := by
    have hlt : o + nlmsgHdrlen < buf.length := by
      simp only [nlmsgHdrlen]
      omega
    rw [List.getD_eq_getElem?_getD, List.getElem?_take_of_lt (by simp only [nlmsgHdrlen]; omega),
      List.getElem?_drop, List.getElem?_eq_getElem hlt, Option.getD_some]
  have hbody : slice buf (o + nlmsgHdrlen + nfgenmsgLen) (o + len) =
      some (((buf.drop o).take len).drop (nlmsgHdrlen + nfgenmsgLen)) := by
    rw [slice_of_le (by simp only [nlmsgHdrlen, nfgenmsgLen]; omega) hle, List.drop_take,
      List.drop_take, List.drop_drop, Nat.add_assoc, Nat.add_sub_add_left]
  have hread (natEvent : NatEventType) :
      (do
        let nfgenFamily ← buf[o + nlmsgHdrlen]?
        if nfgenFamily ≠ nfprotoIpv4 then return none
        else
          let attributes ← slice buf (o + nlmsgHdrlen + nfgenmsgLen) (o + len)
          parseNlaTree en natEvent attributes) =
      some (if ((buf.drop o).take len).getD nlmsgHdrlen 0 ≠ nfprotoIpv4 then none
        else referenceEvent en natEvent (((buf.drop o).take len).drop
          (nlmsgHdrlen + nfgenmsgLen))) := by
    rw [hfamily, hbody]
    simp only [Option.bind_eq_bind, Option.bind_some, Option.pure_def, parseNlaTree_eq]
    split <;> rfl
  by_cases hsys : nlmsgType < nlmsgMinType ∨ nlmsgType >>> 8 ≠ nfnlSubsysCtnetlink
  · rw [parseMessage, if_pos hsys, announces, if_pos hsys]
  · rw [parseMessage, if_neg hsys, announces, if_neg hsys]
    by_cases hnew : (nlmsgType &&& 0xFF).toUInt8 = ipctnlMsgCtNew
    · simp only [if_pos hnew]
      exact hread .create
    · by_cases hdel : (nlmsgType &&& 0xFF).toUInt8 = ipctnlMsgCtDelete
      · simp only [if_neg hnew, if_pos hdel]
        exact hread .delete
      · simp only [if_neg hnew, if_neg hdel]

theorem nextMessage_of_le {en : Endian} {buf : List UInt8} {o : Nat}
    (hh : o + nlmsgHdrlen ≤ buf.length) :
    nextMessage en buf o =
      if neNat en ((buf.drop o).take 4) < nlmsgHdrlen + nfgenmsgLen ∨
          o + neNat en ((buf.drop o).take 4) > buf.length then some none
      else some (some (reportOf en ((buf.drop o).take (neNat en ((buf.drop o).take 4))),
        nlaAlign (o + neNat en ((buf.drop o).take 4)))) := by
  have hmod : (UInt32.ofNat (neNat en ((buf.drop o).take 4))).toNat =
      neNat en ((buf.drop o).take 4) := by
    rw [UInt32.toNat_ofNat', Nat.mod_eq_of_lt (b := 2 ^ 32) (neNat_take_lt en 4 (buf.drop o))]
  rw [nextMessage, if_pos hh]
  simp only [nlmsgHdrlen] at hh
  rw [sliceFrom_of_le (show o ≤ buf.length by omega), sliceFrom_of_le (show o + 4 ≤ buf.length by omega)]
  simp only [Option.bind_eq_bind, Option.bind_some, Option.pure_def]
  rw [readU32_of_le (by rw [List.length_drop]; omega), readU16_of_le (by rw [List.length_drop]; omega)]
  simp only [Option.bind_some, hmod]
  by_cases hl : neNat en ((buf.drop o).take 4) < nlmsgHdrlen + nfgenmsgLen ∨
      o + neNat en ((buf.drop o).take 4) > buf.length
  · rw [if_pos hl, if_pos hl]
  · have hmin : nlmsgHdrlen + nfgenmsgLen ≤ neNat en ((buf.drop o).take 4) := by omega
    have htype : typeOf en ((buf.drop o).take (neNat en ((buf.drop o).take 4))) =
        UInt16.ofNat (neNat en ((buf.drop (o + 4)).take 2)) := by
      simp only [nlmsgHdrlen, nfgenmsgLen] at hmin
      rw [typeOf, List.drop_take, List.take_take, List.drop_drop, Nat.min_eq_left (by omega)]
    rw [if_neg hl, if_neg hl, parseMessage_eq _ hmin (by omega), Option.bind_some, reportOf, htype]

theorem messageWalker_follows (en : Endian) (buf : List UInt8) :
    Follows (messageWalker en buf) (messageFormat en) (reportOf en) buf := by
  intro o ho
  change nextMessage en buf o = _
  by_cases hh : o + nlmsgHdrlen ≤ buf.length
  · have hd : (buf.drop o).length = buf.length - o := List.length_drop
    have hhead : (messageFormat en).lengthOf ((buf.drop o).take (messageFormat en).headerLen) =
        neNat en ((buf.drop o).take 4) := by
      change neNat en (((buf.drop o).take nlmsgHdrlen).take 4) = _
      rw [List.take_take]
      rfl
    rw [nextMessage_of_le hh]
    by_cases hl : neNat en ((buf.drop o).take 4) < nlmsgHdrlen + nfgenmsgLen ∨
        o + neNat en ((buf.drop o).take 4) > buf.length
    · have hnone : cut (messageFormat en) (buf.drop o) = none := by
        rw [cut, if_pos (by change nlmsgHdrlen ≤ _; omega)]
        simp only [hhead]
        exact if_pos (by change _ < nlmsgHdrlen + nfgenmsgLen ∨ _; omega)
      rw [if_pos hl, hnone, Option.map_none]
    · have hcut := cut_of_length _ hhead (by change nlmsgHdrlen + nfgenmsgLen ≤ _; omega) (by omega)
      have hlen : ((buf.drop o).take (neNat en ((buf.drop o).take 4))).length =
          neNat en ((buf.drop o).take 4) := by
        rw [List.length_take]
        omega
      rw [if_neg hl, hcut, Option.map_some, hlen]
      rfl
  · have hnone : cut (messageFormat en) (buf.drop o) = none := by
      apply if_neg
      change ¬ nlmsgHdrlen ≤ (buf.drop o).length
      rw [List.length_drop]
      simp only [nlmsgHdrlen] at hh ⊢
      omega
    rw [nextMessage, if_neg hh, hnone, Option.map_none]

/-- The parser hands the events of the buffer to its callback, one by one. -/
theorem parseConntrackMessages_eq (en : Endian) (buf : List UInt8)
    (callback : σ → ConntrackEvent → Option σ) (s : σ) :
    parseConntrackMessages en buf callback s = (events en buf).foldlM callback s := by
  rw [parseConntrackMessages, scan_eq_foldlM (messageWalker_follows en buf) _ _ (Nat.dvd_zero _),
    List.drop_zero, events, List.foldlM_filterMap, List.foldlM_map]
  apply congrArg (fun f => List.foldlM f s (frames (messageFormat en) buf))
  funext s frame
  cases reportOf en frame <;> rfl

/-- The events a buffer reports, collected in a list. -/
def collected (en : Endian) (buf : List UInt8) : Option (List ConntrackEvent) :=
  parseConntrackMessages en buf (fun found event => some (found ++ [event])) []

theorem foldlM_push {α : Type} (l found : List α) :
    l.foldlM (fun found a => some (found ++ [a])) found = some (found ++ l) := by
  induction l generalizing found with
  | nil => simp
  | cons a l ih => simpa using ih (found ++ [a])

theorem collected_eq (en : Endian) (buf : List UInt8) : collected en buf = some (events en buf) := by
  rw [collected, parseConntrackMessages_eq, foldlM_push, List.nil_append]

end NatStream.Netlink.Datagrams
