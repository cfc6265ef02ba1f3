import NatStream.Collector.Grammar
import NatStream.Collector.RoundTrip

namespace NatStream.Collector.Watching

open NatStream.Lib.Bytes NatStream.Collector.FlowDecode NatStream.Collector.Reading
open NatStream.Collector.Grammar NatStream.Collector.RoundTrip

/-- The live loop: an undecodable packet is reported and skipped. This is what
is decoded, not what `main` prints of it, which can raise on its own. -/
def watch : Table → List (List UInt8) → List (Except DecodeError Message)
  | _, [] => []
  | table, datagram :: datagrams =>
    (receive table datagram).2 :: watch (receive table datagram).1 datagrams

/-- The templates that the template sets of a packet define, whether or not
its data sets can be decoded. -/
def declaredIn (version templateSetId : Nat) (rest : List UInt8) : List Template :=
  if _h : 4 ≤ rest.length then
    let setId := u16At rest 0
    let setLength := u16At rest 2
    if _h4 : setLength < 4 then []
    else if setLength > rest.length then []
    else if setId = templateSetId then
      match parseTemplateSet version ((rest.take setLength).drop 4) with
      | .error _ => []
      | .ok templates => templates ++ declaredIn version templateSetId (rest.drop setLength)
    else if setId < 256 then []
    else declaredIn version templateSetId (rest.drop setLength)
  else []
termination_by rest.length
decreasing_by all_goals simp only [List.length_drop]; omega

def declared (datagram : List UInt8) : List Template :=
  match parseHeader datagram with
  | .error _ => []
  | .ok h => declaredIn h.version h.templateSetId (datagram.drop h.offset)

theorem get?_learn_of_ne {templates : List Template} {k : Nat}
    (h : ∀ t ∈ templates, t.templateId ≠ k) (table : Table) :
    Dict.get? (learn table templates) k = Dict.get? table k := by
  rw [get?_learn, Knowledge.after, List.find?_eq_none.mpr, Option.none_or]
  intro t ht
  simpa using h t (List.mem_reverse.mp ht)

theorem decodeSets_get? {version templateSetId k : Nat} {rest : List UInt8}
    (hk : ∀ t ∈ declaredIn version templateSetId rest, t.templateId ≠ k) (table : Table)
    (newTemplates : List Template) (records : List Record) :
    Dict.get? (decodeSets version templateSetId table newTemplates records rest).1 k =
      Dict.get? table k := by
  fun_induction decodeSets version templateSetId table newTemplates records rest with
  | case4 table newTemplates records rest h setId setLength h4 hlong table' templates more hset ih =>
    rw [declaredIn, dif_pos h, dif_neg h4, if_neg hlong] at hk
    obtain ⟨hid, hp, rfl, rfl⟩ | ⟨hid, hge, rfl, rfl, -⟩ := handleSet_eq_ok hset
    · rw [if_pos hid, hp] at hk
      rw [ih fun t htail => hk t (List.mem_append_right templates htail)]
      exact get?_learn_of_ne (fun t hhead => hk t (List.mem_append_left _ hhead)) table
    · rw [if_neg hid, if_neg (Nat.not_lt.mpr hge)] at hk
      exact ih hk
  | case1 | case2 | case3 | case5 => rfl

/-- A packet changes only the entries of the templates it defines. -/
theorem receive_get? {datagram : List UInt8} {k : Nat}
    (hk : ∀ t ∈ declared datagram, t.templateId ≠ k) (table : Table) :
    Dict.get? (receive table datagram).1 k = Dict.get? table k := by
  rw [receive]
  split
  · rfl
  · rename_i h hh
    rw [declared, hh] at hk
    exact decodeSets_get? hk table [] []

end NatStream.Collector.Watching
