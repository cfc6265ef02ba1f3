import NatStream.Collector.Reading
import NatStream.Worker.Exports

namespace NatStream.Worker.Sequences

open NatStream.Lib.Bytes NatStream.Events NatStream.Export.Templates NatStream.Export.Encoders
open NatStream.Export.Layout NatStream.Export.Messages
open NatStream.Collector.FlowDecode (u32At)
open NatStream.Collector.Reading (u32At_append)
open NatStream.Worker.EventLoop NatStream.Worker.Ledger NatStream.Worker.Refinement
open NatStream.Worker.Iterations NatStream.Worker.Exports

variable {world : World} {config : Config}

/-- The sequence number in the header of a message, as a collector reads it. -/
def sequenceOf (protocol : Protocol) (bytes : List UInt8) : UInt32 :=
  UInt32.ofNat (u32At bytes (match protocol with
    | .ipfix => 8
    | .netflow9 => 12))

theorem sequenceOf_messageBytes (t : Template) (flag : Bool) (events : List ConntrackEvent)
    (sequence domain : UInt32) (started : Lib.Time.Instant) (stamp : Stamp) :
    sequenceOf t.protocol (messageBytes t flag events sequence domain started stamp) = sequence := by
  have hread : ∀ (pre rest : List UInt8) (k : Nat), pre.length = k →
      UInt32.ofNat (u32At (pre ++ (beBytes 4 sequence.toNat ++ rest)) k) = sequence := by
    intro pre rest k hk
    rw [u32At_append pre rest hk sequence.toNat_lt, UInt32.ofNat_toNat]
  cases hp : t.protocol with
  | ipfix =>
    have hm : messageBytes t flag events sequence domain started stamp =
        (beBytes 2 ipfixVersion.toNat ++ beBytes 2 (closedLen t flag events.length) ++
          beBytes 4 (unixSecs stamp).toNat) ++ (beBytes 4 sequence.toNat ++
          (beBytes 4 domain.toNat ++ (templatePart t flag ++ dataPart t events))) := by
      simp only [messageBytes, headerBytes, hp, List.append_assoc]
    rw [hm]
    exact hread _ _ 8 (by simp)
  | netflow9 =>
    have hm : messageBytes t flag events sequence domain started stamp =
        (beBytes 2 netflow9Version.toNat ++ beBytes 2 (events.length + flag.toNat) ++
          beBytes 4 (uptimeMs started stamp).toNat ++ beBytes 4 (unixSecs stamp).toNat) ++
          (beBytes 4 sequence.toNat ++
          (beBytes 4 domain.toNat ++ (templatePart t flag ++ dataPart t events))) := by
      simp only [messageBytes, headerBytes, hp, List.append_assoc]
    rw [hm]
    exact hread _ _ 12 (by simp)

theorem carries_sequence {m : Sent} {e : Entry ConntrackEvent} (h : Carries world config m e) :
    sequenceOf config.template.protocol m.bytes = e.sequence := by
  obtain ⟨stamp, hb⟩ := h.bytes
  rw [hb, sequenceOf_messageBytes]

/-- How far a message that went out moves the sequence number. -/
def step (protocol : Protocol) (m : Sent) : UInt32 :=
  match protocol with
  | .ipfix => m.count
  | .netflow9 => 1

theorem carries_step {m : Sent} {e : Entry ConntrackEvent} (h : Carries world config m e) :
    (terms world config).advance e.records = step config.template.protocol m := by
  change advanceOf config.template.protocol e.records = _
  cases config.template.protocol with
  | ipfix => simp only [advanceOf, step, ← h.count, UInt32.ofNat_toNat]
  | netflow9 => rfl

theorem carries_total {ms : List Sent} {es : List (Entry ConntrackEvent)}
    (h : List.Forall₂ (Carries world config) ms es) :
    total (terms world config) es = (ms.map (step config.template.protocol)).sum := by
  induction h with
  | nil => rfl
  | cons hm _ ih => rw [total_cons, ih, carries_step hm, List.map_cons, List.sum_cons]

theorem carries_failed {ms : List Sent} {es : List (Entry ConntrackEvent)}
    (h : List.Forall₂ (Carries world config) ms es) :
    es.countP (fun e => !e.delivered) = ms.countP fun m => !m.delivered := by
  induction h with
  | nil => rfl
  | cons hm _ ih => rw [List.countP_cons, List.countP_cons, ih, hm.delivered]

theorem forall₂_split {α β : Type} {R : α → β → Prop} {xs ys : List α} {a : α} {l : List β}
    (h : List.Forall₂ R (xs ++ a :: ys) l) :
    ∃ xs' a' ys', l = xs' ++ a' :: ys' ∧ List.Forall₂ R xs xs' ∧ R a a' := by
  induction xs generalizing l with
  | nil =>
    cases h with
    | cons ha _ => exact ⟨[], _, _, rfl, .nil, ha⟩
  | cons x xs ih =>
    cases h with
    | cons hx hrest =>
      obtain ⟨xs', a', ys', rfl, hxs, ha⟩ := ih hrest
      exact ⟨_ :: xs', a', ys', rfl, .cons hx hxs, ha⟩

/-- Every message carries the sum of the steps before it. -/
theorem sequence_eq {w : State} {b : Books ConntrackEvent} (h : Agrees world config w b)
    (hn : Numbered (terms world config) b) {before after : List Sent} {m : Sent}
    (hw : w.outbox = before ++ m :: after) :
    sequenceOf config.template.protocol m.bytes =
      (before.map (step config.template.protocol)).sum := by
  have hs := h.sent
  rw [hw] at hs
  obtain ⟨before', e, after', he, hbefore, hm⟩ := forall₂_split hs
  rw [carries_sequence hm, hn.sequence before' e after' he, carries_total hbefore]

theorem toNat_sum (l : List UInt32) : l.sum.toNat = (l.map UInt32.toNat).sum % 2 ^ 32 := by
  induction l with
  | nil => rfl
  | cons x l ih =>
    rw [List.sum_cons, UInt32.toNat_add, ih, List.map_cons, List.sum_cons, Nat.add_mod_mod]

theorem gap_eq {w : State} {b : Books ConntrackEvent} (h : Agrees world config w b)
    (hn : Numbered (terms world config) b) {before between after : List Sent} {m m' : Sent}
    (hw : w.outbox = before ++ m :: (between ++ m' :: after)) :
    (sequenceOf config.template.protocol m'.bytes - sequenceOf config.template.protocol m.bytes -
      step config.template.protocol m).toNat =
      ((between.map (step config.template.protocol)).map UInt32.toNat).sum % 2 ^ 32 := by
  have hw' : w.outbox = (before ++ m :: between) ++ m' :: after := by
    rw [hw, List.append_assoc, List.cons_append]
  rw [sequence_eq h hn hw, sequence_eq h hn hw', ← toNat_sum, List.map_append, List.sum_append,
    List.map_cons, List.sum_cons]
  apply congrArg UInt32.toNat
  grind

/-- What a collector can tell from two sequence numbers: between two messages
that were sent with only failed sends between them, the gap is what was lost. -/
def GapMeasuresLoss (protocol : Protocol) (m m' : Sent) (between : List Sent) : Prop :=
  match protocol with
  | .ipfix => (sequenceOf protocol m'.bytes - sequenceOf protocol m.bytes - m.count).toNat =
      (between.map fun lost => lost.count.toNat).sum % 2 ^ 32
  | .netflow9 => (sequenceOf protocol m'.bytes - sequenceOf protocol m.bytes - 1).toNat =
      between.length % 2 ^ 32

theorem gap_measures_loss {w : State} {b : Books ConntrackEvent} (h : Agrees world config w b)
    (hn : Numbered (terms world config) b) {before between after : List Sent} {m m' : Sent}
    (hw : w.outbox = before ++ m :: (between ++ m' :: after)) :
    GapMeasuresLoss config.template.protocol m m' between := by
  have hg := gap_eq h hn hw
  unfold GapMeasuresLoss
  cases hp : config.template.protocol with
  | ipfix =>
    rw [hp, List.map_map] at hg
    exact hg
  | netflow9 =>
    have hones : (between.map (step .netflow9)).map UInt32.toNat =
        List.replicate between.length 1 := by
      rw [List.map_map]
      exact List.map_eq_replicate_iff.mpr fun _ _ => rfl
    rw [hp, hones, List.sum_replicate_nat, Nat.mul_one] at hg
    exact hg

/-- Sequence numbers account for every message, sent or lost, however often
the counter has wrapped. -/
theorem sequence_gaps_measure_loss (world : World) (config : Config) (nlDrops : Nat) {w : State}
    (h : Visits world config (startWorker world config nlDrops) w) :
    (∀ before m between m' after, w.outbox = before ++ m :: (between ++ m' :: after) →
      m.delivered = true → m'.delivered = true → (∀ lost ∈ between, lost.delivered = false) →
      GapMeasuresLoss config.template.protocol m m' between) ∧
    (∀ m ∈ w.outbox, ∃ events, Carried world config m events) ∧
    (∀ m, w.outbox.head? = some m → sequenceOf config.template.protocol m.bytes = 0) ∧
    (∀ before m m' after, w.outbox = before ++ m :: m' :: after →
      config.template.protocol = .ipfix → m.count = 0 →
      sequenceOf .ipfix m'.bytes = sequenceOf .ipfix m.bytes) ∧
    (∀ reason, hasPendingOutput w.encoder = false → flushMessage world reason w = some w) ∧
    w.sendErrors = w.outbox.countP (fun m => !m.delivered) := by
  obtain ⟨b, hm, hg⟩ := visits_agrees (startWorker_inStep world config nlDrops) h
  have hn := opening_numbered hm
  refine ⟨?_, ?_, ?_, ?_, ?_, ?_⟩
  · intro before m between m' after hw _ _ _
    exact gap_measures_loss hg hn hw
  · intro m hmem
    obtain ⟨before, after, hw⟩ := List.append_of_mem hmem
    have hc := carried_of_agrees hg
    rw [hw] at hc
    obtain ⟨_, events, _, _, _, hm⟩ := forall₂_split hc
    exact ⟨events, hm⟩
  · intro m hhead
    obtain ⟨rest, hw⟩ := List.head?_eq_some_iff.mp hhead
    have hw' : w.outbox = [] ++ m :: rest := hw
    exact sequence_eq hg hn hw'
  · intro before m m' after hw hp hcount
    have hw' : w.outbox = (before ++ [m]) ++ m' :: after := by
      rw [hw, List.append_assoc]
      rfl
    have hs := sequence_eq hg hn hw
    have hs' := sequence_eq hg hn hw'
    rw [hp] at hs hs'
    rw [hs, hs', List.map_append, List.sum_append]
    simp [step, hcount]
  · intro reason hpend
    rw [flushMessage, hpend]
    rfl
  · rw [hg.errors, hn.failures, carries_failed hg.sent]

theorem sequence_gaps_measure_loss_sample :
    ∃ w, runTurns sampleWorld sampleConfig (startWorker sampleWorld sampleConfig 0)
        (sampleTurns ++ [⟨0, .returned [] false []⟩]) = some w ∧
      ∃ m lost m', w.outbox = [m, lost, m'] ∧
        GapMeasuresLoss .ipfix m m' [lost] ∧ w.sendErrors = 1 := by
  have heval : (runTurns sampleWorld sampleConfig (startWorker sampleWorld sampleConfig 0)
      (sampleTurns ++ [⟨0, .returned [] false []⟩])).any (fun w =>
        w.outbox.length = 3 ∧ w.outbox.map Sent.delivered = [true, false, true]) = true := by
    decide +kernel
  obtain ⟨w, hw, hp⟩ := (Option.any_eq_true _ _).mp heval
  obtain ⟨hl, hd⟩ := of_decide_eq_true hp
  obtain ⟨m, lost, m', hout⟩ := List.length_eq_three.mp hl
  obtain ⟨hgap, -, -, -, -, herr⟩ := sequence_gaps_measure_loss sampleWorld sampleConfig 0
    (.top (Runs.refl.turns hw))
  simp only [hout, List.map_cons, List.map_nil, List.cons.injEq, and_true] at hd
  refine ⟨w, hw, m, lost, m', hout, hgap [] m [lost] m' [] hout hd.1 hd.2.2 ?_, ?_⟩
  · intro x hx
    rw [List.mem_singleton.mp hx, hd.2.1]
  · rw [herr, hout]
    simp [hd]

end NatStream.Worker.Sequences
