import NatStream.Worker.Exports

namespace NatStream.Worker.Cadence

open NatStream.Lib.Bytes NatStream.Lib.Time NatStream.Events NatStream.Export.Templates
open NatStream.Export.Encoders NatStream.Export.Resolved NatStream.Export.Layout
open NatStream.Export.Messages NatStream.Worker.EventLoop NatStream.Worker.Ledger
open NatStream.Worker.Refinement NatStream.Worker.Iterations NatStream.Worker.Exports

variable {world : World} {config : Config}

/-- Whether the bytes after the header start with the template set, as a
collector sees it. -/
def announces (config : Config) (m : Sent) : Bool :=
  (templateSet config.template).isPrefixOf (m.bytes.drop (headerLen config.template.protocol))

/-- The message is, byte for byte, one with some records and with or without
the template. -/
def Written (world : World) (config : Config) (flag : Bool) (m : Sent) : Prop :=
  ∃ events sequence stamp, m.bytes =
    messageBytes config.template flag events sequence config.domainId (world.clock 0) stamp

theorem announces_of_carries {m : Sent} {e : Entry ConntrackEvent}
    (h : Carries world config m e) : announces config m = e.announces := by
  obtain ⟨stamp, hb⟩ := h.bytes
  rw [announces, hb, drop_messageBytes]
  exact templateSet_isPrefixOf (usable_template config) e.announces e.records

theorem carries_written {ms : List Sent} {es : List (Entry ConntrackEvent)}
    (h : List.Forall₂ (Carries world config) ms es) :
    ∀ m ∈ ms, Written world config (announces config m) m := by
  induction h with
  | nil =>
    intro m hm
    cases hm
  | @cons m e _ _ hc _ ih =>
    refine List.forall_mem_cons.mpr ⟨?_, ih⟩
    obtain ⟨stamp, hb⟩ := hc.bytes
    rw [announces_of_carries hc]
    exact ⟨e.records, e.sequence, stamp, hb⟩

theorem carries_head {ms : List Sent} {es : List (Entry ConntrackEvent)}
    (h : List.Forall₂ (Carries world config) ms es)
    (hf : ∀ e, es.head? = some e → e.announces = true) :
    ∀ m, ms.head? = some m → m.template = true ∧ announces config m = true := by
  intro m hm
  cases h with
  | nil => cases hm
  | cons hc _ =>
    cases hm
    rw [hc.template, announces_of_carries hc, and_self]
    exact hf _ rfl

theorem carries_takeWhile {ms : List Sent} {es : List (Entry ConntrackEvent)}
    (h : List.Forall₂ (Carries world config) ms es) :
    (ms.takeWhile fun m => !announces config m).length = (es.takeWhile plain).length := by
  induction h with
  | nil => rfl
  | @cons m e _ _ hc _ ih =>
    rw [List.takeWhile_cons, List.takeWhile_cons, plain, announces_of_carries hc]
    by_cases he : (!e.announces) = true
    · rw [if_pos he, if_pos he]
      exact congrArg (· + 1) ih
    · rw [if_neg he, if_neg he]
      rfl

theorem carries_times {ms : List Sent} {es : List (Entry ConntrackEvent)}
    (h : List.Forall₂ (Carries world config) ms es) :
    (ms.filter (announces config)).map Sent.templateTime =
      (es.filter Entry.announces).map Entry.time := by
  induction h with
  | nil => rfl
  | @cons m e _ _ hc _ ih =>
    rw [List.filter_cons, List.filter_cons, announces_of_carries hc]
    cases e.announces with
    | true => exact congrArg₂ List.cons hc.time ih
    | false => exact ih

theorem carries_spaced {ms : List Sent} {es : List (Entry ConntrackEvent)}
    (h : List.Forall₂ (Carries world config) ms es) {d : Int}
    (hs : (es.filter Entry.announces).Pairwise fun e e' => e.time + d ≤ e'.time) :
    (ms.filter (announces config)).Pairwise fun m m' => m.templateTime + d ≤ m'.templateTime := by
  have hmap : ((es.filter Entry.announces).map Entry.time).Pairwise fun t t' => t + d ≤ t' :=
    List.pairwise_map.mpr hs
  rw [← carries_times h] at hmap
  exact List.pairwise_map.mp hmap

/-- A run that started in a state either is still there or has gone past its
timers. -/
def Onward (world : World) (config : Config) (w : State) (b : Books ConntrackEvent) (w' : State) :
    Prop :=
  w' = w ∨ ∃ b', Moves (terms world config) (timed (terms world config) b) b' ∧
    InStep world config w' b'

theorem Onward.iterate {w w' : State} {b : Books ConntrackEvent} {t : Turn} {outcome : Outcome}
    (h : InStep world config w b) (ho : Onward world config w b w')
    (ht : iterate world config w' t = some outcome) :
    ∃ b', Moves (terms world config) (timed (terms world config) b) b' ∧
      Ends world config b' outcome := by
  obtain rfl | ⟨b₁, hm₁, h₁⟩ := ho
  · obtain ⟨b', hm, he⟩ := iterate_ends h ht
    exact ⟨b', (announced_moves _ _ _).trans hm, he⟩
  · obtain ⟨b', hm, he⟩ := iterate_ends h₁ ht
    exact ⟨b', (hm₁.trans (topped_moves world config b₁)).trans hm, he⟩

theorem runs_onward {w w' : State} {b : Books ConntrackEvent} (h : InStep world config w b)
    (hr : Runs world config w w') : Onward world config w b w' := by
  induction hr with
  | refl => exact Or.inl rfl
  | turn _ ht ih =>
    obtain ⟨b', hm, he⟩ := Onward.iterate h ih ht
    cases he with
    | again hi => exact Or.inr ⟨b', hm, hi⟩

theorem timed_of_due {b : Books ConntrackEvent} {c : Terms ConntrackEvent} (h : isDue c b) :
    (timed c b).due = true := by
  rw [timed, decide_eq_true h, Bool.or_true]

/-- Once a retransmit is due, at most one message goes out before the template. -/
theorem template_soon {w w' : State} {b : Books ConntrackEvent} (h : InStep world config w b)
    (hdue : retransmitDue world config w = true) (hv : Visits world config w w') :
    ((w'.outbox.drop w.outbox.length).takeWhile fun m => !announces config m).length ≤ 1 := by
  have hg := h.mirrors.agrees
  have hsoon : ∀ b', Moves (terms world config) (timed (terms world config) b) b' →
      Agrees world config w' b' →
      ((w'.outbox.drop w.outbox.length).takeWhile fun m => !announces config m).length ≤ 1 := by
    intro b' hm hg'
    rw [retransmitDue_eq hg, decide_eq_true_eq] at hdue
    have ha := hm.invariant (fun _ _ hm => hm.awaited) (awaited_of_due (timed_of_due hdue))
    rw [carries_takeWhile (List.forall₂_drop _ hg'.sent), hg.sent.length_eq]
    exact ha.soon
  have hstay : w' = w →
      ((w'.outbox.drop w.outbox.length).takeWhile fun m => !announces config m).length ≤ 1 := by
    rintro rfl
    rw [List.drop_length]
    exact Nat.zero_le 1
  cases hv with
  | top hr =>
    obtain hsame | ⟨b', hm, hi⟩ := runs_onward h hr
    · exact hstay hsame
    · exact hsoon b' hm hi.mirrors.agrees
  | stopped hr ht =>
    obtain ⟨b', hm, he⟩ := Onward.iterate h (runs_onward h hr) ht
    cases he with
    | stopped hf => exact hsoon b' hm hf.agrees

theorem topped_due {b : Books ConntrackEvent} (h : (topped world config b).current = none) :
    (topped world config b).due = false := by
  rw [topped, announced] at h ⊢
  split
  · rfl
  · rename_i hn
    rw [if_neg hn] at h
    rw [h, Option.isNone_none, Bool.and_true] at hn
    exact Bool.eq_false_of_not_eq_true hn

/-- The template cadence, read from the bytes that went out: the first message
carries the template, a due template is held up by at most one message, the
times noted for the messages that carry it are an interval apart, and none is
owed when the loop waits with nothing in progress. -/
theorem template_cadence (world : World) (config : Config) (nlDrops : Nat) {w : State}
    (h : Runs world config (startWorker world config nlDrops) w) :
    (∀ w', Visits world config w w' → ∀ m ∈ w'.outbox,
      Written world config (announces config m) m) ∧
    (∀ w', Visits world config w w' → ∀ m, w'.outbox.head? = some m →
      announces config m = true) ∧
    (retransmitDue world config w = true → ∀ w', Visits world config w w' →
      ((w'.outbox.drop w.outbox.length).takeWhile fun m => !announces config m).length ≤ 1) ∧
    (∀ w', Visits world config w w' → (w'.outbox.filter (announces config)).Pairwise fun m m' =>
      m.templateTime + (templateInterval config : Int) ≤ m'.templateTime) ∧
    (∀ drops w', loopTop world config drops w = some w' → w'.messageActive = false →
      w'.includeTemplate = false) := by
  obtain ⟨b, hm, hi⟩ := runs_inStep (startWorker_inStep world config nlDrops) h
  refine ⟨?_, ?_, ?_, ?_, ?_⟩
  · intro w' hv
    obtain ⟨b', -, hg⟩ := visits_agrees hi hv
    exact carries_written hg.sent
  · intro w' hv
    obtain ⟨b', hm', hg⟩ := visits_agrees hi hv
    intro m hhead
    exact (carries_head hg.sent (opening_scheduled (hm.trans hm')).first m hhead).2
  · intro hdue w' hv
    exact template_soon hi hdue hv
  · intro w' hv
    obtain ⟨b', hm', hg⟩ := visits_agrees hi hv
    exact carries_spaced hg.sent (opening_scheduled (hm.trans hm')).spaced
  · intro drops w' hl ha
    obtain ⟨w₁, hl₁, -, h₁⟩ := loopTop_inStep hi drops
    cases hl.symm.trans hl₁
    rw [h₁.mirrors.agrees.due]
    exact topped_due (h₁.mirrors.idle ha)

/-- A machine on which a hundred seconds pass between two readings of the clock. -/
def slowWorld : World where
  endian := .little
  clock := fun k => k * 100000000000
  monotone := fun _ _ h => Int.mul_le_mul_of_nonneg_right (Int.ofNat_le.mpr h) (by decide)
  systemTime := fun _ => 0
  sendOk := fun _ => true

/-- A new IPv4 session without address translation. -/
def quietDatagram : Datagram where
  senderPortid := 0
  payload := [28, 0, 0, 0, 0, 1, 0, 0, 0, 0, 0, 0, 0, 0, 0, 0, 2, 0, 0, 0, 8, 0, 3, 0, 0, 0, 1, 136]

def quietTurn : Turn where
  nlDrops := 0
  answer := .returned [] true [⟨[quietDatagram], by decide⟩]

/-- A wakeup on the timeout. -/
def timeoutTurn : Turn where
  nlDrops := 0
  answer := .returned [] false []

theorem template_cadence_sample :
    ∃ w, runTurns slowWorld sampleConfig (startWorker slowWorld sampleConfig 0)
        [timeoutTurn, quietTurn] = some w ∧ retransmitDue slowWorld sampleConfig w = true ∧
      (w.outbox.filter (announces sampleConfig)).length = 2 ∧
      ((w.outbox.filter (announces sampleConfig)).Pairwise fun m m' =>
        m.templateTime + (templateInterval sampleConfig : Int) ≤ m'.templateTime) ∧
      ∀ w', Visits slowWorld sampleConfig w w' →
        ((w'.outbox.drop w.outbox.length).takeWhile fun m => !announces sampleConfig m).length ≤
          1 := by
  have heval : (runTurns slowWorld sampleConfig (startWorker slowWorld sampleConfig 0)
      [timeoutTurn, quietTurn]).any (fun w => retransmitDue slowWorld sampleConfig w = true ∧
        (w.outbox.filter (announces sampleConfig)).length = 2) = true := by
    decide +kernel
  obtain ⟨w, hw, hp⟩ := (Option.any_eq_true _ _).mp heval
  obtain ⟨hdue, htwo⟩ := of_decide_eq_true hp
  obtain ⟨-, -, hsoon, hspaced, -⟩ :=
    template_cadence slowWorld sampleConfig 0 (Runs.refl.turns hw)
  exact ⟨w, hw, hdue, htwo, hspaced w (.top .refl), hsoon hdue⟩

/-- A machine that is held up for 900 ms between the two readings of the clock
for the first template. -/
def heldUpWorld : World where
  endian := .little
  clock := fun k => if k ≤ 4 then 0 else if k ≤ 6 then 900000000 else 1000000000
  monotone := by
    intro i j h
    split_ifs <;> first | omega | decide
  systemTime := fun _ => 0
  sendOk := fun _ => true

def netflowConfig : Config where
  domainId := 42
  template := ⟨resolvedFields .netflow9 .natSource .four, 36, 300, .netflow9, .natSource, .four⟩
  templateInterval := 1
  interval_ne_zero := by decide
  resolved := ⟨.netflow9, .natSource, .four, 300, by decide +kernel⟩

/-- When a NetFlow v9 message was finalized, in milliseconds since the encoder
was made, as its header says. -/
def finalizedMs (m : Sent) : Nat := beNat ((m.bytes.drop 4).take 4)

/-- The header is stamped after the time of the template has been noted, so two
templates an interval of a second apart can be stamped with 900 and 1000 ms. -/
theorem templates_finalized_close :
    ∃ w, Reaches heldUpWorld netflowConfig w ∧
      (w.outbox.filter (announces netflowConfig)).map finalizedMs = [900, 1000] ∧
      ¬ (w.outbox.filter (announces netflowConfig)).Pairwise fun m m' =>
        finalizedMs m + asMillis (templateInterval netflowConfig) ≤ finalizedMs m' := by
  have heval : (runTurns heldUpWorld netflowConfig (startWorker heldUpWorld netflowConfig 0)
      [timeoutTurn, timeoutTurn]).any (fun w =>
        (w.outbox.filter (announces netflowConfig)).map finalizedMs = [900, 1000] ∧
        ¬ (w.outbox.filter (announces netflowConfig)).Pairwise fun m m' =>
          finalizedMs m + asMillis (templateInterval netflowConfig) ≤ finalizedMs m') = true := by
    decide +kernel
  obtain ⟨w, hw, hp⟩ := (Option.any_eq_true _ _).mp heval
  exact ⟨w, ⟨0, Runs.refl.turns hw⟩, of_decide_eq_true hp⟩

/-- A message that is, byte for byte, one with the template goes out between the
top of the loop and the poll. -/
def SendsTemplate (world : World) (config : Config) (nlDrops : Nat) (w : State) : Prop :=
  ∃ w' m, loopTop world config nlDrops w = some w' ∧ m ∈ w'.outbox.drop w.outbox.length ∧
    announces config m = true ∧ Written world config true m

theorem topped_of_idle {b : Books ConntrackEvent} (hdue : isDue (terms world config) b)
    (hc : b.current = none) :
    ∃ e, (topped world config b).sent = b.sent ++ [e] ∧ e.announces = true := by
  have hand : ((timed (terms world config) b).due && (timed (terms world config) b).current.isNone) =
      true := by
    rw [timed_of_due hdue, Bool.true_and, Option.isNone_iff_eq_none]
    exact hc
  rw [topped, announced, if_pos hand]
  exact ⟨_, rfl, rfl⟩

theorem topped_of_active {b : Books ConntrackEvent} {current : Bool × List ConntrackEvent}
    (hc : b.current = some current) : (topped world config b).sent = b.sent := by
  have hand : ¬ ((timed (terms world config) b).due &&
      (timed (terms world config) b).current.isNone) = true := by
    rw [Bool.and_eq_true, Option.isNone_iff_eq_none]
    rintro ⟨-, hnone⟩
    exact Option.some_ne_none _ (hc.symm.trans hnone)
  rw [topped, announced, if_neg hand]
  rfl

/-- A due template goes out on its own exactly when no message is in progress:
one begun for datagrams without any session event holds it back. -/
theorem sendsTemplate_iff_idle (world : World) (config : Config) {w : State}
    (h : Reaches world config w) (hdue : retransmitDue world config w = true) (nlDrops : Nat) :
    SendsTemplate world config nlDrops w ↔ w.messageActive = false := by
  obtain ⟨b, -, hi⟩ := reaches_inStep h
  have hg := hi.mirrors.agrees
  obtain ⟨w', hl, -, h'⟩ := loopTop_inStep hi nlDrops
  have hsent := List.forall₂_drop w.outbox.length h'.mirrors.agrees.sent
  rw [hg.sent.length_eq] at hsent
  rw [retransmitDue_eq hg, decide_eq_true_eq] at hdue
  refine ⟨?_, ?_⟩
  · rintro ⟨w₁, m, hl₁, hm, -⟩
    cases hl.symm.trans hl₁
    by_contra hactive
    obtain ⟨flag, events, hc, -⟩ := hi.mirrors.active (Bool.eq_true_of_not_eq_false hactive)
    rw [topped_of_active hc, List.drop_length, List.forall₂_nil_right_iff, ← hg.sent.length_eq] at hsent
    rw [hsent] at hm
    cases hm
  · intro hidle
    obtain ⟨e, hs, he⟩ := topped_of_idle hdue (hi.mirrors.idle hidle)
    rw [hs, List.drop_left, ← hg.sent.length_eq, List.forall₂_cons_right_iff] at hsent
    obtain ⟨m, rest, hm, -, hout⟩ := hsent
    have hmem : m ∈ w'.outbox.drop w.outbox.length := by
      rw [hout]
      exact List.mem_cons_self
    have hann := (announces_of_carries hm).trans he
    have hwritten := carries_written h'.mirrors.agrees.sent m (List.mem_of_mem_drop hmem)
    rw [hann] at hwritten
    exact ⟨w', m, hl, hmem, hann, hwritten⟩

theorem sendsTemplate_iff_idle_sample :
    ∃ idle busy, Reaches slowWorld sampleConfig idle ∧ Reaches slowWorld sampleConfig busy ∧
      idle.outbox ≠ [] ∧ busy.outbox ≠ [] ∧
      SendsTemplate slowWorld sampleConfig 0 idle ∧ ¬ SendsTemplate slowWorld sampleConfig 0 busy := by
  have hwaits : (runTurns slowWorld sampleConfig (startWorker slowWorld sampleConfig 0)
      [timeoutTurn]).any (fun w => retransmitDue slowWorld sampleConfig w = true ∧
        w.messageActive = false ∧ w.outbox ≠ []) = true := by
    decide +kernel
  have hworks : (runTurns slowWorld sampleConfig (startWorker slowWorld sampleConfig 0)
      [quietTurn]).any (fun w => retransmitDue slowWorld sampleConfig w = true ∧
        w.messageActive = true ∧ w.outbox ≠ []) = true := by
    decide +kernel
  obtain ⟨idle, hidle, hp⟩ := (Option.any_eq_true _ _).mp hwaits
  obtain ⟨busy, hbusy, hq⟩ := (Option.any_eq_true _ _).mp hworks
  obtain ⟨hdue, hinactive, hsent⟩ := of_decide_eq_true hp
  obtain ⟨hdue', hactive, hsent'⟩ := of_decide_eq_true hq
  have hr : Reaches slowWorld sampleConfig idle := ⟨0, Runs.refl.turns hidle⟩
  have hr' : Reaches slowWorld sampleConfig busy := ⟨0, Runs.refl.turns hbusy⟩
  refine ⟨idle, busy, hr, hr', hsent, hsent', ?_, ?_⟩
  · exact (sendsTemplate_iff_idle slowWorld sampleConfig hr hdue 0).mpr hinactive
  · rw [sendsTemplate_iff_idle slowWorld sampleConfig hr' hdue' 0, hactive]
    decide

/-- Two wakeups without a session event are enough: the template is due, the
message in progress is empty, and nothing goes out. -/
theorem due_template_withheld :
    ∃ w, Reaches slowWorld sampleConfig w ∧ retransmitDue slowWorld sampleConfig w = true ∧
      w.messageActive = true ∧ w.encoder.recordCount = 0 ∧
      ¬ SendsTemplate slowWorld sampleConfig 0 w := by
  have heval : (runTurns slowWorld sampleConfig (startWorker slowWorld sampleConfig 0)
      [quietTurn, quietTurn]).any (fun w => retransmitDue slowWorld sampleConfig w = true ∧
        w.messageActive = true ∧ w.encoder.recordCount = 0 ∧
        ((loopTop slowWorld sampleConfig 0 w).all fun w' => w'.outbox.length = w.outbox.length) =
          true) = true := by
    decide +kernel
  obtain ⟨w, hw, hp⟩ := (Option.any_eq_true _ _).mp heval
  obtain ⟨hdue, hactive, hcount, hall⟩ := of_decide_eq_true hp
  refine ⟨w, ⟨0, Runs.refl.turns hw⟩, hdue, hactive, hcount, ?_⟩
  rintro ⟨w', m, hl, hm, -⟩
  rw [hl, Option.all_some, decide_eq_true_eq] at hall
  rw [List.drop_of_length_le (le_of_eq hall)] at hm
  cases hm

/-- Nothing was added to the message in progress and nothing was sent. -/
structure Unmoved (w w' : State) : Prop where
  encoder : w'.encoder = w.encoder
  lastTemplateTime : w'.lastTemplateTime = w.lastTemplateTime
  messageActive : w'.messageActive = w.messageActive
  outbox : w'.outbox = w.outbox

theorem Unmoved.trans {w w' w'' : State} (h : Unmoved w w') (h' : Unmoved w' w'') : Unmoved w w'' :=
  ⟨h'.encoder.trans h.encoder, h'.lastTemplateTime.trans h.lastTemplateTime,
    h'.messageActive.trans h.messageActive, h'.outbox.trans h.outbox⟩

theorem countTruncated_unmoved (w : State) (d : Datagram) : Unmoved w (countTruncated w d) := by
  rw [countTruncated]
  split <;> exact ⟨rfl, rfl, rfl, rfl⟩

theorem receiveDatagram_quiet {w : State} {d : Datagram} (ha : w.messageActive = true)
    (hq : reported world [d] = []) :
    ∃ w', receiveDatagram world w d = some w' ∧ Unmoved w w' := by
  by_cases hp : d.senderPortid ≠ 0
  · exact ⟨_, receiveDatagram_foreign hp w, rfl, rfl, rfl, rfl⟩
  · have hcount := countTruncated_unmoved { w with received := w.received ++ [d] } d
    have hsame : Unmoved w (countTruncated { w with received := w.received ++ [d] } d) :=
      ⟨hcount.encoder, hcount.lastTemplateTime, hcount.messageActive, hcount.outbox⟩
    by_cases hk : (kept d).length = 0
    · exact ⟨_, receiveDatagram_empty hp hk w, hsame⟩
    · rw [reported_kernel hp hk] at hq
      rw [receiveDatagram_kernel hp hk, ensureActive, if_pos (hsame.messageActive.trans ha),
        Option.bind_some, hq]
      exact ⟨_, rfl, hsame⟩

theorem receiveBatch_quiet {w : State} {ds : List Datagram} (ha : w.messageActive = true)
    (hq : ∀ d ∈ ds, reported world [d] = []) :
    ∃ w', ds.foldlM (receiveDatagram world) w = some w' ∧ Unmoved w w' := by
  induction ds generalizing w with
  | nil => exact ⟨w, rfl, rfl, rfl, rfl, rfl⟩
  | cons d ds ih =>
    obtain ⟨w₁, hw₁, h₁⟩ := receiveDatagram_quiet ha (hq d List.mem_cons_self)
    obtain ⟨w₂, hw₂, h₂⟩ := ih (h₁.messageActive.trans ha) fun d' hd' => hq d' (List.mem_cons_of_mem d hd')
    refine ⟨w₂, ?_, h₁.trans h₂⟩
    rw [List.foldlM_cons, hw₁]
    exact hw₂

theorem drain_quiet {w : State} {k : Nat} {batches : List Batch} (ha : w.messageActive = true)
    (hq : ∀ batch ∈ batches, ∀ d ∈ batch.datagrams, reported world [d] = []) :
    ∃ w', drain world k batches w = some w' ∧ Unmoved w w' := by
  induction k generalizing w batches with
  | zero => exact ⟨w, rfl, rfl, rfl, rfl, rfl⟩
  | succ k ih =>
    cases batches with
    | nil => exact ⟨w, rfl, rfl, rfl, rfl, rfl⟩
    | cons batch batches =>
      rw [drain]
      by_cases hne : batch.datagrams = []
      · exact ⟨w, if_pos hne, rfl, rfl, rfl, rfl⟩
      · obtain ⟨w₁, hw₁, h₁⟩ := receiveBatch_quiet ha (hq batch List.mem_cons_self)
        rw [if_neg hne, hw₁, Option.bind_eq_bind, Option.bind_some]
        by_cases hl : batch.datagrams.length < recvBatchSize
        · exact ⟨w₁, if_pos hl, h₁⟩
        · rw [if_neg hl]
          obtain ⟨w₂, hw₂, h₂⟩ := ih (h₁.messageActive.trans ha)
            fun batch' hb' => hq batch' (List.mem_cons_of_mem batch hb')
          exact ⟨w₂, hw₂, h₁.trans h₂⟩

/-- A wakeup for datagrams that hold no session event. -/
def Quiet (world : World) (t : Turn) : Prop :=
  ∃ batches, t.answer = .returned [] true batches ∧
    ∀ batch ∈ batches, ∀ d ∈ batch.datagrams, reported world [d] = []

theorem iterate_quiet {w : State} {t : Turn} (ha : w.messageActive = true) (hq : Quiet world t) :
    ∃ w', iterate world config w t = some (.again w') ∧ Unmoved w w' := by
  obtain ⟨batches, hanswer, hquiet⟩ := hq
  have htop : Unmoved w (checkTimers world config t.nlDrops w) := by
    rw [checkTimers, reportStats]
    split <;> exact ⟨rfl, rfl, rfl, rfl⟩
  have ha' := htop.messageActive.trans ha
  obtain ⟨w', hw', h'⟩ := drain_quiet (k := maxBatchesPerPoll) ha' hquiet
  refine ⟨w', ?_, htop.trans h'⟩
  simp only [iterate, loopTop, sendTemplate, pollTimeout, afterPoll, hanswer, ha', hw', Bool.not_true,
    Bool.and_false, Bool.false_eq_true, if_false, if_true, Option.bind_eq_bind, Option.bind_some,
    Option.map_some]

/-- However many such wakeups follow each other, and however long the template
has been due, none of them lets it out. -/
theorem quiet_traffic_withholds_template {w : State} {turns : List Turn}
    (ha : w.messageActive = true) (hq : ∀ t ∈ turns, Quiet world t) :
    ∃ w', runTurns world config w turns = some w' ∧ Unmoved w w' := by
  induction turns generalizing w with
  | nil => exact ⟨w, rfl, rfl, rfl, rfl, rfl⟩
  | cons t turns ih =>
    obtain ⟨w₁, hw₁, h₁⟩ := iterate_quiet ha (hq t List.mem_cons_self)
    obtain ⟨w₂, hw₂, h₂⟩ := ih (h₁.messageActive.trans ha) fun t' ht' => hq t' (List.mem_cons_of_mem t ht')
    refine ⟨w₂, ?_, h₁.trans h₂⟩
    rw [runTurns, List.foldlM_cons, hw₁]
    exact hw₂

end NatStream.Worker.Cadence
