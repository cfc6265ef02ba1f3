import NatStream.Worker.Bookkeeping
import NatStream.Worker.Clamping
import NatStream.Worker.Invariants

namespace NatStream.Worker.Statistics

open NatStream.Lib.Time NatStream.Events NatStream.Worker.EventLoop NatStream.Worker.Ledger
open NatStream.Worker.Refinement NatStream.Worker.Iterations NatStream.Worker.Invariants
open NatStream.Worker.Bookkeeping NatStream.Worker.Clamping NatStream.Worker.Exports

variable {world : World} {config : Config}

def total (f : Report → Nat) (lines : List (Instant × Report)) : Nat :=
  (lines.map fun line => f line.2).sum

theorem total_append (f : Report → Nat) (lines more : List (Instant × Report)) :
    total f (lines ++ more) = total f lines + total f more := by
  rw [total, List.map_append, List.sum_append, total, total]

/-- The lines told exactly of these messages and datagrams. -/
structure Told (world : World) (config : Config) (lines : List (Instant × Report))
    (sent : List Sent) (seen : List Datagram) : Prop where
  sendErrors : total Report.newSendErrors lines = sent.countP undelivered
  truncated : total Report.newTruncated lines = seen.countP overflows
  foreignMsgs : total Report.newForeign lines = seen.countP isForeign
  saturated : total Report.newSaturated lines =
    overflowing config.template.fields (reported world seen)

/-- What a worker counts is what happened. -/
structure Counted (world : World) (config : Config) (w : State) : Prop where
  sendErrors : w.sendErrors = w.outbox.countP undelivered
  truncated : w.truncatedMsgs = w.received.countP overflows
  foreignMsgs : w.foreignMsgs = w.received.countP isForeign
  saturated : w.encoder.saturatedCounters =
    overflowing config.template.fields (reported world w.received)

/-- The lines so far told of these messages and datagrams, and the worker knows. -/
structure Settled (world : World) (config : Config) (w : State) (sent : List Sent)
    (seen : List Datagram) : Prop where
  told : Told world config w.lines sent seen
  sent : sent <+: w.outbox
  seen : seen <+: w.received
  prevSendErrors : w.prevSendErrors = total Report.newSendErrors w.lines
  prevTruncated : w.prevTruncatedMsgs = total Report.newTruncated w.lines
  prevForeign : w.prevForeignMsgs = total Report.newForeign w.lines
  prevSaturated : w.prevSaturated = total Report.newSaturated w.lines

theorem overflowing_append (fields : List Export.Templates.ResolvedField)
    (records more : List ConntrackEvent) :
    overflowing fields (records ++ more) = overflowing fields records + overflowing fields more := by
  rw [overflowing_eq_sum, overflowing_eq_sum, overflowing_eq_sum, List.map_append, List.sum_append]

theorem overflowing_le_of_prefix (world : World) (config : Config) {seen received : List Datagram}
    (h : seen <+: received) :
    overflowing config.template.fields (reported world seen) ≤
      overflowing config.template.fields (reported world received) := by
  obtain ⟨rest, rfl⟩ := h
  rw [reported_append, overflowing_append]
  exact Nat.le_add_right _ _

theorem total_statsLine {f : Report → Nat} (hf : ∀ r, r.isNews = false → f r = 0) (now : Instant)
    (nlDrops : Nat) (w : State) : total f (statsLine now nlDrops w) = f (statsReport nlDrops w) := by
  rw [statsLine]
  cases hn : (statsReport nlDrops w).isNews with
  | true => exact Nat.add_zero _
  | false => exact (hf _ hn).symm

theorem isNews_eq_false {r : Report} (h : r.isNews = false) :
    r.newNlDrops = 0 ∧ r.newSendErrors = 0 ∧ r.newTruncated = 0 ∧ r.newForeign = 0 ∧
      r.newSaturated = 0 := by
  simpa [Report.isNews, and_assoc] using h

/-- The next line tells of everything not told before: no difference is cut off
at zero. -/
theorem Settled.catchUp {w : State} {sent : List Sent} {seen : List Datagram}
    (h : Settled world config w sent seen) (hc : Counted world config w) (now : Instant)
    (nlDrops : Nat) :
    Told world config (w.lines ++ statsLine now nlDrops w) w.outbox w.received := by
  have hsent := h.sent.countP_le (p := undelivered)
  have hover := h.seen.countP_le (p := overflows)
  have hforeign := h.seen.countP_le (p := isForeign)
  have hsat := overflowing_le_of_prefix world config h.seen
  refine ⟨?_, ?_, ?_, ?_⟩
  · have hnew : total Report.newSendErrors (statsLine now nlDrops w) =
        w.sendErrors - w.prevSendErrors :=
      total_statsLine (fun r hr => (isNews_eq_false hr).2.1) now nlDrops w
    rw [total_append, hnew, h.prevSendErrors, hc.sendErrors, h.told.sendErrors]
    omega
  · have hnew : total Report.newTruncated (statsLine now nlDrops w) =
        w.truncatedMsgs - w.prevTruncatedMsgs :=
      total_statsLine (fun r hr => (isNews_eq_false hr).2.2.1) now nlDrops w
    rw [total_append, hnew, h.prevTruncated, hc.truncated, h.told.truncated]
    omega
  · have hnew : total Report.newForeign (statsLine now nlDrops w) =
        w.foreignMsgs - w.prevForeignMsgs :=
      total_statsLine (fun r hr => (isNews_eq_false hr).2.2.2.1) now nlDrops w
    rw [total_append, hnew, h.prevForeign, hc.foreignMsgs, h.told.foreignMsgs]
    omega
  · have hnew : total Report.newSaturated (statsLine now nlDrops w) =
        w.encoder.saturatedCounters - w.prevSaturated :=
      total_statsLine (fun r hr => (isNews_eq_false hr).2.2.2.2) now nlDrops w
    rw [total_append, hnew, h.prevSaturated, hc.saturated, h.told.saturated]
    omega

theorem iterate_takes {w w' : State} {t : Turn} (h : iterate world config w t = some (.again w')) :
    ∃ ds, Takes (fun _ => True) (checkTimers world config t.nlDrops w) ds w' := by
  obtain ⟨w₁, timeout, w₂, hl, hp, ha⟩ := iterate_eq_some h
  have htop := (sendTemplate_takes (R := fun _ => True) trivial hl).thenNothing (pollTimeout_takes hp)
  cases hanswer : t.answer with
  | interrupted =>
    rw [hanswer] at ha
    cases ha
    exact ⟨[], htop⟩
  | failed =>
    rw [hanswer] at ha
    cases ha
  | returned signals ready batches =>
    rw [hanswer] at ha
    cases signals with
    | cons signal signals =>
      obtain ⟨_, _, hout⟩ := Option.map_eq_some_iff.mp ha
      cases hout
    | nil =>
      cases ready with
      | false =>
        obtain ⟨_, hw, hout⟩ := Option.map_eq_some_iff.mp ha
        cases hout
        exact ⟨[], htop.thenNothing (flushOnTimeout_takes trivial hw)⟩
      | true =>
        obtain ⟨_, hw, hout⟩ := Option.map_eq_some_iff.mp ha
        cases hout
        obtain ⟨ds, ht⟩ := drain_takes (R := fun _ => True) trivial hw
        exact ⟨ds, htop.trans ht⟩

/-- Taking in datagrams and sending messages leaves what was told as it was. -/
theorem Settled.takes {R : Reason → Prop} {w w' : State} {sent : List Sent} {seen ds : List Datagram}
    (h : Settled world config w sent seen) (ht : Takes R w ds w') :
    Settled world config w' sent seen := by
  have hlines := ht.same.lines
  refine ⟨?_, ?_, ?_, ?_, ?_, ?_, ?_⟩
  · rw [hlines]
    exact h.told
  · obtain ⟨new, ho, -, -⟩ := ht.posted
    simpa only [ho] using h.sent.trans (List.prefix_append _ _)
  · simpa only [ht.received] using h.seen.trans (List.prefix_append _ _)
  · rw [hlines, ht.same.sendErrors, h.prevSendErrors]
  · rw [hlines, ht.same.truncated, h.prevTruncated]
  · rw [hlines, ht.same.foreignMsgs, h.prevForeign]
  · rw [hlines, ht.same.saturated, h.prevSaturated]

theorem checkTimers_eq (w : State) (nlDrops : Nat) :
    checkTimers world config nlDrops w =
      if reportDue (world.clock w.ticks) w then
        { w with
          includeTemplate := w.includeTemplate || retransmitDue world config w
          ticks := w.ticks + 1
          lines := w.lines ++ statsLine (world.clock w.ticks) nlDrops w
          dropReadings := w.dropReadings ++ [nlDrops]
          prevNlDrops := nlDrops
          prevSendErrors := w.sendErrors
          prevTruncatedMsgs := w.truncatedMsgs
          prevForeignMsgs := w.foreignMsgs
          prevSaturated := w.encoder.saturatedCounters
          lastStatsTime := world.clock w.ticks }
      else
        { w with
          includeTemplate := w.includeTemplate || retransmitDue world config w
          ticks := w.ticks + 1 } := rfl

theorem checkTimers_settled {w : State} {sent : List Sent} {seen : List Datagram}
    (h : Settled world config w sent seen) (hc : Counted world config w) (nlDrops : Nat) :
    ∃ sent' seen', Settled world config (checkTimers world config nlDrops w) sent' seen' := by
  rw [checkTimers_eq]
  split
  · have htold := h.catchUp hc (world.clock w.ticks) nlDrops
    exact ⟨w.outbox, w.received, htold, List.prefix_rfl, List.prefix_rfl,
      hc.sendErrors.trans htold.sendErrors.symm, hc.truncated.trans htold.truncated.symm,
      hc.foreignMsgs.trans htold.foreignMsgs.symm, hc.saturated.trans htold.saturated.symm⟩
  · exact ⟨sent, seen, h.told, h.sent, h.seen, h.prevSendErrors, h.prevTruncated, h.prevForeign,
      h.prevSaturated⟩

/-- By how much a counter went up from reading to reading, where it went up. -/
def rises : List Nat → Nat
  | a :: b :: rest => (b - a) + rises (b :: rest)
  | _ => 0

theorem rises_concat (older : List Nat) (a b : Nat) :
    rises (older ++ [a] ++ [b]) = rises (older ++ [a]) + (b - a) := by
  induction older with
  | nil => simp [rises]
  | cons c older ih =>
    cases older with
    | nil => simp [rises]
    | cons d older =>
      simp only [List.cons_append, rises] at ih ⊢
      rw [ih, Nat.add_assoc]

theorem rises_of_sorted {older : List Nat} {first last : Nat}
    (hf : (older ++ [last]).head? = some first) (hs : (older ++ [last]).Pairwise (· ≤ ·)) :
    last = first + rises (older ++ [last]) := by
  induction older generalizing first with
  | nil =>
    cases hf
    rfl
  | cons a older ih =>
    cases hf
    rw [List.cons_append, List.pairwise_cons] at hs
    obtain ⟨hfirst, hrest⟩ := hs
    cases hnext : older ++ [last] with
    | nil => exact absurd hnext (List.append_ne_nil_of_right_ne_nil _ (List.cons_ne_nil _ _))
    | cons b rest =>
      have hlast := ih (congrArg List.head? hnext) hrest
      have hle : a ≤ b := hfirst b (by rw [hnext]; exact List.mem_cons_self)
      rw [List.cons_append, hnext, rises]
      rw [hnext] at hlast
      omega

/-- The lines are at least an interval apart, none lies after the last report,
and they tell of the kernel's drops by the readings of its counter. -/
structure Spaced (nlDrops : Nat) (w : State) : Prop where
  apart : (w.lines.map Prod.fst).Pairwise fun t t' => t + (statsInterval : Int) ≤ t'
  past : ∀ t ∈ w.lines.map Prod.fst, t ≤ w.lastStatsTime
  last : ∃ older, w.dropReadings = older ++ [w.prevNlDrops]
  first : w.dropReadings.head? = some nlDrops
  drops : total Report.newNlDrops w.lines = rises w.dropReadings

theorem Spaced.takes {R : Reason → Prop} {nlDrops : Nat} {w w' : State} {ds : List Datagram} (h : Spaced nlDrops w)
    (ht : Takes R w ds w') : Spaced nlDrops w' := by
  have hlines := ht.same.lines
  have hreadings := ht.same.readings
  refine ⟨?_, ?_, ?_, ?_, ?_⟩
  · rw [hlines]
    exact h.apart
  · rw [hlines, ht.same.time]
    exact h.past
  · rw [hreadings, ht.same.nlDrops]
    exact h.last
  · rw [hreadings]
    exact h.first
  · rw [hlines, hreadings]
    exact h.drops

theorem le_of_reportDue {now : Instant} {w : State} (h : reportDue now w = true) :
    w.lastStatsTime + (statsInterval : Int) ≤ now :=
  (le_durationSince_iff (by decide)).mp (of_decide_eq_true h)

theorem statsLine_time {now : Instant} {nlDrops : Nat} {w : State} :
    ∀ t ∈ (statsLine now nlDrops w).map Prod.fst, t = now := by
  intro t ht
  obtain ⟨line, hmem, rfl⟩ := List.mem_map.mp ht
  rw [statsLine] at hmem
  split at hmem
  · exact congrArg Prod.fst (List.mem_singleton.mp hmem)
  · cases hmem

theorem checkTimers_spaced (world : World) (config : Config) {w : State} {first : Nat}
    (h : Spaced first w) (nlDrops : Nat) : Spaced first (checkTimers world config nlDrops w) := by
  rw [checkTimers_eq]
  split
  · rename_i hd
    have hafter := le_of_reportDue hd
    have hlater : w.lastStatsTime ≤ world.clock w.ticks :=
      (Int.le_add_of_nonneg_right (Int.natCast_nonneg _)).trans hafter
    obtain ⟨older, holder⟩ := h.last
    refine ⟨?_, ?_, ⟨w.dropReadings, rfl⟩, ?_, ?_⟩
    · rw [List.map_append, List.pairwise_append]
      refine ⟨h.apart, ?_, ?_⟩
      · rw [statsLine]
        split
        · exact List.pairwise_singleton _ _
        · exact .nil
      · intro t ht t' ht'
        rw [statsLine_time t' ht']
        exact (Int.add_le_add_right (h.past t ht) _).trans hafter
    · intro t ht
      rw [List.map_append] at ht
      obtain ht | ht := List.mem_append.mp ht
      · exact (h.past t ht).trans hlater
      · exact le_of_eq (statsLine_time t ht)
    · rw [List.head?_append, h.first]
      rfl
    · have hnew : total Report.newNlDrops (statsLine (world.clock w.ticks) nlDrops w) =
          nlDrops - w.prevNlDrops :=
        total_statsLine (fun r hr => (isNews_eq_false hr).1) _ nlDrops w
      have hold := h.drops
      rw [holder] at hold
      rw [total_append, hnew, hold, holder, rises_concat]
  · exact ⟨h.apart, h.past, h.last, h.first, h.drops⟩

/-- What the counters and the reports have to do with each other at a turn of
the loop. -/
structure Reconciled (world : World) (config : Config) (nlDrops : Nat) (w : State) : Prop where
  counted : Counted world config w
  settled : ∃ sent seen, Settled world config w sent seen
  spaced : Spaced nlDrops w

theorem counted_saturated {nlDrops : Nat} {w : State}
    (h : Runs world config (startWorker world config nlDrops) w) :
    w.encoder.saturatedCounters =
      overflowing config.template.fields (reported world w.received) := by
  obtain ⟨b, -, hi⟩ := runs_inStep (startWorker_inStep world config nlDrops) h
  rw [saturatedCounters_eq hi.mirrors.agrees, hi.taken]

theorem runs_reconciled {nlDrops : Nat} {w : State}
    (h : Runs world config (startWorker world config nlDrops) w) :
    Reconciled world config nlDrops w := by
  induction h with
  | refl =>
    refine ⟨⟨rfl, rfl, rfl, counted_saturated .refl⟩, ⟨[], [], ?_⟩, .nil, ?_, ⟨[], rfl⟩, rfl, rfl⟩
    · exact ⟨⟨rfl, rfl, rfl, rfl⟩, List.prefix_rfl, List.prefix_rfl, rfl, rfl, rfl, rfl⟩
    · intro t ht
      cases ht
  | @turn w' w'' t hr ht ih =>
    obtain ⟨ds, htakes⟩ := iterate_takes ht
    obtain ⟨new, ho, he, -⟩ := htakes.posted
    obtain ⟨hse, hob, htr, hfo, hrc⟩ := checkTimers_counts world config w' t.nlDrops
    obtain ⟨sent, seen, hsettled⟩ := ih.settled
    obtain ⟨sent', seen', hsettled'⟩ := checkTimers_settled hsettled ih.counted t.nlDrops
    refine ⟨⟨?_, ?_, ?_, counted_saturated (hr.turn ht)⟩,
      ⟨sent', seen', hsettled'.takes htakes⟩,
      (checkTimers_spaced world config ih.spaced t.nlDrops).takes htakes⟩
    · rw [he, ho, hse, hob, ih.counted.sendErrors, List.countP_append]
    · rw [htakes.truncated, htakes.received, htr, hrc, ih.counted.truncated, List.countP_append]
    · rw [htakes.foreignMsgs, htakes.received, hfo, hrc, ih.counted.foreignMsgs, List.countP_append]

/-- The program keeps the counters in 64 bits, which hold them for as long as
fewer than `2 ^ 64` messages and datagrams have gone through it. -/
theorem Counted.lt {w : State} (h : Counted world config w) (hsent : w.outbox.length < 2 ^ 64)
    (hseen : w.received.length < 2 ^ 64) :
    w.sendErrors < 2 ^ 64 ∧ w.truncatedMsgs < 2 ^ 64 ∧ w.foreignMsgs < 2 ^ 64 := by
  rw [h.sendErrors, h.truncated, h.foreignMsgs]
  exact ⟨List.countP_le_length.trans_lt hsent, List.countP_le_length.trans_lt hseen,
    List.countP_le_length.trans_lt hseen⟩

/-- The statistics add up. Over a whole run the counters hold exactly what
happened, the lines logged so far tell of exactly what had happened at some
earlier point, each thing once, and the next report that is due tells of all
the rest. Lines are at least ten seconds apart. Of the kernel's drops they tell
what its counter rose by between two reports, which is all of them as long as
it never reads lower than before. -/
theorem statistics_add_up {world : World} {config : Config} {nlDrops : Nat} {w : State}
    (h : Runs world config (startWorker world config nlDrops) w) :
    Counted world config w ∧
    (∃ sent seen, sent <+: w.outbox ∧ seen <+: w.received ∧ Told world config w.lines sent seen) ∧
    (∀ now nlDrops', reportDue now w = true →
      Told world config (reportStats now nlDrops' w).lines w.outbox w.received) ∧
    (w.lines.map Prod.fst).Pairwise (fun t t' => t + (statsInterval : Int) ≤ t') ∧
    total Report.newNlDrops w.lines = rises w.dropReadings ∧
    (w.dropReadings.Pairwise (· ≤ ·) →
      w.prevNlDrops = nlDrops + total Report.newNlDrops w.lines) := by
  obtain ⟨hcounted, ⟨sent, seen, hsettled⟩, hspaced⟩ := runs_reconciled h
  refine ⟨hcounted, ⟨sent, seen, hsettled.sent, hsettled.seen, hsettled.told⟩, ?_, hspaced.apart,
    hspaced.drops, ?_⟩
  · intro now nlDrops' hd
    rw [reportStats, if_pos hd]
    exact hsettled.catchUp hcounted now nlDrops'
  · intro hsorted
    obtain ⟨older, holder⟩ := hspaced.last
    have hfirst := hspaced.first
    rw [holder] at hsorted hfirst
    rw [hspaced.drops, holder]
    exact rises_of_sorted hfirst hsorted

/-- Time passes six seconds at a time. -/
def ticking : World := { sampleWorld with
  clock := fun k => 6000000000 * k
  monotone := fun _ _ h => Int.mul_le_mul_of_nonneg_left (Int.ofNat_le.mpr h) (by decide) }

/-- A foreign datagram, a send that fails and five datagrams that the kernel
dropped, each told of once. -/
theorem statistics_add_up_sample :
    ∃ w, Runs ticking sampleConfig (startWorker ticking sampleConfig 3) w ∧
      total Report.newForeign w.lines = 1 ∧ total Report.newSendErrors w.lines = 1 ∧
      total Report.newNlDrops w.lines = 5 ∧
      (∃ sent seen, sent <+: w.outbox ∧ seen <+: w.received ∧
        Told ticking sampleConfig w.lines sent seen) ∧
      w.prevNlDrops = 3 + total Report.newNlDrops w.lines := by
  have heval : (runTurns ticking sampleConfig (startWorker ticking sampleConfig 3)
      (sampleTurns.map fun t => { t with nlDrops := 8 })).any (fun w =>
        total Report.newForeign w.lines = 1 ∧ total Report.newSendErrors w.lines = 1 ∧
        total Report.newNlDrops w.lines = 5 ∧ w.dropReadings.Pairwise (· ≤ ·)) = true := by
    decide +kernel
  obtain ⟨w, hw, hp⟩ := (Option.any_eq_true _ _).mp heval
  obtain ⟨hforeign, hsend, hfive, hsorted⟩ := of_decide_eq_true hp
  have hruns := Runs.refl.turns hw
  obtain ⟨-, htold, -, -, -, hdrops⟩ := statistics_add_up hruns
  exact ⟨w, hruns, hforeign, hsend, hfive, htold, hdrops hsorted⟩

/-- The counter is a 32-bit number, and drops over a wrap of it go untold. -/
example : rises [4294967290, 5] = 0 := rfl

end NatStream.Worker.Statistics
