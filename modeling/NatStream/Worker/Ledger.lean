import Mathlib.Data.List.Basic
import Mathlib.Data.List.TakeWhile
import Mathlib.Data.UInt
import Mathlib.Logic.Relation
import NatStream.Lib.Time

namespace NatStream.Worker.Ledger

open NatStream.Lib.Time

variable {ρ : Type}

/-- A message that has been finalized: whether it announces the template, what
it carries, its number, the time of the latest announcement, which is its own
if it makes one, and whether it was delivered. -/
structure Entry (ρ : Type) where
  announces : Bool
  records : List ρ
  sequence : UInt32
  time : Instant
  delivered : Bool

/-- The books of an exporter: what it has finalized, what it is filling, and
every record it has taken in. -/
structure Books (ρ : Type) where
  sent : List (Entry ρ)
  current : Option (Bool × List ρ)
  due : Bool
  lastAnnounced : Instant
  ticks : Nat
  nextSequence : UInt32
  failures : Nat
  taken : List ρ

/-- What the books depend on: the clock, the time between announcements, and
how far a message with some records moves the sequence number. -/
structure Terms (ρ : Type) where
  clock : Nat → Instant
  monotone : ∀ i j, i ≤ j → clock i ≤ clock j
  interval : Duration
  interval_pos : 0 < interval
  advance : List ρ → UInt32

def opening (start : Instant) (ticks : Nat) : Books ρ where
  sent := []
  current := none
  due := true
  lastAnnounced := start
  ticks
  nextSequence := 0
  failures := 0
  taken := []

/-- Finalize a message, after which none is being filled. One that announces
the template settles the schedule. -/
def post (c : Terms ρ) (b : Books ρ) (announces : Bool) (records : List ρ) (delivered : Bool) :
    Books ρ :=
  let time := if announces then c.clock b.ticks else b.lastAnnounced
  { b with
    sent := b.sent ++ [⟨announces, records, b.nextSequence, time, delivered⟩]
    current := none
    due := if announces then false else b.due
    lastAnnounced := time
    ticks := if announces then b.ticks + 2 else b.ticks + 1
    nextSequence := b.nextSequence + c.advance records
    failures := if delivered then b.failures else b.failures + 1 }

def isDue (c : Terms ρ) (b : Books ρ) : Prop :=
  c.interval ≤ durationSince (c.clock b.ticks) b.lastAnnounced

instance (c : Terms ρ) (b : Books ρ) : Decidable (isDue c b) := inferInstanceAs (Decidable (_ ≤ _))

/-- The moves an exporter may make, in any order that fits. -/
inductive Move (c : Terms ρ) : Books ρ → Books ρ → Prop where
  | pass (b : Books ρ) (n : Nat) : Move c b { b with ticks := b.ticks + n }
  | fallDue (b : Books ρ) : isDue c b → Move c b { b with due := true }
  | standAlone (b : Books ρ) (delivered : Bool) : b.current = none → b.due = true →
      Move c b (post c b true [] delivered)
  | start (b : Books ρ) : b.current = none → Move c b { b with current := some (b.due, []) }
  | add (b : Books ρ) (flag : Bool) (records : List ρ) (r : ρ) : b.current = some (flag, records) →
      Move c b { b with current := some (flag, records ++ [r]), taken := b.taken ++ [r] }
  | close (b : Books ρ) (flag : Bool) (records : List ρ) (delivered : Bool) :
      b.current = some (flag, records) → flag = true ∨ records ≠ [] →
      Move c b (post c b flag records delivered)
  | discard (b : Books ρ) : b.current = some (false, []) → Move c b { b with current := none }

abbrev Moves (c : Terms ρ) : Books ρ → Books ρ → Prop := Relation.ReflTransGen (Move c)

def filling (b : Books ρ) : List ρ := (b.current.map Prod.snd).getD []

/-- Nothing is lost and nothing is sent twice. -/
def Accounted (b : Books ρ) : Prop := b.sent.flatMap Entry.records ++ filling b = b.taken

theorem Move.accounted {c : Terms ρ} {b b' : Books ρ} (h : Move c b b') (hb : Accounted b) :
    Accounted b' := by
  rw [Accounted] at hb ⊢
  cases h with
  | pass n => exact hb
  | fallDue _ => exact hb
  | standAlone delivered hc _ => simpa [post, filling, hc] using hb
  | start hc => simpa [filling, hc] using hb
  | add flag records r hc =>
    simp only [filling, hc, Option.map_some, Option.getD_some] at hb ⊢
    rw [← List.append_assoc, hb]
  | close flag records delivered hc _ => simpa [post, filling, hc] using hb
  | discard hc => simpa [filling, hc] using hb

def total (c : Terms ρ) (es : List (Entry ρ)) : UInt32 := (es.map fun e => c.advance e.records).sum

theorem total_append (c : Terms ρ) (es es' : List (Entry ρ)) :
    total c (es ++ es') = total c es + total c es' := by
  simp only [total, List.map_append, List.sum_append]

theorem total_cons (c : Terms ρ) (e : Entry ρ) (es : List (Entry ρ)) :
    total c (e :: es) = c.advance e.records + total c es := by
  simp only [total, List.map_cons, List.sum_cons]

/-- Every message is numbered by what was sent before it. -/
structure Numbered (c : Terms ρ) (b : Books ρ) : Prop where
  sequence : ∀ before e after, b.sent = before ++ e :: after → e.sequence = total c before
  next : b.nextSequence = total c b.sent
  failures : b.failures = b.sent.countP fun e => !e.delivered

theorem post_numbered {c : Terms ρ} {b : Books ρ} (hb : Numbered c b) (announces : Bool)
    (records : List ρ) (delivered : Bool) : Numbered c (post c b announces records delivered) := by
  refine ⟨?_, ?_, ?_⟩
  · intro before e after h
    obtain rfl | ⟨after', last, rfl⟩ := List.eq_nil_or_concat' after
    · obtain ⟨rfl, he⟩ := List.append_inj' h rfl
      rw [← List.singleton_inj.mp he]
      exact hb.next
    · rw [← List.cons_append, ← List.append_assoc] at h
      exact hb.sequence before e after' (List.append_inj_left' h rfl)
  · simp only [post, total_append, hb.next]
    simp only [total, List.map_cons, List.map_nil, List.sum_cons, List.sum_nil, UInt32.add_zero]
  · simp only [post, List.countP_append, List.countP_singleton, hb.failures]
    cases delivered <;> rfl

theorem Move.numbered {c : Terms ρ} {b b' : Books ρ} (h : Move c b b') (hb : Numbered c b) :
    Numbered c b' := by
  cases h with
  | standAlone delivered _ _ => exact post_numbered hb true [] delivered
  | close flag records delivered _ _ => exact post_numbered hb flag records delivered
  | _ => exact ⟨hb.sequence, hb.next, hb.failures⟩

theorem isDue_iff {c : Terms ρ} {b : Books ρ} :
    isDue c b ↔ b.lastAnnounced + (c.interval : Int) ≤ c.clock b.ticks :=
  le_durationSince_iff c.interval_pos

theorem isDue_pass {c : Terms ρ} {b : Books ρ} (h : isDue c b) (n : Nat) :
    isDue c { b with ticks := b.ticks + n } := by
  rw [isDue_iff] at h ⊢
  exact h.trans (c.monotone _ _ (Nat.le_add_right _ _))

/-- The first message announces the template, announcements are spaced by the
interval, and one is owed only when the interval has passed. -/
structure Scheduled (c : Terms ρ) (b : Books ρ) : Prop where
  owed : ∀ records, b.current = some (true, records) → b.due = true
  fresh : b.sent = [] → b.due = true ∧ ∀ records, b.current ≠ some (false, records)
  first : ∀ e, b.sent.head? = some e → e.announces = true
  past : ∀ e ∈ b.sent, e.announces = true → e.time ≤ b.lastAnnounced
  late : b.sent ≠ [] → b.due = true → isDue c b
  spaced : (b.sent.filter Entry.announces).Pairwise fun e e' => e.time + (c.interval : Int) ≤ e'.time

theorem post_scheduled {c : Terms ρ} {b : Books ρ} (hb : Scheduled c b) {announces : Bool}
    (howed : announces = true → b.due = true) (hfresh : b.sent = [] → announces = true)
    (records : List ρ) (delivered : Bool) : Scheduled c (post c b announces records delivered) := by
  have hnext : announces = true → ∀ e ∈ b.sent, e.announces = true →
      e.time + (c.interval : Int) ≤ c.clock b.ticks := by
    intro ha e he hea
    have hd := isDue_iff.mp (hb.late (List.ne_nil_of_mem he) (howed ha))
    exact (Int.add_le_add_right (hb.past e he hea) _).trans hd
  refine ⟨fun _ h => (nomatch h), ?_, ?_, ?_, ?_, ?_⟩
  · intro h
    exact absurd h (List.append_ne_nil_of_right_ne_nil _ (List.cons_ne_nil _ _))
  · intro e he
    cases hs : b.sent with
    | nil =>
      simp only [post, hs, List.nil_append, List.head?_cons, Option.some.injEq] at he
      rw [← he]
      exact hfresh hs
    | cons a as =>
      apply hb.first e
      rw [hs]
      simpa only [post, hs, List.cons_append, List.head?_cons] using he
  · intro e he hea
    obtain hold | hnew := List.mem_append.mp he
    · cases announces with
      | true =>
        exact (Int.le_add_of_nonneg_right (Int.natCast_nonneg _)).trans (hnext rfl e hold hea)
      | false => exact hb.past e hold hea
    · rw [List.mem_singleton.mp hnew]
      exact le_rfl
  · intro _ hd
    cases announces with
    | true => cases hd
    | false =>
      by_cases hs : b.sent = []
      · cases hfresh hs
      · exact isDue_pass (hb.late hs hd) 1
  · simp only [post, List.filter_append]
    cases announces with
    | true =>
      refine List.pairwise_append.mpr ⟨hb.spaced, List.pairwise_singleton _ _, ?_⟩
      intro e he e' he'
      rw [List.mem_filter] at he
      rw [List.mem_singleton.mp he']
      exact hnext rfl e he.1 he.2
    | false => simpa using hb.spaced

theorem Move.scheduled {c : Terms ρ} {b b' : Books ρ} (h : Move c b b') (hb : Scheduled c b) :
    Scheduled c b' := by
  cases h with
  | pass n =>
    exact ⟨hb.owed, hb.fresh, hb.first, hb.past, fun hs hd => isDue_pass (hb.late hs hd) n, hb.spaced⟩
  | fallDue hdue =>
    exact ⟨fun _ _ => rfl, fun hs => ⟨rfl, (hb.fresh hs).2⟩, hb.first, hb.past,
      fun _ _ => hdue, hb.spaced⟩
  | standAlone delivered _ hd => exact post_scheduled hb (fun _ => hd) (fun _ => rfl) [] delivered
  | start _ =>
    refine ⟨?_, ?_, hb.first, hb.past, hb.late, hb.spaced⟩
    · intro _ h
      exact congrArg Prod.fst (Option.some.inj h)
    · intro hs
      refine ⟨(hb.fresh hs).1, ?_⟩
      intro _ h
      exact Bool.noConfusion ((hb.fresh hs).1.symm.trans (congrArg Prod.fst (Option.some.inj h)))
  | add flag records r hc =>
    refine ⟨?_, ?_, hb.first, hb.past, hb.late, hb.spaced⟩
    · intro _ h
      cases h
      exact hb.owed _ hc
    · intro hs
      refine ⟨(hb.fresh hs).1, ?_⟩
      intro _ h
      cases h
      exact (hb.fresh hs).2 _ hc
  | close flag records delivered hc _ =>
    refine post_scheduled hb ?_ ?_ records delivered
    · rintro rfl
      exact hb.owed _ hc
    · intro hs
      cases flag with
      | true => rfl
      | false => exact absurd hc ((hb.fresh hs).2 _)
  | discard _ =>
    exact ⟨fun _ h => (nomatch h), fun hs => ⟨(hb.fresh hs).1, fun _ h => (nomatch h)⟩, hb.first,
      hb.past, hb.late, hb.spaced⟩

def plain (e : Entry ρ) : Bool := !e.announces

/-- The messages without the template that are certain to come before the next
one that announces it: the one being filled, if it does not. -/
def waiting (b : Books ρ) : Nat :=
  match b.current with
  | some (false, _) => 1
  | _ => 0

theorem waiting_le (b : Books ρ) : waiting b ≤ 1 := by
  rw [waiting]
  split <;> omega

/-- Since message `n`, at most one message went out before an announcement, and
until then one is due. -/
structure Awaited (n : Nat) (b : Books ρ) : Prop where
  within : n ≤ b.sent.length
  soon : ((b.sent.drop n).takeWhile plain).length ≤ 1
  still : (∀ e ∈ b.sent.drop n, plain e = true) →
    b.due = true ∧ (b.sent.drop n).length + waiting b ≤ 1

theorem awaited_of_due {b : Books ρ} (h : b.due = true) : Awaited b.sent.length b := by
  refine ⟨le_rfl, ?_, ?_⟩
  · simp only [List.drop_length, List.takeWhile_nil, List.length_nil, Nat.zero_le]
  · intro _
    simpa only [List.drop_length, List.length_nil, Nat.zero_add] using ⟨h, waiting_le b⟩

theorem post_awaited {c : Terms ρ} {n : Nat} {b : Books ρ} (hb : Awaited n b) {announces : Bool}
    (hw : announces = false → waiting b = 1) (records : List ρ) (delivered : Bool) :
    Awaited n (post c b announces records delivered) := by
  have hdrop : (post c b announces records delivered).sent.drop n = b.sent.drop n ++
      [⟨announces, records, b.nextSequence,
        if announces then c.clock b.ticks else b.lastAnnounced, delivered⟩] :=
    List.drop_append_of_le_length hb.within
  refine ⟨?_, ?_, ?_⟩
  · simp only [post, List.length_append]
    exact Nat.le_add_right_of_le hb.within
  · rw [hdrop]
    by_cases hall : ∀ e ∈ b.sent.drop n, plain e = true
    · rw [List.takeWhile_append_of_pos hall]
      have hlen := (hb.still hall).2
      cases announces with
      | true => simpa [plain] using Nat.le_of_add_right_le hlen
      | false =>
        rw [hw rfl] at hlen
        simpa [plain] using hlen
    · rw [List.takeWhile_append, if_neg]
      · exact hb.soon
      · intro h
        exact hall (List.takeWhile_eq_self_iff.mp ((List.takeWhile_prefix plain).eq_of_length h))
  · rw [hdrop]
    intro hall
    have hlast := hall _ (List.mem_append_right _ (List.mem_singleton_self _))
    cases announces with
    | true => cases hlast
    | false =>
      obtain ⟨hd, hlen⟩ := hb.still fun e he => hall e (List.mem_append_left _ he)
      rw [hw rfl] at hlen
      refine ⟨hd, ?_⟩
      simpa [post, waiting] using hlen

theorem Move.awaited {c : Terms ρ} {n : Nat} {b b' : Books ρ} (h : Move c b b') (hb : Awaited n b) :
    Awaited n b' := by
  cases h with
  | pass _ => exact ⟨hb.within, hb.soon, hb.still⟩
  | fallDue _ => exact ⟨hb.within, hb.soon, fun hall => ⟨rfl, (hb.still hall).2⟩⟩
  | standAlone delivered _ _ =>
    refine post_awaited hb ?_ [] delivered
    intro h
    cases h
  | start _ =>
    refine ⟨hb.within, hb.soon, ?_⟩
    intro hall
    obtain ⟨hd, hlen⟩ := hb.still hall
    refine ⟨hd, ?_⟩
    simp only [waiting, hd]
    exact Nat.le_of_add_right_le hlen
  | add flag records r hc =>
    refine ⟨hb.within, hb.soon, ?_⟩
    intro hall
    obtain ⟨hd, hlen⟩ := hb.still hall
    refine ⟨hd, ?_⟩
    simp only [waiting, hc] at hlen
    cases flag <;> exact hlen
  | close flag records delivered hc _ =>
    refine post_awaited hb ?_ records delivered
    rintro rfl
    simp only [waiting, hc]
  | discard _ =>
    refine ⟨hb.within, hb.soon, ?_⟩
    intro hall
    obtain ⟨hd, hlen⟩ := hb.still hall
    exact ⟨hd, Nat.le_of_add_right_le hlen⟩

/-- What every move keeps, every run keeps. -/
theorem Moves.invariant {c : Terms ρ} {P : Books ρ → Prop} (hP : ∀ b b', Move c b b' → P b → P b')
    {b b' : Books ρ} (h : Moves c b b') (hb : P b) : P b' := by
  induction h with
  | refl => exact hb
  | tail _ hm ih => exact hP _ _ hm ih

theorem opening_accounted {c : Terms ρ} {start : Instant} {ticks : Nat} {b : Books ρ}
    (h : Moves c (opening start ticks) b) : Accounted b :=
  h.invariant (fun _ _ hm => hm.accounted) rfl

theorem opening_numbered {c : Terms ρ} {start : Instant} {ticks : Nat} {b : Books ρ}
    (h : Moves c (opening start ticks) b) : Numbered c b := by
  refine h.invariant (fun _ _ hm => hm.numbered) ⟨?_, rfl, rfl⟩
  intro before e after he
  exact absurd he.symm (List.append_ne_nil_of_right_ne_nil _ (List.cons_ne_nil _ _))

theorem opening_scheduled {c : Terms ρ} {start : Instant} {ticks : Nat} {b : Books ρ}
    (h : Moves c (opening start ticks) b) : Scheduled c b := by
  refine h.invariant (fun _ _ hm => hm.scheduled) ⟨?_, ?_, ?_, ?_, ?_, .nil⟩
  · intro _ h
    cases h
  · exact fun _ => ⟨rfl, fun _ h => (nomatch h)⟩
  · intro _ h
    cases h
  · intro _ h
    cases h
  · exact fun h => absurd rfl h

end NatStream.Worker.Ledger
