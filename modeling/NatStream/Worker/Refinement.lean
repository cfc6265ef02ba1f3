import Mathlib.Data.List.Forall2
import NatStream.Export.Messages
import NatStream.Netlink.Datagrams
import NatStream.Worker.EventLoop
import NatStream.Worker.Ledger

namespace NatStream.Worker.Refinement

open NatStream.Lib.Bytes NatStream.Lib.Time NatStream.Events NatStream.Export.Templates
open NatStream.Export.Records NatStream.Export.Encoders NatStream.Export.Resolved
open NatStream.Export.Layout NatStream.Export.Filling NatStream.Export.Messages
open NatStream.Netlink.Parsers NatStream.Netlink.Datagrams
open NatStream.Worker.EventLoop NatStream.Worker.Ledger

variable {world : World} {config : Config}

/-- The flags the worker accepts. -/
theorem validate_ok_iff (args : Args) : (∃ config, validate args = .ok config) ↔
    args.templateInterval ≠ 0 ∧ (args.counterWidth = 4 ∨ args.counterWidth = 8) ∧
      256 ≤ args.templateId.toNat := by
  constructor
  · rintro ⟨config, h⟩
    rw [validate] at h
    split at h
    · cases h
    · rename_i hi
      split at h
      · cases h
      · rename_i width hw
        split at h
        · cases h
        · rename_i template hr
          refine ⟨hi, ?_, (resolve_ok hr).1⟩
          rw [CounterWidth.fromBytes] at hw
          split at hw
          · exact Or.inl ‹_›
          · split at hw
            · exact Or.inr ‹_›
            · cases hw
  · rintro ⟨hi, hw, hid⟩
    obtain ⟨width, hwidth⟩ : ∃ width, CounterWidth.fromBytes args.counterWidth = .ok width := by
      obtain h4 | h8 := hw
      · exact ⟨.four, by rw [h4]; rfl⟩
      · exact ⟨.eight, by rw [h8]; rfl⟩
    have hr := resolve_of_le args.protocol args.profile width hid
    rw [validate]
    rw [dif_neg hi, hwidth]
    simp only
    split
    · rename_i e he
      cases he.symm.trans hr
    · exact ⟨_, rfl⟩

theorem usable_template (config : Config) : Usable config.template := by
  obtain ⟨_, _, _, _, h⟩ := config.resolved
  exact resolve_usable h

theorem templateInterval_pos (config : Config) : 0 < templateInterval config := by
  have h : config.templateInterval.toNat ≠ 0 := by
    intro h0
    exact config.interval_ne_zero (UInt64.toNat_inj.mp h0)
  exact Nat.mul_pos (Nat.pos_of_ne_zero h) (by decide)

/-- How far a message moves the sequence number: by its records under IPFIX,
by one under NetFlow v9. -/
def advanceOf (protocol : Protocol) (events : List ConntrackEvent) : UInt32 :=
  match protocol with
  | .ipfix => UInt32.ofNat events.length
  | .netflow9 => 1

def terms (world : World) (config : Config) : Terms ConntrackEvent where
  clock := world.clock
  monotone := world.monotone
  interval := templateInterval config
  interval_pos := templateInterval_pos config
  advance := advanceOf config.template.protocol

/-- What went out on the wire is what the books say. -/
structure Carries (world : World) (config : Config) (m : Sent) (e : Entry ConntrackEvent) : Prop where
  template : m.template = e.announces
  time : m.templateTime = e.time
  delivered : m.delivered = e.delivered
  count : m.count.toNat = e.records.length
  bytes : ∃ stamp, m.bytes = messageBytes config.template e.announces e.records e.sequence
    config.domainId (world.clock 0) stamp

/-- The worker and the books agree on everything but the message in progress. -/
structure Agrees (world : World) (config : Config) (w : State) (b : Books ConntrackEvent) : Prop where
  template : w.encoder.template = config.template
  domain : w.encoder.observationDomainId = config.domainId
  started : w.encoder.started = world.clock 0
  sequence : w.encoder.sequenceNumber = b.nextSequence
  clamped : w.encoder.saturatedCounters =
    (b.taken.map fun event => config.template.fields.countP (exceeds event)).sum
  due : w.includeTemplate = b.due
  lastTemplate : w.lastTemplateTime = b.lastAnnounced
  ticks : w.ticks = b.ticks
  errors : w.sendErrors = b.failures
  sent : List.Forall₂ (Carries world config) w.outbox b.sent

theorem Agrees.setActive {w : State} {b : Books ConntrackEvent} (h : Agrees world config w b)
    (active : Bool) : Agrees world config { w with messageActive := active } b :=
  ⟨h.template, h.domain, h.started, h.sequence, h.clamped, h.due, h.lastTemplate, h.ticks, h.errors,
    h.sent⟩

inductive InProgress (config : Config) (w : State) : Option (Bool × List ConntrackEvent) → Prop where
  | idle : w.messageActive = false → InProgress config w none
  | active {flag : Bool} {events : List ConntrackEvent} : w.messageActive = true →
      Holds w.encoder config.template flag events → InProgress config w (some (flag, events))

structure Mirrors (world : World) (config : Config) (w : State) (b : Books ConntrackEvent) : Prop where
  agrees : Agrees world config w b
  current : InProgress config w b.current

theorem Mirrors.active {w : State} {b : Books ConntrackEvent} (h : Mirrors world config w b)
    (ha : w.messageActive = true) :
    ∃ flag events, b.current = some (flag, events) ∧ Holds w.encoder config.template flag events := by
  have hc := h.current
  generalize b.current = current at hc
  cases hc with
  | idle hidle => exact Bool.noConfusion (ha.symm.trans hidle)
  | active _ hh => exact ⟨_, _, rfl, hh⟩

theorem Mirrors.idle {w : State} {b : Books ConntrackEvent} (h : Mirrors world config w b)
    (ha : w.messageActive = false) : b.current = none := by
  have hc := h.current
  generalize b.current = current at hc
  cases hc with
  | idle _ => rfl
  | active hactive _ => exact Bool.noConfusion (ha.symm.trans hactive)

theorem InProgress.isNone {w : State} {current : Option (Bool × List ConntrackEvent)}
    (h : InProgress config w current) : current.isNone = !w.messageActive := by
  cases h with
  | idle hidle => rw [hidle]; rfl
  | active hactive _ => rw [hactive]; rfl

theorem InProgress.of_same {w w' : State} {current : Option (Bool × List ConntrackEvent)}
    (h : InProgress config w current) (he : w'.encoder = w.encoder)
    (ha : w'.messageActive = w.messageActive) : InProgress config w' current := by
  cases h with
  | idle hidle => exact .idle (ha.trans hidle)
  | active hactive hh => exact .active (ha.trans hactive) (he ▸ hh)

theorem Mirrors.of_same {w w' : State} {b : Books ConntrackEvent} (h : Mirrors world config w b)
    (he : w'.encoder = w.encoder) (hi : w'.includeTemplate = w.includeTemplate)
    (hl : w'.lastTemplateTime = w.lastTemplateTime) (ha : w'.messageActive = w.messageActive)
    (hs : w'.sendErrors = w.sendErrors) (ht : w'.ticks = w.ticks) (ho : w'.outbox = w.outbox) :
    Mirrors world config w' b := by
  obtain ⟨hg, hc⟩ := h
  refine ⟨⟨?_, ?_, ?_, ?_, ?_, hi.trans hg.due, hl.trans hg.lastTemplate, ht.trans hg.ticks,
    hs.trans hg.errors, ?_⟩, hc.of_same he ha⟩
  · rw [he, hg.template]
  · rw [he, hg.domain]
  · rw [he, hg.started]
  · rw [he, hg.sequence]
  · rw [he, hg.clamped]
  · rw [ho]
    exact hg.sent

theorem Mirrors.tick {w : State} {b : Books ConntrackEvent} (h : Mirrors world config w b) (n : Nat) :
    Mirrors world config { w with ticks := w.ticks + n } { b with ticks := b.ticks + n } := by
  obtain ⟨hg, hc⟩ := h
  exact ⟨⟨hg.template, hg.domain, hg.started, hg.sequence, hg.clamped, hg.due, hg.lastTemplate,
    congrArg (· + n) hg.ticks, hg.errors, hg.sent⟩, hc.of_same rfl rfl⟩

theorem Mirrors.setDue {w : State} {b : Books ConntrackEvent} (h : Mirrors world config w b)
    (due : Bool) : Mirrors world config { w with includeTemplate := due } { b with due } := by
  obtain ⟨hg, hc⟩ := h
  exact ⟨⟨hg.template, hg.domain, hg.started, hg.sequence, hg.clamped, rfl, hg.lastTemplate,
    hg.ticks, hg.errors, hg.sent⟩, hc.of_same rfl rfl⟩

/-- The worker got from one state to another by moves of the ledger that took
in exactly these events. -/
structure Leads (world : World) (config : Config) (w : State) (b : Books ConntrackEvent)
    (w' : State) (b' : Books ConntrackEvent) (taken : List ConntrackEvent) : Prop where
  moves : Moves (terms world config) b b'
  mirrors : Mirrors world config w' b'
  taken : b'.taken = b.taken ++ taken
  received : w'.received = w.received

theorem hasRoom_zero {t : Template} (hu : Usable t) (flag : Bool) : hasRoom t flag 0 := by
  have hh := headerLen_le t.protocol
  have hs := hu.setSize_le
  have hr := hu.recordSize_le
  have ha := setAlignment_le t.protocol
  cases flag <;> simp [hasRoom, baseLen, openLen, setHeaderLen, maxMsgSize] <;> omega

/-- The books after a flush: a message with nothing in it leaves no entry. -/
def flushed (c : Terms ConntrackEvent) (b : Books ConntrackEvent) (flag : Bool)
    (events : List ConntrackEvent) (delivered : Bool) : Books ConntrackEvent :=
  if flag = true ∨ events ≠ [] then post c b flag events delivered else { b with current := none }

theorem hasPendingOutput_iff {e : Encoder} {t : Template} {flag : Bool}
    {events : List ConntrackEvent} (h : Holds e t flag events) :
    hasPendingOutput e = true ↔ flag = true ∨ events ≠ [] := by
  have hc := h.count
  rw [hasPendingOutput, h.included, Bool.or_eq_true, decide_eq_true_eq, gt_iff_lt,
    UInt32.lt_iff_toNat_lt, hc, or_comm, ← List.length_pos_iff]
  rfl

theorem nextSequence_eq {e : Encoder} {t : Template} {flag : Bool} {events : List ConntrackEvent}
    (h : Holds e t flag events) (p : Protocol) (s : UInt32) :
    nextSequence p s e.recordCount = s + advanceOf p events := by
  cases p with
  | ipfix => simp only [nextSequence, advanceOf, ← h.count, UInt32.ofNat_toNat]
  | netflow9 => rfl

theorem settleTemplate_eq (world : World) (w : State) :
    settleTemplate world w = { w with
      includeTemplate := if w.encoder.templateIncluded then false else w.includeTemplate
      lastTemplateTime :=
        if w.encoder.templateIncluded then world.clock w.ticks else w.lastTemplateTime
      ticks := if w.encoder.templateIncluded then w.ticks + 1 else w.ticks } := by
  rw [settleTemplate]
  cases w.encoder.templateIncluded <;> rfl

theorem flushMessage_agrees {w : State} {b : Books ConntrackEvent} {flag : Bool}
    {events : List ConntrackEvent} (h : Agrees world config w b)
    (hh : Holds w.encoder config.template flag events) (reason : Reason) :
    ∃ w', flushMessage world reason w = some w' ∧
      Agrees world config w'
        (flushed (terms world config) b flag events (world.sendOk b.sent.length)) ∧
      w'.messageActive = w.messageActive ∧ w'.received = w.received := by
  by_cases hp : flag = true ∨ events ≠ []
  · obtain ⟨e', hf, ht, hs, hd, hst, hsat⟩ := finalize_kept (usable_template config) hh
      ⟨world.systemTime w.outbox.length, world.clock (settleTemplate world w).ticks⟩
    have hlen := h.sent.length_eq
    rw [flushMessage, (hasPendingOutput_iff hh).mpr hp]
    rw [settleTemplate_eq] at hf ⊢
    simp only [Bool.not_true, Bool.false_eq_true, if_false, hf, Option.bind_eq_bind,
      Option.bind_some, Option.pure_def]
    refine ⟨_, rfl, ?_, rfl, rfl⟩
    rw [flushed, if_pos hp]
    refine ⟨ht, hd.trans h.domain, hst.trans h.started, ?_, hsat.trans h.clamped, ?_, ?_, ?_, ?_, ?_⟩
    · rw [hs, nextSequence_eq hh, h.sequence]
      rfl
    · simp only [post, hh.included, h.due]
    · simp only [post, hh.included, h.lastTemplate, h.ticks]
      rfl
    · simp only [post, hh.included, h.ticks]
      cases flag <;> rfl
    · simp only [post, h.errors, hlen]
    · refine List.rel_append h.sent (.cons ⟨?_, ?_, ?_, ?_, ?_⟩ .nil)
      · exact hh.included
      · simp only [hh.included, h.lastTemplate, h.ticks]
        rfl
      · rw [hlen]
      · exact hh.count
      · rw [← h.sequence, ← h.domain, ← h.started]
        exact ⟨_, rfl⟩
  · have hpend : hasPendingOutput w.encoder = false := by
      rw [Bool.eq_false_iff]
      exact fun hq => hp ((hasPendingOutput_iff hh).mp hq)
    refine ⟨w, ?_, ?_, rfl, rfl⟩
    · rw [flushMessage, hpend]
      rfl
    · rw [flushed, if_neg hp]
      exact ⟨h.template, h.domain, h.started, h.sequence, h.clamped, h.due, h.lastTemplate, h.ticks,
        h.errors, h.sent⟩

theorem flushed_move {c : Terms ConntrackEvent} {b : Books ConntrackEvent} {flag : Bool}
    {events : List ConntrackEvent} (h : b.current = some (flag, events)) (delivered : Bool) :
    Move c b (flushed c b flag events delivered) := by
  by_cases hp : flag = true ∨ events ≠ []
  · rw [flushed, if_pos hp]
    exact .close b flag events delivered h hp
  · rw [flushed, if_neg hp]
    rw [not_or, Bool.not_eq_true, ne_eq, not_not] at hp
    exact .discard b (by rw [h, hp.1, hp.2])

theorem flushed_current (c : Terms ConntrackEvent) (b : Books ConntrackEvent) (flag : Bool)
    (events : List ConntrackEvent) (delivered : Bool) :
    (flushed c b flag events delivered).current = none := by
  rw [flushed]
  split <;> rfl

theorem flushed_taken (c : Terms ConntrackEvent) (b : Books ConntrackEvent) (flag : Bool)
    (events : List ConntrackEvent) (delivered : Bool) :
    (flushed c b flag events delivered).taken = b.taken := by
  rw [flushed]
  split <;> rfl

theorem beginMessage_agrees {w : State} {b : Books ConntrackEvent} (h : Agrees world config w b)
    (flag : Bool) :
    ∃ e', beginMessage w.encoder flag = some e' ∧ Agrees world config { w with encoder := e' } b ∧
      Holds e' config.template flag [] := by
  have hu : Usable w.encoder.template := by
    rw [h.template]
    exact usable_template config
  obtain ⟨e', hb, hh, hk, hsat⟩ := beginMessage_holds hu flag
  rw [h.template] at hh
  exact ⟨e', hb, ⟨hh.template, hk.domain.trans h.domain, hk.started.trans h.started,
    hk.sequenceNumber.trans h.sequence, hsat.trans h.clamped, h.due, h.lastTemplate, h.ticks,
    h.errors, h.sent⟩, hh⟩

/-- The books with one more record in the message in progress. -/
def recorded (b : Books ConntrackEvent) (flag : Bool) (events : List ConntrackEvent)
    (event : ConntrackEvent) : Books ConntrackEvent :=
  { b with current := some (flag, events ++ [event]), taken := b.taken ++ [event] }

theorem addRecord_mirrors {w : State} {b : Books ConntrackEvent} {flag : Bool}
    {events : List ConntrackEvent} (h : Agrees world config w b) (ha : w.messageActive = true)
    (hh : Holds w.encoder config.template flag events) (event : ConntrackEvent)
    (hr : hasRoom config.template flag events.length) :
    ∃ e', addRecord w.encoder event = some (e', true) ∧
      Mirrors world config { w with encoder := e' } (recorded b flag events event) := by
  obtain ⟨e', hadd, hh', hk, hsat⟩ := addRecord_room (usable_template config) hh event hr
  refine ⟨e', hadd, ⟨hh'.template, hk.domain.trans h.domain, hk.started.trans h.started,
    hk.sequenceNumber.trans h.sequence, ?_, h.due, h.lastTemplate, h.ticks, h.errors, h.sent⟩,
    .active ha hh'⟩
  simp only [hsat, h.clamped, recorded, List.map_append, List.map_cons, List.map_nil,
    List.sum_append, List.sum_cons, List.sum_nil, Nat.add_zero]

theorem Leads.refl {w : State} {b : Books ConntrackEvent} (h : Mirrors world config w b) :
    Leads world config w b w b [] :=
  ⟨.refl, h, (List.append_nil _).symm, rfl⟩

theorem Leads.trans {w w' w'' : State} {b b' b'' : Books ConntrackEvent}
    {xs ys : List ConntrackEvent} (h : Leads world config w b w' b' xs)
    (h' : Leads world config w' b' w'' b'' ys) : Leads world config w b w'' b'' (xs ++ ys) := by
  refine ⟨h.moves.trans h'.moves, h'.mirrors, ?_, h'.received.trans h.received⟩
  rw [h'.taken, h.taken, List.append_assoc]

theorem recordEvent_full {w : State} {b : Books ConntrackEvent} {flag : Bool}
    {events : List ConntrackEvent} (h : Agrees world config w b) (ha : w.messageActive = true)
    (hc : b.current = some (flag, events)) (hh : Holds w.encoder config.template flag events)
    (event : ConntrackEvent) (hr : ¬ hasRoom config.template flag events.length) :
    ∃ w' b', recordEvent world w event = some w' ∧ Leads world config w b w' b' [event] ∧
      w'.messageActive = true := by
  obtain ⟨w₁, hf, h₁, ha₁, hr₁⟩ := flushMessage_agrees h hh .full
  obtain ⟨e₂, hb, h₂, hh₂⟩ := beginMessage_agrees h₁ w₁.includeTemplate
  obtain ⟨e₃, hadd, hm⟩ := addRecord_mirrors h₂ (ha₁.trans ha) hh₂ event
    (hasRoom_zero (usable_template config) _)
  let b₁ := flushed (terms world config) b flag events (world.sendOk b.sent.length)
  have hdue : w₁.includeTemplate = b₁.due := h₁.due
  have hcur : b₁.current = none := flushed_current _ b flag events _
  refine ⟨{ w₁ with encoder := e₃ }, recorded b₁ w₁.includeTemplate [] event, ?_, ?_, ha₁.trans ha⟩
  · simp [recordEvent, addRecord_full hh event hr, hf, hb, hadd]
  · refine ⟨?_, hm, ?_, hr₁⟩
    · rw [hdue]
      exact ((Relation.ReflTransGen.single (flushed_move hc _)).tail (.start b₁ hcur)).tail
        (.add _ b₁.due [] event rfl)
    · change b₁.taken ++ [event] = _
      rw [flushed_taken]

/-- Every event the parser reports ends up in a message, whether or not the
one in progress had room for it. -/
theorem recordEvent_leads {w : State} {b : Books ConntrackEvent} (h : Mirrors world config w b)
    (ha : w.messageActive = true) (event : ConntrackEvent) :
    ∃ w' b', recordEvent world w event = some w' ∧ Leads world config w b w' b' [event] ∧
      w'.messageActive = true := by
  obtain ⟨flag, events, hc, hh⟩ := h.active ha
  by_cases hr : hasRoom config.template flag events.length
  · obtain ⟨e', hadd, hm⟩ := addRecord_mirrors h.agrees ha hh event hr
    refine ⟨{ w with encoder := e' }, recorded b flag events event, ?_, ?_, ha⟩
    · simp [recordEvent, hadd]
    · exact ⟨.single (.add b flag events event hc), hm, rfl, rfl⟩
  · exact recordEvent_full h.agrees ha hc hh event hr

theorem recordEvents_leads {w : State} {b : Books ConntrackEvent} (h : Mirrors world config w b)
    (ha : w.messageActive = true) (events : List ConntrackEvent) :
    ∃ w' b', events.foldlM (recordEvent world) w = some w' ∧ Leads world config w b w' b' events := by
  induction events generalizing w b with
  | nil => exact ⟨w, b, rfl, .refl h⟩
  | cons event events ih =>
    obtain ⟨w₁, b₁, hw₁, hl₁, ha₁⟩ := recordEvent_leads h ha event
    obtain ⟨w₂, b₂, hw₂, hl₂⟩ := ih hl₁.mirrors ha₁
    refine ⟨w₂, b₂, ?_, hl₁.trans hl₂⟩
    rw [List.foldlM_cons, hw₁]
    exact hw₂

theorem ensureActive_leads {w : State} {b : Books ConntrackEvent} (h : Mirrors world config w b) :
    ∃ w' b', ensureActive w = some w' ∧ Leads world config w b w' b' [] ∧
      w'.messageActive = true := by
  cases ha : w.messageActive with
  | true => exact ⟨w, b, by rw [ensureActive, if_pos ha], .refl h, ha⟩
  | false =>
    obtain ⟨e', hb, hg, hh⟩ := beginMessage_agrees h.agrees w.includeTemplate
    refine ⟨{ w with encoder := e', messageActive := true },
      { b with current := some (w.includeTemplate, []) }, ?_, ⟨?_, ⟨?_, .active rfl hh⟩, ?_, rfl⟩, rfl⟩
    · simp [ensureActive, ha, hb]
    · rw [h.agrees.due]
      exact .single (.start b (h.idle ha))
    · exact ⟨hg.template, hg.domain, hg.started, hg.sequence, hg.clamped, hg.due, hg.lastTemplate,
        hg.ticks, hg.errors, hg.sent⟩
    · exact (List.append_nil _).symm

end NatStream.Worker.Refinement
