import NatStream.Export.Resolved

namespace NatStream.Export.Shapes

open NatStream.Lib.Bytes NatStream.Lib.ByteBuffer NatStream.Events NatStream.Export.Templates
open NatStream.Export.Records NatStream.Export.Resolved

def widthOk : Width → Option UInt16 → Bool
  | .fixed declared, some natural => declared == natural
  | .counter, none => true
  | _, _ => false

/-- The check that is made of each profile table when the program is built. -/
def shapesAreConsistent : List FieldShape → Bool
  | [] => true
  | shape :: rest =>
    if !widthOk shape.width (naturalLen shape.source) then false else shapesAreConsistent rest

example (profile : Profile) : shapesAreConsistent (shapes profile) = true := by
  cases profile <;> decide

/-- A source of fixed size is declared at that size, and a counter as such. -/
def Consistent (shape : FieldShape) : Prop :=
  shape.width = ((naturalLen shape.source).map Width.fixed).getD .counter

theorem widthOk_iff (width : Width) (natural : Option UInt16) :
    widthOk width natural = true ↔ width = (natural.map Width.fixed).getD .counter := by
  cases width with
  | fixed declared =>
    cases natural with
    | none => exact iff_of_false Bool.false_ne_true (by simp)
    | some n => exact beq_iff_eq.trans ⟨congrArg Width.fixed, Width.fixed.inj⟩
  | counter =>
    cases natural with
    | none => exact iff_of_true rfl rfl
    | some n => exact iff_of_false Bool.false_ne_true (by simp)

theorem shapesAreConsistent_iff (table : List FieldShape) :
    shapesAreConsistent table = true ↔ ∀ shape ∈ table, Consistent shape := by
  induction table with
  | nil => simp [shapesAreConsistent]
  | cons shape rest ih =>
    rw [List.forall_mem_cons, ← ih, Consistent, ← widthOk_iff, shapesAreConsistent]
    cases widthOk shape.width (naturalLen shape.source) with
    | true => simp
    | false => simp

theorem length_resolveField_fixed (p : Protocol) (w : CounterWidth) {shape : FieldShape} {n : UInt16}
    (h : shape.width = .fixed n) : (resolveField p w shape).length = n := by
  cases p <;> simp [resolveField, h]

theorem length_resolveField_counter (p : Protocol) (w : CounterWidth) {shape : FieldShape}
    (h : shape.width = .counter) : (resolveField p w shape).length = w.bytes := by
  cases p <;> simp [resolveField, h]

theorem source_resolveField (p : Protocol) (w : CounterWidth) (shape : FieldShape) :
    (resolveField p w shape).source = shape.source := by
  cases p <;> rfl

theorem Consistent.fits {shape : FieldShape} (h : Consistent shape) (p : Protocol)
    (w : CounterWidth) : FieldFits (resolveField p w shape) := by
  rw [Consistent] at h
  rw [FieldFits, source_resolveField]
  cases hn : naturalLen shape.source with
  | none =>
    rw [hn] at h
    refine .inr ⟨rfl, ?_⟩
    rw [length_resolveField_counter p w h]
    cases w <;> decide
  | some natural =>
    rw [hn] at h
    exact .inl (congrArg some (length_resolveField_fixed p w h).symm)

theorem length_fixed {f : ResolvedField} {natural : UInt16} (h : naturalLen f.source = some natural)
    (event : ConntrackEvent) : (fieldBytes event f).length = natural.toNat := by
  obtain ⟨id, pen, length, source⟩ := f
  cases source <;> cases h <;> rfl

/-- Whatever width it was declared with, a source of fixed size is written at
that size. -/
theorem emitField_fixed {n : Nat} {c c' : Cursor n} {f : ResolvedField} {event : ConntrackEvent}
    {clamped : Nat} {natural : UInt16} (hn : naturalLen f.source = some natural)
    (h : emitField c f event = some (c', clamped)) : c'.offset = c.offset + natural.toNat := by
  have hput : emitField c f event = (put c (fieldBytes event f)).map fun c' => (c', 0) := by
    obtain ⟨id, pen, length, source⟩ := f
    cases source with
    | origBytes | origPackets | replyBytes | replyPackets => cases hn
    | _ => simp only [emitField, valueOf, fieldBytes, Option.map_eq_bind]; rfl
  rw [hput] at h
  obtain ⟨c₁, hput, heq⟩ := Option.map_eq_some_iff.mp h
  cases heq
  rw [(writes_of_put hput).offset, length_fixed hn]

/-- Without debug assertions, at either counter width and under either protocol:
every field of the table takes up exactly the bytes that its template
advertises for it. -/
def FieldsAdvertised (table : List FieldShape) : Prop :=
  ∀ (p : Protocol) (w : CounterWidth) (event : ConntrackEvent) (shape : FieldShape),
    shape ∈ table → ∀ (n : Nat) (c : Cursor n),
    c.offset + (resolveField p w shape).length.toNat ≤ n →
    ∃ c' clamped, emitField c (resolveField p w shape) event = some (c', clamped) ∧
      Writes c (fieldBytes event (resolveField p w shape)) c' ∧
      c'.offset = c.offset + (resolveField p w shape).length.toNat

/-- With debug assertions, a record of the table is written without a panic and
takes up exactly what its template advertises. -/
def WrittenAsAdvertised (table : List FieldShape) : Prop :=
  ∀ (p : Protocol) (w : CounterWidth) (event : ConntrackEvent) (n : Nat) (c : Cursor n),
    c.offset + totalLength (table.map (resolveField p w)) ≤ n →
    ∃ c' clamped, writeRecord c (table.map (resolveField p w)) event = some (c', clamped) ∧
      Writes c (recordBytes (table.map (resolveField p w)) event) c' ∧
      c'.offset = c.offset + totalLength (table.map (resolveField p w))

theorem fields_of_consistent {table : List FieldShape} (h : ∀ shape ∈ table, Consistent shape) :
    FieldsAdvertised table := by
  intro p w event shape hshape n c hroom
  have hfits := (h shape hshape).fits p w
  have hlen := length_fieldBytes event hfits
  obtain ⟨c', hput, hwrites⟩ := put_writes (fieldBytes event (resolveField p w shape))
    (by rw [hlen]; exact hroom)
  have hemit := emitField_eq c event hfits
  rw [hput, Option.map_some] at hemit
  exact ⟨c', _, hemit, hwrites, hwrites.offset.trans (by rw [hlen])⟩

theorem written_of_consistent {table : List FieldShape} (h : ∀ shape ∈ table, Consistent shape) :
    WrittenAsAdvertised table := by
  intro p w event n c hroom
  have hfits : ∀ f ∈ table.map (resolveField p w), FieldFits f := by
    intro f hf
    obtain ⟨shape, hshape, rfl⟩ := List.mem_map.mp hf
    exact (h shape hshape).fits p w
  obtain ⟨c', hwrite, hwrites⟩ := writeRecord_writes c event hfits hroom
  exact ⟨c', _, hwrite, hwrites, hwrites.offset.trans (by rw [length_recordBytes event hfits]; rfl)⟩

def blankEvent : ConntrackEvent :=
  ⟨.create, 0, unspecified, unspecified, 0, 0, unspecified, 0, unspecified, 0, 0, 0, 0, 0⟩

theorem natural_of_fields {table : List FieldShape} (h : FieldsAdvertised table)
    {shape : FieldShape} (hshape : shape ∈ table) {natural : UInt16}
    (hn : naturalLen shape.source = some natural) (w : CounterWidth) :
    natural = (resolveField .ipfix w shape).length := by
  obtain ⟨c', clamped, hwrite, -, hoffset⟩ := h .ipfix w blankEvent shape hshape
    (resolveField .ipfix w shape).length.toNat ⟨zeroed _, 0⟩ (Nat.le_of_eq (Nat.zero_add _))
  rw [← source_resolveField .ipfix w] at hn
  have hnatural := emitField_fixed hn hwrite
  rw [hoffset] at hnatural
  exact UInt16.toNat_inj.mp (Nat.add_left_cancel hnatural).symm

/-- The check of a profile table is exact. It accepts a table just when each
counter is declared as one and every field is written at the width advertised
for it, in a release build too; then records are written without a panic in
any build. The widths have to be right at both counter widths, since an address
would pass for a counter of four bytes. -/
theorem shapes_check_exact (table : List FieldShape) :
    (shapesAreConsistent table = true ↔
      (∀ shape ∈ table, naturalLen shape.source = none → shape.width = .counter) ∧
        FieldsAdvertised table) ∧
    (shapesAreConsistent table = true → WrittenAsAdvertised table) := by
  rw [shapesAreConsistent_iff]
  refine ⟨⟨?_, ?_⟩, written_of_consistent⟩
  · intro h
    refine ⟨?_, fields_of_consistent h⟩
    intro shape hshape hn
    have hwidth := h shape hshape
    rw [Consistent, hn] at hwidth
    exact hwidth
  · rintro ⟨hcounters, hfields⟩ shape hshape
    rw [Consistent]
    cases hn : naturalLen shape.source with
    | none => exact hcounters shape hshape hn
    | some natural =>
      have hnatural := natural_of_fields hfields hshape hn
      cases hwidth : shape.width with
      | fixed declared =>
        have hdeclared := hnatural .four
        rw [length_resolveField_fixed _ _ hwidth] at hdeclared
        rw [hdeclared]
        rfl
      | counter =>
        have hnarrow := hnatural .four
        have hwide := hnatural .eight
        rw [length_resolveField_counter _ _ hwidth] at hnarrow hwide
        rw [hnarrow] at hwide
        cases hwide

/-- A table that is wrong only field by field: the widths of an address and of a
port are mixed up, and the record is as long as advertised. -/
example : shapesAreConsistent [⟨.srcIp, ie ieSourceIpv4Address, .fixed 2⟩,
    ⟨.srcPort, ie ieSourceTransportPort, .fixed 4⟩] = false := by
  decide

end NatStream.Export.Shapes
