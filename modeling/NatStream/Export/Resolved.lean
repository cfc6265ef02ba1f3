import NatStream.Export.Records

namespace NatStream.Export.Resolved

open NatStream.Lib.ByteBuffer NatStream.Events NatStream.Export.Templates NatStream.Export.Records

def resolvedFields (p : Protocol) (profile : Profile) (w : CounterWidth) : List ResolvedField :=
  (shapes profile).map (resolveField p w)

def totalLength (fields : List ResolvedField) : Nat := (fields.map (fun f => f.length.toNat)).sum

theorem writeRecord_writes {n : Nat} (c : Cursor n) {fields : List ResolvedField}
    (event : ConntrackEvent) (h : ∀ f ∈ fields, FieldFits f)
    (hroom : c.offset + totalLength fields ≤ n) :
    ∃ c', writeRecord c fields event = some (c', fields.countP (exceeds event)) ∧
      Writes c (recordBytes fields event) c' := by
  have hlen : (recordBytes fields event).length = totalLength fields := length_recordBytes event h
  obtain ⟨c', hput, hw⟩ := put_writes (recordBytes fields event) (by rw [hlen]; exact hroom)
  refine ⟨c', ?_, hw⟩
  rw [writeRecord_eq c fields event h (Nat.le_of_add_right_le hroom), hput, Option.map_some]

theorem resolve_ok {p : Protocol} {profile : Profile} {w : CounterWidth} {id : UInt16} {t : Template}
    (h : resolve p profile w id = .ok t) :
    256 ≤ id.toNat ∧ t =
      ⟨resolvedFields p profile w, totalLength (resolvedFields p profile w), id, p, profile, w⟩ := by
  rw [resolve] at h
  split at h
  · cases h
  · next hid =>
    have hle : 256 ≤ id.toNat := by
      rw [UInt16.lt_iff_toNat_lt] at hid
      simpa [minTemplateId] using hid
    dsimp only at h
    split at h
    · cases h
    · exact ⟨hle, (Except.ok.inj h).symm⟩

instance (f : ResolvedField) : Decidable (FieldFits f) :=
  inferInstanceAs (Decidable (_ ∨ _))

theorem resolvedFields_fit (p : Protocol) (profile : Profile) (w : CounterWidth) :
    ∀ f ∈ resolvedFields p profile w, FieldFits f := by
  cases p <;> cases profile <;> cases w <;> decide

theorem resolvedFields_plain (p : Protocol) (profile : Profile) (w : CounterWidth) :
    ∀ f ∈ resolvedFields p profile w, f.pen.isSome → supportsEnterprise p := by
  cases p <;> cases profile <;> cases w <;> decide

theorem resolvedFields_id (p : Protocol) (profile : Profile) (w : CounterWidth) :
    ∀ f ∈ resolvedFields p profile w, f.id.toNat < 32768 := by
  cases p <;> cases profile <;> cases w <;> decide

theorem resolvedFields_length (p : Protocol) (profile : Profile) (w : CounterWidth) :
    (resolvedFields p profile w).length ≤ 14 := by
  cases p <;> cases profile <;> cases w <;> decide

theorem resolvedFields_total (p : Protocol) (profile : Profile) (w : CounterWidth) :
    29 ≤ totalLength (resolvedFields p profile w) ∧
      totalLength (resolvedFields p profile w) ≤ 58 := by
  cases p <;> cases profile <;> cases w <;> decide

theorem resolvedFields_specifiers (p : Protocol) (profile : Profile) (w : CounterWidth) :
    ((resolvedFields p profile w).map specifierLen).sum ≤ 64 := by
  cases p <;> cases profile <;> cases w <;> decide

/-- What the encoder relies on in a template. Everything `resolve` returns
has these properties; nothing else is ever handed to an encoder. -/
structure Usable (t : Template) : Prop where
  templateId_ge : 256 ≤ t.templateId.toNat
  recordSize_eq : t.recordSize = totalLength t.fields
  recordSize_ge : 29 ≤ t.recordSize
  recordSize_le : t.recordSize ≤ 58
  fits : ∀ f ∈ t.fields, FieldFits f
  plain : ∀ f ∈ t.fields, f.pen.isSome → supportsEnterprise t.protocol
  id_lt : ∀ f ∈ t.fields, f.id.toNat < 32768
  length_le : t.fields.length ≤ 14
  specifiers_le : (t.fields.map specifierLen).sum ≤ 64

theorem resolved_usable (p : Protocol) (profile : Profile) (w : CounterWidth) {id : UInt16}
    (h : 256 ≤ id.toNat) : Usable
      ⟨resolvedFields p profile w, totalLength (resolvedFields p profile w), id, p, profile, w⟩ := by
  obtain ⟨hge, hle⟩ := resolvedFields_total p profile w
  exact ⟨h, rfl, hge, hle, resolvedFields_fit p profile w, resolvedFields_plain p profile w,
    resolvedFields_id p profile w, resolvedFields_length p profile w,
    resolvedFields_specifiers p profile w⟩

theorem resolve_usable {p : Protocol} {profile : Profile} {w : CounterWidth} {id : UInt16}
    {t : Template} (h : resolve p profile w id = .ok t) : Usable t := by
  obtain ⟨hid, rfl⟩ := resolve_ok h
  exact resolved_usable p profile w hid

theorem le_alignUp (value : Nat) {alignment : Nat} (h : 0 < alignment) :
    value ≤ alignUp value alignment := by
  have hd := Nat.div_add_mod (value + alignment - 1) alignment
  have hm := Nat.mod_lt (value + alignment - 1) h
  rw [alignUp, Nat.mul_comm]
  omega

theorem alignUp_lt (value : Nat) {alignment : Nat} (h : 0 < alignment) :
    alignUp value alignment < value + alignment := by
  have hd := Nat.div_mul_le_self (value + alignment - 1) alignment
  rw [alignUp]
  omega

theorem dvd_alignUp (value alignment : Nat) : alignment ∣ alignUp value alignment :=
  Dvd.intro_left _ rfl

/-- Padding what follows an aligned prefix is padding the rest on its own. -/
theorem alignUp_add {start alignment : Nat} (value : Nat) (h : 0 < alignment)
    (hs : alignment ∣ start) : alignUp (start + value) alignment = start + alignUp value alignment := by
  obtain ⟨k, rfl⟩ := hs
  have hk : alignment * k + value + alignment - 1 = value + alignment - 1 + alignment * k := by omega
  rw [alignUp, hk, Nat.add_mul_div_left _ _ h, Nat.add_mul, alignUp, Nat.mul_comm k, Nat.add_comm]

theorem setAlignment_pos (p : Protocol) : 0 < setAlignment p := by cases p <;> decide

theorem setAlignment_le (p : Protocol) : setAlignment p ≤ 4 := by cases p <;> decide

theorem setAlignment_dvd_headerLen (p : Protocol) : setAlignment p ∣ headerLen p := by
  cases p <;> decide

theorem headerLen_le (p : Protocol) : headerLen p ≤ 20 := by cases p <;> decide

theorem Usable.setSize_le {t : Template} (h : Usable t) : setSize t ≤ 75 := by
  have hl := alignUp_lt (setHeaderLen + 4 + (t.fields.map specifierLen).sum)
    (setAlignment_pos t.protocol)
  have hs := h.specifiers_le
  have ha := setAlignment_le t.protocol
  simp only [setSize, setHeaderLen] at hl ⊢
  omega

/-- Every combination of protocol, profile and counter width leaves room for a
record next to the template, so only the template id can be refused. -/
theorem resolve_of_le (p : Protocol) (profile : Profile) (w : CounterWidth) {id : UInt16}
    (h : 256 ≤ id.toNat) :
    resolve p profile w id = .ok
      ⟨resolvedFields p profile w, totalLength (resolvedFields p profile w), id, p, profile, w⟩ := by
  have hu := resolved_usable p profile w h
  have hid : ¬ id < minTemplateId := by
    rw [UInt16.lt_iff_toNat_lt]
    exact Nat.not_lt.mpr h
  rw [resolve]
  rw [if_neg hid]
  apply if_neg
  have hheader := headerLen_le p
  have hset := hu.setSize_le
  have hrecord : totalLength (resolvedFields p profile w) ≤ 58 := hu.recordSize_le
  have hdata := alignUp_lt (setHeaderLen + 1 * totalLength (resolvedFields p profile w))
    (setAlignment_pos p)
  have halign := setAlignment_le p
  simp only [setHeaderLen] at hdata
  change ¬ headerLen p + setSize ⟨resolvedFields p profile w,
    totalLength (resolvedFields p profile w), id, p, profile, w⟩ +
    alignUp (4 + 1 * totalLength (resolvedFields p profile w)) (setAlignment p) > 1472
  omega

end NatStream.Export.Resolved
