import NatStream.Lib.Slice

namespace NatStream.Lib.ByteBuffer

variable {n : Nat}

/-- A byte array whose size never changes. -/
structure Buffer (n : Nat) where
  bytes : List UInt8
  size_eq : bytes.length = n
  deriving DecidableEq

def zeroed (n : Nat) : Buffer n := ⟨List.replicate n 0, List.length_replicate⟩

def splice (b : Buffer n) (lo : Nat) (src : List UInt8) (h : lo + src.length ≤ n) : Buffer n :=
  ⟨b.bytes.take lo ++ src ++ b.bytes.drop (lo + src.length), by
    simp only [List.length_append, List.length_take, List.length_drop, b.size_eq]
    omega⟩

/-- Overwrite the range from `lo` to `hi`. The source has to be exactly as
long as the range, and the range has to lie inside the array. -/
def copyFromSlice (b : Buffer n) (lo hi : Nat) (src : List UInt8) : Option (Buffer n) :=
  if h : lo ≤ hi ∧ hi ≤ n ∧ src.length = hi - lo then some (splice b lo src (by omega)) else none

def fill (b : Buffer n) (lo hi : Nat) (value : UInt8) : Option (Buffer n) :=
  copyFromSlice b lo hi (List.replicate (hi - lo) value)

/-- A buffer together with the position of the next write. -/
structure Cursor (n : Nat) where
  buf : Buffer n
  offset : Nat
  deriving DecidableEq

def put (c : Cursor n) (src : List UInt8) : Option (Cursor n) := do
  let buf ← copyFromSlice c.buf c.offset (c.offset + src.length) src
  some ⟨buf, c.offset + src.length⟩

def written (c : Cursor n) : List UInt8 := c.buf.bytes.take c.offset

def rest (c : Cursor n) : List UInt8 := c.buf.bytes.drop c.offset

theorem written_append_rest (c : Cursor n) : written c ++ rest c = c.buf.bytes :=
  List.take_append_drop _ _

theorem length_written {c : Cursor n} (h : c.offset ≤ n) : (written c).length = c.offset := by
  simp [written, c.buf.size_eq, h]

/-- The cursor moved over exactly the given bytes. Everything behind it and
everything beyond the new position is as it was. -/
structure Writes (c : Cursor n) (bs : List UInt8) (c' : Cursor n) : Prop where
  offset : c'.offset = c.offset + bs.length
  fits : c'.offset ≤ n
  written : written c' = written c ++ bs
  rest : rest c' = (rest c).drop bs.length

theorem Writes.nil {c : Cursor n} (h : c.offset ≤ n) : Writes c [] c :=
  ⟨by simp, h, by simp, by simp⟩

theorem Writes.trans {c d e : Cursor n} {as bs : List UInt8}
    (h : Writes c as d) (k : Writes d bs e) : Writes c (as ++ bs) e := by
  refine ⟨?_, k.fits, ?_, ?_⟩
  · rw [k.offset, h.offset, List.length_append, Nat.add_assoc]
  · rw [k.written, h.written, List.append_assoc]
  · rw [k.rest, h.rest, List.drop_drop, List.length_append]

theorem length_take_bytes (b : Buffer n) {k : Nat} (h : k ≤ n) : (b.bytes.take k).length = k := by
  rw [List.length_take, b.size_eq]
  omega

theorem copy_writes (b : Buffer n) (lo hi : Nat) (src : List UInt8)
    (hs : hi = lo + src.length) (h : hi ≤ n) :
    ∃ b', copyFromSlice b lo hi src = some b' ∧ Writes ⟨b, lo⟩ src ⟨b', hi⟩ := by
  subst hs
  have hl := length_take_bytes b (k := lo) (by omega)
  refine ⟨splice b lo src h, dif_pos ⟨by omega, h, by omega⟩, rfl, h, ?_, ?_⟩
  · simp only [written, splice]
    rw [List.take_left' (by simp [hl])]
  · simp only [rest, splice]
    rw [List.drop_left' (by simp [hl]), List.drop_drop]

theorem put_writes {c : Cursor n} (src : List UInt8) (h : c.offset + src.length ≤ n) :
    ∃ c', put c src = some c' ∧ Writes c src c' := by
  obtain ⟨b', hb, hw⟩ := copy_writes c.buf _ _ src rfl h
  exact ⟨⟨b', c.offset + src.length⟩, by simp [put, hb], hw⟩

theorem Writes.unique {c d d' : Cursor n} {bs : List UInt8} (h : Writes c bs d) (h' : Writes c bs d') :
    d = d' := by
  have hb : d.buf.bytes = d'.buf.bytes := by
    rw [← written_append_rest d, ← written_append_rest d', h.written, h'.written, h.rest, h'.rest]
  obtain ⟨⟨bytes, size⟩, offset⟩ := d
  obtain ⟨⟨bytes', size'⟩, offset'⟩ := d'
  have ho : offset = offset' := h.offset.trans h'.offset.symm
  cases hb
  cases ho
  rfl

theorem put_nil {c : Cursor n} (h : c.offset ≤ n) : put c [] = some c := by
  obtain ⟨d, hd, hw⟩ := put_writes (c := c) [] (by simpa using h)
  rw [hd, hw.unique (Writes.nil h)]

theorem put_of_not_fits {c : Cursor n} {src : List UInt8} (h : ¬ c.offset + src.length ≤ n) :
    put c src = none := by
  have hc : copyFromSlice c.buf c.offset (c.offset + src.length) src = none :=
    dif_neg (fun hh => h hh.2.1)
  simp [put, hc]

/-- Successive writes are one write of the concatenation. -/
theorem put_append (c : Cursor n) (as bs : List UInt8) :
    put c (as ++ bs) = (put c as).bind (fun d => put d bs) := by
  by_cases hfit : c.offset + as.length ≤ n
  · obtain ⟨d, hd, hw⟩ := put_writes as hfit
    have ho := hw.offset
    rw [hd, Option.bind_some]
    by_cases hfit' : d.offset + bs.length ≤ n
    · obtain ⟨e, he, hv⟩ := put_writes bs hfit'
      obtain ⟨e', he', hv'⟩ := put_writes (c := c) (as ++ bs) (by simp; omega)
      rw [he, he', hv'.unique (hw.trans hv)]
    · rw [put_of_not_fits hfit', put_of_not_fits (by simp; omega)]
  · rw [put_of_not_fits hfit, put_of_not_fits (by simp; omega), Option.bind_none]

theorem writes_of_put {c d : Cursor n} {src : List UInt8} (h : put c src = some d) : Writes c src d := by
  by_cases hfit : c.offset + src.length ≤ n
  · obtain ⟨d', hd, hw⟩ := put_writes src hfit
    rw [hd] at h
    cases h
    exact hw
  · rw [put_of_not_fits hfit] at h
    cases h

/-- Writing over a range of an already written prefix replaces that range
and nothing else. -/
theorem take_of_patch {b b' : Buffer n} {lo hi m : Nat} {src pre mid post : List UInt8}
    (hw : Writes ⟨b, lo⟩ src ⟨b', hi⟩) (hb : b.bytes.take m = pre ++ mid ++ post)
    (hlo : pre.length = lo) (hmid : mid.length = src.length) (hm : m ≤ n) :
    b'.bytes.take m = pre ++ src ++ post := by
  have hlen : m = pre.length + mid.length + post.length := by
    have h := congrArg List.length hb
    rw [length_take_bytes b hm] at h
    simpa [Nat.add_assoc] using h
  have hhi : hi = lo + src.length := hw.offset
  have hpre : b.bytes.take lo = pre := by
    rw [← hlo, show b.bytes.take pre.length = (b.bytes.take m).take pre.length by
      rw [List.take_take, Nat.min_eq_left (by omega)], hb, List.append_assoc, List.take_left' rfl]
  have hpost : (b.bytes.drop hi).take (m - hi) = post := by
    rw [← List.drop_take, hb, List.drop_left' (by simp; omega)]
  have hall : b'.bytes = pre ++ src ++ b.bytes.drop hi := by
    rw [← written_append_rest ⟨b', hi⟩, hw.written, hw.rest]
    simp only [written, rest, hpre, List.drop_drop, hhi]
  rw [hall, List.take_append, List.take_of_length_le (by simp; omega),
    show m - (pre ++ src).length = m - hi by simp; omega, hpost]

end NatStream.Lib.ByteBuffer
