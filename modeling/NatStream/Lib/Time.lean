import Mathlib.Algebra.Group.Int.Defs
import Mathlib.Algebra.Order.Group.Nat

namespace NatStream.Lib.Time

/-- A reading of the monotonic clock, in nanoseconds from an arbitrary origin.
The clock itself keeps signed 64-bit seconds and a nanosecond part. -/
abbrev Instant := Int

/-- A span of time in nanoseconds. -/
abbrev Duration := Nat

def nanosPerSec : Nat := 1000000000

def fromSecs (secs : Nat) : Duration := secs * nanosPerSec

def asMillis (d : Duration) : Nat := d / 1000000

def durationSince (later earlier : Instant) : Duration := (later - earlier).toNat

theorem le_durationSince_iff {d : Nat} (hd : 0 < d) {later earlier : Int} :
    d ≤ durationSince later earlier ↔ earlier + d ≤ later := by
  simp only [durationSince]
  omega

/-- Adding a span to an instant; `none` is the panic raised when the seconds
no longer fit in 64 signed bits. -/
def addDuration (t : Instant) (d : Duration) : Option Instant :=
  if t + d < 2 ^ 63 * nanosPerSec then some (t + d) else none

end NatStream.Lib.Time
