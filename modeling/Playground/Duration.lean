set_option autoImplicit false

/-! # Durations

A duration is a number of whole seconds and what there is beyond them, in nanoseconds. Two durations
are the same if they are as many nanoseconds in all (`Duration.nanoseconds_inj`). -/

namespace Playground

structure Duration where
  seconds : Nat
  /-- What there is beyond whole seconds. -/
  nanos : Nat
  nanos_lt : nanos < 1000000000
  deriving DecidableEq, Repr

namespace Duration

def ofSeconds (seconds : Nat) : Duration := ⟨seconds, 0, by decide⟩

def ofMilliseconds (n : Nat) : Duration := ⟨n / 1000, 1000000 * (n % 1000), by omega⟩

/-- All of it in nanoseconds. -/
def nanoseconds (d : Duration) : Nat := 1000000000 * d.seconds + d.nanos

def isZero (d : Duration) : Bool := d.seconds == 0 && d.nanos == 0

/-- The whole seconds of it. -/
def inWholeSeconds (d : Duration) : Duration := .ofSeconds d.seconds

variable {d e : Duration}

theorem nanoseconds_inj : d.nanoseconds = e.nanoseconds ↔ d = e := by
  obtain ⟨seconds, nanos, hnanos⟩ := d
  obtain ⟨seconds', nanos', hnanos'⟩ := e
  simp only [nanoseconds, mk.injEq]
  omega

theorem isZero_iff : d.isZero = true ↔ d = .ofSeconds 0 := by
  obtain ⟨seconds, nanos, hnanos⟩ := d
  simp [isZero, ofSeconds]

theorem isZero_eq_false_iff : d.isZero = false ↔ d ≠ .ofSeconds 0 := by
  rw [← Bool.not_eq_true, ne_eq, isZero_iff]

theorem nanoseconds_pos_iff : 0 < d.nanoseconds ↔ d.isZero = false := by
  rw [isZero_eq_false_iff, Nat.pos_iff_ne_zero, ne_eq, ne_eq, ← nanoseconds_inj]
  rfl

theorem isZero_inWholeSeconds : d.inWholeSeconds.isZero = true ↔ d.seconds = 0 := by
  simp [inWholeSeconds, ofSeconds, isZero]

theorem inWholeSeconds_eq_iff : d.inWholeSeconds = d ↔ d.nanos = 0 := by
  obtain ⟨seconds, nanos, hnanos⟩ := d
  simp [inWholeSeconds, ofSeconds, eq_comm]

end Duration

end Playground
