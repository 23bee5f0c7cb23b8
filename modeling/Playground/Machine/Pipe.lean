set_option autoImplicit false

/-! # Pipes

A pipe holds octets on their way from those who write to those who read, up to its capacity. Octets
come out in the order in which they went in. -/

namespace Playground.Machine

structure Pipe where
  capacity : Nat
  /-- What has been written and not been read, oldest first. -/
  held : List UInt8
  /-- How much that is. -/
  size : Nat
  size_eq : size = held.length
  deriving DecidableEq, Repr

namespace Pipe

/-- What pipes hold unless they are made otherwise. -/
def defaultCapacity : Nat := 65536

/-- Writes of at most this size are not split. -/
def atomicSize : Nat := 4096

def empty (capacity : Nat) : Pipe := ⟨capacity, [], 0, rfl⟩

def room (p : Pipe) : Nat := p.capacity - p.size

/-- How many octets of a write fit now: all of them, or else none until there is room for as much
    as must not be split. -/
def accepts (p : Pipe) (octets : List UInt8) : Nat :=
  if (octets.drop p.room).isEmpty then octets.length
  else if p.room < min atomicSize p.capacity then 0
  else p.room

theorem accepts_le_room (p : Pipe) (octets : List UInt8) : p.accepts octets ≤ p.room := by
  unfold accepts
  split
  · next h =>
      rw [List.isEmpty_iff, List.drop_eq_nil_iff] at h
      exact h
  · split
    · exact Nat.zero_le _
    · exact Nat.le_refl _

/-- Puts octets into the pipe. -/
def push (p : Pipe) (octets : List UInt8) : Pipe where
  capacity := p.capacity
  held := p.held ++ octets
  size := p.size + octets.length
  size_eq := by rw [List.length_append, p.size_eq]

/-- Takes up to so many octets out of the pipe. -/
def pull (p : Pipe) (count : Nat) : List UInt8 × Pipe :=
  (p.held.take count,
    { capacity := p.capacity
      held := p.held.drop count
      size := p.size - count
      size_eq := by rw [List.length_drop, p.size_eq] })

theorem pull_append (p : Pipe) (count : Nat) :
    (p.pull count).1 ++ (p.pull count).2.held = p.held := by
  simp [pull]

/-- Takes all octets out of the pipe. -/
def pullAll (p : Pipe) : List UInt8 × Pipe := (p.held, empty p.capacity)

end Pipe

end Playground.Machine
