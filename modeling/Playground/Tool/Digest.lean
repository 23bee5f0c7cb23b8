import Playground.Machine.Bytes

set_option autoImplicit false

/-! # Digests

A digest of a text is a short sequence of octets that hardly any other text has. All kinds of
digests go the same way: the text is filled up to whole blocks, and each block in turn is mixed into
a state of a few words. The numbers that the mixing needs are taken from sines and from roots of
primes, so that nobody can have chosen them. -/

namespace Playground.Tool

open Machine (Bytes)

namespace Digest

/-! ## Blocks -/

/-- The blocks of a text. One bit is set after the text, and its length in bits is at the end. -/
def blocks (size lengthSize : Nat) (encodeLength : Nat → Nat → Bytes) (b : Bytes) : List Bytes :=
  let fill := (2 * size - (b.length + 1 + lengthSize) % size) % size
  let tail := Char.ofNat 0x80 :: List.replicate fill (Char.ofNat 0)
  Bytes.chunks size (b ++ tail ++ encodeLength lengthSize (8 * b.length))

/-- The words of a block. -/
def words {w : Nat} (value : Bytes → Nat) (block : Bytes) : List (BitVec w) :=
  (Bytes.chunks (w / 8) block).map fun octets => BitVec.ofNat w (value octets)

/-! ## Numbers without a secret -/

def isPrime (n : Nat) : Bool := 2 ≤ n && ((List.range n).drop 2).all fun d => n % d != 0

def primes : List Nat := (List.range 410).filter isPrime

/-- The greatest number of which a power is no greater than a number. -/
def root (power n : Nat) : Nat :=
  (List.range 80).foldr (fun bit r =>
    let next := r + 1 <<< bit
    if Nat.pow next power ≤ n then next else r) 0

/-- The bits after the point of roots of primes. -/
def rootBits (w power places : Nat) (numbers : List Nat) : List (BitVec w) :=
  numbers.map fun n => BitVec.ofNat w (root power (n * (1 <<< (power * places))))

/-- The sum of so many members of the series of a sine that follow one member, which has this
    place. -/
def sineSeries (x : Nat) (steps place : Nat) (member : Int) : Int :=
  match steps with
  | 0 => 0
  | steps + 1 =>
      member + sineSeries x steps (place + 2) (-(member * (x * x)) / ((place + 1) * (place + 2)))

/-- The bits after the point of the sines of the numbers from one on. -/
def sineBits (count : Nat) : List (BitVec 32) :=
  (List.range count).map fun (i : Nat) =>
    let sine := sineSeries (i + 1) 150 1 ((i + 1) * (1 <<< 200 : Nat))
    BitVec.ofNat 32 (sine.natAbs / (1 <<< 168))

/-! ## MD5 -/

/-- The state of a digest of four words. -/
structure Four where
  a : BitVec 32
  b : BitVec 32
  c : BitVec 32
  d : BitVec 32

def Four.toBytes (s : Four) : Bytes :=
  [s.a, s.b, s.c, s.d].flatMap fun w => Bytes.toLittleEndian 4 w.toNat

def sines : List (BitVec 32) := sineBits 64

/-- The four ways to mix three words, the word of the block that is taken at a step, and how far is
    rotated. -/
def Four.mixture (s : Four) (i : Nat) : BitVec 32 × Nat × List Nat :=
  match i / 16 with
  | 0 => ((s.b &&& s.c) ||| (~~~s.b &&& s.d), i, [7, 12, 17, 22])
  | 1 => ((s.d &&& s.b) ||| (~~~s.d &&& s.c), 5 * i + 1, [5, 9, 14, 20])
  | 2 => (s.b ^^^ s.c ^^^ s.d, 3 * i + 5, [4, 11, 16, 23])
  | _ => (s.c ^^^ (s.b ||| ~~~s.d), 7 * i, [6, 10, 15, 21])

def Four.step (block : List (BitVec 32)) (s : Four) (i : Nat) (sine : BitVec 32) : Four :=
  let (mixed, place, turns) := s.mixture i
  let sum := s.a + mixed + sine + block.getD (place % 16) 0
  ⟨s.d, s.b + sum.rotateLeft (turns.getD (i % 4) 0), s.b, s.c⟩

def Four.mix (s : Four) (block : Bytes) : Four :=
  let ws := words Bytes.littleEndian block
  let t := ((List.range 64).zip sines).foldl (fun t ((i : Nat), sine) => t.step ws i sine) s
  ⟨s.a + t.a, s.b + t.b, s.c + t.c, s.d + t.d⟩

def md5 (b : Bytes) : Bytes :=
  ((blocks 64 8 Bytes.toLittleEndian b).foldl Four.mix
    ⟨0x67452301, 0xefcdab89, 0x98badcfe, 0x10325476⟩).toBytes

/-! ## SHA-1 -/

/-- The state of a digest of five words. -/
structure Five where
  a : BitVec 32
  b : BitVec 32
  c : BitVec 32
  d : BitVec 32
  e : BitVec 32

def Five.toBytes (s : Five) : Bytes :=
  [s.a, s.b, s.c, s.d, s.e].flatMap fun w => Bytes.toBigEndian 4 w.toNat

/-- So many words follow those of a block, each made from some of the sixteen before it. The words
    are in reverse. -/
def extended {w : Nat} (next : List (BitVec w) → BitVec w) (count : Nat) (ws : List (BitVec w)) :
    List (BitVec w) :=
  match count with
  | 0 => ws
  | count + 1 => extended next count (next ws :: ws)

def Five.mixture (s : Five) (i : Nat) : BitVec 32 × BitVec 32 :=
  match i / 20 with
  | 0 => ((s.b &&& s.c) ||| (~~~s.b &&& s.d), 0x5a827999)
  | 1 => (s.b ^^^ s.c ^^^ s.d, 0x6ed9eba1)
  | 2 => ((s.b &&& s.c) ||| (s.b &&& s.d) ||| (s.c &&& s.d), 0x8f1bbcdc)
  | _ => (s.b ^^^ s.c ^^^ s.d, 0xca62c1d6)

def Five.step (s : Five) (i : Nat) (word : BitVec 32) : Five :=
  let (mixed, number) := s.mixture i
  ⟨s.a.rotateLeft 5 + mixed + s.e + number + word, s.a, s.b.rotateLeft 30, s.c, s.d⟩

def Five.mix (s : Five) (block : Bytes) : Five :=
  let next (ws : List (BitVec 32)) : BitVec 32 :=
    (ws.getD 2 0 ^^^ ws.getD 7 0 ^^^ ws.getD 13 0 ^^^ ws.getD 15 0).rotateLeft 1
  let ws := (extended next 64 (words Bytes.bigEndian block).reverse).reverse
  let t := ((List.range 80).zip ws).foldl (fun t ((i : Nat), word) => t.step i word) s
  ⟨s.a + t.a, s.b + t.b, s.c + t.c, s.d + t.d, s.e + t.e⟩

def sha1 (b : Bytes) : Bytes :=
  ((blocks 64 8 Bytes.toBigEndian b).foldl Five.mix
    ⟨0x67452301, 0xefcdab89, 0x98badcfe, 0x10325476, 0xc3d2e1f0⟩).toBytes

/-! ## SHA-2 -/

/-- The state of a digest of eight words. -/
structure Eight (w : Nat) where
  a : BitVec w
  b : BitVec w
  c : BitVec w
  d : BitVec w
  e : BitVec w
  f : BitVec w
  g : BitVec w
  h : BitVec w

namespace Eight

variable {w : Nat}

def toList (s : Eight w) : List (BitVec w) := [s.a, s.b, s.c, s.d, s.e, s.f, s.g, s.h]

/-- A state of eight words, of which those that are missing are zero. -/
def ofList (ws : List (BitVec w)) : Eight w :=
  let word (i : Nat) : BitVec w := ws.getD i 0
  ⟨word 0, word 1, word 2, word 3, word 4, word 5, word 6, word 7⟩

def toBytes (s : Eight w) : Bytes := s.toList.flatMap fun x => Bytes.toBigEndian (w / 8) x.toNat

end Eight

/-- How words of one width are mixed. -/
structure Mixer (w : Nat) where
  /-- Rotations of the first and of the fifth word of the state. -/
  first : Nat × Nat × Nat
  fifth : Nat × Nat × Nat
  /-- Rotations of an early and of a late word of the block, and a shift. -/
  early : Nat × Nat × Nat
  late : Nat × Nat × Nat
  numbers : List (BitVec w)

namespace Mixer

variable {w : Nat}

def turned (turns : Nat × Nat × Nat) (x : BitVec w) : BitVec w :=
  x.rotateRight turns.1 ^^^ x.rotateRight turns.2.1 ^^^ x.rotateRight turns.2.2

def shifted (turns : Nat × Nat × Nat) (x : BitVec w) : BitVec w :=
  x.rotateRight turns.1 ^^^ x.rotateRight turns.2.1 ^^^ x >>> turns.2.2

def step (m : Mixer w) (s : Eight w) (number word : BitVec w) : Eight w :=
  let choice := (s.e &&& s.f) ^^^ (~~~s.e &&& s.g)
  let majority := (s.a &&& s.b) ^^^ (s.a &&& s.c) ^^^ (s.b &&& s.c)
  let sum := s.h + turned m.fifth s.e + choice + number + word
  ⟨sum + turned m.first s.a + majority, s.a, s.b, s.c, s.d + sum, s.e, s.f, s.g⟩

def mix (m : Mixer w) (s : Eight w) (block : Bytes) : Eight w :=
  let next (ws : List (BitVec w)) : BitVec w :=
    shifted m.late (ws.getD 1 0) + ws.getD 6 0 + shifted m.early (ws.getD 14 0) + ws.getD 15 0
  let ws := extended next (m.numbers.length - 16) (words Bytes.bigEndian block).reverse
  let t := (m.numbers.zip ws.reverse).foldl (fun t (number, word) => m.step t number word) s
  Eight.ofList (List.zipWith (fun x y => x + y) s.toList t.toList)

/-- The first octets of the digest of a text that begins with a state. -/
def digest (m : Mixer w) (start : List (BitVec w)) (size : Nat) (b : Bytes) : Bytes :=
  let all := blocks (2 * w) (w / 4) Bytes.toBigEndian b
  ((all.foldl m.mix (Eight.ofList start)).toBytes).take size

end Mixer

def mixer32 : Mixer 32 :=
  ⟨(2, 13, 22), (6, 11, 25), (7, 18, 3), (17, 19, 10), rootBits 32 3 32 (primes.take 64)⟩

def mixer64 : Mixer 64 :=
  ⟨(28, 34, 39), (14, 18, 41), (1, 8, 7), (19, 61, 6), rootBits 64 3 64 (primes.take 80)⟩

def sha224 : Bytes → Bytes := mixer32.digest (rootBits 32 2 64 ((primes.drop 8).take 8)) 28

def sha256 : Bytes → Bytes := mixer32.digest (rootBits 32 2 32 (primes.take 8)) 32

def sha384 : Bytes → Bytes := mixer64.digest (rootBits 64 2 64 ((primes.drop 8).take 8)) 48

def sha512 : Bytes → Bytes := mixer64.digest (rootBits 64 2 64 (primes.take 8)) 64

/-! ## Remainders and sums -/

/-- The remainder of an octet that is followed by thirty-two bits, in a division of polynomials. -/
def remainderOf (octet : Nat) : BitVec 32 :=
  (List.range 8).foldl
    (fun (r : BitVec 32) _ => if r.msb then r <<< 1 ^^^ 0x04c11db7 else r <<< 1)
    (BitVec.ofNat 32 (octet * (1 <<< 24)))

def remainders : Array (BitVec 32) := ((List.range 256).map remainderOf).toArray

/-- A remainder with one octet more. -/
def remainderStep (r : BitVec 32) (octet : Nat) : BitVec 32 :=
  r <<< 8 ^^^ remainders.getD ((r >>> 24).toNat ^^^ octet) 0

/-- The remainder of a text and of its length. -/
def cyclic (b : Bytes) : Nat :=
  let length := (Bytes.toBigEndian 8 b.length).dropWhile (· == Char.ofNat 0)
  (~~~((b ++ length.reverse).foldl (fun r c => remainderStep r c.toNat) 0)).toNat

/-- A sum of sixteen bits that is rotated before each octet. -/
def rotatedSum (b : Bytes) : Nat :=
  (b.foldl (fun (n : BitVec 16) c => n.rotateRight 1 + BitVec.ofNat 16 c.toNat) 0).toNat

/-- A sum of which what goes beyond sixteen bits is added to them. -/
def foldedSum (b : Bytes) : Nat :=
  let sum := b.foldl (fun n c => n + c.toNat) 0 % (1 <<< 32)
  let once := sum % (1 <<< 16) + sum / (1 <<< 16)
  once % (1 <<< 16) + once / (1 <<< 16)

end Digest

end Playground.Tool
