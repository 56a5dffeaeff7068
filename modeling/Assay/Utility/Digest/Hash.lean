/-!
# Sums and digests

A message is read as words. A sum tells most changes of it, and a digest hardly
any other message shares.
-/

set_option autoImplicit false

namespace Assay.Utility.Digest

/-!
## Words of messages

A message is a row of octets. For a digest it is filled up to whole blocks, the
end of which tells its length, and read as words of some width. Constants of
digests are taken from roots of primes.
-/

/-- The largest number with a power that does not exceed another number, which has no more
bits than given. -/
def root (power bits n : Nat) : Nat :=
  (List.range bits).foldr (fun k r =>
    let r' := r + Nat.pow 2 k
    if Nat.pow r' power ≤ n then r' else r) 0

def rootBits (w power n : Nat) : BitVec w :=
  BitVec.ofNat w (root power (w + 8) (n * Nat.pow 2 (power * w)))

def isPrime (n : Nat) : Bool :=
  2 ≤ n && (List.range n).all fun d => d < 2 || n % d != 0

def primesBelow (bound : Nat) : List Nat := (List.range bound).filter isPrime

def ofOctets (octets : List Nat) : Nat := octets.foldl (fun n o => n * 256 + o) 0

def toOctets (count n : Nat) : List Nat :=
  ((List.range count).map fun k => n / Nat.pow 256 k % 256).reverse

def chunks {α : Type} (size : Nat) : Nat → List α → List (List α)
  | 0, _ => []
  | _, [] => []
  | fuel + 1, items => items.take size :: chunks size fuel (items.drop size)

/-- Fills up a message to whole blocks of sixteen words. A bit follows the message, and its
length in bits, in two words, ends the last block. -/
def padded (w : Nat) (littleEnd : Bool) (message : List Nat) : List Nat :=
  let block := 2 * w
  let field := w / 4
  let length := toOctets field (8 * message.length)
  let zeros := (2 * block - (message.length + 1 + field) % block) % block
  message ++ 0x80 :: List.replicate zeros 0 ++ if littleEnd then length.reverse else length

def wordsOf (w : Nat) (littleEnd : Bool) (octets : List Nat) : List (BitVec w) :=
  (chunks (w / 8) octets.length octets).map fun part =>
    BitVec.ofNat w (ofOctets (if littleEnd then part.reverse else part))

def blocksOf (w : Nat) (littleEnd : Bool) (message : List Nat) : List (List (BitVec w)) :=
  let words := wordsOf w littleEnd (padded w littleEnd message)
  chunks 16 words.length words

def octetsOfWords (w : Nat) (littleEnd : Bool) (words : List (BitVec w)) : List Nat :=
  words.flatMap fun x =>
    let octets := toOctets (w / 8) x.toNat
    if littleEnd then octets.reverse else octets

/-!
## Sums of octets

A sum is a small number that a change of a message is likely to change.
-/

def divideOctet (remainder : BitVec 32) (octet : Nat) : BitVec 32 :=
  (List.range 8).foldl (fun r k =>
    let r' := r <<< 1
    let isOdd := r.msb != (octet.testBit (7 - k))
    if isOdd then r' ^^^ 0x04c11db7 else r') remainder

def lengthOctets : Nat → Nat → List Nat
  | 0, _ => []
  | fuel + 1, n => if n = 0 then [] else n % 256 :: lengthOctets fuel (n / 256)

/-- The remainder that a message and its length leave, with all bits turned around. -/
def cyclic (message : List Nat) : Nat :=
  (~~~((message ++ lengthOctets 16 message.length).foldl divideOctet 0)).toNat

def turnedSum (message : List Nat) : Nat :=
  message.foldl (fun n octet => ((n / 2 + n % 2 * 32768) + octet) % 65536) 0

def foldedSum (message : List Nat) : Nat :=
  let n := message.foldl (fun n octet => n + octet) 0 % 4294967296
  let r := n % 65536 + n / 65536
  r % 65536 + r / 65536

/-!
## Digests

A digest of a message is a row of octets that hardly any other message shares.
Its state is changed by one block of the message after the other.
-/

def at_ {w : Nat} (words : Array (BitVec w)) (k : Nat) : BitVec w := (words[k]?).getD 0

/-! ## Four words, sixty-four rounds -/

/-- What each round of the digest adds: the first bits behind the point of the sines of one,
two and so on. -/
def sineBits : List Nat := [
  3614090360, 3905402710, 606105819, 3250441966, 4118548399, 1200080426, 2821735955, 4249261313,
  1770035416, 2336552879, 4294925233, 2304563134, 1804603682, 4254626195, 2792965006, 1236535329,
  4129170786, 3225465664, 643717713, 3921069994, 3593408605, 38016083, 3634488961, 3889429448,
  568446438, 3275163606, 4107603335, 1163531501, 2850285829, 4243563512, 1735328473, 2368359562,
  4294588738, 2272392833, 1839030562, 4259657740, 2763975236, 1272893353, 4139469664, 3200236656,
  681279174, 3936430074, 3572445317, 76029189, 3654602809, 3873151461, 530742520, 3299628645,
  4096336452, 1126891415, 2878612391, 4237533241, 1700485571, 2399980690, 4293915773, 2240044497,
  1873313359, 4264355552, 2734768916, 1309151649, 4149444226, 3174756917, 718787259, 3951481745]

def turns : List (List Nat) := [[7, 12, 17, 22], [5, 9, 14, 20], [4, 11, 16, 23], [6, 10, 15, 21]]

abbrev Four := BitVec 32 × BitVec 32 × BitVec 32 × BitVec 32

def md5Round (block : Array (BitVec 32)) (s : Four) (round : Nat × Nat) : Four :=
  let (a, b, c, d) := s
  let (k, sine) := round
  let (mixed, index) := match k / 16 with
    | 0 => ((b &&& c) ||| (~~~b &&& d), k)
    | 1 => ((d &&& b) ||| (~~~d &&& c), (5 * k + 1) % 16)
    | 2 => (b ^^^ c ^^^ d, (3 * k + 5) % 16)
    | _ => (c ^^^ (b ||| ~~~d), (7 * k) % 16)
  let turn := ((turns[k / 16]?).bind (·[k % 4]?)).getD 0
  (d, b + (a + mixed + BitVec.ofNat 32 sine + at_ block index).rotateLeft turn, b, c)

def md5Block (s : Four) (block : List (BitVec 32)) : Four :=
  let t := ((List.range 64).zip sineBits).foldl (md5Round block.toArray) s
  (s.1 + t.1, s.2.1 + t.2.1, s.2.2.1 + t.2.2.1, s.2.2.2 + t.2.2.2)

def md5 (message : List Nat) : List Nat :=
  let (a, b, c, d) := (blocksOf 32 true message).foldl md5Block
    (0x67452301, 0xefcdab89, 0x98badcfe, 0x10325476)
  octetsOfWords 32 true [a, b, c, d]

/-! ## Five words, eighty rounds -/

abbrev Five := BitVec 32 × BitVec 32 × BitVec 32 × BitVec 32 × BitVec 32

def extended {w : Nat} (next : Array (BitVec w) → BitVec w) (count : Nat)
    (block : List (BitVec w)) : Array (BitVec w) :=
  (List.range (count - 16)).foldl (fun words _ => words.push (next words)) block.toArray

def sha1Round (s : Five) (round : Nat × BitVec 32) : Five :=
  let (a, b, c, d, e) := s
  let (k, word) := round
  let (mixed, constant) : BitVec 32 × BitVec 32 := match k / 20 with
    | 0 => ((b &&& c) ||| (~~~b &&& d), 0x5a827999)
    | 1 => (b ^^^ c ^^^ d, 0x6ed9eba1)
    | 2 => ((b &&& c) ||| (b &&& d) ||| (c &&& d), 0x8f1bbcdc)
    | _ => (b ^^^ c ^^^ d, 0xca62c1d6)
  (a.rotateLeft 5 + mixed + e + constant + word, a, b.rotateLeft 30, c, d)

def sha1Block (s : Five) (block : List (BitVec 32)) : Five :=
  let next := fun (ws : Array (BitVec 32)) =>
    let n := ws.size
    (at_ ws (n - 3) ^^^ at_ ws (n - 8) ^^^ at_ ws (n - 14) ^^^ at_ ws (n - 16)).rotateLeft 1
  let t := ((List.range 80).zip (extended next 80 block).toList).foldl sha1Round s
  (s.1 + t.1, s.2.1 + t.2.1, s.2.2.1 + t.2.2.1, s.2.2.2.1 + t.2.2.2.1, s.2.2.2.2 + t.2.2.2.2)

def sha1 (message : List Nat) : List Nat :=
  let (a, b, c, d, e) := (blocksOf 32 false message).foldl sha1Block
    (0x67452301, 0xefcdab89, 0x98badcfe, 0x10325476, 0xc3d2e1f0)
  octetsOfWords 32 false [a, b, c, d, e]

/-! ## Eight words -/

structure Turns where
  width : Nat
  rounds : Nat
  first : Nat × Nat × Nat
  fifth : Nat × Nat × Nat
  old : Nat × Nat × Nat
  recent : Nat × Nat × Nat

def Turns.narrow : Turns :=
  ⟨32, 64, (2, 13, 22), (6, 11, 25), (7, 18, 3), (17, 19, 10)⟩

def Turns.wide : Turns :=
  ⟨64, 80, (28, 34, 39), (14, 18, 41), (1, 8, 7), (19, 61, 6)⟩

def turned {w : Nat} (t : Nat × Nat × Nat) (x : BitVec w) : BitVec w :=
  x.rotateRight t.1 ^^^ x.rotateRight t.2.1 ^^^ x.rotateRight t.2.2

def shifted {w : Nat} (t : Nat × Nat × Nat) (x : BitVec w) : BitVec w :=
  x.rotateRight t.1 ^^^ x.rotateRight t.2.1 ^^^ (x >>> t.2.2)

structure Eight (w : Nat) where
  a : BitVec w
  b : BitVec w
  c : BitVec w
  d : BitVec w
  e : BitVec w
  f : BitVec w
  g : BitVec w
  h : BitVec w

namespace Eight

def ofList {w : Nat} (words : List (BitVec w)) : Eight w :=
  let ws := words.toArray
  ⟨at_ ws 0, at_ ws 1, at_ ws 2, at_ ws 3, at_ ws 4, at_ ws 5, at_ ws 6, at_ ws 7⟩

def toList {w : Nat} (s : Eight w) : List (BitVec w) := [s.a, s.b, s.c, s.d, s.e, s.f, s.g, s.h]

def add {w : Nat} (s t : Eight w) : Eight w :=
  ⟨s.a + t.a, s.b + t.b, s.c + t.c, s.d + t.d, s.e + t.e, s.f + t.f, s.g + t.g, s.h + t.h⟩

def round (t : Turns) (s : Eight t.width) (x : BitVec t.width × BitVec t.width) :
    Eight t.width :=
  let chosen := (s.e &&& s.f) ^^^ (~~~s.e &&& s.g)
  let most := (s.a &&& s.b) ^^^ (s.a &&& s.c) ^^^ (s.b &&& s.c)
  let one := s.h + turned t.fifth s.e + chosen + x.1 + x.2
  let two := turned t.first s.a + most
  ⟨one + two, s.a, s.b, s.c, s.d + one, s.e, s.f, s.g⟩

end Eight

def Turns.constants (t : Turns) : List (BitVec t.width) :=
  ((primesBelow 410).take t.rounds).map (rootBits t.width 3)

def Turns.block (t : Turns) (constants : List (BitVec t.width)) (s : Eight t.width)
    (block : List (BitVec t.width)) : Eight t.width :=
  let next := fun (ws : Array (BitVec t.width)) =>
    let n := ws.size
    shifted t.recent (at_ ws (n - 2)) + at_ ws (n - 7) + shifted t.old (at_ ws (n - 15)) +
      at_ ws (n - 16)
  s.add ((constants.zip (extended next t.rounds block).toList).foldl (Eight.round t) s)

def Turns.digest (t : Turns) (start : Eight t.width) (size : Nat) (message : List Nat) :
    List Nat :=
  let last := (blocksOf t.width false message).foldl (t.block t.constants) start
  (octetsOfWords t.width false last.toList).take size

/-- The usual state to start from, from the square roots of the first eight primes. -/
def Turns.usual (t : Turns) : Eight t.width :=
  Eight.ofList ((primesBelow 20).map (rootBits t.width 2))

/-- Bits behind the point of the square roots of the next eight primes. -/
def otherRoots : List (BitVec 64) := ((primesBelow 54).drop 8).map (rootBits 64 2)

def sha224 (message : List Nat) : List Nat :=
  Turns.narrow.digest (Eight.ofList (otherRoots.map fun x => x.truncate 32)) 28 message

def sha256 (message : List Nat) : List Nat := Turns.narrow.digest Turns.narrow.usual 32 message

def sha384 (message : List Nat) : List Nat :=
  Turns.wide.digest (Eight.ofList otherRoots) 48 message

def sha512 (message : List Nat) : List Nat := Turns.wide.digest Turns.wide.usual 64 message

/-! ## Eight words, and two rows of them made of a block -/

def plainStart : Eight 32 :=
  ⟨0x7380166f, 0x4914b2b9, 0x172442d7, 0xda8a0600, 0xa96f30bc, 0x163138aa, 0xe38dee4d,
    0xb0fb0e4e⟩

def spread (first second : Nat) (x : BitVec 32) : BitVec 32 :=
  x ^^^ x.rotateLeft first ^^^ x.rotateLeft second

def plainRound (s : Eight 32) (round : Nat × BitVec 32 × BitVec 32) : Eight 32 :=
  let (k, word, mixed) := round
  let isEarly := decide (k < 16)
  let constant : BitVec 32 := if isEarly then 0x79cc4519 else 0x7a879d8a
  let turn := (s.a.rotateLeft 12 + s.e + constant.rotateLeft (k % 32)).rotateLeft 7
  let first := if isEarly then s.a ^^^ s.b ^^^ s.c
    else (s.a &&& s.b) ||| (s.a &&& s.c) ||| (s.b &&& s.c)
  let second := if isEarly then s.e ^^^ s.f ^^^ s.g else (s.e &&& s.f) ||| (~~~s.e &&& s.g)
  let one := first + s.d + (turn ^^^ s.a.rotateLeft 12) + mixed
  let two := second + s.h + turn + word
  ⟨one, s.a, s.b.rotateLeft 9, s.c, spread 9 17 two, s.e, s.f.rotateLeft 19, s.g⟩

def plainBlock (s : Eight 32) (block : List (BitVec 32)) : Eight 32 :=
  let next := fun (ws : Array (BitVec 32)) =>
    let n := ws.size
    spread 15 23 (at_ ws (n - 16) ^^^ at_ ws (n - 9) ^^^ (at_ ws (n - 3)).rotateLeft 15) ^^^
      (at_ ws (n - 13)).rotateLeft 7 ^^^ at_ ws (n - 6)
  let words := extended next 68 block
  let rounds := (List.range 64).map fun k => (k, at_ words k, at_ words k ^^^ at_ words (k + 4))
  let t := rounds.foldl plainRound s
  Eight.ofList ((s.toList.zip t.toList).map fun (x, y) => x ^^^ y)

def sm3 (message : List Nat) : List Nat :=
  octetsOfWords 32 false ((blocksOf 32 false message).foldl plainBlock plainStart).toList

/-! ## Sixteen words -/

/-- The order in which the words of a block are used in each round. -/
def orders : List (List Nat) := [
  [0, 1, 2, 3, 4, 5, 6, 7, 8, 9, 10, 11, 12, 13, 14, 15],
  [14, 10, 4, 8, 9, 15, 13, 6, 1, 12, 0, 2, 11, 7, 5, 3],
  [11, 8, 12, 0, 5, 2, 15, 13, 10, 14, 3, 6, 7, 1, 9, 4],
  [7, 9, 3, 1, 13, 12, 11, 14, 2, 6, 5, 10, 4, 0, 15, 8],
  [9, 0, 5, 7, 2, 4, 10, 15, 14, 1, 11, 12, 6, 8, 3, 13],
  [2, 12, 6, 10, 0, 11, 8, 3, 4, 13, 7, 5, 15, 14, 1, 9],
  [12, 5, 1, 15, 14, 13, 4, 10, 0, 7, 6, 3, 9, 2, 8, 11],
  [13, 11, 7, 14, 12, 1, 3, 9, 5, 0, 15, 4, 8, 6, 2, 10],
  [6, 15, 14, 9, 11, 3, 0, 8, 12, 2, 13, 7, 1, 4, 10, 5],
  [10, 2, 8, 4, 7, 6, 1, 5, 15, 11, 9, 14, 3, 12, 13, 0]]

/-- The places of the words that are mixed with each other: columns first, then diagonals. -/
def mixes : List (Nat × Nat × Nat × Nat) := [
  (0, 4, 8, 12), (1, 5, 9, 13), (2, 6, 10, 14), (3, 7, 11, 15),
  (0, 5, 10, 15), (1, 6, 11, 12), (2, 7, 8, 13), (3, 4, 9, 14)]

def mix (v : Array (BitVec 64)) (places : Nat × Nat × Nat × Nat) (x y : BitVec 64) :
    Array (BitVec 64) :=
  let (i, j, k, l) := places
  let a := at_ v i + at_ v j + x
  let d := (at_ v l ^^^ a).rotateRight 32
  let c := at_ v k + d
  let b := (at_ v j ^^^ c).rotateRight 24
  let a := a + b + y
  let d := (d ^^^ a).rotateRight 16
  let c := c + d
  let b := (b ^^^ c).rotateRight 63
  (((v.setIfInBounds i a).setIfInBounds j b).setIfInBounds k c).setIfInBounds l d

def blakeStart : Array (BitVec 64) := ((primesBelow 20).map (rootBits 64 2)).toArray

def blakeBlock (state : Array (BitVec 64)) (block : List (BitVec 64)) (count : Nat)
    (isLast : Bool) : Array (BitVec 64) :=
  let words := block.toArray
  let v := state ++ blakeStart
  let v := v.setIfInBounds 12 (at_ v 12 ^^^ BitVec.ofNat 64 count)
  let v := if isLast then v.setIfInBounds 14 (~~~at_ v 14) else v
  let v := (List.range 12).foldl (fun v round =>
    let order := ((orders[round % 10]?).getD []).toArray
    mixes.zipIdx.foldl (fun v (places, k) =>
      mix v places (at_ words ((order[2 * k]?).getD 0)) (at_ words ((order[2 * k + 1]?).getD 0))) v) v
  state.mapIdx fun k x => x ^^^ at_ v k ^^^ at_ v (k + 8)

def blake2 (size : Nat) (message : List Nat) : List Nat :=
  let state := blakeStart.setIfInBounds 0 (at_ blakeStart 0 ^^^ BitVec.ofNat 64 (0x01010000 + size))
  let parts := if message.isEmpty then [[]] else chunks 128 message.length message
  let last := parts.length - 1
  let state := parts.zipIdx.foldl (fun state (part, k) =>
    let filled := part ++ List.replicate (128 - part.length) 0
    blakeBlock state (wordsOf 64 true filled) (128 * k + part.length) (k == last)) state
  (octetsOfWords 64 true state.toList).take size

end Assay.Utility.Digest
