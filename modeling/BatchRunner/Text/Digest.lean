import BatchRunner.Text.Octets

/-!
# Digests

Short numbers that stand for texts: those of the families MD5, SHA-1 and SHA-2, the cyclic check of 32 bits, and a
sum that is turned around as it grows. Words are numbers below a power of two.
-/

namespace BatchRunner.Text.Digest

/-! ## Words -/

/-- The words of a size in bits. -/
structure WordSize where
  bits : Nat
  deriving DecidableEq, Repr

namespace WordSize

/-- How many words there are. -/
def count (w : WordSize) : Nat := Nat.pow 2 w.bits

/-- A sum that wraps around. -/
def add (w : WordSize) (a b : Nat) : Nat := (a + b) % w.count

/-- A word with each bit turned around. -/
def flip (w : WordSize) (a : Nat) : Nat := w.count - 1 - a

/-- A word turned to the right. -/
def right (w : WordSize) (a n : Nat) : Nat := (a >>> n) ||| ((a <<< (w.bits - n)) % w.count)

/-- A word turned to the left. -/
def left (w : WordSize) (a n : Nat) : Nat := w.right a (w.bits - n)

end WordSize

/-- Words of 32 bits. -/
def word32 : WordSize := ⟨32⟩

/-- Words of 64 bits. -/
def word64 : WordSize := ⟨64⟩

/-! ## Bytes -/

/-- The number that bytes write, the most valuable first. -/
def numberOf (bytes : List UInt8) : Nat := bytes.foldl (fun n b => n * 256 + b.toNat) 0

/-- A number in so many bytes, the most valuable first. -/
def bytesOf (count n : Nat) : List UInt8 :=
  ((List.range count).map fun i => UInt8.ofNat (n >>> (8 * i) % 256)).reverse

/-- Two digits for each byte. -/
def hexOf (bytes : List UInt8) : String :=
  String.ofList (bytes.flatMap fun b => [Nat.digitChar (b.toNat / 16), Nat.digitChar (b.toNat % 16)])

/-- Lists of so many in a row. The fuel bounds their number. -/
def chunks {α : Type} (size : Nat) : Nat → List α → List (List α)
  | 0, _ => []
  | _ + 1, [] => []
  | fuel + 1, xs => xs.take size :: chunks size fuel (xs.drop size)

/-- The bytes of a text with the mark of its end and its size in bits, in blocks. -/
def blocksOf (block sizeBytes : Nat) (bigFirst : Bool) (bytes : List UInt8) : List (List UInt8) :=
  let used := (bytes.length + 1 + sizeBytes) % block
  let gap := if used = 0 then 0 else block - used
  let size := bytesOf sizeBytes (8 * bytes.length)
  let all := bytes ++ 128 :: List.replicate gap 0 ++ (if bigFirst then size else size.reverse)
  chunks block (all.length / block + 1) all

/-! ## Roots of primes -/

/-- The first prime numbers; the fuel bounds how far they are sought. -/
def primesFrom : Nat → Nat → Nat → List Nat → List Nat
  | 0, _, _, found => found
  | _, 0, _, found => found
  | fuel + 1, count + 1, n, found =>
    if found.all fun p => n % p != 0 then primesFrom fuel count (n + 1) (found ++ [n])
    else primesFrom fuel (count + 1) (n + 1) found

/-- The first prime numbers. -/
def primes (count : Nat) : List Nat := primesFrom 500 count 2 []

/-- The largest number with a power that is not above a limit; its bits are found from the top. -/
def rootBelow (degree limit : Nat) : Nat → Nat → Nat
  | 0, found => found
  | bit + 1, found =>
    let next := found + Nat.pow 2 bit
    rootBelow degree limit bit (if Nat.pow next degree ≤ limit then next else found)

/-- The first bits behind the point of a root of a number. -/
def rootFraction (degree bits n : Nat) : Nat :=
  rootBelow degree (n * Nat.pow 2 (degree * bits)) (bits + 10) 0 % Nat.pow 2 bits

/-! ## The family SHA-2 -/

/-- What tells the members of the family apart: words, rounds, and how words are turned. -/
structure Family where
  word : WordSize
  rounds : Nat
  sumA : Nat × Nat × Nat
  sumE : Nat × Nat × Nat
  /-- Two turns and a shift. -/
  mixOld : Nat × Nat × Nat
  mixNew : Nat × Nat × Nat
  keys : Array Nat

/-- The members with words of 32 bits. -/
def family32 : Family where
  word := word32
  rounds := 64
  sumA := (2, 13, 22)
  sumE := (6, 11, 25)
  mixOld := (7, 18, 3)
  mixNew := (17, 19, 10)
  keys := ((primes 64).map (rootFraction 3 32)).toArray

/-- The members with words of 64 bits. -/
def family64 : Family where
  word := word64
  rounds := 80
  sumA := (28, 34, 39)
  sumE := (14, 18, 41)
  mixOld := (1, 8, 7)
  mixNew := (19, 61, 6)
  keys := ((primes 80).map (rootFraction 3 64)).toArray

namespace Family

/-- A word combined with itself in three positions. -/
def turned (f : Family) (a : Nat) (turns : Nat × Nat × Nat) : Nat :=
  f.word.right a turns.1 ^^^ f.word.right a turns.2.1 ^^^ f.word.right a turns.2.2

/-- A word combined with itself in two positions and shifted. -/
def mixed (f : Family) (a : Nat) (turns : Nat × Nat × Nat) : Nat :=
  f.word.right a turns.1 ^^^ f.word.right a turns.2.1 ^^^ (a >>> turns.2.2)

/-- The words of a block, with those that are mixed from them. -/
def schedule (f : Family) (block : List UInt8) : Array Nat :=
  let size := f.word.bits / 8
  let first := ((chunks size 16 block).map numberOf).toArray
  (List.range (f.rounds - 16)).foldl (fun w i =>
    let word (k : Nat) : Nat := (w[i + k]?).getD 0
    w.push ((f.mixed (word 14) f.mixNew + word 9 + f.mixed (word 1) f.mixOld + word 0) % f.word.count)) first

/-- Takes a block into the eight words of a digest. -/
def absorb (f : Family) (state : List Nat) (block : List UInt8) : List Nat :=
  let w := f.schedule block
  let final := (List.range f.rounds).foldl (fun s i => match s with
    | [a, b, c, d, e, g, h, k] =>
      let choice := (e &&& g) ^^^ (f.word.flip e &&& h)
      let majority := (a &&& b) ^^^ (a &&& c) ^^^ (b &&& c)
      let one := k + f.turned e f.sumE + choice + (f.keys[i]?).getD 0 + (w[i]?).getD 0
      let two := f.turned a f.sumA + majority
      [(one + two) % f.word.count, a, b, c, (d + one) % f.word.count, e, g, h]
    | s => s) state
  (state.zip final).map fun (a, b) => f.word.add a b

/-- The digest of a text from a start, cut to a number of bytes. -/
def digest (f : Family) (start : List Nat) (length : Nat) (bytes : List UInt8) : List UInt8 :=
  let size := f.word.bits / 8
  let state := (blocksOf (16 * size) (2 * size) true bytes).foldl f.absorb start
  (state.flatMap (bytesOf size)).take length

end Family

/-- SHA-256. -/
def sha256 : List UInt8 → List UInt8 := family32.digest ((primes 8).map (rootFraction 2 32)) 32

/-- SHA-224: it starts from the second half of the words of SHA-384. -/
def sha224 : List UInt8 → List UInt8 :=
  family32.digest (((primes 16).drop 8).map fun p => rootFraction 2 64 p % word32.count) 28

/-- SHA-512. -/
def sha512 : List UInt8 → List UInt8 := family64.digest ((primes 8).map (rootFraction 2 64)) 64

/-- SHA-384. -/
def sha384 : List UInt8 → List UInt8 := family64.digest (((primes 16).drop 8).map (rootFraction 2 64)) 48

/-! ## SHA-1 and MD5 -/

/-- Takes a block into the five words of a digest. -/
def absorb1 (state : List Nat) (block : List UInt8) : List Nat :=
  let first := ((chunks 4 16 block).map numberOf).toArray
  let w := (List.range 64).foldl (fun w i =>
    let word (k : Nat) : Nat := (w[i + k]?).getD 0
    w.push (word32.left (word 13 ^^^ word 8 ^^^ word 2 ^^^ word 0) 1)) first
  let final := (List.range 80).foldl (fun s i => match s with
    | [a, b, c, d, e] =>
      let (f, key) :=
        if i < 20 then ((b &&& c) ||| (word32.flip b &&& d), 0x5a827999)
        else if i < 40 then (b ^^^ c ^^^ d, 0x6ed9eba1)
        else if i < 60 then ((b &&& c) ||| (b &&& d) ||| (c &&& d), 0x8f1bbcdc)
        else (b ^^^ c ^^^ d, 0xca62c1d6)
      [(word32.left a 5 + f + e + key + (w[i]?).getD 0) % word32.count, a, word32.left b 30, c, d]
    | s => s) state
  (state.zip final).map fun (a, b) => word32.add a b

/-- SHA-1. -/
def sha1 (bytes : List UInt8) : List UInt8 :=
  ((blocksOf 64 8 true bytes).foldl absorb1
    [0x67452301, 0xefcdab89, 0x98badcfe, 0x10325476, 0xc3d2e1f0]).flatMap (bytesOf 4)

/-- The keys of MD5: the first bits of the sines of the whole numbers. -/
def md5Keys : Array Nat := #[
  0xd76aa478, 0xe8c7b756, 0x242070db, 0xc1bdceee, 0xf57c0faf, 0x4787c62a, 0xa8304613, 0xfd469501,
  0x698098d8, 0x8b44f7af, 0xffff5bb1, 0x895cd7be, 0x6b901122, 0xfd987193, 0xa679438e, 0x49b40821,
  0xf61e2562, 0xc040b340, 0x265e5a51, 0xe9b6c7aa, 0xd62f105d, 0x02441453, 0xd8a1e681, 0xe7d3fbc8,
  0x21e1cde6, 0xc33707d6, 0xf4d50d87, 0x455a14ed, 0xa9e3e905, 0xfcefa3f8, 0x676f02d9, 0x8d2a4c8a,
  0xfffa3942, 0x8771f681, 0x6d9d6122, 0xfde5380c, 0xa4beea44, 0x4bdecfa9, 0xf6bb4b60, 0xbebfbc70,
  0x289b7ec6, 0xeaa127fa, 0xd4ef3085, 0x04881d05, 0xd9d4d039, 0xe6db99e5, 0x1fa27cf8, 0xc4ac5665,
  0xf4292244, 0x432aff97, 0xab9423a7, 0xfc93a039, 0x655b59c3, 0x8f0ccc92, 0xffeff47d, 0x85845dd1,
  0x6fa87e4f, 0xfe2ce6e0, 0xa3014314, 0x4e0811a1, 0xf7537e82, 0xbd3af235, 0x2ad7d2bb, 0xeb86d391]

/-- How far MD5 turns a word in a round. -/
def md5Turn (i : Nat) : Nat :=
  let row := if i < 16 then [7, 12, 17, 22] else if i < 32 then [5, 9, 14, 20]
    else if i < 48 then [4, 11, 16, 23] else [6, 10, 15, 21]
  (row[i % 4]?).getD 0

/-- Takes a block into the four words of a digest. -/
def absorb5 (state : List Nat) (block : List UInt8) : List Nat :=
  let w := ((chunks 4 16 block).map fun b => numberOf b.reverse).toArray
  let final := (List.range 64).foldl (fun s i => match s with
    | [a, b, c, d] =>
      let (f, g) :=
        if i < 16 then ((b &&& c) ||| (word32.flip b &&& d), i)
        else if i < 32 then ((d &&& b) ||| (word32.flip d &&& c), (5 * i + 1) % 16)
        else if i < 48 then (b ^^^ c ^^^ d, (3 * i + 5) % 16)
        else (c ^^^ (b ||| word32.flip d), 7 * i % 16)
      let sum := (a + f + (md5Keys[i]?).getD 0 + (w[g]?).getD 0) % word32.count
      [d, word32.add b (word32.left sum (md5Turn i)), b, c]
    | s => s) state
  (state.zip final).map fun (a, b) => word32.add a b

/-- MD5. -/
def md5 (bytes : List UInt8) : List UInt8 :=
  ((blocksOf 64 8 false bytes).foldl absorb5 [0x67452301, 0xefcdab89, 0x98badcfe, 0x10325476]).flatMap fun w =>
    (bytesOf 4 w).reverse

/-! ## Checks -/

/-- Takes a byte into a cyclic check. -/
def cyclicStep (check : Nat) (b : UInt8) : Nat :=
  (List.range 8).foldl (fun c _ =>
    let doubled := c * 2 % word32.count
    if c < 0x80000000 then doubled else doubled ^^^ 0x04c11db7) (check ^^^ (b.toNat <<< 24))

/-- The cyclic check of a text and of its size behind it. -/
def cyclicCheck (bytes : List UInt8) : Nat :=
  let size := bytesOf 8 bytes.length |>.dropWhile (· == 0)
  word32.flip ((bytes ++ size.reverse).foldl cyclicStep 0)

/-- A sum of 16 bits that is turned to the right before each byte is added. -/
def turningSum (bytes : List UInt8) : Nat :=
  bytes.foldl (fun s b => (s / 2 + s % 2 * 32768 + b.toNat) % 65536) 0

/-- A sum of all bytes, of which what does not fit into 16 bits is added at the other end. -/
def plainSum (bytes : List UInt8) : Nat :=
  let sum := (bytes.foldl (fun s b => s + b.toNat) 0) % word32.count
  let once := sum % 65536 + sum / 65536
  once % 65536 + once / 65536

end BatchRunner.Text.Digest
