import DesktopRefresh.Bytes

/-!
# Digests

Short numbers that stand for long texts. A text is filled up to whole blocks, its length last, and each block
changes a row of words. The constants of the newer digests are the first bits behind the point of square and
cube roots of the first primes.
-/

namespace DesktopRefresh.Digest

/-! ## Numbers as bytes -/

/-- The bytes of a number, the highest first. -/
def bigEndian (count n : Nat) : Bytes := (List.range count).map fun i => (n / 256 ^ (count - 1 - i)).toUInt8

/-- The bytes of a number, the lowest first. -/
def littleEndian (count n : Nat) : Bytes := (List.range count).map fun i => (n / 256 ^ i).toUInt8

def ofBigEndian (bs : Bytes) : Nat := bs.foldl (fun n b => n * 256 + b.toNat) 0

def ofLittleEndian (bs : Bytes) : Nat := ofBigEndian bs.reverse

/-- Cuts into parts of one length; the last one can be shorter. -/
def chunks (size : Nat) : (count : Nat) → Bytes → List Bytes
  | 0, _ => []
  | count + 1, bs => if bs.isEmpty then [] else bs.take size :: chunks size count (bs.drop size)

/-- Fills a text up to whole blocks, with its length in bits at the end. -/
def padded (block lengthSize : Nat) (encode : Nat → Nat → Bytes) (bs : Bytes) : Bytes :=
  let used := (bs.length + 1 + lengthSize) % block
  let zeros := if used = 0 then 0 else block - used
  bs ++ 0x80 :: List.replicate zeros 0 ++ encode lengthSize (bs.length * 8)

def blocks (block lengthSize : Nat) (encode : Nat → Nat → Bytes) (bs : Bytes) : List Bytes :=
  let full := padded block lengthSize encode bs
  chunks block (full.length / block) full

/-! ## Constants -/

def isPrime (n : Nat) : Bool := 2 ≤ n && (List.range n).all fun d => d < 2 || n % d != 0

/-- More numbers than the first eighty primes are found among. -/
def primes : List Nat := (List.range 410).filter isPrime

/-- The greatest number whose power is not too large, found bit by bit. -/
def root (power target : Nat) : (bits : Nat) → (seen : Nat) → Nat
  | 0, seen => seen
  | bits + 1, seen =>
    let next := seen + 2 ^ bits
    root power target bits (if next ^ power ≤ target then next else seen)

/-- So many bits behind the point of a root. -/
def rootBits (power bits n : Nat) : Nat := root power (n * 2 ^ (power * bits)) (bits + 8) 0 % 2 ^ bits

/-! ## Digests of words with 32 bits -/

def rotate32 (x : UInt32) (n : UInt32) : UInt32 := (x <<< n) ||| (x >>> (32 - n))

def word (xs : Array UInt32) (i : Nat) : UInt32 := xs.getD i 0

/-- The sines of the first numbers without their signs, each times two to the power of 32. -/
def sines : Array UInt32 := #[
  0xd76aa478, 0xe8c7b756, 0x242070db, 0xc1bdceee, 0xf57c0faf, 0x4787c62a, 0xa8304613, 0xfd469501,
  0x698098d8, 0x8b44f7af, 0xffff5bb1, 0x895cd7be, 0x6b901122, 0xfd987193, 0xa679438e, 0x49b40821,
  0xf61e2562, 0xc040b340, 0x265e5a51, 0xe9b6c7aa, 0xd62f105d, 0x02441453, 0xd8a1e681, 0xe7d3fbc8,
  0x21e1cde6, 0xc33707d6, 0xf4d50d87, 0x455a14ed, 0xa9e3e905, 0xfcefa3f8, 0x676f02d9, 0x8d2a4c8a,
  0xfffa3942, 0x8771f681, 0x6d9d6122, 0xfde5380c, 0xa4beea44, 0x4bdecfa9, 0xf6bb4b60, 0xbebfbc70,
  0x289b7ec6, 0xeaa127fa, 0xd4ef3085, 0x04881d05, 0xd9d4d039, 0xe6db99e5, 0x1fa27cf8, 0xc4ac5665,
  0xf4292244, 0x432aff97, 0xab9423a7, 0xfc93a039, 0x655b59c3, 0x8f0ccc92, 0xffeff47d, 0x85845dd1,
  0x6fa87e4f, 0xfe2ce6e0, 0xa3014314, 0x4e0811a1, 0xf7537e82, 0xbd3af235, 0x2ad7d2bb, 0xeb86d391]

def shifts : Array (Array UInt32) := #[#[7, 12, 17, 22], #[5, 9, 14, 20], #[4, 11, 16, 23], #[6, 10, 15, 21]]

structure FourWords where
  a : UInt32
  b : UInt32
  c : UInt32
  d : UInt32

def md5Round (block : Array UInt32) (s : FourWords) (i : Nat) : FourWords :=
  let (f, g) := match i / 16 with
    | 0 => ((s.b &&& s.c) ||| (~~~s.b &&& s.d), i)
    | 1 => ((s.d &&& s.b) ||| (~~~s.d &&& s.c), (5 * i + 1) % 16)
    | 2 => (s.b ^^^ s.c ^^^ s.d, (3 * i + 5) % 16)
    | _ => (s.c ^^^ (s.b ||| ~~~s.d), 7 * i % 16)
  let turned := rotate32 (s.a + f + word sines i + word block g) (word (shifts.getD (i / 16) #[]) (i % 4))
  ⟨s.d, s.b + turned, s.b, s.c⟩

def md5 (bs : Bytes) : Bytes :=
  let step (s : FourWords) (block : Bytes) : FourWords :=
    let ws := ((chunks 4 16 block).map fun w => (ofLittleEndian w).toUInt32).toArray
    let e := (List.range 64).foldl (md5Round ws) s
    ⟨s.a + e.a, s.b + e.b, s.c + e.c, s.d + e.d⟩
  let e := (blocks 64 8 littleEndian bs).foldl step ⟨0x67452301, 0xEFCDAB89, 0x98BADCFE, 0x10325476⟩
  [e.a, e.b, e.c, e.d].flatMap fun w => littleEndian 4 w.toNat

structure FiveWords where
  a : UInt32
  b : UInt32
  c : UInt32
  d : UInt32
  e : UInt32

def sha1Round (ws : Array UInt32) (s : FiveWords) (i : Nat) : FiveWords :=
  let (f, k) : UInt32 × UInt32 := match i / 20 with
    | 0 => ((s.b &&& s.c) ||| (~~~s.b &&& s.d), 0x5A827999)
    | 1 => (s.b ^^^ s.c ^^^ s.d, 0x6ED9EBA1)
    | 2 => ((s.b &&& s.c) ||| (s.b &&& s.d) ||| (s.c &&& s.d), 0x8F1BBCDC)
    | _ => (s.b ^^^ s.c ^^^ s.d, 0xCA62C1D6)
  ⟨rotate32 s.a 5 + f + s.e + k + word ws i, s.a, rotate32 s.b 30, s.c, s.d⟩

/-- More words from those of a block. -/
def extend (count : Nat) (next : Array UInt32 → Nat → UInt32) (block : Bytes) : Array UInt32 :=
  let ws := ((chunks 4 16 block).map fun w => (ofBigEndian w).toUInt32).toArray
  (List.range (count - 16)).foldl (fun ws i => ws.push (next ws (i + 16))) ws

def sha1 (bs : Bytes) : Bytes :=
  let next (ws : Array UInt32) (i : Nat) : UInt32 :=
    rotate32 (word ws (i - 3) ^^^ word ws (i - 8) ^^^ word ws (i - 14) ^^^ word ws (i - 16)) 1
  let step (s : FiveWords) (block : Bytes) : FiveWords :=
    let r := (List.range 80).foldl (sha1Round (extend 80 next block)) s
    ⟨s.a + r.a, s.b + r.b, s.c + r.c, s.d + r.d, s.e + r.e⟩
  let r := (blocks 64 8 bigEndian bs).foldl step ⟨0x67452301, 0xEFCDAB89, 0x98BADCFE, 0x10325476, 0xC3D2E1F0⟩
  [r.a, r.b, r.c, r.d, r.e].flatMap fun w => bigEndian 4 w.toNat

/-! ## Digests of eight words -/

/-- A row of eight words of some kind. -/
structure EightWords (α : Type) where
  a : α
  b : α
  c : α
  d : α
  e : α
  f : α
  g : α
  h : α

def EightWords.zipWith {α : Type} (op : α → α → α) (x y : EightWords α) : EightWords α :=
  ⟨op x.a y.a, op x.b y.b, op x.c y.c, op x.d y.d, op x.e y.e, op x.f y.f, op x.g y.g, op x.h y.h⟩

def EightWords.toList {α : Type} (x : EightWords α) : List α := [x.a, x.b, x.c, x.d, x.e, x.f, x.g, x.h]

def EightWords.ofList {α : Type} (zero : α) (xs : List α) : EightWords α :=
  let at' (i : Nat) : α := xs.getD i zero
  ⟨at' 0, at' 1, at' 2, at' 3, at' 4, at' 5, at' 6, at' 7⟩

/-- What sets digests of words with 32 and with 64 bits apart. -/
structure WordKind (α : Type) [Add α] [AndOp α] [OrOp α] [XorOp α] [Complement α] where
  bits : Nat
  rounds : Nat
  ofNat : Nat → α
  toNat : α → Nat
  turn : α → Nat → α
  shift : α → Nat → α
  /-- How far words are turned: in the rounds, for two words each, and where words are made from others. -/
  first : Nat × Nat × Nat
  second : Nat × Nat × Nat
  early : Nat × Nat × Nat
  late : Nat × Nat × Nat

section
variable {α : Type} [Add α] [AndOp α] [OrOp α] [XorOp α] [Complement α] (k : WordKind α)

def WordKind.mixed (t : Nat × Nat × Nat) (x : α) : α := k.turn x t.1 ^^^ k.turn x t.2.1 ^^^ k.turn x t.2.2

def WordKind.shifted (t : Nat × Nat × Nat) (x : α) : α := k.turn x t.1 ^^^ k.turn x t.2.1 ^^^ k.shift x t.2.2

def WordKind.schedule (block : Bytes) : Array α :=
  let ws := ((chunks (k.bits / 8) 16 block).map fun w => k.ofNat (ofBigEndian w)).toArray
  let at' (ws : Array α) (i : Nat) : α := ws.getD i (k.ofNat 0)
  (List.range (k.rounds - 16)).foldl (fun ws i =>
    ws.push (at' ws i + k.shifted k.early (at' ws (i + 1)) + at' ws (i + 9) + k.shifted k.late (at' ws (i + 14)))) ws

def WordKind.round (s : EightWords α) (t : α × α) : EightWords α :=
  let choice := (s.e &&& s.f) ^^^ (~~~s.e &&& s.g)
  let majority := (s.a &&& s.b) ^^^ (s.a &&& s.c) ^^^ (s.b &&& s.c)
  let x := s.h + k.mixed k.second s.e + choice + t.1 + t.2
  let y := k.mixed k.first s.a + majority
  ⟨x + y, s.a, s.b, s.c, s.d + x, s.e, s.f, s.g⟩

def WordKind.digest (start : EightWords α) (bs : Bytes) : Bytes :=
  let constants := (primes.take k.rounds).map fun p => k.ofNat (rootBits 3 k.bits p)
  let size := k.bits / 8
  let step (s : EightWords α) (block : Bytes) : EightWords α :=
    s.zipWith (· + ·) ((constants.zip (k.schedule block).toList).foldl k.round s)
  let e := (blocks (16 * size) (2 * size) bigEndian bs).foldl step start
  e.toList.flatMap fun w => bigEndian size (k.toNat w)

end

def words32 : WordKind UInt32 where
  bits := 32
  rounds := 64
  ofNat := Nat.toUInt32
  toNat := UInt32.toNat
  turn x n := rotate32 x (32 - n.toUInt32)
  shift x n := x >>> n.toUInt32
  first := (2, 13, 22)
  second := (6, 11, 25)
  early := (7, 18, 3)
  late := (17, 19, 10)

def words64 : WordKind UInt64 where
  bits := 64
  rounds := 80
  ofNat := Nat.toUInt64
  toNat := UInt64.toNat
  turn x n := (x >>> n.toUInt64) ||| (x <<< (64 - n.toUInt64))
  shift x n := x >>> n.toUInt64
  first := (28, 34, 39)
  second := (14, 18, 41)
  early := (1, 8, 7)
  late := (19, 61, 6)

/-- The starts of the shorter digests come from the second eight primes. -/
def laterRoots : List Nat := ((primes.drop 8).take 8).map (rootBits 2 64)

def sha256 (bs : Bytes) : Bytes :=
  words32.digest (.ofList 0 ((primes.take 8).map fun p => (rootBits 2 32 p).toUInt32)) bs

def sha224 (bs : Bytes) : Bytes := (words32.digest (.ofList 0 (laterRoots.map Nat.toUInt32)) bs).take 28

def sha512 (bs : Bytes) : Bytes :=
  words64.digest (.ofList 0 ((primes.take 8).map fun p => (rootBits 2 64 p).toUInt64)) bs

def sha384 (bs : Bytes) : Bytes := (words64.digest (.ofList 0 (laterRoots.map Nat.toUInt64)) bs).take 48

/-! ## Remainders -/

/-- Divides bit by bit. -/
def remainderBits : (bits : Nat) → UInt32 → UInt32
  | 0, r => r
  | bits + 1, r => remainderBits bits (if r &&& 0x80000000 != 0 then (r <<< 1) ^^^ 0x04C11DB7 else r <<< 1)

/-- The remainders of single bytes. -/
def remainders : Array UInt32 := ((List.range 256).map fun n => remainderBits 8 (Nat.toUInt32 n <<< (24 : UInt32))).toArray

/-- The remainder of a text and its length, divided as polynomials of bits. -/
def cyclic (bs : Bytes) : UInt32 :=
  let table := remainders
  let step (r : UInt32) (b : UInt8) : UInt32 := (r <<< 8) ^^^ word table ((r >>> 24) ^^^ b.toUInt32).toNat
  let length := (littleEndian 8 bs.length).reverse.dropWhile (· == 0)
  ~~~((length.reverse).foldl step (bs.foldl step 0))

/-- A sum that is turned by one bit for each byte. -/
def turnedSum (bs : Bytes) : Nat :=
  bs.foldl (fun n b => (n / 2 + n % 2 * 32768 + b.toNat) % 65536) 0

/-- A sum whose high half is added to the low one. -/
def foldedSum (bs : Bytes) : Nat :=
  let n := bs.foldl (fun n b => (n + b.toNat) % 2 ^ 32) 0
  let m := n % 65536 + n / 65536
  m % 65536 + m / 65536

end DesktopRefresh.Digest
