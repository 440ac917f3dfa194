import FlowLogic.Text.Digit

/-!
The MD5 digest of a text: 64 steps over each block of 64 bytes, on four words of 32 bits.
-/

namespace FlowLogic.Text.Digest

/-- The whole parts of `2 ^ 32 * |sin (i + 1)|`. -/
def sines : List UInt32 :=
  [0xd76aa478, 0xe8c7b756, 0x242070db, 0xc1bdceee, 0xf57c0faf, 0x4787c62a, 0xa8304613, 0xfd469501,
   0x698098d8, 0x8b44f7af, 0xffff5bb1, 0x895cd7be, 0x6b901122, 0xfd987193, 0xa679438e, 0x49b40821,
   0xf61e2562, 0xc040b340, 0x265e5a51, 0xe9b6c7aa, 0xd62f105d, 0x02441453, 0xd8a1e681, 0xe7d3fbc8,
   0x21e1cde6, 0xc33707d6, 0xf4d50d87, 0x455a14ed, 0xa9e3e905, 0xfcefa3f8, 0x676f02d9, 0x8d2a4c8a,
   0xfffa3942, 0x8771f681, 0x6d9d6122, 0xfde5380c, 0xa4beea44, 0x4bdecfa9, 0xf6bb4b60, 0xbebfbc70,
   0x289b7ec6, 0xeaa127fa, 0xd4ef3085, 0x04881d05, 0xd9d4d039, 0xe6db99e5, 0x1fa27cf8, 0xc4ac5665,
   0xf4292244, 0x432aff97, 0xab9423a7, 0xfc93a039, 0x655b59c3, 0x8f0ccc92, 0xffeff47d, 0x85845dd1,
   0x6fa87e4f, 0xfe2ce6e0, 0xa3014314, 0x4e0811a1, 0xf7537e82, 0xbd3af235, 0x2ad7d2bb, 0xeb86d391]

/-- How far each step rotates: four amounts for each of the four rounds, in turn. -/
def rotations : List (List UInt32) :=
  [[7, 12, 17, 22], [5, 9, 14, 20], [4, 11, 16, 23], [6, 10, 15, 21]]

structure State where
  a : UInt32
  b : UInt32
  c : UInt32
  d : UInt32

def start : State := ⟨0x67452301, 0xefcdab89, 0x98badcfe, 0x10325476⟩

def rotateLeft (x amount : UInt32) : UInt32 := (x <<< amount) ||| (x >>> (32 - amount))

def mixing (step : Nat) (s : State) : UInt32 × Nat :=
  match step / 16 with
  | 0 => ((s.b &&& s.c) ||| (~~~s.b &&& s.d), step)
  | 1 => ((s.d &&& s.b) ||| (~~~s.d &&& s.c), (5 * step + 1) % 16)
  | 2 => (s.b ^^^ s.c ^^^ s.d, (3 * step + 5) % 16)
  | _ => (s.c ^^^ (s.b ||| ~~~s.d), 7 * step % 16)

def advance (words : List UInt32) (s : State) (entry : UInt32 × Nat) : State :=
  let (sine, step) := entry
  let (mixed, word) := mixing step s
  let amount := (rotations.getD (step / 16) []).getD (step % 4) 0
  let sum := s.a + mixed + sine + words.getD word 0
  ⟨s.d, s.b + rotateLeft sum amount, s.b, s.c⟩

def absorb (s : State) (words : List UInt32) : State :=
  let t := sines.zipIdx.foldl (advance words) s
  ⟨s.a + t.a, s.b + t.b, s.c + t.c, s.d + t.d⟩

def littleEndian : (count n : Nat) → List UInt8
  | 0, _ => []
  | count + 1, n => UInt8.ofNat (n % 256) :: littleEndian count (n / 256)

/-- The message, a one bit, zeros up to a whole block, and in its last bytes the length in bits. -/
def padded (message : List UInt8) : List UInt8 :=
  message ++ 0x80 :: List.replicate ((119 - message.length % 64) % 64) 0
    ++ littleEndian 8 (message.length * 8)

def words : List UInt8 → List UInt32
  | p :: q :: r :: s :: rest =>
    (p.toUInt32 ||| (q.toUInt32 <<< 8) ||| (r.toUInt32 <<< 16) ||| (s.toUInt32 <<< 24))
      :: words rest
  | _ => []

def blocks : (fuel : Nat) → List UInt32 → List (List UInt32)
  | fuel + 1, words =>
    if words.isEmpty then [] else words.take 16 :: blocks fuel (words.drop 16)
  | 0, _ => []

def bytes (message : List UInt8) : List UInt8 :=
  let all := words (padded message)
  let s := (blocks all.length all).foldl absorb start
  [s.a, s.b, s.c, s.d].flatMap fun word => littleEndian 4 word.toNat

def hex (text : String) : String :=
  String.ofList ((bytes text.toUTF8.toList).flatMap fun byte =>
    [hexDigit (byte.toNat / 16), hexDigit (byte.toNat % 16)])

end FlowLogic.Text.Digest
