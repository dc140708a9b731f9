/-!
The SHA-256 digest of a byte string, written in base sixteen.
-/

namespace ViewTemplate.Digest.Sha256

/-! ## Constants -/

/-- The first 32 bits of the fractional parts of the cube roots of the first 64 primes. -/
def roundConstants : List UInt32 := [
  0x428a2f98, 0x71374491, 0xb5c0fbcf, 0xe9b5dba5, 0x3956c25b, 0x59f111f1,
  0x923f82a4, 0xab1c5ed5, 0xd807aa98, 0x12835b01, 0x243185be, 0x550c7dc3,
  0x72be5d74, 0x80deb1fe, 0x9bdc06a7, 0xc19bf174, 0xe49b69c1, 0xefbe4786,
  0x0fc19dc6, 0x240ca1cc, 0x2de92c6f, 0x4a7484aa, 0x5cb0a9dc, 0x76f988da,
  0x983e5152, 0xa831c66d, 0xb00327c8, 0xbf597fc7, 0xc6e00bf3, 0xd5a79147,
  0x06ca6351, 0x14292967, 0x27b70a85, 0x2e1b2138, 0x4d2c6dfc, 0x53380d13,
  0x650a7354, 0x766a0abb, 0x81c2c92e, 0x92722c85, 0xa2bfe8a1, 0xa81a664b,
  0xc24b8b70, 0xc76c51a3, 0xd192e819, 0xd6990624, 0xf40e3585, 0x106aa070,
  0x19a4c116, 0x1e376c08, 0x2748774c, 0x34b0bcb5, 0x391c0cb3, 0x4ed8aa4a,
  0x5b9cca4f, 0x682e6ff3, 0x748f82ee, 0x78a5636f, 0x84c87814, 0x8cc70208,
  0x90befffa, 0xa4506ceb, 0xbef9a3f7, 0xc67178f2]

/-- The eight working words of the hash. -/
structure Words where
  a : UInt32
  b : UInt32
  c : UInt32
  d : UInt32
  e : UInt32
  f : UInt32
  g : UInt32
  h : UInt32

/-- The first 32 bits of the fractional parts of the square roots of the first eight primes. -/
def initialWords : Words :=
  ⟨0x6a09e667, 0xbb67ae85, 0x3c6ef372, 0xa54ff53a,
    0x510e527f, 0x9b05688c, 0x1f83d9ab, 0x5be0cd19⟩

/-! ## Message blocks -/

def rotate (word amount : UInt32) : UInt32 :=
  (word >>> amount) ||| (word <<< (32 - amount))

/-- The bytes of a number, `count` of them, most significant first. -/
def bigEndian (count number : Nat) : List UInt8 :=
  (List.range count).reverse.map fun place => UInt8.ofNat (number / Nat.pow 256 place)

/-- The message followed by a one bit, zeros and its length in bits, a multiple of 64 bytes. -/
def pad (message : List UInt8) : List UInt8 :=
  let zeros := (119 - message.length % 64) % 64
  message ++ 0x80 :: List.replicate zeros 0 ++ bigEndian 8 (8 * message.length)

def wordsOf : List UInt8 → List UInt32
  | a :: b :: c :: d :: rest =>
      (a.toUInt32 <<< 24 ||| b.toUInt32 <<< 16 ||| c.toUInt32 <<< 8 ||| d.toUInt32) ::
        wordsOf rest
  | _ => []

/-- Extends the schedule, held last word first, by the given number of words. -/
def extend : Nat → List UInt32 → List UInt32
  | 0, schedule => schedule
  | more + 1, schedule =>
      let word (back : Nat) : UInt32 := schedule.getD (back - 1) 0
      let low := rotate (word 15) 7 ^^^ rotate (word 15) 18 ^^^ (word 15 >>> 3)
      let high := rotate (word 2) 17 ^^^ rotate (word 2) 19 ^^^ (word 2 >>> 10)
      extend more ((word 16 + low + word 7 + high) :: schedule)

/-! ## Compression -/

/-- One round, with its constant and its word of the schedule. -/
def round (w : Words) (constant word : UInt32) : Words :=
  let sumE := rotate w.e 6 ^^^ rotate w.e 11 ^^^ rotate w.e 25
  let choice := (w.e &&& w.f) ^^^ (~~~w.e &&& w.g)
  let first := w.h + sumE + choice + constant + word
  let sumA := rotate w.a 2 ^^^ rotate w.a 13 ^^^ rotate w.a 22
  let majority := (w.a &&& w.b) ^^^ (w.a &&& w.c) ^^^ (w.b &&& w.c)
  ⟨first + sumA + majority, w.a, w.b, w.c, w.d + first, w.e, w.f, w.g⟩

def Words.add (left right : Words) : Words :=
  ⟨left.a + right.a, left.b + right.b, left.c + right.c, left.d + right.d,
    left.e + right.e, left.f + right.f, left.g + right.g, left.h + right.h⟩

/-- Takes one block of 64 bytes into the state. -/
def compress (state : Words) (block : List UInt8) : Words :=
  let schedule := (extend 48 (wordsOf block).reverse).reverse
  state.add <| (roundConstants.zip schedule).foldl
    (fun w (constant, word) => round w constant word) state

def compressAll : Nat → Words → List UInt8 → Words
  | 0, state, _ => state
  | blocks + 1, state, bytes =>
      compressAll blocks (compress state (bytes.take 64)) (bytes.drop 64)

def digest (message : List UInt8) : List UInt8 :=
  let padded := pad message
  let w := compressAll (padded.length / 64) initialWords padded
  [w.a, w.b, w.c, w.d, w.e, w.f, w.g, w.h].flatMap fun word => bigEndian 4 word.toNat

/-- A byte as two digits in base sixteen, in lower case. -/
def hexadecimal (byte : UInt8) : List Char :=
  [Nat.digitChar (byte.toNat / 16), Nat.digitChar (byte.toNat % 16)]

/-- The digest of the UTF-8 bytes of a text, in base sixteen. -/
def ofText (text : String) : String :=
  String.ofList ((digest text.toUTF8.toList).flatMap hexadecimal)

end ViewTemplate.Digest.Sha256
