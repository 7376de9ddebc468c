/-!
# Digests

The SHA-256 digest of bytes: the bytes are padded to blocks of 64, and each block is mixed into eight
words of state over 64 rounds.
-/

namespace FieldRules.Digest

/-- The eight words that the state starts with. -/
def initialState : List UInt32 :=
  [0x6a09e667, 0xbb67ae85, 0x3c6ef372, 0xa54ff53a, 0x510e527f, 0x9b05688c, 0x1f83d9ab, 0x5be0cd19]

/-- The word that is added in each round. -/
def roundWords : List UInt32 :=
  [0x428a2f98, 0x71374491, 0xb5c0fbcf, 0xe9b5dba5, 0x3956c25b, 0x59f111f1, 0x923f82a4, 0xab1c5ed5,
    0xd807aa98, 0x12835b01, 0x243185be, 0x550c7dc3, 0x72be5d74, 0x80deb1fe, 0x9bdc06a7, 0xc19bf174,
    0xe49b69c1, 0xefbe4786, 0x0fc19dc6, 0x240ca1cc, 0x2de92c6f, 0x4a7484aa, 0x5cb0a9dc, 0x76f988da,
    0x983e5152, 0xa831c66d, 0xb00327c8, 0xbf597fc7, 0xc6e00bf3, 0xd5a79147, 0x06ca6351, 0x14292967,
    0x27b70a85, 0x2e1b2138, 0x4d2c6dfc, 0x53380d13, 0x650a7354, 0x766a0abb, 0x81c2c92e, 0x92722c85,
    0xa2bfe8a1, 0xa81a664b, 0xc24b8b70, 0xc76c51a3, 0xd192e819, 0xd6990624, 0xf40e3585, 0x106aa070,
    0x19a4c116, 0x1e376c08, 0x2748774c, 0x34b0bcb5, 0x391c0cb3, 0x4ed8aa4a, 0x5b9cca4f, 0x682e6ff3,
    0x748f82ee, 0x78a5636f, 0x84c87814, 0x8cc70208, 0x90befffa, 0xa4506ceb, 0xbef9a3f7, 0xc67178f2]

/-- The bytes of a number, the most significant one first. -/
def bigEndian : Nat → Nat → List UInt8
  | 0, _ => []
  | count + 1, n => (n >>> (8 * count)).toUInt8 :: bigEndian count n

/-- The bytes with a one bit, zeros and their length in bits behind them, to a multiple of 64. -/
def pad (bytes : List UInt8) : List UInt8 :=
  let zeros := (119 - bytes.length % 64) % 64
  bytes ++ [0x80] ++ List.replicate zeros 0 ++ bigEndian 8 (8 * bytes.length)

/-- The words that bytes stand for, four by four. -/
def words : List UInt8 → List UInt32
  | a :: b :: c :: d :: rest =>
    ((a.toUInt32 <<< 24) ||| (b.toUInt32 <<< 16) ||| (c.toUInt32 <<< 8) ||| d.toUInt32) :: words rest
  | _ => []

/-- A word with its bits turned to the right. -/
def turn (x : UInt32) (n : UInt32) : UInt32 :=
  (x >>> n) ||| (x <<< (32 - n))

/-- The next word of a schedule, from the words before it, the last one first. -/
def nextWord (before : List UInt32) : UInt32 :=
  let at_ (i : Nat) : UInt32 := (before[i]?).getD 0
  let x := at_ 14
  let y := at_ 1
  let s := turn x 7 ^^^ turn x 18 ^^^ (x >>> 3)
  let t := turn y 17 ^^^ turn y 19 ^^^ (y >>> 10)
  at_ 15 + s + at_ 6 + t

/-- Puts further words before those of a schedule. -/
def extend : Nat → List UInt32 → List UInt32
  | 0, before => before
  | n + 1, before => extend n (nextWord before :: before)

/-- The words of all rounds for a block. -/
def schedule (block : List UInt32) : List UInt32 :=
  (extend 48 block.reverse).reverse

/-- One round. -/
def round (state : List UInt32) (k w : UInt32) : List UInt32 :=
  match state with
  | [a, b, c, d, e, f, g, h] =>
    let s1 := turn e 6 ^^^ turn e 11 ^^^ turn e 25
    let choice := (e &&& f) ^^^ (e.complement &&& g)
    let t1 := h + s1 + choice + k + w
    let s0 := turn a 2 ^^^ turn a 13 ^^^ turn a 22
    let majority := (a &&& b) ^^^ (a &&& c) ^^^ (b &&& c)
    [t1 + (s0 + majority), a, b, c, d + t1, e, f, g]
  | _ => state

/-- Mixes a block into the state. -/
def mix (state block : List UInt32) : List UInt32 :=
  let mixed := (roundWords.zip (schedule block)).foldl (fun s (k, w) => round s k w) state
  state.zipWith (· + ·) mixed

/-- Mixes all blocks into the state. -/
def mixAll : Nat → List UInt32 → List UInt32 → List UInt32
  | 0, state, _ => state
  | n + 1, state, ws => mixAll n (mix state (ws.take 16)) (ws.drop 16)

/-- The digest of bytes. -/
def digest (bytes : List UInt8) : List UInt8 :=
  let ws := words (pad bytes)
  (mixAll (ws.length / 16) initialState ws).flatMap fun w => bigEndian 4 w.toNat

end FieldRules.Digest
