import Mathlib.Data.Nat.Bits
import Mathlib.Tactic.Ring

/-!
# SHA-256 and SHA-1

The two hash functions, for running a model on fixed inputs. Bytes and words are natural numbers,
below `2 ^ 8` and `2 ^ 32`; a digest is the number its bytes stand for in big-endian order.
-/

namespace StateLib.SecureHash

def word (n : Nat) : Nat := n % 2 ^ 32

def rotr (k x : Nat) : Nat := word (x >>> k ||| x <<< (32 - k))

def rotl (k x : Nat) : Nat := word (x <<< k ||| x >>> (32 - k))

def choose (x y z : Nat) : Nat := (x &&& y) ^^^ ((2 ^ 32 - 1 - x) &&& z)

def majority (x y z : Nat) : Nat := (x &&& y) ^^^ (x &&& z) ^^^ (y &&& z)

/-- The last `k` bytes of a number. -/
def bytes : Nat → Nat → List Nat
  | 0, _ => []
  | k + 1, n => bytes k (n / 256) ++ [n % 256]

/-- A message filled up to a multiple of 64 bytes, with its length in bits at the end. -/
def padded (message : List Nat) : List Nat :=
  message ++ 0x80 :: List.replicate ((119 - message.length % 64) % 64) 0 ++
    bytes 8 (8 * message.length)

def words : List Nat → List Nat
  | a :: b :: c :: d :: rest => (((a * 256 + b) * 256 + c) * 256 + d) :: words rest
  | _ => []

/-- The number that words stand for. -/
def join (ws : List Nat) : Nat := ws.foldl (fun n w => 2 ^ 32 * n + w) 0

/-- The words of a message schedule, each of which is computed from the 16 before it. -/
def schedule (next : List Nat → Nat) : Nat → List Nat → List Nat
  | 0, _ => []
  | n + 1, window => window.headD 0 :: schedule next n (window.tail ++ [next window])

/-- The state after `n` blocks of 16 words; a round takes its constant and its word of the
schedule. -/
def blocks {κ : Type} (round : List Nat → κ × Nat → List Nat) (next : List Nat → Nat)
    (constants : List κ) : Nat → List Nat → List Nat → List Nat
  | 0, _, state => state
  | n + 1, ws, state =>
    let rounds := constants.zip (schedule next constants.length (ws.take 16))
    blocks round next constants n (ws.drop 16)
      (List.zipWith (fun x y => word (x + y)) state (rounds.foldl round state))

/-! ## SHA-256 -/

def constants256 : List Nat := [
  0x428a2f98, 0x71374491, 0xb5c0fbcf, 0xe9b5dba5, 0x3956c25b, 0x59f111f1, 0x923f82a4, 0xab1c5ed5,
  0xd807aa98, 0x12835b01, 0x243185be, 0x550c7dc3, 0x72be5d74, 0x80deb1fe, 0x9bdc06a7, 0xc19bf174,
  0xe49b69c1, 0xefbe4786, 0x0fc19dc6, 0x240ca1cc, 0x2de92c6f, 0x4a7484aa, 0x5cb0a9dc, 0x76f988da,
  0x983e5152, 0xa831c66d, 0xb00327c8, 0xbf597fc7, 0xc6e00bf3, 0xd5a79147, 0x06ca6351, 0x14292967,
  0x27b70a85, 0x2e1b2138, 0x4d2c6dfc, 0x53380d13, 0x650a7354, 0x766a0abb, 0x81c2c92e, 0x92722c85,
  0xa2bfe8a1, 0xa81a664b, 0xc24b8b70, 0xc76c51a3, 0xd192e819, 0xd6990624, 0xf40e3585, 0x106aa070,
  0x19a4c116, 0x1e376c08, 0x2748774c, 0x34b0bcb5, 0x391c0cb3, 0x4ed8aa4a, 0x5b9cca4f, 0x682e6ff3,
  0x748f82ee, 0x78a5636f, 0x84c87814, 0x8cc70208, 0x90befffa, 0xa4506ceb, 0xbef9a3f7, 0xc67178f2]

def start256 : List Nat := [
  0x6a09e667, 0xbb67ae85, 0x3c6ef372, 0xa54ff53a, 0x510e527f, 0x9b05688c, 0x1f83d9ab, 0x5be0cd19]

def next256 (window : List Nat) : Nat :=
  let x := window.getD 1 0
  let y := window.getD 14 0
  word (window.getD 0 0 + (rotr 7 x ^^^ rotr 18 x ^^^ x >>> 3) + window.getD 9 0 +
    (rotr 17 y ^^^ rotr 19 y ^^^ y >>> 10))

def round256 (state : List Nat) (input : Nat × Nat) : List Nat :=
  match state with
  | [a, b, c, d, e, f, g, h] =>
    let t := h + (rotr 6 e ^^^ rotr 11 e ^^^ rotr 25 e) + choose e f g + input.1 + input.2
    let u := (rotr 2 a ^^^ rotr 13 a ^^^ rotr 22 a) + majority a b c
    [word (t + u), a, b, c, word (d + t), e, f, g]
  | state => state

def sha256 (message : List Nat) : Nat :=
  let ws := words (padded message)
  join (blocks round256 next256 constants256 (ws.length / 16) ws start256)

-- the digest of "abc"
example : sha256 [97, 98, 99] =
    0xba7816bf8f01cfea414140de5dae2223b00361a396177a9cb410ff61f20015ad := by
  decide +kernel

/-! ## SHA-1 -/

/-- The function and the constant of each of the 80 rounds. -/
def constants1 : List ((Nat → Nat → Nat → Nat) × Nat) :=
  List.replicate 20 (choose, 0x5a827999) ++
    List.replicate 20 ((fun x y z => x ^^^ y ^^^ z), 0x6ed9eba1) ++
    List.replicate 20 (majority, 0x8f1bbcdc) ++
    List.replicate 20 ((fun x y z => x ^^^ y ^^^ z), 0xca62c1d6)

def start1 : List Nat := [0x67452301, 0xefcdab89, 0x98badcfe, 0x10325476, 0xc3d2e1f0]

def next1 (window : List Nat) : Nat :=
  rotl 1 (window.getD 13 0 ^^^ window.getD 8 0 ^^^ window.getD 2 0 ^^^ window.getD 0 0)

def round1 (state : List Nat) (input : ((Nat → Nat → Nat → Nat) × Nat) × Nat) : List Nat :=
  match state with
  | [a, b, c, d, e] =>
    [word (rotl 5 a + input.1.1 b c d + e + input.1.2 + input.2), a, rotl 30 b, c, d]
  | state => state

def sha1 (message : List Nat) : Nat :=
  let ws := words (padded message)
  join (blocks round1 next1 constants1 (ws.length / 16) ws start1)

-- the digest of "abc"
example : sha1 [97, 98, 99] = 0xa9993e364706816aba3e25717850c26c9cd0d89d := by decide +kernel

end StateLib.SecureHash
