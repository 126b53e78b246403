/-!
# Digests

The SHA-256 digest of a sequence of bytes, in lower-case hexadecimal.
-/

namespace TextRepair.Digest

/-- The first 32 bits of the fractions of the square roots of the first eight primes. -/
def initialState : Array UInt32 := #[
  0x6a09e667, 0xbb67ae85, 0x3c6ef372, 0xa54ff53a, 0x510e527f, 0x9b05688c, 0x1f83d9ab, 0x5be0cd19]

/-- The first 32 bits of the fractions of the cube roots of the first 64 primes. -/
def roundConstants : List UInt32 := [
  0x428a2f98, 0x71374491, 0xb5c0fbcf, 0xe9b5dba5, 0x3956c25b, 0x59f111f1, 0x923f82a4, 0xab1c5ed5,
  0xd807aa98, 0x12835b01, 0x243185be, 0x550c7dc3, 0x72be5d74, 0x80deb1fe, 0x9bdc06a7, 0xc19bf174,
  0xe49b69c1, 0xefbe4786, 0x0fc19dc6, 0x240ca1cc, 0x2de92c6f, 0x4a7484aa, 0x5cb0a9dc, 0x76f988da,
  0x983e5152, 0xa831c66d, 0xb00327c8, 0xbf597fc7, 0xc6e00bf3, 0xd5a79147, 0x06ca6351, 0x14292967,
  0x27b70a85, 0x2e1b2138, 0x4d2c6dfc, 0x53380d13, 0x650a7354, 0x766a0abb, 0x81c2c92e, 0x92722c85,
  0xa2bfe8a1, 0xa81a664b, 0xc24b8b70, 0xc76c51a3, 0xd192e819, 0xd6990624, 0xf40e3585, 0x106aa070,
  0x19a4c116, 0x1e376c08, 0x2748774c, 0x34b0bcb5, 0x391c0cb3, 0x4ed8aa4a, 0x5b9cca4f, 0x682e6ff3,
  0x748f82ee, 0x78a5636f, 0x84c87814, 0x8cc70208, 0x90befffa, 0xa4506ceb, 0xbef9a3f7, 0xc67178f2]

/-- A word turned right by `n` bits. -/
def rotate (x : UInt32) (n : UInt32) : UInt32 :=
  (x >>> n) ||| (x <<< (32 - n))

/-- The big-endian bytes of a 64-bit number. -/
def bytes64 (n : Nat) : List UInt8 :=
  (List.range 8).map fun i => UInt8.ofNat (n / Nat.pow 256 (7 - i) % 256)

/-- The bytes that fill up a message of `size` bytes to whole blocks: a one bit, zeros, the size. -/
def padding (size : Nat) : List UInt8 :=
  0x80 :: List.replicate ((119 - size % 64) % 64) 0 ++ bytes64 (8 * size)

/-- The big-endian words of a sequence of bytes. -/
def words : List UInt8 → List UInt32
  | a :: b :: c :: d :: rest =>
    ((a.toUInt32 <<< 24) ||| (b.toUInt32 <<< 16) ||| (c.toUInt32 <<< 8) ||| d.toUInt32) :: words rest
  | _ => []

/-- The next word of a schedule, from the words before it. -/
def nextWord (schedule : Array UInt32) : UInt32 :=
  let word (back : Nat) : UInt32 := schedule.getD (schedule.size - back) 0
  let x := word 15
  let y := word 2
  let s0 := rotate x 7 ^^^ rotate x 18 ^^^ (x >>> 3)
  let s1 := rotate y 17 ^^^ rotate y 19 ^^^ (y >>> 10)
  word 16 + s0 + word 7 + s1

/-- The 64 words of the schedule of a block. -/
def schedule (block : List UInt32) : Array UInt32 :=
  (List.range 48).foldl (fun words _ => words.push (nextWord words)) block.toArray

/-- One round. -/
def round (state : Array UInt32) (input : UInt32 × UInt32) : Array UInt32 :=
  let entry (i : Nat) : UInt32 := state.getD i 0
  let a := entry 0
  let e := entry 4
  let s1 := rotate e 6 ^^^ rotate e 11 ^^^ rotate e 25
  let choice := (e &&& entry 5) ^^^ (~~~e &&& entry 6)
  let t1 := entry 7 + s1 + choice + input.1 + input.2
  let s0 := rotate a 2 ^^^ rotate a 13 ^^^ rotate a 22
  let majority := (a &&& entry 1) ^^^ (a &&& entry 2) ^^^ (entry 1 &&& entry 2)
  #[t1 + (s0 + majority), a, entry 1, entry 2, entry 3 + t1, e, entry 5, entry 6]

/-- The state after a block. -/
def compress (state : Array UInt32) (block : List UInt32) : Array UInt32 :=
  let mixed := (roundConstants.zip (schedule block).toList).foldl round state
  Array.zipWith (· + ·) state mixed

/-- The state after the blocks of a sequence of words, at most `count` of them. -/
def absorb (state : Array UInt32) : (count : Nat) → List UInt32 → Array UInt32
  | 0, _ => state
  | count + 1, ws => absorb (compress state (ws.take 16)) count (ws.drop 16)

/-- A word in eight hexadecimal digits. -/
def hexWord (w : UInt32) : List Char :=
  let digits := Nat.toDigits 16 w.toNat
  List.replicate (8 - digits.length) '0' ++ digits

/-- The digest of a sequence of bytes. -/
def ofBytes (data : List UInt8) : String :=
  let input := words (data ++ padding data.length)
  let state := absorb initialState (input.length / 16) input
  String.ofList (state.toList.flatMap hexWord)

/-- The digest of a text in UTF-8. -/
def ofText (text : String) : String :=
  ofBytes text.toUTF8.toList

/-- The first twelve digits of a digest. -/
def short (digest : String) : String :=
  String.ofList (digest.toList.take 12)

end TextRepair.Digest
