import EnvRegistry.Shell.Utility.Basic

/-! # Digests

    A digest is a short number made from all bytes of a text.  The text is filled up to
    blocks, and every block changes some words, which are the digest at the end. -/

namespace EnvRegistry.Shell.Utility

open ShellM

namespace Digest

/-! ## Words and blocks -/

/-- A word with its bits moved round to the left. -/
def rotateLeft (x : UInt32) (n : UInt32) : UInt32 := (x <<< n) ||| (x >>> (32 - n))

/-- A word with its bits moved round to the right. -/
def rotateRight (x : UInt32) (n : UInt32) : UInt32 := (x >>> n) ||| (x <<< (32 - n))

/-- The bytes of a number, the last one first or the first one first. -/
def bytesOf (count : Nat) (lastFirst : Bool) (n : Nat) : List UInt8 :=
  let bytes := (List.range count).map fun i => UInt8.ofNat (n / Nat.pow 256 i)
  if lastFirst then bytes else bytes.reverse

/-- The word that four bytes make. -/
def wordOf (lastFirst : Bool) (bytes : List UInt8) : UInt32 :=
  (if lastFirst then bytes.reverse else bytes).foldl (fun n b => n * 256 + b.toUInt32) 0

/-- Bytes with a mark, zeros and their number of bits after them, so that blocks of 64 are full. -/
def filled (lastFirst : Bool) (bytes : List UInt8) : List UInt8 :=
  let zeros := (119 - bytes.length % 64) % 64
  bytes ++ 0x80 :: List.replicate zeros 0 ++ bytesOf 8 lastFirst (8 * bytes.length)

/-- The words of some bytes. -/
def wordsOf (lastFirst : Bool) : (fuel : Nat) → List UInt8 → List UInt32
  | 0, _ => []
  | _, [] => []
  | fuel + 1, bytes => wordOf lastFirst (bytes.take 4) :: wordsOf lastFirst fuel (bytes.drop 4)

/-- Lists of sixteen words. -/
def blocksOf : (fuel : Nat) → List UInt32 → List (Array UInt32)
  | 0, _ => []
  | _, [] => []
  | fuel + 1, ws => (ws.take 16).toArray :: blocksOf fuel (ws.drop 16)

/-- The blocks of some bytes. -/
def blocks (lastFirst : Bool) (bytes : List UInt8) : List (Array UInt32) :=
  let bytes := filled lastFirst bytes
  blocksOf bytes.length (wordsOf lastFirst bytes.length bytes)

/-- Bytes in digits of base sixteen. -/
def hexText (bytes : List UInt8) : String :=
  String.join (bytes.map fun b =>
    let ds := Nat.toDigits 16 b.toNat
    String.ofList (List.replicate (2 - ds.length) '0' ++ ds))

/-- Words in digits of base sixteen. -/
def wordsText (lastFirst : Bool) (ws : List UInt32) : String :=
  hexText (ws.flatMap fun w => bytesOf 4 lastFirst w.toNat)

/-! ## Four words -/

/-- The constants of the steps for four words: parts of the sines of whole numbers. -/
def sines : Array UInt32 :=
  #[0xd76aa478, 0xe8c7b756, 0x242070db, 0xc1bdceee, 0xf57c0faf, 0x4787c62a, 0xa8304613, 0xfd469501,
    0x698098d8, 0x8b44f7af, 0xffff5bb1, 0x895cd7be, 0x6b901122, 0xfd987193, 0xa679438e, 0x49b40821,
    0xf61e2562, 0xc040b340, 0x265e5a51, 0xe9b6c7aa, 0xd62f105d, 0x02441453, 0xd8a1e681, 0xe7d3fbc8,
    0x21e1cde6, 0xc33707d6, 0xf4d50d87, 0x455a14ed, 0xa9e3e905, 0xfcefa3f8, 0x676f02d9, 0x8d2a4c8a,
    0xfffa3942, 0x8771f681, 0x6d9d6122, 0xfde5380c, 0xa4beea44, 0x4bdecfa9, 0xf6bb4b60, 0xbebfbc70,
    0x289b7ec6, 0xeaa127fa, 0xd4ef3085, 0x04881d05, 0xd9d4d039, 0xe6db99e5, 0x1fa27cf8, 0xc4ac5665,
    0xf4292244, 0x432aff97, 0xab9423a7, 0xfc93a039, 0x655b59c3, 0x8f0ccc92, 0xffeff47d, 0x85845dd1,
    0x6fa87e4f, 0xfe2ce6e0, 0xa3014314, 0x4e0811a1, 0xf7537e82, 0xbd3af235, 0x2ad7d2bb, 0xeb86d391]

/-- How far words are moved round in the steps for four words. -/
def turns : Array UInt32 := #[7, 12, 17, 22, 5, 9, 14, 20, 4, 11, 16, 23, 6, 10, 15, 21]

/-- The four words after a block. -/
def afterBlock4 (ws : UInt32 × UInt32 × UInt32 × UInt32) (block : Array UInt32) :
    UInt32 × UInt32 × UInt32 × UInt32 :=
  let (a, b, c, d) := (List.range 64).foldl (fun (a, b, c, d) i =>
    let round := i / 16
    let (f, k) : UInt32 × Nat := match round with
      | 0 => ((b &&& c) ||| (~~~b &&& d), i)
      | 1 => ((d &&& b) ||| (~~~d &&& c), (5 * i + 1) % 16)
      | 2 => (b ^^^ c ^^^ d, (3 * i + 5) % 16)
      | _ => (c ^^^ (b ||| ~~~d), (7 * i) % 16)
    let sum := a + f + sines.getD i 0 + block.getD k 0
    (d, b + rotateLeft sum (turns.getD (4 * round + i % 4) 0), b, c)) ws
  let (p, q, r, s) := ws
  (p + a, q + b, r + c, s + d)

/-- The digest of four words. -/
def four (bytes : List UInt8) : String :=
  let (a, b, c, d) := (blocks true bytes).foldl afterBlock4
    (0x67452301, 0xefcdab89, 0x98badcfe, 0x10325476)
  wordsText true [a, b, c, d]

/-! ## Five words -/

/-- A block with more words made from the first sixteen. -/
def extended (count : Nat) (next : Array UInt32 → Nat → UInt32) (block : Array UInt32) :
    Array UInt32 :=
  (List.range (count - 16)).foldl (fun ws i => ws.push (next ws (i + 16))) block

/-- The five words after a block. -/
def afterBlock5 (ws : List UInt32) (block : Array UInt32) : List UInt32 :=
  let w := extended 80 (fun w i =>
    let before (k : Nat) : UInt32 := w.getD (i - k) 0
    rotateLeft (before 3 ^^^ before 8 ^^^ before 14 ^^^ before 16) 1) block
  let after := (List.range 80).foldl (fun (ws : List UInt32) i =>
    match ws with
    | [a, b, c, d, e] =>
      let (f, k) : UInt32 × UInt32 := match i / 20 with
        | 0 => ((b &&& c) ||| (~~~b &&& d), 0x5a827999)
        | 1 => (b ^^^ c ^^^ d, 0x6ed9eba1)
        | 2 => ((b &&& c) ||| (b &&& d) ||| (c &&& d), 0x8f1bbcdc)
        | _ => (b ^^^ c ^^^ d, 0xca62c1d6)
      [rotateLeft a 5 + f + e + k + w.getD i 0, a, rotateLeft b 30, c, d]
    | ws => ws) ws
  (ws.zip after).map fun (x, y) => x + y

/-- The digest of five words. -/
def five (bytes : List UInt8) : String :=
  wordsText false ((blocks false bytes).foldl afterBlock5
    [0x67452301, 0xefcdab89, 0x98badcfe, 0x10325476, 0xc3d2e1f0])

/-! ## Eight words -/

/-- The constants of the steps for eight words: parts of the cube roots of primes. -/
def cubeRoots : Array UInt32 :=
  #[0x428a2f98, 0x71374491, 0xb5c0fbcf, 0xe9b5dba5, 0x3956c25b, 0x59f111f1, 0x923f82a4, 0xab1c5ed5,
    0xd807aa98, 0x12835b01, 0x243185be, 0x550c7dc3, 0x72be5d74, 0x80deb1fe, 0x9bdc06a7, 0xc19bf174,
    0xe49b69c1, 0xefbe4786, 0x0fc19dc6, 0x240ca1cc, 0x2de92c6f, 0x4a7484aa, 0x5cb0a9dc, 0x76f988da,
    0x983e5152, 0xa831c66d, 0xb00327c8, 0xbf597fc7, 0xc6e00bf3, 0xd5a79147, 0x06ca6351, 0x14292967,
    0x27b70a85, 0x2e1b2138, 0x4d2c6dfc, 0x53380d13, 0x650a7354, 0x766a0abb, 0x81c2c92e, 0x92722c85,
    0xa2bfe8a1, 0xa81a664b, 0xc24b8b70, 0xc76c51a3, 0xd192e819, 0xd6990624, 0xf40e3585, 0x106aa070,
    0x19a4c116, 0x1e376c08, 0x2748774c, 0x34b0bcb5, 0x391c0cb3, 0x4ed8aa4a, 0x5b9cca4f, 0x682e6ff3,
    0x748f82ee, 0x78a5636f, 0x84c87814, 0x8cc70208, 0x90befffa, 0xa4506ceb, 0xbef9a3f7, 0xc67178f2]

/-- The eight words after a block. -/
def afterBlock8 (ws : List UInt32) (block : Array UInt32) : List UInt32 :=
  let w := extended 64 (fun w i =>
    let before (k : Nat) : UInt32 := w.getD (i - k) 0
    let x := before 15
    let y := before 2
    let s := rotateRight x 7 ^^^ rotateRight x 18 ^^^ (x >>> 3)
    let t := rotateRight y 17 ^^^ rotateRight y 19 ^^^ (y >>> 10)
    before 16 + s + before 7 + t) block
  let after := (List.range 64).foldl (fun (ws : List UInt32) i =>
    match ws with
    | [a, b, c, d, e, f, g, h] =>
      let s := rotateRight e 6 ^^^ rotateRight e 11 ^^^ rotateRight e 25
      let chosen := (e &&& f) ^^^ (~~~e &&& g)
      let p := h + s + chosen + cubeRoots.getD i 0 + w.getD i 0
      let t := rotateRight a 2 ^^^ rotateRight a 13 ^^^ rotateRight a 22
      let most := (a &&& b) ^^^ (a &&& c) ^^^ (b &&& c)
      [p + t + most, a, b, c, d + p, e, f, g]
    | ws => ws) ws
  (ws.zip after).map fun (x, y) => x + y

/-- The digest of eight words. -/
def eight (bytes : List UInt8) : String :=
  wordsText false ((blocks false bytes).foldl afterBlock8
    [0x6a09e667, 0xbb67ae85, 0x3c6ef372, 0xa54ff53a, 0x510e527f, 0x9b05688c, 0x1f83d9ab,
      0x5be0cd19])

/-! ## Remainders -/

/-- The remainder after one more byte. -/
def afterByte (r : UInt32) (b : UInt8) : UInt32 :=
  (List.range 8).foldl (fun (r : UInt32) i =>
    let bit := ((r >>> 31) ^^^ ((b.toUInt32 >>> (7 - UInt32.ofNat i)) &&& 1)) &&& 1
    (r <<< 1) ^^^ (if bit = 1 then 0x04c11db7 else 0)) r

/-- The bytes of a number as far as there are any, the last one first. -/
def lengthBytes : (fuel : Nat) → Nat → List UInt8
  | 0, _ => []
  | fuel + 1, n => if n = 0 then [] else UInt8.ofNat n :: lengthBytes fuel (n / 256)

/-- The remainder of all bytes and their number. -/
def remainder (bytes : List UInt8) : Nat :=
  (~~~((bytes ++ lengthBytes 9 bytes.length).foldl afterByte 0)).toNat

end Digest

/-! ## Utilities -/

/-- Shows the digests of files. -/
def digests (name : String) (digest : List UInt8 → String) : Utility := fun args =>
  withOptions name 1 { plain := "btz", long := [("binary", 'b'), ("text", 't'), ("zero", 'z')] }
    args fun o =>
    onInputs name 1 o.operands fun path text => do
      let mark := if o.has 'b' then " *" else "  "
      say (digest (Raw.toBytes text) ++ mark ++ path ++ (if o.has 'z' then "\x00" else "\n"))
      return 0

/-- Shows the remainders and lengths of files. -/
def cksum : Utility := fun args =>
  withOptions "cksum" 1 { plain := "" } args fun o =>
    onInputs "cksum" 1 o.operands fun path text => do
      let bytes := Raw.toBytes text
      say (toString (Digest.remainder bytes) ++ " " ++ toString bytes.length ++
        (if o.operands.isEmpty then "" else " " ++ path) ++ "\n")
      return 0

end EnvRegistry.Shell.Utility
