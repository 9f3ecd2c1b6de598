import CellRunner.Tool.Options

/-!
# Checksums and digests

A digest is made from blocks of a message, to whose end its length is added.
-/

set_option autoImplicit false

namespace CellRunner.Tool

open Machine (Prog Bytes)
open Shell (Text toBytes ofBytes ofString asName)

namespace Digest

/-! ### Blocks -/

/-- A message with a one bit, zeros and its length in bits at the end, so that its length is a
multiple of `block`; the length takes up `room` bytes. -/
def padded (block room : Nat) (lowFirst : Bool) (bs : ByteArray) : ByteArray :=
  let n := bs.size
  let zeros := (2 * block - 1 - room - n % block) % block
  let bits := 8 * n
  let digits := (List.range room).map fun i => UInt8.ofNat (bits / Nat.pow 256 i)
  let digits := if lowFirst then digits else digits.reverse
  bs ++ ⟨(128 :: List.replicate zeros 0 ++ digits).toArray⟩

def word32 (bs : ByteArray) (i : Nat) (lowFirst : Bool) : UInt32 :=
  let b (j : Nat) : UInt32 := (bs.data.getD (i + j) 0).toUInt32
  if lowFirst then b 0 ||| (b 1 <<< 8) ||| (b 2 <<< 16) ||| (b 3 <<< 24)
  else b 3 ||| (b 2 <<< 8) ||| (b 1 <<< 16) ||| (b 0 <<< 24)

def word64 (bs : ByteArray) (i : Nat) : UInt64 :=
  (word32 bs i false).toUInt64 <<< 32 ||| (word32 bs (i + 4) false).toUInt64

def hex (width n : Nat) : Text :=
  let ds := Nat.toDigits 16 n
  List.replicate (width - ds.length) '0' ++ ds

def rotateLeft (x : UInt32) (n : UInt32) : UInt32 := (x <<< n) ||| (x >>> (32 - n))

def rotateRight (x : UInt32) (n : UInt32) : UInt32 := (x >>> n) ||| (x <<< (32 - n))

def rotateRight64 (x : UInt64) (n : UInt64) : UInt64 := (x >>> n) ||| (x <<< (64 - n))

/-- Goes over all blocks of a message. -/
def overBlocks {σ : Type} (block : Nat) (bs : ByteArray) (start : σ) (f : σ → Nat → σ) : σ :=
  (List.range (bs.size / block)).foldl (fun s i => f s (i * block)) start

/-! ### MD5 -/

def md5Shifts : Array UInt32 :=
  #[7, 12, 17, 22, 7, 12, 17, 22, 7, 12, 17, 22, 7, 12, 17, 22,
    5, 9, 14, 20, 5, 9, 14, 20, 5, 9, 14, 20, 5, 9, 14, 20,
    4, 11, 16, 23, 4, 11, 16, 23, 4, 11, 16, 23, 4, 11, 16, 23,
    6, 10, 15, 21, 6, 10, 15, 21, 6, 10, 15, 21, 6, 10, 15, 21]

def md5Constants : Array UInt32 :=
  #[0xd76aa478, 0xe8c7b756, 0x242070db, 0xc1bdceee, 0xf57c0faf, 0x4787c62a, 0xa8304613,
    0xfd469501, 0x698098d8, 0x8b44f7af, 0xffff5bb1, 0x895cd7be, 0x6b901122, 0xfd987193,
    0xa679438e, 0x49b40821, 0xf61e2562, 0xc040b340, 0x265e5a51, 0xe9b6c7aa, 0xd62f105d,
    0x02441453, 0xd8a1e681, 0xe7d3fbc8, 0x21e1cde6, 0xc33707d6, 0xf4d50d87, 0x455a14ed,
    0xa9e3e905, 0xfcefa3f8, 0x676f02d9, 0x8d2a4c8a, 0xfffa3942, 0x8771f681, 0x6d9d6122,
    0xfde5380c, 0xa4beea44, 0x4bdecfa9, 0xf6bb4b60, 0xbebfbc70, 0x289b7ec6, 0xeaa127fa,
    0xd4ef3085, 0x04881d05, 0xd9d4d039, 0xe6db99e5, 0x1fa27cf8, 0xc4ac5665, 0xf4292244,
    0x432aff97, 0xab9423a7, 0xfc93a039, 0x655b59c3, 0x8f0ccc92, 0xffeff47d, 0x85845dd1,
    0x6fa87e4f, 0xfe2ce6e0, 0xa3014314, 0x4e0811a1, 0xf7537e82, 0xbd3af235, 0x2ad7d2bb,
    0xeb86d391]

def md5Step (bs : ByteArray) (at_ : Nat) (s : UInt32 × UInt32 × UInt32 × UInt32) (i : Nat) :
    UInt32 × UInt32 × UInt32 × UInt32 :=
  let (a, b, c, d) := s
  let (f, g) :=
    if i < 16 then ((b &&& c) ||| (~~~b &&& d), i)
    else if i < 32 then ((d &&& b) ||| (~~~d &&& c), (5 * i + 1) % 16)
    else if i < 48 then (b ^^^ c ^^^ d, (3 * i + 5) % 16)
    else (c ^^^ (b ||| ~~~d), 7 * i % 16)
  let sum := f + a + md5Constants.getD i 0 + word32 bs (at_ + 4 * g) true
  (d, b + rotateLeft sum (md5Shifts.getD i 0), b, c)

def lowFirstHex (w : UInt32) : Text :=
  let n := w.toNat
  (List.range 4).flatMap fun i => hex 2 (n / Nat.pow 256 i % 256)

def md5 (message : ByteArray) : Text :=
  let bs := padded 64 8 true message
  let start : UInt32 × UInt32 × UInt32 × UInt32 := (0x67452301, 0xefcdab89, 0x98badcfe, 0x10325476)
  let (a, b, c, d) := overBlocks 64 bs start fun (a, b, c, d) at_ =>
    let (a', b', c', d') := (List.range 64).foldl (md5Step bs at_) (a, b, c, d)
    (a + a', b + b', c + c', d + d')
  lowFirstHex a ++ lowFirstHex b ++ lowFirstHex c ++ lowFirstHex d

/-! ### SHA-1 -/

/-- The words of a block and those that are made from them. -/
def expanded1 (bs : ByteArray) (at_ : Nat) : Array UInt32 :=
  let start := (Array.range 16).map fun i => word32 bs (at_ + 4 * i) false
  (List.range 64).foldl (fun w i =>
    let t := i + 16
    w.push (rotateLeft (w.getD (t - 3) 0 ^^^ w.getD (t - 8) 0 ^^^ w.getD (t - 14) 0 ^^^
      w.getD (t - 16) 0) 1)) start

def sha1Step (w : Array UInt32) (s : UInt32 × UInt32 × UInt32 × UInt32 × UInt32) (i : Nat) :
    UInt32 × UInt32 × UInt32 × UInt32 × UInt32 :=
  let (a, b, c, d, e) := s
  let (f, k) : UInt32 × UInt32 :=
    if i < 20 then ((b &&& c) ||| (~~~b &&& d), 0x5a827999)
    else if i < 40 then (b ^^^ c ^^^ d, 0x6ed9eba1)
    else if i < 60 then ((b &&& c) ||| (b &&& d) ||| (c &&& d), 0x8f1bbcdc)
    else (b ^^^ c ^^^ d, 0xca62c1d6)
  (rotateLeft a 5 + f + e + k + w.getD i 0, a, rotateLeft b 30, c, d)

def sha1 (message : ByteArray) : Text :=
  let bs := padded 64 8 false message
  let start : UInt32 × UInt32 × UInt32 × UInt32 × UInt32 :=
    (0x67452301, 0xefcdab89, 0x98badcfe, 0x10325476, 0xc3d2e1f0)
  let (a, b, c, d, e) := overBlocks 64 bs start fun (a, b, c, d, e) at_ =>
    let w := expanded1 bs at_
    let (a', b', c', d', e') := (List.range 80).foldl (sha1Step w) (a, b, c, d, e)
    (a + a', b + b', c + c', d + d', e + e')
  [a, b, c, d, e].flatMap fun x => hex 8 x.toNat

/-! ### SHA-2 -/

def sha256Constants : Array UInt32 :=
  #[0x428a2f98, 0x71374491, 0xb5c0fbcf, 0xe9b5dba5, 0x3956c25b, 0x59f111f1, 0x923f82a4,
    0xab1c5ed5, 0xd807aa98, 0x12835b01, 0x243185be, 0x550c7dc3, 0x72be5d74, 0x80deb1fe,
    0x9bdc06a7, 0xc19bf174, 0xe49b69c1, 0xefbe4786, 0x0fc19dc6, 0x240ca1cc, 0x2de92c6f,
    0x4a7484aa, 0x5cb0a9dc, 0x76f988da, 0x983e5152, 0xa831c66d, 0xb00327c8, 0xbf597fc7,
    0xc6e00bf3, 0xd5a79147, 0x06ca6351, 0x14292967, 0x27b70a85, 0x2e1b2138, 0x4d2c6dfc,
    0x53380d13, 0x650a7354, 0x766a0abb, 0x81c2c92e, 0x92722c85, 0xa2bfe8a1, 0xa81a664b,
    0xc24b8b70, 0xc76c51a3, 0xd192e819, 0xd6990624, 0xf40e3585, 0x106aa070, 0x19a4c116,
    0x1e376c08, 0x2748774c, 0x34b0bcb5, 0x391c0cb3, 0x4ed8aa4a, 0x5b9cca4f, 0x682e6ff3,
    0x748f82ee, 0x78a5636f, 0x84c87814, 0x8cc70208, 0x90befffa, 0xa4506ceb, 0xbef9a3f7,
    0xc67178f2]

def expanded256 (bs : ByteArray) (at_ : Nat) : Array UInt32 :=
  let start := (Array.range 16).map fun i => word32 bs (at_ + 4 * i) false
  (List.range 48).foldl (fun w i =>
    let t := i + 16
    let x := w.getD (t - 15) 0
    let y := w.getD (t - 2) 0
    let s0 := rotateRight x 7 ^^^ rotateRight x 18 ^^^ (x >>> 3)
    let s1 := rotateRight y 17 ^^^ rotateRight y 19 ^^^ (y >>> 10)
    w.push (w.getD (t - 16) 0 + s0 + w.getD (t - 7) 0 + s1)) start

def sha256Step (w : Array UInt32) (s : Array UInt32) (i : Nat) : Array UInt32 :=
  let v (j : Nat) : UInt32 := s.getD j 0
  let e := v 4
  let a := v 0
  let s1 := rotateRight e 6 ^^^ rotateRight e 11 ^^^ rotateRight e 25
  let ch := (e &&& v 5) ^^^ (~~~e &&& v 6)
  let t1 := v 7 + s1 + ch + sha256Constants.getD i 0 + w.getD i 0
  let s0 := rotateRight a 2 ^^^ rotateRight a 13 ^^^ rotateRight a 22
  let maj := (a &&& v 1) ^^^ (a &&& v 2) ^^^ (v 1 &&& v 2)
  #[t1 + s0 + maj, a, v 1, v 2, v 3 + t1, e, v 5, v 6]

/-- The digest with given first values, of which `words` are shown. -/
def sha256From (start : Array UInt32) (words : Nat) (message : ByteArray) : Text :=
  let bs := padded 64 8 false message
  let final := overBlocks 64 bs start fun s at_ =>
    let t := (List.range 64).foldl (sha256Step (expanded256 bs at_)) s
    (s.zip t).map fun (x, y) => x + y
  (final.toList.take words).flatMap fun x => hex 8 x.toNat

def sha256 : ByteArray → Text :=
  sha256From #[0x6a09e667, 0xbb67ae85, 0x3c6ef372, 0xa54ff53a, 0x510e527f, 0x9b05688c, 0x1f83d9ab,
    0x5be0cd19] 8

def sha224 : ByteArray → Text :=
  sha256From #[0xc1059ed8, 0x367cd507, 0x3070dd17, 0xf70e5939, 0xffc00b31, 0x68581511, 0x64f98fa7,
    0xbefa4fa4] 7

def sha512Constants : Array UInt64 :=
  #[0x428a2f98d728ae22, 0x7137449123ef65cd, 0xb5c0fbcfec4d3b2f, 0xe9b5dba58189dbbc,
    0x3956c25bf348b538, 0x59f111f1b605d019, 0x923f82a4af194f9b, 0xab1c5ed5da6d8118,
    0xd807aa98a3030242, 0x12835b0145706fbe, 0x243185be4ee4b28c, 0x550c7dc3d5ffb4e2,
    0x72be5d74f27b896f, 0x80deb1fe3b1696b1, 0x9bdc06a725c71235, 0xc19bf174cf692694,
    0xe49b69c19ef14ad2, 0xefbe4786384f25e3, 0x0fc19dc68b8cd5b5, 0x240ca1cc77ac9c65,
    0x2de92c6f592b0275, 0x4a7484aa6ea6e483, 0x5cb0a9dcbd41fbd4, 0x76f988da831153b5,
    0x983e5152ee66dfab, 0xa831c66d2db43210, 0xb00327c898fb213f, 0xbf597fc7beef0ee4,
    0xc6e00bf33da88fc2, 0xd5a79147930aa725, 0x06ca6351e003826f, 0x142929670a0e6e70,
    0x27b70a8546d22ffc, 0x2e1b21385c26c926, 0x4d2c6dfc5ac42aed, 0x53380d139d95b3df,
    0x650a73548baf63de, 0x766a0abb3c77b2a8, 0x81c2c92e47edaee6, 0x92722c851482353b,
    0xa2bfe8a14cf10364, 0xa81a664bbc423001, 0xc24b8b70d0f89791, 0xc76c51a30654be30,
    0xd192e819d6ef5218, 0xd69906245565a910, 0xf40e35855771202a, 0x106aa07032bbd1b8,
    0x19a4c116b8d2d0c8, 0x1e376c085141ab53, 0x2748774cdf8eeb99, 0x34b0bcb5e19b48a8,
    0x391c0cb3c5c95a63, 0x4ed8aa4ae3418acb, 0x5b9cca4f7763e373, 0x682e6ff3d6b2b8a3,
    0x748f82ee5defb2fc, 0x78a5636f43172f60, 0x84c87814a1f0ab72, 0x8cc702081a6439ec,
    0x90befffa23631e28, 0xa4506cebde82bde9, 0xbef9a3f7b2c67915, 0xc67178f2e372532b,
    0xca273eceea26619c, 0xd186b8c721c0c207, 0xeada7dd6cde0eb1e, 0xf57d4f7fee6ed178,
    0x06f067aa72176fba, 0x0a637dc5a2c898a6, 0x113f9804bef90dae, 0x1b710b35131c471b,
    0x28db77f523047d84, 0x32caab7b40c72493, 0x3c9ebe0a15c9bebc, 0x431d67c49c100d4c,
    0x4cc5d4becb3e42b6, 0x597f299cfc657e2a, 0x5fcb6fab3ad6faec, 0x6c44198c4a475817]

def expanded512 (bs : ByteArray) (at_ : Nat) : Array UInt64 :=
  let start := (Array.range 16).map fun i => word64 bs (at_ + 8 * i)
  (List.range 64).foldl (fun w i =>
    let t := i + 16
    let x := w.getD (t - 15) 0
    let y := w.getD (t - 2) 0
    let s0 := rotateRight64 x 1 ^^^ rotateRight64 x 8 ^^^ (x >>> 7)
    let s1 := rotateRight64 y 19 ^^^ rotateRight64 y 61 ^^^ (y >>> 6)
    w.push (w.getD (t - 16) 0 + s0 + w.getD (t - 7) 0 + s1)) start

def sha512Step (w : Array UInt64) (s : Array UInt64) (i : Nat) : Array UInt64 :=
  let v (j : Nat) : UInt64 := s.getD j 0
  let e := v 4
  let a := v 0
  let s1 := rotateRight64 e 14 ^^^ rotateRight64 e 18 ^^^ rotateRight64 e 41
  let ch := (e &&& v 5) ^^^ (~~~e &&& v 6)
  let t1 := v 7 + s1 + ch + sha512Constants.getD i 0 + w.getD i 0
  let s0 := rotateRight64 a 28 ^^^ rotateRight64 a 34 ^^^ rotateRight64 a 39
  let maj := (a &&& v 1) ^^^ (a &&& v 2) ^^^ (v 1 &&& v 2)
  #[t1 + s0 + maj, a, v 1, v 2, v 3 + t1, e, v 5, v 6]

def sha512From (start : Array UInt64) (words : Nat) (message : ByteArray) : Text :=
  let bs := padded 128 16 false message
  let final := overBlocks 128 bs start fun s at_ =>
    let t := (List.range 80).foldl (sha512Step (expanded512 bs at_)) s
    (s.zip t).map fun (x, y) => x + y
  (final.toList.take words).flatMap fun x => hex 16 x.toNat

def sha512 : ByteArray → Text :=
  sha512From #[0x6a09e667f3bcc908, 0xbb67ae8584caa73b, 0x3c6ef372fe94f82b, 0xa54ff53a5f1d36f1,
    0x510e527fade682d1, 0x9b05688c2b3e6c1f, 0x1f83d9abfb41bd6b, 0x5be0cd19137e2179] 8

def sha384 : ByteArray → Text :=
  sha512From #[0xcbbb9d5dc1059ed8, 0x629a292a367cd507, 0x9159015a3070dd17, 0x152fecd8f70e5939,
    0x67332667ffc00b31, 0x8eb44a8768581511, 0xdb0c2e0d64f98fa7, 0x47b5481dbefa4fa4] 6

/-! ### Checksums -/

/-- The remainder of a polynomial after one more byte. -/
def crcEntry (n : Nat) : UInt32 :=
  (List.range 8).foldl (fun c _ =>
    if c &&& 0x80000000 != 0 then (c <<< 1) ^^^ 0x04c11db7 else c <<< 1) (UInt32.ofNat n <<< 24)

def crcTable : Array UInt32 := (Array.range 256).map crcEntry

def crcStep (c : UInt32) (b : UInt8) : UInt32 :=
  (c <<< 8) ^^^ crcTable.getD ((c >>> 24).toNat ^^^ b.toNat) 0

/-- The bytes of a length, the lowest first. -/
def lengthBytes (n : Nat) : Bytes :=
  if h : n = 0 then [] else UInt8.ofNat n :: lengthBytes (n / 256)
termination_by n
decreasing_by omega

def crcEnd (c : UInt32) (length : Nat) : Nat :=
  (~~~((lengthBytes length).foldl crcStep c)).toNat

/-- The checksum and the length of what comes from a descriptor. -/
def crcFrom (d : Nat) : Nat → UInt32 → Nat → Run (Except SystemError (Nat × Nat))
  | 0, c, n => return .ok (crcEnd c n, n)
  | fuel + 1, c, n => do
    match ← ask (.read d 65536) with
    | .ok [] => return .ok (crcEnd c n, n)
    | .ok bytes => crcFrom d fuel (bytes.foldl crcStep c) (n + bytes.length)
    | .error e => return .error e

/-- The sum of all bytes, turned by one bit before each. -/
def rotatingSum (bs : Bytes) : Nat :=
  bs.foldl (fun s b => (s / 2 + s % 2 * 32768 + b.toNat) % 65536) 0

/-! ### Lists of digests -/

structure Style where
  name : String
  digest : ByteArray → Text

/-- A line of a list: a digest, two blanks and a path. -/
def lineOf? (cs : Text) : Option (Text × Text) :=
  let sum := cs.takeWhile fun c => c.isDigit || ('a' ≤ c && c ≤ 'f') || ('A' ≤ c && c ≤ 'F')
  match cs.drop sum.length with
  | ' ' :: c :: path =>
    if sum.isEmpty || path.isEmpty || (c != ' ' && c != '*') then none
    else some (sum.map Char.toLower, path)
  | _ => none

/-- A line of a list that begins with the name of the kind of digest. -/
def taggedLine? (name : String) (cs : Text) : Option (Text × Text) :=
  let front := name.toList ++ " (".toList
  if front.isPrefixOf cs then
    let sum := (cs.reverse.takeWhile (· != ' ')).reverse
    let path := (cs.drop front.length).take (cs.length - front.length - sum.length - 4)
    some (sum, path)
  else none

def digestOf (s : Style) (path : Text) : Run (Except SystemError Text) := do
  return (← contents path).map fun cs => s.digest ⟨(toBytes cs).toArray⟩

structure Tally where
  wrong : Nat := 0
  unread : Nat := 0
  bad : Nat := 0
  good : Nat := 0

/-- Checks the files in a list. -/
def check (s : Style) (os : List Given) (path : Text) : Run Nat := do
  match ← contents path with
  | .error e =>
    complainOf path e
    return 1
  | .ok cs =>
    let quiet := has "\x02\x03" os
    let status := has "\x03" os
    let step (t : Tally) (line : Text) : Run Tally := do
      match (lineOf? line).or (taggedLine? s.name line) with
      | none => return { t with bad := t.bad + 1 }
      | some (sum, file) =>
        match ← digestOf s file with
        | .error e =>
          complainOf file e
          if !status then out (file ++ ": FAILED open or read\n".toList)
          return { t with unread := t.unread + 1, good := t.good + 1 }
        | .ok found =>
          if found = sum then
            if !quiet then out (file ++ ": OK\n".toList)
            return { t with good := t.good + 1 }
          else
            if !status then out (file ++ ": FAILED\n".toList)
            return { t with wrong := t.wrong + 1, good := t.good + 1 }
    let t ← (lines cs).foldlM step {}
    let plural (n : Nat) : Text := if n = 1 then [] else ['s']
    if t.good = 0 then
      complain (beforeColon path ++ ": no properly formatted checksum lines found".toList)
      return 1
    if !status then
      if t.bad > 0 then
        complain ("WARNING: ".toList ++ ofNat t.bad ++ " line".toList ++ plural t.bad ++
          (if t.bad = 1 then " is" else " are").toList ++ " improperly formatted".toList)
      if t.unread > 0 then
        complain ("WARNING: ".toList ++ ofNat t.unread ++ " listed file".toList ++
          plural t.unread ++ " could not be read".toList)
      if t.wrong > 0 then
        complain ("WARNING: ".toList ++ ofNat t.wrong ++ " computed checksum".toList ++
          plural t.wrong ++ " did NOT match".toList)
    return if t.unread + t.wrong > 0 then 1 else 0

end Digest

open Digest in
/-- A program that writes digests of one kind. -/
def digest (s : Digest.Style) : Tool := do
  let (os, operands) ← readOptions <| .make "bctwz\x01\x02\x03\x04\x05"
    [("binary", 'b'), ("check", 'c'), ("text", 't'), ("warn", 'w'), ("zero", 'z'), ("tag", '\x01'),
      ("quiet", '\x02'), ("status", '\x03'), ("strict", '\x04'), ("ignore-missing", '\x05')]
  forEach (orInput operands) fun path => do
    if has "c" os then check s os path
    else
      match ← digestOf s path with
      | .error e =>
        complainOf path e
        return 1
      | .ok sum =>
        let mark := if has "z" os then '\x00' else '\n'
        out <| if has "\x01" os then
            s.name.toList ++ " (".toList ++ path ++ ") = ".toList ++ sum ++ [mark]
          else sum ++ ' ' :: (if has "b" os then '*' else ' ') :: path ++ [mark]
        return 0

def md5sum : Tool := digest { name := "MD5", digest := Digest.md5 }

def sha1sum : Tool := digest { name := "SHA1", digest := Digest.sha1 }

def sha224sum : Tool := digest { name := "SHA224", digest := Digest.sha224 }

def sha256sum : Tool := digest { name := "SHA256", digest := Digest.sha256 }

def sha384sum : Tool := digest { name := "SHA384", digest := Digest.sha384 }

def sha512sum : Tool := digest { name := "SHA512", digest := Digest.sha512 }

open Digest in
def cksum : Tool := do
  let (os, operands) ← readOptions <| .make "a:\x01z" [("algorithm", 'a'), ("untagged", '\x01')]
  let styles : List (String × Digest.Style) :=
    [("md5", ⟨"MD5", md5⟩), ("sha1", ⟨"SHA1", sha1⟩), ("sha224", ⟨"SHA224", sha224⟩),
      ("sha256", ⟨"SHA256", sha256⟩), ("sha384", ⟨"SHA384", sha384⟩), ("sha512", ⟨"SHA512", sha512⟩)]
  let style := (valueOf? 'a' os).bind fun a => styles.lookup (String.ofList a)
  forEach (orInput operands) fun path =>
    match style with
    | some s => do
      match ← digestOf s path with
      | .error e =>
        complainOf path e
        return 1
      | .ok sum =>
        out (if has "\x01" os then sum ++ "  ".toList ++ path ++ ['\n']
          else s.name.toList ++ " (".toList ++ path ++ ") = ".toList ++ sum ++ ['\n'])
        return 0
    | none =>
      withInput path
        (fun e => do
          complainOf path e
          return 1)
        fun d => do
          match ← crcFrom d Prog.fuel 0 0 with
          | .error e =>
            complainOf path e
            return 1
          | .ok (sum, n) =>
            out (ofNat sum ++ ' ' :: ofNat n ++
              (if operands.isEmpty then [] else ' ' :: path) ++ ['\n'])
            return 0

open Digest in
def sum : Tool := do
  let (os, operands) ← readOptions <| .make "rs" [("sysv", 's')]
  forEach (orInput operands) fun path => do
    match ← contents path with
    | .error e =>
      complainOf path e
      return 1
    | .ok cs =>
      let bytes := toBytes cs
      let name : Text := if operands.isEmpty then [] else ' ' :: path
      if lastOf? "rs" os = some 's' then
        let total := bytes.foldl (fun n b => n + b.toNat) 0
        let r := total % 65536 + total % 4294967296 / 65536
        out (ofNat (r % 65536 + r / 65536) ++ ' ' :: ofNat ((bytes.length + 511) / 512) ++ name ++
          ['\n'])
      else
        let ds := ofNat (rotatingSum bytes)
        let name : Text := if operands.length > 1 then name else if operands.isEmpty then [] else name
        out (List.replicate (5 - ds.length) '0' ++ ds ++ ' ' ::
          padLeft 5 (ofNat ((bytes.length + 1023) / 1024)) ++ name ++ ['\n'])
      return 0

end CellRunner.Tool
