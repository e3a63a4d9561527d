/-!
# Checksums, and digests on words of 32 bits

The checksums are the remainder of a content as a polynomial, and sums of its bytes. The digests are
MD5, SHA-1, SM3 and the short forms of SHA-2. A digest works on blocks of 64 bytes, each of which
changes a few words of state. The tables of SHA-2 are the first bits behind the point of the
roots of prime numbers.
-/
namespace DeltaDebugging.Digest

def crcStep (crc : UInt32) (b : UInt8) : UInt32 :=
  (List.range 8).foldl (fun (c : UInt32) _ =>
    if c >>> 31 = 1 then (c <<< 1) ^^^ 0x04c11db7 else c <<< 1) (crc ^^^ (b.toUInt32 <<< 24))

/-- The bytes of a length, the least one first. -/
def lengthBytes : (steps : Nat) → Nat → List UInt8
  | 0, _ => []
  | steps + 1, n => if n = 0 then [] else UInt8.ofNat (n % 256) :: lengthBytes steps (n / 256)

def crc (bytes : Array UInt8) : Nat :=
  let c := bytes.foldl crcStep 0
  (~~~((lengthBytes 16 bytes.size).foldl crcStep c)).toNat

/-- The sum of bytes that is turned by one bit before each. -/
def turnedSum (bytes : Array UInt8) : Nat :=
  bytes.foldl (fun s b => (s / 2 + s % 2 * 32768 + b.toNat) % 65536) 0

def plainSum (bytes : Array UInt8) : Nat :=
  let s := bytes.foldl (fun (s : Nat) b => s + b.toNat) 0
  let r := s % 65536 + s % 4294967296 / 65536
  r % 65536 + r / 65536

def bytesOf (cs : List Char) : Array UInt8 := (cs.map fun c => UInt8.ofNat c.toNat).toArray

/-- A number in hexadecimal figures, of which there are at least so many. -/
def hex (digits : Nat) (n : Nat) : String :=
  let s := String.ofList (Nat.toDigits 16 n)
  String.ofList (List.replicate (digits - s.length) '0') ++ s

/-- A content padded to whole blocks: a one bit, zeros, and its length in bits at the end. -/
def padded (bigEndian : Bool) (block field : Nat) (bytes : Array UInt8) : Array UInt8 :=
  let bits := bytes.size * 8
  let zeros := (2 * block - 1 - field - bytes.size % block) % block
  let length := (List.range field).map fun k =>
    UInt8.ofNat (bits / Nat.pow 2 (8 * if bigEndian then field - 1 - k else k) % 256)
  bytes.push 0x80 ++ Array.replicate zeros 0 ++ length.toArray

/-- The words of four bytes each from a place on. -/
def words (bigEndian : Bool) (bytes : Array UInt8) (start count : Nat) : Array UInt32 :=
  (Array.range count).map fun k =>
    (List.range 4).foldl (fun (w : UInt32) j =>
      let b := (bytes[start + 4 * k + if bigEndian then j else 3 - j]?).getD 0
      w * 256 + b.toUInt32) 0

def rotatedLeft (x n : UInt32) : UInt32 := (x <<< n) ||| (x >>> (32 - n))

def rotatedRight (x n : UInt32) : UInt32 := (x >>> n) ||| (x <<< (32 - n))

def overBlocks (bigEndian : Bool) (step : Array UInt32 → Array UInt32 → Array UInt32) (start : Array UInt32)
    (bytes : Array UInt8) : Array UInt32 :=
  let all := padded bigEndian 64 8 bytes
  (List.range (all.size / 64)).foldl (fun h k => step h (words bigEndian all (64 * k) 16)) start

def word (h : Array UInt32) (k : Nat) : UInt32 := (h[k]?).getD 0

def added (h g : Array UInt32) : Array UInt32 := (h.zip g).map fun e => e.1 + e.2

def md5Turns : Array UInt32 := #[7, 12, 17, 22, 5, 9, 14, 20, 4, 11, 16, 23, 6, 10, 15, 21]

/-- The table of MD5: the sines of whole numbers. -/
def md5Table : Array UInt32 := (Array.range 64).map fun k =>
  let s := Float.abs (Float.sin (Float.ofNat (k + 1)))
  (Float.floor (s * 4294967296.0)).toUInt64.toUInt32

def md5Step (h m : Array UInt32) : Array UInt32 :=
  let r := (List.range 64).foldl (fun (s : Array UInt32) i =>
    let (a, b, c, d) := (word s 0, word s 1, word s 2, word s 3)
    let (f, g) :=
      if i < 16 then ((b &&& c) ||| (~~~b &&& d), i)
      else if i < 32 then ((d &&& b) ||| (~~~d &&& c), (5 * i + 1) % 16)
      else if i < 48 then (b ^^^ c ^^^ d, (3 * i + 5) % 16)
      else (c ^^^ (b ||| ~~~d), 7 * i % 16)
    let turn := word md5Turns (i / 16 * 4 + i % 4)
    #[d, b + rotatedLeft (f + a + word md5Table i + word m g) turn, b, c]) h
  added h r

def md5 (bytes : Array UInt8) : String :=
  let h := overBlocks false md5Step #[0x67452301, 0xefcdab89, 0x98badcfe, 0x10325476] bytes
  String.join (h.toList.map fun w =>
    String.join ((List.range 4).map fun k => hex 2 (w.toNat / Nat.pow 256 k % 256)))

def sha1Step (h m : Array UInt32) : Array UInt32 :=
  let w := (List.range 64).foldl (fun (w : Array UInt32) k =>
    let i := k + 16
    w.push (rotatedLeft (word w (i - 3) ^^^ word w (i - 8) ^^^ word w (i - 14) ^^^ word w (i - 16)) 1)) m
  let r := (List.range 80).foldl (fun (s : Array UInt32) i =>
    let (a, b, c, d, e) := (word s 0, word s 1, word s 2, word s 3, word s 4)
    let (f, k) : UInt32 × UInt32 :=
      if i < 20 then ((b &&& c) ||| (~~~b &&& d), 0x5a827999)
      else if i < 40 then (b ^^^ c ^^^ d, 0x6ed9eba1)
      else if i < 60 then ((b &&& c) ||| (b &&& d) ||| (c &&& d), 0x8f1bbcdc)
      else (b ^^^ c ^^^ d, 0xca62c1d6)
    #[rotatedLeft a 5 + f + e + k + word w i, a, rotatedLeft b 30, c, d]) h
  added h r

def shown (h : Array UInt32) : String := String.join (h.toList.map fun w => hex 8 w.toNat)

def sha1 (bytes : Array UInt8) : String :=
  shown (overBlocks true sha1Step #[0x67452301, 0xefcdab89, 0x98badcfe, 0x10325476, 0xc3d2e1f0] bytes)

/-- The first prime numbers. -/
def primes (count : Nat) : List Nat :=
  (((List.range 420).drop 2).filter fun n =>
    ((List.range n).drop 2).all fun d => n < d * d || n % d ≠ 0).take count

/-- The greatest number whose power does not pass a bound. -/
def root (power bound : Nat) : (steps : Nat) → (low high : Nat) → Nat
  | 0, low, _ => low
  | steps + 1, low, high =>
    let middle := (low + high + 1) / 2
    if Nat.pow middle power ≤ bound then root power bound steps middle high
    else root power bound steps low (middle - 1)

/-- The first bits behind the point of a root of a number. -/
def rootBits (bits power n : Nat) : Nat :=
  root power (n * Nat.pow 2 (bits * power)) (bits + 16) 0 (Nat.pow 2 (bits + 8)) % Nat.pow 2 bits

def sha256Start : Array UInt32 := ((primes 8).map fun n => UInt32.ofNat (rootBits 32 2 n)).toArray

/-- The shorter digest starts with later bits of the roots of the next primes. -/
def sha224Start : Array UInt32 :=
  (((primes 16).drop 8).map fun n => UInt32.ofNat (rootBits 64 2 n % Nat.pow 2 32)).toArray

def sha256Table : Array UInt32 := ((primes 64).map fun n => UInt32.ofNat (rootBits 32 3 n)).toArray

def sha256Step (h m : Array UInt32) : Array UInt32 :=
  let w := (List.range 48).foldl (fun (w : Array UInt32) k =>
    let i := k + 16
    let (x, y) := (word w (i - 15), word w (i - 2))
    let s := rotatedRight x 7 ^^^ rotatedRight x 18 ^^^ (x >>> 3)
    let t := rotatedRight y 17 ^^^ rotatedRight y 19 ^^^ (y >>> 10)
    w.push (word w (i - 16) + s + word w (i - 7) + t)) m
  let r := (List.range 64).foldl (fun (s : Array UInt32) i =>
    let (a, b, c, d) := (word s 0, word s 1, word s 2, word s 3)
    let (e, f, g, last) := (word s 4, word s 5, word s 6, word s 7)
    let t := last + (rotatedRight e 6 ^^^ rotatedRight e 11 ^^^ rotatedRight e 25) +
      ((e &&& f) ^^^ (~~~e &&& g)) + word sha256Table i + word w i
    let u := (rotatedRight a 2 ^^^ rotatedRight a 13 ^^^ rotatedRight a 22) +
      ((a &&& b) ^^^ (a &&& c) ^^^ (b &&& c))
    #[t + u, a, b, c, d + t, e, f, g]) h
  added h r

def sha256 (bytes : Array UInt8) : String := shown (overBlocks true sha256Step sha256Start bytes)

def sha224 (bytes : Array UInt8) : String :=
  shown ((overBlocks true sha256Step sha224Start bytes).extract 0 7)

def sm3Start : Array UInt32 :=
  #[0x7380166f, 0x4914b2b9, 0x172442d7, 0xda8a0600, 0xa96f30bc, 0x163138aa, 0xe38dee4d, 0xb0fb0e4e]

def sm3Step (h m : Array UInt32) : Array UInt32 :=
  let w := (List.range 52).foldl (fun (w : Array UInt32) k =>
    let i := k + 16
    let x := word w (i - 16) ^^^ word w (i - 9) ^^^ rotatedLeft (word w (i - 3)) 15
    w.push (x ^^^ rotatedLeft x 15 ^^^ rotatedLeft x 23 ^^^ rotatedLeft (word w (i - 13)) 7 ^^^ word w (i - 6))) m
  let r := (List.range 64).foldl (fun (s : Array UInt32) i =>
    let (a, b, c, d) := (word s 0, word s 1, word s 2, word s 3)
    let (e, f, g, last) := (word s 4, word s 5, word s 6, word s 7)
    let early := i < 16
    let t : UInt32 := if early then 0x79cc4519 else 0x7a879d8a
    let turn := if i % 32 = 0 then t else rotatedLeft t (UInt32.ofNat (i % 32))
    let u := rotatedLeft (rotatedLeft a 12 + e + turn) 7
    let v := u ^^^ rotatedLeft a 12
    let x := (if early then a ^^^ b ^^^ c else (a &&& b) ||| (a &&& c) ||| (b &&& c)) + d + v +
      (word w i ^^^ word w (i + 4))
    let y := (if early then e ^^^ f ^^^ g else (e &&& f) ||| (~~~e &&& g)) + last + u + word w i
    #[x, a, rotatedLeft b 9, c, y ^^^ rotatedLeft y 9 ^^^ rotatedLeft y 17, e, rotatedLeft f 19, g]) h
  (h.zip r).map fun e => e.1 ^^^ e.2

def sm3 (bytes : Array UInt8) : String := shown (overBlocks true sm3Step sm3Start bytes)

end DeltaDebugging.Digest
