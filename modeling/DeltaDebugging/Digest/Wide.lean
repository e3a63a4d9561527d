import DeltaDebugging.Digest.Narrow

/-!
# Digests on words of 64 bits

The long forms of SHA-2 and BLAKE2b, which work on blocks of 128 bytes.
-/
namespace DeltaDebugging.Digest

/-- The words of eight bytes each from a place on. -/
def wideWords (bigEndian : Bool) (bytes : Array UInt8) (start count : Nat) : Array UInt64 :=
  (Array.range count).map fun k =>
    (List.range 8).foldl (fun (w : UInt64) j =>
      let b := (bytes[start + 8 * k + if bigEndian then j else 7 - j]?).getD 0
      w * 256 + b.toUInt64) 0

def turnedRight (x n : UInt64) : UInt64 := (x >>> n) ||| (x <<< (64 - n))

def wideWord (h : Array UInt64) (k : Nat) : UInt64 := (h[k]?).getD 0

def sha512Start : Array UInt64 := ((primes 8).map fun n => UInt64.ofNat (rootBits 64 2 n)).toArray

def sha384Start : Array UInt64 :=
  (((primes 16).drop 8).map fun n => UInt64.ofNat (rootBits 64 2 n)).toArray

def sha512Table : Array UInt64 := ((primes 80).map fun n => UInt64.ofNat (rootBits 64 3 n)).toArray

def sha512Step (h m : Array UInt64) : Array UInt64 :=
  let w := (List.range 64).foldl (fun (w : Array UInt64) k =>
    let i := k + 16
    let (x, y) := (wideWord w (i - 15), wideWord w (i - 2))
    let s := turnedRight x 1 ^^^ turnedRight x 8 ^^^ (x >>> 7)
    let t := turnedRight y 19 ^^^ turnedRight y 61 ^^^ (y >>> 6)
    w.push (wideWord w (i - 16) + s + wideWord w (i - 7) + t)) m
  let r := (List.range 80).foldl (fun (s : Array UInt64) i =>
    let (a, b, c, d) := (wideWord s 0, wideWord s 1, wideWord s 2, wideWord s 3)
    let (e, f, g, last) := (wideWord s 4, wideWord s 5, wideWord s 6, wideWord s 7)
    let t := last + (turnedRight e 14 ^^^ turnedRight e 18 ^^^ turnedRight e 41) +
      ((e &&& f) ^^^ (~~~e &&& g)) + wideWord sha512Table i + wideWord w i
    let u := (turnedRight a 28 ^^^ turnedRight a 34 ^^^ turnedRight a 39) +
      ((a &&& b) ^^^ (a &&& c) ^^^ (b &&& c))
    #[t + u, a, b, c, d + t, e, f, g]) h
  (h.zip r).map fun e => e.1 + e.2

def wideBlocks (start : Array UInt64) (bytes : Array UInt8) : Array UInt64 :=
  let all := padded true 128 16 bytes
  (List.range (all.size / 128)).foldl (fun h k => sha512Step h (wideWords true all (128 * k) 16)) start

def wideShown (h : Array UInt64) : String := String.join (h.toList.map fun w => hex 16 w.toNat)

def sha512 (bytes : Array UInt8) : String := wideShown (wideBlocks sha512Start bytes)

def sha384 (bytes : Array UInt8) : String := wideShown ((wideBlocks sha384Start bytes).extract 0 6)

/-- The orders in which BLAKE2 takes the words of a block, round after round. -/
def blakeOrders : Array (Array Nat) :=
  #[#[0, 1, 2, 3, 4, 5, 6, 7, 8, 9, 10, 11, 12, 13, 14, 15],
    #[14, 10, 4, 8, 9, 15, 13, 6, 1, 12, 0, 2, 11, 7, 5, 3],
    #[11, 8, 12, 0, 5, 2, 15, 13, 10, 14, 3, 6, 7, 1, 9, 4],
    #[7, 9, 3, 1, 13, 12, 11, 14, 2, 6, 5, 10, 4, 0, 15, 8],
    #[9, 0, 5, 7, 2, 4, 10, 15, 14, 1, 11, 12, 6, 8, 3, 13],
    #[2, 12, 6, 10, 0, 11, 8, 3, 4, 13, 7, 5, 15, 14, 1, 9],
    #[12, 5, 1, 15, 14, 13, 4, 10, 0, 7, 6, 3, 9, 2, 8, 11],
    #[13, 11, 7, 14, 12, 1, 3, 9, 5, 0, 15, 4, 8, 6, 2, 10],
    #[6, 15, 14, 9, 11, 3, 0, 8, 12, 2, 13, 7, 1, 4, 10, 5],
    #[10, 2, 8, 4, 7, 6, 1, 5, 15, 11, 9, 14, 3, 12, 13, 0]]

/-- The places of the state that are mixed with one another in a round: columns, then
diagonals. -/
def blakeRows : List (Nat × Nat × Nat × Nat) :=
  [(0, 4, 8, 12), (1, 5, 9, 13), (2, 6, 10, 14), (3, 7, 11, 15),
    (0, 5, 10, 15), (1, 6, 11, 12), (2, 7, 8, 13), (3, 4, 9, 14)]

def blakeMix (v : Array UInt64) (places : Nat × Nat × Nat × Nat) (x y : UInt64) : Array UInt64 :=
  let (i, j, k, l) := places
  let a := wideWord v i + wideWord v j + x
  let d := turnedRight (wideWord v l ^^^ a) 32
  let c := wideWord v k + d
  let b := turnedRight (wideWord v j ^^^ c) 24
  let a := a + b + y
  let d := turnedRight (d ^^^ a) 16
  let c := c + d
  let b := turnedRight (b ^^^ c) 63
  (((v.setIfInBounds i a).setIfInBounds j b).setIfInBounds k c).setIfInBounds l d

/-- The state after a block; `count` is the number of bytes up to its end. -/
def blakeStep (h m : Array UInt64) (count : Nat) (last : Bool) : Array UInt64 :=
  let tail := sha512Start.mapIdx fun i w =>
    if i = 4 then w ^^^ UInt64.ofNat count else if i = 6 && last then ~~~w else w
  let v := (List.range 12).foldl (fun (v : Array UInt64) round =>
    let order := (blakeOrders[round % 10]?).getD #[]
    (blakeRows.zipIdx).foldl (fun v (places, i) =>
      let pick (k : Nat) : UInt64 := wideWord m ((order[2 * i + k]?).getD 0)
      blakeMix v places (pick 0) (pick 1)) v) (h ++ tail)
  h.mapIdx fun i w => w ^^^ wideWord v i ^^^ wideWord v (i + 8)

/-- BLAKE2b without a key, with a digest of so many bytes. -/
def blake2b (length : Nat) (bytes : Array UInt8) : String :=
  let blocks := max 1 ((bytes.size + 127) / 128)
  let start := sha512Start.mapIdx fun i w =>
    if i = 0 then w ^^^ 0x01010000 ^^^ UInt64.ofNat length else w
  let h := (List.range blocks).foldl (fun h k =>
    let last := k + 1 = blocks
    blakeStep h (wideWords false bytes (128 * k) 16) (if last then bytes.size else 128 * (k + 1)) last) start
  let digits := h.toList.flatMap fun w => (List.range 8).map fun k => hex 2 (w.toNat / Nat.pow 256 k % 256)
  String.join (digits.take length)

end DeltaDebugging.Digest
