/-!
# A seeded stream of random words

The ChaCha stream cipher with eight rounds, a 64-bit block counter from zero and a
zero nonce, read as a generator: each block gives sixteen 32-bit words. The key is
stretched from a 64-bit seed by a linear congruential generator whose output is
permuted by a shift and a rotation.
-/
namespace DeltaDebugging.ChaCha

def rotateLeft (x : UInt32) (n : UInt32) : UInt32 := (x <<< n) ||| (x >>> (32 - n))

def rotateRight (x : UInt32) (n : UInt32) : UInt32 :=
  if n = 0 then x else (x >>> n) ||| (x <<< (32 - n))

/-- `count` key words stretched from the generator's state. -/
def keyWords : (count : Nat) → UInt64 → List UInt32
  | 0, _ => []
  | count + 1, state =>
    let state := state * 6364136223846793005 + 11634580027462260723
    let x := (((state >>> 18) ^^^ state) >>> 27).toUInt32
    rotateRight x (state >>> 59).toUInt32 :: keyWords count state

def quarterRound (s : Array UInt32) (a b c d : Nat) : Array UInt32 :=
  let x := s.getD a 0
  let y := s.getD b 0
  let z := s.getD c 0
  let w := s.getD d 0
  let x := x + y
  let w := rotateLeft (w ^^^ x) 16
  let z := z + w
  let y := rotateLeft (y ^^^ z) 12
  let x := x + y
  let w := rotateLeft (w ^^^ x) 8
  let z := z + w
  let y := rotateLeft (y ^^^ z) 7
  (((s.setIfInBounds a x).setIfInBounds b y).setIfInBounds c z).setIfInBounds d w

def doubleRound (s : Array UInt32) : Array UInt32 :=
  let s := quarterRound s 0 4 8 12
  let s := quarterRound s 1 5 9 13
  let s := quarterRound s 2 6 10 14
  let s := quarterRound s 3 7 11 15
  let s := quarterRound s 0 5 10 15
  let s := quarterRound s 1 6 11 12
  let s := quarterRound s 2 7 8 13
  quarterRound s 3 4 9 14

def constants : List UInt32 := [0x61707865, 0x3320646e, 0x79622d32, 0x6b206574]

def block (key : List UInt32) (counter : UInt64) : List UInt32 :=
  let start := (constants ++ key ++
    [counter.toUInt32, (counter >>> 32).toUInt32, 0, 0]).toArray
  let mixed := (List.range 4).foldl (fun s _ => doubleRound s) start
  List.zipWith (· + ·) start.toList mixed.toList

/-- Two successive words as one, the earlier the lower half. -/
def pairs : List UInt32 → List UInt64
  | low :: high :: rest => (low.toUInt64 ||| (high.toUInt64 <<< 32)) :: pairs rest
  | _ => []

def words (seed : UInt64) (count : Nat) : List UInt64 :=
  let key := keyWords 8 seed
  ((List.range ((count + 7) / 8)).flatMap fun i => pairs (block key (UInt64.ofNat i))).take count

end DeltaDebugging.ChaCha
