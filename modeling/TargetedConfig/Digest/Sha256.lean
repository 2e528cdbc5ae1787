/-!
# SHA-256

The digest of a byte string: padding to blocks of sixty-four bytes, a schedule of sixty-four words
for each block, and sixty-four rounds on eight words of state.
-/

namespace TargetedConfig.Sha256

/-- The first thirty-two bits of the fractional parts of the cube roots of the first primes. -/
def roundConstants : List UInt32 :=
  [0x428a2f98, 0x71374491, 0xb5c0fbcf, 0xe9b5dba5, 0x3956c25b, 0x59f111f1, 0x923f82a4, 0xab1c5ed5,
   0xd807aa98, 0x12835b01, 0x243185be, 0x550c7dc3, 0x72be5d74, 0x80deb1fe, 0x9bdc06a7, 0xc19bf174,
   0xe49b69c1, 0xefbe4786, 0x0fc19dc6, 0x240ca1cc, 0x2de92c6f, 0x4a7484aa, 0x5cb0a9dc, 0x76f988da,
   0x983e5152, 0xa831c66d, 0xb00327c8, 0xbf597fc7, 0xc6e00bf3, 0xd5a79147, 0x06ca6351, 0x14292967,
   0x27b70a85, 0x2e1b2138, 0x4d2c6dfc, 0x53380d13, 0x650a7354, 0x766a0abb, 0x81c2c92e, 0x92722c85,
   0xa2bfe8a1, 0xa81a664b, 0xc24b8b70, 0xc76c51a3, 0xd192e819, 0xd6990624, 0xf40e3585, 0x106aa070,
   0x19a4c116, 0x1e376c08, 0x2748774c, 0x34b0bcb5, 0x391c0cb3, 0x4ed8aa4a, 0x5b9cca4f, 0x682e6ff3,
   0x748f82ee, 0x78a5636f, 0x84c87814, 0x8cc70208, 0x90befffa, 0xa4506ceb, 0xbef9a3f7, 0xc67178f2]

structure State where
  a : UInt32
  b : UInt32
  c : UInt32
  d : UInt32
  e : UInt32
  f : UInt32
  g : UInt32
  h : UInt32

/-- The first thirty-two bits of the fractional parts of the square roots of the first primes. -/
def initial : State :=
  ⟨0x6a09e667, 0xbb67ae85, 0x3c6ef372, 0xa54ff53a, 0x510e527f, 0x9b05688c, 0x1f83d9ab, 0x5be0cd19⟩

def rotateRight (x : UInt32) (n : UInt32) : UInt32 := (x >>> n) ||| (x <<< (32 - n))

def bigSigma0 (x : UInt32) : UInt32 := rotateRight x 2 ^^^ rotateRight x 13 ^^^ rotateRight x 22

def bigSigma1 (x : UInt32) : UInt32 := rotateRight x 6 ^^^ rotateRight x 11 ^^^ rotateRight x 25

def smallSigma0 (x : UInt32) : UInt32 := rotateRight x 7 ^^^ rotateRight x 18 ^^^ (x >>> 3)

def smallSigma1 (x : UInt32) : UInt32 := rotateRight x 17 ^^^ rotateRight x 19 ^^^ (x >>> 10)

def State.round (s : State) (word constant : UInt32) : State :=
  let t1 := s.h + bigSigma1 s.e + ((s.e &&& s.f) ^^^ (~~~s.e &&& s.g)) + constant + word
  let t2 := bigSigma0 s.a + ((s.a &&& s.b) ^^^ (s.a &&& s.c) ^^^ (s.b &&& s.c))
  ⟨t1 + t2, s.a, s.b, s.c, s.d + t1, s.e, s.f, s.g⟩

def State.add (s t : State) : State :=
  ⟨s.a + t.a, s.b + t.b, s.c + t.c, s.d + t.d, s.e + t.e, s.f + t.f, s.g + t.g, s.h + t.h⟩

/-- Big-endian words of a byte string; an incomplete word at the end is dropped. -/
def words : List UInt8 → List UInt32
  | a :: b :: c :: d :: rest =>
    ((a.toUInt32 <<< 24) ||| (b.toUInt32 <<< 16) ||| (c.toUInt32 <<< 8) ||| d.toUInt32) ::
      words rest
  | _ => []

/-- Runs the rounds over the remaining constants. The window holds the next sixteen schedule words;
each round takes its first and appends the word that follows the last. -/
def rounds : List UInt32 → List UInt32 → State → State
  | [], _, s => s
  | constant :: constants, window, s =>
    match window with
    | word :: rest =>
      let next := word + smallSigma0 (rest[0]?.getD 0) + rest[8]?.getD 0 +
        smallSigma1 (rest[13]?.getD 0)
      rounds constants (rest ++ [next]) (s.round word constant)
    | [] => s

/-- Takes one block of sixteen words into the state. -/
def State.compress (s : State) (block : List UInt32) : State :=
  s.add (rounds roundConstants block s)

/-- Takes whole blocks of sixteen words into the state. -/
def State.absorb (s : State) (message : List UInt32) : State :=
  if _h : message.length < 16 then s
  else (s.compress (message.take 16)).absorb (message.drop 16)
termination_by message.length
decreasing_by simp; omega

/-- The eight bytes of a length, most significant first. -/
def lengthBytes (n : Nat) : List UInt8 :=
  (List.range 8).map fun i => (n >>> (8 * (7 - i))).toUInt8

/-- A one bit, zeros up to the last eight bytes of a block, and the length in bits. -/
def pad (message : List UInt8) : List UInt8 :=
  let zeros := (119 - message.length % 64) % 64
  message ++ 0x80 :: (List.replicate zeros 0 ++ lengthBytes (8 * message.length))

/-- The digest as an unsigned big-endian number. -/
def digest (message : ByteArray) : Nat :=
  let s := initial.absorb (words (pad message.data.toList))
  [s.a, s.b, s.c, s.d, s.e, s.f, s.g, s.h].foldl (fun n word => n * 0x100000000 + word.toNat) 0

end TargetedConfig.Sha256
