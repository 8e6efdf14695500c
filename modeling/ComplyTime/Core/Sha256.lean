import Mathlib.Data.List.Basic
import Mathlib.Logic.Function.Iterate

/-!
# SHA-256

The hash function of FIPS 180-4 on byte strings: padding, message schedule,
compression, and the big-endian reading of words.  The schedule is kept with its
latest word first, so that extending it is a cons.
-/

namespace ComplyTime.Sha256

abbrev Word := UInt32

def rotateRight (word count : Word) : Word :=
  (word >>> count) ||| (word <<< (32 - count))

def choose (e f g : Word) : Word := (e &&& f) ^^^ (~~~e &&& g)

def majority (a b c : Word) : Word :=
  (a &&& b) ^^^ (a &&& c) ^^^ (b &&& c)

def bigSigma0 (word : Word) : Word :=
  rotateRight word 2 ^^^ rotateRight word 13 ^^^ rotateRight word 22

def bigSigma1 (word : Word) : Word :=
  rotateRight word 6 ^^^ rotateRight word 11 ^^^ rotateRight word 25

def smallSigma0 (word : Word) : Word :=
  rotateRight word 7 ^^^ rotateRight word 18 ^^^ (word >>> 3)

def smallSigma1 (word : Word) : Word :=
  rotateRight word 17 ^^^ rotateRight word 19 ^^^ (word >>> 10)

def roundConstants : List Word :=
  [0x428a2f98, 0x71374491, 0xb5c0fbcf, 0xe9b5dba5, 0x3956c25b, 0x59f111f1,
   0x923f82a4, 0xab1c5ed5, 0xd807aa98, 0x12835b01, 0x243185be, 0x550c7dc3,
   0x72be5d74, 0x80deb1fe, 0x9bdc06a7, 0xc19bf174, 0xe49b69c1, 0xefbe4786,
   0x0fc19dc6, 0x240ca1cc, 0x2de92c6f, 0x4a7484aa, 0x5cb0a9dc, 0x76f988da,
   0x983e5152, 0xa831c66d, 0xb00327c8, 0xbf597fc7, 0xc6e00bf3, 0xd5a79147,
   0x06ca6351, 0x14292967, 0x27b70a85, 0x2e1b2138, 0x4d2c6dfc, 0x53380d13,
   0x650a7354, 0x766a0abb, 0x81c2c92e, 0x92722c85, 0xa2bfe8a1, 0xa81a664b,
   0xc24b8b70, 0xc76c51a3, 0xd192e819, 0xd6990624, 0xf40e3585, 0x106aa070,
   0x19a4c116, 0x1e376c08, 0x2748774c, 0x34b0bcb5, 0x391c0cb3, 0x4ed8aa4a,
   0x5b9cca4f, 0x682e6ff3, 0x748f82ee, 0x78a5636f, 0x84c87814, 0x8cc70208,
   0x90befffa, 0xa4506ceb, 0xbef9a3f7, 0xc67178f2]

/-- The hash value, and the working variables of the compression. -/
structure Vars where
  a : Word
  b : Word
  c : Word
  d : Word
  e : Word
  f : Word
  g : Word
  h : Word

def initialHash : Vars :=
  ⟨0x6a09e667, 0xbb67ae85, 0x3c6ef372, 0xa54ff53a, 0x510e527f, 0x9b05688c,
   0x1f83d9ab, 0x5be0cd19⟩

/-- The next word of the schedule. -/
def extend (schedule : List Word) : List Word :=
  (smallSigma1 (schedule.getD 1 0) + schedule.getD 6 0 +
    smallSigma0 (schedule.getD 14 0) + schedule.getD 15 0) :: schedule

/-- The sixty-four words of a block of sixteen. -/
def schedule (block : List Word) : List Word :=
  (extend^[48] block.reverse).reverse

def round (vars : Vars) (input : Word × Word) : Vars :=
  let first := vars.h + bigSigma1 vars.e + choose vars.e vars.f vars.g +
    input.1 + input.2
  let second := bigSigma0 vars.a + majority vars.a vars.b vars.c
  ⟨first + second, vars.a, vars.b, vars.c, vars.d + first, vars.e, vars.f,
    vars.g⟩

def compress (hash : Vars) (block : List Word) : Vars :=
  let vars := (roundConstants.zip (schedule block)).foldl round hash
  ⟨hash.a + vars.a, hash.b + vars.b, hash.c + vars.c, hash.d + vars.d,
    hash.e + vars.e, hash.f + vars.f, hash.g + vars.g, hash.h + vars.h⟩

def wordOfBytes (bytes : List UInt8) : Word :=
  bytes.foldl (fun word byte => word <<< 8 ||| byte.toUInt32) 0

def bytesOfWord (word : Word) : List UInt8 :=
  [(word >>> 24).toUInt8, (word >>> 16).toUInt8, (word >>> 8).toUInt8,
   word.toUInt8]

/-- The message, a one bit, zeros, and the length in bits. -/
def pad (message : List UInt8) : List UInt8 :=
  let bits := 8 * message.length
  let zeros : List UInt8 := List.replicate ((119 - message.length % 64) % 64) 0
  let length := (List.range 8).map fun index =>
    UInt8.ofNat (bits >>> (8 * (7 - index)))
  message ++ 0x80 :: (zeros ++ length)

/-- The first `count` pieces of `size` elements. -/
def pieces {Element : Type} (size : ℕ) :
    ℕ → List Element → List (List Element)
  | 0, _ => []
  | count + 1, elements =>
    elements.take size :: pieces size count (elements.drop size)

def sha256 (message : List UInt8) : List UInt8 :=
  let padded := pad message
  let words := (pieces 4 (padded.length / 4) padded).map wordOfBytes
  let hash := (pieces 16 (words.length / 16) words).foldl compress initialHash
  [hash.a, hash.b, hash.c, hash.d, hash.e, hash.f, hash.g, hash.h].flatMap
    bytesOfWord

set_option maxRecDepth 4000 in
/-- The digest of the text `abc`, as the standard gives it. -/
example : sha256 [0x61, 0x62, 0x63] =
    [0xba, 0x78, 0x16, 0xbf, 0x8f, 0x01, 0xcf, 0xea, 0x41, 0x41, 0x40, 0xde,
     0x5d, 0xae, 0x22, 0x23, 0xb0, 0x03, 0x61, 0xa3, 0x96, 0x17, 0x7a, 0x9c,
     0xb4, 0x10, 0xff, 0x61, 0xf2, 0x00, 0x15, 0xad] := by
  decide +kernel

end ComplyTime.Sha256
