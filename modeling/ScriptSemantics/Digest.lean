/-!
# 64-bit digests of text

The xxHash64 digest with seed zero, as a total function on byte lists. Identities of types,
functions and templates start from the digest of a name.

The digest consumes the input in three widths: 32-byte stripes spread over four running lanes,
then 8-byte and 4-byte words, then single bytes. A final avalanche mixes all bits.
-/

namespace ScriptSemantics

/-- Rotate a word to the left. The amount is taken below 64 and above 0. -/
def rotateLeft (word amount : UInt64) : UInt64 :=
  (word <<< amount) ||| (word >>> (64 - amount))

namespace Digest

/-! ## Multipliers -/

def prime1 : UInt64 := 0x9e3779b185ebca87
def prime2 : UInt64 := 0xc2b2ae3d27d4eb4f
def prime3 : UInt64 := 0x165667b19e3779f9
def prime4 : UInt64 := 0x85ebca77c2b2ae63
def prime5 : UInt64 := 0x27d4eb2f165667c5

/-! ## Words -/

/-- The word whose bytes, least significant first, are `bytes`. -/
def wordOfBytes (bytes : List UInt8) : UInt64 :=
  bytes.foldr (fun byte word => (word <<< 8) ||| byte.toUInt64) 0

/-- Absorb one 8-byte word into a lane. -/
def round (lane word : UInt64) : UInt64 :=
  rotateLeft (lane + word * prime2) 31 * prime1

/-! ## Stripes -/

/-- The four running lanes of a long input. -/
structure Lanes where
  a : UInt64
  b : UInt64
  c : UInt64
  d : UInt64

def Lanes.start : Lanes where
  a := prime1 + prime2
  b := prime2
  c := 0
  d := 0 - prime1

/-- Absorb 32 bytes, eight into each lane. -/
def Lanes.absorb (lanes : Lanes) (stripe : List UInt8) : Lanes where
  a := round lanes.a (wordOfBytes (stripe.take 8))
  b := round lanes.b (wordOfBytes ((stripe.drop 8).take 8))
  c := round lanes.c (wordOfBytes ((stripe.drop 16).take 8))
  d := round lanes.d (wordOfBytes ((stripe.drop 24).take 8))

/-- Absorb `count` stripes from the front of the input and return the bytes left over. -/
def Lanes.absorbStripes (lanes : Lanes) : Nat → List UInt8 → Lanes × List UInt8
  | 0, bytes => (lanes, bytes)
  | count + 1, bytes => (lanes.absorb (bytes.take 32)).absorbStripes count (bytes.drop 32)

/-- Fold one lane into the accumulator. -/
def mergeLane (acc lane : UInt64) : UInt64 :=
  (acc ^^^ round 0 lane) * prime1 + prime4

/-- One word out of the four lanes. -/
def Lanes.converge (lanes : Lanes) : UInt64 :=
  let acc := rotateLeft lanes.a 1 + rotateLeft lanes.b 7 + rotateLeft lanes.c 12
    + rotateLeft lanes.d 18
  mergeLane (mergeLane (mergeLane (mergeLane acc lanes.a) lanes.b) lanes.c) lanes.d

/-! ## Remainder and avalanche -/

/-- Absorb all complete 8-byte words from the front of the input. -/
def absorbWords : UInt64 → List UInt8 → UInt64 × List UInt8
  | acc, b0 :: b1 :: b2 :: b3 :: b4 :: b5 :: b6 :: b7 :: rest =>
    let word := wordOfBytes [b0, b1, b2, b3, b4, b5, b6, b7]
    absorbWords (rotateLeft (acc ^^^ round 0 word) 27 * prime1 + prime4) rest
  | acc, bytes => (acc, bytes)

/-- Absorb one 4-byte word, if four bytes are left. -/
def absorbHalfWord : UInt64 → List UInt8 → UInt64 × List UInt8
  | acc, b0 :: b1 :: b2 :: b3 :: rest =>
    let word := wordOfBytes [b0, b1, b2, b3]
    (rotateLeft (acc ^^^ (word * prime1)) 23 * prime2 + prime3, rest)
  | acc, bytes => (acc, bytes)

def absorbByte (acc : UInt64) (byte : UInt8) : UInt64 :=
  rotateLeft (acc ^^^ (byte.toUInt64 * prime5)) 11 * prime1

/-- Spread every bit over the whole word. -/
def avalanche (acc : UInt64) : UInt64 :=
  let acc := (acc ^^^ (acc >>> 33)) * prime2
  let acc := (acc ^^^ (acc >>> 29)) * prime3
  acc ^^^ (acc >>> 32)

/-- The digest of a byte list. -/
def ofBytes (bytes : List UInt8) : UInt64 :=
  let (start, rest) :=
    if bytes.length < 32 then (prime5, bytes)
    else
      let (lanes, rest) := Lanes.start.absorbStripes (bytes.length / 32) bytes
      (lanes.converge, rest)
  let (acc, rest) := absorbWords (start + UInt64.ofNat bytes.length) rest
  let (acc, rest) := absorbHalfWord acc rest
  avalanche (rest.foldl absorbByte acc)

/-- The digest of a text's UTF-8 bytes. -/
def ofString (text : String) : UInt64 :=
  ofBytes text.toUTF8.toList

end Digest

end ScriptSemantics
