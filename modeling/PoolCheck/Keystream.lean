/-!
# A keystream of 32-bit words

The ChaCha block function with twelve rounds, a 256-bit key, a 64-bit block counter and a zero
nonce. The stream is the words of block 0, block 1, and so on, so each word is a function of the
key and its position. A 64-bit seed is stretched to a key by eight steps of a linear congruential
generator with permuted output.
-/

set_option autoImplicit false

namespace PoolCheck.Keystream

abbrev Words := Array UInt32

def rotateLeft (x : UInt32) (n : UInt32) : UInt32 := (x <<< n) ||| (x >>> (32 - n))

def rotateRight (x : UInt32) (n : UInt32) : UInt32 :=
  (x >>> (n % 32)) ||| (x <<< ((32 - n % 32) % 32))

def mix (target source mixed : Nat) (n : UInt32) (s : Words) : Words :=
  let sum := s.getD target 0 + s.getD source 0
  let s := s.setIfInBounds target sum
  s.setIfInBounds mixed (rotateLeft (s.getD mixed 0 ^^^ sum) n)

def quarterRound (s : Words) (a b c d : Nat) : Words :=
  mix c d b 7 (mix a b d 8 (mix c d b 12 (mix a b d 16 s)))

def doubleRound (s : Words) : Words :=
  let s := quarterRound s 0 4 8 12
  let s := quarterRound s 1 5 9 13
  let s := quarterRound s 2 6 10 14
  let s := quarterRound s 3 7 11 15
  let s := quarterRound s 0 5 10 15
  let s := quarterRound s 1 6 11 12
  let s := quarterRound s 2 7 8 13
  quarterRound s 3 4 9 14

def constants : Words := #[0x61707865, 0x3320646e, 0x79622d32, 0x6b206574]

def initial (key : Words) (counter : UInt64) : Words :=
  constants ++ key ++ #[counter.toUInt32, (counter >>> 32).toUInt32, 0, 0]

def rounds : Nat → Words → Words
  | 0, s => s
  | n + 1, s => rounds n (doubleRound s)

def block (key : Words) (counter : UInt64) : Words :=
  let start := initial key counter
  (start.zip (rounds 6 start)).map fun p => p.1 + p.2

def words (key : Words) (n : Nat) : List UInt32 :=
  ((List.range ((n + 15) / 16)).flatMap fun k => (block key (UInt64.ofNat k)).toList).take n

def keyStep (s : UInt64) : UInt64 := s * 6364136223846793005 + 11634580027462260723

def keyWord (s : UInt64) : UInt32 :=
  rotateRight ((((s >>> 18) ^^^ s) >>> 27).toUInt32) ((s >>> 59).toUInt32)

def keyWords : Nat → UInt64 → List UInt32
  | 0, _ => []
  | n + 1, s => keyWord (keyStep s) :: keyWords n (keyStep s)

def seedKey (seed : UInt64) : Words := (keyWords 8 seed).toArray

end PoolCheck.Keystream
