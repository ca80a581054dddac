/-!
# Words

Numbers of 64 bits. The upper half of them reads as negative.
-/

set_option autoImplicit false

namespace PoolCheck

def wordLimit : Nat := 0x10000000000000000

def signLimit : Nat := 0x8000000000000000

def halfWordLimit : Nat := 0x100000000

/-- The signed reading of a word. -/
def signed (n : Nat) : Int := if n < signLimit then n else Int.bmod n wordLimit

def isReading (x : Int) : Bool := -(signLimit : Int) ≤ x && x < (signLimit : Int)

def word (x : Int) : Nat := (x % (wordLimit : Int)).toNat

end PoolCheck
