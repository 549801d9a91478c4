import VertexOS.ByteStrings

/-!
# Page frames and addresses

Memory is handed out, mapped and checked in frames of one size.  Addresses have 64 bits, and the
lower half of the canonical ones belongs to the processes.
-/

namespace VertexOS

def frameSize : Nat := 4096

def addressLimit : Nat := 2 ^ 64

def userCanonicalLimit : Nat := 0x0000_8000_0000_0000

def alignDown (value : Nat) : Nat := value / frameSize * frameSize

end VertexOS
