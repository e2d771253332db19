import Mathlib.Data.BitVec

namespace OtunKernel.Net

-- netip.Addr without zones. The zero Addr is what the package returns for
-- "no address"; it belongs to neither family.
inductive Addr where
  | zero
  | v4 (bits : BitVec 32)
  | v6 (bits : BitVec 128)
deriving DecidableEq, Repr

def Addr.isValid : Addr → Bool
  | .zero => false
  | _ => true

def Addr.is4 : Addr → Bool
  | .v4 _ => true
  | _ => false

def Addr.is6 : Addr → Bool
  | .v6 _ => true
  | _ => false

def Addr.sliceLength : Addr → Nat
  | .zero => 0
  | .v4 _ => 4
  | .v6 _ => 16

def Addr.unmap : Addr → Addr
  | .v6 bits => if bits.toNat >>> 32 = 0xffff then .v4 (bits.setWidth 32) else .v6 bits
  | addr => addr

inductive Network where
  | tcp
  | udp
deriving DecidableEq, Repr

def Network.name : Network → String
  | .tcp => "tcp"
  | .udp => "udp"

def Network.label : Network → String
  | .tcp => "TCP"
  | .udp => "UDP"

end OtunKernel.Net
