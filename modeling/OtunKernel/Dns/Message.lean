import OtunKernel.Net.Addr

namespace OtunKernel.Dns

open Net

def rcodeSuccess : Nat := 0
def rcodeFormatError : Nat := 1
def rcodeNameError : Nat := 3

def typeA : UInt16 := 1
def typeAAAA : UInt16 := 28
def typeOPT : UInt16 := 41
def typeHTTPS : UInt16 := 65

structure Question where
  name : String
  qtype : UInt16
  qclass : UInt16
deriving DecidableEq, Repr

-- The values of an HTTPS record. Only the two address hints are looked into;
-- every other key keeps its number and content.
inductive SVCBKeyValue where
  | ipv4Hint (hint : List Addr)
  | ipv6Hint (hint : List Addr)
  | other (key : UInt16) (content : List UInt8)
deriving DecidableEq, Repr

inductive EDNS0 where
  | subnet (family : UInt16) (sourceNetmask sourceScope : UInt8) (address : Addr)
  | other (code : UInt16) (content : List UInt8)
deriving DecidableEq, Repr

inductive RecordData where
  | a (addr : Addr)
  | aaaa (addr : Addr)
  | https (values : List SVCBKeyValue)
  | soa (minttl : UInt32)
  | opt (options : List EDNS0)
  | other (content : List UInt8)
deriving DecidableEq, Repr

structure RR where
  name : String
  rrtype : UInt16
  rrclass : UInt16
  ttl : UInt32
  data : RecordData
deriving DecidableEq, Repr

structure Msg where
  id : UInt16
  response : Bool
  rcode : Nat
  question : List Question
  answer : List RR
  ns : List RR
  extra : List RR
deriving DecidableEq, Repr

def validAddr (addr : Addr) : List Addr := if addr.isValid then [addr] else []

def hintAddresses : SVCBKeyValue → List Addr
  | .ipv4Hint hint => hint.flatMap (fun ip => validAddr ip.unmap)
  | .ipv6Hint hint => hint.flatMap validAddr
  | .other _ _ => []

def recordAddresses (record : RR) : List Addr :=
  match record.data with
  | .a addr => validAddr addr
  | .aaaa addr => validAddr addr
  | .https values => values.flatMap hintAddresses
  | _ => []

def dnsResponseAddresses : Option Msg → List Addr
  | none => []
  | some response =>
    if response.rcode ≠ rcodeSuccess then [] else response.answer.flatMap recordAddresses

end OtunKernel.Dns
