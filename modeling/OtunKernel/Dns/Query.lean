import OtunKernel.Dns.Message

namespace OtunKernel.Dns

open Net

inductive DomainStrategy where
  | asIS
  | preferIPv4
  | preferIPv6
  | ipv4Only
  | ipv6Only
deriving DecidableEq, Repr

abbrev ClientSubnet := Option (Addr × Nat)

structure DNSQueryOptions where
  strategy : DomainStrategy := .asIS
  lookupStrategy : DomainStrategy := .asIS
  disableCache : Bool := false
  disableOptimisticCache : Bool := false
  rewriteTTL : Option UInt32 := none
  timeout : Int := 0
  clientSubnet : ClientSubnet := none
deriving DecidableEq, Repr

structure DNSTransport where
  tag : String
  isFakeIP : Bool := false
deriving DecidableEq, Repr

def isAddressQuery (message : Msg) : Bool :=
  message.question.any (fun question =>
    question.qtype == typeA || question.qtype == typeAAAA || question.qtype == typeHTTPS)

inductive ClientError where
  | responseRejected
  | responseRejectedCached
  | other (message : String)
deriving DecidableEq, Repr

def ClientError.isRejection : ClientError → Bool
  | .responseRejected => true
  | .responseRejectedCached => true
  | .other _ => false

end OtunKernel.Dns
