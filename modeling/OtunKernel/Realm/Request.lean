import Mathlib.Data.List.Basic

namespace OtunKernel.Realm

structure RealmUser where
  name : String
  maxRealms : Int
deriving DecidableEq, Repr

inductive Body (α : Type) where
  | malformed
  | empty
  | decoded (value : α)
deriving DecidableEq, Repr

structure RegisterRequest where
  addresses : Option (List String)
  relay : Option (List String)
deriving DecidableEq, Repr

structure ConnectRequest where
  addresses : List String
  nonce : String
  obfs : String
deriving DecidableEq, Repr

inductive Response where
  | error (status : Nat) (error message : String)
  | registered (sessionID : String) (ttl : Nat)
  | ttl (ttl : Nat)
  | connected (addresses : List String) (nonce obfs : String) (relay : List String)
  | noContent
  | nothing
deriving DecidableEq, Repr

def badRequest (message : String) : Response := .error 400 "bad_request" message

def realmNotFound : Response := .error 404 "realm_not_found" "realm not registered"

def maxAddresses : Nat := 8

def nonceHexLength : Nat := 32

def obfsHexLength : Nat := 64

-- ^[A-Za-z0-9][A-Za-z0-9_-]{0,63}$
def validRealmID (id : String) : Bool :=
  match id.toList with
  | [] => false
  | first :: rest =>
    first.isAlphanum && rest.all (fun char => char.isAlphanum || char == '_' || char == '-') && rest.length ≤ 63

def bearerToken (header : String) : Option String :=
  let (bearer, rest) := header.toList.span (fun char => char != ' ')
  match rest with
  | [] => none
  | _ :: token => if bearer = "Bearer".toList then some (String.ofList token) else none

def invalidToken (name : String) : Response := .error 401 "invalid_token" ("invalid " ++ name ++ " token")

def isHexDigit (char : Char) : Bool :=
  char.isDigit || ('a' ≤ char && char ≤ 'f') || ('A' ≤ char && char ≤ 'F')

def validateHexField (name value : String) (length : Nat) : Option String :=
  if value.utf8ByteSize ≠ length then some (name ++ " must be " ++ toString length ++ " hex characters")
  else if value.toList.all isHexDigit then none
  else some (name ++ " must be valid hex")

section

-- Whether netip.ParseAddrPort accepts a text.
variable (parseAddrPort : String → Bool)

def validateAddresses (addresses : List String) : Option String :=
  if addresses.length = 0 then some "at least one address required"
  else if maxAddresses < addresses.length then
    some ("too many addresses (max " ++ toString maxAddresses ++ ")")
  else (addresses.find? (fun address => !parseAddrPort address)).map ("invalid address: " ++ ·)

def validateOptional : Option (List String) → Option String
  | none => none
  | some addresses => validateAddresses parseAddrPort addresses

def decodeRegister : Body RegisterRequest → Except Response (List String × List String)
  | .malformed => .error (badRequest "invalid json")
  | .empty => .error (badRequest "invalid json")
  | .decoded request =>
    match validateAddresses parseAddrPort (request.addresses.getD []) with
    | some message => .error (badRequest message)
    | none =>
      match validateOptional parseAddrPort request.relay with
      | some message => .error (badRequest message)
      | none => .ok (request.addresses.getD [], request.relay.getD [])

def decodeHeartbeat : Body RegisterRequest → Except Response RegisterRequest
  | .malformed => .error (badRequest "invalid json")
  | .empty => .ok ⟨none, none⟩
  | .decoded request =>
    match validateOptional parseAddrPort request.addresses with
    | some message => .error (badRequest message)
    | none =>
      match validateOptional parseAddrPort request.relay with
      | some message => .error (badRequest message)
      | none => .ok request

def decodeConnect : Body ConnectRequest → Except Response ConnectRequest
  | .malformed => .error (badRequest "invalid json")
  | .empty => .error (badRequest "invalid json")
  | .decoded request =>
    match validateAddresses parseAddrPort request.addresses with
    | some message => .error (badRequest message)
    | none =>
      match validateHexField "nonce" request.nonce nonceHexLength with
      | some message => .error (badRequest message)
      | none =>
        match validateHexField "obfs" request.obfs obfsHexLength with
        | some message => .error (badRequest message)
        | none => .ok request

def decodeConnectResponse (nonce : String) (body : Body (List String)) : Except Response (List String) :=
  match validateHexField "nonce" nonce nonceHexLength with
  | some message => .error (badRequest message)
  | none =>
    match body with
    | .malformed => .error (badRequest "invalid json")
    | .empty => .error (badRequest "invalid json")
    | .decoded addresses =>
      match validateAddresses parseAddrPort addresses with
      | some message => .error (badRequest message)
      | none => .ok addresses

end
end OtunKernel.Realm
