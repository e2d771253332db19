import Mathlib.Logic.Function.Basic
import OtunKernel.Lib.Bytes

namespace OtunKernel.Websocket

open Lib

-- http.Header by its canonical keys.
abbrev Header := String → List String

structure URL where
  host : String
  path : Bytes
deriving DecidableEq

structure Client where
  requestURL : URL
  headers : Header
  maxEarlyData : Nat
  earlyDataHeaderName : String

structure UpgradeRequest where
  url : URL
  headers : Header
  protocols : List String

section

-- http.CanonicalHeaderKey, and base64.RawURLEncoding.
variable (canonical : String → String) (encode : Bytes → Bytes) (text : Bytes → String)

def Header.get (header : Header) (key : String) : String := (header (canonical key)).headD ""

def Header.del (header : Header) (key : String) : Header := Function.update header (canonical key) []

def Header.set (header : Header) (key value : String) : Header := Function.update header (canonical key) [value]

def protocolKey : String := "Sec-WebSocket-Protocol"

-- The headers that dialContext is given, as it leaves them, and the request.
def upgradeRequest (url : URL) (headers : Header) : UpgradeRequest × Header :=
  let protocolHeader := headers.get canonical protocolKey
  if protocolHeader ≠ "" then
    let headers := headers.del canonical protocolKey
    (⟨url, headers, [protocolHeader]⟩, headers)
  else (⟨url, headers, []⟩, headers)

-- A dial, at once or by the first write of content; the map of the client is
-- given to dialContext itself or as a clone.
def Client.dial (client : Client) (content : Bytes) : UpgradeRequest × Client :=
  let earlyData := content.take client.maxEarlyData
  if earlyData = [] then
    let (request, headers) := upgradeRequest canonical client.requestURL client.headers
    (request, { client with headers := headers })
  else if client.earlyDataHeaderName = "" then
    let requestURL := { client.requestURL with path := client.requestURL.path ++ encode earlyData }
    let (request, headers) := upgradeRequest canonical requestURL client.headers
    (request, { client with headers := headers })
  else
    let headers := client.headers.set canonical client.earlyDataHeaderName (text (encode earlyData))
    ((upgradeRequest canonical client.requestURL headers).1, client)

-- connected tells whether the connection below comes about; without it nothing
-- is sent.
structure DialCall where
  content : Bytes
  connected : Bool

def Client.dialAll : Client → List DialCall → List UpgradeRequest
  | _, [] => []
  | client, call :: calls =>
    if call.connected then
      (client.dial canonical encode text call.content).1 ::
        Client.dialAll (client.dial canonical encode text call.content).2 calls
    else Client.dialAll client calls

-- Dialer.Protocols is sent as Sec-WebSocket-Protocol.
def UpgradeRequest.carried (request : UpgradeRequest) (key : String) : List String :=
  request.headers key ++ if key = canonical protocolKey then request.protocols else []

-- The configured host, path, headers and sub-protocol, plus the early data of
-- this dial.
structure Client.Configured (client : Client) (content : Bytes) (request : UpgradeRequest) : Prop where
  host : request.url.host = client.requestURL.host
  path : request.url.path = client.requestURL.path ++
    if client.earlyDataHeaderName = "" ∧ content.take client.maxEarlyData ≠ [] then encode (content.take client.maxEarlyData) else []
  headers : ∀ key, request.carried canonical key = client.headers key ++
    if client.earlyDataHeaderName ≠ "" ∧ content.take client.maxEarlyData ≠ [] ∧ key = canonical client.earlyDataHeaderName then
      [text (encode (content.take client.maxEarlyData))] else []

theorem upgrade_keeps {url : URL} {headers : Header} (absent : headers.get canonical protocolKey = "") :
    (upgradeRequest canonical url headers).2 = headers := by
  simp [upgradeRequest, absent]

theorem dial_keeps {client : Client} (absent : client.headers.get canonical protocolKey = "") (content : Bytes) :
    (client.dial canonical encode text content).2 = client := by
  simp only [Client.dial]
  split
  · rw [upgrade_keeps canonical absent]
  split
  · rw [upgrade_keeps canonical absent]
  · rfl

theorem carried_upgrade (url : URL) (headers : Header) (key : String) :
    (upgradeRequest canonical url headers).1.carried canonical key =
      if key = canonical protocolKey ∧ headers.get canonical protocolKey ≠ "" then [headers.get canonical protocolKey]
      else headers key := by
  by_cases present : headers.get canonical protocolKey = "" <;> by_cases same : key = canonical protocolKey <;>
    simp [upgradeRequest, UpgradeRequest.carried, Header.del, present, same]

theorem carried_early (headers : Header) (name : String) (url : URL) (value key : String) :
    (upgradeRequest canonical url (headers.set canonical name value)).1.carried canonical key =
      if key = canonical name then [value] else (upgradeRequest canonical url headers).1.carried canonical key := by
  have at_key (key : String) : headers.set canonical name value key = if key = canonical name then [value] else headers key :=
    Function.update_apply headers (canonical name) [value] key
  rw [carried_upgrade, carried_upgrade]
  -- the early data may itself be the sub-protocol
  grind [Header.get]

theorem dial_configured {client : Client} (absent : client.headers.get canonical protocolKey = "")
    (free : client.maxEarlyData = 0 ∨ client.earlyDataHeaderName = "" ∨ client.headers (canonical client.earlyDataHeaderName) = [])
    (content : Bytes) :
    client.Configured canonical encode text content (client.dial canonical encode text content).1 := by
  have plain (url : URL) (key : String) :
      (upgradeRequest canonical url client.headers).1.carried canonical key = client.headers key := by
    rw [carried_upgrade, if_neg (by simp [absent])]
  by_cases early : content.take client.maxEarlyData = []
  · constructor <;> simp [Client.dial, early, plain] <;> simp [upgradeRequest, absent]
  by_cases unnamed : client.earlyDataHeaderName = ""
  · constructor <;> simp [Client.dial, early, unnamed, plain] <;> simp [upgradeRequest, absent]
  have unset : client.headers (canonical client.earlyDataHeaderName) = [] := by
    rcases free with none | same | unset
    · simp [none] at early
    · exact absurd same unnamed
    · exact unset
  constructor
  · grind [Client.dial, upgradeRequest]
  · grind [Client.dial, upgradeRequest]
  intro key
  simp only [Client.dial, if_neg early, if_neg unnamed, carried_early, plain]
  grind

end

def chatClient : Client where
  requestURL := ⟨"example.org", [47]⟩
  headers := Function.update (fun _ => []) protocolKey ["chat"]
  maxEarlyData := 0
  earlyDataHeaderName := ""

-- What the server sends, in the segments in which it is read.
structure ServerStream where
  response : Bytes
  frames : Bytes
  segments : List Bytes
  sent : segments.flatten = response ++ frames

-- bufio.NewCachedConn, and the bytes that a connection delivers.
structure Conns (K : Type) where
  newCachedConn : K → Bytes → K
  delivers : K → Bytes
  delivers_cached : ∀ conn buffer, delivers (newCachedConn conn buffer) = buffer ++ delivers conn

section
variable {K : Type} (conns : Conns K)

-- ws.Dialer.Upgrade reads segments up to the one that ends the response. What
-- it has read past it is in the reader, which is nil if there is nothing.
structure Upgraded (stream : ServerStream) (reader : Option Bytes) (conn : K) : Prop where
  reads : ∃ front last rest, stream.segments = front ++ last :: rest ∧ front.flatten.length < stream.response.length ∧
    front.flatten ++ last = stream.response ++ reader.getD [] ∧ conns.delivers conn = rest.flatten
  some_bytes : reader ≠ some []

-- dialContext once the upgrade is done. The buffer that is made for the bytes
-- of the reader is empty, and as many bytes are read into it as it has.
def dialContext (reader : Option Bytes) (conn : K) : K :=
  match reader with
  | none => conn
  | some bytes =>
    let buffer : Bytes := []
    conns.newCachedConn conn (buffer ++ bytes.take buffer.length)

theorem delivers_dial (reader : Option Bytes) (conn : K) : conns.delivers (dialContext conns reader conn) = conns.delivers conn := by
  cases reader with
  | none => rfl
  | some => exact conns.delivers_cached _ _

-- Some segment ends where the response does.
def ServerStream.Parted (stream : ServerStream) : Prop :=
  ∃ front rest, stream.segments = front ++ rest ∧ front.flatten = stream.response

variable {stream : ServerStream} {reader : Option Bytes} {conn : K}

theorem reader_empty_iff (upgraded : Upgraded conns stream reader conn) : reader = none ↔ stream.Parted := by
  obtain ⟨before, last, later, segments, short, read, _⟩ := upgraded.reads
  constructor
  · rintro rfl
    exact ⟨before ++ [last], later, by simp [segments], by simpa using read⟩
  rintro ⟨front, rest, parts, same⟩
  -- the segment that ends the response is in the front, with all that was read
  have read_first : before ++ [last] <+: stream.segments := ⟨later, by simp [segments]⟩
  have inside : before ++ [last] <+: front := by
    rcases List.prefix_or_prefix_of_prefix read_first ⟨rest, parts.symm⟩ with inside | longer
    · exact inside
    rcases List.prefix_concat_iff.mp longer with rfl | ⟨more, rfl⟩
    · exact List.prefix_rfl
    · rw [← same, List.flatten_append, List.length_append] at short
      omega
  obtain ⟨more, rfl⟩ := inside
  have whole : stream.response ++ reader.getD [] <+: stream.response := ⟨more.flatten, by rw [← read, ← same]; simp⟩
  have empty : reader.getD [] = [] := by simpa using whole.length_le
  cases reader with
  | none => rfl
  | some => exact absurd (congrArg some empty) upgraded.some_bytes

theorem dial_delivers_iff (stream : ServerStream) (reader : Option Bytes) (conn : K) (upgraded : Upgraded conns stream reader conn) :
    conns.delivers (dialContext conns reader conn) = stream.frames ↔ stream.Parted := by
  rw [delivers_dial, ← reader_empty_iff conns upgraded]
  obtain ⟨before, last, later, segments, _, read, rest⟩ := upgraded.reads
  have sent := stream.sent
  rw [segments, List.flatten_append, List.flatten_cons, ← List.append_assoc, read, List.append_assoc,
    List.append_cancel_left_eq] at sent
  rw [rest, ← sent, eq_comm, List.append_left_eq_self]
  cases reader with
  | none => simp
  | some bytes => simpa using upgraded.some_bytes

end

def byteConns : Conns Bytes where
  newCachedConn conn buffer := buffer ++ conn
  delivers := id
  delivers_cached _ _ := rfl

-- The response and a frame of two bytes in one segment.
def oneSegment : ServerStream where
  response := [1]
  frames := [2, 0]
  segments := [[1, 2, 0]]
  sent := rfl

theorem frames_with_response_counterexample :
    Upgraded byteConns oneSegment (some [2, 0]) [] ∧ byteConns.delivers (dialContext byteConns (some [2, 0]) []) = [] :=
  ⟨⟨⟨[], [1, 2, 0], [], rfl, by decide, rfl, rfl⟩, by decide⟩, rfl⟩

def twoSegments : ServerStream where
  response := [1]
  frames := [2, 0]
  segments := [[1], [2, 0]]
  sent := rfl

theorem frames_after_response_delivered : byteConns.delivers (dialContext byteConns none [2, 0]) = twoSegments.frames :=
  (dial_delivers_iff byteConns twoSegments none [2, 0] ⟨⟨[], [1], [[2, 0]], rfl, by decide, rfl, rfl⟩, by decide⟩).mpr
    ⟨[[1]], [[2, 0]], rfl, rfl⟩

end OtunKernel.Websocket
