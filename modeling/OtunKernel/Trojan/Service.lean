import OtunKernel.Lib.PartialMap
import OtunKernel.Trojan.Protocol

namespace OtunKernel.Trojan

open Lib Reader

section
variable (K : Type)

structure UserTable where
  users : K → Option Key
  keys : Key → Option K
  inverse : Inverse users keys

structure Service where
  table : UserTable K
  -- fallbackHandler is not nil
  fallbackHandler : Bool

end

variable {K : Type}

def UserTable.empty : UserTable K :=
  ⟨fun _ => none, fun _ => none, fun _ _ => ⟨fun absent => by contradiction, fun absent => by contradiction⟩⟩

section
variable [DecidableEq K] [ToString K]

def UserTable.add (table : UserTable K) (user : K) (key : Key) (newUser : table.users user = none) (newKey : table.keys key = none) :
    UserTable K where
  users := put table.users user key
  keys := put table.keys key user
  inverse := by
    have linked := inverse_link table.inverse user key newKey
    rwa [newUser] at linked

-- The loop of UpdateUsers, over userList and passwordList by their pairs.
def addUsers (keyOf : String → Key) : List (K × String) → UserTable K → Except String (UserTable K)
  | [], table => .ok table
  | (user, password) :: rest, table =>
    match newUser : table.users user with
    | some _ => .error "user already exists"
    | none =>
      match newKey : table.keys (keyOf password) with
      | some oldUser => .error ("user already exists: password used by " ++ toString oldUser)
      | none => addUsers keyOf rest (table.add user (keyOf password) newUser newKey)

def Service.updateUsers (keyOf : String → Key) (list : List (K × String)) (service : Service K) : Except String (Service K) :=
  match addUsers keyOf list UserTable.empty with
  | .error err => .error err
  | .ok table => .ok { service with table := table }

end

structure CachedConn where
  header : Bytes
  conn : Segmented UInt8

def CachedConn.stream (conn : CachedConn) : Bytes := conn.header ++ conn.conn.stream

-- What becomes of a connection: a handler has it, or an error is returned.
inductive Outcome (K A : Type) where
  | newConnection (user : K) (conn : Segmented UInt8) (destination : A)
  | newPacketConnection (user : K) (conn : Segmented UInt8) (destination : A)
  | handleMuxConnection (user : K) (conn : Segmented UInt8)
  | fallback (conn : CachedConn)
  | failed (err : String)

variable {A : Type} (serializer : Serializer A)

def Service.fallback (service : Service K) (conn : Segmented UInt8) (header : Bytes) (err : String) : Outcome K A :=
  if service.fallbackHandler then .fallback ⟨header, conn⟩ else .failed (err ++ ": fallback disabled")

def readRequest : Reader UInt8 (UInt8 × A) :=
  (cause "skip crlf" (skipN 2)).bind (fun _ =>
    (cause "read command" readByte).bind (fun command =>
      if command = commandTCP ∨ command = commandUDP ∨ command = commandMux then
        (cause "read destination" serializer.readAddrPort).bind (fun destination =>
          (cause "skip crlf" (skipN 2)).bind (fun _ => .done (command, destination)))
      else .fail ("unknown command " ++ toString command.toNat)))

def handle (user : K) : Except String ((UInt8 × A) × Segmented UInt8) → Outcome K A
  | .error err => .failed err
  | .ok ((command, destination), conn) =>
    if command = commandTCP then .newConnection user conn destination
    else if command = commandUDP then .newPacketConnection user conn destination
    else .handleMuxConnection user conn

def Service.newConnection (service : Service K) (conn : Segmented UInt8) : Outcome K A :=
  let header := (conn.read keyLength).1
  let rest := (conn.read keyLength).2.2
  if (conn.read keyLength).2.1 then .failed "EOF"
  else if whole : header.length = keyLength then
    match service.table.keys ⟨header, whole⟩ with
    | some user => handle user ((readRequest serializer).run rest)
    | none => service.fallback rest header "bad request"
  else service.fallback rest header "bad request size"

section
variable (service : Service K) (conn : Segmented UInt8)

def WrittenTCP (key : Key) (destination : A) (payload written : Bytes) : Prop :=
  clientHandshake serializer key destination payload = .ok written ∨
    clientHandshakeBuffer serializer key destination payload = .ok written

def ConnectionServed : Prop :=
  ∀ user key (destination : A) payload written rest, service.table.users user = some key →
    WrittenTCP serializer key destination payload written → conn.stream = written ++ rest →
    ∃ left, service.newConnection serializer conn = .newConnection user left destination ∧ left.stream = payload ++ rest

def PacketConnectionServed : Prop :=
  ∀ user key (destination : A) payload written rest, service.table.users user = some key →
    clientHandshakePacket serializer key destination payload = .ok written → conn.stream = written ++ rest →
    ∃ left frame, service.newConnection serializer conn = .newPacketConnection user left destination ∧
      writePacket serializer destination payload = .ok frame ∧ left.stream = frame ++ rest ∧
      (payload.length < 65536 → ∃ after, (readPacket serializer).run left = .ok ((destination, payload), after) ∧ after.stream = rest)

def Unregistered : Prop :=
  keyLength ≤ conn.stream.length ∧ ∀ user key, service.table.users user = some key → key.val ≠ conn.stream.take keyLength

def FallbackServed : Prop :=
  service.fallbackHandler = true → Unregistered service conn →
    ∃ cached, service.newConnection serializer conn = .fallback cached ∧ cached.stream = conn.stream

def SegmentationIndependent : Prop :=
  ConnectionServed serializer service conn ∧ PacketConnectionServed serializer service conn ∧ FallbackServed serializer service conn

def StartsWithHeader : Prop :=
  ∃ user key, ∃ destination : A, ∃ payload written rest, service.table.users user = some key ∧
    (WrittenTCP serializer key destination payload written ∨ clientHandshakePacket serializer key destination payload = .ok written) ∧
    conn.stream = written ++ rest

def FirstReadWhole : Prop :=
  (StartsWithHeader serializer service conn → (conn.read keyLength).1.length = keyLength) ∧
    (service.fallbackHandler = true → Unregistered service conn → (conn.read keyLength).2.1 = false)

end

section
variable {service : Service K} {conn : Segmented UInt8}

theorem new_connection_ended (ended : (conn.read keyLength).2.1 = true) :
    service.newConnection serializer conn = .failed "EOF" := by
  exact if_pos ended

theorem new_connection_short (going : (conn.read keyLength).2.1 = false) (short : (conn.read keyLength).1.length ≠ keyLength) :
    service.newConnection serializer conn =
      service.fallback (conn.read keyLength).2.2 (conn.read keyLength).1 "bad request size" := by
  grind [Service.newConnection]

theorem new_connection_whole (key : Key) (going : (conn.read keyLength).2.1 = false) (same : (conn.read keyLength).1 = key.val) :
    service.newConnection serializer conn =
      match service.table.keys key with
      | some user => handle user ((readRequest serializer).run (conn.read keyLength).2.2)
      | none => service.fallback (conn.read keyLength).2.2 (conn.read keyLength).1 "bad request" := by
  have whole : (conn.read keyLength).1.length = keyLength := by rw [same, key.property]
  have known : (⟨(conn.read keyLength).1, whole⟩ : Key) = key := Subtype.ext same
  dsimp only [Service.newConnection]
  rw [going, if_neg Bool.false_ne_true, dif_pos whole, known]

theorem first_read_key {key : Key} {tail : Bytes} (whole : (conn.read keyLength).1.length = keyLength)
    (stream : conn.stream = key.val ++ tail) : (conn.read keyLength).1 = key.val ∧ (conn.read keyLength).2.2.stream = tail := by
  have parts := read_stream conn keyLength
  rw [stream] at parts
  exact List.append_inj parts (by rw [whole, key.property])

theorem cached_stream (conn : Segmented UInt8) (size : Nat) :
    (CachedConn.mk (conn.read size).1 (conn.read size).2.2).stream = conn.stream := read_stream conn size

theorem handler_needs_key (service : Service K) (short : (conn.read keyLength).1.length ≠ keyLength) :
    (∃ err, service.newConnection serializer conn = .failed err) ∨
      ∃ cached, service.newConnection serializer conn = .fallback cached := by
  cases ended : (conn.read keyLength).2.1 with
  | true => exact .inl ⟨_, new_connection_ended serializer ended⟩
  | false =>
    rw [new_connection_short serializer ended short, Service.fallback]
    split
    · exact .inr ⟨_, rfl⟩
    · exact .inl ⟨_, rfl⟩

end

variable {destination : A} {key : Key} {service : Service K} {conn : Segmented UInt8}
  {command : UInt8} {addrPort payload written : Bytes}

theorem read_request_written (rest : Bytes) (known : command = commandTCP ∨ command = commandUDP ∨ command = commandMux)
    (accepted : serializer.writeAddrPort destination = .ok addrPort) : (readRequest serializer).parse
    (crlf ++ ([command] ++ (addrPort ++ (crlf ++ rest)))) = .ok ((command, destination), rest) := by
  simp only [readRequest, parse_bind]
  rw [parse_cause_ok (parse_skip _ (by rfl))]
  dsimp only
  rw [parse_cause_ok (parse_byte command _)]
  dsimp only
  rw [if_pos known, parse_bind, parse_cause_ok (serializer.read_written destination addrPort _ accepted)]
  rfl

theorem written_tcp (handshake : WrittenTCP serializer key destination payload written) :
    ∃ addrPort, serializer.writeAddrPort destination = .ok addrPort ∧
      written = key.val ++ (crlf ++ ([commandTCP] ++ (addrPort ++ (crlf ++ payload)))) := by
  unfold WrittenTCP clientHandshake clientHandshakeBuffer at handshake
  cases accepted : serializer.writeAddrPort destination with
  | error => simp [accepted] at handshake
  | ok addrPort => simp_all

theorem written_packet (handshake : clientHandshakePacket serializer key destination payload = .ok written) :
    ∃ addrPort frame, serializer.writeAddrPort destination = .ok addrPort ∧ writePacket serializer destination payload = .ok frame ∧
      written = key.val ++ (crlf ++ ([commandUDP] ++ (addrPort ++ (crlf ++ frame)))) := by
  unfold clientHandshakePacket at handshake
  cases accepted : serializer.writeAddrPort destination with
  | error => simp [accepted] at handshake
  | ok addrPort => simp_all [Except.ok.injEq, writePacket, List.append_assoc]

theorem registered_request {user : K} {rest : Bytes}
    (whole : (conn.read keyLength).1.length = keyLength) (registered : service.table.users user = some key)
    (known : command = commandTCP ∨ command = commandUDP ∨ command = commandMux)
    (accepted : serializer.writeAddrPort destination = .ok addrPort)
    (stream : conn.stream = key.val ++ (crlf ++ ([command] ++ (addrPort ++ (crlf ++ rest))))) :
    ∃ left, service.newConnection serializer conn = handle user (.ok ((command, destination), left)) ∧ left.stream = rest := by
  obtain ⟨same, tail⟩ := first_read_key whole stream
  have going : (conn.read keyLength).2.1 = false := by
    cases reported : (conn.read keyLength).2.1 with
    | false => rfl
    | true =>
      have ended := read_ended reported
      simp [tail] at ended
  have parsed := read_request_written serializer rest known accepted
  rw [← tail] at parsed
  obtain ⟨left, run, stays⟩ := Reader.run_of_parse_ok parsed
  refine ⟨left, ?_, stays⟩
  rw [new_connection_whole serializer key going same, (service.table.inverse user key).mp registered]
  rw [run]

section
variable (whole : StartsWithHeader serializer service conn → (conn.read keyLength).1.length = keyLength)
include whole

theorem connection_served : ConnectionServed serializer service conn := by
  intro user key destination payload written rest registered handshake stream
  have read := whole ⟨user, key, destination, payload, written, rest, registered, .inl handshake, stream⟩
  obtain ⟨_, accepted, rfl⟩ := written_tcp serializer handshake
  simp only [List.append_assoc] at stream
  exact registered_request serializer read registered (.inl rfl) accepted stream

theorem packet_connection_served : PacketConnectionServed serializer service conn := by
  intro user key destination payload written rest registered handshake stream
  have read := whole ⟨user, key, destination, payload, written, rest, registered, .inr handshake, stream⟩
  obtain ⟨_, frame, accepted, framed, rfl⟩ := written_packet serializer handshake
  simp only [List.append_assoc] at stream
  obtain ⟨left, handed, stays⟩ := registered_request serializer read registered (.inr (.inl rfl)) accepted stream
  refine ⟨left, frame, handed, framed, stays, fun bounded => ?_⟩
  have parsed := read_packet_written serializer rest framed bounded
  rw [← stays] at parsed
  exact Reader.run_of_parse_ok parsed

end

theorem unregistered_fallback (present : service.fallbackHandler = true) (unregistered : Unregistered service conn)
    (going : (conn.read keyLength).2.1 = false) :
    service.newConnection serializer conn = .fallback ⟨(conn.read keyLength).1, (conn.read keyLength).2.2⟩ := by
  by_cases whole : (conn.read keyLength).1.length = keyLength
  · have start : (conn.read keyLength).1 = conn.stream.take keyLength := by
      rw [← read_stream conn keyLength, List.take_left' whole]
    have unknown : service.table.keys ⟨(conn.read keyLength).1, whole⟩ = none := by
      cases entry : service.table.keys ⟨(conn.read keyLength).1, whole⟩ with
      | none => rfl
      | some user =>
        have registered := (service.table.inverse user _).mpr entry
        exact absurd start (unregistered.2 user _ registered)
    rw [new_connection_whole serializer ⟨_, whole⟩ going rfl, unknown]
    exact if_pos present
  rw [new_connection_short serializer going whole]
  exact if_pos present

theorem segmentation_independent_iff (service : Service K) (conn : Segmented UInt8) :
    SegmentationIndependent serializer service conn ↔ FirstReadWhole serializer service conn := by
  constructor
  · rintro ⟨connection, packet, fallback⟩
    constructor
    · rintro ⟨user, key, destination, payload, written, rest, registered, handshake, stream⟩
      by_contra short
      have needs := handler_needs_key serializer service short
      rcases handshake with handshake | handshake
      · obtain ⟨left, handed, -⟩ := connection user key destination payload written rest registered handshake stream
        simp [handed] at needs
      obtain ⟨_, _, handed, -⟩ := packet user key destination payload written rest registered handshake stream
      simp [handed] at needs
    intro present unregistered
    obtain ⟨_, handed, -⟩ := fallback present unregistered
    cases reported : (conn.read keyLength).2.1 with
    | false => rfl
    | true =>
      simp [new_connection_ended serializer reported] at handed
  rintro ⟨whole, going⟩
  refine ⟨connection_served serializer whole, packet_connection_served serializer whole, ?_⟩
  intro present unregistered
  grind [unregistered_fallback, cached_stream]

def exampleKey : Key := ⟨List.replicate 56 97, rfl⟩

def exampleService : Service Nat := ⟨UserTable.empty.add 0 exampleKey rfl rfl, true⟩

def splitRequest : Segmented UInt8 :=
  ⟨[List.replicate 30 97, List.replicate 26 97 ++ crlf ++ [commandTCP] ++ exampleDestination.val ++ crlf ++ [71]], false⟩

theorem split_key_falls_back : ¬ SegmentationIndependent ipv4Serializer exampleService splitRequest := by
  rintro ⟨connection, -, -⟩
  obtain ⟨_, handed, -⟩ := connection 0 exampleKey exampleDestination [71] splitRequest.stream [] (by decide)
    (.inl (by rfl)) (List.append_nil _).symm
  rcases handler_needs_key ipv4Serializer exampleService (by decide : (splitRequest.read keyLength).1.length ≠ keyLength)
    with ⟨_, other⟩ | ⟨_, other⟩ <;> rw [handed] at other <;> contradiction

end OtunKernel.Trojan
