import OtunKernel.Quic.Reassembly

namespace OtunKernel.Quic

open Lib Outcome

inductive Client where
  | chromium
  | safari
  | firefox
  | quicGo
  | unknown
deriving DecidableEq

structure Metadata where
  protocol : String := ""
  domain : Bytes := []
  client : Option Client := none
  sniffContext : Option (List CryptoFragment) := none
deriving DecidableEq

def isZero (slices : List UInt8) : Bool := slices.all (· == 0)

def count (slices : List UInt8) (value : UInt8) : Nat := (slices.filter (· == value)).length

def isQUICGo (fingerprint : ClientHello) : Bool :=
  fingerprint.ellipticCurves.contains 0x11EC || fingerprint.extensions.contains 0xFF01

def greaseBitmask : UInt16 := 0x0F0F

def isSafari (fingerprint : ClientHello) : Bool :=
  fingerprint.versions.length == 2 && fingerprint.versions.getD 0 0 &&& greaseBitmask == 0x0A0A &&
      fingerprint.ellipticCurves.length == 5 && fingerprint.ellipticCurves.getD 0 0 &&& greaseBitmask == 0x0A0A ||
    fingerprint.cipherSuites == [0x1302] && fingerprint.ellipticCurves == [29] && fingerprint.signatureAlgorithms == [0x0403]

def identifyClient (frameTypeList : List UInt8) (fingerprint : ClientHello) : Outcome Empty Client :=
  if frameTypeList.length = 1 then .ok .firefox
  else do
    let first ← indexAt frameTypeList 0
    let afterFirst ← sliceFrom frameTypeList 1
    if first = 0x06 ∧ isZero afterFirst ∧ isSafari fingerprint then .ok .safari
    else do
      let last ← indexAt frameTypeList (frameTypeList.length - 1)
      let beforeLast ← sliceOf frameTypeList 0 (frameTypeList.length - 1)
      if last = 0x06 ∧ isZero beforeLast then .ok .quicGo
      else if 1 < count frameTypeList 0x06 ∨ 0 < count frameTypeList 0x01 then
        if isQUICGo fingerprint then .ok .quicGo else .ok .chromium
      else .ok .unknown

def fingerprinted (metadata : Metadata) (frameTypeList : List UInt8) (fragments : List CryptoFragment) (buffer : Bytes) :
    Outcome Empty (Metadata × Option SniffError) := do
  let metadata := { metadata with protocol := "quic" }
  match ← (compute buffer).attempt with
  | .error err => .ok ({ metadata with sniffContext := some fragments }, some (.needMoreData err))
  | .ok fingerprint =>
    let metadata := { metadata with domain := fingerprint.serverName }
    match metadata.client with
    | some _ => .ok (metadata, none)
    | none => do
      let client ← identifyClient frameTypeList fingerprint
      .ok ({ metadata with client := some client }, none)

def quicClientHello (env : Env) (fuel : Nat) (metadata : Metadata) (packet : Bytes) :
    Outcome Empty (Metadata × Option SniffError) := do
  match ← (collect env packet).attempt with
  | .error err => .ok (metadata, some err)
  | .ok (frameTypeList, fragments) =>
    let fragments := fragments ++ metadata.sniffContext.getD []
    let buffer ← reassemble env fuel fragments
    fingerprinted { metadata with sniffContext := none } frameTypeList fragments buffer

variable {frameTypeList : List UInt8}

theorem identify_client_ok (some_frame : frameTypeList ≠ []) (fingerprint : ClientHello) :
    ∃ client, identifyClient frameTypeList fingerprint = .ok client := by
  have long : 0 < frameTypeList.length := by grind
  rw [identifyClient, index_byte long, index_byte (by omega), slice_from_eq (by omega), slice_of_eq (Nat.zero_le _) (by omega)]
  simp only [ok_bind]
  split_ifs
  all_goals exact ⟨_, rfl⟩

variable {metadata : Metadata} {fragments : List CryptoFragment}

section
variable {buffer : Bytes}

theorem fingerprinted_error {err : ParseError} (computed : compute buffer = .error err) :
    fingerprinted metadata frameTypeList fragments buffer =
      .ok ({ metadata with protocol := "quic", sniffContext := some fragments }, some (.needMoreData err)) := by
  simp [fingerprinted, computed]

variable {fingerprint : ClientHello}

section
variable (computed : compute buffer = .ok fingerprint) {after : Metadata} {err : Option SniffError}
variable (done : fingerprinted metadata frameTypeList fragments buffer = .ok (after, err))
include computed done

theorem fingerprinted_ok : after.sniffContext = metadata.sniffContext ∧ err = none := by
  rw [fingerprinted, computed, attempt_ok, ok_bind] at done
  dsimp only at done
  split at done
  · grind
  obtain ⟨_, _, returned⟩ := Outcome.bind_eq_ok.mp done
  cases returned
  exact ⟨rfl, rfl⟩

theorem fingerprinted_protocol : after.protocol = "quic" := by
  rw [fingerprinted, computed, attempt_ok, ok_bind] at done
  dsimp only at done
  split at done
  · cases done
    rfl
  obtain ⟨_, _, returned⟩ := Outcome.bind_eq_ok.mp done
  cases returned
  rfl

end

theorem fingerprinted_returns (computed : compute buffer = .ok fingerprint) (some_frame : frameTypeList ≠ []) :
    ∃ result, fingerprinted metadata frameTypeList fragments buffer = .ok result := by
  obtain ⟨_, identified⟩ := identify_client_ok some_frame fingerprint
  rw [fingerprinted, computed, attempt_ok, ok_bind]
  dsimp only
  split
  · exact ⟨_, rfl⟩
  rw [identified]
  exact ⟨_, rfl⟩

end

section
variable {env : Env} {fuel : Nat} {packet : Bytes}

theorem hello_rejected {err : SniffError} (failed : collect env packet = .error err) :
    quicClientHello env fuel metadata packet = .ok (metadata, some err) := by
  simp [quicClientHello, failed]

theorem hello_collected (collected : collect env packet = .ok (frameTypeList, fragments)) :
    quicClientHello env fuel metadata packet = (reassemble env fuel (fragments ++ metadata.sniffContext.getD []) >>=
      fingerprinted { metadata with sniffContext := none } frameTypeList (fragments ++ metadata.sniffContext.getD [])) := by
  simp [quicClientHello, collected]

theorem hello_context {after : Metadata} {err : Option SniffError}
    (done : quicClientHello env fuel metadata packet = .ok (after, err)) :
    after.sniffContext = metadata.sniffContext ∨ after.sniffContext = none ∨
      ∃ fragments buffer cause, after.sniffContext = some fragments ∧ reassemble env fuel fragments = .ok buffer ∧
        compute buffer = .error cause := by
  cases collected : collect env packet with
  | error =>
    rw [hello_rejected collected] at done
    cases done
    exact .inl rfl
  | ok frames =>
    rw [hello_collected collected] at done
    obtain ⟨buffer, built, done⟩ := Outcome.bind_eq_ok.mp done
    right
    cases computed : compute buffer with
    | ok => exact .inl (fingerprinted_ok computed done).1
    | error cause =>
      rw [fingerprinted_error computed] at done
      grind
    | panic | running => simp_all [fingerprinted]
  | panic | running =>
    simp [quicClientHello, collected] at done

end

inductive Left (env : Env) : Option (List CryptoFragment) → Prop where
  | fresh : Left env none
  | packet {fuel : Nat} {metadata after : Metadata} {packet : Bytes} {err : Option SniffError}
      (before : Left env metadata.sniffContext) (done : quicClientHello env fuel metadata packet = .ok (after, err)) :
      Left env after.sniffContext

variable {env : Env} {fuel : Nat} {buffer : Bytes} {context : Option (List CryptoFragment)}

theorem compute_no_fragments (built : reassemble env fuel [] = .ok buffer) : compute buffer = .error (.length 3) := by
  have found := (reassemble_ok_iff.mp built).2
  cases fuel with
  | zero => cases found
  | succ =>
    cases found
    decide

theorem left_fails (left : Left env context)
    (built : reassemble env fuel (context.getD []) = .ok buffer) : ∃ cause, compute buffer = .error cause := by
  induction left generalizing fuel buffer with
  | fresh => exact ⟨_, compute_no_fragments built⟩
  | packet _ done ih =>
    rcases hello_context done with same | cleared | ⟨fragments, other, cause, kept, rebuilt, computed⟩
    · grind
    · rw [cleared] at built
      exact ⟨_, compute_no_fragments built⟩
    grind [find_loop_agrees, reassemble_ok_iff]

-- The CRYPTO frames lie in their packet, the buffer can be made, the fragments lead
-- on, and the lists of the hello lie in their extensions.
structure Tame (env : Env) (context : Option (List CryptoFragment)) (packet : Bytes) : Prop where
  frames : ∀ plain, unprotect env packet = .ok plain → FramesFit plain
  sized : ∀ frameTypeList fragments, collect env packet = .ok (frameTypeList, fragments) →
    5 + frameLen (fragments ++ context.getD []) ≤ env.maxAlloc
  advances : ∀ frameTypeList fragments, collect env packet = .ok (frameTypeList, fragments) →
    fragmentSpans.Advances (fragments ++ context.getD [])
  hello : ∀ frameTypeList fragments, collect env packet = .ok (frameTypeList, fragments) →
    ∀ fuel buffer, findLoop env (fragments ++ context.getD []) fuel = .ok buffer → HelloFits buffer

section
variable {env : Env} {packet : Bytes}

theorem collect_frames {fragments : List CryptoFragment}
    (collected : collect env packet = .ok (frameTypeList, fragments)) : fragments.length ≤ frameTypeList.length := by
  obtain ⟨_, _, read⟩ := Outcome.bind_eq_ok.mp collected
  exact read_frames_count read

theorem collect_ends (frames : ∀ plain, unprotect env packet = .ok plain → FramesFit plain) :
    (collect env packet).Ensures (fun _ => True) := by
  have opened := unprotect_ends env packet
  rw [collect]
  cases plain : unprotect env packet with
  | ok plain' =>
    rw [ok_bind]
    cases read : readFrames plain' with
    | ok | error => trivial
    | panic => grind [read_frames_panic_iff]
    | running => exact read_frames_end plain' read
  | error => trivial
  | panic => exact opened.not_panic plain
  | running => exact opened.not_running plain

theorem tame_of_returned {fuel : Nat} {result : Metadata × Option SniffError}
    (done : quicClientHello env fuel metadata packet = .ok result) : Tame env metadata.sniffContext packet := by
  have built : ∀ frameTypeList fragments, collect env packet = .ok (frameTypeList, fragments) →
      ∃ buffer, reassemble env fuel (fragments ++ metadata.sniffContext.getD []) = .ok buffer ∧ compute buffer ≠ .panic := by
    intro frameTypeList fragments collected
    rw [hello_collected collected] at done
    obtain ⟨buffer, built, finished⟩ := Outcome.bind_eq_ok.mp done
    refine ⟨buffer, built, fun panics => ?_⟩
    simp [fingerprinted, panics] at finished
  constructor
  · intro plain opened
    refine Classical.not_not.mp (fun cut => ?_)
    simp [quicClientHello, collect, opened, ok_bind, (read_frames_panic_iff plain).mpr cut] at done
  · intro frameTypeList fragments collected
    obtain ⟨buffer, built, _⟩ := built frameTypeList fragments collected
    exact (reassemble_ok_iff.mp built).1
  · intro frameTypeList fragments collected
    obtain ⟨buffer, built, _⟩ := built frameTypeList fragments collected
    exact find_loop_advances (reassemble_ok_iff.mp built).2
  grind [find_loop_agrees, reassemble_ok_iff, compute_panics_iff]

theorem returned_of_tame (left : Left env metadata.sniffContext) (tame : Tame env metadata.sniffContext packet) :
    ∃ fuel result, quicClientHello env fuel metadata packet = .ok result := by
  have ends := collect_ends tame.frames
  cases collected : collect env packet with
  | error => exact ⟨0, _, hello_rejected collected⟩
  | panic => exact absurd collected ends.not_panic
  | running => exact absurd collected ends.not_running
  | ok frames =>
    obtain ⟨_, fragments⟩ := frames
    obtain ⟨buffer, found⟩ := find_loop_ends (tame.advances _ _ collected) (Nat.lt_succ_self _)
    have built := reassemble_ok_iff.mpr ⟨tame.sized _ _ collected, found⟩
    have fits := tame.hello _ _ collected _ _ found
    refine ⟨frameLen (fragments ++ metadata.sniffContext.getD []) + 1, ?_⟩
    rw [hello_collected collected, built]
    cases computed : compute buffer with
    | error => exact ⟨_, fingerprinted_error computed⟩
    | panic => grind [compute_panics_iff]
    | running => exact absurd computed (compute_ends buffer)
    | ok =>
      refine fingerprinted_returns computed (fun no_frame => ?_)
      have counted := collect_frames collected
      rw [no_frame, List.length_nil, Nat.le_zero, List.length_eq_zero_iff] at counted
      rw [counted] at built
      obtain ⟨_, failed⟩ := left_fails left built
      simp [failed] at computed

end

theorem quic_client_hello_returns_iff (env : Env) (metadata : Metadata) (packet : Bytes) (left : Left env metadata.sniffContext) :
    (∃ fuel result, quicClientHello env fuel metadata packet = .ok result) ↔ Tame env metadata.sniffContext packet := by
  constructor
  · rintro ⟨_, _, done⟩
    exact tame_of_returned done
  · exact returned_of_tame left

def earlyFragment : CryptoFragment where
  offset := toUvarint 0
  length := toUvarint 2
  payload := [1, 2]
  whole := rfl

def lateFragment : CryptoFragment where
  offset := toUvarint 2
  length := toUvarint 2
  payload := [3, 4]
  whole := rfl

def lateMetadata : Metadata := { protocol := "quic", sniffContext := some [lateFragment] }

theorem late_fragment_first :
    quicClientHello clearEnv 3 {} (clearPacket [6, 2, 2, 3, 4]) = .ok (lateMetadata, some (.needMoreData (.length 2))) := by
  decide

theorem quic_client_hello_returns_example : Tame clearEnv lateMetadata.sniffContext (clearPacket [6, 0, 2, 1, 2]) := by
  have left : Left clearEnv lateMetadata.sniffContext :=
    .packet (show Left clearEnv ({} : Metadata).sniffContext from .fresh) late_fragment_first
  refine (quic_client_hello_returns_iff clearEnv lateMetadata _ left).mp
    ⟨5, ({ lateMetadata with sniffContext := some [earlyFragment, lateFragment] }, some (.needMoreData (.length 3))), ?_⟩
  decide

theorem long_crypto_counterexample :
    quicClientHello clearEnv 1 {} (clearPacket [6, 0, 0xff, 0xff, 0xff, 0xff, 0xff, 0xff, 0xff, 0xff]) = .panic := by
  have panics : collect clearEnv (clearPacket [6, 0, 0xff, 0xff, 0xff, 0xff, 0xff, 0xff, 0xff, 0xff]) = .panic := by decide
  simp [quicClientHello, panics]

inductive Flow (env : Env) : List CryptoFragment → Option (List CryptoFragment) → Prop where
  | start : Flow env [] none
  | packet {received fragments : List CryptoFragment} {fuel : Nat} {metadata after : Metadata} {packet : Bytes}
      {frameTypeList : List UInt8} {cause : ParseError} (before : Flow env received metadata.sniffContext)
      (collected : collect env packet = .ok (frameTypeList, fragments))
      (done : quicClientHello env fuel metadata packet = .ok (after, some (.needMoreData cause))) :
      Flow env (received ++ fragments) after.sniffContext
  | rejected {received : List CryptoFragment} {fuel : Nat} {metadata after : Metadata} {packet : Bytes} {err : SniffError}
      (before : Flow env received metadata.sniffContext) (failed : collect env packet = .error err)
      (done : quicClientHello env fuel metadata packet = .ok (after, some err)) : Flow env received after.sniffContext

theorem flow_context {received : List CryptoFragment} (flow : Flow env received context) : (context.getD []).Perm received := by
  induction flow with
  | start => exact .refl _
  | @packet _ fragments _ metadata after _ _ _ _ collected done ih =>
    rw [hello_collected collected] at done
    obtain ⟨buffer, _, finished⟩ := Outcome.bind_eq_ok.mp done
    have kept : after.sniffContext = some (fragments ++ metadata.sniffContext.getD []) := by
      cases computed : compute buffer with
      | ok => cases (fingerprinted_ok computed finished).2
      | error =>
        rw [fingerprinted_error computed] at finished
        cases finished
        rfl
      | panic | running => simp_all [fingerprinted]
    simpa [kept] using List.perm_append_comm.trans (ih.append_right fragments)
  | rejected _ failed done ih =>
    rw [hello_rejected failed] at done
    cases done
    exact ih

theorem Cut.perm {stream : Bytes} {fragments other : List CryptoFragment} (cut : Cut stream fragments)
    (same : ∀ fragment, fragment ∈ other → fragment ∈ fragments) : Cut stream other where
  nonempty fragment member := cut.nonempty fragment (same fragment member)
  pieces fragment member := cut.pieces fragment (same fragment member)
  separate fragment member second member' := cut.separate fragment (same fragment member) second (same second member')

theorem hello_is_longest_prefix (env : Env) {received fragments : List CryptoFragment} {metadata : Metadata}
    (flow : Flow env received metadata.sniffContext) {packet : Bytes} {frameTypeList : List UInt8}
    (collected : collect env packet = .ok (frameTypeList, fragments)) {stream : Bytes} (cut : Cut stream (received ++ fragments)) :
    ∃ length, fragmentSpans.LongestPrefix (received ++ fragments) length ∧
      ∀ fuel, frameLen (received ++ fragments) < fuel →
        quicClientHello env fuel metadata packet = (env.newSize (5 + frameLen (received ++ fragments)) >>= fun _ =>
          fingerprinted { metadata with sniffContext := none } frameTypeList (fragments ++ metadata.sniffContext.getD [])
            (recordHeader (frameLen (received ++ fragments)) ++ stream.take length)) := by
  have order : (fragments ++ metadata.sniffContext.getD []).Perm (received ++ fragments) :=
    List.perm_append_comm.trans ((flow_context flow).append_right fragments)
  have total : frameLen (fragments ++ metadata.sniffContext.getD []) = frameLen (received ++ fragments) :=
    (order.map _).sum_eq
  obtain ⟨length, longest, found⟩ := find_loop_longest (cut.perm (fun _ => order.mem_iff.mp))
  refine ⟨length, ?_, fun fuel enough => ?_⟩
  · have covered : ∀ position, fragmentSpans.Covered (fragments ++ metadata.sniffContext.getD []) position ↔
        fragmentSpans.Covered (received ++ fragments) position := by
      intro position
      simp only [Spans.Covered, order.mem_iff]
    exact ⟨fun position early => (covered position).mp (longest.1 position early), fun also => longest.2 ((covered length).mpr also)⟩
  rw [hello_collected collected, reassemble, found fuel (by rw [total]; exact enough), total]
  rw [env.allocates]
  split <;> rfl

theorem hello_is_longest_prefix_example :
    quicClientHello clearEnv 5 lateMetadata (clearPacket [6, 0, 2, 1, 2]) =
      fingerprinted { protocol := "quic" } [6] [earlyFragment, lateFragment] (recordHeader 4 ++ [1, 2, 3, 4]) := by
  have flow : Flow clearEnv [lateFragment] lateMetadata.sniffContext :=
    .packet (show Flow clearEnv [] ({} : Metadata).sniffContext from .start)
      (show collect clearEnv _ = .ok ([6], [lateFragment]) by decide) late_fragment_first
  have second : collect clearEnv (clearPacket [6, 0, 2, 1, 2]) = .ok ([6], [earlyFragment]) := by decide
  have cut : Cut [1, 2, 3, 4] [lateFragment, earlyFragment] := by
    constructor
    · decide
    · decide
    rw [Spans.Separate]
    decide
  obtain ⟨_, longest, handed⟩ := hello_is_longest_prefix clearEnv flow second cut
  have whole : fragmentSpans.LongestPrefix [lateFragment, earlyFragment] 4 := by
    constructor
    · simp only [Spans.Covered]
      decide
    rw [Spans.Covered]
    decide
  rw [Spans.longest_prefix_unique longest whole] at handed
  exact handed 5 (by decide)

end OtunKernel.Quic
