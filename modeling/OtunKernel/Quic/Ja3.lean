import OtunKernel.Lib.Bytes

namespace OtunKernel.Quic

open Lib Outcome

inductive ParseError where
  | length (check : Nat)
  | contentType
  | version (check : Nat)
  | handshakeType
  | sniType
deriving DecidableEq

structure ClientHello where
  version : UInt16 := 0
  cipherSuites : List UInt16 := []
  extensions : List UInt16 := []
  ellipticCurves : List UInt16 := []
  ellipticCurvePF : List UInt8 := []
  versions : List UInt16 := []
  signatureAlgorithms : List UInt16 := []
  serverName : Bytes := []
deriving DecidableEq

def readWords (bytes : Bytes) : Nat → Nat → Outcome ParseError (List UInt16)
  | _, 0 => .ok []
  | i, count + 1 => do
    let here ← sliceFrom bytes i
    let word := beUint16 (← indexAt here 0) (← indexAt here 1)
    let later ← readWords bytes (i + 2) count
    .ok (word :: later)

def tlsVersionKnown (version : UInt16) : Bool := version &&& 0xFFFC == 0x0300 || version == 0x0304

def sniExtension (hello : ClientHello) (sex : Bytes) : Outcome ParseError ClientHello :=
  if sex.length < 5 then .error (.length 13)
  else do
    let sniType ← indexAt sex 2
    let sniLen := beUint16 (← indexAt sex 3) (← indexAt sex 4)
    let sex ← sliceFrom sex 5
    if sex.length ≠ sniLen.toNat then .error (.length 14)
    else if sniType ≠ 0 then .error .sniType
    else .ok { hello with serverName := sex }

def ecExtension (hello : ClientHello) (sex : Bytes) : Outcome ParseError ClientHello :=
  if sex.length < 2 then .error (.length 15)
  else do
    let ecsLen := beUint16 (← indexAt sex 0) (← indexAt sex 1)
    let sex ← sliceFrom sex 2
    if sex.length ≠ ecsLen.toNat then .error (.length 16)
    else do
      let ellipticCurves ← readWords sex 0 (ecsLen.toNat / 2)
      .ok { hello with ellipticCurves := ellipticCurves }

def ecpfExtension (hello : ClientHello) (sex : Bytes) : Outcome ParseError ClientHello :=
  if sex.length < 1 then .error (.length 17)
  else do
    let numPF ← indexAt sex 0
    let sex ← sliceFrom sex 1
    if sex.length ≠ numPF.toNat then .error (.length 18) else .ok { hello with ellipticCurvePF := sex }

-- Neither of these two lists is checked against the size of its extension.
def versionExtension (hello : ClientHello) (sex : Bytes) : Outcome ParseError ClientHello :=
  if sex.length < 1 then .error (.length 19)
  else do
    let versionsLen ← indexAt sex 0
    let versions ← readWords (← sliceFrom sex 1) 0 ((versionsLen.toNat + 1) / 2)
    .ok { hello with versions := hello.versions ++ versions }

def signatureAlgorithmsExtension (hello : ClientHello) (sex : Bytes) : Outcome ParseError ClientHello :=
  if sex.length < 2 then .error (.length 20)
  else do
    let ssaLen := beUint16 (← indexAt sex 0) (← indexAt sex 1)
    let signatureAlgorithms ← readWords (← sliceFrom sex 2) 0 ((ssaLen.toNat + 1) / 2)
    .ok { hello with signatureAlgorithms := hello.signatureAlgorithms ++ signatureAlgorithms }

def parseExtension (hello : ClientHello) (exType : UInt16) (sex : Bytes) : Outcome ParseError ClientHello :=
  if exType = 0 then sniExtension hello sex
  else if exType = 10 then ecExtension hello sex
  else if exType = 11 then ecpfExtension hello sex
  else if exType = 43 then versionExtension hello sex
  else if exType = 13 then signatureAlgorithmsExtension hello sex
  else .ok hello

def extensionTurn (state : Bytes × ClientHello) : Outcome ParseError (Turn (Bytes × ClientHello) ClientHello) :=
  let (exs, hello) := state
  if exs.length = 0 then .ok (.leave hello)
  else if exs.length < 4 then .error (.length 11)
  else do
    let exType := beUint16 (← indexAt exs 0) (← indexAt exs 1)
    let exLen := beUint16 (← indexAt exs 2) (← indexAt exs 3)
    let hello := { hello with extensions := hello.extensions ++ [exType] }
    if exs.length < 4 + exLen.toNat then .error (.length 12)
    else do
      let sex ← sliceOf exs 4 (4 + exLen.toNat)
      let hello ← parseExtension hello exType sex
      let exs ← sliceFrom exs (4 + exLen).toNat
      .ok (.next (exs, hello))

-- Each turn takes at least the header off the slice, so that the turns given
-- are enough for any slice too short to wrap the advance.
def parseExtensions (hello : ClientHello) (exs : Bytes) : Outcome ParseError ClientHello :=
  if exs.length = 0 then .ok hello
  else if exs.length < 2 then .error (.length 9)
  else do
    let exsLen := beUint16 (← indexAt exs 0) (← indexAt exs 1)
    let exs ← sliceFrom exs 2
    if exs.length < exsLen.toNat then .error (.length 10)
    else iterate extensionTurn (exs.length + 1) (exs, hello)

def cipherSuitesOf (tlsVersion : UInt16) (cs : Bytes) : Outcome ParseError (ClientHello × Bytes) :=
  if cs.length < 2 then .error (.length 6)
  else do
    let csLen := beUint16 (← indexAt cs 0) (← indexAt cs 1)
    if cs.length < 2 + csLen.toNat + 1 then .error (.length 7)
    else do
      let cipherSuites ← readWords cs 2 (csLen.toNat / 2)
      let compressMethodLen ← indexAt cs (2 + csLen.toNat)
      if cs.length < 2 + csLen.toNat + 1 + compressMethodLen.toNat then .error (.length 8)
      else do
        let exs ← sliceFrom cs (2 + csLen.toNat + 1 + compressMethodLen.toNat)
        .ok ({ version := tlsVersion, cipherSuites := cipherSuites }, exs)

def parseHandshake (hs : Bytes) : Outcome ParseError (ClientHello × Bytes) :=
  if hs.length < 39 then .error (.length 3)
  else do
    if (← indexAt hs 0) ≠ 1 then .error .handshakeType
    else do
      let handshakeLen := (← indexAt hs 1).toNat * 65536 + (← indexAt hs 2).toNat * 256 + (← indexAt hs 3).toNat
      if (← sliceFrom hs 4).length ≠ handshakeLen then .error (.length 4)
      else do
        let tlsVersion := beUint16 (← indexAt hs 4) (← indexAt hs 5)
        if !tlsVersionKnown tlsVersion then .error (.version 2)
        else do
          let sessionIDLen ← indexAt hs 38
          if hs.length < 39 + sessionIDLen.toNat then .error (.length 5)
          else cipherSuitesOf tlsVersion (← sliceFrom hs (39 + sessionIDLen.toNat))

def handshakeOf (segment : Bytes) : Outcome ParseError Bytes :=
  if segment.length < 5 then .error (.length 1)
  else do
    if (← indexAt segment 0) ≠ 22 then .error .contentType
    else do
      let tlsRecordVersion := beUint16 (← indexAt segment 1) (← indexAt segment 2)
      if !tlsVersionKnown tlsRecordVersion then .error (.version 1)
      else do
        let segmentLen := beUint16 (← indexAt segment 3) (← indexAt segment 4)
        if (← sliceFrom segment 5).length < segmentLen.toNat then .error (.length 2)
        else sliceOf segment 5 (5 + segmentLen.toNat)

def parseSegment (segment : Bytes) : Outcome ParseError (ClientHello × Bytes) := do
  parseHandshake (← handshakeOf segment)

def compute (payload : Bytes) : Outcome ParseError ClientHello := do
  let (hello, exs) ← parseSegment payload
  parseExtensions hello exs

variable {bytes sex : Bytes} {i count : Nat} {exType : UInt16}

theorem read_words_ok (fits : i + 2 * count ≤ bytes.length) : ∃ words, readWords bytes i count = .ok words := by
  induction count generalizing i with
  | zero => exact ⟨[], rfl⟩
  | succ _ ih =>
    obtain ⟨later, read⟩ := @ih (i + 2) (by omega)
    refine ⟨beUint16 (bytes.getD i 0) (bytes.getD (i + 1) 0) :: later, ?_⟩
    rw [readWords, slice_from_eq (by omega), ok_bind, index_byte (by rw [List.length_drop]; omega),
      index_byte (by rw [List.length_drop]; omega), Outcome.ok_bind, Outcome.ok_bind, read, getD_drop, getD_drop]
    rfl

theorem read_words_panic (some_word : 0 < count) (cut : bytes.length < i + 2 * count) : readWords bytes i count = .panic := by
  induction count generalizing i with
  | zero => omega
  | succ _ ih =>
    rw [readWords]
    by_cases start : i ≤ bytes.length
    · rw [slice_from_eq start, ok_bind]
      by_cases whole : i + 2 ≤ bytes.length
      · rw [index_byte (by rw [List.length_drop]; omega), index_byte (by rw [List.length_drop]; omega), Outcome.ok_bind,
          Outcome.ok_bind, ih (by omega) (by omega)]
        rfl
      have second : (indexAt (bytes.drop i) 1 : Outcome ParseError UInt8) = .panic := by
        rw [indexAt, List.getElem?_eq_none (by rw [List.length_drop]; omega)]
      rcases index_at_cases (bytes.drop i) 0 with first | ⟨byte, first⟩
      · rw [first]
        rfl
      · simp [first, ok_bind, second]
    have outside : (sliceFrom bytes i : Outcome ParseError Bytes) = .panic := if_neg (fun inside => start inside.1)
    simp [outside]

def ListsFit (exType : UInt16) (sex : Bytes) : Prop :=
  (exType = 43 → 1 ≤ sex.length → 1 + 2 * (((sex.getD 0 0).toNat + 1) / 2) ≤ sex.length) ∧
    (exType = 13 → 2 ≤ sex.length → 2 + 2 * (((uint16At sex 0).toNat + 1) / 2) ≤ sex.length)

section
variable (hello : ClientHello) (sex : Bytes)

theorem sni_extension_ends : (sniExtension hello sex).Ensures (fun _ => True) := by
  rw [sniExtension]
  by_cases short : sex.length < 5
  · rw [if_pos short]
    trivial
  rw [if_neg short]
  simp (disch := omega) only [index_byte, slice_from_eq, ok_bind]
  split
  · trivial
  · split <;> trivial

theorem ec_extension_ends : (ecExtension hello sex).Ensures (fun _ => True) := by
  rw [ecExtension]
  by_cases short : sex.length < 2
  · rw [if_pos short]
    trivial
  rw [if_neg short]
  simp (disch := omega) only [index_byte, slice_from_eq, ok_bind]
  split
  · trivial
  obtain ⟨words, read⟩ : ∃ words, readWords (sex.drop 2) 0 ((beUint16 (sex.getD 0 0) (sex.getD 1 0)).toNat / 2) = .ok words :=
    read_words_ok (by omega)
  rw [read]
  trivial

theorem ecpf_extension_ends : (ecpfExtension hello sex).Ensures (fun _ => True) := by
  rw [ecpfExtension]
  by_cases short : sex.length < 1
  · rw [if_pos short]
    trivial
  rw [if_neg short, index_byte (by omega), ok_bind, slice_from_eq (by omega), ok_bind]
  split <;> trivial

theorem version_extension_ends :
    if 1 ≤ sex.length → 1 + 2 * (((sex.getD 0 0).toNat + 1) / 2) ≤ sex.length then
      (versionExtension hello sex).Ensures (fun _ => True)
    else versionExtension hello sex = .panic := by
  rw [versionExtension]
  by_cases short : sex.length < 1
  · rw [if_pos (by omega), if_pos short]
    trivial
  rw [index_byte (by omega), ok_bind, slice_from_eq (by omega), ok_bind]
  split
  · obtain ⟨words, read⟩ : ∃ words, readWords (sex.drop 1) 0 (((sex.getD 0 0).toNat + 1) / 2) = .ok words :=
      read_words_ok (by rw [List.length_drop]; omega)
    rw [read]
    trivial
  rw [read_words_panic (by omega) (by rw [List.length_drop]; omega)]
  rfl

theorem signature_algorithms_extension_ends :
    if 2 ≤ sex.length → 2 + 2 * (((uint16At sex 0).toNat + 1) / 2) ≤ sex.length then
      (signatureAlgorithmsExtension hello sex).Ensures (fun _ => True)
    else signatureAlgorithmsExtension hello sex = .panic := by
  rw [signatureAlgorithmsExtension]
  by_cases short : sex.length < 2
  · rw [if_pos (by omega), if_pos short]
    trivial
  rw [if_neg short, index_byte (by omega), index_byte (by omega), ok_bind, ok_bind,
    slice_from_eq (by omega), ok_bind, show beUint16 (sex.getD 0 0) (sex.getD 1 0) = uint16At sex 0 from rfl]
  split
  · obtain ⟨words, read⟩ : ∃ words, readWords (sex.drop 2) 0 (((uint16At sex 0).toNat + 1) / 2) = .ok words :=
      read_words_ok (by rw [List.length_drop]; omega)
    rw [read]
    trivial
  rw [read_words_panic (by omega) (by rw [List.length_drop]; omega)]
  rfl

end

theorem parse_extension_ends (fits : ListsFit exType sex) (hello : ClientHello) :
    (parseExtension hello exType sex).Ensures (fun _ => True) := by
  fun_cases parseExtension
  · exact sni_extension_ends hello sex
  · exact ec_extension_ends hello sex
  · exact ecpf_extension_ends hello sex
  · rename_i version
    have ends := version_extension_ends hello sex
    rwa [if_pos (fits.1 version)] at ends
  · rename_i algorithms
    have ends := signature_algorithms_extension_ends hello sex
    rwa [if_pos (fits.2 algorithms)] at ends
  · trivial

theorem parse_extension_panics (cut : ¬ ListsFit exType sex) (hello : ClientHello) : parseExtension hello exType sex = .panic := by
  rcases Classical.not_and_iff_not_or_not.mp cut with lists | lists
  · obtain ⟨rfl, unread⟩ := Classical.not_imp.mp lists
    have ends := version_extension_ends hello sex
    rwa [if_neg unread] at ends
  obtain ⟨rfl, unread⟩ := Classical.not_imp.mp lists
  have ends := signature_algorithms_extension_ends hello sex
  rwa [if_neg unread] at ends

def headExtension (exs : Bytes) : Bytes := (exs.take (4 + (uint16At exs 2).toNat)).drop 4

variable {exs : Bytes}

theorem extension_turn_eq (whole : 4 + (uint16At exs 2).toNat ≤ exs.length) (hello : ClientHello) :
    extensionTurn (exs, hello) =
      (parseExtension { hello with extensions := hello.extensions ++ [uint16At exs 0] } (uint16At exs 0) (headExtension exs) >>=
        fun hello => .ok (.next (exs.drop (4 + uint16At exs 2).toNat, hello))) := by
  have wrapped : (4 + uint16At exs 2).toNat ≤ exs.length := by grind [UInt16.toNat_add]
  rw [extensionTurn, if_neg (by omega), if_neg (by omega)]
  simp (disch := omega) only [index_byte, ok_bind]
  change (if exs.length < 4 + (uint16At exs 2).toNat then _ else
    (sliceOf exs 4 (4 + (uint16At exs 2).toNat) >>= fun sex => _)) = _
  rw [if_neg (Nat.not_lt.mpr whole), slice_of_eq (Nat.le_add_right _ _) whole, ok_bind]
  change (parseExtension _ (uint16At exs 0) (headExtension exs) >>= fun hello =>
    sliceFrom exs (4 + uint16At exs 2).toNat >>= _) = _
  rw [slice_from_eq wrapped]
  rfl

theorem extension_turn_cut (cut : exs.length < 4 + (uint16At exs 2).toNat) (hello : ClientHello) :
    (exs = [] ∧ extensionTurn (exs, hello) = .ok (.leave hello)) ∨ ∃ err, extensionTurn (exs, hello) = .error err := by
  rw [extensionTurn]
  by_cases empty : exs.length = 0
  · grind
  right
  rw [if_neg empty]
  by_cases short : exs.length < 4
  · exact ⟨_, if_pos short⟩
  refine ⟨.length 12, ?_⟩
  rw [if_neg short]
  simp (disch := omega) only [index_byte, ok_bind]
  exact if_pos cut

def HeadFits (exs : Bytes) : Prop :=
  4 + (uint16At exs 2).toNat ≤ exs.length → ListsFit (uint16At exs 0) (headExtension exs)

theorem extension_turn_outcome (exs : Bytes) (hello : ClientHello) : (¬ HeadFits exs ∧ extensionTurn (exs, hello) = .panic) ∨
      (HeadFits exs ∧ (extensionTurn (exs, hello)).Ensures (fun _ => True)) := by
  by_cases whole : 4 + (uint16At exs 2).toNat ≤ exs.length
  · rw [extension_turn_eq whole]
    by_cases fits : ListsFit (uint16At exs 0) (headExtension exs)
    · exact .inr ⟨fun _ => fits, (parse_extension_ends fits _).bind (fun _ _ => trivial)⟩
    · exact .inl ⟨fun head => fits (head whole), by rw [parse_extension_panics fits]; rfl⟩
  refine .inr ⟨fun whole' => absurd whole' whole, ?_⟩
  rcases extension_turn_cut (Nat.not_le.mp whole) hello with ⟨_, left⟩ | ⟨err, failed⟩
  · rw [left]
    trivial
  · rw [failed]
    trivial

theorem extension_turn_panics_iff (exs : Bytes) (hello : ClientHello) : extensionTurn (exs, hello) = .panic ↔ ¬ HeadFits exs := by
  rcases extension_turn_outcome exs hello with ⟨fits, panics⟩ | ⟨fits, ends⟩
  · exact iff_of_true panics fits
  · exact iff_of_false ends.not_panic (not_not_intro fits)

theorem extension_turn_ends (state : Bytes × ClientHello) : extensionTurn state ≠ .running := by
  rcases extension_turn_outcome state.1 state.2 with ⟨_, panics⟩ | ⟨_, ends⟩
  · simp [panics]
  · exact ends.not_running

theorem extension_turn_next {state later : Bytes × ClientHello} (taken : extensionTurn state = .ok (.next later)) :
    4 + (uint16At state.1 2).toNat ≤ state.1.length ∧ later.1 = state.1.drop (4 + uint16At state.1 2).toNat := by
  grind [extension_turn_eq, Outcome.bind_eq_ok, extension_turn_cut]

theorem extensions_end (hello : ClientHello) (record : exs.length < 65536) {fuel : Nat} (enough : exs.length < fuel) :
    iterate extensionTurn fuel (exs, hello) ≠ .running := by
  refine iterate_terminates (fun state => state.1.length < 65536) (fun state => state.1.length) record ?_ ?_ enough
  · exact fun state _ => extension_turn_ends state
  intro state later small taken
  obtain ⟨whole, rest⟩ := extension_turn_next taken
  have exact : (4 + uint16At state.1 2).toNat = 4 + (uint16At state.1 2).toNat := by grind [UInt16.toNat_add]
  rw [rest, List.length_drop]
  omega

def ExtensionsFit (hello : ClientHello) (exs : Bytes) : Prop :=
  2 ≤ exs.length → 2 + (uint16At exs 0).toNat ≤ exs.length →
    ∀ state, Reaches extensionTurn (exs.drop 2, hello) state → HeadFits state.1

theorem parse_extensions_outcome (hello : ClientHello) (record : exs.length < 65536) :
    parseExtensions hello exs ≠ .running ∧ (parseExtensions hello exs = .panic ↔ ¬ ExtensionsFit hello exs) := by
  rw [parseExtensions]
  by_cases header : 2 ≤ exs.length
  · rw [if_neg (by omega), if_neg (by omega), index_byte (by omega), index_byte (by omega), ok_bind, ok_bind,
      slice_from_eq header, ok_bind, List.length_drop]
    change (if exs.length - 2 < (uint16At exs 0).toNat then _ else _) ≠ _ ∧
      ((if exs.length - 2 < (uint16At exs 0).toNat then _ else _) = _ ↔ _)
    by_cases list : 2 + (uint16At exs 0).toNat ≤ exs.length
    · rw [if_neg (by omega)]
      have ends := extensions_end hello (show (exs.drop 2).length < 65536 by rw [List.length_drop]; omega)
        (show (exs.drop 2).length < exs.length - 2 + 1 by rw [List.length_drop]; omega)
      refine ⟨ends, ?_⟩
      rw [iterate_panics_iff (fun state => extension_turn_panics_iff state.1 state.2) ends, ExtensionsFit]
      simp only [header, list, forall_const]
    rw [if_pos (by omega)]
    exact ⟨by simp, iff_of_false (by simp) (not_not_intro (fun _ also => absurd also list))⟩
  have early : (if exs.length = 0 then Outcome.ok hello else if exs.length < 2 then .error (.length 9) else do
      let exsLen := beUint16 (← indexAt exs 0) (← indexAt exs 1)
      let exs ← sliceFrom exs 2
      if exs.length < exsLen.toNat then .error (.length 10)
      else iterate extensionTurn (exs.length + 1) (exs, hello)).Ensures (fun _ => True) := by
    split
    · trivial
    rw [if_pos (by omega)]
    trivial
  exact ⟨early.not_running, iff_of_false early.not_panic (not_not_intro (fun also => absurd also header))⟩

theorem handshake_of_ends (segment : Bytes) : (handshakeOf segment).Ensures (fun hs => hs.length < 65536) := by
  rw [handshakeOf]
  by_cases short : segment.length < 5
  · rw [if_pos short]
    trivial
  rw [if_neg short]
  simp (disch := omega) only [index_byte, slice_from_eq, ok_bind]
  change Outcome.Ensures _ (if _ then _ else if _ then _ else
    if (segment.drop 5).length < (uint16At segment 3).toNat then _ else sliceOf segment 5 (5 + (uint16At segment 3).toNat))
  split
  · trivial
  split
  · trivial
  split
  · trivial
  rename_i whole
  rw [List.length_drop] at whole
  have small := (uint16At segment 3).toNat_lt
  rw [slice_of_eq (by omega) (by omega)]
  change ((segment.take _).drop 5).length < 65536
  rw [List.length_drop, List.length_take]
  omega

theorem cipher_suites_end (tlsVersion : UInt16) (cs : Bytes) :
    (cipherSuitesOf tlsVersion cs).Ensures (fun parsed => parsed.2.length ≤ cs.length) := by
  rw [cipherSuitesOf]
  by_cases short : cs.length < 2
  · rw [if_pos short]
    trivial
  rw [if_neg short, index_byte (by omega), index_byte (by omega)]
  change Outcome.Ensures _ (if cs.length < 2 + (uint16At cs 0).toNat + 1 then _ else
    (readWords cs 2 ((uint16At cs 0).toNat / 2) >>= fun suites => indexAt cs (2 + (uint16At cs 0).toNat) >>= fun methods => _))
  by_cases suites : cs.length < 2 + (uint16At cs 0).toNat + 1
  · rw [if_pos suites]
    trivial
  obtain ⟨words, read⟩ : ∃ words, readWords cs 2 ((uint16At cs 0).toNat / 2) = .ok words := read_words_ok (by omega)
  rw [if_neg suites, read, ok_bind, index_byte (by omega), ok_bind]
  split
  · trivial
  rename_i methods
  rw [slice_from_eq (Nat.not_lt.mp methods)]
  change (cs.drop _).length ≤ cs.length
  rw [List.length_drop]
  omega

theorem parse_handshake_ends (hs : Bytes) : (parseHandshake hs).Ensures (fun parsed => parsed.2.length ≤ hs.length) := by
  rw [parseHandshake]
  by_cases short : hs.length < 39
  · rw [if_pos short]
    trivial
  rw [if_neg short]
  simp (disch := omega) only [index_byte, slice_from_eq, ok_bind]
  split
  · trivial
  split
  · trivial
  split
  · trivial
  by_cases session : hs.length < 39 + (hs.getD 38 0).toNat
  · rw [if_pos session]
    trivial
  rw [if_neg session, slice_from_eq (by omega)]
  refine (?_ : Outcome.Ensures (fun parsed => parsed.2.length ≤ (hs.drop (39 + (hs.getD 38 0).toNat)).length) _).mono ?_
  · exact cipher_suites_end _ _
  · grind

theorem parse_segment_ends (segment : Bytes) : (parseSegment segment).Ensures (fun parsed => parsed.2.length < 65536) := by
  refine (handshake_of_ends segment).bind (fun hs small => ?_)
  exact (parse_handshake_ends hs).mono (fun parsed inside => Nat.lt_of_le_of_lt inside small)

def HelloFits (segment : Bytes) : Prop := ∀ hello exs, parseSegment segment = .ok (hello, exs) → ExtensionsFit hello exs

theorem compute_ends (payload : Bytes) : compute payload ≠ .running := by
  have ends := parse_segment_ends payload
  intro running
  rcases Outcome.bind_eq_running.mp running with running | ⟨⟨hello, exs⟩, parsed, running⟩
  · exact ends.not_running running
  · exact (parse_extensions_outcome hello (ends.of_ok parsed)).1 running

theorem compute_panics_iff (payload : Bytes) : compute payload = .panic ↔ ¬ HelloFits payload := by
  have ends := parse_segment_ends payload
  constructor
  · intro panics fits
    rcases Outcome.bind_eq_panic.mp panics with panics | ⟨⟨hello, exs⟩, parsed, panics⟩
    · exact ends.not_panic panics
    · exact (parse_extensions_outcome hello (ends.of_ok parsed)).2.mp panics (fits hello exs parsed)
  intro cut
  simp only [HelloFits, Classical.not_forall] at cut
  obtain ⟨hello, exs, parsed, unfit⟩ := cut
  refine Outcome.bind_eq_panic.mpr (.inr ⟨(hello, exs), parsed, ?_⟩)
  exact (parse_extensions_outcome hello (ends.of_ok parsed)).2.mpr unfit

theorem compute_returns_iff (payload : Bytes) :
    compute payload ≠ .running ∧ ((compute payload).Returns ↔ HelloFits payload) := by
  have ends := compute_ends payload
  grind [returns_iff, compute_panics_iff]

theorem short_versions_counterexample :
    compute ([22, 3, 1, 0, 49, 1, 0, 0, 45, 3, 3] ++ List.replicate 32 0 ++
      [0, 0, 0, 0, 0, 5, 0, 43, 0, 1, 2]) = .panic := by
  decide

end OtunKernel.Quic
