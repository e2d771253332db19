import Mathlib.Data.List.Basic

namespace OtunKernel.Sip003

abbrev Bytes := List UInt8

inductive ParseError where
  | finalEscape (s : Bytes)
  | emptyKey

-- map[string][]string; a key that is absent has no values.
abbrev Args := Bytes → List Bytes

def Args.add (args : Args) (key value : Bytes) : Args := fun other => if other = key then args other ++ [value] else args other

-- none is the escape with nothing after it.
def indexUnescaped (term : Bytes) : Bytes → Option (Nat × Bytes)
  | [] => some (0, [])
  | b :: rest =>
    if b ∈ term then some (0, [])
    else if b = 92 then
      match rest with
      | [] => none
      | b :: rest => (indexUnescaped term rest).map (fun found => (found.1 + 2, b :: found.2))
    else (indexUnescaped term rest).map (fun found => (found.1 + 1, b :: found.2))

-- The loop of ParsePluginOptions; s is the rest of the string from i on.
def parseLoop (opts : Args) (s : Bytes) : Except ParseError Args :=
  if s.length = 0 then .ok opts
  else
    match indexUnescaped [61, 59] s with
    | none => .error (.finalEscape s)
    | some (offset, key) =>
      if key.length = 0 then .error .emptyKey
      else if s[offset]? ≠ some 61 then parseLoop (opts.add key [49]) (s.drop (offset + 1))
      else
        match indexUnescaped [59] (s.drop (offset + 1)) with
        | none => .error (.finalEscape (s.drop (offset + 1)))
        | some (after, value) => parseLoop (opts.add key value) (s.drop (offset + 1 + after + 1))
termination_by s.length
decreasing_by all_goals rw [List.length_drop]; omega

def parsePluginOptions (s : Bytes) : Except ParseError Args := parseLoop (fun _ => []) s

def escape : Bytes → Bytes
  | [] => []
  | b :: rest => if b = 59 ∨ b = 61 ∨ b = 92 then 92 :: b :: escape rest else b :: escape rest

def encodePair (pair : Bytes × Bytes) : Bytes := escape pair.1 ++ 61 :: escape pair.2

def encode (final : Bool) : List (Bytes × Bytes) → Bytes
  | [] => if final then [59] else []
  | [pair] => encodePair pair ++ if final then [59] else []
  | pair :: rest => encodePair pair ++ 59 :: encode final rest

def valuesOf (pairs : List (Bytes × Bytes)) : Args := fun key => (pairs.filter (·.1 = key)).map (·.2)

theorem index_unescaped_escape {term : Bytes} (special : ∀ b ∈ term, b = 59 ∨ b = 61) (bytes : Bytes) {rest : Bytes}
    (ends : ∀ b ∈ rest.head?, b ∈ term) : indexUnescaped term (escape bytes ++ rest) = some ((escape bytes).length, bytes) := by
  induction bytes with
  | nil =>
    cases rest with
    | nil => rfl
    | cons b rest =>
      unfold indexUnescaped
      exact if_pos (ends b rfl)
  | cons b bytes later =>
    rw [escape]
    split_ifs with escaped
    · have backslash : (92 : UInt8) ∉ term := fun there => by simpa using special _ there
      rw [List.cons_append, List.cons_append, indexUnescaped, if_neg backslash, later]
      rfl
    · have plain : b ∉ term := fun there => escaped (by cases special b there <;> simp [*])
      have other : b ≠ 92 := fun same => escaped (by simp [same])
      unfold indexUnescaped
      simp [plain, other, later]

theorem parse_loop_pair (opts : Args) {key : Bytes} (named : key ≠ []) (value rest : Bytes) (ends : ∀ b ∈ rest.head?, b = 59) :
    parseLoop opts (encodePair (key, value) ++ rest) = parseLoop (opts.add key value) (rest.drop 1) := by
  have first : indexUnescaped [61, 59] (escape key ++ 61 :: (escape value ++ rest)) = some ((escape key).length, key) :=
    index_unescaped_escape (by simp) key (by simp)
  have second : indexUnescaped [59] (escape value ++ rest) = some ((escape value).length, value) :=
    index_unescaped_escape (by simp) value (by simpa using ends)
  have dropped : (escape key ++ 61 :: (escape value ++ rest)).drop ((escape key).length + 1) = escape value ++ rest := by
    simp [List.drop_append]
  rw [parseLoop, encodePair, List.append_assoc, List.cons_append, first]
  simp only [dropped, second, ← List.drop_drop]
  simp [named]

theorem parse_loop_encoded {pairs : List (Bytes × Bytes)} (named : ∀ pair ∈ pairs, pair.1 ≠ []) (final : Bool) (opts : Args) :
    parseLoop opts (encode final pairs) =
      if pairs = [] ∧ final then .error .emptyKey else .ok (fun key => opts key ++ valuesOf pairs key) := by
  induction pairs generalizing opts with
  | nil =>
    rw [encode, parseLoop]
    cases final
    · simp [valuesOf]
    · rfl
  | cons pair pairs later =>
    have added (key : Bytes) : opts key ++ valuesOf (pair :: pairs) key = opts.add pair.1 pair.2 key ++ valuesOf pairs key := by
      by_cases same : key = pair.1
      · simp [Args.add, valuesOf, same]
      · simp [Args.add, valuesOf, same, Ne.symm same]
    have first := parse_loop_pair opts (named pair List.mem_cons_self) pair.2
    simp only [added, List.cons_ne_nil, false_and, if_false]
    cases pairs with
    | nil =>
      rw [encode, first _ (by cases final <;> simp)]
      cases final <;> simp [parseLoop, valuesOf]
    | cons next pairs =>
      rw [encode, first _ (by simp), List.drop_one, List.tail_cons, later (fun other there => named other (.tail _ there))]
      · simp
      · simp

-- The lone semicolon, which a list without pairs has, is refused.
theorem parse_encoded {pairs : List (Bytes × Bytes)} (named : ∀ pair ∈ pairs, pair.1 ≠ []) (final : Bool) :
    parsePluginOptions (encode final pairs) = if pairs = [] ∧ final then .error .emptyKey else .ok (valuesOf pairs) := by
  rw [parsePluginOptions, parse_loop_encoded named]
  simp

theorem parse_encoded_specials :
    parsePluginOptions (encode true [([59, 61], [92]), ([97], [])]) = .ok (valuesOf [([59, 61], [92]), ([97], [])]) :=
  parse_encoded (by simp) true

theorem lone_semicolon_refused : parsePluginOptions (encode true []) = .error .emptyKey := by
  rw [parsePluginOptions, parseLoop]
  rfl

end OtunKernel.Sip003
