import OtunKernel.Geosite.File

namespace OtunKernel.Geosite

open Lib
open Decoder

theorem go_int_small {value : Nat} (small : value < 2 ^ 63) : goInt value = value := by
  rw [goInt]
  grind

section
variable {limit : Nat}

theorem run_read_byte (byte : UInt8) (rest : Bytes) : readByte.run limit none (byte :: rest) = .ok (byte, rest) :=
  run_take_one byte rest

theorem run_read_uvarint {value : Nat} (small : value < 2 ^ 63) (rest : Bytes) :
    readUvarint.run limit none (putUvarint value ++ rest) = .ok (value, rest) :=
  run_decode_uvarint (Nat.lt_trans small (by decide)) rest

theorem run_make_slice {length size : Nat} (accepted : length * size ≤ limit) (rest : Bytes) :
    (makeSlice length size).run limit none rest = .ok ((), rest) := run_make accepted _ _

variable (addressable : limit < 2 ^ 63)
include addressable

theorem run_read_string {value : Bytes} (held : value.length ≤ limit) (rest : Bytes) :
    readString.run limit none (writeString value ++ rest) = .ok (value, rest) := by
  have bytes : (times (fun _ => readByte) value.length 0).run limit none (value.flatMap (fun byte => [byte]) ++ rest) =
      .ok (value.map id, rest) := by grind [run_times, run_read_byte]
  rw [List.flatMap_singleton', List.map_id] at bytes
  rw [writeString, List.append_assoc, readString, run_bind_ok (run_read_uvarint (Nat.lt_of_le_of_lt held addressable) _),
    run_bind_ok (run_make_slice (by rwa [Nat.mul_one]) _)]
  exact bytes

theorem run_read_item {item : Item} (held : item.value.length ≤ limit) (rest : Bytes) :
    readItem.run limit none (writeItem item ++ rest) = .ok (item, rest) := by
  rw [writeItem, List.cons_append, readItem, run_bind_ok (run_read_byte _ _), run_bind_ok (run_read_string addressable held rest)]
  rfl

theorem run_read_items {items : List Item} (made : items.length * itemSize ≤ limit)
    (held : ∀ item ∈ items, item.value.length ≤ limit) (rest : Bytes) :
    (readItems items.length).run limit none (items.flatMap writeItem ++ rest) = .ok (items, rest) := by
  have small : items.length < 2 ^ 63 :=
    Nat.lt_of_le_of_lt (Nat.le_trans (Nat.le_mul_of_pos_right _ (by decide)) made) addressable
  have length : ((items.length : Int) % 2 ^ 64).toNat = items.length := by omega
  have each := run_times (fun _ => readItem) writeItem id
    (fun item member _ rest => run_read_item addressable (held item member) rest) 0 rest
  rw [List.map_id] at each
  rw [readItems, length, run_bind_ok (run_make_slice made _)]
  exact each

variable {code : Bytes}

theorem run_read_entry {domains : GoMap (List Item)} {index : GoMap Nat} (held : code.length ≤ limit)
    (offset : (index.lookup code).getD 0 < 2 ^ 63) (count : (itemsOf domains code).length < 2 ^ 63) (rest : Bytes) :
    readEntry.run limit none (writeEntry domains index code ++ rest) =
      .ok ((code, ((index.lookup code).getD 0 : Nat), ((itemsOf domains code).length : Nat)), rest) := by
  rw [writeEntry, List.append_assoc, List.append_assoc, readEntry, run_bind_ok (run_read_string addressable held _),
    run_bind_ok (run_read_uvarint offset _), run_bind_ok (run_read_uvarint count _), go_int_small offset, go_int_small count]
  rfl

end

section
variable {ν : Type}

def insertAll (value : Bytes → ν) (keys : List Bytes) (map : GoMap ν) : GoMap ν :=
  keys.foldl (fun map code => map.insert code (value code)) map

theorem lookup_insert_all (value : Bytes → ν) (keys : List Bytes) (map : GoMap ν) (code : Bytes) :
    (insertAll value keys map).lookup code = if code ∈ keys then some (value code) else map.lookup code := by
  induction keys generalizing map with
  | nil => simp [insertAll]
  | cons first rest ih =>
    refine (ih _).trans ?_
    by_cases later : code ∈ rest
    · simp [later]
    by_cases same : code = first
    · subst same
      simp [later]
    · simp [later, same, AList.lookup_insert_ne same]

theorem perm_keys_iff {ν' : Type} {first : GoMap ν} {second : GoMap ν'} (same : ∀ code, code ∈ first.keys ↔ code ∈ second.keys) :
    first.keys.Perm second.keys :=
  (List.perm_ext_iff_of_nodup first.nodupKeys second.nodupKeys).mpr same

end

section
variable (domains : GoMap (List Item))

def contentOf (code : Bytes) : Bytes := (itemsOf domains code).flatMap writeItem

theorem write_content_bytes (keys : List Bytes) (start : Bytes × GoMap Nat) :
    (writeContent domains keys start).1 = start.1 ++ keys.flatMap (contentOf domains) := by
  induction keys generalizing start with
  | nil => simp [writeContent]
  | cons _ _ ih =>
    refine (ih _).trans ?_
    rw [List.append_assoc]
    rfl

theorem write_content_other {keys : List Bytes} (start : Bytes × GoMap Nat) (absent : code ∉ keys) :
    (writeContent domains keys start).2.lookup code = start.2.lookup code := by
  induction keys generalizing start with
  | nil => rfl
  | cons _ _ ih => simp_all [List.mem_cons, not_or, writeContent, List.foldl_cons]

theorem write_content_index {before after : List Bytes} (once : code ∉ after) :
    (writeContent domains (before ++ code :: after) ([], ∅)).2.lookup code = some (before.flatMap (contentOf domains)).length := by
  have bytes := write_content_bytes domains before ([], ∅)
  rw [writeContent, List.foldl_append]
  refine (write_content_other domains _ once).trans ?_
  rw [AList.lookup_insert]
  exact congrArg (fun content => some content.length) (bytes.trans (List.nil_append _))

end

-- Everything that the reader makes is no larger than what the writer held, and
-- the file is no larger than a file can be.
structure Held (env : Env) (domains : GoMap (List Item)) (file : Bytes) : Prop where
  codes : domains.keys.length * stringSize ≤ env.maxAlloc
  code : ∀ code ∈ domains.keys, code.length ≤ env.maxAlloc
  items : ∀ code ∈ domains.keys, (itemsOf domains code).length * itemSize ≤ env.maxAlloc
  value : ∀ code ∈ domains.keys, ∀ item ∈ itemsOf domains code, item.value.length ≤ env.maxAlloc
  file : file.length < 2 ^ 63

section
variable {writing env : Env} {domains : GoMap (List Item)}

theorem sorted_keys_perm : (sortedKeys writing domains).Perm domains.keys :=
  (List.mergeSort_perm _ _).trans (writing.ranged_perm _)

def fileIndex (writing : Env) (domains : GoMap (List Item)) : GoMap Nat :=
  (writeContent domains (sortedKeys writing domains) ([], ∅)).2

def fileContent (writing : Env) (domains : GoMap (List Item)) : Bytes := (sortedKeys writing domains).flatMap (contentOf domains)

theorem write_eq : write writing domains = 0 :: (putUvarint (sortedKeys writing domains).length ++
      ((sortedKeys writing domains).flatMap (writeEntry domains (fileIndex writing domains)) ++ fileContent writing domains)) := by
  rw [write, write_content_bytes, List.append_assoc]
  rfl

theorem content_length_le : (fileContent writing domains).length ≤ (write writing domains).length := by
  rw [write_eq, List.length_cons, List.length_append, List.length_append]
  omega

variable {code : Bytes} {reader : Reader}

theorem located (writing : Env) (known : code ∈ domains.keys) :
    ∃ offset, (fileIndex writing domains).lookup code = some offset ∧ offset ≤ (fileContent writing domains).length ∧
      ∃ rest, (fileContent writing domains).drop offset = contentOf domains code ++ rest := by
  obtain ⟨before, after, split⟩ := List.append_of_mem (sorted_keys_perm.mem_iff.mpr known)
  have distinct : (sortedKeys writing domains).Nodup := sorted_keys_perm.nodup_iff.mpr domains.nodupKeys
  rw [split, List.nodup_append, List.nodup_cons] at distinct
  refine ⟨(before.flatMap (contentOf domains)).length, ?_, ?_, after.flatMap (contentOf domains), ?_⟩
  · simpa [fileIndex, split] using write_content_index domains distinct.2.1.1
  · simp_all [fileContent]
  · rw [fileContent, split, List.flatMap_append, List.flatMap_cons, List.drop_left]

theorem insert_entries (value length : Bytes → Int) (keys : List Bytes) (start : GoMap Int × GoMap Int) :
    (keys.map (fun code => (code, value code, length code))).foldl (fun (domainIndex, domainLength) (code, codeIndex, codeLength) =>
        (domainIndex.insert code codeIndex, domainLength.insert code codeLength)) start =
      (insertAll value keys start.1, insertAll length keys start.2) := by
  induction keys generalizing start with
  | nil => rfl
  | cons _ _ ih => exact ih _

def offsetOf (writing : Env) (domains : GoMap (List Item)) (code : Bytes) : Int := ((fileIndex writing domains).lookup code).getD 0

def lengthOf (domains : GoMap (List Item)) (code : Bytes) : Int := (itemsOf domains code).length

def lookupResult (domains : GoMap (List Item)) (code : Bytes) : Outcome GeositeError (List Item) :=
  match domains.lookup code with
  | none => .error (.notExists code)
  | some items => .ok items

structure Serves (domains : GoMap (List Item)) (file : Bytes) (reader : Reader) : Prop where
  content : reader.source.content = file
  index : ∀ code ∈ domains.keys, ∃ index start rest, reader.domainIndex.lookup code = some index ∧
    goInt (reader.metadataIndex + index) = (start : Nat) ∧ file.drop start = contentOf domains code ++ rest
  length : ∀ code ∈ domains.keys, reader.domainLength.lookup code = some ((itemsOf domains code).length : Int)
  unknown : ∀ code, code ∉ domains.keys → reader.domainIndex.lookup code = none

theorem lookup_listed (value : Bytes → Int) (code : Bytes) :
    (insertAll value (sortedKeys writing domains) ∅).lookup code = if code ∈ domains.keys then some (value code) else none := by
  rw [lookup_insert_all]
  simp only [sorted_keys_perm.mem_iff]
  rfl

theorem perm_index_keys : (insertAll (offsetOf writing domains) (sortedKeys writing domains) ∅).keys.Perm domains.keys := by
  refine perm_keys_iff (fun code => ?_)
  rw [← AList.mem_keys, ← AList.lookup_isSome, lookup_listed]
  split <;> simp_all

theorem write_split : ∃ metadata, write writing domains = metadata ++ fileContent writing domains :=
  ⟨0 :: (putUvarint _ ++ List.flatMap _ _), by rw [write_eq, List.cons_append, List.append_assoc]⟩

section
variable (held : Held env domains (write writing domains))
include held

theorem length_small (known : code ∈ domains.keys) : (itemsOf domains code).length < 2 ^ 63 :=
  Nat.lt_of_le_of_lt (Nat.le_trans (Nat.le_mul_of_pos_right _ (by decide)) (held.items code known)) env.addressable

theorem offset_small (known : code ∈ domains.keys) : ((fileIndex writing domains).lookup code).getD 0 < 2 ^ 63 := by
  obtain ⟨_, same, inside, _⟩ := located writing known
  grind [content_length_le, held.file]

theorem run_read_entries : readEntries.run env.maxAlloc none (write writing domains) =
      .ok ((insertAll (offsetOf writing domains) (sortedKeys writing domains) ∅,
        insertAll (lengthOf domains) (sortedKeys writing domains) ∅), fileContent writing domains) := by
  have count : (sortedKeys writing domains).length * stringSize ≤ env.maxAlloc := by
    simp [sorted_keys_perm.length_eq, held.codes]
  have small : (sortedKeys writing domains).length < 2 ^ 63 :=
    Nat.lt_of_le_of_lt (Nat.le_trans (Nat.le_mul_of_pos_right _ (by decide)) count) env.addressable
  have each : ∀ code ∈ sortedKeys writing domains, ∀ (_ : Nat) rest,
      readEntry.run env.maxAlloc none (writeEntry domains (fileIndex writing domains) code ++ rest) =
        .ok ((code, offsetOf writing domains code, lengthOf domains code), rest) := by
    intro code member _ rest
    have known := sorted_keys_perm.mem_iff.mp member
    exact run_read_entry env.addressable (held.code code known) (offset_small held known) (length_small held known) rest
  have entries := run_times (fun _ => readEntry) _ _ each 0 (fileContent writing domains)
  rw [write_eq, readEntries, run_bind_ok (run_read_byte _ _), if_neg (by decide), run_bind_ok (run_read_uvarint small _),
    run_bind_ok (run_make_slice count _), go_int_small small, Int.toNat_natCast, run_bind_ok entries, insert_entries]
  rfl

theorem new_reader_serves :
    ∃ reader codes, newReader env (write writing domains) = .ok (reader, codes) ∧ codes.Perm domains.keys ∧
      Serves domains (write writing domains) reader := by
  have whole : readEntries.run env.maxAlloc none ({ content := write writing domains } : Buffered).rest = _ := run_read_entries held
  obtain ⟨source, read, remains⟩ := run_buffered_ok env.feed whole
  have counted : source.Counted (write writing domains) := by
    have kept := run_buffered_keeps (Buffered.read_byte_counted env.feed) readEntries env.maxAlloc
      (Buffered.start_counted (write writing domains))
    rwa [read] at kept
  obtain ⟨metadata, split⟩ := @write_split writing domains
  have base : (source.count : Int) - source.buffer.length = metadata.length := by
    have total := Buffered.counted_rest counted
    have parts := congrArg List.length split
    rw [remains] at total
    rw [List.length_append] at parts
    omega
  refine ⟨_, _, by rw [newReader, readMetadata, read]; rfl, (env.ranged_perm _).trans perm_index_keys, counted.content, ?_, ?_, ?_⟩
  · intro code known
    obtain ⟨offset, same, _, rest, here⟩ := located writing known
    have small : metadata.length + offset < 2 ^ 63 := by grind [held.file]
    refine ⟨offset, metadata.length + offset, rest, ?_, ?_, ?_⟩
    · rw [lookup_listed, if_pos known, offsetOf, same, Option.getD_some]
    · rw [base]
      exact go_int_small small
    · rw [split, ← List.drop_drop, List.drop_left, here]
  · intro code known
    rw [lookup_listed, if_pos known]
    rfl
  intro code absent
  rw [lookup_listed, if_neg absent]

theorem read_serves (serves : Serves domains (write writing domains) reader) (code : Bytes) :
    (reader.read env code).1 = lookupResult domains code ∧ Serves domains (write writing domains) (reader.read env code).2 := by
  by_cases known : code ∈ domains.keys
  · obtain ⟨_, start, rest, found, offset, here⟩ := serves.index code known
    have sought : (readItems (itemsOf domains code).length).run env.maxAlloc none (reader.source.seek start).rest =
        .ok (itemsOf domains code, rest) := by
      rw [Buffered.rest_seek, serves.content, here]
      exact run_read_items env.addressable (held.items code known) (held.value code known) rest
    obtain ⟨source, read, _⟩ := run_buffered_ok env.feed sought
    have content : source.content = write writing domains := by
      have kept := run_buffered_keeps (fun later (same : later.content = write writing domains) =>
        (Buffered.read_byte_content env.feed later).trans same) (readItems (itemsOf domains code).length) env.maxAlloc
        (show (reader.source.seek start).content = _ from serves.content)
      rwa [read] at kept
    obtain ⟨_, same⟩ := Option.isSome_iff_exists.mp (AList.lookup_isSome.mpr (AList.mem_keys.mpr known))
    rw [Reader.read, found]
    simp only [offset, Int.natCast_nonneg, Int.not_lt.mpr, if_false, serves.length code known, Option.getD_some,
      Int.toNat_natCast, read]
    exact ⟨by rw [lookupResult, itemsOf, same, Option.getD_some], content, serves.index, serves.length, serves.unknown⟩
  rw [Reader.read, serves.unknown code known]
  exact ⟨by rw [lookupResult, AList.lookup_eq_none.mpr known], serves⟩

theorem reads_serve (requests : List Bytes)
    (serves : Serves domains (write writing domains) reader) : reader.reads env requests = requests.map (lookupResult domains) := by
  induction requests generalizing reader with
  | nil => rfl
  | cons code _ ih =>
    obtain ⟨result, still⟩ := read_serves held serves code
    rw [Reader.reads, List.map_cons, result, ih still]

end
end

theorem geosite_round_trip (writing env : Env) (domains : GoMap (List Item)) (held : Held env domains (write writing domains)) :
    ∃ reader codes, newReader env (write writing domains) = .ok (reader, codes) ∧ codes.Perm domains.keys ∧
      ∀ requests, reader.reads env requests = requests.map (fun code =>
        match domains.lookup code with
        | none => .error (.notExists code)
        | some items => .ok items) := by
  obtain ⟨reader, codes, opened, same, serves⟩ := new_reader_serves held
  exact ⟨reader, codes, opened, same, fun requests => reads_serve held requests serves⟩

def plainEnv : Env := ⟨2 ^ 48, by decide, fun _ => 0, id, fun keys => .refl keys⟩

def twoCodes : GoMap (List Item) :=
  AList.insert [0x63, 0x6e] [⟨0, [0x61, 0x2e, 0x63, 0x6e]⟩, ⟨1, [0x62]⟩] (AList.insert [0x75, 0x73] [⟨0, [0x63]⟩] ∅)

theorem geosite_round_trip_example :
    Held plainEnv twoCodes (write plainEnv twoCodes) ∧
      ∃ reader codes, newReader plainEnv (write plainEnv twoCodes) = .ok (reader, codes) ∧ codes.Perm twoCodes.keys ∧
        ∀ requests, reader.reads plainEnv requests = requests.map (fun code =>
          match twoCodes.lookup code with
          | none => .error (.notExists code)
          | some items => .ok items) := by
  have held : Held plainEnv twoCodes (write plainEnv twoCodes) := by
    refine ⟨by decide, by decide, by decide, by decide, ?_⟩
    have sorted : sortedKeys plainEnv twoCodes = [[0x63, 0x6e], [0x75, 0x73]] := List.mergeSort_of_pairwise (by decide)
    rw [write, sorted]
    decide
  exact ⟨held, geosite_round_trip plainEnv plainEnv twoCodes held⟩

end OtunKernel.Geosite
