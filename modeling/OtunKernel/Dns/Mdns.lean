import Mathlib.Data.List.Induction
import Mathlib.Data.List.Nodup
import Mathlib.Data.List.ReduceOption

namespace OtunKernel.Dns.Mdns

-- A record stands for its String(), by which mergeResponse compares; a response
-- is one that validResponse accepts, after normalizeResponse.
structure Response (R : Type) where
  answer : List R := []
  ns : List R := []
  extra : List R := []
deriving DecidableEq

variable {R : Type} [DecidableEq R]

def appendRecords (seenRecords destination : List R) : List R → List R × List R
  | [] => (destination, seenRecords)
  | record :: rest =>
    if record ∈ seenRecords then appendRecords seenRecords destination rest
    else appendRecords (record :: seenRecords) (destination ++ [record]) rest

def mergeResponse (state : Response R × List R) (source : Response R) : Response R × List R :=
  let answer := appendRecords state.2 state.1.answer source.answer
  let ns := appendRecords answer.2 state.1.ns source.ns
  let extra := appendRecords ns.2 state.1.extra source.extra
  (⟨answer.1, ns.1, extra.1⟩, extra.2)

def merge (sources : List (Response R)) : Option (Response R) :=
  let response := (sources.foldl mergeResponse ({}, [])).1
  if response = {} then none else some response

-- The targets in the order in which their results are collected, each with
-- what it receives before its read times out; none is one that fails.
def exchange (targets : List (Option (List (Response R)))) : Option (Response R) :=
  merge (targets.reduceOption.filterMap merge)

def answers (record : R) (source : Response R) : Option Bool :=
  if record ∈ source.answer then some true
  else if record ∈ source.ns ∨ record ∈ source.extra then some false
  else none

theorem mem_append_records (seen destination source : List R) (record : R) :
    (record ∈ (appendRecords seen destination source).2 ↔ record ∈ seen ∨ record ∈ source) ∧
    (record ∈ (appendRecords seen destination source).1 ↔ record ∈ destination ∨ record ∈ source ∧ record ∉ seen) := by
  induction source generalizing seen destination with
  | nil => simp [appendRecords]
  | cons head rest later =>
    rw [appendRecords]
    split_ifs with known
    · rw [(later _ _).1, (later _ _).2]
      by_cases same : record = head <;> simp [same, known]
    · rw [(later _ _).1, (later _ _).2]
      by_cases same : record = head <;> simp [same, known]

theorem nodup_append_records {seen destination : List R} (source : List R) (nodup : destination.Nodup)
    (known : destination ⊆ seen) : (appendRecords seen destination source).1.Nodup := by
  induction source generalizing seen destination with
  | nil => exact nodup
  | cons head rest later =>
    rw [appendRecords]
    split_ifs with there
    · exact later nodup known
    · refine later (List.nodup_append_comm.mp (List.nodup_cons.mpr ⟨fun member => there (known member), nodup⟩)) ?_
      simpa using List.subset_cons_of_subset head known

structure Merged (sources : List (Response R)) (state : Response R × List R) : Prop where
  nodup : state.1.answer.Nodup
  first : ∀ record, answers record state.1 = sources.findSome? (answers record)
  seen : ∀ record, record ∈ state.2 ↔ record ∈ state.1.answer ∨ record ∈ state.1.ns ∨ record ∈ state.1.extra

theorem merged_fold (sources : List (Response R)) : Merged sources (sources.foldl mergeResponse ({}, [])) := by
  induction sources using List.reverseRecOn with
  | nil => constructor <;> simp [answers]
  | append_singleton sources source earlier =>
    rw [List.foldl_append, List.foldl_cons, List.foldl_nil]
    refine ⟨nodup_append_records _ earlier.nodup fun record member => (earlier.seen record).mpr (.inl member), ?_, ?_⟩
    · intro record
      rw [List.findSome?_append, ← earlier.first, List.findSome?_singleton]
      simp only [answers, mergeResponse, mem_append_records, earlier.seen]
      split_ifs <;> simp_all
    · simp only [mergeResponse, mem_append_records, earlier.seen]
      tauto

theorem answers_merge (sources : List (Response R)) (record : R) :
    (merge sources).bind (answers record) = sources.findSome? (answers record) := by
  rw [← (merged_fold sources).first, merge]
  by_cases empty : (sources.foldl mergeResponse ({}, [])).1 = {}
  · simp [empty, answers]
  · simp [empty]

theorem first_merged (received : List (List (Response R))) (record : R) :
    (received.filterMap merge).findSome? (answers record) = received.flatten.findSome? (answers record) := by
  induction received with
  | nil => rfl
  | cons sources rest later =>
    rw [List.flatten_cons, List.findSome?_append, ← answers_merge sources, ← later, List.filterMap_cons]
    cases merge sources with
    | none => rfl
    | some response => cases placed : answers record response <;> simp [placed]

-- A record goes to the section in which it came first.
theorem answers_kept_iff {targets : List (Option (List (Response R)))} {response : Response R}
    (returned : exchange targets = some response) :
    response.answer.Nodup ∧
    ((∀ record, record ∈ response.answer ↔ ∃ source ∈ targets.reduceOption.flatten, record ∈ source.answer) ↔
      ∀ record, ∀ source ∈ targets.reduceOption.flatten, record ∈ source.answer →
        targets.reduceOption.flatten.findSome? (answers record) = some true) := by
  have merged := merged_fold (targets.reduceOption.filterMap merge)
  rw [exchange, merge] at returned
  split_ifs at returned
  cases returned
  have kept (record) : record ∈ ((targets.reduceOption.filterMap merge).foldl mergeResponse ({}, [])).1.answer ↔
      targets.reduceOption.flatten.findSome? (answers record) = some true := by
    rw [← first_merged, ← merged.first, answers]
    split_ifs <;> simp_all
  refine ⟨merged.nodup, ?_⟩
  simp only [kept]
  constructor
  · intro all record source there answer
    exact (all record).mpr ⟨source, there, answer⟩
  · intro all record
    constructor
    · intro found
      obtain ⟨source, there, answer⟩ := List.exists_of_findSome?_eq_some found
      refine ⟨source, there, ?_⟩
      by_contra absent
      simp [answers, absent] at answer
    · rintro ⟨source, there, answer⟩
      exact all record source there answer

theorem answer_lost_counterexample :
    exchange [some [{ answer := [1], extra := [2] }, { answer := [2] }]] = some { answer := [1], extra := [2] } := by decide

theorem repeated_answer_kept : ∃ response, exchange [some [{ answer := [1] }], none, some [{ answer := [1], ns := [2] }]] =
    some response ∧ response.answer.Nodup :=
  (Option.isSome_iff_exists.mp (by decide)).imp (fun _ returned => ⟨returned, (answers_kept_iff returned).1⟩)

end OtunKernel.Dns.Mdns
