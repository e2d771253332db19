import Mathlib.Data.List.Nodup
import OtunKernel.Lib.PartialMap

namespace OtunKernel.Lib

variable {α : Type} [DecidableEq α]

-- A list whose nodes carry numbers, with an index from the items to their
-- nodes; numbers from next on are unused.
structure Indexed (nodes : List (Nat × α)) (index : α → Option Nat) (next : Nat) : Prop where
  listed : ∀ item node, index item = some node ↔ (node, item) ∈ nodes
  once : (nodes.map Prod.snd).Nodup
  distinct : ∀ node first second, (node, first) ∈ nodes → (node, second) ∈ nodes → first = second
  numbered : ∀ node item, (node, item) ∈ nodes → node < next

variable {nodes rest : List (Nat × α)} {index : α → Option Nat} {next node : Nat} {item : α}

omit [DecidableEq α] in
theorem indexed_nil (next : Nat) : Indexed ([] : List (Nat × α)) (fun _ => none) next :=
  ⟨by simp, List.nodup_nil, by simp, by simp⟩

theorem Indexed.push (indexed : Indexed nodes index next) (fresh : index item = none) :
    Indexed (nodes ++ [(next, item)]) (put index item next) (next + 1) := by
  have absent : ∀ other, (other, item) ∉ nodes := by
    intro other member
    simp [(indexed.listed item other).mpr member] at fresh
  have unused : ∀ other, (next, other) ∉ nodes := by
    intro other member
    exact absurd (indexed.numbered next other member) (Nat.lt_irrefl next)
  refine ⟨?_, ?_, ?_, ?_⟩
  · grind [indexed.listed]
  · rw [List.map_append]
    apply indexed.once.append (List.nodup_singleton _)
    intro other before same
    grind
  · grind [indexed.distinct]
  intro number other member
  simp only [List.mem_append, List.mem_singleton, Prod.mk.injEq] at member
  rcases member with old | ⟨rfl, _⟩
  · exact Nat.lt_succ_of_lt (indexed.numbered number other old)
  · exact Nat.lt_succ_self _

theorem Indexed.without (indexed : Indexed nodes index next) (sub : rest.Sublist nodes)
    (others : ∀ number other, (number, other) ∈ rest ↔ other ≠ item ∧ (number, other) ∈ nodes) :
    Indexed rest (erase index item) next := by
  refine ⟨?_, ?_, ?_, ?_⟩
  · intro other number
    rw [erase_eq_some, others, indexed.listed]
  · exact indexed.once.sublist (sub.map _)
  · grind [indexed.distinct]
  intro number other member
  exact indexed.numbered number other (sub.subset member)

theorem Indexed.tail (indexed : Indexed ((node, item) :: rest) index next) : Indexed rest (erase index item) next := by
  have absent : ∀ number, (number, item) ∉ rest := by
    have once := indexed.once
    grind
  grind [indexed.without]

theorem Indexed.remove (indexed : Indexed nodes index next) (found : index item = some node) :
    Indexed (nodes.filter (fun other => other.1 ≠ node)) (erase index item) next := by
  have here := (indexed.listed item node).mp found
  refine indexed.without List.filter_sublist (fun number other => ?_)
  rw [List.mem_filter, decide_eq_true_eq]
  constructor
  · rintro ⟨member, different⟩
    have same := (indexed.listed other number).mpr member
    grind
  rintro ⟨different, member⟩
  refine ⟨member, ?_⟩
  rintro rfl
  exact different (indexed.distinct number other item member here)

end OtunKernel.Lib
