import Mathlib.Data.List.AList

namespace OtunKernel.Lib

section
variable {ι ν : Type} [DecidableEq ι] {map : AList (fun _ : ι => ν)} {key other : ι} {value found : ν}

theorem lookup_insert_eq_some : (map.insert key value).lookup other = some found ↔
    (other = key ∧ value = found) ∨ (other ≠ key ∧ map.lookup other = some found) := by
  by_cases same : other = key
  · subst same
    simp
  · simp [same]

theorem lookup_erase_eq_some : (map.erase key).lookup other = some found ↔ other ≠ key ∧ map.lookup other = some found := by
  by_cases same : other = key
  · subst same
    simp
  · simp [same]

theorem mem_values : value ∈ map.entries.map Sigma.snd ↔ ∃ key, map.lookup key = some value := by
  rw [List.mem_map]
  constructor
  · intro ⟨entry, member, same⟩
    refine ⟨entry.1, AList.mem_lookup_iff.mpr ?_⟩
    simp [← same, member]
  intro ⟨key, found⟩
  exact ⟨⟨key, value⟩, AList.mem_lookup_iff.mp found, rfl⟩

end

section
variable {ι ν : Type} [DecidableEq ι]

def tally (map : AList (fun _ : ι => ν)) (belongs : ν → Bool) : Nat :=
  map.entries.countP (fun entry => belongs entry.2)

variable {map : AList (fun _ : ι => ν)} {key : ι}

theorem tally_insert (absent : map.lookup key = none) (value : ν) (belongs : ν → Bool) :
    tally (map.insert key value) belongs = tally map belongs + if belongs value then 1 else 0 := by
  rw [tally, AList.entries_insert_of_notMem (AList.lookup_eq_none.mp absent), List.countP_cons]
  rfl

theorem tally_erase {value : ν} (present : map.lookup key = some value) (belongs : ν → Bool) :
    tally map belongs = tally (map.erase key) belongs + if belongs value then 1 else 0 := by
  have stored : (⟨key, value⟩ : Sigma (fun _ : ι => ν)) ∈ map.entries := AList.mem_lookup_iff.mp present
  obtain ⟨found, before, after, _, split, erased⟩ := List.exists_of_kerase (List.mem_keys_of_mem stored)
  have same : found = value := by
    have other : map.lookup key = some found := by
      apply AList.mem_lookup_iff.mpr
      simp [split]
    grind
  have left : (map.erase key).entries = before ++ after := erased
  grind [tally]

theorem tally_congr {belongs other : ν → Bool} (same : ∀ key value, map.lookup key = some value → belongs value = other value) :
    tally map belongs = tally map other := by
  refine List.countP_congr (fun entry member => ?_)
  rw [same entry.1 entry.2 (AList.mem_lookup_iff.mpr member)]

end

section
variable {κ : Type} [DecidableEq κ]

def increment (counts : AList (fun _ : κ => Int)) (name : κ) : AList (fun _ : κ => Int) :=
  counts.insert name ((counts.lookup name).getD 0 + 1)

def decrement (counts : AList (fun _ : κ => Int)) (name : κ) : AList (fun _ : κ => Int) :=
  let lower := (counts.lookup name).getD 0 - 1
  if lower ≤ 0 then (counts.insert name lower).erase name else counts.insert name lower

def Counts (counts : AList (fun _ : κ => Int)) (number : κ → Nat) : Prop :=
  ∀ name, counts.lookup name = if number name = 0 then none else some (number name : Int)

variable {counts : AList (fun _ : κ => Int)} {number next : κ → Nat} {name : κ}

section
variable (correct : Counts counts number)
include correct

theorem counted (name : κ) : (counts.lookup name).getD 0 = number name := by
  rw [correct name]
  by_cases zero : number name = 0
  · simp [zero]
  · simp [zero]

theorem counts_increment
    (more : ∀ other, next other = number other + if other = name then 1 else 0) :
    Counts (increment counts name) next := by
  intro other
  have change := more other
  by_cases same : other = name
  · subst same
    rw [if_pos rfl] at change
    rw [increment, AList.lookup_insert, counted correct, change, if_neg (Nat.succ_ne_zero _), Int.natCast_succ]
  rw [if_neg same] at change
  rw [increment, AList.lookup_insert_ne same, correct other, change, Nat.add_zero]

theorem counts_decrement
    (fewer : ∀ other, number other = next other + if other = name then 1 else 0) :
    Counts (decrement counts name) next := by
  intro other
  have change := fewer other
  rw [decrement, counted correct]
  by_cases same : other = name
  · subst same
    rw [if_pos rfl] at change
    by_cases last : next other = 0
    · rw [if_pos (by omega), AList.lookup_erase, if_pos last]
    · simp_all
  rw [if_neg same, Nat.add_zero] at change
  by_cases last : (number name : Int) - 1 ≤ 0
  · rw [if_pos last, AList.lookup_erase_ne same, AList.lookup_insert_ne same, correct other, change]
  · rw [if_neg last, AList.lookup_insert_ne same, correct other, change]

end
end
end OtunKernel.Lib
