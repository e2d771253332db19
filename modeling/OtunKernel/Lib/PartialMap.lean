import Mathlib.Data.List.Basic
import Mathlib.Logic.Function.Iterate

namespace OtunKernel.Lib

variable {κ ν : Type} [DecidableEq κ]

def put (map : κ → Option ν) (key : κ) (value : ν) : κ → Option ν := Function.update map key (some value)

def erase (map : κ → Option ν) (key : κ) : κ → Option ν := Function.update map key none

section
variable (map : κ → Option ν)

@[simp] theorem put_same (key : κ) (value : ν) : put map key value key = some value := by
  simp [put]

@[simp] theorem put_other (key other : κ) (value : ν) (different : other ≠ key) : put map key value other = map other := by
  simp [put, different]

@[simp] theorem erase_same (key : κ) : erase map key key = none := by
  simp [erase]

@[simp] theorem erase_other (key other : κ) (different : other ≠ key) : erase map key other = map other := by
  simp [erase, different]

@[grind =] theorem put_apply (key other : κ) (value : ν) :
    put map key value other = if other = key then some value else map other :=
  Function.update_apply ..

@[grind =] theorem erase_apply (key other : κ) :
    erase map key other = if other = key then none else map other :=
  Function.update_apply ..

end

variable {map : κ → Option ν} {key : κ} {value : ν} {other : κ}

theorem erase_eq_some : erase map key other = some value ↔ other ≠ key ∧ map other = some value := by
  grind

theorem put_eq_some {written : ν} : put map key written other = some value ↔
      (other = key ∧ written = value) ∨ (other ≠ key ∧ map other = some value) := by
  grind

theorem erase_put (value : ν) (absent : map key = none) : erase (put map key value) key = map := by grind

theorem foldl_erase_eq_some {ι : Type} {keyOf : ι → κ} {items : List ι} :
    items.foldl (fun map item => erase map (keyOf item)) map key = some value ↔
      map key = some value ∧ ∀ item ∈ items, key ≠ keyOf item := by
  induction items generalizing map with
  | nil => simp
  | cons _ _ ih =>
    rw [List.foldl_cons]
    grind

theorem foldl_update_apply {β : Type} (f : β → β) (keys : List κ) (map : κ → β) (key : κ) :
    keys.foldl (fun map key => Function.update map key (f (map key))) map key = f^[keys.count key] (map key) := by
  induction keys generalizing map with
  | nil => rfl
  | cons first _ ih =>
    rw [List.foldl_cons, ih]
    by_cases same : first = key
    · simp_all
    · rw [Function.update_of_ne (Ne.symm same), List.count_cons_of_ne same]

def Inverse {α β : Type} (forward : α → Option β) (backward : β → Option α) : Prop :=
  ∀ a b, forward a = some b ↔ backward b = some a

section
variable {α β : Type} {forward : α → Option β} {backward : β → Option α} {b : β} {a : α}

theorem Inverse.injective (inverse : Inverse forward backward) {c : β} (first : backward b = some a)
    (second : backward c = some a) : b = c := by
  have left := (inverse a b).mpr first
  rw [(inverse a c).mpr second] at left
  grind

variable [DecidableEq β]

def unlink (backward : β → Option α) (old : Option β) : β → Option α :=
  match old with
  | some b => erase backward b
  | none => backward

theorem unlink_some {old : Option β} (present : unlink backward old b = some a) : backward b = some a := by
  cases old with
  | none => exact present
  | some => exact (erase_eq_some.mp present).2

theorem unlink_eq_some (inverse : Inverse forward backward) (a : α) {other : α} :
    unlink backward (forward a) b = some other ↔ other ≠ a ∧ backward b = some other := by
  cases old : forward a with
  | none =>
    refine ⟨fun present => ⟨?_, present⟩, fun both => both.2⟩
    rintro rfl
    simp [(inverse other b).mpr present] at old
  | some =>
    rw [unlink, erase_eq_some]
    refine and_congr_left (fun present => not_congr ?_)
    constructor
    · rintro rfl
      have linked := (inverse a b).mp old
      grind
    have linked := (inverse other b).mpr present
    grind

theorem inverse_link [DecidableEq α] (inverse : Inverse forward backward) (a : α) (b : β) (free : backward b = none) :
    Inverse (put forward a b) (put (unlink backward (forward a)) b a) := by
  intro other value
  rw [put_eq_some, put_eq_some, unlink_eq_some inverse, ← inverse other value]
  constructor
  · rintro (⟨rfl, rfl⟩ | ⟨different, linked⟩)
    · exact .inl ⟨rfl, rfl⟩
    refine .inr ⟨?_, different, linked⟩
    rintro rfl
    have taken := (inverse other value).mp linked
    simp [free] at taken
  · grind

end

section
variable {μ : Type} {R : κ → ν → μ → Prop} {before after : κ → Option ν} {labels : κ → Option μ}

def Labelled (R : κ → ν → μ → Prop) (entries : κ → Option ν) (labels : κ → Option μ) : Prop :=
  ∀ key value, entries key = some value → ∃ label, labels key = some label ∧ R key value label

def relabel [DecidableEq ν] (before after : κ → Option ν) (labels : κ → Option μ) (key : κ) (label : μ) : κ → Option μ :=
  if after key = before key then labels else put labels key label

omit [DecidableEq κ] in
theorem Labelled.mono {S : κ → ν → μ → Prop} (labelled : Labelled R before labels)
    (weaker : ∀ key value label, R key value label → S key value label) : Labelled S before labels := by
  intro key value present
  obtain ⟨label, known, held⟩ := labelled key value present
  grind

omit [DecidableEq κ] in
theorem Labelled.kept (labelled : Labelled R before labels)
    (kept : ∀ key value, after key = some value → before key = some value) : Labelled R after labels :=
  fun key value present => labelled key value (kept key value present)

theorem Labelled.relabel [DecidableEq ν] (labelled : Labelled R before labels) (key : κ) (label : μ)
    (wrote : ∀ other value, after other = some value → before other = some value ∨ (other = key ∧ R key value label)) :
    Labelled R after (relabel before after labels key label) := by
  intro other value present
  by_cases same : after key = before key
  · simp only [Lib.relabel, same, if_true]
    rcases wrote other value present with old | ⟨rfl, _⟩
    · exact labelled other value old
    rw [same] at present
    exact labelled other value present
  simp only [Lib.relabel, same, if_false]
  by_cases written : other = key
  · grind
  rcases wrote other value present with old | ⟨here, _⟩
  · simpa [put_other _ _ _ _ written] using labelled other value old
  · contradiction

end
end OtunKernel.Lib
