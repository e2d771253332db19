import Mathlib.Data.List.Basic

namespace OtunKernel.Lib

variable {α : Type}

theorem isEmpty_append (left right : List α) : (left ++ right).isEmpty = (left.isEmpty && right.isEmpty) := by
  cases left <;> rfl

theorem nodup_erase_dups [DecidableEq α] (items : List α) : items.eraseDups.Nodup := by
  induction size : items.length using Nat.strongRecOn generalizing items with
  | ind bound ih =>
    cases items with
    | nil => simp
    | cons item rest =>
      have shorter : (rest.filter (fun other => !other == item)).length < bound := by grind
      rw [List.eraseDups_cons, List.nodup_cons]
      exact ⟨by simp, ih _ shorter _ rfl⟩

variable {items : List α} {holds : α → Prop} {p q : α → Bool}

theorem any_congr_of_mem (same : ∀ item ∈ items, p item = q item) : items.any p = items.any q := by
  grind

theorem all_congr_of_mem (same : ∀ item ∈ items, p item = q item) : items.all p = items.all q := by
  grind

theorem last_hit_eq (p : α → Bool) (items : List α) (start : Option α) :
    items.foldl (fun found item => if p item then some item else found) start = (items.reverse.find? p).or start := by
  induction items generalizing start with
  | nil => rfl
  | cons item _ ih =>
    rw [List.foldl_cons, ih, List.reverse_cons]
    cases hit : p item <;> simp [hit]

theorem mapM_total {β : Type} {f : α → Option β} (total : ∀ item ∈ items, f item ≠ none) : items.mapM f ≠ none := by
  induction items with
  | nil => simp
  | cons item _ ih =>
    obtain ⟨_, here⟩ := Option.ne_none_iff_exists'.mp (total item List.mem_cons_self)
    obtain ⟨_, later⟩ :=
      Option.ne_none_iff_exists'.mp (ih (fun other member => total other (List.mem_cons_of_mem item member)))
    simp [List.mapM_cons, here, later]

section
variable {ε β : Type} {result : Except ε α} {value : β}

theorem bind_eq_ok {next : α → Except ε β} :
    (result >>= next) = .ok value ↔ ∃ middle, result = .ok middle ∧ next middle = .ok value := by
  cases result with
  | error | ok => simp [bind, Except.bind]

theorem mapM_members_ok {f : α → Except ε β} {items : List α} {values : List β} (all : items.mapM f = .ok values) :
    ∀ item ∈ items, ∃ value, f item = .ok value := by
  induction items generalizing values with
  | nil => simp
  | cons _ _ ih =>
    grind [bind_eq_ok]

theorem map_eq_ok {f : α → β} : result.map f = .ok value ↔ ∃ middle, result = .ok middle ∧ f middle = value := by
  cases result with
  | error | ok => simp [Except.map]

theorem forall_ok_of_error {err : ε} (failed : result = .error err) : ∀ value, result = .ok value → holds value := by simp [failed]

theorem forall_ok_iff {value : α} (succeeded : result = .ok value) : (∀ other, result = .ok other → holds other) ↔ holds value := by
  simp only [succeeded, Except.ok.injEq, forall_eq']

end
end OtunKernel.Lib
