import OtunKernel.Dns.PendingCache

namespace OtunKernel.Dns

open Lib DNSCacheState

-- What is on its way to the database for the key is among the given messages,
-- apart from the copies that the stale goroutines hold.
structure DNSCacheState.Recent (state : DNSCacheState) (key : SaveCacheKey) (queued : List UInt8 → Int → Prop)
    (stale : Nat → Prop) : Prop where
  pending : ∀ entry, state.saveDNSCache key = some entry → queued entry.rawMessage entry.expireAt
  held : ∀ goroutine entry, state.flushers goroutine = some ⟨key, .saving entry⟩ →
    stale goroutine ∨ queued entry.rawMessage entry.expireAt

def DNSCacheState.BucketRecent (state : DNSCacheState) (key : SaveCacheKey) (queued : List UInt8 → Int → Prop) : Prop :=
  ∀ stored, state.bucket key = some stored → ∃ rawMessage expireAt, queued rawMessage expireAt ∧
    stored = storedMessage rawMessage expireAt

section
variable {state result : DNSCacheState} {key : SaveCacheKey} {queued : List UInt8 → Int → Prop} {stale : Nat → Prop}
  {goroutine : Nat} {owner : SaveCacheKey} {rawMessage : List UInt8} {step : DNSCacheStep}

theorem moved_saving {running : Nat} {phase : FlushPhase} {entry : SaveDNSCacheEntry}
    (active : put state.flushers goroutine ⟨owner, phase⟩ running = some ⟨key, .saving entry⟩)
    (elsewhere : ∀ entry, phase ≠ .saving entry) :
    running ≠ goroutine ∧ state.flushers running = some ⟨key, .saving entry⟩ := by simp_all [put_eq_some]

section
variable (recent : state.Recent key queued stale)
include recent

theorem recent_mono {more : Nat → Prop} (wider : ∀ goroutine, stale goroutine → more goroutine) : state.Recent key queued more :=
  ⟨recent.pending, fun goroutine entry active => (recent.held goroutine entry active).imp_left (wider goroutine)⟩

theorem save_recent {expireAt : Int} (counted : owner = key → queued rawMessage expireAt)
    (taken : state.saveDNSCacheAsync owner rawMessage expireAt goroutine = some result) : result.Recent key queued stale := by
  obtain ⟨pending, _, flushers⟩ := save_cases taken
  constructor
  · intro entry present
    rw [pending, put_eq_some] at present
    rcases present with ⟨same, rfl⟩ | ⟨_, present⟩
    · exact counted same.symm
    · exact recent.pending entry present
  intro running entry active
  rcases flushers with ⟨_, kept⟩ | ⟨_, _, spawned⟩
  · rw [kept] at active
    exact recent.held running entry active
  rw [spawned] at active
  grind [recent.held]

theorem flush_recent (taken : state.flushStep goroutine = some result) :
    result.Recent key queued (fun running => stale running ∧ running ≠ goroutine) := by
  have others : ∀ running entry, running ≠ goroutine ∧ state.flushers running = some ⟨key, .saving entry⟩ →
      (stale running ∧ running ≠ goroutine) ∨ queued entry.rawMessage entry.expireAt := by
    grind [recent.held]
  obtain ⟨_, _, _, cases⟩ := flush_cases taken
  rcases cases with ⟨_, rfl⟩ | ⟨read, present, rfl⟩ | ⟨saved, rfl, rfl⟩ | rfl | ⟨_, _, _, _, _, rfl⟩
  · refine ⟨recent.pending, fun running entry active => ?_⟩
    exact others running entry (erase_eq_some.mp active)
  · refine ⟨recent.pending, fun running entry active => ?_⟩
    rcases put_eq_some.mp active with ⟨_, same⟩ | other
    · grind [recent.pending]
    · grind
  · refine ⟨recent.pending, fun running entry active => ?_⟩
    exact others running entry (moved_saving active (by simp))
  · refine ⟨recent.pending, fun running entry active => ?_⟩
    exact others running entry (moved_saving active (by simp))
  refine ⟨fun entry pending => recent.pending entry (erase_eq_some.mp pending).2, fun running entry active => ?_⟩
  exact others running entry (erase_eq_some.mp active)

theorem step_recent (counted : ∀ rawMessage expireAt goroutine, step = .save key rawMessage expireAt goroutine →
      queued rawMessage expireAt) (taken : dnsCacheStep state step = some result) :
    result.Recent key queued (fun running => stale running ∧ step ≠ .flush running) := by
  cases step with
  | save _ rawMessage expireAt goroutine =>
    have kept := save_recent recent (fun same => counted rawMessage expireAt goroutine (by rw [same])) taken
    grind
  | flush =>
    apply recent_mono (flush_recent recent taken)
    grind
  | clearPending =>
    simp only [dnsCacheStep, Option.ite_none_left_eq_some, Option.some.injEq] at taken
    have kept : result.Recent key queued stale := by
      rw [← taken.2]
      exact ⟨by simp, recent.held⟩
    grind
  | dropBucket =>
    simp only [dnsCacheStep, Option.ite_none_right_eq_some, Option.some.injEq] at taken
    have kept : result.Recent key queued stale := by
      rw [← taken.2]
      exact ⟨recent.pending, recent.held⟩
    grind

theorem load_recent (bucket : state.BucketRecent key queued)
    {expires : Int} (loaded : state.loadDNSCache key = some (rawMessage, expires)) :
    ∃ expireAt, queued rawMessage expireAt ∧ unixSecond expires = unixSecond expireAt := by
  cases pending : state.saveDNSCache key with
  | some entry => grind [loadDNSCache, recent.pending]
  | none =>
    simp only [loadDNSCache, pending, Option.map_eq_some_iff, Prod.mk.injEq] at loaded
    obtain ⟨stored, present, rfl, rfl⟩ := loaded
    obtain ⟨_, expireAt, known, rfl⟩ := bucket stored present
    exact ⟨expireAt, known, Int.mul_ediv_cancel _ (by decide)⟩

end

theorem execute_recent (steps : List DNSCacheStep) (recent : state.Recent key queued stale)
    (counted : ∀ rawMessage expireAt goroutine, .save key rawMessage expireAt goroutine ∈ steps →
      queued rawMessage expireAt) (executed : execute dnsCacheStep state steps = some result) :
    result.Recent key queued (fun running => stale running ∧ .flush running ∉ steps) := by
  induction steps generalizing state stale with
  | nil =>
    cases executed
    grind [recent_mono]
  | cons step _ ih =>
    rw [execute, Option.bind_eq_some_iff] at executed
    obtain ⟨_, taken, later⟩ := executed
    have first := step_recent recent (fun rawMessage expireAt goroutine same =>
      counted rawMessage expireAt goroutine (by rw [same]; exact List.mem_cons_self)) taken
    have others := ih first (fun rawMessage expireAt goroutine member =>
      counted rawMessage expireAt goroutine (List.mem_cons_of_mem step member)) later
    apply recent_mono others
    rintro _ ⟨⟨old, different⟩, absent⟩
    refine ⟨old, fun member => ?_⟩
    rcases List.mem_cons.mp member with same | later
    · exact different same.symm
    · exact absent later

theorem step_bucket_recent (recent : state.Recent key queued (fun _ => False)) (bucket : state.BucketRecent key queued)
    (taken : dnsCacheStep state step = some result) : result.BucketRecent key queued := by
  cases step with
  | save =>
    obtain ⟨_, same, _⟩ := save_cases taken
    simpa [DNSCacheState.BucketRecent, same] using bucket
  | flush goroutine =>
    obtain ⟨_, _, found, cases⟩ := flush_cases taken
    rcases cases with ⟨_, rfl⟩ | ⟨_, _, rfl⟩ | ⟨saved, rfl, rfl⟩ | rfl | ⟨_, _, _, _, _, rfl⟩
    · exact bucket
    · exact bucket
    · intro stored present
      rcases put_eq_some.mp present with ⟨same, written⟩ | ⟨_, present⟩
      · subst same
        exact ⟨saved.rawMessage, saved.expireAt, (recent.held goroutine saved found).resolve_left id, written.symm⟩
      · exact bucket stored present
    · exact bucket
    · exact bucket
  | clearPending =>
    simp only [dnsCacheStep, Option.ite_none_left_eq_some, Option.some.injEq] at taken
    rw [← taken.2]
    exact bucket
  | dropBucket =>
    simp only [dnsCacheStep, Option.ite_none_right_eq_some, Option.some.injEq] at taken
    rw [← taken.2]
    intro stored present
    contradiction

theorem execute_bucket_recent (steps : List DNSCacheStep) (recent : state.Recent key queued (fun _ => False))
    (bucket : state.BucketRecent key queued)
    (counted : ∀ rawMessage expireAt goroutine, .save key rawMessage expireAt goroutine ∈ steps →
      queued rawMessage expireAt) (executed : execute dnsCacheStep state steps = some result) :
    result.Recent key queued (fun _ => False) ∧ result.BucketRecent key queued := by
  have run : Run dnsCacheStep (fun _ step => step ∈ steps) state result := by grind [run_of_execute]
  refine run.invariant (fun state => state.Recent key queued (fun _ => False) ∧ state.BucketRecent key queued)
    ⟨recent, bucket⟩ ?_
  intro _ step _ both member taken
  have kept := step_recent both.1 (fun rawMessage expireAt goroutine same =>
    counted rawMessage expireAt goroutine (same ▸ member)) taken
  exact ⟨recent_mono kept (fun _ old => old.1), step_bucket_recent both.1 both.2 taken⟩

end

theorem cleared_messages_stay_cleared (key : SaveCacheKey) (clearer : Nat)
    (before cleared dropping dropped later : DNSCacheState) (during afterwards : List DNSCacheStep)
    (began : dnsCacheStep before (.clearPending clearer) = some cleared)
    (meanwhile : execute dnsCacheStep cleared during = some dropping)
    (returned : dnsCacheStep dropping (.dropBucket clearer) = some dropped)
    (after : execute dnsCacheStep dropped afterwards = some later)
    (finished : ∀ goroutine entry, before.flushers goroutine = some ⟨key, .saving entry⟩ → .flush goroutine ∈ during)
    (rawMessage : List UInt8) (expires : Int) (loaded : later.loadDNSCache key = some (rawMessage, expires)) :
    ∃ expireAt goroutine, .save key rawMessage expireAt goroutine ∈ during ++ afterwards ∧
      unixSecond expires = unixSecond expireAt := by
  let queued : List UInt8 → Int → Prop := fun rawMessage expireAt =>
    ∃ goroutine, .save key rawMessage expireAt goroutine ∈ during ++ afterwards
  let stale : Nat → Prop := fun goroutine => ∃ entry, before.flushers goroutine = some ⟨key, .saving entry⟩
  have atClear : cleared.Recent key queued stale := by
    simp only [dnsCacheStep, Option.ite_none_left_eq_some, Option.some.injEq] at began
    rw [← began.2]
    exact ⟨by simp, fun goroutine entry active => .inl ⟨entry, active⟩⟩
  have atDrop : dropping.Recent key queued (fun _ => False) := by
    refine recent_mono (execute_recent during atClear (fun _ _ goroutine member =>
      ⟨goroutine, List.mem_append_left afterwards member⟩) meanwhile) ?_
    grind
  have dropRecent : dropped.Recent key queued (fun _ => False) := by grind [step_recent]
  have empty : dropped.BucketRecent key queued := by
    simp only [dnsCacheStep, Option.ite_none_right_eq_some, Option.some.injEq] at returned
    rw [← returned.2]
    intro stored present
    contradiction
  have counted : ∀ rawMessage expireAt goroutine, .save key rawMessage expireAt goroutine ∈ afterwards →
      queued rawMessage expireAt := by grind
  obtain ⟨recent, bucketRecent⟩ := execute_bucket_recent afterwards dropRecent empty counted after
  grind [load_recent]

theorem flusher_revives_cleared_message :
    ¬ ∀ (key : SaveCacheKey) (clearer : Nat) (bucket : SaveCacheKey → Option StoredMessage)
      (before cleared dropping dropped later : DNSCacheState) (during afterwards : List DNSCacheStep),
      Run dnsCacheStep anyStep (idleDNSCache bucket) before →
      dnsCacheStep before (.clearPending clearer) = some cleared →
      execute dnsCacheStep cleared during = some dropping →
      dnsCacheStep dropping (.dropBucket clearer) = some dropped →
      execute dnsCacheStep dropped afterwards = some later →
      ∀ rawMessage expires, later.loadDNSCache key = some (rawMessage, expires) →
        ∃ expireAt goroutine, .save key rawMessage expireAt goroutine ∈ during ++ afterwards ∧
          unixSecond expires = unixSecond expireAt := by
  intro cleared
  have run : Run dnsCacheStep anyStep (idleDNSCache (fun _ => none)) _ :=
    run_of_execute [.save exampleKey [1] 0 0, .flush 0] _ _ (fun _ _ _ => trivial) rfl
  obtain ⟨_, _, member, _⟩ :=
    cleared exampleKey 0 _ _ _ _ _ _ [] [.flush 0] run rfl rfl rfl rfl [1] 0 rfl
  simp at member

theorem idle_clear_then_save :
    ∃ expireAt goroutine, DNSCacheStep.save exampleKey [2] expireAt goroutine ∈
        [] ++ [.save exampleKey [2] 0 1, .flush 1, .flush 1] ∧ unixSecond 0 = unixSecond expireAt :=
  cleared_messages_stay_cleared exampleKey 0 (idleDNSCache (fun _ => some (storedMessage [1] 0))) _ _ _ _ []
    [.save exampleKey [2] 0 1, .flush 1, .flush 1] rfl rfl rfl rfl (by simp [idleDNSCache]) [2] 0 rfl

end OtunKernel.Dns
