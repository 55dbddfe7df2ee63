import Mathlib.Data.List.Pairwise

/-! The past of a versioned state: versions never decrease, and a version names
one state. -/

namespace VersionedState
variable {σ : Type} {version : σ → Nat}

structure Chronicle (version : σ → Nat) (past : List σ) (current : σ) : Prop where
  ordered : past.Pairwise fun earlier later => version earlier ≤ version later
  reached : ∀ state ∈ past, version state ≤ version current
  named : ∀ first ∈ past, ∀ second ∈ past, version first = version second → first = second
  recorded : current ∈ past

namespace Chronicle
variable {past : List σ} {current next : σ}

theorem start (state : σ) : Chronicle version [state] state :=
  ⟨List.pairwise_singleton _ _, by simp, by simp, by simp⟩

theorem eq_current (chronicle : Chronicle version past current) {state : σ} (member : state ∈ past)
    (same : version state = version current) : state = current :=
  chronicle.named state member current chronicle.recorded same

/-- Publishing the current state again. -/
theorem again (chronicle : Chronicle version past current) : Chronicle version (past ++ [current]) current := by
  have known : ∀ state ∈ past ++ [current], state ∈ past := by
    intro state member
    rcases List.mem_append.mp member with old | new
    · exact old
    · rw [List.mem_singleton.mp new]
      exact chronicle.recorded
  refine ⟨?_, fun state member => chronicle.reached state (known state member), ?_, by simp⟩
  · rw [List.pairwise_append]
    refine ⟨chronicle.ordered, List.pairwise_singleton _ _, ?_⟩
    intro earlier member later last
    rw [List.mem_singleton.mp last]
    exact chronicle.reached earlier member
  · intro first left second right
    exact chronicle.named first (known first left) second (known second right)

/-- Publishing a state of a higher version. -/
theorem advance (chronicle : Chronicle version past current) (newer : version current < version next) :
    Chronicle version (past ++ [next]) next := by
  have below : ∀ state ∈ past, version state < version next := fun state member =>
    Nat.lt_of_le_of_lt (chronicle.reached state member) newer
  refine ⟨?_, ?_, ?_, by simp⟩
  · rw [List.pairwise_append]
    refine ⟨chronicle.ordered, List.pairwise_singleton _ _, ?_⟩
    intro earlier member later last
    rw [List.mem_singleton.mp last]
    exact Nat.le_of_lt (below earlier member)
  · intro state member
    rcases List.mem_append.mp member with old | new
    · exact Nat.le_of_lt (below state old)
    · exact Nat.le_of_eq (congrArg version (List.mem_singleton.mp new))
  · intro first left second right same
    rcases List.mem_append.mp left with old | new <;> rcases List.mem_append.mp right with prior | last
    · exact chronicle.named first old second prior same
    · have less := below first old
      rw [List.mem_singleton.mp last] at same
      omega
    · have less := below second prior
      rw [List.mem_singleton.mp new] at same
      omega
    · rw [List.mem_singleton.mp new, List.mem_singleton.mp last]

end Chronicle

end VersionedState
