import SkillTalk.BaseViewModel

/-!
# One flag for overlapping operations

Whatever its outcome, an operation that finishes leaves the flag down. So the flag says whether an
operation is in progress as long as each one that finishes was the only one.
-/

namespace SkillTalk

namespace LoadingVersion

@[simp]
theorem entry_isLoading (version : LoadingVersion) (s : BaseViewModel) :
    (version.entry s).isLoading = true := by
  cases version <;> rfl

@[simp]
theorem exit_isLoading (version : LoadingVersion) (s : BaseViewModel)
    (outcome : Except OperationError Unit) : (version.exit s outcome).isLoading = false := by
  cases version <;> cases outcome <;> rfl

/-- Both versions do the same to the view model. -/
theorem versions_agree (s : BaseViewModel) (outcome : Except OperationError Unit) :
    baseViewModel.entry s = asyncViewModelProtocol.entry s
      ∧ baseViewModel.exit s outcome = asyncViewModelProtocol.exit s outcome := by
  cases outcome <;> exact ⟨rfl, rfl⟩

end LoadingVersion

namespace LoadingOperations

def ShowsProgress (p : LoadingOperations) : Prop := p.shared.isLoading = true ↔ p.tasks ≠ []

/-- An operation finishes only where no other is in progress. -/
def FinishesAlone (p : LoadingOperations) : LoadingAction → Prop
  | .finish index _ => p.tasks.eraseIdx index = []
  | _ => True

variable {p q : LoadingOperations}

theorem showsProgress_start (version : LoadingVersion) :
    ShowsProgress (TaskPool.add ⟨version.entry p.shared, p.tasks⟩ version) := by
  have htasks : p.tasks ++ [version] ≠ [] := by simp
  exact iff_of_true (version.entry_isLoading p.shared) htasks

theorem showsProgress_finish_iff {index : ℕ} {outcome : Except OperationError Unit}
    (h : p.step (.finish index outcome) = some q) :
    q.ShowsProgress ↔ p.tasks.eraseIdx index = [] := by
  have hrun : p.run (fun s version => (version.exit s outcome, none)) index = some q := h
  have htasks : q.tasks = p.tasks.eraseIdx index := TaskPool.tasks_of_run_ended hrun fun _ _ => rfl
  have hlowered : q.shared.isLoading = false := by
    obtain ⟨before, version, after, -, -, rfl⟩ := TaskPool.run_eq_some hrun
    exact version.exit_isLoading p.shared outcome
  rw [ShowsProgress, hlowered, htasks]
  simp only [Bool.false_eq_true, ne_eq, false_iff, not_not]

theorem showsProgress_step_iff {action : LoadingAction} (h : p.step action = some q)
    (hp : p.ShowsProgress) : q.ShowsProgress ↔ p.FinishesAlone action := by
  cases action with
  | start version =>
      obtain rfl := Option.some.inj h
      exact iff_of_true (showsProgress_start version) trivial
  | finish index outcome => exact showsProgress_finish_iff h
  | clearError =>
      obtain rfl := Option.some.inj h
      exact iff_of_true hp trivial

/-- **The flag shows overlapping work** all along a run exactly when every operation finishes alone
in it. -/
theorem loading_shows_progress (actions : List LoadingAction) :
    (∀ x ∈ loadingOperations.transitions ⟨BaseViewModel.initial, []⟩ actions, x.2.2.ShowsProgress)
      ↔ ∀ x ∈ loadingOperations.transitions ⟨BaseViewModel.initial, []⟩ actions,
          x.1.FinishesAlone x.2.1 := by
  have hinitial : ShowsProgress ⟨BaseViewModel.initial, []⟩ := by
    simp [ShowsProgress, BaseViewModel.initial]
  refine Machine.forall_transitions_iff ShowsProgress (fun _ => True) (fun _ _ _ _ _ _ => trivial)
    ?_ actions trivial hinitial
  intro p action q hstep _ hp
  exact showsProgress_step_iff hstep hp

/-- Two operations overlap, and the first to finish hides the other. -/
theorem loading_hidden_by_finish :
    ¬ ∀ p : LoadingOperations, loadingOperations.Reachable p →
      (p.shared.isLoading = true ↔ p.tasks ≠ []) := by
  intro h
  have hexec : loadingOperations.exec ⟨BaseViewModel.initial, []⟩
      [.start .baseViewModel, .start .asyncViewModelProtocol, .finish 0 (.ok ())]
        = some ⟨BaseViewModel.initial, [.asyncViewModelProtocol]⟩ := rfl
  have hshown := h _ (Machine.reachable_of_exec rfl hexec)
  exact absurd (hshown.mpr (by simp)) (by simp [BaseViewModel.initial])

end LoadingOperations

end SkillTalk
