import SkillTalk.LocationFallback

/-!
# Where an answer about locations comes from

A service built by its initializer has a primary and a fallback. So an answer is the primary's, or
the fallback's where the primary throws, and what stands in for a missing service is never taken.
-/

namespace SkillTalk

namespace LocationFallback

open LocationQuestions FirstAnswer

variable {σ ε α ι : Type}

/-- The call puts the question to the primary and, where this throws, once to the fallback; nothing
else is ever returned. What it is given to make up an answer has no effect. -/
structure AnswersInTurn (run : ι → Throwing (LocationQuestions σ) ε α)
    (primary fallback : Throwing σ ε α) : Prop where
  of_primary : ∀ {made questions answer state},
    primary questions.state = (.ok answer, state) →
      run made questions = (.ok answer, ⟨state, questions.asked ++ [.coreLocation]⟩)
  of_fallback : ∀ {made questions error between answer state},
    primary questions.state = (.error error, between) →
    fallback between = (.ok answer, state) →
      run made questions
        = (.ok answer, ⟨state, questions.asked ++ [.coreLocation, .ipLocation]⟩)
  throws : ∀ {made questions error between error' state},
    primary questions.state = (.error error, between) →
    fallback between = (.error error', state) →
      run made questions
        = (.error error', ⟨state, questions.asked ++ [.coreLocation, .ipLocation]⟩)
  genuine : ∀ {made questions answer},
    (run made questions).1 = .ok answer →
      (primary questions.state).1 = .ok answer
        ∨ (fallback (primary questions.state).2).1 = .ok answer
  asked_once : ∀ made state,
    (run made ⟨state, []⟩).2.asked.count .ipLocation ≤ 1
  never_made_up : ∀ made made', run made = run made'

theorem ask_apply (service : LocationServiceKind) (call : Throwing σ ε α)
    (questions : LocationQuestions σ) :
    ask service call questions
      = ((call questions.state).1,
          ⟨(call questions.state).2, questions.asked ++ [service]⟩) :=
  rfl

theorem inTurn_init (newCoreLocation newIPLocation : LocationAnswering σ ε)
    (primaryService fallbackService : Option (LocationAnswering σ ε)) (standIn : α)
    (call : LocationAnswering σ ε → Throwing σ ε α) :
    (init newCoreLocation newIPLocation primaryService fallbackService).inTurn standIn call
      = tryCatch (ask .coreLocation (call (primaryService.getD newCoreLocation)))
          fun _ => ask .ipLocation (call (fallbackService.getD newIPLocation)) :=
  firstAnswer_some standIn _ _

/-- A question put in turn, by what the two services do with it. -/
theorem answersInTurn {run : ι → Throwing (LocationQuestions σ) ε α}
    {primary fallback : Throwing σ ε α}
    (hrun : ∀ made, run made
      = tryCatch (ask .coreLocation primary) fun _ => ask .ipLocation fallback) :
    AnswersInTurn run primary fallback := by
  have hok : ∀ made questions answer state, primary questions.state = (.ok answer, state) →
      run made questions = (.ok answer, ⟨state, questions.asked ++ [.coreLocation]⟩) := by
    intro made questions answer state hprimary
    rw [hrun, tryCatch_apply, ask_apply, hprimary]
  have herror : ∀ made questions error between,
      primary questions.state = (.error error, between) →
      run made questions = ((fallback between).1,
        ⟨(fallback between).2, questions.asked ++ [.coreLocation, .ipLocation]⟩) := by
    intro made questions error between hprimary
    rw [hrun, tryCatch_apply, ask_apply, hprimary]
    dsimp only
    rw [ask_apply, List.append_assoc]
    rfl
  constructor
  · intro made questions answer state hprimary
    exact hok made questions answer state hprimary
  · intro made questions error between answer state hprimary hfallback
    rw [herror made questions error between hprimary, hfallback]
  · intro made questions error between error' state hprimary hfallback
    rw [herror made questions error between hprimary, hfallback]
  · intro made questions answer hanswer
    rcases hprimary : primary questions.state with ⟨error | found, state⟩
    · rw [herror made questions error state hprimary] at hanswer
      exact .inr hanswer
    · rw [hok made questions found state hprimary] at hanswer
      exact .inl hanswer
  · intro made state
    rcases hprimary : primary state with ⟨error | answer, state'⟩
    · rw [herror made ⟨state, []⟩ error state' hprimary]
      exact le_rfl
    · rw [hok made ⟨state, []⟩ answer state' hprimary]
      exact Nat.zero_le 1
  · intro made made'
    rw [hrun, hrun]

/-- **No location is made up.** Whatever the initializer is given, the location is the primary's or
the fallback's. -/
theorem getCurrentLocation_never_made_up (newCoreLocation newIPLocation : LocationAnswering σ ε)
    (primaryService fallbackService : Option (LocationAnswering σ ε)) :
    AnswersInTurn
      (fun made : ℕ × Date =>
        (init newCoreLocation newIPLocation primaryService fallbackService).getCurrentLocation
          made.1 made.2)
      (primaryService.getD newCoreLocation).getCurrentLocation
      (fallbackService.getD newIPLocation).getCurrentLocation := by
  refine answersInTurn fun made => ?_
  rw [getCurrentLocation, inTurn_init]

theorem getNearbyUsers_answersInTurn (newCoreLocation newIPLocation : LocationAnswering σ ε)
    (primaryService fallbackService : Option (LocationAnswering σ ε)) (radius : ℚ) :
    AnswersInTurn
      (fun _ : Unit =>
        (init newCoreLocation newIPLocation primaryService fallbackService).getNearbyUsers radius)
      ((primaryService.getD newCoreLocation).getNearbyUsers radius)
      ((fallbackService.getD newIPLocation).getNearbyUsers radius) := by
  refine answersInTurn fun made => ?_
  rw [getNearbyUsers, inTurn_init]

theorem calculateDistance_answersInTurn (newCoreLocation newIPLocation : LocationAnswering σ ε)
    (primaryService fallbackService : Option (LocationAnswering σ ε)) (userId : String) :
    AnswersInTurn
      (fun _ : Unit =>
        (init newCoreLocation newIPLocation primaryService fallbackService).calculateDistance
          userId)
      ((primaryService.getD newCoreLocation).calculateDistance userId)
      ((fallbackService.getD newIPLocation).calculateDistance userId) := by
  refine answersInTurn fun made => ?_
  rw [calculateDistance, inTurn_init]

end LocationFallback

end SkillTalk
