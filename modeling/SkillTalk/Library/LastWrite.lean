import SkillTalk.Library.Machine

/-!
# The last write of a run, and runs in step

What a step writes to a part of the state, if anything, depends on its label alone: then a run leaves
there what its last writing label wrote. Two states are in step if each step of the one can be
followed by the other.
-/

namespace Machine

variable {State State' Label Value : Type*} {m : Machine State Label} {m' : Machine State' Label}

/-- **The last write stays.** -/
theorem exec_last_write (read : State → Value) (write : Label → Option Value)
    (Good : State → Prop) (hgood : ∀ s l t, m.step s l = some t → Good s → Good t)
    (hwrite : ∀ s l t, m.step s l = some t → Good s → read t = (write l).getD (read s))
    {ls : List Label} {s t : State} (hexec : m.exec s ls = some t) (hs : Good s) :
    read t = (ls.filterMap write).getLast?.getD (read s) := by
  induction ls generalizing s with
  | nil =>
      obtain rfl := Option.some.inj hexec
      rfl
  | cons l ls ih =>
      obtain ⟨u, hstep, hrest⟩ := exec_cons_eq_some hexec
      rw [ih hrest (hgood s l u hstep hs), hwrite s l u hstep hs, List.filterMap_cons]
      cases write l with
      | none => rfl
      | some value =>
          dsimp only [Option.getD_some]
          rw [List.getLast?_cons]
          rfl

/-- What one run does, a run in step with it does too. -/
theorem exec_in_step (R : State → State' → Prop)
    (hstep : ∀ s s' l t, R s s' → m.step s l = some t → ∃ t', m'.step s' l = some t' ∧ R t t')
    {ls : List Label} {s t : State} {s' : State'} (hR : R s s') (hexec : m.exec s ls = some t) :
    ∃ t', m'.exec s' ls = some t' ∧ R t t' := by
  induction ls generalizing s s' with
  | nil =>
      obtain rfl := Option.some.inj hexec
      exact ⟨s', rfl, hR⟩
  | cons l ls ih =>
      obtain ⟨u, hfirst, hrest⟩ := exec_cons_eq_some hexec
      obtain ⟨u', hfirst', hu⟩ := hstep s s' l u hR hfirst
      rw [exec_cons_of_step hfirst']
      exact ih hu hrest

end Machine
