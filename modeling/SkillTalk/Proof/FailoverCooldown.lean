import Mathlib.Tactic.Linarith
import Mathlib.Tactic.NormNum
import SkillTalk.Proof.FailoverStep

/-!
# The cooldown spaces the switches of a type

The guard is shared by manual, automatic and recovery switches, and is read when a switch is carried
out, not when it is decided. A call reads the clock three times: for the check, for the event and
for the cooldown entry. So the entry is no earlier than the event, and an event that gets past a
check is at least the cooldown later than every earlier event of its type.
-/

namespace SkillTalk

namespace FailoverWorld

variable {clock : Clock Date}

def switchTimes (w : FailoverWorld) : List (ServiceType × Date) :=
  w.completed.map fun event => (event.serviceType, event.timestamp)

def Guarded (w : FailoverWorld) : Prop :=
  Cooldown.Guards cooldownDuration w.failoverCooldowns w.switchTimes

theorem le_of_not_inCooldown {w : FailoverWorld} {now : Date} {serviceType : ServiceType}
    (h : w.inCooldown now serviceType = false) :
    ∀ last ∈ w.failoverCooldowns serviceType, last + cooldownDuration ≤ now := by
  intro last hlast
  by_contra hrecent
  have hcooldown : w.inCooldown now serviceType = true :=
    inCooldown_iff.mpr ⟨last, hlast, by linarith⟩
  rw [hcooldown] at h
  cases h

theorem Guarded.perform {w : FailoverWorld} (hw : w.Guarded) (call : FailoverCall) :
    (w.perform clock call).Guarded := by
  rcases perform_cases clock w call with ⟨_, hrefused⟩ | ⟨hopen, hswitched⟩
  · rw [hrefused]
    exact hw
  · have hcheck : clock.reading w.reads ≤ clock.reading (w.reads + 1) :=
      clock.monotone (Nat.le_succ _)
    have hmark : clock.reading (w.reads + 1) ≤ clock.reading (w.reads + 2) :=
      clock.monotone (Nat.le_succ _)
    rw [Guarded, switchTimes, hswitched.cooldowns, hswitched.completed, List.map_append]
    refine Cooldown.Guards.concat (by norm_num [cooldownDuration]) hw ?_ hmark
    exact fun last hlast => (le_of_not_inCooldown hopen last hlast).trans hcheck

theorem guarded_of_reachable {w : FailoverWorld} (hw : (failover clock).Reachable w) :
    w.Guarded := by
  refine Machine.ReachableWhere.invariant Guarded ?_ ?_ hw
  · rintro w rfl
    exact Cooldown.Guards.nil _ _
  · intro w action v _ hw _ hstep
    refine (step_switchesBy hstep).invariant Guarded ?_ (fun u call _ _ hu => hu.perform call) hw
    intro u v hsame hu
    rw [Guarded, switchTimes, hsame.cooldowns, hsame.completed]
    exact hu

def SwitchesSpaced (w : FailoverWorld) : Prop :=
  w.completed.Pairwise fun first second =>
    first.serviceType = second.serviceType → first.timestamp + 300 ≤ second.timestamp

/-- A switch the cooldown refuses, in whatever world it is asked for, leaves the routing and the
recovery timers alone. -/
def RefusalsIdle (clock : Clock Date) : Prop :=
  ∀ (u : FailoverWorld) (call : FailoverCall),
    u.inCooldown (clock.reading u.reads) call.serviceType = true →
    (u.perform clock call).activeProviders = u.activeProviders
      ∧ (u.perform clock call).failoverHistory = u.failoverHistory
      ∧ (u.perform clock call).failoverCooldowns = u.failoverCooldowns
      ∧ (u.perform clock call).recoveryTimers = u.recoveryTimers

theorem refusalsIdle : RefusalsIdle clock := by
  intro u call hcooldown
  rw [perform_of_inCooldown hcooldown]
  exact ⟨rfl, rfl, rfl, rfl⟩

/-- **The cooldown holds on every path.** -/
theorem failover_cooldown {w : FailoverWorld} (hw : (failover clock).Reachable w) :
    w.SwitchesSpaced ∧ RefusalsIdle clock :=
  ⟨List.pairwise_map.mp (guarded_of_reachable hw).spaced, refusalsIdle⟩

theorem failover_cooldown_of_triggers :
    let clock := Clock.ofGaps (List.replicate 20 0 ++ [300])
    ∃ w, (failover clock).exec (initial clock)
        [.triggerFailover .database "first", .triggerFailover .database "refused",
          .triggerFailover .database "second"] = some w
      ∧ w.completed.length = 2 ∧ w.SwitchesSpaced ∧ RefusalsIdle clock := by
  intro clock
  obtain ⟨w, hexec⟩ : ∃ w, (failover clock).exec (initial clock)
      [.triggerFailover .database "first", .triggerFailover .database "refused",
        .triggerFailover .database "second"] = some w := ⟨_, rfl⟩
  have hlength : (((failover clock).exec (initial clock)
      [.triggerFailover .database "first", .triggerFailover .database "refused",
        .triggerFailover .database "second"]).map fun w => w.completed.length) = some 2 := by
    decide +kernel
  rw [hexec] at hlength
  exact ⟨w, hexec, Option.some.inj hlength,
    failover_cooldown (Machine.reachable_of_exec rfl hexec)⟩

end FailoverWorld

end SkillTalk
