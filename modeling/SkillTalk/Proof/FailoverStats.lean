import Mathlib.Tactic.Linarith
import SkillTalk.Library.SlidingWindow
import SkillTalk.Proof.FailoverRouting

/-!
# The statistics of the failover manager

The history is a window on all switches so far, and the clock dates them in order. So what the
statistics count in the history they count right, up to the size of the window. The services on
their backup are counted by provider, over all pairs at once. This comes to the number of types on
their own backup, since no provider is the primary of one pair and the backup of another.
-/

namespace SkillTalk

namespace FailoverWorld

variable {clock : Clock Date} {w : FailoverWorld}

/-- The type is routed to the backup of its own pair. -/
def OnBackup (w : FailoverWorld) (serviceType : ServiceType) : Prop :=
  ∃ pair ∈ providerPair serviceType, w.activeProviders serviceType = some pair.backup

instance OnBackup.decidable (w : FailoverWorld) (serviceType : ServiceType) :
    Decidable (w.OnBackup serviceType) :=
  inferInstanceAs (Decidable (∃ pair ∈ providerPair serviceType, _))

/-- The switches of the 24 hours before a call that reads the clock now. -/
def switchesOfLastDay (clock : Clock Date) (w : FailoverWorld) : List FailoverEvent :=
  w.completed.filter fun event => event.timestamp > clock.reading w.reads - 24 * 3600

/-! ### The history -/

/-- The history is a window on the switches so far, dated in order and up to now. -/
structure Recorded (clock : Clock Date) (w : FailoverWorld) : Prop where
  window : w.failoverHistory = w.completed.rtake 50
  ordered : w.completed.Pairwise fun earlier later => earlier.timestamp ≤ later.timestamp
  past : ∀ event ∈ w.completed, event.timestamp ≤ clock.reading w.reads

theorem failoverHistory_perform {call : FailoverCall}
    (hopen : w.inCooldown (clock.reading w.reads) call.serviceType = false) :
    (w.perform clock call).failoverHistory
      = SlidingWindow.push maxFailoverHistory w.failoverHistory
          (call.event (clock.reading (w.reads + 1))) := by
  rw [perform, performFailover, hopen]
  rfl

theorem Recorded.frame {v : FailoverWorld} (hsame : SameRouting w v) (hw : w.Recorded clock) :
    v.Recorded clock := by
  constructor
  · rw [hsame.history, hsame.completed]
    exact hw.window
  · rw [hsame.completed]
    exact hw.ordered
  · intro event hevent
    rw [hsame.completed] at hevent
    exact (hw.past event hevent).trans (clock.monotone hsame.reads)

theorem Recorded.perform (hw : w.Recorded clock) (call : FailoverCall) :
    (w.perform clock call).Recorded clock := by
  rcases perform_cases clock w call with ⟨_, hrefused⟩ | ⟨hopen, hswitched⟩
  · have hsame : SameRouting w { w with reads := w.reads + 1 } :=
      ⟨rfl, rfl, rfl, rfl, Nat.le_succ _⟩
    rw [hrefused]
    exact hw.frame hsame
  · have hdated : ∀ event ∈ w.completed, event.timestamp ≤ clock.reading (w.reads + 1) :=
      fun event hevent => (hw.past event hevent).trans (clock.monotone (Nat.le_succ _))
    constructor
    · rw [failoverHistory_perform hopen, hswitched.completed, hw.window]
      exact SlidingWindow.push_rtake w.completed _
    · rw [hswitched.completed, List.pairwise_append]
      refine ⟨hw.ordered, List.pairwise_singleton _ _, ?_⟩
      intro event hevent new hnew
      obtain rfl := List.mem_singleton.mp hnew
      exact hdated event hevent
    · intro event hevent
      rw [hswitched.reads]
      have hnow : clock.reading (w.reads + 1) ≤ clock.reading (w.reads + 4) :=
        clock.monotone (by omega)
      rw [hswitched.completed] at hevent
      rcases List.mem_append.mp hevent with hold | hnew
      · exact (hdated event hold).trans hnow
      · obtain rfl := List.mem_singleton.mp hnew
        exact hnow

theorem recorded_of_reachable (hw : (failover clock).Reachable w) : w.Recorded clock := by
  refine Machine.ReachableWhere.invariant (Recorded clock) ?_ ?_ hw
  · rintro w rfl
    exact ⟨rfl, .nil, by simp [initial]⟩
  · intro w action v _ hw _ hstep
    exact (step_switchesBy hstep).invariant (Recorded clock) (fun u v hsame hu => hu.frame hsame)
      (fun u call _ _ hu => hu.perform call) hw

/-! ### Services on their backup -/

/-- The test of `getFailoverStats`, over the pairs of all types. -/
def isBackup (provider : ServiceProvider) : Bool :=
  providerPairs.any fun entry => entry.2.backup = provider

theorem isBackup_of_paired {serviceType : ServiceType} {pair : ProviderPair}
    (hpair : providerPair serviceType = some pair) :
    isBackup pair.backup = true ∧ isBackup pair.primary = false := by
  have hall : ∀ entry ∈ providerPairs,
      isBackup entry.2.backup = true ∧ isBackup entry.2.primary = false := by decide
  exact hall _ (mem_providerPairs_iff.mpr hpair)

theorem Routed.any_isBackup (hw : w.Routed) (serviceType : ServiceType) :
    (w.activeProviders serviceType).any isBackup = decide (w.OnBackup serviceType) := by
  cases hpair : providerPair serviceType with
  | none =>
      rw [hw.unpaired serviceType hpair]
      simp [OnBackup, hpair]
  | some pair =>
      obtain ⟨hbackup, hprimary⟩ := isBackup_of_paired hpair
      have hne : pair.primary ≠ pair.backup := primary_ne_backup hpair
      rcases hw.paired serviceType pair hpair with hactive | hactive
      · simp [OnBackup, hpair, hactive, hprimary, hne]
      · simp [OnBackup, hpair, hactive, hbackup]

theorem Routed.activeBackupServices_eq (hw : w.Routed) :
    (w.getFailoverStats clock).activeBackupServices
      = ServiceType.allCases.countP fun serviceType => w.OnBackup serviceType := by
  have hone : ∀ serviceType, ((w.activeProviders serviceType).bind fun provider =>
      if isBackup provider then some provider else none).isSome
        = decide (w.OnBackup serviceType) := by
    intro serviceType
    rw [← hw.any_isBackup serviceType]
    cases w.activeProviders serviceType with
    | none => rfl
    | some provider => cases h : isBackup provider <;> simp [h]
  calc (w.getFailoverStats clock).activeBackupServices
      = (((ServiceType.allCases.filterMap w.activeProviders).filterMap fun provider =>
          if isBackup provider then some provider else none).length : ℤ) := rfl
    _ = ServiceType.allCases.countP fun serviceType => w.OnBackup serviceType := by
        rw [List.filterMap_filterMap, List.length_filterMap_eq_countP]
        simp only [hone]

/-! ### What the statistics say -/

/-- The statistics and the history in one world. -/
structure StatsAgree (clock : Clock Date) (w : FailoverWorld) : Prop where
  history : w.failoverHistory = w.completed.rtake 50
  length : w.failoverHistory.length = min 50 w.completed.length
  ordered : w.failoverHistory.Pairwise fun earlier later => earlier.timestamp ≤ later.timestamp
  total : (w.getFailoverStats clock).totalFailovers = w.failoverHistory.length
  split : (w.getFailoverStats clock).automaticFailovers + (w.getFailoverStats clock).manualFailovers
    = (w.getFailoverStats clock).totalFailovers
  manual : (w.getFailoverStats clock).manualFailovers
    = w.failoverHistory.countP fun event => !event.isAutomatic
  total_le : (w.getFailoverStats clock).totalFailovers ≤ 50
  recent_le : (w.getFailoverStats clock).recentFailovers
    ≤ (w.getFailoverStats clock).totalFailovers
  backups : (w.getFailoverStats clock).activeBackupServices
    = ServiceType.allCases.countP fun serviceType => w.OnBackup serviceType

theorem manualFailovers_eq (clock : Clock Date) (w : FailoverWorld) :
    (w.getFailoverStats clock).manualFailovers
      = w.failoverHistory.countP fun event => !event.isAutomatic := by
  have hsplit := List.length_eq_countP_add_countP (fun event : FailoverEvent => event.isAutomatic)
    (l := w.failoverHistory)
  simp only [Bool.not_eq_true, Bool.decide_eq_false] at hsplit
  simp only [getFailoverStats, ← List.countP_eq_length_filter]
  omega

/-- **The statistics agree with the switches.** -/
theorem failover_stats_agree (hw : (failover clock).Reachable w) : w.StatsAgree clock := by
  have hrecorded : w.Recorded clock := recorded_of_reachable hw
  have hlength : w.failoverHistory.length = min 50 w.completed.length := by
    rw [hrecorded.window, SlidingWindow.length_rtake]
  refine ⟨hrecorded.window, hlength, ?_, rfl, ?_, manualFailovers_eq clock w, ?_, ?_,
    (routed_of_reachable hw).activeBackupServices_eq⟩
  · rw [hrecorded.window]
    exact hrecorded.ordered.sublist (SlidingWindow.rtake_suffix 50 _).sublist
  · exact add_sub_cancel _ _
  · have hle : w.failoverHistory.length ≤ 50 := hlength ▸ min_le_left _ _
    exact Int.ofNat_le.mpr hle
  · exact Int.ofNat_le.mpr (List.length_filter_le _ w.failoverHistory)

theorem failover_stats_agree_of_trigger :
    ∃ w, (failover (Clock.ofGaps [])).exec (initial (Clock.ofGaps []))
        [.triggerFailover .authentication "manual"] = some w
      ∧ w.StatsAgree (Clock.ofGaps []) := by
  obtain ⟨w, hexec⟩ : ∃ w, (failover (Clock.ofGaps [])).exec (initial (Clock.ofGaps []))
      [.triggerFailover .authentication "manual"] = some w := ⟨_, rfl⟩
  exact ⟨w, hexec, failover_stats_agree (Machine.reachable_of_exec rfl hexec)⟩

/-- **The count of the last day.** It is right as long as no more than 50 switches fall in the day,
and it is 50 from then on. -/
theorem recentFailovers_eq (hw : (failover clock).Reachable w) :
    (w.getFailoverStats clock).recentFailovers
      = min 50 ((w.switchesOfLastDay clock).length : ℤ) := by
  have hrecorded : w.Recorded clock := recorded_of_reachable hw
  have hday : clock.reading w.reads + -24 * 3600 = clock.reading w.reads - 24 * 3600 := by
    rw [sub_eq_add_neg, neg_mul]
  have hlater : w.completed.Pairwise fun earlier later =>
      decide (earlier.timestamp > clock.reading w.reads - 24 * 3600) = true →
        decide (later.timestamp > clock.reading w.reads - 24 * 3600) = true := by
    refine hrecorded.ordered.imp ?_
    intro earlier later hle hearlier
    rw [decide_eq_true_eq] at hearlier ⊢
    exact hearlier.trans_le hle
  have hcount := SlidingWindow.countP_rtake hlater 50
  rw [← hrecorded.window, List.countP_eq_length_filter, List.countP_eq_length_filter] at hcount
  rw [getFailoverStats, hday, hcount, Nat.cast_min]
  rfl

/-- Every reading comes 200 seconds after the one before. -/
def steadyClock : Clock Date where
  reading n := 200 * n
  monotone := by
    intro earlier later hle
    have hcast : (earlier : ℚ) ≤ later := Nat.cast_le.mpr hle
    linarith

theorem recentFailovers_eq_of_trigger :
    ∃ w, (failover steadyClock).exec (initial steadyClock)
        [.triggerFailover .database "manual"] = some w
      ∧ (w.getFailoverStats steadyClock).recentFailovers
        = min 50 ((w.switchesOfLastDay steadyClock).length : ℤ)
      ∧ (w.switchesOfLastDay steadyClock).length = 1 := by
  obtain ⟨w, hexec, hreach, hone⟩ :
      ∃ w, (failover steadyClock).exec (initial steadyClock)
          [.triggerFailover .database "manual"] = some w
        ∧ (failover steadyClock).Reachable w
        ∧ decide ((w.switchesOfLastDay steadyClock).length = 1) = true :=
    Machine.exists_reachableWhere rfl _ (by decide +kernel) (by decide +kernel)
  exact ⟨w, hexec, recentFailovers_eq hreach, of_decide_eq_true hone⟩

/-- The database switches 51 times within 12 hours. -/
theorem recentFailovers_ne_switchesOfLastDay :
    ¬ ∀ (clock : Clock Date) (w : FailoverWorld), (failover clock).Reachable w →
      (w.getFailoverStats clock).recentFailovers = (w.switchesOfLastDay clock).length := by
  intro hall
  obtain ⟨w, _, hreach, hcounts⟩ :
      ∃ w, (failover steadyClock).exec (initial steadyClock)
          (List.replicate 51 (.triggerFailover .database "manual")) = some w
        ∧ (failover steadyClock).Reachable w
        ∧ decide ((w.getFailoverStats steadyClock).recentFailovers
            ≠ (w.switchesOfLastDay steadyClock).length) = true :=
    Machine.exists_reachableWhere rfl _ (by decide +kernel) (by decide +kernel)
  exact of_decide_eq_true hcounts (hall steadyClock w hreach)

end FailoverWorld

end SkillTalk
