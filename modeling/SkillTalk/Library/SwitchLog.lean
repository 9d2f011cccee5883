import Mathlib.Data.List.Chain
import Mathlib.Logic.Function.Basic
import Mathlib.Algebra.Order.Monoid.Defs

/-!
# Logs of switches, and the cooldown between them

A map from keys to values that changes only by switches can be kept as the log of its switches.
A log is *truthful* when each switch starts at the value its key then has and ends at another one.
The switches of one key then form a chain. A *cooldown* marks every key with a time its last switch
was over by, and a switch is let through only a fixed gap after the mark: that spaces all switches
of one key, not only neighbours.
-/

structure Switch (Key Value : Type*) where
  key : Key
  source : Value
  target : Value
  deriving DecidableEq

namespace Switch

variable {Key Value : Type*} [DecidableEq Key]

def apply (current : Key → Value) (s : Switch Key Value) : Key → Value :=
  Function.update current s.key s.target

def replay (start : Key → Value) (log : List (Switch Key Value)) : Key → Value :=
  log.foldl apply start

/-- Every switch starts at the value its key has when it happens, and ends at another value. -/
def Truthful : (Key → Value) → List (Switch Key Value) → Prop
  | _, [] => True
  | current, s :: log =>
      current s.key = s.source ∧ s.target ≠ s.source ∧ Truthful (s.apply current) log

instance Truthful.decidable [DecidableEq Value] :
    ∀ (current : Key → Value) (log : List (Switch Key Value)), Decidable (Truthful current log)
  | _, [] => inferInstanceAs (Decidable True)
  | current, s :: log =>
      have := Truthful.decidable (s.apply current) log
      inferInstanceAs (Decidable (_ ∧ _ ∧ _))

@[simp]
theorem replay_nil (start : Key → Value) : replay start [] = start := rfl

theorem replay_append (start : Key → Value) (log later : List (Switch Key Value)) :
    replay start (log ++ later) = replay (replay start log) later :=
  List.foldl_append

theorem truthful_append {start : Key → Value} {log later : List (Switch Key Value)} :
    Truthful start (log ++ later) ↔ Truthful start log ∧ Truthful (replay start log) later := by
  induction log generalizing start with
  | nil => simp [Truthful]
  | cons s log ih =>
      simp only [List.cons_append, Truthful, ih, and_assoc]
      rfl

theorem Truthful.concat {start : Key → Value} {log : List (Switch Key Value)}
    (hlog : Truthful start log) {s : Switch Key Value}
    (hsource : replay start log s.key = s.source) (hmoves : s.target ≠ s.source) :
    Truthful start (log ++ [s]) :=
  truthful_append.mpr ⟨hlog, hsource, hmoves, trivial⟩

/-- **The switches of one key chain.** The first starts at the key's initial value, and each later
one where the one before it ended. -/
theorem Truthful.chain {start : Key → Value} {log : List (Switch Key Value)}
    (hlog : Truthful start log) (key : Key) :
    (∀ first ∈ (log.filter fun s => s.key = key).head?, first.source = start key)
      ∧ (log.filter fun s => s.key = key).IsChain fun earlier later =>
          later.source = earlier.target := by
  induction log generalizing start with
  | nil => simp
  | cons s log ih =>
      obtain ⟨hsource, _, hrest⟩ := hlog
      obtain ⟨hhead, hchain⟩ := ih hrest
      by_cases hkey : s.key = key
      · subst hkey
        simp only [decide_true, List.filter_cons_of_pos]
        refine ⟨by simpa using hsource.symm, List.isChain_cons.mpr ⟨?_, hchain⟩⟩
        intro next hnext
        simpa [apply] using hhead next hnext
      · simp only [hkey, decide_false, Bool.false_eq_true, not_false_eq_true,
          List.filter_cons_of_neg]
        refine ⟨fun first hfirst => ?_, hchain⟩
        rw [hhead first hfirst, apply, Function.update_of_ne (Ne.symm hkey)]

end Switch

namespace Cooldown

variable {Key Time : Type*} [DecidableEq Key] [LinearOrder Time] [AddCommMonoid Time]

/-- The marks cover the log, and the entries of each key are at least `gap` apart. -/
structure Guards (gap : Time) (marks : Key → Option Time) (log : List (Key × Time)) : Prop where
  marked : ∀ entry ∈ log, ∃ mark ∈ marks entry.1, entry.2 ≤ mark
  spaced : log.Pairwise fun first second => first.1 = second.1 → first.2 + gap ≤ second.2

omit [DecidableEq Key] in
theorem Guards.nil (gap : Time) (marks : Key → Option Time) : Guards gap marks [] :=
  ⟨by simp, .nil⟩

/-- An entry let through `gap` after its key's mark, and marked no earlier than it happened, keeps
the log spaced. -/
theorem Guards.concat [IsOrderedAddMonoid Time] {gap : Time} (hgap : 0 ≤ gap)
    {marks : Key → Option Time}
    {log : List (Key × Time)} (hlog : Guards gap marks log) {key : Key} {time mark : Time}
    (hopen : ∀ last ∈ marks key, last + gap ≤ time) (hmark : time ≤ mark) :
    Guards gap (Function.update marks key (some mark)) (log ++ [(key, time)]) := by
  have hbefore : ∀ entry ∈ log, entry.1 = key → entry.2 + gap ≤ time := by
    rintro entry hentry rfl
    obtain ⟨last, hlast, hle⟩ := hlog.marked entry hentry
    exact (add_le_add_left hle gap).trans (hopen last hlast)
  constructor
  · intro entry hentry
    rcases List.mem_append.mp hentry with hold | hnew
    · by_cases hkey : entry.1 = key
      · refine ⟨mark, by simp [hkey], ?_⟩
        calc entry.2 = entry.2 + 0 := (add_zero _).symm
          _ ≤ entry.2 + gap := by gcongr
          _ ≤ time := hbefore entry hold hkey
          _ ≤ mark := hmark
      · simpa [Function.update_of_ne hkey] using hlog.marked entry hold
    · obtain rfl : entry = (key, time) := by simpa using hnew
      exact ⟨mark, by simp, hmark⟩
  · rw [List.pairwise_append]
    refine ⟨hlog.spaced, List.pairwise_singleton _ _, ?_⟩
    intro entry hentry new hnew hkey
    obtain rfl : new = (key, time) := by simpa using hnew
    exact hbefore entry hentry hkey

end Cooldown
