import Mathlib.Data.List.Perm.Basic
import Mathlib.Order.Nat
import Mathlib.Tactic.SplitIfs

/-!
# Requests that are answered once

Requests are numbered in the order they are issued. Each has an alarm that answers it when it fires,
and the latest is stored for whoever else may answer it first. The weight of a request counts its
answers and the alarm still to come, and nothing takes weight away again. As long as only alarms
answer, no request weighs more than one, so each is answered once when its alarm has fired. An
answer from elsewhere makes its request weigh two.
-/

structure OneShot where
  issued : ℕ
  pending : List ℕ
  answered : List ℕ
  stored : Option ℕ

namespace OneShot

def empty : OneShot where
  issued := 0
  pending := []
  answered := []
  stored := none

def issue (s : OneShot) : OneShot where
  issued := s.issued + 1
  pending := s.pending ++ [s.issued]
  answered := s.answered
  stored := some s.issued

/-- The alarm at this position answers its request. -/
def fire (s : OneShot) (index request : ℕ) : OneShot where
  issued := s.issued
  pending := s.pending.eraseIdx index
  answered := s.answered ++ [request]
  stored := s.stored

/-- The stored request is answered and forgotten. -/
def answer (s : OneShot) (request : ℕ) : OneShot where
  issued := s.issued
  pending := s.pending
  answered := s.answered ++ [request]
  stored := none

/-- A step leaves the requests alone, issues one, lets an alarm fire, or answers the stored request;
the label is the request answered by no alarm. -/
inductive Step (s : OneShot) : Option ℕ → OneShot → Prop
  | idle : Step s none s
  | issue : Step s none s.issue
  | fire {index request : ℕ} (h : s.pending[index]? = some request) :
      Step s none (s.fire index request)
  | answer {request : ℕ} (h : s.stored = some request) : Step s (some request) (s.answer request)

def weight (s : OneShot) (request : ℕ) : ℕ :=
  s.answered.count request + s.pending.count request

def Once (s : OneShot) : Prop := ∀ request, s.weight request ≤ 1

/-- The requests that occur anywhere are the issued ones. -/
structure Sound (s : OneShot) : Prop where
  weight_pos : ∀ request, request < s.issued ↔ 0 < s.weight request
  stored : ∀ request ∈ s.stored, request < s.issued

theorem count_append_singleton (l : List ℕ) (request k : ℕ) :
    (l ++ [request]).count k = l.count k + if k = request then 1 else 0 := by
  rw [List.count_append, List.count_singleton]
  by_cases heq : k = request
  · simp [heq]
  · simp [heq, Ne.symm heq]

theorem weight_issue (s : OneShot) (k : ℕ) :
    s.issue.weight k = s.weight k + if k = s.issued then 1 else 0 := by
  change s.answered.count k + (s.pending ++ [s.issued]).count k = _
  rw [count_append_singleton, weight]
  omega

theorem weight_answer (s : OneShot) (request k : ℕ) :
    (s.answer request).weight k = s.weight k + if k = request then 1 else 0 := by
  change (s.answered ++ [request]).count k + s.pending.count k = _
  rw [count_append_singleton, weight]
  omega

theorem weight_fire {s : OneShot} {index request : ℕ} (h : s.pending[index]? = some request)
    (k : ℕ) : (s.fire index request).weight k = s.weight k := by
  obtain ⟨hlt, hget⟩ := List.getElem?_eq_some_iff.mp h
  have hperm : (s.pending.eraseIdx index ++ [request]).Perm s.pending := by
    rw [← hget]
    exact (List.perm_append_singleton _ _).trans (List.getElem_cons_eraseIdx_perm hlt)
  have hcount : (s.pending.eraseIdx index ++ [request]).count k = s.pending.count k :=
    hperm.count_eq k
  rw [count_append_singleton] at hcount
  change (s.answered ++ [request]).count k + (s.pending.eraseIdx index).count k = _
  rw [count_append_singleton, weight]
  omega

theorem sound_empty : empty.Sound := by
  constructor
  · intro k
    simp [empty, weight]
  · intro k hk
    cases hk

theorem once_empty : empty.Once := fun _ => Nat.zero_le _

theorem Sound.issue {s : OneShot} (hs : s.Sound) : s.issue.Sound := by
  constructor
  · intro k
    have hk : k < s.issued ↔ 0 < s.weight k := hs.weight_pos k
    rw [weight_issue]
    change k < s.issued + 1 ↔ _
    split_ifs <;> omega
  · intro k hk
    obtain rfl : s.issued = k := Option.some.inj hk
    exact Nat.lt_succ_self _

theorem Sound.fire {s : OneShot} (hs : s.Sound) {index request : ℕ}
    (h : s.pending[index]? = some request) : (s.fire index request).Sound := by
  constructor
  · intro k
    rw [weight_fire h]
    exact hs.weight_pos k
  · exact hs.stored

theorem Sound.answer {s : OneShot} (hs : s.Sound) {request : ℕ} (h : s.stored = some request) :
    (s.answer request).Sound := by
  constructor
  · intro k
    have hk : k < s.issued ↔ 0 < s.weight k := hs.weight_pos k
    have hissued : request < s.issued := hs.stored request h
    rw [weight_answer]
    change k < s.issued ↔ _
    split_ifs <;> omega
  · intro k hk
    cases hk

variable {s t : OneShot} {label : Option ℕ}

theorem Step.sound (h : s.Step label t) (hs : s.Sound) : t.Sound := by
  cases h with
  | idle => exact hs
  | issue => exact hs.issue
  | fire hpending => exact hs.fire hpending
  | answer hstored => exact hs.answer hstored

theorem Step.weight_le (h : s.Step label t) (k : ℕ) : s.weight k ≤ t.weight k := by
  cases h with
  | idle => exact le_rfl
  | issue =>
      rw [weight_issue]
      omega
  | fire hpending => rw [weight_fire hpending]
  | answer hstored =>
      rw [weight_answer]
      omega

theorem Step.not_once (h : s.Step label t) (hs : ¬ s.Once) : ¬ t.Once :=
  fun ht => hs fun k => (h.weight_le k).trans (ht k)

/-- **Only an answer that comes from no alarm makes a request weigh two.** -/
theorem Step.once_iff (h : s.Step label t) (hs : s.Sound) (honce : s.Once) :
    t.Once ↔ label = none := by
  cases h with
  | idle => exact iff_of_true honce rfl
  | issue =>
      refine iff_of_true (fun k => ?_) rfl
      have hk : k < s.issued ↔ 0 < s.weight k := hs.weight_pos k
      have hle : s.weight k ≤ 1 := honce k
      rw [weight_issue]
      split_ifs <;> omega
  | fire hpending =>
      refine iff_of_true (fun k => ?_) rfl
      rw [weight_fire hpending]
      exact honce k
  | answer hstored =>
      rename_i request
      refine iff_of_false (fun ht => ?_) (by simp)
      have hpos : 0 < s.weight request := (hs.weight_pos request).mp (hs.stored request hstored)
      have hle : (s.answer request).weight request ≤ 1 := ht request
      rw [weight_answer, if_pos rfl] at hle
      omega

theorem Once.count_answered_le (h : s.Once) (k : ℕ) : s.answered.count k ≤ 1 :=
  (Nat.le_add_right _ _).trans (h k)

/-- When the alarms have fired, an issued request has been answered. -/
theorem Sound.count_answered_pos (hs : s.Sound) (hpending : s.pending = []) {k : ℕ}
    (hk : k < s.issued) : 0 < s.answered.count k := by
  have hpos : 0 < s.weight k := (hs.weight_pos k).mp hk
  rwa [weight, hpending, List.count_nil, Nat.add_zero] at hpos

end OneShot
