import SkillTalk.Library.TaskPool

/-!
# Loads behind a cache whose entries expire

Loads take turns at one cache. A load looks for its key, checks the age of what it found, removes
what is too old, reads its source, dates the value and stores it. Other loads may come between any
two of these, and entries may be dropped at any time. Nothing a load returns shows that there is a
cache, as long as a load that can use what another one stored reads the same from its own source.
-/

namespace ExpiringCache

/-- Where the values of the loads come from. A load of `ι` uses of a stored value what it accepts of
it; one that does not look into the cache goes straight to its source. -/
structure Source (ι κ α ε : Type*) where
  key : ι → κ
  looks : ι → Bool
  accepts : ι → α → Option α
  read : ι → Except ε α

/-- What a load does at its next turn. -/
inductive Stage (α Time : Type*) where
  | looking
  | checking (value : α) (stored : Time)
  | removing
  | reading
  | dating (value : α)
  | storing (value : α) (stored : Time)

structure Load (ι α Time : Type*) where
  call : ι
  stage : Stage α Time

structure Cache (ι κ α ε Time : Type*) where
  entries : κ → Option (α × Time)
  readings : ℕ
  -- the loads that were called, that read their source and that returned, oldest first
  called : List ι
  sourced : List ι
  returned : List (ι × Except ε α)

abbrev Calls (ι κ α ε Time : Type*) := TaskPool (Cache ι κ α ε Time) (Load ι α Time)

inductive Action (ι κ : Type*) where
  | call (call : ι)
  | turn (index : ℕ)
  | drop (dropped : κ → Bool)

variable {ι κ α ε Time : Type*}

def Cache.empty : Cache ι κ α ε Time where
  entries _ := none
  readings := 0
  called := []
  sourced := []
  returned := []

def Cache.drop (cache : Cache ι κ α ε Time) (dropped : κ → Bool) : Cache ι κ α ε Time :=
  { cache with entries := fun key => if dropped key then none else cache.entries key }

variable (source : Source ι κ α ε) (clock : ℕ → Time) (expired : Time → Time → Bool)

def call (p : Calls ι κ α ε Time) (call : ι) : Calls ι κ α ε Time :=
  TaskPool.add { p with shared := { p.shared with called := p.shared.called ++ [call] } }
    ⟨call, if source.looks call then .looking else .reading⟩

def drop (p : Calls ι κ α ε Time) (dropped : κ → Bool) : Calls ι κ α ε Time :=
  { p with shared := p.shared.drop dropped }

section Turns

variable [DecidableEq κ]

def turn (cache : Cache ι κ α ε Time) (load : Load ι α Time) :
    Cache ι κ α ε Time × Option (Load ι α Time) :=
  let ⟨call, stage⟩ := load
  match stage with
  | .looking =>
      match cache.entries (source.key call) with
      | none => (cache, some ⟨call, .reading⟩)
      | some (value, stored) => (cache, some ⟨call, .checking value stored⟩)
  | .checking value stored =>
      let dated := { cache with readings := cache.readings + 1 }
      if expired (clock cache.readings) stored then (dated, some ⟨call, .removing⟩)
      else
        match source.accepts call value with
        | none => (dated, some ⟨call, .reading⟩)
        | some accepted =>
            ({ dated with returned := cache.returned ++ [(call, .ok accepted)] }, none)
  | .removing =>
      ({ cache with entries := Function.update cache.entries (source.key call) none },
        some ⟨call, .reading⟩)
  | .reading =>
      let sourced := { cache with sourced := cache.sourced ++ [call] }
      match source.read call with
      | .error error =>
          ({ sourced with returned := cache.returned ++ [(call, .error error)] }, none)
      | .ok value => (sourced, some ⟨call, .dating value⟩)
  | .dating value =>
      ({ cache with readings := cache.readings + 1 },
        some ⟨call, .storing value (clock cache.readings)⟩)
  | .storing value stored =>
      ({ cache with
          entries := Function.update cache.entries (source.key call) (some (value, stored))
          returned := cache.returned ++ [(call, .ok value)] }, none)

def step (p : Calls ι κ α ε Time) : Action ι κ → Option (Calls ι κ α ε Time)
  | .call i => some (call source p i)
  | .turn index => TaskPool.run (turn source clock expired) p index
  | .drop dropped => some (drop p dropped)

def machine : Machine (Calls ι κ α ε Time) (Action ι κ) where
  Init p := p = ⟨.empty, []⟩
  step := step source clock expired

end Turns

/-! ### What a load returns -/

variable (Good : ι → Prop)

/-- The value is what a good load with the key reads. -/
def Origin (key : κ) (value : α) : Prop :=
  ∃ i, Good i ∧ source.key i = key ∧ source.read i = .ok value

/-- What a good load accepts of another one's value is what it reads itself. -/
def Coherent : Prop :=
  ∀ i value accepted, Good i → Origin source Good (source.key i) value →
    source.accepts i value = some accepted → source.read i = .ok accepted

/-- What a waiting load carries. -/
def Carries (load : Load ι α Time) : Prop :=
  match load.stage with
  | .checking value _ => Origin source Good (source.key load.call) value
  | .dating value => source.read load.call = .ok value
  | .storing value _ => source.read load.call = .ok value
  | _ => True

/-- Every entry is what some load reads, and every load returned what it reads. -/
structure Sound (p : Calls ι κ α ε Time) : Prop where
  entries : ∀ key value stored, p.shared.entries key = some (value, stored) →
    Origin source Good key value
  waiting : ∀ load ∈ p.tasks, Good load.call ∧ Carries source Good load
  returned : ∀ x ∈ p.shared.returned, x.2 = source.read x.1

variable {source clock expired Good} {p q : Calls ι κ α ε Time}

theorem Sound.empty : Sound source Good (⟨.empty, []⟩ : Calls ι κ α ε Time) := by
  refine ⟨?_, ?_, ?_⟩
  · intro key value stored hentry
    cases hentry
  · intro load hload
    cases hload
  · intro x hx
    cases hx

theorem Sound.call (h : Sound source Good p) {i : ι} (hi : Good i) :
    Sound source Good (call source p i) := by
  refine ⟨h.entries, ?_, h.returned⟩
  intro load hload
  rcases List.mem_append.mp hload with hload | hload
  · exact h.waiting load hload
  · obtain rfl := List.mem_singleton.mp hload
    refine ⟨hi, ?_⟩
    unfold Carries
    cases source.looks i <;> trivial

theorem Sound.drop (h : Sound source Good p) (dropped : κ → Bool) :
    Sound source Good (drop p dropped) := by
  refine ⟨?_, h.waiting, h.returned⟩
  intro key value stored hentry
  change (if dropped key then none else p.shared.entries key) = _ at hentry
  split at hentry
  · cases hentry
  · exact h.entries key value stored hentry

variable [DecidableEq κ]

/-- What one turn of a good load does to the cache. -/
structure TurnSound (source : Source ι κ α ε) (Good : ι → Prop) (cache : Cache ι κ α ε Time)
    (next : Option (Load ι α Time)) (i : ι) : Prop where
  entries : ∀ key value stored, cache.entries key = some (value, stored) →
    Origin source Good key value
  next : ∀ load ∈ next, load.call = i ∧ Carries source Good load
  returned : ∀ x ∈ cache.returned, x.2 = source.read x.1

variable (clock expired) in
theorem turn_sound (hcoherent : Coherent source Good) {cache : Cache ι κ α ε Time}
    {load : Load ι α Time} (hgood : Good load.call) (hcarries : Carries source Good load)
    (hentries : ∀ key value stored, cache.entries key = some (value, stored) →
      Origin source Good key value)
    (hreturned : ∀ x ∈ cache.returned, x.2 = source.read x.1) :
    TurnSound source Good (turn source clock expired cache load).1
      (turn source clock expired cache load).2 load.call := by
  obtain ⟨i, stage⟩ := load
  have hreturns : ∀ result, result = source.read i →
      ∀ x ∈ cache.returned ++ [(i, result)], x.2 = source.read x.1 := by
    intro result hresult x hx
    rcases List.mem_append.mp hx with hx | hx
    · exact hreturned x hx
    · obtain rfl := List.mem_singleton.mp hx
      exact hresult
  have hended : ∀ load ∈ (none : Option (Load ι α Time)),
      load.call = i ∧ Carries source Good load := by
    intro load hload
    cases hload
  have hwaits : ∀ stage : Stage α Time, Carries source Good ⟨i, stage⟩ →
      ∀ load ∈ some (⟨i, stage⟩ : Load ι α Time), load.call = i ∧ Carries source Good load := by
    intro stage hstage load hload
    obtain rfl := Option.some.inj hload
    exact ⟨rfl, hstage⟩
  cases stage with
  | looking =>
      cases hentry : cache.entries (source.key i) with
      | none =>
          simp only [turn, hentry]
          exact ⟨hentries, hwaits _ trivial, hreturned⟩
      | some entry =>
          obtain ⟨value, stored⟩ := entry
          simp only [turn, hentry]
          exact ⟨hentries, hwaits _ (hentries _ _ _ hentry), hreturned⟩
  | checking value stored =>
      cases hexpired : expired (clock cache.readings) stored with
      | true =>
          simp only [turn, hexpired, if_true]
          exact ⟨hentries, hwaits _ trivial, hreturned⟩
      | false =>
          cases haccepts : source.accepts i value with
          | none =>
              simp only [turn, hexpired, haccepts, Bool.false_eq_true, if_false]
              exact ⟨hentries, hwaits _ trivial, hreturned⟩
          | some accepted =>
              have hread : source.read i = .ok accepted :=
                hcoherent i value accepted hgood hcarries haccepts
              simp only [turn, hexpired, haccepts, Bool.false_eq_true, if_false]
              exact ⟨hentries, hended, hreturns _ hread.symm⟩
  | removing =>
      refine ⟨?_, hwaits _ trivial, hreturned⟩
      intro key value stored hentry
      by_cases hkey : key = source.key i
      · subst hkey
        simp [turn] at hentry
      · simp only [turn, Function.update_of_ne hkey] at hentry
        exact hentries key value stored hentry
  | reading =>
      cases hread : source.read i with
      | error error =>
          simp only [turn, hread]
          exact ⟨hentries, hended, hreturns _ hread.symm⟩
      | ok value =>
          simp only [turn, hread]
          exact ⟨hentries, hwaits _ hread, hreturned⟩
  | dating value => exact ⟨hentries, hwaits _ hcarries, hreturned⟩
  | storing value stored =>
      have hread : source.read i = .ok value := hcarries
      refine ⟨?_, hended, hreturns _ hread.symm⟩
      intro key value' stored' hentry
      by_cases hkey : key = source.key i
      · subst hkey
        simp only [turn, Function.update_self, Option.some.injEq, Prod.mk.injEq] at hentry
        exact ⟨i, hgood, rfl, hentry.1 ▸ hread⟩
      · simp only [turn, Function.update_of_ne hkey] at hentry
        exact hentries key value' stored' hentry

theorem Sound.turn (h : Sound source Good p) (hcoherent : Coherent source Good) {index : ℕ}
    (hrun : TaskPool.run (turn source clock expired) p index = some q) : Sound source Good q := by
  obtain ⟨before, load, after, -, htasks, rfl⟩ := TaskPool.run_eq_some hrun
  obtain ⟨hgood, hcarries⟩ := h.waiting load (by simp [htasks])
  have hturn := turn_sound clock expired hcoherent hgood hcarries h.entries
    h.returned
  refine ⟨hturn.entries, ?_, hturn.returned⟩
  intro other hother
  simp only [List.mem_append, Option.mem_toList] at hother
  rcases hother with (hother | hother) | hother
  · exact h.waiting other (by simp [htasks, hother])
  · obtain ⟨hcall, hnext⟩ := hturn.next other hother
    exact ⟨hcall ▸ hgood, hnext⟩
  · exact h.waiting other (by simp [htasks, hother])

/-- Only good loads are called. -/
def CallsGood (Good : ι → Prop) (_ : Calls ι κ α ε Time) : Action ι κ → Prop
  | .call i => Good i
  | _ => True

instance [DecidablePred Good] (p : Calls ι κ α ε Time) :
    (action : Action ι κ) → Decidable (CallsGood Good p action)
  | .call i => inferInstanceAs (Decidable (Good i))
  | .turn _ => isTrue trivial
  | .drop _ => isTrue trivial

theorem sound_of_reachable (hcoherent : Coherent source Good)
    (hp : (machine source clock expired).ReachableWhere (CallsGood Good) p) :
    Sound source Good p := by
  refine Machine.ReachableWhere.invariant (Sound source Good) ?_ ?_ hp
  · rintro p rfl
    exact .empty
  · intro p action q _ hp hgood hstep
    cases action with
    | call i =>
        obtain rfl := Option.some.inj hstep
        exact hp.call hgood
    | turn index => exact hp.turn hcoherent hstep
    | drop dropped =>
        obtain rfl := Option.some.inj hstep
        exact hp.drop dropped

/-! ### Each call returns once -/

/-- What was called has returned or waits, each call as often as it was made. -/
def Accounted (p : Calls ι κ α ε Time) : Prop :=
  (p.shared.returned.map Prod.fst ++ p.tasks.map Load.call).Perm p.shared.called

theorem called_turn (cache : Cache ι κ α ε Time) (load : Load ι α Time) :
    (turn source clock expired cache load).1.called = cache.called := by
  obtain ⟨i, stage⟩ := load
  cases stage with
  | looking => rw [turn]; split <;> rfl
  | checking value stored =>
      rw [turn]
      dsimp only
      split
      · rfl
      · split <;> rfl
  | removing => rfl
  | reading => rw [turn]; dsimp only; split <;> rfl
  | dating value => rfl
  | storing value stored => rfl

theorem called_of_run {index : ℕ}
    (hrun : TaskPool.run (turn source clock expired) p index = some q) :
    q.shared.called = p.shared.called := by
  obtain ⟨before, load, after, -, -, rfl⟩ := TaskPool.run_eq_some hrun
  exact called_turn p.shared load

variable (source clock expired) in
/-- A turn either leaves its load waiting or makes it return. -/
theorem turn_moves (cache : Cache ι κ α ε Time) (load : Load ι α Time) :
    (∃ stage, (turn source clock expired cache load).2 = some ⟨load.call, stage⟩
        ∧ (turn source clock expired cache load).1.returned = cache.returned)
      ∨ ((turn source clock expired cache load).2 = none
        ∧ ∃ result, (turn source clock expired cache load).1.returned
          = cache.returned ++ [(load.call, result)]) := by
  obtain ⟨i, stage⟩ := load
  cases stage with
  | looking => rw [turn]; split <;> exact .inl ⟨_, rfl, rfl⟩
  | checking value stored =>
      rw [turn]
      dsimp only
      split
      · exact .inl ⟨_, rfl, rfl⟩
      · split
        · exact .inl ⟨_, rfl, rfl⟩
        · exact .inr ⟨rfl, _, rfl⟩
  | removing => exact .inl ⟨_, rfl, rfl⟩
  | reading =>
      rw [turn]
      dsimp only
      split
      · exact .inr ⟨rfl, _, rfl⟩
      · exact .inl ⟨_, rfl, rfl⟩
  | dating value => exact .inl ⟨_, rfl, rfl⟩
  | storing value stored => exact .inr ⟨rfl, _, rfl⟩

theorem Accounted.turn (h : Accounted p) {index : ℕ}
    (hrun : TaskPool.run (turn source clock expired) p index = some q) : Accounted q := by
  have hmoved : (q.shared.returned.map Prod.fst ++ q.tasks.map Load.call).Perm
      (p.shared.returned.map Prod.fst ++ p.tasks.map Load.call) :=
    TaskPool.perm_of_run (fun cache => cache.returned.map Prod.fst) hrun <| by
      intro load _
      rcases turn_moves source clock expired p.shared load with
        ⟨stage, hnext, hreturned⟩ | ⟨hnext, result, hreturned⟩
      · rw [hnext, hreturned]
        exact .refl _
      · rw [hnext, hreturned, List.map_append]
        simp
  rw [Accounted, called_of_run hrun]
  exact hmoved.trans h

theorem accounted_of_reachable
    (hp : (machine source clock expired).Reachable p) : Accounted p := by
  refine Machine.ReachableWhere.invariant Accounted ?_ ?_ hp
  · rintro p rfl
    exact .refl []
  · intro p action q _ hp _ hstep
    cases action with
    | call i =>
        obtain rfl := Option.some.inj hstep
        change (_ ++ (p.tasks ++ [_]).map Load.call).Perm (p.shared.called ++ [i])
        rw [List.map_append, ← List.append_assoc]
        exact hp.append_right [i]
    | turn index => exact hp.turn hstep
    | drop dropped =>
        obtain rfl := Option.some.inj hstep
        exact hp

def Action.called? : Action ι κ → Option ι
  | .call i => some i
  | _ => none

theorem called_exec {actions : List (Action ι κ)}
    (hexec : (machine source clock expired).exec p actions = some q) :
    q.shared.called = p.shared.called ++ actions.filterMap Action.called? := by
  induction actions generalizing p with
  | nil =>
      obtain rfl := Option.some.inj hexec
      simp
  | cons action actions ih =>
      obtain ⟨t, hstep, hrest⟩ := Machine.exec_cons_eq_some hexec
      rw [ih hrest]
      cases action with
      | call i =>
          obtain rfl := Option.some.inj hstep
          simp [Action.called?, call, TaskPool.add]
      | turn index =>
          have ht : t.shared.called = p.shared.called := called_of_run hstep
          rw [ht, List.filterMap_cons_none rfl]
      | drop dropped =>
          obtain rfl := Option.some.inj hstep
          rw [List.filterMap_cons_none rfl]
          rfl

/-! ### How long loads take -/

/-- The turns a load has left at most. -/
def turnsLeft (load : Load ι α Time) : ℕ :=
  match load.stage with
  | .looking => 6
  | .checking _ _ => 5
  | .removing => 4
  | .reading => 3
  | .dating _ => 2
  | .storing _ _ => 1

theorem turnsLeft_turn (cache : Cache ι κ α ε Time) (load : Load ι α Time) :
    (((turn source clock expired cache load).2.toList).map turnsLeft).sum < turnsLeft load := by
  obtain ⟨i, stage⟩ := load
  cases stage with
  | looking => rw [turn]; split <;> simp [turnsLeft]
  | checking value stored =>
      rw [turn]
      dsimp only
      split
      · simp [turnsLeft]
      · split <;> simp [turnsLeft]
  | removing => simp [turn, turnsLeft]
  | reading => rw [turn]; dsimp only; split <;> simp [turnsLeft]
  | dating value => simp [turn, turnsLeft]
  | storing value stored => simp [turn, turnsLeft]

omit [DecidableEq κ] in
variable (source) in
theorem weight_call_le (p : Calls ι κ α ε Time) (i : ι) :
    (call source p i).weight turnsLeft ≤ p.weight turnsLeft + 6 := by
  have hnew : turnsLeft (⟨i, if source.looks i then .looking else .reading⟩ : Load ι α Time) ≤ 6 := by
    cases source.looks i <;> simp [turnsLeft]
  simp only [TaskPool.weight, call, TaskPool.add, List.map_append, List.sum_append, List.map_cons,
    List.map_nil, List.sum_singleton]
  omega

def Action.isTurn : Action ι κ → Bool
  | .turn _ => true
  | _ => false

/-- A call brings at most six turns, and nothing else brings any. -/
theorem turns_add_weight_le {actions : List (Action ι κ)}
    (hexec : (machine source clock expired).exec p actions = some q) :
    actions.countP Action.isTurn + q.weight turnsLeft + 6 * p.shared.called.length
      ≤ p.weight turnsLeft + 6 * q.shared.called.length := by
  induction actions generalizing p with
  | nil =>
      obtain rfl := Option.some.inj hexec
      simp
  | cons action actions ih =>
      obtain ⟨t, hstep, hrest⟩ := Machine.exec_cons_eq_some hexec
      have hle := ih hrest
      cases action with
      | call i =>
          obtain rfl := Option.some.inj hstep
          have hweight := weight_call_le source p i
          have hcalled : (call source p i).shared.called.length = p.shared.called.length + 1 :=
            List.length_append
          rw [List.countP_cons_of_neg (by simp [Action.isTurn])]
          omega
      | turn index =>
          have hrun : TaskPool.run (turn source clock expired) p index = some t := hstep
          have hlt : t.weight turnsLeft < p.weight turnsLeft :=
            TaskPool.weight_of_run hrun (turnsLeft_turn p.shared)
          rw [List.countP_cons_of_pos rfl, ← called_of_run hrun]
          omega
      | drop dropped =>
          obtain rfl := Option.some.inj hstep
          rw [List.countP_cons_of_neg (by simp [Action.isTurn])]
          exact hle

variable (source clock expired) in
/-- A waiting load can take its turn whatever is in the cache. -/
theorem exists_turn {index : ℕ} (h : index < p.tasks.length) :
    ∃ q, (machine source clock expired).step p (.turn index) = some q := by
  change ∃ q, TaskPool.run (turn source clock expired) p index = some q
  rw [TaskPool.run, List.getElem?_eq_getElem h]
  exact ⟨_, rfl⟩

/-! ### What the cache spares

While nothing expires and nothing is dropped, a key once stored stays stored, and loads that come
for it no longer read their source. -/

def Present (cache : Cache ι κ α ε Time) (key : κ) : Prop := (cache.entries key).isSome

/-- A date that the clock has shown. -/
def Shown (clock : ℕ → Time) (cache : Cache ι κ α ε Time) (stored : Time) : Prop :=
  ∃ n < cache.readings, stored = clock n

/-- Good loads are called, nothing is dropped, and what has been dated so far is not too old. -/
def InSession (clock : ℕ → Time) (expired : Time → Time → Bool) (Good : ι → Prop)
    (p : Calls ι κ α ε Time) : Action ι κ → Prop
  | .call i => Good i
  | .turn _ => ∀ n < p.shared.readings, expired (clock p.shared.readings) (clock n) = false
  | .drop _ => False

instance [DecidablePred Good] (p : Calls ι κ α ε Time) :
    (action : Action ι κ) → Decidable (InSession clock expired Good p action)
  | .call i => inferInstanceAs (Decidable (Good i))
  | .turn _ => inferInstanceAs (Decidable (∀ n < p.shared.readings, expired _ (clock n) = false))
  | .drop _ => isFalse id

/-- What is there can be used by each good load that looks for it. -/
def Usable (source : Source ι κ α ε) (Good : ι → Prop) : Prop :=
  ∀ i value, Good i → source.looks i = true → Origin source Good (source.key i) value →
    (source.accepts i value).isSome

/-- What a waiting load of a session has found or dated. -/
def Settled (source : Source ι κ α ε) (clock : ℕ → Time) (cache : Cache ι κ α ε Time)
    (load : Load ι α Time) : Prop :=
  match load.stage with
  | .looking => source.looks load.call = true
  | .checking _ stored => source.looks load.call = true ∧ Shown clock cache stored
      ∧ Present cache (source.key load.call)
  | .removing => False
  | .storing _ stored => Shown clock cache stored
  | _ => True

structure Session (source : Source ι κ α ε) (clock : ℕ → Time) (p : Calls ι κ α ε Time) :
    Prop where
  entries : ∀ key value stored, p.shared.entries key = some (value, stored) →
    Shown clock p.shared stored
  waiting : ∀ load ∈ p.tasks, Settled source clock p.shared load
  returned : ∀ i value, (i, .ok value) ∈ p.shared.returned → Present p.shared (source.key i)

/-- What a session does to the cache. -/
structure Extends (cache cache' : Cache ι κ α ε Time) : Prop where
  readings : cache.readings ≤ cache'.readings
  present : ∀ key, Present cache key → Present cache' key

omit [DecidableEq κ] in
theorem Extends.refl (cache : Cache ι κ α ε Time) : Extends cache cache :=
  ⟨Nat.le_refl _, fun _ => id⟩

omit [DecidableEq κ] in
theorem Shown.mono {cache cache' : Cache ι κ α ε Time} {stored : Time}
    (h : Shown clock cache stored) (hle : cache.readings ≤ cache'.readings) :
    Shown clock cache' stored := by
  obtain ⟨n, hn, hstored⟩ := h
  exact ⟨n, by omega, hstored⟩

omit [DecidableEq κ] in
theorem Settled.mono {cache cache' : Cache ι κ α ε Time} {load : Load ι α Time}
    (h : Settled source clock cache load) (hext : Extends cache cache') :
    Settled source clock cache' load := by
  obtain ⟨i, stage⟩ := load
  cases stage with
  | checking value stored =>
      obtain ⟨hlooks, hshown, hpresent⟩ := h
      exact ⟨hlooks, hshown.mono hext.readings, hext.present _ hpresent⟩
  | storing value stored => exact Shown.mono h hext.readings
  | _ => exact h

/-- What one turn of a settled load does in a session. -/
structure SessionTurn (source : Source ι κ α ε) (clock : ℕ → Time)
    (cache cache' : Cache ι κ α ε Time) (next : Option (Load ι α Time)) : Prop where
  ext : Extends cache cache'
  entries : ∀ key value stored, cache'.entries key = some (value, stored) →
    Shown clock cache' stored
  next : ∀ load ∈ next, Settled source clock cache' load
  returned : ∀ i value, (i, .ok value) ∈ cache'.returned → Present cache' (source.key i)

variable (expired) in
theorem turn_settled {cache : Cache ι κ α ε Time} {load : Load ι α Time}
    (hsettled : Settled source clock cache load)
    (hfresh : ∀ n < cache.readings, expired (clock cache.readings) (clock n) = false)
    (hentries : ∀ key value stored, cache.entries key = some (value, stored) →
      Shown clock cache stored)
    (hreturned : ∀ i value, (i, .ok value) ∈ cache.returned → Present cache (source.key i)) :
    SessionTurn source clock cache (turn source clock expired cache load).1
      (turn source clock expired cache load).2 := by
  obtain ⟨i, stage⟩ := load
  have hdated : Extends cache { cache with readings := cache.readings + 1 } :=
    ⟨Nat.le_succ _, fun _ => id⟩
  have hended : ∀ cache' : Cache ι κ α ε Time, ∀ load ∈ (none : Option (Load ι α Time)),
      Settled source clock cache' load := by
    intro cache' load hload
    cases hload
  have hwaits : ∀ (cache' : Cache ι κ α ε Time) (stage : Stage α Time),
      Settled source clock cache' ⟨i, stage⟩ →
      ∀ load ∈ some (⟨i, stage⟩ : Load ι α Time), Settled source clock cache' load := by
    intro cache' stage hstage load hload
    obtain rfl := Option.some.inj hload
    exact hstage
  cases stage with
  | looking =>
      cases hentry : cache.entries (source.key i) with
      | none =>
          simp only [turn, hentry]
          exact ⟨.refl cache, hentries, hwaits _ _ trivial, hreturned⟩
      | some entry =>
          obtain ⟨value, stored⟩ := entry
          have hpresent : Present cache (source.key i) := by
            rw [Present, hentry]
            rfl
          simp only [turn, hentry]
          exact ⟨.refl cache, hentries,
            hwaits _ _ ⟨hsettled, hentries _ _ _ hentry, hpresent⟩, hreturned⟩
  | checking value stored =>
      obtain ⟨-, ⟨n, hn, rfl⟩, hpresent⟩ := hsettled
      have hentries' : ∀ key value stored, cache.entries key = some (value, stored) →
          Shown clock { cache with readings := cache.readings + 1 } stored :=
        fun key value stored hentry => (hentries key value stored hentry).mono hdated.readings
      cases haccepts : source.accepts i value with
      | none =>
          simp only [turn, hfresh n hn, haccepts, Bool.false_eq_true, if_false]
          exact ⟨hdated, hentries', hwaits _ _ trivial, hreturned⟩
      | some accepted =>
          simp only [turn, hfresh n hn, haccepts, Bool.false_eq_true, if_false]
          refine ⟨⟨Nat.le_succ _, fun _ => id⟩, hentries', hended _, ?_⟩
          intro j value' hmem
          rcases List.mem_append.mp hmem with hmem | hmem
          · exact hreturned j value' hmem
          · obtain ⟨rfl, -⟩ := Prod.mk.inj (List.mem_singleton.mp hmem)
            exact hpresent
  | removing => exact hsettled.elim
  | reading =>
      cases hread : source.read i with
      | error error =>
          simp only [turn, hread]
          refine ⟨⟨Nat.le_refl _, fun _ => id⟩, hentries, hended _, ?_⟩
          intro j value hmem
          rcases List.mem_append.mp hmem with hmem | hmem
          · exact hreturned j value hmem
          · cases (Prod.mk.inj (List.mem_singleton.mp hmem)).2
      | ok value =>
          simp only [turn, hread]
          exact ⟨⟨Nat.le_refl _, fun _ => id⟩, hentries, hwaits _ _ trivial, hreturned⟩
  | dating value =>
      refine ⟨hdated, ?_, hwaits _ _ ⟨cache.readings, Nat.lt_succ_self _, rfl⟩, hreturned⟩
      exact fun key value stored hentry =>
        (hentries key value stored hentry).mono hdated.readings
  | storing value stored =>
      have hstored : Shown clock cache stored := hsettled
      have hext : Extends cache (turn source clock expired cache ⟨i, .storing value stored⟩).1 := by
        refine ⟨Nat.le_refl _, ?_⟩
        intro key hpresent
        by_cases hkey : key = source.key i
        · subst hkey
          simp [Present, turn]
        · rw [Present] at hpresent ⊢
          simpa only [turn, Function.update_of_ne hkey] using hpresent
      refine ⟨hext, ?_, hended _, ?_⟩
      · intro key value' stored' hentry
        by_cases hkey : key = source.key i
        · subst hkey
          simp only [turn, Function.update_self, Option.some.injEq, Prod.mk.injEq] at hentry
          exact hentry.2 ▸ hstored
        · simp only [turn, Function.update_of_ne hkey] at hentry
          exact hentries key value' stored' hentry
      · intro j value' hmem
        rcases List.mem_append.mp hmem with hmem | hmem
        · exact hext.present _ (hreturned j value' hmem)
        · obtain ⟨rfl, -⟩ := Prod.mk.inj (List.mem_singleton.mp hmem)
          simp [Present, turn]

theorem Session.turn (h : Session source clock p) {index : ℕ}
    (hfresh : ∀ n < p.shared.readings, expired (clock p.shared.readings) (clock n) = false)
    (hrun : TaskPool.run (turn source clock expired) p index = some q) :
    Session source clock q ∧ Extends p.shared q.shared := by
  obtain ⟨before, load, after, -, htasks, rfl⟩ := TaskPool.run_eq_some hrun
  have hturn := turn_settled expired (h.waiting load (by simp [htasks])) hfresh
    h.entries h.returned
  refine ⟨⟨hturn.entries, ?_, hturn.returned⟩, hturn.ext⟩
  intro other hother
  simp only [List.mem_append, Option.mem_toList] at hother
  rcases hother with (hother | hother) | hother
  · exact (h.waiting other (by simp [htasks, hother])).mono hturn.ext
  · exact hturn.next other hother
  · exact (h.waiting other (by simp [htasks, hother])).mono hturn.ext

omit [DecidableEq κ] in
theorem Session.call (h : Session source clock p) (i : ι) :
    Session source clock (call source p i) := by
  refine ⟨h.entries, ?_, h.returned⟩
  intro load hload
  rcases List.mem_append.mp hload with hload | hload
  · exact (h.waiting load hload).mono ⟨Nat.le_refl _, fun _ => id⟩
  · obtain rfl := List.mem_singleton.mp hload
    by_cases hlooks : source.looks i = true
    · rw [if_pos hlooks]
      exact hlooks
    · rw [if_neg hlooks]
      trivial

/-! ### How often a source is read -/

/-- The load is about to read for the key. -/
def Reads (source : Source ι κ α ε) (key : κ) (load : Load ι α Time) : Bool :=
  match load.stage with
  | .reading => decide (source.key load.call = key)
  | _ => false

/-- The reads for a key, done and to come. -/
def readsFor (source : Source ι κ α ε) (key : κ) (p : Calls ι κ α ε Time) : ℕ :=
  p.shared.sourced.countP (fun i => source.key i = key) + p.tasks.countP (Reads source key)

theorem readsFor_turn (husable : Usable source Good) (hsound : Sound source Good p)
    (h : Session source clock p) {index : ℕ}
    (hfresh : ∀ n < p.shared.readings, expired (clock p.shared.readings) (clock n) = false)
    (hrun : TaskPool.run (turn source clock expired) p index = some q) {key : κ}
    (hpresent : Present p.shared key) : readsFor source key q ≤ readsFor source key p := by
  obtain ⟨before, load, after, -, htasks, rfl⟩ := TaskPool.run_eq_some hrun
  obtain ⟨hgood, hcarries⟩ := hsound.waiting load (by simp [htasks])
  have hsettled := h.waiting load (by simp [htasks])
  have hturn : (turn source clock expired p.shared load).1.sourced.countP
        (fun i => source.key i = key)
      + ((turn source clock expired p.shared load).2.toList).countP (Reads source key)
      ≤ p.shared.sourced.countP (fun i => source.key i = key)
        + [load].countP (Reads source key) := by
    obtain ⟨i, stage⟩ := load
    cases stage with
    | looking =>
        by_cases hkey : source.key i = key
        · obtain ⟨⟨value, stored⟩, hentry⟩ := Option.isSome_iff_exists.mp hpresent
          simp [turn, hkey, hentry, Reads]
        · cases hentry : p.shared.entries (source.key i) <;> simp [turn, hkey, hentry, Reads]
    | checking value stored =>
        obtain ⟨hlooks, ⟨n, hn, rfl⟩, -⟩ := hsettled
        obtain ⟨accepted, haccepts⟩ :=
          Option.isSome_iff_exists.mp (husable i value hgood hlooks hcarries)
        simp [turn, hfresh n hn, haccepts, Reads]
    | removing => exact hsettled.elim
    | reading =>
        cases hread : source.read i <;> simp [turn, hread, Reads, List.countP_append]
    | dating value => simp [turn, Reads]
    | storing value stored => simp [turn, Reads]
  simp only [readsFor, htasks, List.countP_append, List.countP_cons, List.countP_nil] at hturn ⊢
  omega

theorem session_of_reachable (hcoherent : Coherent source Good)
    (hp : (machine source clock expired).ReachableWhere (InSession clock expired Good) p) :
    Sound source Good p ∧ Session source clock p := by
  have hsound : Sound source Good p := by
    refine sound_of_reachable hcoherent (hp.mono ?_)
    intro p action _ hin
    cases action with
    | call i => exact hin
    | turn index => trivial
    | drop dropped => trivial
  refine ⟨hsound, Machine.ReachableWhere.invariant (Session source clock) ?_ ?_ hp⟩
  · rintro p rfl
    refine ⟨?_, ?_, ?_⟩
    · intro key value stored hentry
      cases hentry
    · intro load hload
      cases hload
    · intro i value hmem
      cases hmem
  · intro p action q _ hp hin hstep
    cases action with
    | call i =>
        obtain rfl := Option.some.inj hstep
        exact hp.call i
    | turn index => exact (hp.turn hin hstep).1
    | drop dropped => exact hin.elim

/-- **A stored key is not read for again.** In a session, the loads for a key that is there read
their source at most as often as loads for it are about to. -/
theorem readsFor_exec (hcoherent : Coherent source Good) (husable : Usable source Good)
    {key : κ} (hlooks : ∀ i, Good i → source.key i = key → source.looks i = true)
    (hp : (machine source clock expired).ReachableWhere (InSession clock expired Good) p)
    {actions : List (Action ι κ)} (hexec : (machine source clock expired).exec p actions = some q)
    (hsession : ∀ x ∈ (machine source clock expired).transitions p actions,
      InSession clock expired Good x.1 x.2.1)
    (hpresent : Present p.shared key) : readsFor source key q ≤ readsFor source key p := by
  induction actions generalizing p with
  | nil =>
      obtain rfl := Option.some.inj hexec
      exact Nat.le_refl _
  | cons action actions ih =>
      obtain ⟨t, hstep, hrest⟩ := Machine.exec_cons_eq_some hexec
      rw [Machine.transitions_cons_of_step hstep, List.forall_mem_cons] at hsession
      obtain ⟨hin, hsession⟩ := hsession
      obtain ⟨hsound, hsettled⟩ := session_of_reachable hcoherent hp
      have ht : Present t.shared key ∧ readsFor source key t ≤ readsFor source key p := by
        cases action with
        | call i =>
            obtain rfl := Option.some.inj hstep
            have hnotReads : Reads source key
                (⟨i, if source.looks i then .looking else .reading⟩ : Load ι α Time) = false := by
              by_cases hkey : source.key i = key
              · rw [if_pos (hlooks i hin hkey)]
                rfl
              · cases source.looks i <;> simp [Reads, hkey]
            refine ⟨hpresent, ?_⟩
            change _ + (p.tasks ++ [_]).countP (Reads source key) ≤ _
            rw [List.countP_append, List.countP_singleton, hnotReads]
            exact Nat.le_refl _
        | turn index =>
            exact ⟨(hsettled.turn hin hstep).2.present key hpresent,
              readsFor_turn husable hsound hsettled hin hstep hpresent⟩
        | drop dropped => exact hin.elim
      exact Nat.le_trans (ih (hp.step hin hstep) hrest hsession ht.1) ht.2

/-- **An answered call spares its source.** In a session, the loads for the key of a call that has
returned a value read their source again at most as often as such loads were waiting then. -/
theorem sourced_exec_le (hcoherent : Coherent source Good) (husable : Usable source Good) {i : ι}
    (hlooks : ∀ j, Good j → source.key j = source.key i → source.looks j = true)
    (hp : (machine source clock expired).ReachableWhere (InSession clock expired Good) p)
    {value : α} (hreturned : (i, .ok value) ∈ p.shared.returned)
    {actions : List (Action ι κ)} (hexec : (machine source clock expired).exec p actions = some q)
    (hsession : ∀ x ∈ (machine source clock expired).transitions p actions,
      InSession clock expired Good x.1 x.2.1) :
    q.shared.sourced.countP (fun j => source.key j = source.key i)
      ≤ p.shared.sourced.countP (fun j => source.key j = source.key i)
        + p.tasks.countP (fun load => source.key load.call = source.key i) := by
  have hpresent : Present p.shared (source.key i) :=
    (session_of_reachable hcoherent hp).2.returned i value hreturned
  have hwaiting : p.tasks.countP (Reads source (source.key i))
      ≤ p.tasks.countP (fun load => source.key load.call = source.key i) := by
    refine List.countP_mono_left fun load _ hreads => ?_
    unfold Reads at hreads
    split at hreads
    · exact hreads
    · cases hreads
  have hle : readsFor source (source.key i) q ≤ readsFor source (source.key i) p :=
    readsFor_exec hcoherent husable hlooks hp hexec hsession hpresent
  unfold readsFor at hle
  omega

end ExpiringCache
