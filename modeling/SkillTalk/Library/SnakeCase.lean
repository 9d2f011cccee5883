import Mathlib

/-!
# Names in camel case and in snake case

The conversions between the two as key coding strategies define them, for names of ASCII letters.
A conversion to snake case begins a word at each capital, and keeps a run of capitals together up to
the one that a lower case letter follows. A conversion from snake case keeps the underscores a name
begins and ends with. The whole of Mathlib is imported because no smaller module of it has the facts
on the case of ASCII letters.
-/

namespace SnakeCase

/-- The words of a name whose current word reads `start` and which goes on with `rest`. -/
def words (start rest : List Char) : List (List Char) :=
  match _h : rest.dropWhile (!·.isUpper) with
  | [] => [start ++ rest]
  | upper :: afterUpper =>
      let word := start ++ rest.takeWhile (!·.isUpper)
      match _h' : afterUpper.dropWhile (!·.isLower) with
      | [] => [word, upper :: afterUpper]
      | lower :: afterLower =>
          match afterUpper.takeWhile (!·.isLower) with
          | [] => word :: words [upper, lower] afterLower
          | capital :: capitals =>
              -- the last of a run of capitals begins the next word
              word :: (upper :: capital :: capitals).dropLast ::
                words [(capital :: capitals).getLast (List.cons_ne_nil _ _), lower] afterLower
termination_by rest.length
decreasing_by
  all_goals
    have hupper := (List.dropWhile_sublist (!·.isUpper) (l := rest)).length_le
    have hlower := (List.dropWhile_sublist (!·.isLower) (l := afterUpper)).length_le
    rw [_h] at hupper
    rw [_h'] at hlower
    simp only [List.length_cons] at hupper hlower
    omega

def toSnake : List Char → List Char
  | [] => []
  | first :: rest => ['_'].intercalate ((words [first] rest).map fun word => word.map Char.toLower)

def capitalized : List Char → List Char
  | [] => []
  | first :: rest => first.toUpper :: rest.map Char.toLower

/-- A single component stays as it is. -/
def joinComponents : List (List Char) → List Char
  | [] => []
  | [component] => component
  | first :: others => first.map Char.toLower ++ others.flatMap capitalized

def components (core : List Char) : List (List Char) := (core.splitOn '_').filter (· ≠ [])

def fromSnake (name : List Char) : List Char :=
  let rest := name.dropWhile (· == '_')
  if rest = [] then name
  else
    name.takeWhile (· == '_') ++ joinComponents (components (rest.rdropWhile (· == '_'))) ++
      rest.rtakeWhile (· == '_')

/-! ### The words of a camel case name -/

/-- A word of a name in lower case. -/
structure IsWord (word : List Char) : Prop where
  two_le : 2 ≤ word.length
  lower : ∀ c ∈ word, c.isLower = true

instance (word : List Char) : Decidable (IsWord word) :=
  decidable_of_iff (2 ≤ word.length ∧ word.all Char.isLower = true)
    ⟨fun h => ⟨h.1, List.all_eq_true.1 h.2⟩, fun h => ⟨h.two_le, List.all_eq_true.2 h.lower⟩⟩

def camelCase : List (List Char) → List Char
  | [] => []
  | first :: others => first ++ others.flatMap capitalized

def snakeCase (names : List (List Char)) : List Char := ['_'].intercalate names

theorem toLower_eq_of_isLower {c : Char} (h : c.isLower = true) : c.toLower = c :=
  Char.toLower_eq_of_not_isUpper (Char.not_isUpper_of_isLower h)

theorem map_toLower_eq_of_lower {word : List Char} (h : ∀ c ∈ word, c.isLower = true) :
    word.map Char.toLower = word := by
  conv_rhs => rw [← List.map_id word]
  exact List.map_congr_left fun c hc => toLower_eq_of_isLower (h c hc)

theorem map_toLower_capitalized {word : List Char} (h : ∀ c ∈ word, c.isLower = true) :
    (capitalized word).map Char.toLower = word := by
  cases word with
  | nil => rfl
  | cons first rest =>
    have hrest : ∀ c ∈ rest, c.isLower = true := fun c hc => h c (List.mem_cons_of_mem _ hc)
    simp only [capitalized, List.map_cons, Char.toLower_toUpper_eq_toLower,
      map_toLower_eq_of_lower hrest, toLower_eq_of_isLower (h first List.mem_cons_self)]

theorem words_of_noUpper {start rest : List Char} (h : ∀ c ∈ rest, c.isUpper = false) :
    words start rest = [start ++ rest] := by
  have hdrop : rest.dropWhile (!·.isUpper) = [] := by
    rw [List.dropWhile_eq_nil_iff]
    intro c hc
    simp [h c hc]
  rw [words]
  split
  · rfl
  · rename_i heq
    rw [hdrop] at heq
    cases heq

/-- A capital that a lower case letter follows begins a word. -/
theorem words_append {start before after : List Char} {upper lower : Char}
    (hbefore : ∀ c ∈ before, c.isUpper = false) (hupper : upper.isUpper = true)
    (hlower : lower.isLower = true) :
    words start (before ++ upper :: lower :: after) =
      (start ++ before) :: words [upper, lower] after := by
  have hdrop : (before ++ upper :: lower :: after).dropWhile (!·.isUpper) =
      upper :: lower :: after := by
    rw [List.dropWhile_append_of_pos (by simpa using hbefore)]
    exact List.dropWhile_cons_of_neg (by simp [hupper])
  have htake : (before ++ upper :: lower :: after).takeWhile (!·.isUpper) = before := by
    rw [List.takeWhile_append_of_pos (by simpa using hbefore)]
    simp [hupper]
  rw [words]
  split
  · rename_i heq
    rw [hdrop] at heq
    cases heq
  · rename_i heq
    rw [hdrop] at heq
    cases heq
    have hnext : (lower :: after).dropWhile (!·.isLower) = lower :: after :=
      List.dropWhile_cons_of_neg (by simp [hlower])
    have hrun : (lower :: after).takeWhile (!·.isLower) = [] := by simp [hlower]
    simp only [htake]
    split
    · rename_i heq
      rw [hnext] at heq
      cases heq
    · rename_i heq
      rw [hnext] at heq
      cases heq
      rw [hrun]

theorem IsWord.exists_cons {word : List Char} (h : IsWord word) :
    ∃ first second rest, word = first :: second :: rest ∧ first.isLower = true ∧
      second.isLower = true ∧ ∀ c ∈ rest, c.isLower = true := by
  obtain ⟨hlength, hlower⟩ := h
  match word, hlength with
  | first :: second :: rest, _ =>
      exact ⟨first, second, rest, rfl, hlower first (by simp), hlower second (by simp),
        fun c hc => hlower c (by simp [hc])⟩

theorem words_capitalized (start before : List Char) (names : List (List Char))
    (hbefore : ∀ c ∈ before, c.isUpper = false) (hnames : ∀ name ∈ names, IsWord name) :
    words start (before ++ names.flatMap capitalized) =
      (start ++ before) :: names.map capitalized := by
  induction names generalizing start before with
  | nil =>
    rw [List.flatMap_nil, List.append_nil, List.map_nil]
    exact words_of_noUpper hbefore
  | cons name names ih =>
    obtain ⟨first, second, rest, rfl, hfirst, hsecond, hrest⟩ :=
      (hnames name List.mem_cons_self).exists_cons
    have hupper : first.toUpper.isUpper = true := by simp [Char.isAlpha, hfirst]
    have hnoUpper : ∀ c ∈ rest, c.isUpper = false := fun c hc => by
      simpa using Char.not_isUpper_of_isLower (hrest c hc)
    have htail := ih [first.toUpper, second] rest hnoUpper
      fun name h => hnames name (List.mem_cons_of_mem _ h)
    have hcapitalized : capitalized (first :: second :: rest) =
        first.toUpper :: second :: rest := by
      simp only [capitalized, List.map_cons, toLower_eq_of_isLower hsecond,
        map_toLower_eq_of_lower hrest]
    calc
      words start (before ++ (((first :: second :: rest) :: names).flatMap capitalized))
          = words start (before ++ first.toUpper :: second ::
              (rest ++ names.flatMap capitalized)) := by
            rw [List.flatMap_cons, hcapitalized]
            rfl
      _ = (start ++ before) :: words [first.toUpper, second]
            (rest ++ names.flatMap capitalized) := words_append hbefore hupper hsecond
      _ = (start ++ before) :: ((first :: second :: rest) :: names).map capitalized := by
        rw [htail, List.map_cons, hcapitalized]
        rfl

theorem toSnake_camelCase {names : List (List Char)} (hnames : ∀ name ∈ names, IsWord name) :
    toSnake (camelCase names) = snakeCase names := by
  cases names with
  | nil => rfl
  | cons name names =>
    obtain ⟨first, second, rest, rfl, hfirst, hsecond, hrest⟩ :=
      (hnames name List.mem_cons_self).exists_cons
    have hlower : ∀ c ∈ second :: rest, c.isLower = true := by simpa using ⟨hsecond, hrest⟩
    have hwords := words_capitalized [first] (second :: rest) names
      (fun c hc => by simpa using Char.not_isUpper_of_isLower (hlower c hc))
      fun name h => hnames name (List.mem_cons_of_mem _ h)
    have hothers : (names.map capitalized).map (fun word => word.map Char.toLower) = names := by
      rw [List.map_map]
      conv_rhs => rw [← List.map_id names]
      exact List.map_congr_left fun name h =>
        map_toLower_capitalized (hnames name (List.mem_cons_of_mem _ h)).lower
    have hself : (first :: second :: rest).map Char.toLower = first :: second :: rest :=
      map_toLower_eq_of_lower (by simpa using ⟨hfirst, hsecond, hrest⟩)
    change ['_'].intercalate ((words [first] ((second :: rest) ++ names.flatMap capitalized)).map
      fun word => word.map Char.toLower) = _
    rw [hwords, List.map_cons, hothers]
    exact congrArg (fun word => ['_'].intercalate (word :: names)) hself

/-! ### The components of a snake case name -/

theorem IsWord.underscore_notMem {word : List Char} (h : IsWord word) : '_' ∉ word :=
  fun hmem => absurd (h.lower '_' hmem) (by decide)

theorem IsWord.ne_nil {word : List Char} (h : IsWord word) : word ≠ [] := by
  obtain ⟨_, _, _, rfl, _⟩ := h.exists_cons
  exact List.cons_ne_nil _ _

theorem components_snakeCase {names : List (List Char)} (hne : names ≠ [])
    (hnames : ∀ name ∈ names, IsWord name) : components (snakeCase names) = names := by
  unfold components snakeCase
  rw [List.splitOn_intercalate '_' (fun name h => (hnames name h).underscore_notMem) hne]
  exact List.filter_eq_self.2 fun name h => by simpa using (hnames name h).ne_nil

theorem joinComponents_of_words {names : List (List Char)}
    (hnames : ∀ name ∈ names, IsWord name) : joinComponents names = camelCase names := by
  match names with
  | [] => rfl
  | [name] => simp [joinComponents, camelCase]
  | first :: second :: others =>
      have hfirst := map_toLower_eq_of_lower (hnames first List.mem_cons_self).lower
      simp only [joinComponents, camelCase, hfirst]

theorem snakeCase_head (name : List Char) (names : List (List Char)) (h : IsWord name) :
    ∃ c rest, snakeCase (name :: names) = c :: rest ∧ c ≠ '_' := by
  obtain ⟨first, second, rest, rfl, hfirst, _⟩ := h.exists_cons
  have hne : first ≠ '_' := fun heq => by
    rw [heq] at hfirst
    exact absurd hfirst (by decide)
  cases names with
  | nil => exact ⟨first, second :: rest, by simp [snakeCase], hne⟩
  | cons next names =>
    exact ⟨first, _, by simp only [snakeCase, List.intercalate_cons_cons, List.cons_append]; rfl,
      hne⟩

theorem snakeCase_getLast {names : List (List Char)} (hnames : ∀ name ∈ names, IsWord name)
    (hne : snakeCase names ≠ []) : (snakeCase names).getLast hne ≠ '_' := by
  induction names with
  | nil => exact absurd rfl hne
  | cons name names ih =>
    have hname := hnames name List.mem_cons_self
    cases names with
    | nil =>
      have hself : snakeCase [name] = name := by simp [snakeCase]
      intro heq
      refine hname.underscore_notMem ?_
      rw [← heq]
      simp only [hself]
      exact List.getLast_mem _
    | cons next names =>
      have htail : ∀ name ∈ next :: names, IsWord name := fun name h =>
        hnames name (List.mem_cons_of_mem _ h)
      obtain ⟨c, rest, hcons, _⟩ := snakeCase_head next names (htail next List.mem_cons_self)
      have hne' : snakeCase (next :: names) ≠ [] := by
        rw [hcons]
        exact List.cons_ne_nil _ _
      have hsplit : snakeCase (name :: next :: names) =
          name ++ ['_'] ++ snakeCase (next :: names) := by
        simp [snakeCase, List.intercalate_cons_cons]
      have hlast : (snakeCase (name :: next :: names)).getLast hne =
          (snakeCase (next :: names)).getLast hne' := by
        simp only [hsplit]
        exact List.getLast_append_of_ne_nil _ hne'
      rw [hlast]
      exact ih htail hne'

theorem fromSnake_snakeCase {names : List (List Char)} (hnames : ∀ name ∈ names, IsWord name) :
    fromSnake (snakeCase names) = camelCase names := by
  cases names with
  | nil => rfl
  | cons name names =>
    obtain ⟨c, rest, hcons, hc⟩ := snakeCase_head name names (hnames name List.mem_cons_self)
    have hne : snakeCase (name :: names) ≠ [] := by
      rw [hcons]
      exact List.cons_ne_nil _ _
    have hlast := snakeCase_getLast hnames hne
    have hdrop : (snakeCase (name :: names)).dropWhile (· == '_') = snakeCase (name :: names) := by
      rw [hcons]
      exact List.dropWhile_cons_of_neg (by simpa using hc)
    have htake : (snakeCase (name :: names)).takeWhile (· == '_') = [] := by
      rw [hcons]
      exact List.takeWhile_cons_of_neg (by simpa using hc)
    have hrdrop : (snakeCase (name :: names)).rdropWhile (· == '_') = snakeCase (name :: names) :=
      List.rdropWhile_eq_self_iff.2 fun _ => by simpa using hlast
    have hrtake : (snakeCase (name :: names)).rtakeWhile (· == '_') = [] :=
      List.rtakeWhile_eq_nil_iff.2 fun _ => by simpa using hlast
    calc
      fromSnake (snakeCase (name :: names))
          = joinComponents (components (snakeCase (name :: names))) := by
            simp only [fromSnake, hdrop, htake, hrdrop, hrtake, if_neg hne, List.nil_append,
              List.append_nil]
      _ = joinComponents (name :: names) := by
        rw [components_snakeCase (List.cons_ne_nil _ _) hnames]
      _ = camelCase (name :: names) := joinComponents_of_words hnames

/-- **A camel case name of words is read back** from its snake case form. -/
theorem fromSnake_toSnake_camelCase {names : List (List Char)}
    (hnames : ∀ name ∈ names, IsWord name) :
    fromSnake (toSnake (camelCase names)) = camelCase names := by
  rw [toSnake_camelCase hnames, fromSnake_snakeCase hnames]

/-! ### Underscores -/

theorem notMem_of_mem_splitOn {α : Type*} [DecidableEq α] {separator : α} {xs part : List α}
    (h : part ∈ xs.splitOn separator) : separator ∉ part := by
  induction xs generalizing part with
  | nil => simp_all
  | cons x xs ih =>
    rw [List.splitOn_cons_eq_if_modifyHead] at h
    by_cases hx : x = separator
    · rw [if_pos (by simpa using hx), List.mem_cons] at h
      rcases h with rfl | h
      · exact List.not_mem_nil
      · exact ih h
    · rw [if_neg (by simpa using hx)] at h
      obtain ⟨head, tail, hparts⟩ := List.exists_cons_of_ne_nil (List.splitOn_ne_nil separator xs)
      rw [hparts, List.modifyHead_cons, List.mem_cons] at h
      rcases h with rfl | h
      · have hhead : separator ∉ head := ih (by rw [hparts]; exact List.mem_cons_self)
        exact fun hmem => (List.mem_cons.1 hmem).elim (fun heq => hx heq.symm) hhead
      · exact ih (by rw [hparts]; exact List.mem_cons_of_mem _ h)

theorem toLower_ne_underscore {c : Char} (h : c ≠ '_') : c.toLower ≠ '_' := by
  by_cases hupper : c.isUpper = true
  · intro heq
    have halpha := Char.isLower_toLower_eq_isAlpha c
    rw [heq, Char.isAlpha, hupper, Bool.true_or] at halpha
    exact absurd halpha (by decide)
  · rwa [Char.toLower_eq_of_not_isUpper hupper]

theorem toUpper_ne_underscore {c : Char} (h : c ≠ '_') : c.toUpper ≠ '_' := by
  by_cases hlower : c.isLower = true
  · intro heq
    have halpha := Char.isUpper_toUpper_eq_isAlpha c
    rw [heq, Char.isAlpha, hlower, Bool.or_true] at halpha
    exact absurd halpha (by decide)
  · rwa [Char.toUpper_eq_of_not_isLower hlower]

theorem underscore_notMem_map_toLower {cs : List Char} (h : '_' ∉ cs) :
    '_' ∉ cs.map Char.toLower := by
  intro hmem
  obtain ⟨c, hc, heq⟩ := List.mem_map.1 hmem
  exact toLower_ne_underscore (fun hunder => h (hunder ▸ hc)) heq

theorem underscore_notMem_capitalized {cs : List Char} (h : '_' ∉ cs) : '_' ∉ capitalized cs := by
  cases cs with
  | nil => exact h
  | cons first rest =>
    rw [List.mem_cons, not_or] at h
    intro hmem
    rcases List.mem_cons.1 hmem with heq | hmem
    · exact toUpper_ne_underscore (Ne.symm h.1) heq.symm
    · exact underscore_notMem_map_toLower h.2 hmem

theorem underscore_notMem_joinComponents {names : List (List Char)}
    (hnames : ∀ name ∈ names, '_' ∉ name) : '_' ∉ joinComponents names := by
  match names with
  | [] => exact List.not_mem_nil
  | [name] => exact hnames name List.mem_cons_self
  | first :: second :: others =>
      intro hmem
      rcases List.mem_append.1 hmem with hmem | hmem
      · exact underscore_notMem_map_toLower (hnames first List.mem_cons_self) hmem
      · obtain ⟨name, hname, hmem⟩ := List.mem_flatMap.1 hmem
        exact underscore_notMem_capitalized (hnames name (List.mem_cons_of_mem _ hname)) hmem

/-- **No name is converted to one with an underscore inside**: where an underscore stands, the
converted name begins or ends with one. -/
theorem fromSnake_underscore {name : List Char} (h : '_' ∈ fromSnake name) :
    (fromSnake name).head? = some '_' ∨ (fromSnake name).getLast? = some '_' := by
  by_cases hrest : name.dropWhile (· == '_') = []
  · have hself : fromSnake name = name := by simp only [fromSnake, if_pos hrest]
    rw [hself] at h ⊢
    have hall : ∀ c ∈ name, c = '_' := by simpa using List.dropWhile_eq_nil_iff.1 hrest
    cases name with
    | nil => simp at h
    | cons c name => simp [hall c List.mem_cons_self]
  · have hparts : fromSnake name = name.takeWhile (· == '_') ++
        joinComponents (components ((name.dropWhile (· == '_')).rdropWhile (· == '_'))) ++
        (name.dropWhile (· == '_')).rtakeWhile (· == '_') := by
      simp only [fromSnake, if_neg hrest]
    rw [hparts] at h ⊢
    rcases List.mem_append.1 h with h | h
    · rcases List.mem_append.1 h with h | h
      · refine Or.inl ?_
        cases name with
        | nil => simp at h
        | cons c name =>
          by_cases hc : c = '_'
          · simp [hc]
          · simp [hc] at h
      · exact absurd h (underscore_notMem_joinComponents fun part hpart =>
          notMem_of_mem_splitOn (List.mem_of_mem_filter hpart))
    · refine Or.inr ?_
      have hne := List.ne_nil_of_mem h
      rw [List.getLast?_append_of_ne_nil _ hne, List.getLast?_eq_some_getLast hne]
      exact congrArg some (by simpa using List.mem_rtakeWhile_imp (List.getLast_mem hne))

end SnakeCase
