import SkillTalk.LocalSkillService
import SkillTalk.Proof.SkillRequests

/-!
# What the local skill service returns

The key of a call gives back what its answer depends on, if languages contain no underscore. Then
the cache does not show, for all the orders in which calls come, take turns and lose entries. With
an underscore in a language the subcategories of one category can be served as those of another.
-/

namespace SkillTalk

namespace LocalSkillService

open ExpiringCache

variable {ε : Type} {bundled : Option (Except ε (List SkillCategory))}
  {contains : String → String → Bool} {clock : Clock Date}

/-- The call names a language without underscore. -/
def Plain (call : LocalSkillCall) : Prop := call.endpoint.Plain

instance : DecidablePred Plain := fun call =>
  inferInstanceAs (Decidable (∀ language ∈ call.endpoint.language, '_' ∉ language.toList))

theorem read_of_cacheKey {call call' : LocalSkillCall} (h : Plain call) (h' : Plain call')
    (hkey : call.endpoint.cacheKey = call'.endpoint.cacheKey) :
    read bundled contains call = read bundled contains call' := by
  rw [SkillEndpoint.cacheKey_eq, SkillEndpoint.cacheKey_eq] at hkey
  obtain ⟨htag, harguments⟩ := JoinedText.string_inj_of_not_mem_first (by simp)
    call.endpoint.tag_plain call'.endpoint.tag_plain hkey
  unfold SkillEndpoint.tag at htag
  unfold SkillEndpoint.arguments at harguments
  cases call with
  | loadCategories language =>
      cases call' <;> simp [LocalSkillCall.endpoint] at htag
      rfl
  | loadSubcategories categoryId language =>
      cases call' <;> simp [LocalSkillCall.endpoint] at htag
      obtain ⟨rfl, -⟩ := JoinedText.string_inj_of_not_mem_last (by simp) (h _ rfl) (h' _ rfl)
        harguments
      rfl
  | loadSkills subcategoryId categoryId language =>
      cases call' <;> simp [LocalSkillCall.endpoint] at htag
      obtain ⟨rfl, -⟩ := JoinedText.string_inj_of_not_mem_last (by simp) (h _ rfl) (h' _ rfl)
        harguments
      rfl
  | searchSkills query language limit =>
      cases call' <;> simp [LocalSkillCall.endpoint] at htag
      obtain ⟨hquery, -⟩ := JoinedText.string_inj_of_not_mem_last (by simp)
        (underscore_not_mem_toString_int _) (underscore_not_mem_toString_int _) harguments
      obtain ⟨rfl, -⟩ := JoinedText.string_inj_of_not_mem_last (by simp) (h _ rfl) (h' _ rfl) hquery
      rfl
  | getSkillsByDifficulty difficulty language =>
      cases call' <;> simp [LocalSkillCall.endpoint] at htag
      obtain ⟨hlevel, -⟩ := JoinedText.string_inj_of_not_mem_last (by simp) (h _ rfl) (h' _ rfl)
        harguments
      obtain rfl := rawValue_injective hlevel
      rfl
  | getPopularSkills limit language =>
      cases call' <;> simp [LocalSkillCall.endpoint] at htag
      rfl

theorem kind_read {call : LocalSkillCall} {data : SkillPayload}
    (h : read bundled contains call = .ok data) : data.kind = call.endpoint.kind := by
  cases call with
  | loadCategories language =>
      rw [read] at h
      cases hcategories : categories bundled with
      | error failure => simp [hcategories] at h
      | ok values =>
          rw [hcategories] at h
          obtain rfl := Except.ok.inj h
          rfl
  | _ =>
      obtain rfl := Except.ok.inj h
      rfl

theorem source_coherent : Coherent (source bundled contains) Plain := by
  rintro call data accepted hplain ⟨call', hplain', hkey, hread⟩ haccepts
  have hown : read bundled contains call = .ok data :=
    (read_of_cacheKey hplain hplain' hkey.symm).trans hread
  have hcast : data.cast call.endpoint.kind = some data := cast_of_kind (kind_read hown)
  have hdata : accepted = data := Option.some.inj (haccepts.symm.trans hcast)
  exact hdata ▸ hown

theorem source_usable : Usable (source bundled contains) Plain := by
  rintro call data hplain - ⟨call', hplain', hkey, hread⟩
  have hown : read bundled contains call = .ok data :=
    (read_of_cacheKey hplain hplain' hkey.symm).trans hread
  have hcast : data.cast call.endpoint.kind = some data := cast_of_kind (kind_read hown)
  exact Option.isSome_iff_exists.mpr ⟨data, hcast⟩

/-- **The local service's cache is transparent** to calls with plain languages, which return once
each, and what they would without it. -/
theorem local_cache_transparent (bundled : Option (Except ε (List SkillCategory)))
    (contains : String → String → Bool) (clock : Clock Date)
    (p : Calls LocalSkillCall String SkillPayload (LocalSkillFailure ε) Date)
    (hp : (localSkillService bundled contains clock).ReachableWhere (CallsGood Plain) p) :
    (∀ x ∈ p.shared.returned, x.2 = read bundled contains x.1)
      ∧ (p.shared.returned.map Prod.fst ++ p.tasks.map Load.call).Perm p.shared.called
      ∧ ∀ call, Plain call → ∀ data stored,
          p.shared.entries call.endpoint.cacheKey = some (data, stored) →
          read bundled contains call = .ok data := by
  have hsound : Sound (source bundled contains) Plain p := sound_of_reachable source_coherent hp
  refine ⟨hsound.returned, accounted_of_reachable hp.reachable, ?_⟩
  intro call hplain data stored hentry
  obtain ⟨call', hplain', hkey, hread⟩ := hsound.entries _ data stored hentry
  exact (read_of_cacheKey hplain hplain' hkey.symm).trans hread

def sampleContains (text query : String) : Bool := text = query

def sampleCalls : List LocalSkillAction :=
  [.call (.loadSubcategories "arts" "en"), .call (.loadSubcategories "music" "en")]
    ++ List.replicate 8 (.turn 0)

theorem local_cache_transparent_subcategories :
    ∃ p, (localSkillService (none : Option (Except String _)) sampleContains (.ofGaps [])).exec
        ⟨.empty, []⟩ sampleCalls = some p
      ∧ p.shared.returned.length = 2
      ∧ ∀ x ∈ p.shared.returned, x.2 = read (none : Option (Except String _)) sampleContains x.1 := by
  refine ⟨_, rfl, rfl, ?_⟩
  refine (local_cache_transparent (none : Option (Except String _)) sampleContains (.ofGaps []) _
    (Machine.reachableWhere_of_exec rfl sampleCalls rfl ?_)).1
  decide +kernel

example : ∃ p, (localSkillService (none : Option (Except String _)) sampleContains (.ofGaps [])).exec
    ⟨.empty, []⟩ (.call (.loadSubcategories "a_b" "c") :: List.replicate 4 (.turn 0)
      ++ .call (.loadSubcategories "a" "b_c") :: List.replicate 2 (.turn 0)) = some p
    ∧ (.loadSubcategories "a" "b_c", .ok (.subcategories (subcategories "a_b")))
      ∈ p.shared.returned :=
  ⟨_, rfl, by decide +kernel⟩

/-- **An answered call is not worked out again.** In a session that holds from the service's first
step, in which languages are plain, nothing is dropped and nothing is older than an hour, the calls
with the key of one that has returned a value are worked out again at most as often as such calls
were waiting then. -/
theorem answered_call_spares (bundled : Option (Except ε (List SkillCategory)))
    (contains : String → String → Bool) (clock : Clock Date)
    (p q : Calls LocalSkillCall String SkillPayload (LocalSkillFailure ε) Date)
    (hp : (localSkillService bundled contains clock).ReachableWhere
      (InSession clock.reading expired Plain) p)
    (call : LocalSkillCall) (data : SkillPayload) (hreturned : (call, .ok data) ∈ p.shared.returned)
    (actions : List LocalSkillAction)
    (hexec : (localSkillService bundled contains clock).exec p actions = some q)
    (hsession : ∀ x ∈ (localSkillService bundled contains clock).transitions p actions,
      InSession clock.reading expired Plain x.1 x.2.1) :
    q.shared.sourced.countP (fun c => c.endpoint.cacheKey = call.endpoint.cacheKey)
      ≤ p.shared.sourced.countP (fun c => c.endpoint.cacheKey = call.endpoint.cacheKey)
        + p.tasks.countP (fun load => load.call.endpoint.cacheKey = call.endpoint.cacheKey) :=
  sourced_exec_le source_coherent source_usable (fun _ _ _ => rfl) hp hreturned hexec hsession

theorem answered_call_spares_subcategories :
    ∃ p q, (localSkillService (none : Option (Except String _)) sampleContains (.ofGaps [])).exec
        ⟨.empty, []⟩ sampleCalls = some p
      ∧ (localSkillService (none : Option (Except String _)) sampleContains (.ofGaps [])).exec p
          [.call (.loadSubcategories "arts" "en"), .turn 0, .turn 0] = some q
      ∧ q.shared.returned.length = 3
      ∧ q.shared.sourced.countP (fun c => c.endpoint.cacheKey = "subcategories_arts_en") ≤ 1 := by
  refine ⟨_, _, rfl, rfl, by decide +kernel, ?_⟩
  refine answered_call_spares (none : Option (Except String _)) sampleContains (.ofGaps []) _ _
    (Machine.reachableWhere_of_exec rfl sampleCalls rfl ?_)
    (.loadSubcategories "arts" "en") (.subcategories (subcategories "arts")) ?_
    [.call (.loadSubcategories "arts" "en"), .turn 0, .turn 0] rfl ?_
  · decide +kernel
  · decide +kernel
  · decide +kernel

end LocalSkillService

end SkillTalk
