import ActionDispatch.Settings.Draft
import Mathlib.Data.List.Perm.Basic

/-!
# What settings come to

Of the pairs that settings are collected from, only those count whose key names a setting.
`Settings.ofPairs_eq_ok_iff` says when settings come of them, and which: every setting is given at most once
and by one of its two words, and what is not given has its default. Neither the order nor the other pairs
make a difference (`ofPairs_ok_iff_of_perm`).

The proof goes over the pairs with a draft at hand (`Draft.collects`). A draft is known by the words that it
has for the settings, so one step is the same for all settings.
-/

namespace ActionDispatch

theorem RollbackPolicy.ofWord?_eq_some_iff {word : String} {policy : RollbackPolicy} :
    ofWord? word = some policy ↔ word = policy.word := by
  constructor
  · intro h
    unfold ofWord? at h
    split at h <;> cases h <;> rfl
  · rintro rfl
    cases policy <;> rfl

theorem UnauthorizedUndo.ofWord?_eq_some_iff {word : String} {outcome : UnauthorizedUndo} :
    ofWord? word = some outcome ↔ word = outcome.word := by
  constructor
  · intro h
    unfold ofWord? at h
    split at h <;> cases h <;> rfl
  · rintro rfl
    cases outcome <;> rfl

theorem RegistryKind.ofWord?_eq_some_iff {word : String} {kind : RegistryKind} :
    ofWord? word = some kind ↔ word = kind.word := by
  constructor
  · intro h
    unfold ofWord? at h
    split at h <;> cases h <;> rfl
  · rintro rfl
    cases kind <;> rfl

namespace Setting

variable {setting : Setting} {key word : String}

theorem ofKey?_eq_some_iff : ofKey? key = some setting ↔ key = setting.key := by
  constructor
  · intro h
    unfold ofKey? at h
    split at h <;> cases h <;> rfl
  · rintro rfl
    cases setting <;> rfl

/-- The word is one of the two of the setting. -/
def Accepts (setting : Setting) (word : String) : Prop := word = setting.words.1 ∨ word = setting.words.2

instance : Decidable (setting.Accepts word) := inferInstanceAs (Decidable (_ ∨ _))

/-- The words that pairs give for a setting, in order. -/
def given (setting : Setting) (pairs : List (String × String)) : List String :=
  (pairs.filter (·.1 = setting.key)).map Prod.snd

theorem given_cons (setting : Setting) (pair : String × String) (pairs : List (String × String)) :
    setting.given (pair :: pairs) =
      if pair.1 = setting.key then pair.2 :: setting.given pairs else setting.given pairs := by
  by_cases same : pair.1 = setting.key <;> simp [given, same]

theorem given_cons_of_other (other : ofKey? key = none) (setting : Setting) (word : String)
    (pairs : List (String × String)) : setting.given ((key, word) :: pairs) = setting.given pairs := by
  rw [given_cons, if_neg]
  intro same
  cases (ofKey?_eq_some_iff.2 same).symm.trans other

end Setting

open Setting

/-- Settings are known by their words. -/
theorem Settings.eq_of_word {settings settings' : Settings}
    (h : ∀ setting, settings.word setting = settings'.word setting) : settings = settings' := by
  obtain ⟨rollback, unauthorizedUndo, validatorRegistry⟩ := settings
  obtain ⟨rollback', unauthorizedUndo', validatorRegistry'⟩ := settings'
  have first := RollbackPolicy.ofWord?_eq_some_iff.2 (h .rollback)
  have second := UnauthorizedUndo.ofWord?_eq_some_iff.2 (h .unauthorizedUndo)
  have third := RegistryKind.ofWord?_eq_some_iff.2 (h .validatorRegistry)
  cases (RollbackPolicy.ofWord?_eq_some_iff.2 rfl).symm.trans first
  cases (UnauthorizedUndo.ofWord?_eq_some_iff.2 rfl).symm.trans second
  cases (RegistryKind.ofWord?_eq_some_iff.2 rfl).symm.trans third
  rfl

namespace Draft

variable {draft next : Draft} {setting : Setting} {word : String} {pairs : List (String × String)}

/-- The word that was given for a setting. -/
def word? (draft : Draft) : Setting → Option String
  | .rollback => draft.rollback.map (·.word)
  | .unauthorizedUndo => draft.unauthorizedUndo.map (·.word)
  | .validatorRegistry => draft.validatorRegistry.map (·.word)

theorem has_eq_isSome (draft : Draft) (setting : Setting) :
    draft.has setting = (draft.word? setting).isSome := by
  cases setting <;> simp [has, word?]

/-- A word is filled in if it is one of the setting's two, and the other settings stay. -/
theorem fill?_eq_some (h : draft.fill? setting word = some next) :
    setting.Accepts word ∧
      ∀ other, next.word? other = if other = setting then some word else draft.word? other := by
  cases setting with
  | rollback =>
    obtain ⟨policy, hpolicy, rfl⟩ := Option.map_eq_some_iff.1 h
    obtain rfl := RollbackPolicy.ofWord?_eq_some_iff.1 hpolicy
    exact ⟨by cases policy <;> simp [Accepts, words], fun other => by cases other <;> rfl⟩
  | unauthorizedUndo =>
    obtain ⟨outcome, houtcome, rfl⟩ := Option.map_eq_some_iff.1 h
    obtain rfl := UnauthorizedUndo.ofWord?_eq_some_iff.1 houtcome
    exact ⟨by cases outcome <;> simp [Accepts, words], fun other => by cases other <;> rfl⟩
  | validatorRegistry =>
    obtain ⟨kind, hkind, rfl⟩ := Option.map_eq_some_iff.1 h
    obtain rfl := RegistryKind.ofWord?_eq_some_iff.1 hkind
    exact ⟨by cases kind <;> simp [Accepts, words], fun other => by cases other <;> rfl⟩

theorem not_accepts_of_fill? (h : draft.fill? setting word = none) : ¬setting.Accepts word := by
  rintro (rfl | rfl) <;> cases setting <;> cases h

theorem finish_word (draft : Draft) (setting : Setting) :
    draft.finish.word setting = (draft.word? setting).getD (({} : Settings).word setting) := by
  obtain ⟨rollback, unauthorizedUndo, validatorRegistry⟩ := draft
  cases setting
  · cases rollback <;> rfl
  · cases unauthorizedUndo <;> rfl
  · cases validatorRegistry <;> rfl

/-- The words for a setting, in a draft and then in pairs. -/
def given (draft : Draft) (pairs : List (String × String)) (setting : Setting) : List String :=
  (draft.word? setting).toList ++ setting.given pairs

/-- Every setting is given at most once, in the draft or by the pairs, and the pairs give proper words. -/
def Admits (draft : Draft) (pairs : List (String × String)) : Prop :=
  ∀ setting, (draft.given pairs setting).length ≤ 1 ∧ ∀ word ∈ setting.given pairs, setting.Accepts word

/-- What collecting pairs into a draft comes to. -/
def Collects (draft : Draft) (pairs : List (String × String)) : Except PairFault Draft → Prop
  | .ok last => draft.Admits pairs ∧ ∀ setting, last.word? setting = (draft.given pairs setting).head?
  | .error _ => ¬draft.Admits pairs

/-- One pair: either it is entered, and then its word stands in the draft as it stood among the pairs, or it
names a setting that was given before or that does not have this word. -/
theorem enter_cases (draft : Draft) (key word : String) :
    (∃ next, draft.enter (key, word) = .ok next ∧
      (∀ setting : Setting, key = setting.key → setting.Accepts word) ∧
      ∀ pairs, next.given pairs = draft.given ((key, word) :: pairs)) ∨
    (∃ (fault : PairFault) (setting : Setting), draft.enter (key, word) = .error fault ∧ key = setting.key ∧
      ((draft.word? setting).isSome ∨ ¬setting.Accepts word)) := by
  unfold enter accept
  dsimp only
  cases named : ofKey? key with
  | none =>
    refine .inl ⟨draft, rfl, fun setting same => ?_, fun pairs => funext fun setting => ?_⟩
    · cases (ofKey?_eq_some_iff.2 same).symm.trans named
    · rw [given, given, given_cons_of_other named]
  | some setting =>
    obtain rfl := ofKey?_eq_some_iff.1 named
    by_cases has : draft.has setting = true
    · exact .inr ⟨.duplicate setting, setting, if_pos has, rfl, .inl (draft.has_eq_isSome setting ▸ has)⟩
    cases filled : draft.fill? setting word with
    | none => exact .inr ⟨.unknownWord setting word, setting, by simp [has, filled], rfl,
        .inr (not_accepts_of_fill? filled)⟩
    | some next =>
      obtain ⟨accepts, word?_next⟩ := fill?_eq_some filled
      rw [has_eq_isSome, Bool.not_eq_true, Option.isSome_eq_false_iff, Option.isNone_iff_eq_none] at has
      refine .inl ⟨next, by simp [has_eq_isSome, has, filled], fun other same => ?_,
        fun pairs => funext fun other => ?_⟩
      · cases (ofKey?_eq_some_iff.2 same).symm.trans named
        exact accepts
      · rw [given, given, word?_next, given_cons]
        by_cases same : other = setting
        · simp [same, has]
        · have apart : setting.key ≠ other.key := fun eq =>
            same (Option.some.inj ((ofKey?_eq_some_iff.2 eq).symm.trans named))
          rw [if_neg same, if_neg apart]

theorem collects (draft : Draft) (pairs : List (String × String)) :
    draft.Collects pairs (pairs.foldlM Draft.enter draft) := by
  induction pairs generalizing draft with
  | nil =>
    refine ⟨fun setting => ⟨?_, fun _ h => (nomatch h)⟩, fun setting => ?_⟩
    · cases h : draft.word? setting <;> simp [given, h, Setting.given]
    · cases h : draft.word? setting <;> simp [given, h, Setting.given]
  | cons pair pairs ih =>
    obtain ⟨key, word⟩ := pair
    rw [List.foldlM_cons]
    rcases draft.enter_cases key word with
      ⟨next, entered, accepts, same⟩ | ⟨fault, setting, refused, rfl, why⟩
    · have admits_iff : next.Admits pairs ↔ draft.Admits ((key, word) :: pairs) := by
        unfold Admits
        refine forall_congr' fun setting => ?_
        rw [same, given_cons]
        refine and_congr_right fun _ => ?_
        by_cases named : key = setting.key
        · simp [named, accepts setting named]
        · simp [named]
      have rest := ih next
      rw [entered]
      change draft.Collects _ (pairs.foldlM Draft.enter next)
      generalize pairs.foldlM Draft.enter next = result at rest ⊢
      cases result with
      | ok last =>
        refine ⟨admits_iff.1 rest.1, fun setting => ?_⟩
        rw [rest.2, same]
      | error fault => exact fun admits => rest (admits_iff.2 admits)
    · rw [refused]
      intro admits
      obtain ⟨once, proper⟩ := admits setting
      rw [given, given_cons, if_pos rfl] at once
      rw [given_cons, if_pos rfl] at proper
      rcases why with has | unknown
      · obtain ⟨before, has⟩ := Option.isSome_iff_exists.1 has
        simp [has] at once
      · exact unknown (proper word List.mem_cons_self)

end Draft

namespace Settings

variable {pairs others : List (String × String)} {settings : Settings}

/-- Every setting is given at most once, and by one of its two words. -/
def Proper (pairs : List (String × String)) : Prop :=
  ∀ setting : Setting, (setting.given pairs).length ≤ 1 ∧ ∀ word ∈ setting.given pairs, setting.Accepts word

/-- The settings have the words that the pairs give, and the default for each setting that is not given. -/
def Follow (settings : Settings) (pairs : List (String × String)) : Prop :=
  ∀ setting : Setting, settings.word setting = (setting.given pairs).head?.getD (({} : Settings).word setting)

theorem Follow.eq {settings' : Settings} (h : settings.Follow pairs) (h' : settings'.Follow pairs) :
    settings = settings' :=
  eq_of_word fun setting => (h setting).trans (h' setting).symm

theorem ofPairs_cases (pairs : List (String × String)) :
    (∃ settings, ofPairs pairs = .ok settings ∧ Proper pairs ∧ settings.Follow pairs) ∨
    (∃ fault, ofPairs pairs = .error fault ∧ ¬Proper pairs) := by
  have collected := Draft.collects {} pairs
  have given_empty (setting : Setting) : ({} : Draft).given pairs setting = setting.given pairs := by
    cases setting <;> rfl
  unfold ofPairs
  generalize pairs.foldlM Draft.enter {} = result at collected ⊢
  cases result with
  | ok last =>
    obtain ⟨admits, words⟩ := collected
    simp only [Draft.Admits, given_empty] at admits
    refine .inl ⟨last.finish, rfl, admits, fun setting => ?_⟩
    rw [last.finish_word, words, given_empty]
  | error fault =>
    refine .inr ⟨fault, rfl, fun proper => collected fun setting => ?_⟩
    rw [given_empty]
    exact proper setting

theorem ofPairs_eq_ok_iff : ofPairs pairs = .ok settings ↔ Proper pairs ∧ settings.Follow pairs := by
  rcases ofPairs_cases pairs with ⟨settings', collected, proper, follow⟩ | ⟨fault, refused, improper⟩
  · rw [collected, Except.ok.injEq]
    constructor
    · rintro rfl
      exact ⟨proper, follow⟩
    · exact fun h => follow.eq h.2
  · rw [refused]
    exact iff_of_false nofun fun h => improper h.1

theorem exists_ofPairs_iff : (∃ settings, ofPairs pairs = .ok settings) ↔ Proper pairs := by
  rcases ofPairs_cases pairs with ⟨settings, collected, proper, -⟩ | ⟨fault, refused, improper⟩
  · exact iff_of_true ⟨settings, collected⟩ proper
  · rw [refused]
    exact iff_of_false (fun ⟨_, h⟩ => nomatch h) improper

/-- The pairs whose key names a setting. -/
def known (pairs : List (String × String)) : List (String × String) :=
  pairs.filter fun pair => (Setting.ofKey? pair.1).isSome

theorem given_known (setting : Setting) (pairs : List (String × String)) :
    setting.given (known pairs) = setting.given pairs := by
  have named : ∀ pair : String × String,
      (decide (pair.1 = setting.key) && (Setting.ofKey? pair.1).isSome) = decide (pair.1 = setting.key) := by
    intro pair
    by_cases same : pair.1 = setting.key
    · simp [ofKey?_eq_some_iff.2 same]
    · simp [same]
  rw [Setting.given, known, List.filter_filter]
  simp only [named, Setting.given]

/-- Neither the order of the pairs nor those that name no setting make a difference. -/
theorem ofPairs_ok_iff_of_perm (same : (known others).Perm (known pairs)) :
    ofPairs others = .ok settings ↔ ofPairs pairs = .ok settings := by
  have given_perm (setting : Setting) : (setting.given others).Perm (setting.given pairs) := by
    rw [← given_known setting others, ← given_known setting pairs]
    exact (same.filter _).map _
  have proper_iff : Proper others ↔ Proper pairs := by
    simp only [Proper, (given_perm _).length_eq, (given_perm _).mem_iff]
  rw [ofPairs_eq_ok_iff, ofPairs_eq_ok_iff, proper_iff]
  refine and_congr_right fun proper => forall_congr' fun setting => ?_
  -- Lists of at most one word that are permutations of each other are equal.
  have once := (proper setting).1
  have equal : setting.given others = setting.given pairs := by
    have perm := given_perm setting
    generalize setting.given pairs = words at once perm ⊢
    match words, once with
    | [], _ => exact perm.eq_nil
    | [word], _ => exact List.perm_singleton.1 perm
  rw [equal]

end Settings

end ActionDispatch
