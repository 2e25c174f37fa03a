import ReplyStage.Proofs.Stage.Construction
/-!
# Validating settings and setting up a stage

Settings are validated before a stage is made of them, but the patterns of the filter are only read
after that. So a stage is set up from settings that were validated unless one of the patterns is
none (`ofSettings_iff_validate`), and there are settings that pass and make no stage all the same
(`ofSettings_unclosedPattern`).
-/

namespace ReplyStage

/-- The first of some texts that is no pattern. -/
def FirstUnreadable (texts : List String) (text : String) : Prop :=
  ∃ before after, texts = before ++ text :: after ∧
    (∀ b ∈ before, ∃ pattern, Pattern.ofText? b = some pattern) ∧ Pattern.ofText? text = none

theorem FirstUnreadable.cons_iff {first text : String} {rest : List String} :
    FirstUnreadable (first :: rest) text ↔
      (Pattern.ofText? first = none ∧ text = first) ∨
        (∃ pattern, Pattern.ofText? first = some pattern) ∧ FirstUnreadable rest text := by
  constructor
  · rintro ⟨before, after, htexts, hbefore, hnone⟩
    cases before with
    | nil =>
      cases htexts
      exact .inl ⟨hnone, rfl⟩
    | cons b before =>
      cases htexts
      obtain ⟨hfirst, hbefore⟩ := List.forall_mem_cons.mp hbefore
      exact .inr ⟨hfirst, before, after, rfl, hbefore, hnone⟩
  · rintro (⟨hnone, rfl⟩ | ⟨hfirst, before, after, rfl, hbefore, hnone⟩)
    · exact ⟨[], rest, rfl, nofun, hnone⟩
    · exact ⟨first :: before, after, rfl, List.forall_mem_cons.mpr ⟨hfirst, hbefore⟩, hnone⟩

/-- Reading patterns fails because of the first text that is none. -/
theorem Filter.readPatterns_eq_error_iff {texts : List String} {e : StageError} :
    Filter.readPatterns texts = .error e ↔
      ∃ text, FirstUnreadable texts text ∧ e = .config (.badPattern text) := by
  induction texts with
  | nil => simp [Filter.readPatterns, FirstUnreadable]
  | cons first rest ih =>
    simp only [FirstUnreadable.cons_iff]
    cases hfirst : Pattern.ofText? first with
    | none => simp [Filter.readPatterns, hfirst, eq_comm]
    | some pattern => simp [Filter.readPatterns, hfirst, map_eq_error_iff, ih]

/-- The settings with no patterns to select metadata by. -/
def StageSettings.withoutPatterns (c : StageSettings) : StageSettings :=
  { c with forwarded := { c.forwarded with includePatterns := [] } }

namespace Stage

variable {c : StageSettings} {wait : Duration}

/-- What validation refuses makes no stage, for the same fault. -/
theorem ofSettings_of_validate_error {fault : SettingsFault} (h : c.validate = .error fault) :
    ofSettings c = .error (.config fault) := by
  rw [ofSettings, h]
  rfl

/-- After validation only the patterns can be at fault. -/
theorem ofSettings_eq_error_iff (h : c.validate = .ok wait) {e : StageError} :
    ofSettings c = .error e ↔ Filter.readPatterns c.forwarded.includePatterns = .error e := by
  cases hpatterns : Filter.readPatterns c.forwarded.includePatterns with
  | error e' =>
    have hfault : ofSettings c = .error e' := by
      simp only [ofSettings, h, Filter.ofSettings, hpatterns]
      rfl
    rw [hfault, Except.error.injEq, Except.error.injEq]
  | ok patterns =>
    obtain ⟨s, hs, -⟩ := exists_ofSettings
      (StageSettings.sound_iff.mpr ⟨h, Filter.readPatterns_eq_ok_iff.mp ⟨patterns, hpatterns⟩⟩)
    rw [hs]
    simp only [reduceCtorEq]

/-- How validating settings and setting up a stage go together. -/
theorem ofSettings_iff_validate (c : StageSettings) :
    -- what validation refuses makes no stage, for the same fault
    (∀ fault, c.validate = .error fault → ofSettings c = .error (.config fault)) ∧
    -- what it accepts makes a stage that waits as long as it says, once the patterns can be read,
    (∀ wait, (∃ s, ofSettings c = .ok s ∧ s.timeout = wait) ↔ c.validate = .ok wait ∧
      ∀ text ∈ c.forwarded.includePatterns, ∃ pattern, Pattern.ofText? text = some pattern) ∧
    -- and is refused for nothing but the first that cannot
    (∀ wait, c.validate = .ok wait → ∀ e, ofSettings c = .error e ↔
      ∃ text, FirstUnreadable c.forwarded.includePatterns text ∧ e = .config (.badPattern text)) ∧
    -- so that the two agree on all settings but for the patterns
    ∀ wait, c.validate = .ok wait ↔
      ∃ s, ofSettings c.withoutPatterns = .ok s ∧ s.timeout = wait := by
  refine ⟨fun fault => ofSettings_of_validate_error, fun wait => ?_, fun wait hvalid e => ?_,
    fun wait => ?_⟩
  · rw [ofSettings_eq_ok_iff, StageSettings.sound_iff]
  · rw [ofSettings_eq_error_iff hvalid, Filter.readPatterns_eq_error_iff]
  · have hvalidate : c.withoutPatterns.validate = c.validate := rfl
    have hpatterns : c.withoutPatterns.forwarded.includePatterns = [] := rfl
    rw [ofSettings_eq_ok_iff, StageSettings.sound_iff, hvalidate, hpatterns]
    exact ⟨fun h => ⟨h, nofun⟩, And.left⟩

/-- For instance, a filter with a group that is not closed. -/
def unclosedPattern : StageSettings where
  subject := "orders"
  forwarded := { includePatterns := ["^trace_", "("] }

theorem validate_unclosedPattern : unclosedPattern.validate = .ok ⟨3000000000⟩ :=
  ok_of_toOption (by decide +kernel)

theorem firstUnreadable_unclosedPattern :
    FirstUnreadable unclosedPattern.forwarded.includePatterns "(" := by
  refine ⟨["^trace_"], [], rfl, ?_, by decide +kernel⟩
  rw [List.forall_mem_singleton, ← Option.isSome_iff_exists]
  decide +kernel

theorem ofSettings_iff_validate_unclosedPattern :
    (∀ s, ofSettings unclosedPattern ≠ .ok s) ∧
      ∃ s, ofSettings unclosedPattern.withoutPatterns = .ok s ∧ s.timeout = ⟨3000000000⟩ := by
  obtain ⟨-, -, herror, hwithout⟩ := ofSettings_iff_validate unclosedPattern
  refine ⟨fun s hs => ?_, (hwithout _).mp validate_unclosedPattern⟩
  have hfault := (herror _ validate_unclosedPattern _).mpr
    ⟨"(", firstUnreadable_unclosedPattern, rfl⟩
  rw [hs] at hfault
  cases hfault

/-- Settings can pass validation and make no stage. -/
theorem ofSettings_unclosedPattern :
    unclosedPattern.validate = .ok ⟨3000000000⟩ ∧
      ofSettings unclosedPattern = .error (.config (.badPattern "(")) := by
  refine ⟨validate_unclosedPattern, (ofSettings_eq_error_iff validate_unclosedPattern).mpr ?_⟩
  exact Filter.readPatterns_eq_error_iff.mpr ⟨"(", firstUnreadable_unclosedPattern, rfl⟩

end Stage
end ReplyStage
