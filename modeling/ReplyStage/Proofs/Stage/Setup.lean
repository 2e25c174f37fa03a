import ReplyStage.Proofs.Settings.Checks
import ReplyStage.Stage.Basic
/-!
# What a stage is set up from

`ofSettings_ok` says where each part of a stage comes from: its templates compile from the texts of
the settings, its filter is the one of the settings, and its time to wait is the one that the
settings give, which is never zero.
-/

namespace ReplyStage

/-! ## The settings -/

namespace StageSettings

/-- A time to wait is never zero. -/
theorem waitTime_pos {c : StageSettings} {d : Duration} (h : c.waitTime = .ok d) : 0 < d.nanos :=
  (waitTime_eq_ok_iff.1 h).2

/-- What passes the checks has a time to wait. -/
theorem waitTime_of_validate {c : StageSettings} {d : Duration} (h : c.validate = .ok d) :
    c.waitTime = .ok d :=
  (validate_eq_ok_iff.1 h).2.2.2

end StageSettings

/-! ## The templates -/

/-- A compiled template remembers its text. -/
theorem Template.source_compile {text : String} {t : Template} (h : Template.compile text = .ok t) :
    t.source = text := by
  unfold Template.compile at h
  split at h
  · cases h; rfl
  · cases h

theorem SubjectRule.compile_of_ofText {text : String} {r : SubjectRule}
    (h : SubjectRule.ofText text = .ok r) : Template.compile text = .ok r.template := by
  unfold SubjectRule.ofText at h
  split at h
  · rename_i t ht
    cases h
    exact ht
  · cases h

/-! ## The stage -/

namespace Stage

/-- Where the parts of a stage come from. -/
theorem ofSettings_ok {c : StageSettings} {s : Stage} (h : ofSettings c = .ok s) :
    ∃ filter, c.validate = .ok s.timeout ∧ Filter.ofSettings c.forwarded = .ok filter ∧
      SubjectRule.ofText c.subject = .ok s.subject ∧
      HeaderRules.ofTemplates c.headers filter = .ok s.headers ∧
      s.label = c.connection.name ∧ s.maxReplyBytes = c.maxReplyBytes := by
  unfold ofSettings at h
  obtain ⟨timeout, ht, h⟩ := bind_ok h
  obtain ⟨filter, hf, h⟩ := bind_ok h
  obtain ⟨subject, hs, h⟩ := bind_ok h
  obtain ⟨headers, hh, h⟩ := bind_ok h
  cases h
  exact ⟨filter, mapError_ok ht, hf, hs, hh, rfl, rfl⟩

end Stage
end ReplyStage
