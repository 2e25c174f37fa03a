import ReplyStage.Proofs.Request.Headers
import ReplyStage.Proofs.Text.Utf8
/-!
# The headers of a record, from their settings

What a record's headers are is told by the settings alone: the texts of the templates and the
filter as configured. `resolve_firstError_or_valuesOf` says when there are none and which header is
to blame, and else which values stand under each name.
-/

namespace ReplyStage

/-! ## Selected keys -/

/-- A prefix starts the key or a pattern fits a part of it. -/
def FilterSettings.Selects (c : FilterSettings) (key : String) : Prop :=
  (∃ start ∈ c.includePrefixes, start.toList <+: key.toList) ∨
    ∃ text ∈ c.includePatterns, ∃ pattern, Pattern.ofText? text = some pattern ∧
      pattern.found key = true

instance (c : FilterSettings) (key : String) : Decidable (c.Selects key) :=
  decidable_of_iff
    ((∃ start ∈ c.includePrefixes, start.toList <+: key.toList) ∨
      ∃ text ∈ c.includePatterns, (Pattern.ofText? text).any (·.found key) = true)
    (by simp only [FilterSettings.Selects, Option.any_eq_true])

/-- The settings name neither a prefix nor a pattern. -/
def FilterSettings.IsEmpty (c : FilterSettings) : Prop :=
  c.includePrefixes = [] ∧ c.includePatterns = []

theorem FilterSettings.IsEmpty.not_selects {c : FilterSettings} (h : c.IsEmpty) (key : String) :
    ¬ c.Selects key := by
  rintro (⟨start, hstart, -⟩ | ⟨text, htext, -⟩)
  · rw [h.1] at hstart
    cases hstart
  · rw [h.2] at htext
    cases htext

namespace Filter

theorem startsWith_iff {start s : String} :
    startsWith start s = true ↔ start.toList <+: s.toList := by
  rw [startsWith, List.isPrefixOf_iff_prefix]

theorem readPatterns_ok {texts : List String} {patterns : List Pattern}
    (h : readPatterns texts = .ok patterns) :
    List.Forall₂ (fun text pattern => Pattern.ofText? text = some pattern) texts patterns := by
  induction texts generalizing patterns with
  | nil =>
    cases h
    exact .nil
  | cons text rest ih =>
    rw [readPatterns] at h
    split at h
    · cases h
    · rename_i pattern hpattern
      obtain ⟨patterns', hrest, rfl⟩ := map_ok h
      exact .cons hpattern (ih hrest)

/-- Some pattern fits a key just if some text is that of a pattern that does. -/
theorem any_found_iff {texts : List String} {patterns : List Pattern}
    (h : List.Forall₂ (fun text pattern => Pattern.ofText? text = some pattern) texts patterns)
    (key : String) : patterns.any (·.found key) = true ↔
      ∃ text ∈ texts, ∃ pattern, Pattern.ofText? text = some pattern ∧
        pattern.found key = true := by
  induction h with
  | nil => simp
  | cons hpattern _ ih => simp [ih, hpattern]

theorem selects_iff {c : FilterSettings} {f : Filter} (h : ofSettings c = .ok f) {key : String} :
    f.selects key = true ↔ c.Selects key := by
  obtain ⟨patterns, hpatterns, rfl⟩ := map_ok h
  rw [selects, Bool.or_eq_true, List.any_eq_true, any_found_iff (readPatterns_ok hpatterns)]
  simp only [startsWith_iff]
  rfl

end Filter

namespace HeaderRules

/-! ## Templates by name -/

/-- The template of the header with this name has this result for a record. -/
def Evaluated (texts : Dict String) (record : Record) (name : String)
    (result : Except TemplateError String) : Prop :=
  ∃ text template, texts.get? name = some text ∧ Template.compile text = .ok template ∧
    template.evaluate record = result

variable {texts : Dict String} {templates : List (String × Template)} {record : Record}
  {name : String}

theorem Evaluated.unique {result result' : Except TemplateError String}
    (h : Evaluated texts record name result) (h' : Evaluated texts record name result') :
    result = result' := by
  obtain ⟨text, template, htext, htemplate, rfl⟩ := h
  obtain ⟨text', template', htext', htemplate', rfl⟩ := h'
  obtain rfl : text = text' := Option.some.inj (htext.symm.trans htext')
  obtain rfl : template = template' := Except.ok.inj (htemplate.symm.trans htemplate')
  rfl

theorem sorted_compileAll (compiled : compileAll texts.entries = .ok templates) :
    Sorted templates :=
  texts.sorted.of_forall₂ ((compileAll_ok compiled).imp fun _ _ h => h.1)

theorem sorted_evaluateAll {values : List (String × String)} (h : Sorted templates)
    (evaluated : evaluateAll record templates = .ok values) : Sorted values :=
  h.of_forall₂ ((evaluateAll_ok evaluated).imp fun _ _ h => h.1)

theorem evaluated_iff (compiled : compileAll texts.entries = .ok templates)
    {result : Except TemplateError String} : Evaluated texts record name result ↔
      ∃ template, (name, template) ∈ templates ∧ template.evaluate record = result := by
  have hrel := rel_templates compiled name
  simp only [Evaluated, ← lookupEntry_eq_some_iff (sorted_compileAll compiled).nodup_keys]
  generalize texts.get? name = text? at hrel ⊢
  generalize lookupEntry name templates = template? at hrel ⊢
  cases hrel with
  | none => simp
  | some htext => simp [htext]

/-! ## Headers without a value -/

/-- The error is that of this template, and no template with a name before it has one. -/
def FirstError (texts : Dict String) (record : Record) (name : String) (err : TemplateError) :
    Prop :=
  Evaluated texts record name (.error err) ∧
    ∀ other err', Evaluated texts record other (.error err') → other ≠ name →
      Text.Utf8.encode name < Text.Utf8.encode other

theorem FirstError.unique {name' : String} {err err' : TemplateError}
    (h : FirstError texts record name err) (h' : FirstError texts record name' err') :
    name = name' ∧ err = err' := by
  obtain rfl : name = name' := by
    by_contra hne
    exact List.lt_asymm (h.2 name' err' h'.1 (Ne.symm hne)) (h'.2 name err h.1 hne)
  exact ⟨rfl, Except.error.inj (h.1.unique h'.1)⟩

theorem firstError_of_evaluateAll (compiled : compileAll texts.entries = .ok templates)
    {e : StageError} (h : evaluateAll record templates = .error e) :
    ∃ name err, e = .headerTemplate name err ∧ FirstError texts record name err := by
  obtain ⟨before, named, after, err, rfl, hbefore, herr, rfl⟩ := evaluateAll_error h
  refine ⟨named.1, err, rfl, (evaluated_iff compiled).mpr ⟨named.2, by simp, herr⟩, ?_⟩
  intro other err' hother hne
  obtain ⟨template, hmem, herr'⟩ := (evaluated_iff compiled).mp hother
  rcases List.mem_append.mp hmem with hmem | hmem
  · obtain ⟨value, hvalue⟩ := hbefore _ hmem
    cases herr'.symm.trans hvalue
  rcases List.mem_cons.mp hmem with hnamed | hmem
  · exact absurd (congrArg Prod.fst hnamed) hne
  · have hsorted : Sorted (named :: after) :=
      (List.pairwise_append.mp (sorted_compileAll compiled)).2.1
    exact Text.Utf8.encode_lt (List.rel_of_pairwise_cons hsorted hmem)

/-! ## Headers with values -/

section Values

variable {values : List (String × String)}

theorem lookupEntry_values_eq_some_iff (compiled : compileAll texts.entries = .ok templates)
    (evaluated : evaluateAll record templates = .ok values) {value : String} :
    lookupEntry name values = some value ↔ Evaluated texts record name (.ok value) := by
  have hrel := rel_values compiled evaluated name
  unfold Evaluated
  generalize texts.get? name = text? at hrel ⊢
  generalize lookupEntry name values = value? at hrel ⊢
  cases hrel with
  | none => simp
  | some h =>
    obtain ⟨template, htext, hvalue⟩ := h
    simp [htext, hvalue]

theorem lookupEntry_values_eq_none_iff (compiled : compileAll texts.entries = .ok templates)
    (evaluated : evaluateAll record templates = .ok values) :
    lookupEntry name values = none ↔ texts.get? name = none := by
  have hrel := rel_values compiled evaluated name
  generalize texts.get? name = text? at hrel ⊢
  generalize lookupEntry name values = value? at hrel ⊢
  cases hrel <;> simp

/-- Where all templates have values there is no error. -/
theorem not_evaluated_error (compiled : compileAll texts.entries = .ok templates)
    (evaluated : evaluateAll record templates = .ok values) {err : TemplateError} :
    ¬ Evaluated texts record name (.error err) := by
  rintro ⟨text, template, htext, htemplate, herr⟩
  have hrel := rel_values compiled evaluated name
  rw [htext] at hrel
  generalize lookupEntry name values = value? at hrel
  cases hrel with
  | some h =>
    obtain ⟨template', htemplate', hvalue⟩ := h
    obtain rfl : template = template' := Except.ok.inj (htemplate.symm.trans htemplate')
    cases herr.symm.trans hvalue

end Values

variable {settings : FilterSettings} {filter : Filter} {rules : HeaderRules}

theorem resolve_eq_error_iff (built : ofTemplates texts filter = .ok rules) {e : StageError} :
    rules.resolve record = .error e ↔
      ∃ name err, e = .headerTemplate name err ∧ FirstError texts record name err := by
  obtain ⟨templates, compiled, rfl⟩ := map_ok built
  rw [resolve, map_eq_error_iff]
  refine ⟨firstError_of_evaluateAll compiled, ?_⟩
  rintro ⟨name, err, rfl, hfirst⟩
  cases hresult : evaluateAll record templates with
  | ok values => exact absurd hfirst.1 (not_evaluated_error compiled hresult)
  | error e =>
    obtain ⟨name', err', rfl, hfirst'⟩ := firstError_of_evaluateAll compiled hresult
    obtain ⟨rfl, rfl⟩ := hfirst.unique hfirst'
    rfl

/-- The values are the one of the template with this name and the record's selected metadata under
it, each as far as there is one. -/
def ValuesOf (texts : Dict String) (settings : FilterSettings) (record : Record) (name : String)
    (values : List String) : Prop :=
  ∃ templated forwarded : Option String,
    (∀ value, templated = some value ↔ Evaluated texts record name (.ok value)) ∧
    (templated = none ↔ texts.get? name = none) ∧
    (∀ value, forwarded = some value ↔ record.get? name = some value ∧ settings.Selects name) ∧
    values = templated.toList ++ forwarded.toList

section ValuesOf

variable {values : List String}

theorem ValuesOf.length_le (h : ValuesOf texts settings record name values) :
    values.length ≤ 2 := by
  obtain ⟨templated, forwarded, -, -, -, rfl⟩ := h
  cases templated <;> cases forwarded <;> simp

theorem ValuesOf.ne_nil_iff (h : ValuesOf texts settings record name values) :
    values ≠ [] ↔ texts.get? name ≠ none ∨ record.get? name ≠ none ∧ settings.Selects name := by
  obtain ⟨templated, forwarded, -, htemplated, hforwarded, rfl⟩ := h
  have hsome : forwarded ≠ none ↔ record.get? name ≠ none ∧ settings.Selects name := by
    simp only [Option.ne_none_iff_exists', hforwarded, exists_and_right]
  rw [Ne, Ne, ← htemplated, ← hsome]
  cases templated <;> cases forwarded <;> simp

/-- Without prefixes and patterns only templates have values. -/
theorem ValuesOf.evaluated (h : ValuesOf texts settings record name values)
    (hempty : settings.IsEmpty) {value : String} (hvalue : value ∈ values) :
    Evaluated texts record name (.ok value) := by
  obtain ⟨templated, forwarded, htemplated, -, hforwarded, rfl⟩ := h
  have hnone : forwarded = none := Option.eq_none_iff_forall_ne_some.mpr fun v hv =>
    hempty.not_selects name ((hforwarded v).mp hv).2
  rw [hnone, Option.toList_none, List.append_nil, Option.mem_toList] at hvalue
  exact (htemplated value).mp hvalue

end ValuesOf

theorem valuesOf_resolve (selected : Filter.ofSettings settings = .ok filter)
    (built : ofTemplates texts filter = .ok rules) {headers : HeaderMap}
    (resolved : rules.resolve record = .ok headers) (name : String) :
    ValuesOf texts settings record name (headers.get name) := by
  obtain ⟨templates, compiled, rfl⟩ := map_ok built
  obtain ⟨values, evaluated, rfl⟩ := map_ok resolved
  refine ⟨lookupEntry name values, lookupEntry name (filter.select record),
    fun _ => lookupEntry_values_eq_some_iff compiled evaluated,
    lookupEntry_values_eq_none_iff compiled evaluated, fun value => ?_, ?_⟩
  · rw [Filter.lookupEntry_select, ← Filter.selects_iff selected, Option.ite_none_right_eq_some,
      and_comm]
  · rw [HeaderMap.get_ofList, List.filter_append, List.map_append,
      filter_key (sorted_evaluateAll (sorted_compileAll compiled) evaluated).nodup_keys,
      filter_key (filter.nodup_keys_select record)]

/-- A name stands in the headers just if there is a value under it. -/
theorem get?_resolve_eq_none_iff {headers : HeaderMap}
    (resolved : rules.resolve record = .ok headers) {name : String} :
    headers.values.get? name = none ↔ headers.get name = [] := by
  obtain ⟨values, -, rfl⟩ := map_ok resolved
  exact HeaderMap.get?_ofList_eq_none_iff

/-- All that the headers of a record are. -/
theorem resolve_firstError_or_valuesOf (texts : Dict String) (settings : FilterSettings)
    (record : Record) {filter : Filter} {rules : HeaderRules}
    (selected : Filter.ofSettings settings = .ok filter)
    (built : ofTemplates texts filter = .ok rules) :
    -- There are none just if some template has an error for the record,
    ((∃ e, rules.resolve record = .error e) ↔
      ∃ name err, Evaluated texts record name (.error err)) ∧
    -- and the first of these in the order of the names' bytes is reported.
    (∀ e, rules.resolve record = .error e ↔
      ∃ name err, e = .headerTemplate name err ∧ FirstError texts record name err) ∧
    ∀ headers, rules.resolve record = .ok headers →
      -- Under each name stand the template's value and then the record's selected metadata.
      (∀ name, ValuesOf texts settings record name (headers.get name)) ∧
      -- No other name stands in the headers, none has more than two values,
      (∀ name, headers.values.get? name ≠ none ↔
        texts.get? name ≠ none ∨ record.get? name ≠ none ∧ settings.Selects name) ∧
      (∀ name, (headers.get name).length ≤ 2) ∧
      -- and settings without prefixes and patterns add no metadata.
      (settings.IsEmpty → ∀ name value, value ∈ headers.get name →
        Evaluated texts record name (.ok value)) := by
  refine ⟨⟨?_, ?_⟩, fun e => resolve_eq_error_iff built, fun headers resolved => ?_⟩
  · rintro ⟨e, herror⟩
    obtain ⟨name, err, -, hfirst⟩ := (resolve_eq_error_iff built).mp herror
    exact ⟨name, err, hfirst.1⟩
  · rintro ⟨name, err, herr⟩
    cases hresolve : rules.resolve record with
    | error e => exact ⟨e, rfl⟩
    | ok headers =>
      obtain ⟨templates, compiled, rfl⟩ := map_ok built
      obtain ⟨values, evaluated, -⟩ := map_ok hresolve
      exact absurd herr (not_evaluated_error compiled evaluated)
  · have hvalues : ∀ name, ValuesOf texts settings record name (headers.get name) :=
      valuesOf_resolve selected built resolved
    refine ⟨hvalues, fun name => ?_, fun name => (hvalues name).length_le,
      fun hempty name value hvalue => (hvalues name).evaluated hempty hvalue⟩
    rw [Ne, get?_resolve_eq_none_iff resolved]
    exact (hvalues name).ne_nil_iff

/-- For instance, two templates that need metadata, one of them with the name of selected
metadata. -/
def kindText : String := "$\x7b! meta(\"kind\") \x7d"

def kindTexts : Dict String := .ofList [("trace_id", "by " ++ kindText), ("X-Kind", kindText)]

def kindSettings : FilterSettings := ⟨["trace_"], ["^id$"]⟩

def kindRecord : Record :=
  ({} : Record).setAll [("trace_id", "given"), ("id", "7"), ("ids", "8"), ("kind", "order")]

theorem resolve_firstError_or_valuesOf_kind :
    ∃ filter rules, Filter.ofSettings kindSettings = .ok filter ∧
      ofTemplates kindTexts filter = .ok rules ∧
      rules.resolve {} = .error (.headerTemplate "X-Kind" (.missingMetadata "kind")) ∧
      ∃ headers, rules.resolve kindRecord = .ok headers ∧
        headers.get "trace_id" = ["by order", "given"] ∧ headers.values.get? "id" ≠ none ∧
        headers.values.get? "ids" = none := by
  have resolves : ((Filter.ofSettings kindSettings).toOption.bind fun filter =>
      (ofTemplates kindTexts filter).toOption.bind fun rules =>
        (rules.resolve kindRecord).toOption).isSome = true := by decide +kernel
  obtain ⟨headers, hheaders⟩ := Option.isSome_iff_exists.mp resolves
  obtain ⟨filter, hfilter, hheaders⟩ := Option.bind_eq_some_iff.mp hheaders
  obtain ⟨rules, hrules, hheaders⟩ := Option.bind_eq_some_iff.mp hheaders
  have selected : Filter.ofSettings kindSettings = .ok filter := ok_of_toOption hfilter
  have built : ofTemplates kindTexts filter = .ok rules := ok_of_toOption hrules
  obtain ⟨-, herror, -⟩ := resolve_firstError_or_valuesOf kindTexts kindSettings {} selected built
  obtain ⟨-, -, hok⟩ :=
    resolve_firstError_or_valuesOf kindTexts kindSettings kindRecord selected built
  obtain ⟨hvalues, hnames, -⟩ := hok headers (ok_of_toOption hheaders)
  have hfirst : FirstError kindTexts {} "X-Kind" (.missingMetadata "kind") := by
    refine ⟨⟨kindText, ⟨kindText, [.expression ⟨.metadata "kind", none⟩]⟩, by decide +kernel,
      ok_of_toOption (by decide +kernel), rfl⟩, ?_⟩
    rintro other err' ⟨text, -, htext, -⟩ hne
    have hmem : other ∈ kindTexts.entries.map Prod.fst :=
      List.mem_map_of_mem (mem_of_lookupEntry htext)
    rw [show kindTexts.entries.map Prod.fst = ["X-Kind", "trace_id"] by decide +kernel] at hmem
    obtain rfl : other = "trace_id" := by simpa [hne] using hmem
    decide +kernel
  refine ⟨filter, rules, selected, built, (herror _).mpr ⟨_, _, rfl, hfirst⟩, headers,
    ok_of_toOption hheaders, ?_, (hnames "id").mpr (.inr (by decide +kernel)), ?_⟩
  · obtain ⟨templated, forwarded, htemplated, -, hforwarded, heq⟩ := hvalues "trace_id"
    have hmade : templated = some "by order" := (htemplated _).mpr
      ⟨_, ⟨"by " ++ kindText, [.literal "by ", .expression ⟨.metadata "kind", none⟩]⟩,
        show _ = some ("by " ++ kindText) by decide +kernel, ok_of_toOption (by decide +kernel),
        ok_of_toOption (by decide +kernel)⟩
    have hgiven : forwarded = some "given" := (hforwarded _).mpr (by decide +kernel)
    rw [heq, hmade, hgiven]
    rfl
  · have hids : ¬ (kindTexts.get? "ids" ≠ none ∨
        kindRecord.get? "ids" ≠ none ∧ kindSettings.Selects "ids") := by decide +kernel
    exact not_not.mp (mt (hnames "ids").mp hids)

end HeaderRules
end ReplyStage
