import Mathlib.Data.List.Induction
import ReplyStage.Proofs.Dict
import ReplyStage.Proofs.Results
import ReplyStage.Request.Headers
/-!
# The headers of a request, name by name

Headers are made of entries one after another: the values of templates, then the metadata that is
selected. `get_ofList` says what is under each name.
-/

namespace ReplyStage

namespace HeaderMap

theorem get?_append (h : HeaderMap) (name value n : String) :
    (h.append name value).values.get? n =
      if n = name then some (h.get name ++ [value]) else h.values.get? n := by
  simp [append]

theorem mem_get {h : HeaderMap} {name value : String} (hv : value ∈ h.get name) :
    ∃ values, h.values.get? name = some values ∧ value ∈ values := by
  unfold get at hv
  cases hget : h.values.get? name with
  | none => simp [hget] at hv
  | some values => exact ⟨values, rfl, by simpa [hget] using hv⟩

/-- Under a name are the values of the entries with that name, in their order. -/
theorem get_ofList (entries : List (String × String)) (name : String) :
    (ofList entries).get name = (entries.filter fun e => e.1 = name).map Prod.snd := by
  induction entries using List.reverseRecOn with
  | nil => rfl
  | append_singleton entries entry ih =>
    have happend : ofList (entries ++ [entry]) = (ofList entries).append entry.1 entry.2 :=
      List.foldl_concat _ _ _ _
    rw [happend, get_append, List.filter_append, List.map_append]
    by_cases hname : name = entry.1
    · subst hname
      simp [ih]
    · have hne : ¬ entry.1 = name := fun h => hname h.symm
      simp [ih, hname, hne]

/-- A name stands in headers only with a value. -/
theorem ne_nil_of_get?_ofList {entries : List (String × String)} {name : String}
    {values : List String} (h : (ofList entries).values.get? name = some values) : values ≠ [] := by
  induction entries using List.reverseRecOn generalizing values with
  | nil => cases h
  | append_singleton entries entry ih =>
    have happend : ofList (entries ++ [entry]) = (ofList entries).append entry.1 entry.2 :=
      List.foldl_concat _ _ _ _
    rw [happend, get?_append] at h
    split at h
    · cases h
      simp
    · exact ih h

theorem get?_ofList_eq_none_iff {entries : List (String × String)} {name : String} :
    (ofList entries).values.get? name = none ↔ (ofList entries).get name = [] := by
  unfold get
  cases h : (ofList entries).values.get? name with
  | none => simp
  | some values => simpa using ne_nil_of_get?_ofList h

/-- The first value under a name is that of the first entry with it. -/
theorem head?_get_ofList (entries : List (String × String)) (name : String) :
    ((ofList entries).get name).head? = lookupEntry name entries := by
  rw [get_ofList]
  induction entries with
  | nil => rfl
  | cons first rest ih =>
    rw [lookupEntry, List.filter_cons]
    by_cases hname : name = first.1
    · subst hname
      simp
    · have hne : ¬ first.1 = name := fun h => hname h.symm
      simp [hname, hne, ih]

end HeaderMap

theorem Filter.mem_select {f : Filter} {record : Record} {entry : String × String} :
    entry ∈ f.select record ↔ entry ∈ record.metadata.entries ∧ f.selects entry.1 = true := by
  unfold select
  split
  · rename_i hempty
    simp only [isEmpty, Bool.and_eq_true, List.isEmpty_iff] at hempty
    simp [selects, hempty]
  · exact List.mem_filter

theorem Filter.lookupEntry_select (f : Filter) (record : Record) (key : String) :
    lookupEntry key (f.select record) = if f.selects key then record.get? key else none := by
  unfold select
  split
  · rename_i hempty
    simp only [isEmpty, Bool.and_eq_true, List.isEmpty_iff] at hempty
    simp [selects, hempty, lookupEntry]
  · exact lookupEntry_filter key f.selects record.metadata.entries

theorem Filter.nodup_keys_select (f : Filter) (record : Record) :
    ((f.select record).map Prod.fst).Nodup := by
  unfold select
  split
  · exact .nil
  · exact record.metadata.sorted.nodup_keys.sublist (List.filter_sublist.map Prod.fst)

namespace HeaderRules

/-- A named template comes from a named text. -/
theorem compileAll_ok {headers : List (String × String)} {templates : List (String × Template)}
    (h : compileAll headers = .ok templates) :
    List.Forall₂ (fun header named => named.1 = header.1 ∧ Template.compile header.2 = .ok named.2)
      headers templates := by
  induction headers generalizing templates with
  | nil =>
    cases h
    exact .nil
  | cons first rest ih =>
    obtain ⟨name, text⟩ := first
    rw [compileAll] at h
    split at h
    · cases h
    · rename_i template htext
      obtain ⟨templates', hrest, rfl⟩ := map_ok h
      exact .cons ⟨rfl, htext⟩ (ih hrest)

/-- A named value comes from a named template. -/
theorem evaluateAll_ok {record : Record} {templates : List (String × Template)}
    {values : List (String × String)} (h : evaluateAll record templates = .ok values) :
    List.Forall₂ (fun named value => value.1 = named.1 ∧ named.2.evaluate record = .ok value.2)
      templates values := by
  induction templates generalizing values with
  | nil =>
    cases h
    exact .nil
  | cons first rest ih =>
    obtain ⟨name, template⟩ := first
    rw [evaluateAll] at h
    split at h
    · cases h
    · rename_i value hvalue
      obtain ⟨values', hrest, rfl⟩ := map_ok h
      exact .cons ⟨rfl, hvalue⟩ (ih hrest)

/-- The templates by name. -/
theorem rel_templates {texts : Dict String} {templates : List (String × Template)}
    (compiled : compileAll texts.entries = .ok templates) (name : String) :
    Option.Rel (fun text template => Template.compile text = .ok template)
      (texts.get? name) (lookupEntry name templates) :=
  rel_lookupEntry (compileAll_ok compiled) name

/-- The values by name are those of the templates. -/
theorem rel_values {record : Record} {texts : Dict String} {templates : List (String × Template)}
    {values : List (String × String)} (compiled : compileAll texts.entries = .ok templates)
    (evaluated : evaluateAll record templates = .ok values) (name : String) :
    Option.Rel (fun text value => ∃ template, Template.compile text = .ok template ∧
      template.evaluate record = .ok value) (texts.get? name) (lookupEntry name values) := by
  have hcompiled := rel_templates compiled name
  have hvalued : Option.Rel (fun template value => Template.evaluate template record = .ok value)
      (lookupEntry name templates) (lookupEntry name values) :=
    rel_lookupEntry (evaluateAll_ok evaluated) name
  generalize texts.get? name = text? at hcompiled ⊢
  generalize lookupEntry name templates = template? at hcompiled hvalued
  generalize lookupEntry name values = value? at hvalued ⊢
  cases hcompiled with
  | none =>
    cases hvalued
    exact .none
  | some htext =>
    cases hvalued with
    | some hvalue => exact .some ⟨_, htext, hvalue⟩

/-- The error is that of the first template without a value. -/
theorem evaluateAll_error {record : Record} {templates : List (String × Template)} {e : StageError}
    (h : evaluateAll record templates = .error e) :
    ∃ before named after err, templates = before ++ named :: after ∧
      (∀ b ∈ before, ∃ value, b.2.evaluate record = .ok value) ∧
      named.2.evaluate record = .error err ∧ e = .headerTemplate named.1 err := by
  induction templates with
  | nil => cases h
  | cons first rest ih =>
    rw [evaluateAll] at h
    split at h
    · rename_i err herr
      cases h
      exact ⟨[], first, rest, err, rfl, List.forall_mem_nil _, herr, rfl⟩
    · rename_i value hvalue
      obtain ⟨before, named, after, err, rfl, hbefore, herr, he⟩ := ih (map_eq_error_iff.mp h)
      exact ⟨first :: before, named, after, err, rfl,
        List.forall_mem_cons.mpr ⟨⟨value, hvalue⟩, hbefore⟩, herr, he⟩

end HeaderRules

end ReplyStage
