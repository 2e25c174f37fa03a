import ReplyStage.Proofs.Dict
import ReplyStage.Proofs.Json.Compact
import ReplyStage.Proofs.Json.Reading
import ReplyStage.Settings.Document
/-!
# Settings come out of every text that gives them

A text gives settings as an object with the fields by name. The fields may come in any order, those
that are as in the defaults may be missing, and there may be others, which mean nothing. A field that
is a record itself is given in the same way, with defaults of its own. `StageSettings.JsonText` says
so of the stage's settings, and `StageSettings.ofJson_of_text` that they are read from each such text.
There is one for all settings (`StageSettings.exists_jsonText`). Records of all kinds are told by
their fields (`FieldForm`), with one lemma for them all (`decodes_record`).
-/

namespace ReplyStage

open Json (Space StringText CountText)

namespace Document

open Json (Source Members Items Reads ArrayText NamedText ValueText)

/-! ## Values of the fields -/

/-- A truth value. -/
def FlagText : Bool → Bytes → Prop
  | true, text => text = [0x74, 0x72, 0x75, 0x65]
  | false, text => text = [0x66, 0x61, 0x6C, 0x73, 0x65]

/-- A value that may be missing. -/
def OptionalText {α : Type} (form : α → Bytes → Prop) : Option α → Bytes → Prop
  | none, text => text = [0x6E, 0x75, 0x6C, 0x6C]
  | some value, text => form value text

/-- A list. -/
def ListText {α : Type} (form : α → Bytes → Prop) (values : List α) (text : Bytes) : Prop :=
  ∃ items, ArrayText items text ∧ List.Forall₂ form values items

/-- A map: of entries with one name the last one counts. -/
def DictText {α : Type} (form : α → Bytes → Prop) (d : Dict α) (text : Bytes) : Prop :=
  ∃ entries members, NamedText members text ∧
    List.Forall₂ (fun entry member => member.1 = entry.1 ∧ form entry.2 member.2) entries members ∧
    Dict.ofList entries = d

/-- Every text of a value is read as this value. -/
def Decodes {α : Type} (decoder : Decoder α) (form : α → Bytes → Prop) : Prop :=
  ∀ value text, form value text → Reads text fun source => decoder source = .ok value

theorem decodes_text (expected : Shape) : Decodes (text expected) StringText := by
  intro s written h
  refine (Json.reads_string h.readsName).imp ?_
  rintro _ ⟨q, rfl, hq⟩
  rw [text, string, hq]
  rfl

theorem decodes_flag : Decodes flag FlagText := by
  intro b written h
  cases b with
  | false =>
    obtain rfl := h
    refine Json.reads_false.imp ?_
    rintro _ rfl
    rfl
  | true =>
    obtain rfl := h
    refine Json.reads_true.imp ?_
    rintro _ rfl
    rfl

theorem decodes_count : Decodes count CountText := by
  intro n written h
  refine (Json.reads_whole (.inl rfl) h.2.1).imp ?_
  rintro _ ⟨finish, rfl⟩
  have hread : Json.Numeral.read ⟨decide (([] : Bytes) ≠ []), Json.digitValues written, none, none,
    finish⟩ = .ok (.integer n) := Json.read_count h finish
  rw [count, hread]

/-- A value that may be missing is read unless its own decoder takes null for one. -/
theorem decodes_optional {α : Type} {decoder : Decoder α} {form : α → Bytes → Prop}
    (h : Decodes decoder form) (hnull : ∀ value, decoder .null ≠ .ok value) :
    Decodes (optional decoder) (OptionalText form) := by
  intro value? written hwritten
  cases value? with
  | none =>
    obtain rfl := hwritten
    refine Json.reads_null.imp ?_
    rintro _ rfl
    rfl
  | some value =>
    refine (h value written hwritten).imp fun source hsource => ?_
    have hne : source ≠ .null := by
      rintro rfl
      exact hnull value hsource
    rw [optional, hsource]
    · rfl
    · exact hne

theorem listItems_shows {α : Type} {decoder : Decoder α} {items : Items} {values : List α}
    (h : items.Shows (values.map fun value source => decoder source = .ok value)) :
    listItems decoder items = .ok values := by
  induction values generalizing items with
  | nil =>
    cases h
    rfl
  | cons value values ih =>
    cases h with
    | item hvalue hrest =>
      rw [listItems, hvalue, ih hrest]
      rfl

theorem decodes_list {α : Type} {decoder : Decoder α} {form : α → Bytes → Prop}
    (h : Decodes decoder form) : Decodes (list decoder) (ListText form) := by
  rintro values written ⟨items, harray, hitems⟩
  have hreads : List.Forall₂ Reads items
      (values.map fun value source => decoder source = .ok value) :=
    List.forall₂_map_right_iff.mpr (hitems.flip.imp fun item value hitem => h value item hitem)
  refine (Json.reads_array harray hreads).imp ?_
  rintro _ ⟨read, rfl, hshows⟩
  exact listItems_shows hshows

theorem dictMembers_shows {α : Type} {decoder : Decoder α} {read : Members}
    {entries : List (String × α)} (before : Dict α)
    (h : read.Shows (entries.map fun entry =>
      (fun name => name.read = .ok entry.1, fun source => decoder source = .ok entry.2))) :
    dictMembers decoder before read = .ok (before.insertAll entries) := by
  induction entries generalizing read before with
  | nil =>
    cases h
    rfl
  | cons entry entries ih =>
    cases h with
    | @member _ _ source _ _ _ hname hvalue hrest =>
      have hsource : decoder source = .ok entry.2 := hvalue
      rw [dictMembers, string, hname]
      simp only [Except.mapError, hsource]
      exact ih (before.insert entry.1 entry.2) hrest

theorem decodes_dict {α : Type} {decoder : Decoder α} {form : α → Bytes → Prop}
    (h : Decodes decoder form) : Decodes (dict decoder) (DictText form) := by
  rintro d written ⟨entries, members, hnamed, hentries, rfl⟩
  have hreads : List.Forall₂ (fun member kind => kind.1 = member.1 ∧ Reads member.2 kind.2) members
      (entries.map fun entry => (entry.1, fun source => decoder source = .ok entry.2)) := by
    refine List.forall₂_map_right_iff.mpr (hentries.flip.imp ?_)
    rintro member entry ⟨hname, hform⟩
    exact ⟨hname.symm, h entry.2 member.2 hform⟩
  refine (Json.reads_named hnamed hreads).imp ?_
  rintro _ ⟨read, rfl, hshows⟩
  rw [List.map_map] at hshows
  exact dictMembers_shows .empty hshows

/-! ## Records -/

/-- A field of a record: its name, its value and how that is written. -/
structure FieldForm (α : Type) where
  {β : Type}
  name : String
  get : α → β
  form : β → Bytes → Prop

section Records

variable {α : Type}

/-- What members give a record: each field under its name, once at most. A field that is missing is
as in the defaults, and members that are no field have any value. -/
structure Gives (fields : List (FieldForm α)) (default record : α) (members : List (String × Bytes)) :
    Prop where
  given : ∀ f ∈ fields, ∀ member ∈ members, member.1 = f.name → f.form (f.get record) member.2
  once : ∀ f ∈ fields, (members.map Prod.fst).count f.name ≤ 1
  missing : ∀ f ∈ fields, f.name ∉ members.map Prod.fst → f.get record = f.get default
  unknown : ∀ member ∈ members, (∀ f ∈ fields, member.1 ≠ f.name) → ValueText member.2

/-- A record, as an object with its fields by name. -/
def RecordText (fields : List (FieldForm α)) (default record : α) (text : Bytes) : Prop :=
  ∃ members, NamedText members text ∧ Gives fields default record members

/-- What is read puts a value into a field and leaves the other fields alone. -/
def Puts (fields : List (FieldForm α)) (f : FieldForm α) (value : f.β) (s : Setting α)
    (source : Source) : Prop :=
  ∀ record, ∃ next, s.read record source = .ok next ∧ f.get next = value ∧
    ∀ g ∈ fields, g.name ≠ f.name → g.get next = g.get record

/-- A setting has the name of a field and reads every text of it. -/
def Serves (fields : List (FieldForm α)) (f : FieldForm α) (s : Setting α) : Prop :=
  s.name = f.name ∧ ∀ value text, f.form value text → Reads text (Puts fields f value s)

/-- Settings serve the fields of a record one by one, and the fields are all there is to it. -/
structure Cover (fields : List (FieldForm α)) (settings : List (Setting α)) : Prop where
  names : (fields.map FieldForm.name).Nodup
  serves : List.Forall₂ (Serves fields) fields settings
  ext : ∀ a b : α, (∀ f ∈ fields, f.get a = f.get b) → a = b

theorem serves_setting {β : Type} {fields : List (FieldForm α)} {name : String} {get : α → β}
    {put : α → β → α} {form : β → Bytes → Prop} {decoder : Decoder β} (h : Decodes decoder form)
    (hget : ∀ record value, get (put record value) = value)
    (hother : ∀ g ∈ fields, g.name ≠ name → ∀ record value, g.get (put record value) = g.get record) :
    Serves fields ⟨name, get, form⟩ (setting name decoder put) := by
  refine ⟨rfl, fun value text hform => (h value text hform).imp fun source hsource record => ?_⟩
  refine ⟨put record value, ?_, hget record value, fun g hg hne => hother g hg hne record value⟩
  exact congrArg (Except.map (put record)) hsource

theorem find?_serves {fields fs : List (FieldForm α)} {settings : List (Setting α)}
    (h : List.Forall₂ (Serves fields) fs settings) (name : String) :
    (∃ s, settings.find? (fun s => s.name = name) = some s ∧
        ∃ f ∈ fs, f.name = name ∧ Serves fields f s) ∨
      settings.find? (fun s => s.name = name) = none ∧ ∀ f ∈ fs, name ≠ f.name := by
  induction h with
  | nil => exact .inr ⟨rfl, nofun⟩
  | @cons f s fs settings hserves _ ih =>
    by_cases hname : s.name = name
    · refine .inl ⟨s, ?_, f, List.mem_cons_self, hserves.1 ▸ hname, hserves⟩
      rw [List.find?_cons_of_pos (by simpa using hname)]
    · rw [List.find?_cons_of_neg (by simpa using hname)]
      rcases ih with ⟨s', hs', f', hf', hname', hserves'⟩ | ⟨hnone, hfs⟩
      · exact .inl ⟨s', hs', f', List.mem_cons_of_mem _ hf', hname', hserves'⟩
      · refine .inr ⟨hnone, List.forall_mem_cons.mpr ⟨?_, hfs⟩⟩
        rintro rfl
        exact hname hserves.1

/-- What the value of a member is like: it puts the value of a record into the field with its name,
and where there is none it can be skipped. -/
def MemberKind (fields : List (FieldForm α)) (settings : List (Setting α)) (record : α) (name : String)
    (source : Source) : Prop :=
  (∃ s, settings.find? (fun s => s.name = name) = some s ∧
      ∃ f ∈ fields, f.name = name ∧ Puts fields f (f.get record) s source) ∨
    settings.find? (fun s => s.name = name) = none ∧ (∀ f ∈ fields, name ≠ f.name) ∧
      source.skipFault? = none

theorem Gives.reads {fields : List (FieldForm α)} {settings : List (Setting α)} {default record : α}
    {members : List (String × Bytes)} (h : Gives fields default record members)
    (hserves : List.Forall₂ (Serves fields) fields settings) {member : String × Bytes}
    (hmember : member ∈ members) :
    Reads member.2 (MemberKind fields settings record member.1) := by
  rcases find?_serves hserves member.1 with ⟨s, hs, f, hf, hname, hserves⟩ | ⟨hnone, hfs⟩
  · refine (hserves.2 _ _ (h.given f hf member hmember hname.symm)).imp fun source hputs => ?_
    exact .inl ⟨s, hs, f, hf, hname, hputs⟩
  · refine (h.unknown member hmember hfs).reads.imp fun source hskip => ?_
    exact .inr ⟨hnone, hfs, hskip⟩

/-- Names that are still to come name each field once at most, and none that has been there. -/
def Fresh (fields : List (FieldForm α)) (names seen : List String) : Prop :=
  ∀ f ∈ fields, names.count f.name ≤ 1 ∧ (f.name ∈ names → f.name ∉ seen)

theorem Fresh.tail {fields : List (FieldForm α)} {name : String} {names seen : List String}
    (h : Fresh fields (name :: names) seen) : Fresh fields names seen := by
  intro f hf
  obtain ⟨hcount, hnew⟩ := h f hf
  rw [List.count_cons] at hcount
  exact ⟨by omega, fun hmem => hnew (List.mem_cons_of_mem _ hmem)⟩

/-- The name of a field does not come again. -/
theorem Fresh.notMem {fields : List (FieldForm α)} {f : FieldForm α} (hf : f ∈ fields)
    {names seen : List String} (h : Fresh fields (f.name :: names) seen) : f.name ∉ names := by
  intro hmem
  have hcount := (h f hf).1
  rw [List.count_cons_self] at hcount
  have := List.count_pos_iff.mpr hmem
  omega

theorem Fresh.push {fields : List (FieldForm α)} {f : FieldForm α} (hf : f ∈ fields)
    {names seen : List String} (h : Fresh fields (f.name :: names) seen) :
    Fresh fields names (f.name :: seen) := by
  intro g hg
  obtain ⟨hcount, hnew⟩ := h.tail g hg
  refine ⟨hcount, fun hmem => ?_⟩
  rw [List.mem_cons, not_or]
  exact ⟨fun heq => h.notMem hf (heq ▸ hmem), hnew hmem⟩

/-- Members put the values of a record into the fields that they name, and no others. -/
theorem recordMembers_shows {fields : List (FieldForm α)} {settings : List (Setting α)}
    (cover : Cover fields settings) {record : α} {names : List String} {read : Members}
    (hshows : read.Shows (names.map fun name =>
      (fun written => written.read = .ok name, MemberKind fields settings record name)))
    {seen : List String} (fresh : Fresh fields names seen) (start : α) :
    ∃ next, recordMembers settings seen start read = .ok next ∧
      ∀ f ∈ fields, f.get next = if f.name ∈ names then f.get record else f.get start := by
  induction names generalizing read seen start with
  | nil =>
    cases hshows
    exact ⟨start, rfl, fun f _ => rfl⟩
  | cons name names ih =>
    cases hshows with
    | @member written _ source rest _ _ hname hkind hrest =>
      have hread : string written = .ok name := by
        rw [string, show written.read = .ok name from hname]
        rfl
      rw [recordMembers, hread]
      rcases hkind with ⟨s, hs, f, hf, rfl, hputs⟩ | ⟨hnone, hfs, hskip⟩
      · have hseen : f.name ∉ seen := (fresh f hf).2 List.mem_cons_self
        obtain ⟨next, hnext, hvalue, hothers⟩ := hputs start
        obtain ⟨final, hfinal, hgets⟩ := ih hrest (fresh.push hf) next
        refine ⟨final, ?_, fun g hg => ?_⟩
        · simp only [hs, hseen, if_false, hnext, hfinal]
        · rw [hgets g hg]
          by_cases hgname : g.name = f.name
          · obtain rfl : g = f := List.inj_on_of_nodup_map cover.names hg hf hgname
            rw [if_neg (fresh.notMem hf), if_pos List.mem_cons_self, hvalue]
          · have hmem : g.name ∈ f.name :: names ↔ g.name ∈ names := by simp [hgname]
            simp only [hmem, hothers g hg hgname]
      · obtain ⟨final, hfinal, hgets⟩ := ih hrest fresh.tail start
        refine ⟨final, ?_, fun g hg => ?_⟩
        · simp only [hnone, hskip, hfinal]
        · have hmem : g.name ∈ name :: names ↔ g.name ∈ names := by simp [(hfs g hg).symm]
          simp only [hgets g hg, hmem]

/-- A record is read from every text that gives it. -/
theorem decodes_record {fields : List (FieldForm α)} {settings : List (Setting α)}
    (cover : Cover fields settings) (name : String) (default : α) :
    Decodes (record name settings default) (RecordText fields default) := by
  rintro value text ⟨members, hnamed, gives⟩
  have hreads : List.Forall₂ (fun member kind => kind.1 = member.1 ∧ Reads member.2 kind.2) members
      (members.map fun member => (member.1, MemberKind fields settings value member.1)) :=
    List.forall₂_map_right_iff.mpr (List.forall₂_same.mpr fun member hmember =>
      ⟨rfl, gives.reads cover.serves hmember⟩)
  refine (Json.reads_named hnamed hreads).imp ?_
  rintro _ ⟨read, rfl, hshows⟩
  have hnames : read.Shows ((members.map Prod.fst).map fun name =>
      (fun written => written.read = .ok name, MemberKind fields settings value name)) := by
    rw [List.map_map] at hshows ⊢
    exact hshows
  have fresh : Fresh fields (members.map Prod.fst) [] :=
    fun f hf => ⟨gives.once f hf, fun _ => List.not_mem_nil⟩
  obtain ⟨next, hnext, hgets⟩ := recordMembers_shows cover hnames fresh default
  have hvalue : next = value := cover.ext next value fun f hf => by
    rw [hgets f hf]
    split
    · rfl
    · rename_i hmissing
      exact (gives.missing f hf hmissing).symm
  rw [record, hnext, hvalue]

end Records

end Document

open Document

/-! ## The settings -/

/-- The fields of the encryption settings, as texts give them. -/
def TlsSettings.formats : List (FieldForm TlsSettings) := [
  ⟨"enabled", (·.enabled), FlagText⟩,
  ⟨"root_certificates", (·.rootCertificates), ListText StringText⟩,
  ⟨"client_certificate", (·.clientCertificate), OptionalText StringText⟩,
  ⟨"client_key", (·.clientKey), OptionalText StringText⟩]

/-- The fields of what the stage introduces itself with, as texts give them. -/
def AuthSettings.formats : List (FieldForm AuthSettings) := [
  ⟨"user", (·.user), OptionalText StringText⟩,
  ⟨"password", (·.password), OptionalText StringText⟩,
  ⟨"token", (·.token), OptionalText StringText⟩,
  ⟨"nkey", (·.nkey), OptionalText StringText⟩,
  ⟨"credentials_file", (·.credentialsFile), OptionalText StringText⟩]

/-- The fields of the connection settings, as texts give them. -/
def ConnectionSettings.formats : List (FieldForm ConnectionSettings) := [
  ⟨"urls", (·.urls), ListText StringText⟩,
  ⟨"name", (·.name), StringText⟩,
  ⟨"inbox_prefix", (·.inboxPrefix), OptionalText StringText⟩,
  ⟨"tls", (·.tls), RecordText TlsSettings.formats {}⟩,
  ⟨"auth", (·.auth), RecordText AuthSettings.formats {}⟩]

/-- The fields of a filter, as texts give them. -/
def FilterSettings.formats : List (FieldForm FilterSettings) := [
  ⟨"include_prefixes", (·.includePrefixes), ListText StringText⟩,
  ⟨"include_patterns", (·.includePatterns), ListText StringText⟩]

/-- The fields of the stage's settings, as texts give them. -/
def StageSettings.formats : List (FieldForm StageSettings) := [
  ⟨"nats", (·.connection), RecordText ConnectionSettings.formats {}⟩,
  ⟨"subject", (·.subject), StringText⟩,
  ⟨"headers", (·.headers), DictText StringText⟩,
  ⟨"metadata", (·.forwarded), RecordText FilterSettings.formats {}⟩,
  ⟨"timeout", (·.timeout), StringText⟩,
  ⟨"max_reply_bytes", (·.maxReplyBytes), OptionalText CountText⟩]

theorem TlsSettings.cover : Cover formats fields := by
  have hpath := decodes_optional (decodes_text .path) nofun
  refine ⟨by decide, ?_, ?_⟩
  · refine .cons (serves_setting decodes_flag ?_ ?_) <|
      .cons (serves_setting (decodes_list (decodes_text .path)) ?_ ?_) <|
      .cons (serves_setting hpath ?_ ?_) <| .cons (serves_setting hpath ?_ ?_) .nil
    all_goals simp [formats]
  · rintro ⟨⟩ ⟨⟩ h
    simp_all [formats]

theorem AuthSettings.cover : Cover formats fields := by
  have htext := decodes_optional (decodes_text .text) nofun
  have hpath := decodes_optional (decodes_text .path) nofun
  refine ⟨by decide, ?_, ?_⟩
  · refine .cons (serves_setting htext ?_ ?_) <| .cons (serves_setting htext ?_ ?_) <|
      .cons (serves_setting htext ?_ ?_) <| .cons (serves_setting htext ?_ ?_) <|
      .cons (serves_setting hpath ?_ ?_) .nil
    all_goals simp [formats]
  · rintro ⟨⟩ ⟨⟩ h
    simp_all [formats]

theorem ConnectionSettings.cover : Cover formats fields := by
  refine ⟨by decide, ?_, ?_⟩
  · refine .cons (serves_setting (decodes_list (decodes_text .text)) ?_ ?_) <|
      .cons (serves_setting (decodes_text .text) ?_ ?_) <|
      .cons (serves_setting (decodes_optional (decodes_text .text) nofun) ?_ ?_) <|
      .cons (serves_setting (decodes_record TlsSettings.cover "TlsConfig" {}) ?_ ?_) <|
      .cons (serves_setting (decodes_record AuthSettings.cover "AuthConfig" {}) ?_ ?_) .nil
    all_goals simp [formats]
  · rintro ⟨⟩ ⟨⟩ h
    simp_all [formats]

theorem FilterSettings.cover : Cover formats fields := by
  have htexts := decodes_list (decodes_text .text)
  refine ⟨by decide, ?_, ?_⟩
  · refine .cons (serves_setting htexts ?_ ?_) <| .cons (serves_setting htexts ?_ ?_) .nil
    all_goals simp [formats]
  · rintro ⟨⟩ ⟨⟩ h
    simp_all [formats]

theorem StageSettings.cover : Cover formats fields := by
  refine ⟨by decide, ?_, ?_⟩
  · refine .cons (serves_setting (decodes_record ConnectionSettings.cover "NatsConfig" {}) ?_ ?_) <|
      .cons (serves_setting (decodes_text .text) ?_ ?_) <|
      .cons (serves_setting (decodes_dict (decodes_text .text)) ?_ ?_) <|
      .cons (serves_setting (decodes_record FilterSettings.cover "MetadataFilterConfig" {}) ?_ ?_) <|
      .cons (serves_setting (decodes_text .text) ?_ ?_) <|
      .cons (serves_setting (decodes_optional decodes_count nofun) ?_ ?_) .nil
    all_goals simp [formats]
  · rintro ⟨⟩ ⟨⟩ h
    simp_all [formats]

/-- A JSON text that gives the stage's settings, with white space around the object. -/
def StageSettings.JsonText (c : StageSettings) (text : Bytes) : Prop :=
  ∃ before object after, Space before ∧ RecordText formats {} c object ∧ Space after ∧
    text = before ++ (object ++ after)

/-- The stage's settings are read from every text that gives them. -/
theorem StageSettings.ofJson_of_text {c : StageSettings} {text : Bytes} (h : c.JsonText text) :
    ofJson text = .ok c := by
  obtain ⟨before, object, after, hbefore, hobject, hafter, rfl⟩ := h
  have hreads : Json.Reads object fun source => decoder source = .ok c :=
    decodes_record cover "RequestReplyConfig" {} c object hobject
  obtain ⟨root, hdocument, hroot⟩ := Json.Document.ofBytes_text hbefore hreads hafter
  rw [ofJson, decode, hdocument]
  simp only [hroot]
  rfl

/-- For instance, settings in an order of their own, with fields that are missing at two levels and
others that mean nothing. -/
def reorderedText : Bytes := Text.Utf8.encode
  (" \x7b\"timeout\":\"5s\",\"since\":[2024,null],\"nats\":\x7b\"tls\":\x7b\"enabled\":true\x7d," ++
    "\"zone\":-1.5e3,\"name\":\"edge\"\x7d,\"max_reply_bytes\":1024,\"headers\":\x7b\"X-A\":\"1\"\x7d," ++
    "\"subject\":\"orders.new\"\x7d\n")

theorem StageSettings.ofJson_of_text_reordered :
    let c : StageSettings := {
      connection := { name := "edge", tls := { enabled := true } }
      subject := "orders.new"
      headers := .ofList [("X-A", "1")]
      timeout := "5s"
      maxReplyBytes := some 1024 }
    c.JsonText reorderedText ∧ ofJson reorderedText = .ok c := by
  intro c
  have hnull : Json.ValueText [0x6E, 0x75, 0x6C, 0x6C] := .null
  have hyear : Json.ValueText [0x32, 0x30, 0x32, 0x34] := .number
    ⟨[], [0x32, 0x30, 0x32, 0x34], [], [], .inl rfl,
      ⟨⟨List.cons_ne_nil _ _, by simp [Json.digitValue?]⟩, by simp⟩, .inl rfl, .inl rfl, rfl⟩
  have hsince : Json.ValueText
      (Json.arrayBytes [[0x32, 0x30, 0x32, 0x34], [0x6E, 0x75, 0x6C, 0x6C]]) :=
    .array (by simp [hyear, hnull]) (Json.arrayText_arrayBytes _)
  have hzone : Json.ValueText [0x2D, 0x31, 0x2E, 0x35, 0x65, 0x33] := .number
    ⟨[0x2D], [0x31], [0x2E, 0x35], [0x65, 0x33], .inr rfl,
      ⟨⟨List.cons_ne_nil _ _, by simp [Json.digitValue?]⟩, by simp⟩,
      .inr ⟨[0x35], ⟨List.cons_ne_nil _ _, by simp [Json.digitValue?]⟩, rfl⟩,
      .inr ⟨0x65, [], [0x33], .inl rfl, .inl rfl,
        ⟨List.cons_ne_nil _ _, by simp [Json.digitValue?]⟩, rfl⟩, rfl⟩
  have hlimit : CountText 1024 [0x31, 0x30, 0x32, 0x34] := by
    have hdigits : Json.Decimal ([0x31] ++ [0x30] ++ [0x32] ++ [0x34])
        (((1 * 10 + 0) * 10 + 2) * 10 + 4) :=
      .more (.more (.more (.digit rfl) rfl) rfl) rfl
    exact ⟨by decide, ⟨⟨List.cons_ne_nil _ _, by simp [Json.digitValue?]⟩, by simp⟩, hdigits⟩
  have hstring := Json.stringText_quoteBytes
  let tls : List (String × Bytes) := [("enabled", [0x74, 0x72, 0x75, 0x65])]
  have htls : RecordText TlsSettings.formats {} c.connection.tls (Json.objectBytes tls) := by
    refine ⟨tls, Json.namedText_objectBytes tls, ?_, ?_, ?_, ?_⟩
    · simp [tls, TlsSettings.formats, FlagText, c]
    · simp [tls, TlsSettings.formats]
    · simp [tls, TlsSettings.formats, c]
    · simp [tls, TlsSettings.formats]
  let connection : List (String × Bytes) := [("tls", Json.objectBytes tls),
    ("zone", [0x2D, 0x31, 0x2E, 0x35, 0x65, 0x33]), ("name", Json.quoteBytes "edge")]
  have hconnection : RecordText ConnectionSettings.formats {} c.connection
      (Json.objectBytes connection) := by
    refine ⟨connection, Json.namedText_objectBytes connection, ?_, ?_, ?_, ?_⟩
    · simp [connection, ConnectionSettings.formats, htls, hstring, c]
    · simp [connection, ConnectionSettings.formats]
    · simp [connection, ConnectionSettings.formats, c]
    · simp [connection, ConnectionSettings.formats, hzone]
  let headers : List (String × Bytes) := [("X-A", Json.quoteBytes "1")]
  have hheaders : DictText StringText c.headers (Json.objectBytes headers) :=
    ⟨[("X-A", "1")], headers, Json.namedText_objectBytes headers, .cons ⟨rfl, hstring "1"⟩ .nil, rfl⟩
  let stage : List (String × Bytes) := [("timeout", Json.quoteBytes "5s"),
    ("since", Json.arrayBytes [[0x32, 0x30, 0x32, 0x34], [0x6E, 0x75, 0x6C, 0x6C]]),
    ("nats", Json.objectBytes connection), ("max_reply_bytes", [0x31, 0x30, 0x32, 0x34]),
    ("headers", Json.objectBytes headers), ("subject", Json.quoteBytes "orders.new")]
  have hstage : RecordText StageSettings.formats {} c (Json.objectBytes stage) := by
    refine ⟨stage, Json.namedText_objectBytes stage, ?_, ?_, ?_, ?_⟩
    · simp [stage, StageSettings.formats, OptionalText, hconnection, hstring, hheaders, hlimit, c]
    · simp [stage, StageSettings.formats]
    · simp [stage, StageSettings.formats, c]
    · simp [stage, StageSettings.formats, hsince]
  have htext : c.JsonText reorderedText :=
    ⟨[0x20], Json.objectBytes stage, [0x0A], List.forall_mem_singleton.mpr rfl, hstage,
      List.forall_mem_singleton.mpr rfl, by decide +kernel⟩
  exact ⟨htext, ofJson_of_text htext⟩

/-! ## All settings have a text -/

theorem exists_stringText (s : String) : ∃ text, StringText s text :=
  ⟨_, Json.stringText_quoteBytes s⟩

theorem exists_optionalText {α : Type} {form : α → Bytes → Prop} (value? : Option α)
    (h : ∀ value, value? = some value → ∃ text, form value text) :
    ∃ text, OptionalText form value? text := by
  cases value? with
  | none => exact ⟨_, rfl⟩
  | some value => exact h value rfl

theorem exists_listText {α : Type} {form : α → Bytes → Prop}
    (h : ∀ value, ∃ text, form value text) (values : List α) :
    ∃ text, ListText form values text := by
  choose texts htexts using h
  exact ⟨_, values.map texts, Json.arrayText_arrayBytes _,
    List.forall₂_map_right_iff.mpr (List.forall₂_same.mpr fun value _ => htexts value)⟩

theorem exists_dictText {α : Type} {form : α → Bytes → Prop}
    (h : ∀ value, ∃ text, form value text) (d : Dict α) : ∃ text, DictText form d text := by
  choose texts htexts using h
  exact ⟨_, d.entries, d.entries.map fun entry => (entry.1, texts entry.2),
    Json.namedText_objectBytes _, List.forall₂_map_right_iff.mpr
      (List.forall₂_same.mpr fun entry _ => ⟨rfl, htexts entry.2⟩), d.ofList_entries⟩

/-- A record has a text that gives all of its fields. -/
theorem exists_recordText {α : Type} {fields : List (FieldForm α)}
    (names : (fields.map FieldForm.name).Nodup) (default record : α)
    (h : ∀ f ∈ fields, ∃ text, f.form (f.get record) text) :
    ∃ text, RecordText fields default record text := by
  choose! texts htexts using h
  refine ⟨_, fields.map fun f => (f.name, texts f), Json.namedText_objectBytes _, ?_⟩
  have hnames : (fields.map fun f => (f.name, texts f)).map Prod.fst = fields.map FieldForm.name := by
    rw [List.map_map]
    rfl
  refine ⟨fun f hf member hmember hname => ?_, fun f hf => ?_, fun f hf hmissing => ?_,
    fun member hmember hunknown => ?_⟩
  · obtain ⟨g, hg, rfl⟩ := List.mem_map.mp hmember
    obtain rfl : g = f := List.inj_on_of_nodup_map names hg hf hname
    exact htexts g hg
  · rw [hnames]
    exact List.nodup_iff_count_le_one.mp names f.name
  · rw [hnames] at hmissing
    exact absurd (List.mem_map_of_mem hf) hmissing
  · obtain ⟨g, hg, rfl⟩ := List.mem_map.mp hmember
    exact absurd rfl (hunknown g hg)

/-- There is a text for all settings of a stage whose limit is a number of 64 bits. -/
theorem StageSettings.exists_jsonText (c : StageSettings)
    (hlimit : ∀ limit, c.maxReplyBytes = some limit → limit ≤ Text.maxWord) :
    ∃ text, c.JsonText text := by
  have htext? := fun value? : Option String =>
    exists_optionalText value? fun value _ => exists_stringText value
  have htexts := exists_listText exists_stringText
  have hflag : ∀ b, ∃ text, FlagText b text := by
    rintro (_ | _)
    · exact ⟨_, rfl⟩
    · exact ⟨_, rfl⟩
  have hcount : ∃ text, OptionalText CountText c.maxReplyBytes text := by
    refine exists_optionalText _ fun limit h => ?_
    obtain ⟨text, hwhole, hdecimal⟩ := Json.exists_wholeText limit
    exact ⟨text, hlimit limit h, hwhole, hdecimal⟩
  have htls : ∀ tls : TlsSettings, ∃ text, RecordText TlsSettings.formats {} tls text :=
    fun tls => exists_recordText TlsSettings.cover.names _ _ (by
      simp [TlsSettings.formats, hflag, htexts, htext?])
  have hauth : ∀ auth : AuthSettings, ∃ text, RecordText AuthSettings.formats {} auth text :=
    fun auth => exists_recordText AuthSettings.cover.names _ _ (by
      simp [AuthSettings.formats, htext?])
  have hconnection : ∃ text, RecordText ConnectionSettings.formats {} c.connection text :=
    exists_recordText ConnectionSettings.cover.names _ _ (by
      simp [ConnectionSettings.formats, htexts, exists_stringText, htext?, htls, hauth])
  have hforwarded : ∃ text, RecordText FilterSettings.formats {} c.forwarded text :=
    exists_recordText FilterSettings.cover.names _ _ (by simp [FilterSettings.formats, htexts])
  obtain ⟨object, hobject⟩ : ∃ text, RecordText formats {} c text :=
    exists_recordText cover.names _ _ (by
      simp [formats, hconnection, exists_stringText, exists_dictText exists_stringText, hforwarded,
        hcount])
  exact ⟨[] ++ (object ++ []), [], object, [], nofun, hobject, nofun, rfl⟩

end ReplyStage
