import ReplyStage.Proofs.Dict
import ReplyStage.Proofs.Results
import ReplyStage.Proofs.Text.Integer
import ReplyStage.Settings.Variables
/-!
# Settings that come back from the environment

Which settings environment variables can carry (`Portable`), and that reading gives them back as
they were written, whatever variables with a default are left out (`CarriedBy.ofEnvironment`). Each
kind of variable has one lemma: what is read where the variable is held.
-/

namespace ReplyStage

open Text (IsItem)

/-! ## Variables that are held -/

namespace Environment

/-- A variable is set to its text, or it is not set and need not be. -/
def Holds (env : Environment) (v : Variable) : Prop :=
  env.text? v.key = some v.text ∨ (v.isDefault = true ∧ env.text? v.key = none)

variable {env : Environment} {key : String}

theorem optional_of_text {value : String} (h : env.text? key = some value)
    (hblank : Text.isBlankText value = false) : env.optional key = some value := by
  simp [optional, h, hblank]

theorem optional_of_unset (h : env.text? key = none) : env.optional key = none := by
  simp [optional, h]

theorem optional_of_empty (h : env.text? key = some "") : env.optional key = none := by
  have hblank : Text.isBlankText "" = true := by decide
  simp [optional, h, hblank]

theorem holds_ofText {default text : String} :
    env.Holds (.ofText key default text) ↔
      env.text? key = some text ∨ (text = default ∧ env.text? key = none) := by
  simp [Holds, Variable.ofText]

theorem holds_ofOption {value : Option String} :
    env.Holds (.ofOption key value) ↔
      env.text? key = some (value.getD "") ∨ (value = none ∧ env.text? key = none) := by
  simp [Holds, Variable.ofOption]

theorem holds_ofItems {separator : Char} {values default : List String} :
    env.Holds (.ofItems key separator values default) ↔
      env.text? key = some (Text.join separator values) ∨
        (values = default ∧ env.text? key = none) := by
  simp [Holds, Variable.ofItems]

theorem Holds.orDefault {default text : String} (h : env.Holds (.ofText key default text)) :
    env.orDefault key default = text := by
  unfold Environment.orDefault
  rcases holds_ofText.mp h with h | ⟨rfl, hunset⟩
  · rw [h]
    rfl
  · rw [hunset]
    rfl

theorem Holds.optional {value : Option String} (h : env.Holds (.ofOption key value))
    (hblank : ConnectionSettings.isGivenBlank value = false) : env.optional key = value := by
  cases value with
  | none =>
    rcases holds_ofOption.mp h with h | ⟨-, h⟩
    · exact optional_of_empty h
    · exact optional_of_unset h
  | some text =>
    rcases holds_ofOption.mp h with h | ⟨hnone, -⟩
    · exact optional_of_text h hblank
    · cases hnone

/-- A list comes back, or it is the default and the variable is not set. -/
theorem Holds.items {separator : Char} {values default : List String}
    (h : env.Holds (.ofItems key separator values default))
    (hvalues : ∀ value ∈ values, IsItem separator value) :
    env.items key separator = values ∨
      (values = default ∧ env.text? key = none ∧ env.items key separator = []) := by
  unfold Environment.items
  rcases holds_ofItems.mp h with h | ⟨hdefault, h⟩
  · left
    by_cases hne : values = []
    · subst hne
      rw [optional_of_empty h]
    · rw [optional_of_text h (Text.isBlankText_join hne hvalues)]
      exact Text.items_join hvalues
  · right
    rw [optional_of_unset h]
    exact ⟨hdefault, h, rfl⟩

theorem Holds.items_of_nil {separator : Char} {values : List String}
    (h : env.Holds (.ofItems key separator values []))
    (hvalues : ∀ value ∈ values, IsItem separator value) : env.items key separator = values := by
  rcases h.items hvalues with hitems | ⟨hnil, -, hitems⟩
  · exact hitems
  · rw [hitems, hnil]

theorem holds_ofFlag {value : Bool} :
    env.Holds (.ofFlag key value) ↔
      env.text? key = some (if value then "true" else "false") ∨
        (value = false ∧ env.text? key = none) := by
  simp [Holds, Variable.ofFlag]

theorem flag_of_text {text : String} {value : Bool} (h : env.text? key = some text)
    (hblank : Text.isBlankText text = false)
    (hword : truth? ((Text.trim text).map Char.toLower) = some value) (default : Bool) :
    env.flag key default = .ok value := by
  unfold flag
  rw [optional_of_text h hblank]
  simp only [hword]

theorem Holds.flag {value : Bool} (h : env.Holds (.ofFlag key value)) :
    env.flag key false = .ok value := by
  rcases holds_ofFlag.mp h with h | ⟨rfl, hunset⟩
  · cases value with
    | false => exact flag_of_text h (by decide) (by decide +kernel) false
    | true => exact flag_of_text h (by decide) (by decide +kernel) false
  · unfold Environment.flag
    rw [optional_of_unset hunset]

end Environment

/-! ## Connection settings -/

namespace ConnectionSettings

/-- Connection settings that variables can carry: the texts of lists are items, optional texts are
not blank, and what has to be given together is. -/
structure Portable (c : ConnectionSettings) : Prop where
  urls_ne_nil : c.urls ≠ []
  urls : ∀ url ∈ c.urls, IsItem ',' url
  inboxPrefix : isGivenBlank c.inboxPrefix = false
  rootCertificates : ∀ path ∈ c.tls.rootCertificates, IsItem ',' path
  clientCertificate : isGivenBlank c.tls.clientCertificate = false
  clientKey : isGivenBlank c.tls.clientKey = false
  user : isGivenBlank c.auth.user = false
  password : isGivenBlank c.auth.password = false
  token : isGivenBlank c.auth.token = false
  nkey : isGivenBlank c.auth.nkey = false
  credentialsFile : isGivenBlank c.auth.credentialsFile = false
  certificate_iff_key : c.tls.clientCertificate.isSome = c.tls.clientKey.isSome
  user_of_password : c.auth.password.isSome = true → c.auth.user.isSome = true

/-- An environment that carries connection settings. Nothing else tells a server where the variable
for servers is left out. -/
structure CarriedBy (c : ConnectionSettings) (env : Environment) : Prop where
  holds : ∀ v ∈ c.toVariables, env.Holds v
  url : env.text? "NATS_URLS" = none → env.text? "NATS_URL" = none

variable {c : ConnectionSettings} {env : Environment}

theorem Portable.validate (h : c.Portable) : c.validate = .ok () := by
  unfold ConnectionSettings.validate
  have hurls : c.serverUrls ≠ [] := by
    rw [serverUrls, Text.flatMap_items_of_isItem h.urls]
    exact h.urls_ne_nil
  have hpassword : ¬ (c.auth.password.isSome = true ∧ c.auth.user.isNone = true) := by
    rintro ⟨hgiven, hnone⟩
    have huser := h.user_of_password hgiven
    rw [Option.isNone_iff_eq_none.mp hnone] at huser
    cases huser
  rw [if_neg hurls, if_neg (by simp [h.inboxPrefix]), if_neg (not_not.mpr h.certificate_iff_key),
    if_neg hpassword]

theorem CarriedBy.urlsOf (h : c.CarriedBy env) (hc : c.Portable) : urlsOf env = c.urls := by
  have hholds := h.holds (.ofItems "NATS_URLS" ',' c.urls [defaultUrl]) List.mem_cons_self
  unfold ConnectionSettings.urlsOf
  rcases hholds.items hc.urls with hitems | ⟨hdefault, hunset, hitems⟩
  · rw [hitems]
    split
    · rename_i hnil
      exact absurd hnil hc.urls_ne_nil
    · rfl
  · rw [hitems, hdefault, Environment.orDefault, h.url hunset]
    rfl

theorem CarriedBy.read (h : c.CarriedBy env) (hc : c.Portable) : read env = .ok c := by
  have hurls := h.urlsOf hc
  have hall := h.holds
  simp only [toVariables, List.forall_mem_cons] at hall
  obtain ⟨-, hname, hinbox, hflag, hroots, hcertificate, hkey, huser, hpassword, htoken, hnkey,
    hfile, -⟩ := hall
  unfold ConnectionSettings.read
  rw [hflag.flag, hurls, hname.orDefault, hinbox.optional hc.inboxPrefix,
    hroots.items_of_nil hc.rootCertificates, hcertificate.optional hc.clientCertificate,
    hkey.optional hc.clientKey, huser.optional hc.user, hpassword.optional hc.password,
    htoken.optional hc.token, hnkey.optional hc.nkey, hfile.optional hc.credentialsFile]
  rfl

/-- Connection settings come back from an environment that carries them. -/
theorem CarriedBy.ofEnvironment (h : c.CarriedBy env) (hc : c.Portable) :
    ofEnvironment env = .ok c := by
  unfold ConnectionSettings.ofEnvironment
  rw [h.read hc]
  show (do c.validate; pure c) = _
  rw [hc.validate]
  rfl

end ConnectionSettings

/-! ## Stage settings -/

namespace StageSettings

/-- Names of headers that variables can carry. -/
structure PortableName (name : String) : Prop where
  trimmed : Text.trim name = name
  whole : ';' ∉ name.toList
  no_equals : '=' ∉ name.toList

instance (name : String) : Decidable (PortableName name) :=
  decidable_of_iff (Text.trim name = name ∧ ';' ∉ name.toList ∧ '=' ∉ name.toList)
    ⟨fun ⟨h, h', h''⟩ => ⟨h, h', h''⟩, fun ⟨h, h', h''⟩ => ⟨h, h', h''⟩⟩

/-- Templates of headers that variables can carry. -/
structure PortableTemplate (template : String) : Prop where
  trimmed : Text.trim template = template
  whole : ';' ∉ template.toList

instance (template : String) : Decidable (PortableTemplate template) :=
  decidable_of_iff (Text.trim template = template ∧ ';' ∉ template.toList)
    ⟨fun ⟨h, h'⟩ => ⟨h, h'⟩, fun ⟨h, h'⟩ => ⟨h, h'⟩⟩

/-- Stage settings that variables can carry. -/
structure Portable (c : StageSettings) : Prop where
  connection : c.connection.Portable
  headerNames : ∀ header ∈ c.headers.entries, PortableName header.1
  headerTemplates : ∀ header ∈ c.headers.entries, PortableTemplate header.2
  prefixes : ∀ text ∈ c.forwarded.includePrefixes, IsItem ',' text
  patterns : ∀ text ∈ c.forwarded.includePatterns, IsItem ',' text
  maxReplyBytes : ∀ limit, c.maxReplyBytes = some limit → limit ≤ Text.maxWord

/-- An environment that carries stage settings. Nothing else tells a server where the variable for
servers is left out. -/
structure CarriedBy (c : StageSettings) (env : Environment) : Prop where
  holds : ∀ v ∈ c.toVariables, env.Holds v
  url : env.text? "NATS_URLS" = none → env.text? "NATS_URL" = none

variable {c : StageSettings} {env : Environment}

/-! ### Headers -/

theorem toList_writeHeader (name template : String) :
    (writeHeader (name, template)).toList = name.toList ++ '=' :: template.toList := by
  simp [writeHeader]

theorem isItem_writeHeader {name template : String} (hname : PortableName name)
    (htemplate : PortableTemplate template) : IsItem ';' (writeHeader (name, template)) where
  trimmed := by
    rw [Text.trim_eq_self_iff, toList_writeHeader]
    constructor
    · intro c hc
      cases hn : name.toList with
      | nil =>
        rw [hn] at hc
        cases hc
        decide
      | cons first rest =>
        rw [hn] at hc
        cases hc
        exact (Text.trim_eq_self_iff.mp hname.trimmed).1 c (by rw [hn]; rfl)
    · intro c hc
      rw [List.getLast?_append_cons] at hc
      cases ht : template.toList with
      | nil =>
        rw [ht] at hc
        cases hc
        decide
      | cons first rest =>
        rw [ht, List.getLast?_cons_cons] at hc
        exact (Text.trim_eq_self_iff.mp htemplate.trimmed).2 c (by rwa [ht])
  ne_empty := by
    intro hempty
    have hlist := toList_writeHeader name template
    rw [hempty] at hlist
    simp at hlist
  whole := by
    rw [toList_writeHeader, List.mem_append, List.mem_cons]
    rintro (hmem | hequals | hmem)
    · exact hname.whole hmem
    · cases hequals
    · exact htemplate.whole hmem

theorem splitFirst?_writeHeader {name : String} (h : '=' ∉ name.toList) (template : String) :
    Text.splitFirst? '=' (writeHeader (name, template)) = some (name, template) := by
  have hname : ∀ c ∈ name.toList, decide (c ≠ '=') = true := by
    intro c hc
    simpa using ne_of_mem_of_not_mem hc h
  have hrest : ('=' :: template.toList).dropWhile (· ≠ '=') = '=' :: template.toList := rfl
  have hfront : ('=' :: template.toList).takeWhile (· ≠ '=') = [] := rfl
  unfold Text.splitFirst?
  rw [toList_writeHeader, List.dropWhile_append_of_pos hname, List.takeWhile_append_of_pos hname,
    hrest, hfront]
  simp

theorem readHeader_writeHeader {name template : String} (hname : PortableName name)
    (htemplate : PortableTemplate template) :
    readHeader (writeHeader (name, template)) = .ok (name, template) := by
  unfold readHeader
  rw [splitFirst?_writeHeader hname.no_equals]
  simp only [hname.trimmed, htemplate.trimmed]

theorem readHeaders_writeHeader {headers : List (String × String)}
    (hnames : ∀ header ∈ headers, PortableName header.1)
    (htemplates : ∀ header ∈ headers, PortableTemplate header.2) :
    readHeaders (headers.map writeHeader) = .ok headers := by
  induction headers with
  | nil => rfl
  | cons header rest ih =>
    have hrest := ih (fun other hother => hnames other (List.mem_cons_of_mem _ hother))
      (fun other hother => htemplates other (List.mem_cons_of_mem _ hother))
    rw [List.map_cons, readHeaders, readHeader_writeHeader (hnames header List.mem_cons_self)
      (htemplates header List.mem_cons_self), hrest]
    rfl

/-! ### All settings -/

theorem maxReplyBytesOf_eq
    (h : env.Holds (.ofOption "REQUEST_REPLY_MAX_REPLY_BYTES" (c.maxReplyBytes.map toString)))
    (hlimit : ∀ limit, c.maxReplyBytes = some limit → limit ≤ Text.maxWord) :
    maxReplyBytesOf env = .ok c.maxReplyBytes := by
  unfold maxReplyBytesOf
  cases hmax : c.maxReplyBytes with
  | none =>
    rw [hmax] at h
    rw [h.optional rfl]
    rfl
  | some limit =>
    rw [hmax] at h
    rw [h.optional (Text.isBlankText_toString limit)]
    simp only [Option.map_some, Environment.number, Text.trim_toString,
      Text.readNat_toString (hlimit limit hmax)]
    rfl

theorem CarriedBy.connection (h : c.CarriedBy env) : c.connection.CarriedBy env where
  holds := fun v hv => h.holds v (List.mem_append_left _ hv)
  url := h.url

/-- Stage settings come back from an environment that carries them. -/
theorem CarriedBy.ofEnvironment (h : c.CarriedBy env) (hc : c.Portable) :
    ofEnvironment env = .ok c := by
  have hconnection := h.connection.ofEnvironment hc.connection
  have hall := fun v hv => h.holds v (List.mem_append_right _ hv)
  simp only [List.forall_mem_cons] at hall
  obtain ⟨hsubject, hheaders, hprefixes, hpatterns, htimeout, hmax, -⟩ := hall
  have hitems : ∀ text ∈ c.headers.entries.map writeHeader, IsItem ';' text := by
    intro text htext
    obtain ⟨header, hheader, rfl⟩ := List.mem_map.mp htext
    exact isItem_writeHeader (hc.headerNames header hheader) (hc.headerTemplates header hheader)
  have hrequired : env.required "REQUEST_REPLY_SUBJECT" = .ok c.subject := by
    rcases hsubject with hset | ⟨hdefault, -⟩
    · rw [Environment.required, hset]
    · cases hdefault
  unfold StageSettings.ofEnvironment
  rw [hconnection, hrequired, hheaders.items_of_nil hitems,
    readHeaders_writeHeader hc.headerNames hc.headerTemplates,
    maxReplyBytesOf_eq hmax hc.maxReplyBytes, hprefixes.items_of_nil hc.prefixes,
    hpatterns.items_of_nil hc.patterns, htimeout.orDefault]
  show Except.ok _ = _
  rw [Dict.ofList_entries]

/-! ### What is written -/

/-- The keys of the variables of settings. -/
def variableKeys : List String := ["NATS_URLS", "NATS_CONNECTION_NAME", "NATS_INBOX_PREFIX",
  "NATS_TLS_ENABLED", "NATS_TLS_ROOT_CAS", "NATS_TLS_CLIENT_CERT", "NATS_TLS_CLIENT_KEY",
  "NATS_USER", "NATS_PASSWORD", "NATS_TOKEN", "NATS_NKEY", "NATS_CREDENTIALS_FILE",
  "REQUEST_REPLY_SUBJECT", "REQUEST_REPLY_HEADERS", "REQUEST_REPLY_METADATA_PREFIXES",
  "REQUEST_REPLY_METADATA_PATTERNS", "REQUEST_REPLY_TIMEOUT", "REQUEST_REPLY_MAX_REPLY_BYTES"]

theorem key_toVariables (c : StageSettings) : c.toVariables.map Variable.key = variableKeys := rfl

theorem nodup_variableKeys : variableKeys.Nodup := by decide

/-- What is not left out. -/
def written (c : StageSettings) (omitted : String → Bool) : List Variable :=
  c.toVariables.filter fun v => !(v.isDefault && omitted v.key)

theorem nodup_keys_toVariables (c : StageSettings) : (c.toVariables.map Variable.key).Nodup := by
  rw [key_toVariables]
  exact nodup_variableKeys

theorem nodup_keys_written (c : StageSettings) (omitted : String → Bool) :
    (((c.written omitted).map fun v => (v.key, v.text)).map Prod.fst).Nodup := by
  rw [List.map_map]
  exact c.nodup_keys_toVariables.sublist (List.filter_sublist.map Variable.key)

theorem text?_toEnvironment (c : StageSettings) (omitted : String → Bool) (key : String) :
    (c.toEnvironment omitted).text? key =
      lookupEntry key ((c.written omitted).map fun v => (v.key, v.text)) := by
  have hget := Dict.get?_insertAll (c.nodup_keys_written omitted) .empty key
  rwa [Dict.get?_empty, Option.or_none] at hget

theorem text?_toEnvironment_eq_none {omitted : String → Bool} {key : String}
    (h : ∀ v ∈ c.written omitted, v.key ≠ key) : (c.toEnvironment omitted).text? key = none := by
  rw [text?_toEnvironment]
  apply lookupEntry_eq_none
  rw [List.map_map]
  intro hmem
  obtain ⟨v, hv, hkey⟩ := List.mem_map.mp hmem
  exact h v hv hkey

/-- Whatever is left out, the environment carries the settings. -/
theorem carriedBy_toEnvironment (c : StageSettings) (omitted : String → Bool) :
    c.CarriedBy (c.toEnvironment omitted) where
  holds := by
    intro v hv
    by_cases hkept : v ∈ c.written omitted
    · left
      rw [text?_toEnvironment]
      exact lookupEntry_of_mem (c.nodup_keys_written omitted) (List.mem_map_of_mem hkept)
    · right
      have homitted : v.isDefault = true ∧ omitted v.key = true := by
        simpa [written, hv] using hkept
      refine ⟨homitted.1, text?_toEnvironment_eq_none fun other hother hkey => ?_⟩
      have hsame : other = v :=
        List.inj_on_of_nodup_map c.nodup_keys_toVariables (List.mem_of_mem_filter hother) hv hkey
      rw [hsame] at hother
      exact hkept hother
  url := by
    intro _
    apply text?_toEnvironment_eq_none
    intro v hv hkey
    have hmem : v.key ∈ variableKeys := by
      rw [← key_toVariables c]
      exact List.mem_map_of_mem (List.mem_of_mem_filter hv)
    rw [hkey] at hmem
    exact absurd hmem (by decide)

/-- Settings that variables can carry come back from the variables that they are written to. -/
theorem ofEnvironment_toEnvironment (h : c.Portable) :
    -- whatever is left out of what need not be set,
    (∀ omitted, ofEnvironment (c.toEnvironment omitted) = .ok c) ∧
    -- and whatever else is set next to them
    ∀ env, c.CarriedBy env → ofEnvironment env = .ok c := by
  constructor
  · intro omitted
    exact (c.carriedBy_toEnvironment omitted).ofEnvironment h
  · intro env hcarried
    exact hcarried.ofEnvironment h

/-- For instance, several servers, a certificate with its key, and templates with equals signs. -/
def northSettings : StageSettings where
  connection := {
    urls := ["nats://a:4222", "nats://b:4222"]
    inboxPrefix := some "_INBOX north"
    tls := ⟨true, ["/ca.pem"], some "/north.pem", some "/north.key"⟩
    auth := { user := some "north", password := some " p;a,s=s " } }
  subject := "orders.$\x7b! json(\"id\") \x7d"
  headers := .ofList [("", ""), ("X-Query", "a=b,$\x7b! meta(\"q\") \x7d")]
  forwarded := { includePrefixes := ["trace_"] }
  maxReplyBytes := some 1024

theorem ofEnvironment_toEnvironment_northSettings :
    northSettings.Portable ∧
      ofEnvironment (northSettings.toEnvironment fun _ => true) = .ok northSettings := by
  have hconnection : northSettings.connection.Portable := by constructor <;> decide
  have hlimit : ∀ limit, northSettings.maxReplyBytes = some limit → limit ≤ Text.maxWord := by
    rintro _ ⟨⟩
    decide
  have hportable : northSettings.Portable :=
    ⟨hconnection, by decide, by decide, by decide, by decide, hlimit⟩
  exact ⟨hportable, (ofEnvironment_toEnvironment hportable).1 _⟩

end StageSettings

/-! ## Settings of the pipe -/

/-- Some request may always be under way. -/
theorem PipeSettings.concurrency_pos {env : Environment} {pipe : PipeSettings}
    (h : ofEnvironment env = .ok pipe) : 1 ≤ pipe.concurrency := by
  obtain ⟨concurrency, hconcurrency, hport⟩ := bind_ok h
  obtain ⟨port, -, hpipe⟩ := bind_ok hport
  cases hpipe
  obtain ⟨value, -, hvalue⟩ := bind_ok hconcurrency
  split at hvalue
  · cases hvalue
  · cases hvalue
    exact Nat.one_le_iff_ne_zero.2 ‹_›

end ReplyStage
