import ReplyStage.Proofs.Stage.Setup
import ReplyStage.Stage.Connect
/-!
# Which settings make a stage

The conditions on settings stand in many places: the connection has its own, templates are checked
before they are compiled, and patterns are read last. `StageSettings.Sound` has them all in one
place. `ofSettings_iff_sound` says that a stage is set up exactly from sound settings, and that all
others are reported as such before the network is used. The lemmas before it take the checks one at
a time.
-/

namespace ReplyStage

/-- What a stage needs of its settings, and the time to wait that they give. -/
structure StageSettings.Sound (c : StageSettings) (wait : Duration) : Prop where
  servers : c.connection.serverUrls ≠ []
  addresses : ∀ url ∈ c.connection.serverUrls, ∃ address, ServerAddress.ofText url = .ok address
  inbox : ∀ start, c.connection.inboxPrefix = some start → Text.isBlankText start = false
  certificate : c.connection.tls.clientCertificate.isSome = c.connection.tls.clientKey.isSome
  password : c.connection.auth.password.isSome = true → c.connection.auth.user.isSome = true
  subject : Text.isBlankText c.subject = false
  subjectCompiles : ∃ template, Template.compile c.subject = .ok template
  headerNames : ∀ header ∈ c.headers.entries, Text.isBlankText header.1 = false
  headersCompile : ∀ header ∈ c.headers.entries, ∃ template, Template.compile header.2 = .ok template
  patterns : ∀ text ∈ c.forwarded.includePatterns, ∃ pattern, Pattern.ofText? text = some pattern
  timeout : Duration.ofText (Text.trim c.timeout) = .ok wait
  positive : 0 < wait.nanos

/-- Settings that pass the checks and whose patterns can be read are sound. -/
theorem StageSettings.sound_iff {c : StageSettings} {wait : Duration} :
    c.Sound wait ↔ c.validate = .ok wait ∧
      ∀ text ∈ c.forwarded.includePatterns, ∃ pattern, Pattern.ofText? text = some pattern := by
  rw [validate_eq_ok_iff, checkConnection_eq_ok_iff, ConnectionSettings.validate_eq_ok_iff,
    ConnectionSettings.addresses, ConnectionSettings.readUrls_eq_ok_iff, checkSubject_eq_ok_iff,
    checkHeaders_eq_ok_iff, waitTime_eq_ok_iff]
  constructor
  · intro h
    exact ⟨⟨⟨⟨h.servers, h.inbox, h.certificate, h.password⟩, h.addresses⟩,
      ⟨h.subject, h.subjectCompiles⟩, fun header hmem =>
        ⟨h.headerNames header hmem, h.headersCompile header hmem⟩, h.timeout, h.positive⟩, h.patterns⟩
  · rintro ⟨⟨⟨⟨servers, inbox, certificate, password⟩, addresses⟩, ⟨subject, compiles⟩, headers,
      timeout, positive⟩, patterns⟩
    exact ⟨servers, addresses, inbox, certificate, password, subject, compiles,
      fun header hmem => (headers header hmem).1, fun header hmem => (headers header hmem).2,
      patterns, timeout, positive⟩

/-! ## The parts of a stage -/

theorem Filter.readPatterns_eq_ok_iff {texts : List String} :
    (∃ patterns, Filter.readPatterns texts = .ok patterns) ↔
      ∀ text ∈ texts, ∃ pattern, Pattern.ofText? text = some pattern := by
  induction texts with
  | nil => simp [Filter.readPatterns]
  | cons text rest ih =>
    rw [List.forall_mem_cons, ← ih]
    cases htext : Pattern.ofText? text with
    | none => simp [Filter.readPatterns, htext]
    | some pattern =>
      cases hrest : Filter.readPatterns rest <;>
        simp [Filter.readPatterns, htext, hrest, Except.map]

/-- Templates that were checked compile. -/
theorem HeaderRules.exists_compileAll {headers : List (String × String)}
    (h : ∀ header ∈ headers, ∃ template, Template.compile header.2 = .ok template) :
    ∃ templates, HeaderRules.compileAll headers = .ok templates := by
  induction headers with
  | nil => exact ⟨[], rfl⟩
  | cons first rest ih =>
    obtain ⟨name, text⟩ := first
    obtain ⟨⟨template, htext⟩, hrest⟩ := List.forall_mem_cons.1 h
    obtain ⟨templates, hall⟩ := ih hrest
    exact ⟨(name, template) :: templates, by simp [HeaderRules.compileAll, htext, hall, Except.map]⟩

/-- A step that can only fail because of the configuration. -/
def BlamesSettings {α : Type} (r : Except StageError α) : Prop :=
  ∀ e, r = .error e → ∃ fault, e = .config fault

namespace BlamesSettings

variable {α β : Type} {r : Except StageError α}

theorem bind {next : α → Except StageError β} (h : BlamesSettings r)
    (hnext : ∀ a, BlamesSettings (next a)) : BlamesSettings (r >>= next) := by
  cases r with
  | error e =>
    intro e' he
    cases he
    exact h e rfl
  | ok a => exact hnext a

theorem map {f : α → β} (h : BlamesSettings r) : BlamesSettings (r.map f) := by
  cases r with
  | error e =>
    intro e' he
    cases he
    exact h e rfl
  | ok a => nofun

theorem mapError (r : Except SettingsFault α) : BlamesSettings (r.mapError StageError.config) := by
  cases r with
  | error fault =>
    intro e he
    cases he
    exact ⟨fault, rfl⟩
  | ok a => nofun

theorem readPatterns (texts : List String) : BlamesSettings (Filter.readPatterns texts) := by
  induction texts with
  | nil => nofun
  | cons text rest ih =>
    unfold Filter.readPatterns
    split
    · intro e he
      cases he
      exact ⟨_, rfl⟩
    · exact ih.map

theorem ofText (text : String) : BlamesSettings (SubjectRule.ofText text) := by
  unfold SubjectRule.ofText
  split
  · nofun
  · intro e he
    cases he
    exact ⟨_, rfl⟩

theorem compileAll (headers : List (String × String)) :
    BlamesSettings (HeaderRules.compileAll headers) := by
  induction headers with
  | nil => nofun
  | cons first rest ih =>
    unfold HeaderRules.compileAll
    split
    · intro e he
      cases he
      exact ⟨_, rfl⟩
    · exact ih.map

/-- Whatever keeps a stage from being set up lies in its settings. -/
theorem ofSettings (c : StageSettings) : BlamesSettings (Stage.ofSettings c) := by
  unfold Stage.ofSettings
  refine (mapError _).bind fun _ => ?_
  refine (readPatterns _).map.bind fun _ => ?_
  refine (ofText _).bind fun _ => ?_
  refine (compileAll _).map.bind fun _ => ?_
  nofun

end BlamesSettings

/-! ## The stage -/

namespace Stage

variable {c : StageSettings} {wait : Duration}

/-- Sound settings make a stage that waits as long as they say. -/
theorem exists_ofSettings (h : c.Sound wait) : ∃ s, ofSettings c = .ok s ∧ s.timeout = wait := by
  obtain ⟨hvalid, hpatterns⟩ := StageSettings.sound_iff.1 h
  obtain ⟨patterns, hread⟩ := Filter.readPatterns_eq_ok_iff.2 hpatterns
  obtain ⟨template, hsubject⟩ := h.subjectCompiles
  obtain ⟨templates, hheaders⟩ := HeaderRules.exists_compileAll h.headersCompile
  refine ⟨⟨c.connection.name, ⟨template⟩, ⟨templates, ⟨c.forwarded.includePrefixes, patterns⟩⟩, wait,
    c.maxReplyBytes⟩, ?_, rfl⟩
  simp only [ofSettings, hvalid, Filter.ofSettings, hread, SubjectRule.ofText, hsubject,
    HeaderRules.ofTemplates, hheaders]
  rfl

/-- A stage that is set up has sound settings. -/
theorem sound_of_ofSettings {s : Stage} (h : ofSettings c = .ok s) : c.Sound s.timeout := by
  obtain ⟨filter, hvalid, hfilter, -⟩ := ofSettings_ok h
  obtain ⟨patterns, hread, -⟩ := map_ok hfilter
  exact StageSettings.sound_iff.2 ⟨hvalid, Filter.readPatterns_eq_ok_iff.1 ⟨patterns, hread⟩⟩

theorem ofSettings_eq_ok_iff :
    (∃ s, ofSettings c = .ok s ∧ s.timeout = wait) ↔ c.Sound wait := by
  constructor
  · rintro ⟨s, hs, rfl⟩
    exact sound_of_ofSettings hs
  · exact exists_ofSettings

theorem withTransport_eq_ok_iff {τ : Type} {transport : τ} {s : Stage} {connection : Connection τ} :
    withTransport c transport = .ok (s, connection) ↔
      ofSettings c = .ok s ∧ connection = .connected transport := by
  unfold withTransport
  cases ofSettings c with
  | error e => simp [bind, Except.bind]
  | ok s' =>
    simp only [bind, Except.bind, Connection.install, Connection.connect, Except.map, pure,
      Except.pure, Except.ok.injEq, Prod.mk.injEq]
    exact and_congr_right fun _ => eq_comm

/-- The network is used when the addresses and the credentials are in order. -/
theorem connecting_mem_dial {τ : Type} {surroundings : Surroundings τ} {headersSupported : τ → Bool}
    {settings : ConnectionSettings} {addresses : List ServerAddress}
    (h : settings.addresses = .ok addresses) :
    connectingEvent settings ∈ (dial surroundings headersSupported settings).1 ↔
      checkCredentials surroundings settings = .ok () := by
  unfold dial
  rw [h]
  cases checkCredentials surroundings settings with
  | error fault => simp
  | ok u =>
    dsimp only
    cases surroundings.reach addresses settings <;> simp

/-- A stage is set up exactly from sound settings, and then waits as long as they say, be it over a
transport that is given or before one is opened. The network is used only for such settings, once
the credentials can be read. All others are reported as a fault of the configuration, whatever the
network is like, and no transport is taken. -/
theorem ofSettings_iff_sound (c : StageSettings) :
    (∀ wait, (∃ s, ofSettings c = .ok s ∧ s.timeout = wait) ↔ c.Sound wait) ∧
    (∀ (τ : Type) (transport : τ) (wait : Duration),
      (∃ s, withTransport c transport = .ok (s, .connected transport) ∧ s.timeout = wait) ↔ c.Sound wait) ∧
    (∀ (τ : Type) (surroundings : Surroundings τ) (headersSupported : τ → Bool),
      connectingEvent c.connection ∈ (connect surroundings headersSupported c).1 ↔
        (∃ wait, c.Sound wait) ∧ checkCredentials surroundings c.connection = .ok ()) ∧
    ((∀ wait, ¬ c.Sound wait) → ∃ fault, ofSettings c = .error (.config fault) ∧
      (∀ (τ : Type) (transport : τ), withTransport c transport = .error (.config fault)) ∧
      ∀ (τ : Type) (surroundings : Surroundings τ) (headersSupported : τ → Bool),
        connect surroundings headersSupported c = ([], .error (.config fault))) := by
  refine ⟨fun wait => ofSettings_eq_ok_iff, fun τ transport wait => ?_,
    fun τ surroundings headersSupported => ?_, fun hunsound => ?_⟩
  · rw [← ofSettings_eq_ok_iff]
    simp only [withTransport_eq_ok_iff, and_true]
  · cases hs : ofSettings c with
    | error e =>
      simp only [connect, hs, List.not_mem_nil, false_iff, not_and]
      rintro ⟨wait, hsound⟩
      obtain ⟨s, hs', -⟩ := exists_ofSettings hsound
      rw [hs] at hs'
      cases hs'
    | ok s =>
      have hsound := sound_of_ofSettings hs
      obtain ⟨addresses, haddresses⟩ :=
        ConnectionSettings.readUrls_eq_ok_iff.2 hsound.addresses
      have hready : connectingEvent c.connection ≠ s.readyEvent := by
        simp [connectingEvent, readyEvent]
      rw [← connecting_mem_dial haddresses, and_iff_right ⟨_, hsound⟩]
      unfold connect
      rw [hs]
      dsimp only
      split
      · rename_i log e hdial
        rw [hdial]
      · rename_i log transport hdial
        rw [hdial]
        simp [hready]
  · cases hs : ofSettings c with
    | ok s => exact absurd (sound_of_ofSettings hs) (hunsound _)
    | error e =>
      obtain ⟨fault, rfl⟩ := BlamesSettings.ofSettings c e hs
      refine ⟨fault, rfl, fun τ transport => ?_, fun τ surroundings headersSupported => ?_⟩
      · simp only [withTransport, hs]
        rfl
      · simp only [connect, hs]

end Stage
end ReplyStage
