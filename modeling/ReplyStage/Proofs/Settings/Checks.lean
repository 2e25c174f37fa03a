import ReplyStage.Proofs.Results
import ReplyStage.Settings.Stage
/-!
# What passes the checks of settings

The checks of settings stop at the first thing that is wrong. Each lemma here says of one check
what it takes to pass it; `validate_eq_ok_iff` puts those of a stage together.
-/

namespace ReplyStage

/-! ## The connection's checks -/

namespace ConnectionSettings

theorem isGivenBlank_eq_false_iff {text : Option String} :
    isGivenBlank text = false ↔ ∀ s, text = some s → Text.isBlankText s = false := by
  cases text <;> simp [isGivenBlank]

theorem validate_eq_ok_iff {c : ConnectionSettings} :
    c.validate = .ok () ↔ c.serverUrls ≠ [] ∧
      (∀ start, c.inboxPrefix = some start → Text.isBlankText start = false) ∧
      c.tls.clientCertificate.isSome = c.tls.clientKey.isSome ∧
      (c.auth.password.isSome = true → c.auth.user.isSome = true) := by
  rw [← isGivenBlank_eq_false_iff]
  unfold validate
  by_cases hurls : c.serverUrls = []
  · simp [hurls]
  by_cases hinbox : isGivenBlank c.inboxPrefix = true
  · simp [hurls, hinbox]
  by_cases hcertificate : c.tls.clientCertificate.isSome = c.tls.clientKey.isSome
  · by_cases hpassword : c.auth.password.isSome = true <;>
      cases huser : c.auth.user <;> simp_all
  · simp [hurls, hinbox, hcertificate]

theorem readUrls_eq_ok_iff {urls : List String} :
    (∃ addresses, readUrls urls = .ok addresses) ↔
      ∀ url ∈ urls, ∃ address, ServerAddress.ofText url = .ok address := by
  induction urls with
  | nil => simp [readUrls]
  | cons url rest ih =>
    rw [List.forall_mem_cons, ← ih]
    cases hurl : ServerAddress.ofText url with
    | error e => simp [readUrls, hurl]
    | ok address => cases hrest : readUrls rest <;> simp [readUrls, hurl, hrest, Except.map]

end ConnectionSettings

/-! ## The stage's checks -/

namespace StageSettings

variable {c : StageSettings}

theorem checkConnection_eq_ok_iff :
    c.checkConnection = .ok () ↔ c.connection.validate = .ok () ∧
      ∃ addresses, c.connection.addresses = .ok addresses := by
  unfold checkConnection
  cases c.connection.validate with
  | error e => simp
  | ok u => cases c.connection.addresses <;> simp [Except.map]

theorem checkSubject_eq_ok_iff :
    c.checkSubject = .ok () ↔ Text.isBlankText c.subject = false ∧
      ∃ template, Template.compile c.subject = .ok template := by
  unfold checkSubject
  by_cases hblank : Text.isBlankText c.subject = true
  · simp [hblank]
  · cases Template.compile c.subject <;> simp [hblank]

theorem checkHeaders_eq_ok_iff {headers : List (String × String)} :
    checkHeaders headers = .ok () ↔
      ∀ header ∈ headers, Text.isBlankText header.1 = false ∧
        ∃ template, Template.compile header.2 = .ok template := by
  induction headers with
  | nil => simp [checkHeaders]
  | cons first rest ih =>
    obtain ⟨name, text⟩ := first
    rw [List.forall_mem_cons, ← ih]
    by_cases hblank : Text.isBlankText name = true
    · simp [checkHeaders, hblank]
    · cases htext : Template.compile text <;> simp [checkHeaders, hblank, htext]

theorem waitTime_eq_ok_iff {timeout : Duration} :
    c.waitTime = .ok timeout ↔
      Duration.ofText (Text.trim c.timeout) = .ok timeout ∧ 0 < timeout.nanos := by
  unfold waitTime
  cases Duration.ofText (Text.trim c.timeout) with
  | error e => simp
  | ok d =>
    by_cases hzero : d.isZero = true
    · have : d.nanos = 0 := by simpa [Duration.isZero] using hzero
      simp only [hzero, if_true, reduceCtorEq, Except.ok.injEq, false_iff, not_and]
      rintro rfl
      omega
    · have : 0 < d.nanos := by
        simp only [Duration.isZero, beq_iff_eq] at hzero
        omega
      simp only [hzero, Bool.false_eq_true, if_false, Except.ok.injEq]
      constructor
      · rintro rfl
        exact ⟨rfl, this⟩
      · exact fun h => h.1

/-- All checks pass exactly when each does. -/
theorem validate_eq_ok_iff {timeout : Duration} :
    c.validate = .ok timeout ↔ c.checkConnection = .ok () ∧ c.checkSubject = .ok () ∧
      checkHeaders c.headers.entries = .ok () ∧ c.waitTime = .ok timeout := by
  constructor
  · intro h
    obtain ⟨_, hconnection, h⟩ := bind_ok h
    obtain ⟨_, hsubject, h⟩ := bind_ok h
    obtain ⟨_, hheaders, h⟩ := bind_ok h
    exact ⟨hconnection, hsubject, hheaders, h⟩
  · rintro ⟨hconnection, hsubject, hheaders, htimeout⟩
    unfold validate
    rw [hconnection, hsubject, hheaders, htimeout]
    rfl

end StageSettings

end ReplyStage
