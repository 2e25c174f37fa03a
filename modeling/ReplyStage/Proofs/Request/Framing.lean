import Mathlib.Data.List.Induction
import ReplyStage.Proofs.Request.Headers
import ReplyStage.Proofs.Stage.Process
import ReplyStage.Proofs.Template.Values
/-!
# Requests in lines

A request goes out in lines of text: the subject is a word in one of them, and each header value has
a line with its name and a colon before it. `Request.Framable` says which requests can be told apart
in that form. A stage passes texts on as they are, so it makes such a request exactly from texts that
fit (`framable_iff`), and one that does not from a record that brings the wrong ones
(`start_injectedOrder`).
-/

namespace ReplyStage

/-- Control characters. -/
def Text.isControl (c : Char) : Bool := c < ' ' || ('\u007f' ≤ c && c ≤ '\u009f')

/-- A text without white space and control characters. -/
def Text.FitsWord (s : String) : Prop :=
  ∀ c ∈ s.toList, Text.isBlank c = false ∧ Text.isControl c = false

/-- A text without line breaks. -/
def Text.FitsLine (s : String) : Prop := ∀ c ∈ s.toList, c ≠ '\r' ∧ c ≠ '\n'

/-- A text without line breaks and colons. -/
def Text.FitsName (s : String) : Prop := ∀ c ∈ s.toList, c ≠ ':' ∧ c ≠ '\r' ∧ c ≠ '\n'

-- `List.decidableBAll` is given by name: an instance for all characters would be found first, and
-- that one tries each character there is
instance : DecidablePred Text.FitsWord := fun s =>
  List.decidableBAll (fun c => Text.isBlank c = false ∧ Text.isControl c = false) s.toList

instance : DecidablePred Text.FitsLine := fun s =>
  List.decidableBAll (fun c => c ≠ '\r' ∧ c ≠ '\n') s.toList

instance : DecidablePred Text.FitsName := fun s =>
  List.decidableBAll (fun c => c ≠ ':' ∧ c ≠ '\r' ∧ c ≠ '\n') s.toList

/-- Every name and every value of the headers passes. -/
def HeaderMap.Passes (h : HeaderMap) (name value : String → Prop) : Prop :=
  ∀ n values, h.values.get? n = some values → name n ∧ ∀ v ∈ values, value v

/-- A request whose subject is a word and whose headers are lines. -/
structure Request.Framable (r : Request) : Prop where
  subject_ne : r.subject ≠ ""
  subject : Text.FitsWord r.subject
  headers : ∀ headers, r.headers = some headers → headers.Passes Text.FitsName Text.FitsLine

/-- The texts that a request for a record is made of fit into it: those of the subject, and the names
and texts of the headers and the metadata that is forwarded, where headers are supported. -/
structure StageSettings.TextsFit (c : StageSettings) (record : Record) (supported : Bool) : Prop where
  subject : ∀ t, Template.compile c.subject = .ok t →
    ∀ segment ∈ t.segments, ∀ text, segment.value record = .ok text → Text.FitsWord text
  names : supported = true → ∀ header ∈ c.headers.entries, Text.FitsName header.1
  values : supported = true → ∀ header ∈ c.headers.entries, ∀ t, Template.compile header.2 = .ok t →
    ∀ segment ∈ t.segments, ∀ text, segment.value record = .ok text → Text.FitsLine text
  metadata : supported = true → ∀ filter, Filter.ofSettings c.forwarded = .ok filter →
    ∀ entry ∈ record.metadata.entries, filter.selects entry.1 = true →
      Text.FitsName entry.1 ∧ Text.FitsLine entry.2

/-! ## Headers and their entries -/

namespace HeaderMap

theorem passes_append {h : HeaderMap} {name value : String → Prop} {n v : String} :
    (h.append n v).Passes name value ↔ h.Passes name value ∧ name n ∧ value v := by
  constructor
  · intro hall
    have hself := hall n (h.get n ++ [v]) (by simp [get?_append])
    refine ⟨fun n' values hget => ?_, hself.1, hself.2 v (by simp)⟩
    by_cases hn : n' = n
    · subst hn
      refine ⟨hself.1, fun v' hv' => hself.2 v' ?_⟩
      rw [get, hget]
      exact List.mem_append_left _ hv'
    · exact hall n' values (by rw [get?_append, if_neg hn, hget])
  · rintro ⟨hold, hname, hvalue⟩ n' values hget
    rw [get?_append] at hget
    split at hget
    · rename_i hn
      subst hn
      cases hget
      refine ⟨hname, fun v' hv' => ?_⟩
      rcases List.mem_append.1 hv' with hv' | hv'
      · obtain ⟨values, hvalues, hmem⟩ := mem_get hv'
        exact (hold n' values hvalues).2 v' hmem
      · rw [List.mem_singleton.1 hv']
        exact hvalue
    · exact hold n' values hget

/-- Headers pass if the entries do that they are made of. -/
theorem passes_ofList {entries : List (String × String)} {name value : String → Prop} :
    (ofList entries).Passes name value ↔ ∀ entry ∈ entries, name entry.1 ∧ value entry.2 := by
  induction entries using List.reverseRecOn with
  | nil => exact ⟨fun _ => nofun, fun _ => nofun⟩
  | append_singleton entries entry ih =>
    have happend : ofList (entries ++ [entry]) = (ofList entries).append entry.1 entry.2 :=
      List.foldl_concat _ _ _ _
    rw [happend, passes_append, ih, List.forall_mem_append, List.forall_mem_singleton]

end HeaderMap

/-! ## Requests and their texts -/

namespace Stage

variable {c : StageSettings} {s : Stage} {record : Record}

/-- The subject is a word if the texts in it are. -/
theorem fitsWord_subject (built : ofSettings c = .ok s) {subject : String}
    (h : s.subject.resolve record = .ok subject) :
    Text.FitsWord subject ↔ ∀ t, Template.compile c.subject = .ok t →
      ∀ segment ∈ t.segments, ∀ text, segment.value record = .ok text → Text.FitsWord text := by
  obtain ⟨_, _, _, hs, _⟩ := ofSettings_ok built
  have hcompile := SubjectRule.compile_of_ofText hs
  simp only [hcompile, Except.ok.injEq, forall_eq']
  exact Template.forall_mem_evaluate (SubjectRule.resolve_ok_iff.1 h).1 _

/-- Headers are lines if the names and texts in them fit. -/
theorem passes_headers (built : ofSettings c = .ok s) {headers : HeaderMap}
    (h : s.headers.resolve record = .ok headers) :
    headers.Passes Text.FitsName Text.FitsLine ↔
      (∀ header ∈ c.headers.entries, Text.FitsName header.1) ∧
      (∀ header ∈ c.headers.entries, ∀ t, Template.compile header.2 = .ok t →
        ∀ segment ∈ t.segments, ∀ text, segment.value record = .ok text → Text.FitsLine text) ∧
      ∀ filter, Filter.ofSettings c.forwarded = .ok filter →
        ∀ entry ∈ record.metadata.entries, filter.selects entry.1 = true →
          Text.FitsName entry.1 ∧ Text.FitsLine entry.2 := by
  obtain ⟨filter, -, hfilter, -, hrules, -⟩ := ofSettings_ok built
  obtain ⟨templates, hcompile, hmade⟩ := map_ok hrules
  rw [← hmade] at h
  obtain ⟨values, hvalues, rfl⟩ := map_ok h
  have htemplated : (∀ value ∈ values, Text.FitsName value.1 ∧ Text.FitsLine value.2) ↔
      ∀ header ∈ c.headers.entries, Text.FitsName header.1 ∧
        ∀ t, Template.compile header.2 = .ok t → ∀ segment ∈ t.segments, ∀ text,
          segment.value record = .ok text → Text.FitsLine text := by
    rw [forall_mem_congr_of_forall₂ (HeaderRules.compileAll_ok hcompile)
        (q := fun named => Text.FitsName named.1 ∧ ∀ segment ∈ named.2.segments, ∀ text,
          segment.value record = .ok text → Text.FitsLine text),
      forall_mem_congr_of_forall₂ (HeaderRules.evaluateAll_ok hvalues)
        (q := fun value => Text.FitsName value.1 ∧ Text.FitsLine value.2)]
    · rintro named value ⟨hname, hvalue⟩
      rw [hname]
      exact and_congr_right fun _ => (Template.forall_mem_evaluate hvalue _).symm
    · rintro header named ⟨hname, htext⟩
      rw [hname]
      simp [htext]
  rw [HeaderMap.passes_ofList, List.forall_mem_append, htemplated, ← and_assoc, ← forall₂_and]
  refine and_congr_right fun _ => ?_
  simp only [Filter.mem_select, and_imp, hfilter, Except.ok.injEq, forall_eq']

/-- A request has a subject with more than white space in it. Beyond that it can be put in lines
exactly if the texts can that it is made of: the stage passes them on as they are. -/
theorem framable_iff {τ : Type} {headersSupported : τ → Bool} {connection : Connection τ}
    {deadline : Option Duration} {now : Duration} {sending : Sending τ}
    (built : ofSettings c = .ok s)
    (sent : s.start headersSupported connection record deadline now = .ok sending) :
    sending.request.subject ≠ "" ∧ Text.isBlankText sending.request.subject = false ∧
      (sending.request.Framable ↔ c.TextsFit record (headersSupported sending.transport)) := by
  obtain ⟨-, hrequest, -⟩ := start_ok_iff.1 sent
  obtain ⟨hsubject, -, hheads⟩ := request_ok_iff.1 hrequest
  have hblank := (SubjectRule.resolve_ok_iff.1 hsubject).2
  have hne : sending.request.subject ≠ "" := by
    intro h
    rw [h] at hblank
    cases hblank
  refine ⟨hne, hblank, ?_⟩
  have hword := fitsWord_subject built hsubject
  cases hh : sending.request.headers with
  | none =>
    rw [hh] at hheads
    have hunsupported : headersSupported sending.transport = false := hheads
    constructor
    · intro hframable
      rw [hunsupported]
      exact ⟨hword.1 hframable.subject, nofun, nofun, nofun⟩
    · intro hfit
      exact ⟨hne, hword.2 hfit.subject, by simp [hh]⟩
  | some headers =>
    rw [hh] at hheads
    obtain ⟨hsupported, hresolved⟩ := hheads
    have hpasses := passes_headers built hresolved
    constructor
    · intro hframable
      obtain ⟨hnames, hvalues, hmetadata⟩ := hpasses.1 (hframable.headers headers hh)
      exact ⟨hword.1 hframable.subject, fun _ => hnames, fun _ => hvalues, fun _ => hmetadata⟩
    · intro hfit
      refine ⟨hne, hword.2 hfit.subject, fun headers' hh' => ?_⟩
      rw [hh] at hh'
      cases hh'
      exact hpasses.2 ⟨hfit.names hsupported, hfit.values hsupported, hfit.metadata hsupported⟩

/-- For instance, a stage that puts a field of the payload into the subject and into a header, and
forwards the metadata of an application. -/
def ofOrders : StageSettings where
  subject := "orders.$\x7b! json(\"id\") \x7d"
  headers := .ofList [("X-Id", "$\x7b! json(\"id\") \x7d")]
  forwarded := { includePrefixes := ["app"] }

/-- The stage of `ofOrders`. -/
def orders : Stage where
  label := defaultName
  subject := ⟨ofOrders.subject, [.literal "orders.", .expression ⟨.json (some "id"), none⟩]⟩
  headers := {
    templates := [("X-Id", ⟨"$\x7b! json(\"id\") \x7d", [.expression ⟨.json (some "id"), none⟩]⟩)]
    filter := { includePrefixes := ["app"] } }
  timeout := ⟨3000000000⟩
  maxReplyBytes := none

/-- An order with an entry of metadata. -/
def order (payload key value : String) : Record :=
  (Record.ofPayload (Text.Utf8.encode payload)).set key value

theorem ofSettings_ofOrders : ofSettings ofOrders = .ok orders := ok_of_toOption (by decide +kernel)

/-- An order whose texts fit. -/
theorem framable_iff_plainOrder :
    let record := order "\x7b\"id\":\"42\"\x7d" "app-trace" "t1"
    ∃ sending, orders.start (fun _ => true) (.connected ()) record none ⟨0⟩ = .ok sending ∧
      sending.request.Framable ∧ ofOrders.TextsFit record true := by
  intro record
  have sent : orders.start (fun _ => true) (.connected ()) record none ⟨0⟩ =
      .ok ⟨(), ⟨"orders.42", record.payload,
        some (.ofList [("X-Id", "42"), ("app-trace", "t1")])⟩, ⟨3000000000⟩⟩ :=
    ok_of_toOption (by decide +kernel)
  obtain ⟨hne, -, hiff⟩ := framable_iff ofSettings_ofOrders sent
  have hframable : Request.Framable ⟨"orders.42", record.payload,
      some (.ofList [("X-Id", "42"), ("app-trace", "t1")])⟩ := by
    refine ⟨hne, by decide +kernel, fun headers hh => ?_⟩
    cases hh
    exact HeaderMap.passes_ofList.2 (by decide +kernel)
  exact ⟨_, sent, hframable, hiff.1 hframable⟩

/-- An order whose field ends the line of the subject, and whose metadata ends the lines of its
header. It is sent as it is: the subject has a blank and a line break, and so do a name, with a colon
besides, and two values. -/
theorem start_injectedOrder :
    let record := order "\x7b\"id\":\"7\\r\\nPUB admin 0\"\x7d" "app:\r\nX-Admin" "1\r\nX-Role: all"
    let headers := HeaderMap.ofList
      [("X-Id", "7\r\nPUB admin 0"), ("app:\r\nX-Admin", "1\r\nX-Role: all")]
    ∃ sending, ofSettings ofOrders = .ok orders ∧
      orders.start (fun _ => true) (.connected ()) record none ⟨0⟩ = .ok sending ∧
      sending.request = ⟨"orders.7\r\nPUB admin 0", record.payload, some headers⟩ ∧
      ¬ sending.request.Framable ∧ ¬ Text.FitsWord sending.request.subject ∧
      ¬ headers.Passes Text.FitsName (fun _ => True) ∧
      ¬ headers.Passes (fun _ => True) Text.FitsLine := by
  intro record headers
  have hword : ¬ Text.FitsWord "orders.7\r\nPUB admin 0" := by decide +kernel
  refine ⟨⟨(), ⟨"orders.7\r\nPUB admin 0", record.payload, some headers⟩, ⟨3000000000⟩⟩,
    ofSettings_ofOrders, ok_of_toOption (by decide +kernel), rfl, fun h => hword h.subject, hword,
    ?_, ?_⟩
  · rw [HeaderMap.passes_ofList]
    decide +kernel
  · rw [HeaderMap.passes_ofList]
    decide +kernel

end Stage
end ReplyStage
