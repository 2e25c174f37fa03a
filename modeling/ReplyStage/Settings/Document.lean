import ReplyStage.Json.Reader
import ReplyStage.Json.Writer
import ReplyStage.Settings.Stage
import ReplyStage.Text.Quoted
/-!
# Settings in JSON

Reading the settings of a stage from a JSON text. The settings are an object with the fields by
name, or an array with the fields in a fixed order; fields that are missing keep their defaults,
and fields without a meaning are skipped. The text is read from front to back, so of several
things wrong with it the first is reported.
-/

namespace ReplyStage

/-- What is read for a setting. -/
inductive Shape
  | text
  | flag
  | map
  | sequence
  | count
  | path
  | record (name : String)
  deriving DecidableEq, Repr

/-- The words for what is read. -/
def Shape.words : Shape → String
  | .text => "a string"
  | .flag => "a boolean"
  | .map => "a map"
  | .sequence => "a sequence"
  | .count => "usize"
  | .path => "path string"
  | .record name => s!"struct {name}"

/-- What stands where something else is read. -/
inductive Found
  | null
  | bool (b : Bool)
  | number (n : Json.Number)
  | string (s : String)
  | sequence
  | map
  deriving DecidableEq, Repr

/-- The words for what stands there. -/
def Found.words : Found → String
  | .null => "null"
  | .bool b => s!"boolean `{b}`"
  | .number (.integer i) => s!"integer `{i}`"
  | .number (.real x) => s!"floating point `{String.ofList x.toChars}`"
  | .string s => s!"string {Text.quoted s}"
  | .sequence => "sequence"
  | .map => "map"

/-- Why a text holds no settings. -/
inductive DocumentError
  | notJson (fault : Json.Fault)
  | wrongType (found : Found) (expected : Shape)
  | outOfRange (value : Int) (expected : Shape)
  | duplicate (field : String)
  deriving DecidableEq, Repr

/-- The sentence that reports the error in a text. -/
def DocumentError.message (text : Bytes) : DocumentError → String
  | .notJson fault => (fault.within text).message
  | .wrongType found expected => s!"invalid type: {found.words}, expected {expected.words}"
  | .outOfRange value expected => s!"invalid value: integer `{value}`, expected {expected.words}"
  | .duplicate field => s!"duplicate field `{field}`"

namespace Document

open Json (Source Items Members Fault)

/-- Reads a value as written. -/
abbrev Decoder (α : Type) := Source → Except DocumentError α

/-- A string that is kept. -/
def string (q : Json.Quoted) : Except DocumentError String := q.read.mapError .notJson

/-- What stands where something else is read. -/
def found : Decoder Found
  | .null => .ok .null
  | .bool b => .ok (.bool b)
  | .number n => (n.read.mapError .notJson).map .number
  | .string q => (string q).map .string
  | .array _ => .ok .sequence
  | .object _ => .ok .map
  | .broken b => .error (.notJson b.keptFault)

/-- The error of a value that is not what is read. -/
def mismatch {α : Type} (expected : Shape) (s : Source) : Except DocumentError α :=
  match found s with
  | .ok found => .error (.wrongType found expected)
  | .error e => .error e

/-- A string, where strings of some kind are read. -/
def text (expected : Shape) : Decoder String
  | .string q => string q
  | s => mismatch expected s

/-- A truth value. -/
def flag : Decoder Bool
  | .bool b => .ok b
  | s => mismatch .flag s

/-- A number of 64 bits without a sign. -/
def count : Decoder Nat
  | .number n =>
    match n.read with
    | .ok (.integer (.ofNat value)) => .ok value
    | .ok (.integer value) => .error (.outOfRange value .count)
    | .ok (.real x) => .error (.wrongType (.number (.real x)) .count)
    | .error fault => .error (.notJson fault)
  | s => mismatch .count s

/-- A value, or null for none. -/
def optional {α : Type} (value : Decoder α) : Decoder (Option α)
  | .null => .ok none
  | s => (value s).map some

/-- The items of a list. -/
def listItems {α : Type} (value : Decoder α) : Items → Except DocumentError (List α)
  | .done none => .ok []
  | .done (some b) => .error (.notJson b.keptFault)
  | .item _ s rest =>
    match value s with
    | .error e => .error e
    | .ok first => (listItems value rest).map (first :: ·)

/-- A list. -/
def list {α : Type} (value : Decoder α) : Decoder (List α)
  | .array items => listItems value items
  | s => mismatch .sequence s

/-- The members of a map, added to those before them. -/
def dictMembers {α : Type} (value : Decoder α) (before : Dict α) :
    Members → Except DocumentError (Dict α)
  | .done none => .ok before
  | .done (some b) => .error (.notJson b.keptFault)
  | .member name _ s rest =>
    match string name with
    | .error e => .error e
    | .ok key =>
      match value s with
      | .error e => .error e
      | .ok v => dictMembers value (before.insert key v) rest

/-- A map; of members with one name the last one counts. -/
def dict {α : Type} (value : Decoder α) : Decoder (Dict α)
  | .object members => dictMembers value .empty members
  | s => mismatch .map s

/-! ## Records of settings -/

/-- A field of a record: its name, and how its value changes the record. -/
structure Setting (α : Type) where
  name : String
  read : α → Decoder α

/-- A field with a value that is put into the record. -/
def setting {α β : Type} (name : String) (value : Decoder β) (put : α → β → α) : Setting α :=
  ⟨name, fun record s => (value s).map (put record)⟩

/-- Reads members in the order written. A field may occur once. -/
def recordMembers {α : Type} (fields : List (Setting α)) (seen : List String) (record : α) :
    Members → Except DocumentError α
  | .done none => .ok record
  | .done (some b) => .error (.notJson b.keptFault)
  | .member name _ s rest =>
    match string name with
    | .error e => .error e
    | .ok key =>
      match fields.find? fun f => f.name = key with
      | none =>
        match s.skipFault? with
        | some fault => .error (.notJson fault)
        | none => recordMembers fields seen record rest
      | some f =>
        if key ∈ seen then .error (.duplicate key)
        else
          match f.read record s with
          | .error e => .error e
          | .ok record => recordMembers fields (key :: seen) record rest

/-- What comes after the last field of a record that is written as an array. -/
def recordEnd {α : Type} (record : α) : Items → Except DocumentError α
  | .done none => .ok record
  | .done (some b) =>
    .error (.notJson ⟨b.offset, if b.kept = .listCut then .listCut else .trailingCharacters⟩)
  | .item start (.broken b) _ =>
    if b.kept = .trailingComma then .error (.notJson b.keptFault)
    else if b.offset = start then .error (.notJson ⟨start, .trailingCharacters⟩)
    else .error (.notJson ⟨start + 1, .trailingCharacters⟩)
  | .item start _ _ => .error (.notJson ⟨start + 1, .trailingCharacters⟩)

/-- Reads the items of an array as the fields in order. -/
def recordItems {α : Type} : List (Setting α) → α → Items → Except DocumentError α
  | [], record, items => recordEnd record items
  | _ :: _, record, .done none => .ok record
  | _ :: _, _, .done (some b) => .error (.notJson b.keptFault)
  | f :: fields, record, .item _ s rest =>
    match f.read record s with
    | .error e => .error e
    | .ok record => recordItems fields record rest

/-- A record with its fields; those that are missing are as in `default`. -/
def record {α : Type} (name : String) (fields : List (Setting α)) (default : α) : Decoder α
  | .object members => recordMembers fields [] default members
  | .array items => recordItems fields default items
  | s => mismatch (.record name) s

/-- A whole text with one value. -/
def decode {α : Type} (value : Decoder α) (bytes : Bytes) : Except DocumentError α :=
  let document := Json.Document.ofBytes bytes
  match value document.root with
  | .error e => .error e
  | .ok v =>
    match document.trailingFault? with
    | some fault => .error (.notJson fault)
    | none => .ok v

end Document

open Document

/-- The fields of the encryption settings. -/
def TlsSettings.fields : List (Setting TlsSettings) := [
  setting "enabled" flag fun c v => { c with enabled := v },
  setting "root_certificates" (list (text .path)) fun c v => { c with rootCertificates := v },
  setting "client_certificate" (optional (text .path)) fun c v => { c with clientCertificate := v },
  setting "client_key" (optional (text .path)) fun c v => { c with clientKey := v }]

/-- The fields of what the stage introduces itself with. -/
def AuthSettings.fields : List (Setting AuthSettings) := [
  setting "user" (optional (text .text)) fun c v => { c with user := v },
  setting "password" (optional (text .text)) fun c v => { c with password := v },
  setting "token" (optional (text .text)) fun c v => { c with token := v },
  setting "nkey" (optional (text .text)) fun c v => { c with nkey := v },
  setting "credentials_file" (optional (text .path)) fun c v => { c with credentialsFile := v }]

/-- The fields of the connection settings. -/
def ConnectionSettings.fields : List (Setting ConnectionSettings) := [
  setting "urls" (list (text .text)) fun c v => { c with urls := v },
  setting "name" (text .text) fun c v => { c with name := v },
  setting "inbox_prefix" (optional (text .text)) fun c v => { c with inboxPrefix := v },
  setting "tls" (record "TlsConfig" TlsSettings.fields {}) fun c v => { c with tls := v },
  setting "auth" (record "AuthConfig" AuthSettings.fields {}) fun c v => { c with auth := v }]

/-- The fields of a filter. -/
def FilterSettings.fields : List (Setting FilterSettings) := [
  setting "include_prefixes" (list (text .text)) fun c v => { c with includePrefixes := v },
  setting "include_patterns" (list (text .text)) fun c v => { c with includePatterns := v }]

/-- Connection settings as written. -/
def ConnectionSettings.decoder : Decoder ConnectionSettings :=
  record "NatsConfig" ConnectionSettings.fields {}

/-- The fields of the stage settings. -/
def StageSettings.fields : List (Setting StageSettings) := [
  setting "nats" ConnectionSettings.decoder fun c v => { c with connection := v },
  setting "subject" (text .text) fun c v => { c with subject := v },
  setting "headers" (dict (text .text)) fun c v => { c with headers := v },
  setting "metadata" (record "MetadataFilterConfig" FilterSettings.fields {}) fun c v =>
    { c with forwarded := v },
  setting "timeout" (text .text) fun c v => { c with timeout := v },
  setting "max_reply_bytes" (optional count) fun c v => { c with maxReplyBytes := v }]

/-- Stage settings as written. -/
def StageSettings.decoder : Decoder StageSettings :=
  record "RequestReplyConfig" StageSettings.fields {}

/-- The connection settings in a JSON text. -/
def ConnectionSettings.ofJson (bytes : Bytes) : Except DocumentError ConnectionSettings :=
  decode ConnectionSettings.decoder bytes

/-- The stage settings in a JSON text. -/
def StageSettings.ofJson (bytes : Bytes) : Except DocumentError StageSettings :=
  decode StageSettings.decoder bytes

end ReplyStage
