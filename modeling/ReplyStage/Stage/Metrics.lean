import ReplyStage.Dict
import ReplyStage.Duration.Basic
import ReplyStage.Json.Writer
/-!
# Metrics

What a stage counts: the requests sent, the replies with the time each took, and the failures by
kind. The view of a scraper is a list of labelled series, sorted by name and labels, in which a
series appears once it was touched.
-/

namespace ReplyStage

/-- Something that a stage counts. -/
inductive MetricEvent
  | sent
  | replied (elapsed : Duration)
  | failed (kind : String)
  deriving DecidableEq, Repr

/-- The counts of a stage. -/
structure Metrics where
  stage : String
  sent : Nat := 0
  elapsed : List Duration := []
  failures : Dict Nat := .empty
  deriving DecidableEq, Repr

/-- The value of a series. -/
inductive SeriesValue
  | counter (count : Nat)
  | histogram (values : List Duration)
  deriving DecidableEq, Repr

/-- A labelled series, its labels in the order of their names. -/
structure Series where
  name : String
  labels : List (String × String)
  value : SeriesValue
  deriving DecidableEq, Repr

/-- The text by which series are sorted. -/
def Series.key (s : Series) : String :=
  s.name ++ (Json.object (s.labels.map fun (name, value) => (name, .string value))).render

namespace Metrics

/-- The counts of a stage that has done nothing yet. -/
def ofStage (stage : String) : Metrics := { stage }

/-- Counts an event. -/
def record (m : Metrics) : MetricEvent → Metrics
  | .sent => { m with sent := m.sent + 1 }
  | .replied elapsed => { m with elapsed := m.elapsed ++ [elapsed] }
  | .failed kind =>
    { m with failures := m.failures.insert kind ((m.failures.get? kind).getD 0 + 1) }

/-- Counts events in order. -/
def recordAll (m : Metrics) (events : List MetricEvent) : Metrics := events.foldl record m

/-- The label that names the stage. -/
def stageLabel (m : Metrics) : String × String := ("stage", m.stage)

/-- The series of failures. -/
def failureSeries (m : Metrics) : List Series :=
  m.failures.entries.map fun (kind, count) =>
    ⟨"nats_request_reply_failures_total", [("kind", kind), m.stageLabel], .counter count⟩

/-- The series of replies. -/
def replySeries (m : Metrics) : List Series :=
  if m.elapsed = [] then [] else [
    ⟨"nats_request_reply_replies_total", [m.stageLabel], .counter m.elapsed.length⟩,
    ⟨"nats_request_reply_request_duration_seconds", [m.stageLabel], .histogram m.elapsed⟩]

/-- The series of requests. -/
def requestSeries (m : Metrics) : List Series :=
  if m.sent = 0 then [] else
    [⟨"nats_request_reply_requests_total", [m.stageLabel], .counter m.sent⟩]

/-- All series that were touched, sorted. -/
def series (m : Metrics) : List Series :=
  let all := m.failureSeries ++ m.replySeries ++ m.requestSeries
  (Dict.ofList (all.map fun s => (s.key, s))).entries.map Prod.snd

end Metrics
end ReplyStage
