import RestDispatch.Telemetry.Config
import RestDispatch.Decimal.Scaled
import RestDispatch.Decimal.Shortest

/-!
# Metrics

A recorder keeps counters and histograms by metric name and label set, and the
descriptions of metrics. It writes them in the Prometheus text format: for each
metric with series, its description line when it has one, its type line, then
one line per series, and a blank line after the metric.

A label set is a list of names and values in the order they were given; the
same names with the same values in the same order are the same series. A value
is written in double quotes with line feeds, double quotes and backslashes
escaped; a backslash that another one follows is written once, escaped, for the
pair.

A histogram keeps its samples, doubles by their bits, in the order recorded.
A sample falls in the bucket of the first bound, in the order given, that is at
least the sample; each bound is written with the samples of its bucket and of
the buckets before it, the `+Inf` bucket and the count with all of them, and the sum adds them up in order, rounding
each time. Bounds and sums are written as the shortest decimal that reads back
as the double, without an exponent; a recorder needs at least one bound.

The metrics of dispatch count requests by Api, endpoint and status, time
them in a histogram by Api and endpoint, and count routing failures by reason.
-/

namespace RestDispatch.Telemetry

open RestDispatch.Decimal

set_option autoImplicit false

/-- Label names with their values, in the order given. -/
abbrev Labels := List (String × String)

/-- Counters, histograms and descriptions by metric name. -/
structure Recorder where
  /-- Upper bounds of every histogram's buckets, as doubles by their bits. -/
  bounds : List UInt64
  /-- Descriptions by metric name; a later one for a name wins. -/
  descriptions : List (String × String)
  /-- Counter series with their totals, in the order first seen. -/
  counters : List (String × Labels × Nat)
  /-- Histogram series with their samples, in the order first seen. -/
  histograms : List (String × Labels × List UInt64)
  deriving Repr, Inhabited

/-- Add one to the value of a key, or start it at one. -/
def bumpSeries (key : String × Labels) : List (String × Labels × Nat) → List (String × Labels × Nat)
  | [] => [(key.1, key.2, 1)]
  | (n, ls, v) :: rest =>
    if n == key.1 && ls == key.2 then (n, ls, v + 1) :: rest
    else (n, ls, v) :: bumpSeries key rest

/-- Add a sample to the samples of a key, or start them. -/
def pushSample (key : String × Labels) (x : UInt64) :
    List (String × Labels × List UInt64) → List (String × Labels × List UInt64)
  | [] => [(key.1, key.2, [x])]
  | (n, ls, xs) :: rest =>
    if n == key.1 && ls == key.2 then (n, ls, xs ++ [x]) :: rest
    else (n, ls, xs) :: pushSample key x rest

namespace Recorder

/-- An empty recorder with histogram bounds; none without bounds. -/
def new? (bounds : List UInt64) : Option Recorder :=
  if bounds.isEmpty then none else some ⟨bounds, [], [], []⟩

/-- Describe a metric. -/
def describe (r : Recorder) (name text : String) : Recorder :=
  { r with descriptions := r.descriptions ++ [(name, text)] }

/-- Add one to a counter series. -/
def increment (r : Recorder) (name : String) (labels : Labels) : Recorder :=
  { r with counters := bumpSeries (name, labels) r.counters }

/-- Record a sample in a histogram series. -/
def observe (r : Recorder) (name : String) (labels : Labels) (x : UInt64) : Recorder :=
  { r with histograms := pushSample (name, labels) x r.histograms }

/-- The description of a metric. -/
def description? (r : Recorder) (name : String) : Option String :=
  (r.descriptions.reverse.find? (·.1 == name)).map Prod.snd

end Recorder

/-- A label value as the text format writes it, without its quotes; `held`
says a backslash is waiting to be written. -/
def escapeLabelChars : List Char → Bool → List Char
  | [], held => if held then ['\\', '\\'] else []
  | c :: rest, held =>
    if c == '\n' then '\\' :: 'n' :: escapeLabelChars rest held
    else if c == '"' then '\\' :: '"' :: escapeLabelChars rest false
    else if c == '\\' then
      if held then '\\' :: '\\' :: escapeLabelChars rest false
      else escapeLabelChars rest true
    else if held then '\\' :: '\\' :: c :: escapeLabelChars rest false
    else c :: escapeLabelChars rest false

/-- A label value as the text format writes it, without its quotes. -/
def escapeLabel (v : String) : String := String.ofList (escapeLabelChars v.toList false)

/-- A description as the text format writes it: only line feeds and
backslashes are escaped. -/
def escapeDescriptionChars : List Char → Bool → List Char
  | [], held => if held then ['\\', '\\'] else []
  | c :: rest, held =>
    if c == '\n' then '\\' :: 'n' :: escapeDescriptionChars rest held
    else if c == '\\' then
      if held then '\\' :: '\\' :: escapeDescriptionChars rest false
      else escapeDescriptionChars rest true
    else if held then '\\' :: '\\' :: c :: escapeDescriptionChars rest false
    else c :: escapeDescriptionChars rest false

/-- One series line: the name, the labels in braces when there are any, and
the value. -/
def seriesLine (name : String) (labels : Labels) (value : String) : String :=
  let parts := labels.map fun (k, v) => k ++ "=\"" ++ escapeLabel v ++ "\""
  let braces := if parts.isEmpty then "" else "\x7b" ++ ",".intercalate parts ++ "\x7d"
  name ++ braces ++ " " ++ value

/-- The sum of samples, added in order from zero. -/
def sampleSum (xs : List UInt64) : UInt64 :=
  xs.foldl addBits 0

/-- The bucket of a sample: the first bound, in the order given, that is at
least the sample. -/
def bucketOf? (bounds : List UInt64) (x : UInt64) : Option Nat :=
  bounds.findIdx? fun b => leBits x b

/-- Running totals of a list of counts. -/
def runningTotals : Nat → List Nat → List Nat
  | _, [] => []
  | acc, n :: rest => (acc + n) :: runningTotals (acc + n) rest

/-- The count written for each bound: the samples whose bucket is that bound
or one before it. -/
def bucketCounts (bounds : List UInt64) (xs : List UInt64) : List Nat :=
  runningTotals 0 ((List.range bounds.length).map fun i => xs.countP fun x => bucketOf? bounds x == some i)

/-- The lines of one histogram series. -/
def histogramLines (bounds : List UInt64) (name : String) (labels : Labels) (xs : List UInt64) :
    List String :=
  (bounds.zip (bucketCounts bounds xs)).map (fun (b, n) =>
      seriesLine (name ++ "_bucket") (labels ++ [("le", plainText b)]) (toString n)) ++
    [seriesLine (name ++ "_bucket") (labels ++ [("le", "+Inf")]) (toString xs.length),
     seriesLine (name ++ "_sum") labels (plainText (sampleSum xs)),
     seriesLine (name ++ "_count") labels (toString xs.length)]

/-- The names of a list of series, each once, in the order first seen. -/
def seriesNames {α : Type} (series : List (String × α)) : List String :=
  series.foldl (fun acc (n, _) => if acc.contains n then acc else acc ++ [n]) []

namespace Recorder

/-- The heading lines of a metric: its description if it has one, and its type. -/
def heading (r : Recorder) (name kind : String) : List String :=
  let help := match r.description? name with
    | some d => ["# HELP " ++ name ++ " " ++ String.ofList (escapeDescriptionChars d.toList false)]
    | none => []
  help ++ ["# TYPE " ++ name ++ " " ++ kind]

/-- The lines of the text format, a blank one after each metric. -/
def lines (r : Recorder) : List String :=
  let counters := (seriesNames r.counters).flatMap fun name =>
    r.heading name "counter" ++
      ((r.counters.filter (·.1 == name)).map fun (_, ls, v) => seriesLine name ls (toString v)) ++ [""]
  let histograms := (seriesNames r.histograms).flatMap fun name =>
    r.heading name "histogram" ++
      ((r.histograms.filter (·.1 == name)).flatMap fun (_, ls, xs) => histogramLines r.bounds name ls xs) ++
      [""]
  counters ++ histograms

/-- The recorder has a series of a metric. -/
def hasSeries (r : Recorder) (name : String) : Bool :=
  r.counters.any (·.1 == name) || r.histograms.any (·.1 == name)

/-- The text format. -/
def render (r : Recorder) : String :=
  String.join (r.lines.map (· ++ "\n"))

/-- Describe the metrics of dispatch. -/
def describeDispatch (r : Recorder) : Recorder :=
  ((r.describe requestsTotalName "Total number of dispatched requests").describe dispatchDurationName
    "Time spent resolving a route and running its action chain").describe routingFailuresName
    "Requests that matched no Api, no endpoint or violated a path constraint"

/-- Record a dispatched request: its count by status and its time in seconds. -/
def recordDispatch (r : Recorder) (api endpoint : String) (status : Nat) (seconds : UInt64) :
    Recorder :=
  (r.increment requestsTotalName [("api", api), ("endpoint", endpoint), ("status", toString status)]).observe
    dispatchDurationName [("api", api), ("endpoint", endpoint)] seconds

/-- Record a routing failure. -/
def recordRoutingFailure (r : Recorder) (reason : String) : Recorder :=
  r.increment routingFailuresName [("reason", reason)]

end Recorder

/-- A duration of microseconds in seconds: the whole seconds plus the
nanoseconds over a billion, each a double. -/
def secondsOfMicros (micros : Nat) : UInt64 :=
  addBits (natBits (micros / 1000000)) (divBits (natBits (micros % 1000000 * 1000)) (natBits 1000000000))

example : escapeLabel "a\"b\\c" = "a\\\"b\\\\c" := by decide
example : escapeLabel "x\\\\y\\" = "x\\\\y\\\\" := by decide
example : plainText (secondsOfMicros 2000000) = "2" := by decide +kernel

end RestDispatch.Telemetry
