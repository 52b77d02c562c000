import DeviceGateway.Metrics.Basic

/-!
# Exposition of metrics

Metrics are shown as text.  Each family has a line of help and a line with its
type, and below them a line for each of its samples; the families come in the
order of their names and the samples in the order of their labels.  A family
that is kept apart by label and has counted nothing is left out.

In the value of a label the backslash, the line feed and the quote are written
with a backslash, so a label stays on its line.

## Main results

* `escapeLabel_ne_newline`: no written label holds a line feed.
-/

namespace DeviceGateway.Metrics

/-- What the names of all families begin with. -/
def familyLead : String := "tenant_gateway_"

/-- The two types of families. -/
inductive FamilyType where
  | counter
  | gauge
  deriving DecidableEq, Repr

/-- The name of a type. -/
def FamilyType.name : FamilyType → String
  | counter => "counter"
  | gauge => "gauge"

/-- A sample: the name and value of its label, if it has one, and its number. -/
structure Sample where
  label : Option (String × String)
  value : String
  deriving DecidableEq, Repr

/-- Samples of one name. -/
structure Family where
  /-- The name without what all names begin with. -/
  name : String
  help : String
  type : FamilyType
  samples : List Sample
  deriving DecidableEq, Repr

/-- How a character of a label's value is written. -/
def escapeLabel (c : Char) : List Char :=
  if c = '\\' then ['\\', '\\']
  else if c = '\n' then ['\\', 'n']
  else if c = '\"' then ['\\', '\"']
  else [c]

/-- A name with a label, as it stands in front of a number. -/
def Sample.key (name : String) (s : Sample) : String :=
  match s.label with
  | none => name
  | some (label, value) =>
    name ++ "\x7b" ++ label ++ "=\"" ++
      String.ofList (value.toList.flatMap escapeLabel) ++
      "\"\x7d"

/-- A family with a single sample. -/
def plainFamily (name help : String) (type : FamilyType) (value : String) :
    Family :=
  ⟨name, help, type, [⟨none, value⟩]⟩

/-- A family of counts by label. -/
def labelledFamily (name help label : String) (t : Tally) : Family :=
  ⟨name, help, .counter, t.map fun (value, n) =>
    ⟨some (label, value), toString n⟩⟩

/-- All families by name. -/
def families (m : Metrics) : List Family :=
  [plainFamily "active_connections" "Current number of open device connections"
      .gauge (toString m.activeConnections),
    plainFamily "bytes_received_total" "Total bytes received from devices"
      .counter (toString (Significand.shortest m.bytesReceived)),
    labelledFamily "connections_accepted_total"
      "Total device connections accepted by listener" "listener" m.accepted,
    labelledFamily "connects_total"
      "Total CONNECT attempts by outcome" "outcome" m.connects,
    plainFamily "frames_decoded_total"
      "Total frames decoded by tenant decoders" .counter (toString
        m.framesDecoded),
    labelledFamily "frames_dropped_total"
      "Total frames or lines dropped by reason" "reason" m.framesDropped,
    plainFamily "keep_alive_timeouts_total"
      "Total connections closed by the keep-alive supervisor" .counter
      (toString m.keepAliveTimeouts),
    plainFamily "messages_relayed_total"
      "Total device messages sent to the backend" .counter (toString m.relayed),
    plainFamily "relay_failures_total" "Total backend sends that failed"
      .counter (toString m.relayFailures),
    labelledFamily "shutdowns_total"
      "Total connection shutdowns by cause" "cause" m.shutdowns]

/-- The lines of a family. -/
def Family.lines (f : Family) : List String :=
  if f.samples.isEmpty then []
  else
    let name := familyLead ++ f.name
    ("# HELP " ++ name ++ " " ++ f.help) ::
      ("# TYPE " ++ name ++ " " ++ f.type.name) ::
      f.samples.map fun s => s.key name ++ " " ++ s.value

/-- The text of all metrics. -/
def render (m : Metrics) : String :=
  String.join ((m.families.flatMap Family.lines).map fun line => line ++ "\n")

/-- The samples whose number is not zero, each under its name and label. -/
def nonzero (m : Metrics) : List (String × String) :=
  (m.families.flatMap fun f => f.samples.map fun s =>
    (s.key f.name, s.value)).filter fun entry => entry.2 != "0"

private theorem pair_ne_newline {c d : Char} (h : d ∈ ['\\', c])
    (hc : c ≠ '\n') : d ≠ '\n' := by
  simp only [List.mem_cons, List.not_mem_nil, or_false] at h
  rcases h with rfl | rfl
  · decide
  · exact hc

theorem escapeLabel_ne_newline {c d : Char} (h : d ∈ escapeLabel c) :
    d ≠ '\n' := by
  unfold escapeLabel at h
  split at h
  · exact pair_ne_newline h (by decide)
  split at h
  · exact pair_ne_newline h (by decide)
  split at h
  · exact pair_ne_newline h (by decide)
  · next hnewline _ =>
    simp only [List.mem_singleton] at h
    exact h ▸ hnewline

end DeviceGateway.Metrics
