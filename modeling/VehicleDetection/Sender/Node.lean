import VehicleDetection.Param.Node
import VehicleDetection.Param.Validation
import VehicleDetection.Http.Url
import VehicleDetection.Detection.Writer

/-!
# `detection_sender_node.cpp`: the parameters

* `declared`                     the declared parameters with their defaults;
* `buildSnapshotFromParameters`  the snapshot at the start, with the parsed URL in it;
* `enforceInitialParameters`     the checks at the start;
* `applyParameter`               one entry of a batch, on a copy of the snapshot;
* `checkCandidate`               the checks at run time;
* `ensureHttpWorkerStarted`, `applyWriterConfig`  what follows an accepted batch;
* `onParameterChange`            the callback.
-/

set_option linter.unusedVariables false

namespace VD.DetectionSenderNode
open BStr

def kSendModeDisabled : Bytes := lit "disabled"
def kSendModeRosTopic : Bytes := lit "ros_topic"
def kSendModeHttp : Bytes := lit "http"
def kSendModeBoth : Bytes := lit "both"

def isKnownSendMode (mode : Bytes) : Bool :=
  mode == kSendModeDisabled || mode == kSendModeRosTopic || mode == kSendModeHttp ||
    mode == kSendModeBoth

def sendModeUsesTopic (mode : Bytes) : Bool := mode == kSendModeRosTopic || mode == kSendModeBoth

def sendModeUsesHttp (mode : Bytes) : Bool := mode == kSendModeHttp || mode == kSendModeBoth

structure Snapshot where
  sendMode : Bytes
  httpEndpointUrl : Bytes
  httpUrl : HttpUrl
  httpUrlValid : Bool
  httpTimeoutMs : Int64
  httpRetryCount : Int64
  httpAuthType : Bytes
  saveResults : Bool
  resultOutputPath : Bytes
  resultOutputFormat : Bytes
deriving DecidableEq

def declared : List Parameter := [
  ("raw_detections_topic", .string (lit "/vehicle_detections/raw")),
  ("detections_topic", .string (lit "/vehicle_detections")),
  ("send_mode", .string (lit "ros_topic")),
  ("http_endpoint_url", .string (lit "http://host.docker.internal:8080/detections")),
  ("http_timeout_ms", .integer 1000),
  ("http_retry_count", .integer 0),
  ("http_auth_type", .string (lit "none")),
  ("save_results", .bool false),
  ("result_output_path", .string []),
  ("result_output_format", .string (lit "jsonl"))]

/-- `parse_http_url(url, &target)`: the result and what `target` holds after the call -/
def parseInto (url : Bytes) (target : HttpUrl) : Bool × HttpUrl :=
  match parseHttpUrl url with
  | some u => (true, u)
  | none => (false, target)

def buildSnapshotFromParameters (params : ParameterStore) : Except ParameterError Snapshot := do
  let sendMode ← getString params "send_mode"
  let httpEndpointUrl ← getString params "http_endpoint_url"
  let (httpUrlValid, httpUrl) := parseInto httpEndpointUrl {}
  let httpTimeoutMs ← getInt params "http_timeout_ms"
  let httpRetryCount ← getInt params "http_retry_count"
  let httpAuthType ← getString params "http_auth_type"
  let saveResults ← getBool params "save_results"
  let resultOutputPath ← getString params "result_output_path"
  let resultOutputFormat ← getString params "result_output_format"
  return {
    sendMode, httpEndpointUrl, httpUrl, httpUrlValid, httpTimeoutMs, httpRetryCount, httpAuthType
    saveResults, resultOutputPath, resultOutputFormat }

def enforceInitialParameters (s : Snapshot) : Except Bytes Unit :=
  if ¬ isKnownSendMode s.sendMode then
    .error (lit "send_mode must be one of: disabled, ros_topic, http, both")
  else match firstFailure [
      validateIntMin "http_timeout_ms" s.httpTimeoutMs 1,
      validateIntMin "http_retry_count" s.httpRetryCount 0] with
    | .error reason => .error reason
    | .ok _ =>
      if sendModeUsesHttp s.sendMode ∧ ¬ s.httpUrlValid then
        .error (lit "http_endpoint_url must be a valid http:// URL")
      else match parseDetectionResultFormat s.resultOutputFormat with
        | .error r => .error r.reason
        | .ok _ => .ok ()

/-! ## batches -/

def applyParameter (c : Snapshot) (p : Parameter) : Except ParameterError Snapshot :=
  if p.getName = "send_mode" then
    p.asString.map fun v => { c with sendMode := v }
  else if p.getName = "http_endpoint_url" then
    p.asString.map fun v =>
      { c with
        httpEndpointUrl := v
        httpUrlValid := (parseInto v c.httpUrl).1
        httpUrl := (parseInto v c.httpUrl).2 }
  else if p.getName = "http_timeout_ms" then
    p.asInt.map fun v => { c with httpTimeoutMs := v }
  else if p.getName = "http_retry_count" then
    p.asInt.map fun v => { c with httpRetryCount := v }
  else if p.getName = "http_auth_type" then
    p.asString.map fun v => { c with httpAuthType := v }
  else if p.getName = "save_results" then
    p.asBool.map fun v => { c with saveResults := v }
  else if p.getName = "result_output_path" then
    p.asString.map fun v => { c with resultOutputPath := v }
  else if p.getName = "result_output_format" then
    p.asString.map fun v => { c with resultOutputFormat := v }
  else .ok c

/-- the branches that set `writer_inputs_changed` -/
def isWriterInput (p : Parameter) : Bool :=
  p.getName == "save_results" || p.getName == "result_output_path" ||
    p.getName == "result_output_format"

/-- the checks of `on_parameter_change` -/
def checkCandidate (candidate : Snapshot) : Except Bytes Unit :=
  if ¬ isKnownSendMode candidate.sendMode then
    .error (lit "send_mode must be one of: disabled, ros_topic, http, both")
  else match firstFailure [
      validateIntMin "http_timeout_ms" candidate.httpTimeoutMs 1,
      validateIntMin "http_retry_count" candidate.httpRetryCount 0] with
    | .error reason => .error reason
    | .ok _ =>
      if sendModeUsesHttp candidate.sendMode ∧ ¬ candidate.httpUrlValid then
        .error (lit "http_endpoint_url must be a valid http:// URL")
      else match parseDetectionResultFormat candidate.resultOutputFormat with
        | .error r => .error r.reason
        | .ok _ => .ok ()

/-- `started`: whether `worker_` is joinable -/
def ensureHttpWorkerStarted (started : Bool) (mode : Bytes) : Bool :=
  if ¬ sendModeUsesHttp mode then started
  else if started then started
  else true

/-- `opened`: whether the operating system opens the output file -/
def applyWriterConfig (writer : DetectionResultWriter) (snap : Snapshot) (opened : Bool) :
    DetectionResultWriter :=
  let wcfg : DetectionResultWriterConfig := {
    enabled := snap.saveResults
    path := snap.resultOutputPath
    format := match parseDetectionResultFormat snap.resultOutputFormat with
      | .ok format => format
      | .error _ => .kJsonLines }
  (writer.configure wcfg opened).2

/-- the members of the node that a batch can change -/
structure Members where
  snapshot : Snapshot
  writer : DetectionResultWriter := {}
  workerStarted : Bool := false
deriving DecidableEq

def onParameterChange (opened : Bool) (self : Members) (params : List Parameter) :
    Except ParameterError (SetParametersResult × Members) :=
  (params.foldlM applyParameter self.snapshot).map fun candidate =>
    match checkCandidate candidate with
    | .error reason => ({ successful := false, reason := reason }, self)
    | .ok _ =>
      ({}, {
        snapshot := candidate
        workerStarted := ensureHttpWorkerStarted self.workerStarted candidate.sendMode
        writer := if params.any isWriterInput then applyWriterConfig self.writer candidate opened
          else self.writer })

/-! ## the node -/

abbrev Node := ParameterNode Members

/-- the constructor -/
def start (others overrides : ParameterStore) (opened : Bool) :
    Except ParameterError (Except Bytes Node) :=
  startNode declared buildSnapshotFromParameters enforceInitialParameters
    (fun params snapshot => {
      params := params
      state := {
        snapshot := snapshot
        writer := applyWriterConfig {} snapshot opened
        workerStarted := ensureHttpWorkerStarted false snapshot.sendMode } }) others overrides

/-- one batch, with the answer of the operating system if the writer opens a file -/
def step (node : Node) (batch : List Parameter × Bool) : Node :=
  (setParametersAtomically (onParameterChange batch.2) node batch.1).2

def run (node : Node) (batches : List (List Parameter × Bool)) : Node := batches.foldl step node

end VD.DetectionSenderNode
