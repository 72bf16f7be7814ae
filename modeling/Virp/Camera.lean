import Mathlib.Data.List.MinMax
import Virp.Retention

/-! # The live camera producer

The `live` command of the camera program takes closed segment files from a work directory,
builds and signs a record for each, stages segment and body in the outbox, ships the pair to
the spool, appends a line to the checkpoint file, saves its state, and removes the file.  The
numbers of the records and the hash of the preceding segment come from the state.

When it starts it takes its state from the state file or, if that is behind, from the
checkpoint, and settles the files a previous run left, by modification time: a file the
checkpoint knows and an unfinalised partial are removed, a segment whose body is staged is
shipped with those bytes, any other is processed as usual.  Then it polls the directory, by name.

The process may be stopped between any two steps.  `mp4_duration_s`, its conversion to
nanoseconds and the validator are parameters.  The gap of a record always cites the preceding
number, which `build_body` accepts.
-/
namespace Virp

/-! ## Records -/

/-- The reason of a gap. -/
inductive GapReason where
  | driverRestart
  | captureDiscontinuity
deriving DecidableEq

def GapReason.name : GapReason → PyStr
  | driverRestart => "driver-restart".toList
  | captureDiscontinuity => "capture-discontinuity".toList

structure SegmentGap where
  reason : GapReason
  afterSeq : Nat
deriving DecidableEq

/-- What varies in the records of one camera; `σ` is the type of what the validator says. -/
structure SegmentBody (σ : Type) where
  segmentSeq : Nat
  segmentSha256 : PyStr
  prevSegmentSha256 : Option PyStr
  byteLen : Nat
  durationS : Rat
  captureStartNs : Int
  captureEndNs : Int
  gap : Option SegmentGap
  sensor : Option σ
deriving DecidableEq

/-- A record's identity: content and capture end. -/
abbrev SegmentKey := PyStr × Int

def SegmentBody.key {σ : Type} (b : SegmentBody σ) : SegmentKey :=
  (b.segmentSha256, b.captureEndNs)

/-- A line of the checkpoint file; its other two fields are for audit. -/
structure CheckpointRecord where
  segmentSeq : Nat
  segmentSha256 : PyStr
  captureEndNs : Int
deriving DecidableEq

/-- `shipped_key`. -/
def CheckpointRecord.key (r : CheckpointRecord) : SegmentKey := (r.segmentSha256, r.captureEndNs)

/-- The checkpoint line of a record. -/
def SegmentBody.line {σ : Type} (b : SegmentBody σ) : CheckpointRecord :=
  ⟨b.segmentSeq, b.segmentSha256, b.captureEndNs⟩

/-- `state.json`, as far as it is read. -/
structure LiveState where
  segmentSeq : Nat
  lastSegmentSha256 : PyStr
  lastEndNs : Int
deriving DecidableEq

/-- The state after the record of a checkpoint line. -/
def CheckpointRecord.state (r : CheckpointRecord) : LiveState :=
  ⟨r.segmentSeq, r.segmentSha256, r.captureEndNs⟩

/-- The configuration of a camera, and what the program takes from its libraries. -/
structure CameraEnv (σ : Type) where
  crypto : Crypto
  json : PyJson
  key : ProducerKey
  cameraId : PyStr
  device : PyStr
  capturePolicy : Option PyValue
  sensorValue : σ → PyValue
  /-- `mp4_duration_s`; `none` for a file without a complete `moov` -/
  durationS : Bytes → Option Rat
  /-- `int(duration * 1e9)` -/
  durationNs : Rat → Int

section Records

variable {σ : Type} (E : CameraEnv σ)

/-- The identity of a file. -/
def CameraEnv.fileKey (f : StoredFile) : SegmentKey :=
  (hexStr (E.crypto.sha256 f.data).bytes, f.mtimeNs)

/-- The schema a body claims. -/
def CameraEnv.schemaOf (sensor : Option σ) : PyStr :=
  match E.capturePolicy, sensor with
  | none, _ => "camera_segment/1".toList
  | some _, none => "camera_segment/2".toList
  | some _, some _ => "camera_segment/6".toList

def SegmentGap.value (g : SegmentGap) : PyValue :=
  .dict [("reason".toList, .str g.reason.name), ("after_seq".toList, .int g.afterSeq)]

/-- The fields of `build_body`. -/
def CameraEnv.fields (b : SegmentBody σ) : List (PyStr × PyValue) :=
  [("schema".toList, .str (E.schemaOf b.sensor)), ("camera_id".toList, .str E.cameraId),
    ("device".toList, .str E.device), ("segment_seq".toList, .int b.segmentSeq),
    ("segment_sha256".toList, .str b.segmentSha256),
    ("prev_segment_sha256".toList, (b.prevSegmentSha256.map PyValue.str).getD .none),
    ("byte_len".toList, .int b.byteLen), ("duration_s".toList, .float (some b.durationS)),
    ("capture_start_utc_ns".toList, .int b.captureStartNs),
    ("capture_end_utc_ns".toList, .int b.captureEndNs), ("encoder".toList, .str "copy".toList),
    ("time_source".toList, .str "host-clock".toList), ("mode".toList, .str "live".toList),
    ("gap".toList, (b.gap.map SegmentGap.value).getD .none),
    ("producer_key_id".toList, .str E.key.keyId)] ++
  (E.capturePolicy.map fun p => ("capture_policy".toList, p)).toList ++
  (b.sensor.map fun v => ("sensor_signature".toList, E.sensorValue v)).toList

/-- The signed bytes of a record. -/
def CameraEnv.bytes (b : SegmentBody σ) : Bytes :=
  E.json.canonicalBytes (producerSign E.crypto E.json E.key (E.fields b))

/-- `"%06d" % n`. -/
def paddedStr (n : Nat) : PyStr :=
  List.replicate (6 - (decimalStr n).length) '0' ++ decimalStr n

/-- `spool_job_name`, for a camera id that the configuration accepts. -/
def CameraEnv.jobName (b : SegmentBody σ) : PyStr :=
  E.cameraId ++ '.' :: paddedStr b.segmentSeq ++ '.' :: b.segmentSha256

end Records

def captureGapToleranceNs : Int := 2000000000

def continuityGap (state : Option LiveState) (startNs : Int) (pending : Option SegmentGap) :
    Option SegmentGap :=
  match pending, state with
  | some g, _ => some g
  | none, some st =>
    if captureGapToleranceNs < startNs - st.lastEndNs then
      some ⟨.captureDiscontinuity, st.segmentSeq⟩
    else none
  | none, none => none

/-- The number `process_live_segment` gives. -/
def nextSeq : Option LiveState → Nat
  | some st => st.segmentSeq + 1
  | none => 0

variable (shipped : List CheckpointRecord)

/-- `d[key] = r`, for the `dict` of shipped records. -/
def putRecord (r : CheckpointRecord) : List CheckpointRecord :=
  if shipped.any (·.key == r.key) then shipped.map fun x => if x.key = r.key then r else x
  else shipped ++ [r]

def checkpointLoad (lines : List CheckpointRecord) : List CheckpointRecord :=
  lines.foldl putRecord []

def shippedRecord (key : SegmentKey) : Option CheckpointRecord :=
  shipped.find? (·.key == key)

def resumeState (state : Option LiveState) (shipped : List CheckpointRecord) : Option LiveState :=
  match shipped.argmax (·.segmentSeq), state with
  | none, _ => state
  | some tail, some st => if tail.segmentSeq ≤ st.segmentSeq then some st else some tail.state
  | some tail, none => some tail.state

/-! ## The process -/

/-- What the polling loop keeps: the gap of the next record, what it knows of the names
(as size and modification time), and whether the capture child has exited. -/
structure LiveLoop where
  pendingGap : Option SegmentGap
  handled : PyStr → Option (Nat × Int)
  tried : PyStr → Option (Nat × Int)
  seen : PyStr → Option (Nat × Int)
  childDone : Bool

inductive CameraMode where
  | reconcile
  | live (loop : LiveLoop)

/-- What is left to do for a segment whose body is staged. -/
inductive WorkStage where
  | ship
  | checkpoint
  | save
  | unlink
deriving DecidableEq

/-- A segment being handed off, with the file as it was read; `reshipped` if its body was staged by an earlier run. -/
structure SegmentWork (σ : Type) where
  name : PyStr
  file : StoredFile
  body : SegmentBody σ
  reshipped : Bool
  stage : WorkStage

structure CameraProc (σ : Type) where
  shipped : List CheckpointRecord
  state : Option LiveState
  mode : CameraMode
  /-- the names left of this walk over the directory -/
  todo : List PyStr
  work : Option (SegmentWork σ)

/-- The durable files, and the process if it runs.  The outbox holds the staged bodies, each
under the name of its job and with its segment beside it. -/
structure CameraState (σ : Type) where
  workdir : List (PyStr × StoredFile)
  outbox : List (SegmentBody σ)
  checkpoint : List CheckpointRecord
  stateFile : Option LiveState
  proc : Option (CameraProc σ)

inductive CameraEvent (σ : Type) where
  /-- the capture child creates a file, or goes on with one it has not finalised -/
  | capture (name : PyStr) (file : StoredFile)
  | start
  /-- the polling loop lists the directory -/
  | poll (childDone : Bool)
  /-- the process takes its next step; the validator and the spool are asked if it needs them -/
  | next (sensor : σ) (delivery : Delivery)
  | crash

/-- What an event does that can be seen from outside. -/
inductive CameraAct (σ : Type) where
  | nothing
  | delivered (body : SegmentBody σ)
  | removed (file : StoredFile)
deriving DecidableEq

/-- What the process does next. -/
inductive CameraAction (σ : Type) where
  | wait
  /-- it exits, or an exception ends it -/
  | stop
  | goLive
  /-- the polling loop leaves a name for now -/
  | skip (loop : LiveLoop)
  /-- a file of a shipped record, or a partial, is removed -/
  | settle (name : PyStr) (file : StoredFile)
  | build (name : PyStr) (file : StoredFile) (durationS : Rat)
  | reship (name : PyStr) (file : StoredFile) (body : SegmentBody σ)
  | work (w : SegmentWork σ)

section Process

variable {σ : Type} (E : CameraEnv σ)

variable (workdir : List (PyStr × StoredFile))

def fileAt (name : PyStr) : Option StoredFile :=
  workdir.lookup name

def removeFile (name : PyStr) : List (PyStr × StoredFile) :=
  workdir.filter (·.1 ≠ name)

def putFile (name : PyStr) (file : StoredFile) : List (PyStr × StoredFile) :=
  (name, file) :: removeFile workdir name

def segmentNames : List PyStr :=
  sortedStrs ((workdir.map (·.1)).filter (".mp4".toList.isSuffixOf ·))

/-- The order of `_reconcile_workdir`. -/
def byMtime (names : List PyStr) : List PyStr :=
  names.insertionSort fun a b =>
    ((fileAt workdir a).map (·.mtimeNs)).getD 0 ≤ ((fileAt workdir b).map (·.mtimeNs)).getD 0

/-- `_staged_pair`: of the bodies staged for this content, by name from the last, the first
that names this capture end. -/
def stagedPair (outbox : List (SegmentBody σ)) (key : SegmentKey) : Option (SegmentBody σ) :=
  let bodies := (outbox.filter fun b => ('.' :: key.1).isSuffixOf (E.jobName b)).insertionSort
    fun a b => E.jobName a ≤ E.jobName b
  bodies.reverse.find? fun b => b.key == key

/-- Staging a body replaces what is under its name. -/
def stage (outbox : List (SegmentBody σ)) (b : SegmentBody σ) : List (SegmentBody σ) :=
  outbox.filter (fun x => E.jobName x ≠ E.jobName b) ++ [b]

/-- The body `process_live_segment` builds. -/
def liveBody (state : Option LiveState) (pending : Option SegmentGap) (f : StoredFile)
    (durationS : Rat) (sensor : σ) : SegmentBody σ where
  segmentSeq := nextSeq state
  segmentSha256 := (E.fileKey f).1
  prevSegmentSha256 := state.map (·.lastSegmentSha256)
  byteLen := f.data.length
  durationS := durationS
  captureStartNs := f.mtimeNs - E.durationNs durationS
  captureEndNs := f.mtimeNs
  gap := continuityGap state (f.mtimeNs - E.durationNs durationS) pending
  sensor := E.capturePolicy.map fun _ => sensor

def statSig (f : StoredFile) : Nat × Int := (f.data.length, f.mtimeNs)

/-- `d[name] = sig`. -/
def putSig (d : PyStr → Option (Nat × Int)) (name : PyStr) (sig : Nat × Int) :
    PyStr → Option (Nat × Int) :=
  fun n => if n = name then some sig else d n

/-- The walk of `_reconcile_workdir`. -/
def reconcileAction (s : CameraState σ) (p : CameraProc σ) : CameraAction σ :=
  match p.todo with
  | [] => .goLive
  | name :: _ =>
    match fileAt s.workdir name with
    | none => .stop
    | some f =>
      match shippedRecord p.shipped (E.fileKey f), E.durationS f.data with
      | some _, _ => .settle name f
      | none, none => .settle name f
      | none, some d =>
        match stagedPair E s.outbox (E.fileKey f) with
        | some b => .reship name f b
        | none => .build name f d

/-- The walk of the polling loop. -/
def liveAction (s : CameraState σ) (p : CameraProc σ) (loop : LiveLoop) : CameraAction σ :=
  match p.todo with
  | [] => if loop.childDone then .stop else .wait
  | name :: _ =>
    match fileAt s.workdir name with
    | none => .skip loop
    | some f =>
      let sig := statSig f
      if loop.handled name = some sig then .skip loop
      else if loop.tried name = some sig ∧ loop.childDone = false then .skip loop
      else if loop.childDone = false ∧ loop.seen name ≠ some sig then
        .skip { loop with seen := putSig loop.seen name sig }
      else match shippedRecord p.shipped (E.fileKey f), E.durationS f.data with
        | some _, _ => .settle name f
        | none, none =>
          if loop.childDone then .skip { loop with handled := putSig loop.handled name sig }
          else .skip { loop with tried := putSig loop.tried name sig }
        | none, some d => .build name f d

/-- What the process does next. -/
def cameraAction (s : CameraState σ) (p : CameraProc σ) : CameraAction σ :=
  match p.work, p.mode with
  | some w, _ => .work w
  | none, .reconcile => reconcileAction E s p
  | none, .live loop => liveAction E s p loop

/-- The gap the next record inherits: none while residue is settled. -/
def CameraProc.pendingGap (p : CameraProc σ) : Option SegmentGap :=
  match p.mode with
  | .reconcile => none
  | .live loop => loop.pendingGap

/-- The polling loop after a name was dealt with. -/
def CameraMode.handle (m : CameraMode) (name : PyStr) (f : StoredFile)
    (pendingGap : Option SegmentGap) : CameraMode :=
  match m with
  | .reconcile => .reconcile
  | .live loop =>
    .live { loop with pendingGap := pendingGap, handled := putSig loop.handled name (statSig f) }

/-- A refused segment: the exception ends reconciliation, and the polling loop breaks off. -/
def CameraState.refused (s : CameraState σ) (p : CameraProc σ) : CameraState σ :=
  match p.mode with
  | .reconcile => { s with proc := none }
  | .live _ => { s with proc := some { p with todo := [], work := none } }

/-- The steps of a hand-off, once the body is staged. -/
def workStep (s : CameraState σ) (p : CameraProc σ) (w : SegmentWork σ) (delivery : Delivery) :
    CameraState σ × CameraAct σ :=
  match w.stage with
  | .ship =>
    match delivery with
    | .accepted =>
      ({ s with proc := some { p with work := some { w with stage := .checkpoint } } },
        .delivered w.body)
    | .failed reached => (s.refused p, if reached then .delivered w.body else .nothing)
  | .checkpoint =>
    ({ s with
        checkpoint := s.checkpoint ++ [w.body.line]
        proc := some { p with work := some { w with stage := .save } } }, .nothing)
  | .save =>
    let state :=
      if w.reshipped then resumeState p.state [w.body.line] else some w.body.line.state
    let p' := { p with
      shipped := putRecord p.shipped w.body.line
      state := state
      work := some { w with stage := .unlink } }
    ({ s with stateFile := state, proc := some p' }, .nothing)
  | .unlink =>
    let p' := { p with mode := p.mode.handle w.name w.file none, todo := p.todo.tail, work := none }
    ({ s with workdir := removeFile s.workdir w.name, proc := some p' },
      match fileAt s.workdir w.name with
      | some f => .removed f
      | none => .nothing)

/-- The process takes its next step. -/
def actStep (s : CameraState σ) (p : CameraProc σ) (sensor : σ) (delivery : Delivery) :
    CameraState σ × CameraAct σ :=
  match cameraAction E s p with
  | .wait => (s, .nothing)
  | .stop => ({ s with proc := none }, .nothing)
  | .goLive =>
    let gap := p.state.map fun st => (⟨.driverRestart, st.segmentSeq⟩ : SegmentGap)
    let loop : LiveLoop := ⟨gap, fun _ => none, fun _ => none, fun _ => none, false⟩
    ({ s with proc := some { p with mode := .live loop } }, .nothing)
  | .skip loop => ({ s with proc := some { p with mode := .live loop, todo := p.todo.tail } }, .nothing)
  | .settle name f =>
    let p' := { p with mode := p.mode.handle name f p.pendingGap, todo := p.todo.tail }
    ({ s with workdir := removeFile s.workdir name, proc := some p' }, .removed f)
  | .build name f d =>
    let b := liveBody E p.state p.pendingGap f d sensor
    if artifactLimit ≤ (E.bytes b).length then (s.refused p, .nothing)
    else
      ({ s with
          outbox := stage E s.outbox b
          proc := some { p with work := some ⟨name, f, b, false, .ship⟩ } }, .nothing)
  | .reship name f b =>
    ({ s with proc := some { p with work := some ⟨name, f, b, true, .ship⟩ } }, .nothing)
  | .work w => workStep s p w delivery

/-- One event. -/
def cameraStep (s : CameraState σ) : CameraEvent σ → CameraState σ × CameraAct σ
  | .capture name file =>
    -- a finalised file is not written again
    if ((fileAt s.workdir name).bind fun f => E.durationS f.data).isSome then (s, .nothing)
    else ({ s with workdir := putFile s.workdir name file }, .nothing)
  | .start =>
    match s.proc with
    | some _ => (s, .nothing)
    | none =>
      let shipped := checkpointLoad s.checkpoint
      let p : CameraProc σ := {
        shipped := shipped
        state := resumeState s.stateFile shipped
        mode := .reconcile
        todo := byMtime s.workdir (segmentNames s.workdir)
        work := none }
      ({ s with proc := some p }, .nothing)
  | .poll childDone =>
    match s.proc with
    | some p =>
      match p.mode, p.todo, p.work with
      | .live loop, [], none =>
        if loop.childDone then (s, .nothing)
        else
          let p' := { p with
            mode := .live { loop with childDone := childDone }
            todo := segmentNames s.workdir }
          ({ s with proc := some p' }, .nothing)
      | _, _, _ => (s, .nothing)
    | none => (s, .nothing)
  | .next sensor delivery =>
    match s.proc with
    | some p => actStep E s p sensor delivery
    | none => (s, .nothing)
  | .crash => ({ s with proc := none }, .nothing)

/-- Before the first start. -/
def CameraState.init : CameraState σ := ⟨[], [], [], none, none⟩

end Process

end Virp
