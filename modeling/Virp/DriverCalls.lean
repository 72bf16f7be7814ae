import Virp.Execute

/-! # Driver results and answers

What a driver's results make of the answer to an execute request.  Along the program of a request
only its driver calls count here: the stage is the list of their results.
-/
namespace Virp

open Threads Prog Protocol

variable (L : Libs) (cfg : OnodeConfig)

/-- One more operation. -/
def addReturn (st : List DriverReturn) : (o : Op) → Op.Res o → List DriverReturn
  | .execute _, r => st ++ ([r] : List DriverReturn)
  | _, _ => st

/-- The results of the driver calls so far. -/
def driverCalls : Protocol Daemon (List DriverReturn) := ⟨[], addReturn, fun _ _ => True⟩

/-- Proof that a driver call dispatched nothing. -/
def DriverReturn.Undispatched (r : DriverReturn) : Prop :=
  r.failure = none ∧ r.result.success = false ∧ r.result.noDispatch = true

/-- Every operation but a driver call. -/
def Undriven : Op → Prop
  | .execute _ => False
  | _ => True

/-! ## Programs without driver calls -/

theorem undriven_op {o : Op} (h : Undriven o) : (perform (I := Daemon) o).Only Undriven :=
  only_perform.mpr h

theorem undriven_printWithin (cap : Nat) (o : Json) : (printWithin cap o).Only Undriven :=
  .bind (undriven_op trivial) fun _ => trivial

theorem undriven_gateSessionHex (g : GateContext) : (gateSessionHex g).Only Undriven := by
  rw [gateSessionHex]
  split
  · exact .bind (undriven_op trivial) fun _ => trivial
  · trivial

theorem undriven_loadProposal (id : Bytes) : (virpApprovalLoadProposal L id).Only Undriven := by
  rw [virpApprovalLoadProposal]
  split
  · trivial
  · exact .bind (undriven_op trivial) fun _ => .bind (undriven_op trivial) fun _ => trivial

theorem undriven_proposalEntryHash (id : Bytes) : (proposalEntryHash L cfg id).Only Undriven := by
  rw [proposalEntryHash]
  split
  · trivial
  · exact .bind (undriven_loadProposal L id) fun _ => trivial

theorem undriven_intentProposalHash (apr : Option Approved) :
    (intentProposalHash L cfg apr).Only Undriven := by
  cases apr with
  | none => trivial
  | some a =>
    simp only [intentProposalHash]
    split
    · exact undriven_proposalEntryHash L cfg _
    · trivial

theorem undriven_gateEmitIntent (g : GateContext) (apr : Option Approved) :
    (gateEmitIntent L cfg g apr).Only Undriven := by
  rw [gateEmitIntent]
  split
  · trivial
  refine .bind (undriven_op trivial) fun degraded => ?_
  split
  · trivial
  refine .bind (undriven_gateSessionHex g) fun _ => .bind (undriven_op trivial) fun _ =>
    .bind (undriven_intentProposalHash L cfg apr) fun _ => .bind (undriven_op trivial) fun body => ?_
  cases body with
  | none => trivial
  | some body => exact undriven_op trivial

/-- An append whose failure marks the daemon degraded, perhaps. -/
theorem undriven_marked {r : Except VirpError Entry} (marked : Bool) : (match r with
      | .ok _ => pure none
      | .error err => do
        if marked then Sys.markDegraded
        pure (some err) : DProg (Option VirpError)).Only Undriven := by
  cases r with
  | ok e => trivial
  | error err =>
    cases marked with
    | true => exact .bind (undriven_op trivial) fun _ => trivial
    | false => trivial

theorem undriven_gateEmitExecution (g : GateContext) (intent : Option Entry)
    (r : Option ExecResult) (msg : Option Bytes) :
    (gateEmitExecution L cfg g intent r msg).Only Undriven := by
  rw [gateEmitExecution]
  split
  · trivial
  exact .bind (undriven_gateSessionHex g) fun _ => .bind (undriven_op trivial) fun _ =>
    .bind (undriven_op trivial) fun _ => undriven_marked _

theorem undriven_approvalEmitOutcome (a : Approved) (device : Bytes) (success : Bool)
    (intent : Option Entry) : (approvalEmitOutcome L cfg a device success intent).Only Undriven := by
  rw [approvalEmitOutcome]
  split
  · trivial
  exact .bind (undriven_proposalEntryHash L cfg _) fun _ =>
    .bind (undriven_op trivial) fun _ => undriven_marked true

theorem undriven_replayRefusalRecord (device id command : Bytes) :
    (replayRefusalRecord L cfg device id command).Only Undriven := by
  rw [replayRefusalRecord]
  split
  · trivial
  refine .bind (undriven_op trivial) fun recorded => ?_
  cases recorded with
  | error err => exact .bind (undriven_op trivial) fun _ => trivial
  | ok recorded =>
    refine .bind (undriven_op trivial) fun body => ?_
    cases body with
    | none => trivial
    | some body =>
      exact .bind (undriven_op trivial) fun _ => .bind (undriven_op trivial) fun _ =>
        undriven_marked true

theorem undriven_emitRejection (session : Bytes) (object : Json) (msg : Bytes) :
    (emitRejection L cfg session object msg).Only Undriven := by
  rw [emitRejection]
  split
  · trivial
  · exact .bind (undriven_op trivial) fun _ => .bind (undriven_op trivial) fun _ => trivial

theorem undriven_proposalChainEntry (p : ProposalRec) (body : Bytes) :
    (proposalChainEntry L cfg p body).Only Undriven := by
  rw [proposalChainEntry]
  split
  · trivial
  · exact .bind (undriven_op trivial) fun _ => trivial

theorem undriven_fileProposal (p : ProposalRec) : (fileProposal L cfg p).Only Undriven := by
  refine .bind (undriven_printWithin _ _) fun body => ?_
  cases body with
  | none => trivial
  | some body =>
    refine .bind (undriven_proposalChainEntry L cfg p body) fun r => ?_
    cases r with
    | error err => trivial
    | ok p => exact .bind (undriven_op trivial) fun _ => trivial

theorem undriven_propose (dev : Device) (command : Bytes) (typedProfile : Option Bytes)
    (proposer tierName : Bytes) :
    (virpApprovalPropose L cfg dev command typedProfile proposer tierName).Only Undriven := by
  refine .bind (undriven_op trivial) fun dirs => ?_
  cases dirs with
  | some err => trivial
  | none =>
    refine .bind (undriven_op trivial) fun rnd => ?_
    split
    · trivial
    · trivial
    · exact .bind (undriven_op trivial) fun _ => undriven_fileProposal L cfg _

theorem undriven_approvalProposerId (g : GateContext) : (approvalProposerId g).Only Undriven := by
  rw [approvalProposerId]
  split
  · exact .bind (undriven_op trivial) fun _ => trivial
  · trivial

theorem undriven_offerProposal (dev : Device) (g : GateContext) (msg : Bytes) :
    (offerProposal L cfg dev g msg).Only Undriven := by
  rw [offerProposal]
  split
  · trivial
  exact .bind (undriven_approvalProposerId g) fun _ =>
    .bind (undriven_propose L cfg dev _ _ _ _) fun _ => trivial

theorem undriven_consumeOnceLocked (id : Bytes) : (consumeOnceLocked id).Only Undriven := by
  refine .bind (undriven_op trivial) fun file => ?_
  dsimp only
  split
  · trivial
  split
  · trivial
  · exact undriven_op trivial

theorem undriven_commitConsumeLocked (id : Bytes) :
    (virpApprovalCommitConsumeLocked id).Only Undriven := by
  rw [virpApprovalCommitConsumeLocked]
  split
  · trivial
  · exact undriven_consumeOnceLocked id

theorem undriven_commitConsume (id : Bytes) : (virpApprovalCommitConsume id).Only Undriven := by
  rw [virpApprovalCommitConsume]
  split
  · trivial
  exact .bind (undriven_op trivial) fun _ => .bind (undriven_consumeOnceLocked id) fun _ =>
    .bind (undriven_op trivial) fun _ => trivial

theorem undriven_replayGuard (a : Approved) : (replayGuard a).Only Undriven := by
  rw [replayGuard]
  split
  · trivial
  · exact .bind (undriven_op trivial) fun _ => trivial

theorem undriven_consumeApproval (g : GateContext) (a : Approved) :
    (consumeApproval L cfg g a).Only Undriven := by
  refine .bind (undriven_op trivial) fun now => ?_
  split
  · trivial
  refine .bind (undriven_replayGuard a) fun reused => ?_
  split
  · trivial
  refine .bind (undriven_gateEmitIntent L cfg g (some a)) fun r => ?_
  cases r with
  | error err => trivial
  | ok e => exact .bind (undriven_commitConsumeLocked _) fun _ => trivial

theorem undriven_verifyApproval (dev : Device) (g : GateContext) (id : Bytes) :
    (verifyApproval L cfg dev g id).Only Undriven := by
  rw [verifyApproval]
  split
  · split
    · trivial
    · exact .bind (undriven_op trivial) fun _ => .bind (undriven_op trivial) fun _ => trivial
  · trivial

theorem undriven_sessionRefusal (req : Request) (command : Bytes) (wrappingV3 : Bool) :
    (sessionRefusal req command wrappingV3).Only Undriven := by
  rw [sessionRefusal]
  split
  · exact .bind (undriven_op trivial) fun _ => trivial
  · trivial

theorem undriven_checkLive (g : GateContext) (apr : Option Approved) :
    (checkLive g apr).Only Undriven := by
  rw [checkLive]
  split
  · exact undriven_op trivial
  · trivial

variable {msg : Bytes} {reply : Reply} {r : ExecResult}

/-! ## Along a request -/

section
variable {L cfg} {α β : Type} {st : List DriverReturn}

/-- A program without driver calls leaves the stage as it is. -/
theorem follows_undriven {p : DProg α} (hp : p.Only Undriven) :
    driverCalls.Follows (fun _ st' => st' = st) st p := by
  refine follows_of_only (fun st' o hst ho => ⟨trivial, fun r => ?_⟩) hp rfl
  rw [← hst]
  cases o with
  | execute d => exact ho.elim
  | _ => rfl

theorem follows_undriven_bind {p : DProg α} {f : α → DProg β} {post : β → List DriverReturn → Prop}
    (hp : p.Only Undriven) (hf : ∀ a, driverCalls.Follows post st (f a)) :
    driverCalls.Follows post st (p >>= f) := by
  refine follows_bind.mpr ((follows_undriven hp).mono ?_)
  rintro a _ rfl
  exact hf a

/-- The answer is no device output. -/
def Reply.NoOutput (reply : Reply) : Prop := ∀ obs, reply = .ok obs → obs.kind ≠ .deviceOutput

theorem noOutput_error (err : VirpError) : Reply.NoOutput (.error err) := nofun

variable {post : Reply → List DriverReturn → Prop}

theorem follows_buildObs {obs : Observation} (herr : ∀ err, post (.error err) st)
    (hok : post (.ok obs) st) : driverCalls.Follows post st (buildObs obs) := by
  refine follows_undriven_bind (undriven_op trivial) fun _ =>
    follows_undriven_bind (undriven_op trivial) fun err => ?_
  cases err with
  | some err => exact herr err
  | none => exact hok

theorem follows_errorObs {nodeId : UInt32} {tier : Tier}
    (h : ∀ reply : Reply, reply.NoOutput → post reply st) :
    driverCalls.Follows post st (errorObs nodeId tier msg) := by
  refine follows_buildObs (fun err => h _ (noOutput_error err)) (h _ ?_)
  rintro _ ⟨⟩
  exact nofun

theorem follows_closeWithError {dev : Device} {g : GateContext} {apr : Option Approved}
    {intent : Option Entry} {result : Option ExecResult}
    (h : ∀ reply : Reply, reply.NoOutput → post reply st) :
    driverCalls.Follows post st (closeWithError L cfg dev g apr intent result msg) := by
  cases apr with
  | none =>
    exact follows_undriven_bind (undriven_gateEmitExecution ..) fun _ => follows_errorObs h
  | some a =>
    refine follows_undriven_bind (undriven_approvalEmitOutcome ..) fun err => ?_
    split
    · exact follows_errorObs h
    · exact follows_errorObs h

/-- An answer that is device output carries the given bytes. -/
def Reply.Carries (payload : Bytes) (reply : Reply) : Prop :=
  ∀ obs, reply = .ok obs → obs.kind = .deviceOutput → obs.payload = payload

theorem Reply.NoOutput.carries (h : reply.NoOutput) (payload : Bytes) : reply.Carries payload :=
  fun obs hobs hkind => absurd hkind (h obs hobs)

theorem follows_buildOutput {dev : Device} {g : GateContext}
    (h : ∀ reply : Reply, reply.Carries r.output → post reply st) :
    driverCalls.Follows post st (buildOutput dev g r) := by
  have herr : ∀ err, post (.error err) st := fun err => h _ ((noOutput_error err).carries _)
  have hok : post (.ok ⟨dev.nodeId, .deviceOutput, gateObsTier g.tier, r.output⟩) st :=
    h _ (by rintro _ ⟨⟩ -; rfl)
  rw [buildOutput]
  split
  · refine follows_undriven_bind (undriven_op trivial) fun err => ?_
    cases err with
    | some err => exact herr err
    | none => exact hok
  · exact follows_buildObs herr hok

theorem follows_closeWithOutput {dev : Device} {g : GateContext} {apr : Option Approved}
    {intent : Option Entry} (h : ∀ reply : Reply, reply.Carries r.output → post reply st) :
    driverCalls.Follows post st (closeWithOutput L cfg dev g apr intent r) := by
  have hno : ∀ reply : Reply, reply.NoOutput → post reply st := fun _ hno => h _ (hno.carries _)
  cases apr with
  | none =>
    refine follows_undriven_bind (undriven_gateEmitExecution ..) fun err => ?_
    split
    · exact follows_errorObs hno
    · exact follows_buildOutput h
  | some a =>
    refine follows_bind.mpr (follows_buildOutput fun reply hreply => ?_)
    refine follows_undriven_bind (undriven_approvalEmitOutcome ..) fun err => ?_
    split
    · exact follows_errorObs hno
    · exact h reply hreply

end

/-! ## What a result makes of the answer -/

/-- The driver proves that nothing was dispatched. -/
def ExecResult.ProvesNotSent (r : ExecResult) : Prop :=
  r.noDispatch = true ∨ r.disposition = .notSent
deriving Decidable

/-- A result that proves it is not taken for a success: the driver failed, called the outcome
unknown, or denies success with a reason of which something is left after scrubbing. -/
def DriverReturn.Heeded (r : DriverReturn) : Prop :=
  r.failure = none → r.result.ProvesNotSent →
    r.result.disposition = .executedUnknown ∨
      (r.result.success = false ∧ snprintfS 256 (L.scrub r.result.errorMsg.bytes) ≠ [])
deriving Decidable

/-- The output as it is signed. -/
def signedOutput (g : GateContext) (r : ExecResult) : Bytes :=
  (L.scrub (L.filterBody g.drv.name.bytes g.command r.output)).take (captureLimit g)

/-- A device output that answers for a result is its output, and the result proves no more than it
should. -/
def Reply.Settles (g : GateContext) (r : DriverReturn) (reply : Reply) : Prop :=
  reply.Carries (signedOutput L g r.result) ∧
    (r.Heeded L → r.result.ProvesNotSent → reply.NoOutput)

/-- What a request has come to: at most two driver calls, the second only after proof that the
first dispatched nothing and without a policy; and an answer for the last. -/
structure Settled (g : GateContext) (policed : Bool) (reply : Reply) (st : List DriverReturn) :
    Prop where
  calls : st = [] ∨ (∃ r, st = [r]) ∨ ∃ r r', st = [r, r'] ∧ r.Undispatched ∧ policed = false
  output : reply.NoOutput ∨ ∃ r, st.getLast? = some r ∧ reply.Settles L g r

section
variable {L cfg} {st : List DriverReturn} {post : Reply → List DriverReturn → Prop}
  {dev : Device} {g : GateContext} {apr : Option Approved} {intent : Option Entry}

theorem Reply.NoOutput.settles (h : reply.NoOutput) (r : DriverReturn) : reply.Settles L g r :=
  ⟨h.carries _, fun _ _ => h⟩

theorem output_capture (r : ExecResult) :
    (capture g (scrubResult L g r)).output = signedOutput L g r := by
  rw [capture]
  split
  · rfl
  · next h => exact (List.take_of_length_le (Nat.not_lt.mp h)).symm

theorem isUnknown_scrubResult (hu : r.disposition = .executedUnknown) :
    (scrubResult L g r).isUnknown = true := by
  simp [ExecResult.isUnknown, scrubResult, hu]

theorem refused_of_provesNotSent (h : r.ProvesNotSent) (hs : r.success = false)
    (hmsg : snprintfS 256 (L.scrub r.errorMsg.bytes) ≠ []) :
    (scrubResult L g r).refused = true := by
  rcases h with h | h <;> simp [ExecResult.refused, scrubResult, hs, h, hmsg]

theorem follows_settle {r : DriverReturn} (hok : r.failure = none)
    (h : ∀ reply : Reply, reply.Settles L g r → post reply st) :
    driverCalls.Follows post st (settle L cfg dev g apr intent r.result) := by
  have hno : ∀ reply : Reply, reply.NoOutput → post reply st := fun _ hno => h _ (hno.settles r)
  simp only [settle]
  split
  · exact follows_undriven_bind (undriven_op trivial) fun _ => follows_closeWithError hno
  next hunknown =>
  split
  · exact follows_closeWithError hno
  next hrefused =>
  refine follows_closeWithOutput fun reply hreply => h reply ⟨?_, ?_⟩
  · rwa [output_capture] at hreply
  · intro hheeded hproves
    rcases hheeded hok hproves with hu | ⟨hs, hmsg⟩
    · exact absurd (isUnknown_scrubResult hu) hunknown
    · exact absurd (refused_of_provesNotSent hproves hs hmsg) hrefused

theorem follows_afterExecute {retry : Bool} {r : DriverReturn}
    (h : ∀ reply : Reply, reply.Settles L g r → post reply st) :
    driverCalls.Follows post st (afterExecute L cfg dev g apr intent retry r) := by
  rw [afterExecute]
  split
  · exact follows_undriven_bind (undriven_op trivial) fun _ =>
      follows_closeWithError fun _ hno => h _ (hno.settles r)
  · next hok => exact follows_settle hok h

/-- The driver is called a second time only after proof, without a policy. -/
theorem shouldRetry_eq_true {policed : Bool} {r : DriverReturn}
    (h : shouldRetry policed r = true) : r.Undispatched ∧ policed = false := by
  simp only [shouldRetry, Bool.and_eq_true, Bool.not_eq_true', Option.isNone_iff_eq_none] at h
  exact ⟨⟨h.1.1.2, h.1.2, h.2⟩, h.1.1.1⟩

theorem follows_dispatch {policed : Bool} :
    driverCalls.Follows (fun a st => Settled L g policed a.1 st) []
      (dispatch L cfg dev g apr intent policed) := by
  refine follows_bind.mpr ⟨trivial, fun r => ?_⟩
  have hone : ∀ reply : Reply, reply.Settles L g r → Settled L g policed reply [r] :=
    fun reply hreply => ⟨.inr (.inl ⟨r, rfl⟩), .inr ⟨r, rfl, hreply⟩⟩
  show driverCalls.Follows (fun (a : Reply × Bool) st => Settled L g policed a.1 st) [r] _
  split
  · next hretry =>
    obtain ⟨hproof, hpolicy⟩ := shouldRetry_eq_true hretry
    refine follows_undriven_bind (undriven_op trivial) fun _ =>
      follows_undriven_bind (undriven_op trivial) fun again => ?_
    split
    · refine follows_bind.mpr ⟨trivial, fun r' => ?_⟩
      show driverCalls.Follows (fun (a : Reply × Bool) st => Settled L g policed a.1 st) [r, r'] _
      refine follows_bind.mpr (follows_afterExecute fun reply hreply => ?_)
      exact
        ⟨.inr (.inr ⟨r, r', rfl, hproof, hpolicy⟩), .inr ⟨r', rfl, hreply⟩⟩
    · exact follows_bind.mpr (follows_settle hproof.1 hone)
  · exact follows_bind.mpr (follows_afterExecute hone)

variable {policed : Bool}

/-- Nothing was called. -/
theorem settled_noOutput (h : reply.NoOutput) : Settled L g policed reply [] := ⟨.inl rfl, .inl h⟩

theorem follows_refuseApply {id : Bytes} {err : VirpError}
    (h : ∀ reply : Reply, reply.NoOutput → post reply st) :
    driverCalls.Follows post st (refuseApply L cfg dev g id err msg) := by
  rw [refuseApply]
  split
  · refine follows_undriven_bind (undriven_replayRefusalRecord ..) fun rec => ?_
    cases rec with
    | some err => exact h _ (noOutput_error err)
    | none => exact follows_errorObs h
  · exact follows_errorObs h

theorem follows_gateRefuseObs {g' : GateContext}
    (h : ∀ reply : Reply, reply.NoOutput → post reply st) :
    driverCalls.Follows post st (gateRefuseObs L cfg dev g') :=
  follows_undriven_bind (undriven_offerProposal ..) fun _ =>
    follows_undriven_bind (undriven_emitRejection ..) fun _ => follows_errorObs h

/-- The intent is recorded, or the request is refused. -/
theorem follows_recordIntent {post : Except Reply (Option Entry) → List DriverReturn → Prop}
    (hok : ∀ intent, post (.ok intent) st)
    (hno : ∀ reply : Reply, reply.NoOutput → post (.error reply) st) :
    driverCalls.Follows post st (recordIntent L cfg dev g apr) := by
  have hevidence : ∀ err, driverCalls.Follows post st (do
      let reply ← gateRefuseEvidenceObs cfg dev g err
      pure (.error reply)) := fun err => follows_bind.mpr (follows_errorObs hno)
  have hrefuse : ∀ id err msg, driverCalls.Follows post st (do
      let reply ← refuseApply L cfg dev g id err msg
      pure (.error reply)) := fun id err msg => follows_bind.mpr (follows_refuseApply hno)
  unfold recordIntent
  split
  · refine follows_undriven_bind (undriven_op trivial) fun _ =>
      follows_undriven_bind (undriven_consumeApproval ..) fun c =>
        follows_undriven_bind (undriven_op trivial) fun _ => ?_
    cases c with
    | committed e => exact hok _
    | expired => exact hrefuse _ _ _
    | reused => exact hrefuse _ _ _
    | unrecorded err => exact hevidence err
  · refine follows_undriven_bind (undriven_gateEmitIntent ..) fun r => ?_
    cases r with
    | ok e => exact hok _
    | error err => exact hevidence err
  · refine follows_undriven_bind (undriven_commitConsume _) fun err => ?_
    cases err with
    | none => exact hok _
    | some err => exact hrefuse _ _ _
  · exact hok _

theorem follows_afterConnect (ticket : Option Nat) :
    driverCalls.Follows (fun f st => Settled L g ticket.isSome f.reply st) []
      (afterConnect L cfg dev g apr ticket) := by
  refine follows_bind.mpr (follows_recordIntent (fun intent => ?_) fun reply hno => ?_)
  · exact follows_bind.mpr (follows_dispatch.mono fun a st h => h)
  · exact settled_noOutput hno

theorem follows_connectAndRun (ticket : Option Nat) :
    driverCalls.Follows (fun f st => Settled L g ticket.isSome f.reply st) []
      (connectAndRun L cfg dev g apr ticket) := by
  refine follows_undriven_bind (undriven_op trivial) fun connected => ?_
  split
  · exact follows_bind.mpr (follows_errorObs fun reply hno => settled_noOutput hno)
  refine follows_undriven_bind (undriven_checkLive g apr) fun dead => ?_
  cases dead with
  | none => exact follows_afterConnect ticket
  | some err =>
    exact follows_undriven_bind (undriven_op trivial) fun _ =>
      follows_bind.mpr (follows_errorObs fun reply hno => settled_noOutput hno)

variable {call : Option (Policy × PolicyAction)}

theorem follows_admitted : driverCalls.Follows (fun f st => Settled L g call.isSome f.reply st) []
      (admitted L cfg dev g apr call) := by
  cases call with
  | none => exact follows_connectAndRun none
  | some c =>
    refine follows_undriven_bind (undriven_op trivial) fun r => ?_
    cases r with
    | ok ticket => exact follows_connectAndRun (some ticket)
    | error why =>
      exact follows_bind.mpr (follows_gateRefuseObs fun reply hno => settled_noOutput hno)

theorem follows_gateDecide {id : Bytes} :
    driverCalls.Follows (fun f st => Settled L g call.isSome f.reply st) []
      (gateDecide L cfg dev g id call) := by
  have hrefuse : driverCalls.Follows (fun (f : Finished) st => Settled L g call.isSome f.reply st) []
      (do
        let reply ← gateRefuseObs L cfg dev g
        pure ⟨reply, none, false⟩) :=
    follows_bind.mpr (follows_gateRefuseObs fun reply hno => settled_noOutput hno)
  rw [gateDecide]
  split
  · exact hrefuse
  split
  · split
    · refine follows_undriven_bind (undriven_verifyApproval ..) fun r => ?_
      cases r with
      | ok a => exact follows_admitted
      | error err =>
        exact follows_bind.mpr (follows_refuseApply fun reply hno => settled_noOutput hno)
    · exact hrefuse
  · exact follows_admitted

/-- **What a request comes to**: nothing, or what was made of its driver's results. -/
theorem follows_onodeExecuteLegacy (req : Request) (command : Bytes) (wrappingV3 : Bool) :
    driverCalls.Follows (fun f st => (f.reply.NoOutput ∧ st = []) ∨
        ∃ dev drv, findDevice cfg.devices req.device.bytes = some dev ∧
          cfg.drivers dev.vendor = some drv ∧
          Settled L (gateContext cfg drv req command wrappingV3 call) call.isSome f.reply st) []
      (onodeExecuteLegacy L cfg req command wrappingV3 call) := by
  rw [onodeExecuteLegacy]
  split
  · refine follows_undriven_bind (undriven_emitRejection ..) fun _ => ?_
    exact follows_bind.mpr (follows_errorObs fun reply hno => .inl ⟨hno, rfl⟩)
  refine follows_undriven_bind (undriven_sessionRefusal ..) fun refusal => ?_
  cases refusal with
  | some err => exact .inl ⟨noOutput_error err, rfl⟩
  | none =>
    simp only [routeRequest]
    split
    · exact follows_bind.mpr (follows_errorObs fun reply hno => .inl ⟨hno, rfl⟩)
    next dev hdev =>
    split
    · exact follows_bind.mpr (follows_errorObs fun reply hno => .inl ⟨hno, rfl⟩)
    · next drv hdrv =>
      exact follows_gateDecide.mono fun f st h => .inr ⟨dev, drv, hdev, hdrv, h⟩

end

/-! ## A proof that is not heeded -/

section
variable {L cfg} {st : List DriverReturn} {dev : Device} {g : GateContext}

theorem not_isUnknown_scrubResult (hproves : r.ProvesNotSent)
    (hu : r.disposition ≠ .executedUnknown) : (scrubResult L g r).isUnknown = false := by
  rcases hproves with h | h <;> simp [ExecResult.isUnknown, scrubResult, hu, h]

theorem not_refused_scrubResult
    (h : ¬ (r.success = false ∧ snprintfS 256 (L.scrub r.errorMsg.bytes) ≠ [])) :
    (scrubResult L g r).refused = false := by
  by_cases hs : r.success = false
  · have hmsg : snprintfS 256 (L.scrub r.errorMsg.bytes) = [] := by
      by_contra hne
      exact h ⟨hs, hne⟩
    simp [ExecResult.refused, scrubResult, hmsg]
  · simp [ExecResult.refused, scrubResult, Bool.eq_true_of_not_eq_false hs]

/-- Without a chain, a result that is neither unknown nor refused is signed as device output. -/
theorem ends_settle (hchain : cfg.chain = none) (hversion : g.obsVersion ≠ 2)
    (hu : (scrubResult L g r).isUnknown = false) (hr : (scrubResult L g r).refused = false) :
    driverCalls.Ends (.ok ⟨dev.nodeId, .deviceOutput, gateObsTier g.tier, signedOutput L g r⟩) st st
      (settle L cfg dev g none none r) := by
  have hemit : gateEmitExecution L cfg g none (some (capture g (scrubResult L g r))) none =
      pure none := by
    rw [gateEmitExecution, hchain]
    rfl
  have hchained : unchained cfg none none = none := ite_self none
  simp only [settle, hu, hr, Bool.false_eq_true, if_false, closeWithOutput, hemit]
  refine .bind (ends_pure none) ?_
  rw [hchained]
  show driverCalls.Ends _ st st (buildOutput dev g _)
  rw [buildOutput, if_neg hversion, output_capture]
  exact ⟨(0 : UInt32), (none : Option VirpError), rfl, rfl⟩

theorem ends_op (o : Op) (r : Op.Res o) :
    driverCalls.Ends r (addReturn st o r) st (perform (I := Daemon) o) := ⟨r, rfl, rfl⟩

/-- One driver call whose proof of non-dispatch is not heeded, and no connection for another. -/
theorem ends_dispatch (hchain : cfg.chain = none) (hversion : g.obsVersion ≠ 2) {r : DriverReturn}
    (hok : r.failure = none) (hu : (scrubResult L g r.result).isUnknown = false)
    (hr : (scrubResult L g r.result).refused = false) :
    driverCalls.Ends (.ok ⟨dev.nodeId, .deviceOutput, gateObsTier g.tier, signedOutput L g r.result⟩,
      r.known) [r] [] (dispatch L cfg dev g none none false) := by
  refine .bind (ends_op (.execute _) r) ?_
  show driverCalls.Ends _ [r] [r] _
  split
  · refine .bind (ends_op (.drop _) ()) ?_
    refine .bind (ends_op (.connect _) false) ?_
    exact .bind (ends_settle hchain hversion hu hr) (ends_pure _)
  · refine .bind ?_ (ends_pure _)
    rw [afterExecute, hok]
    exact ends_settle hchain hversion hu hr

end

namespace DriverSample

def device : Device :=
  ⟨.copy 64 (text "r1"), .copy 256 (text "192.0.2.1"), 22, .copy 64 (text "admin"), .mock, 7, 9, true⟩

/-- A driver whose commands are all GREEN. -/
def driver : Driver := ⟨.copy 32 (text "mock"), some fun _ => .green, none, false, none⟩

/-- A daemon with one device, without a chain and without a policy. -/
def config : OnodeConfig where
  nodeId := 1
  serverId := .empty 64
  devices := [device]
  drivers _ := some driver
  gateDefaultMode := .enforce
  gateOverrides := []
  gateMaxTier := .green
  uidCeilings := []
  evidenceRequired := false
  approvalDir := false
  approvers := none
  chain := none
  obsKey := none
  executeV3 := false
  policy := none

def request : Request :=
  ⟨.copy 64 (text "r1"), .copy 1024 (text "show version"), .empty 33, 1, 1000⟩

/-- The gate's view of the request. -/
def context : GateContext := gateContext config driver request (text "show version") false none

/-- The request comes to a driver call. -/
theorem ends_request {L : Libs} {known : Bool} {rs : List DriverReturn}
    (h : driverCalls.Ends (reply, known) rs [] (dispatch L config device context none none false)) :
    driverCalls.Ends ⟨reply, none, known⟩ rs []
      (onodeExecuteLegacy L config request (text "show version") false none) := by
  have hseparators : commandCheckSeparators (text "show version") = none := by decide +kernel
  have hdevice : findDevice config.devices request.device.bytes = some device := by
    rw [findDevice]
    rfl
  have hgate : gateDecide L config device context request.proposalId.bytes none =
      connectAndRun L config device context none none := by
    rw [gateDecide, if_neg (by decide +kernel), if_neg (by decide +kernel)]
    rfl
  rw [onodeExecuteLegacy, hseparators]
  refine .bind (ends_pure none) ?_
  show driverCalls.Ends _ rs [] (routeRequest ..)
  simp only [routeRequest, hdevice]
  show driverCalls.Ends _ rs [] (gateDecide L config device context request.proposalId.bytes none)
  rw [hgate]
  refine .bind (ends_op (.connect _) true) (.bind (ends_pure none) (.bind (ends_pure (Except.ok none)) ?_))
  exact .bind h (ends_pure _)

end DriverSample

/-- What is asked of the answer after the results `rs`, of which `r` is the last. -/
def AnswersFor (L : Libs) (cfg : OnodeConfig) (req : Request) (command : Bytes) (wrappingV3 : Bool)
    (call : Option (Policy × PolicyAction)) (r : DriverReturn) (rs : List DriverReturn)
    (reply : Reply) : Prop :=
  (∀ obs, reply = .ok obs → obs.kind = .deviceOutput →
    ¬ r.result.ProvesNotSent ∧
    ∃ dev drv, findDevice cfg.devices req.device.bytes = some dev ∧
      cfg.drivers dev.vendor = some drv ∧
      obs.payload <+: L.scrub (L.filterBody drv.name.bytes command r.result.output) ∧
      obs.payload.length ≤ captureLimit (gateContext cfg drv req command wrappingV3 call)) ∧
  ∀ r₁ r₂ more, rs = r₁ :: r₂ :: more → r₁.result.ProvesNotSent ∧ call = none

/-- What a request comes to is what is asked for, if its last result is heeded. -/
theorem answersFor_of_settled {L : Libs} {cfg : OnodeConfig} {req : Request} {command : Bytes}
    {wrappingV3 : Bool} {call : Option (Policy × PolicyAction)} {dev : Device} {drv : Driver}
    (hdev : findDevice cfg.devices req.device.bytes = some dev)
    (hdrv : cfg.drivers dev.vendor = some drv) {r : DriverReturn} {rs : List DriverReturn}
    (h : Settled L (gateContext cfg drv req command wrappingV3 call) call.isSome reply rs)
    (hlast : rs.getLast? = some r) (hheeded : r.Heeded L) :
    AnswersFor L cfg req command wrappingV3 call r rs reply := by
  refine ⟨fun obs hobs hkind => ?_, fun r₁ r₂ more hrs => ?_⟩
  · rcases h.output with hno | ⟨r', hr', hsettles⟩
    · exact absurd hkind (hno obs hobs)
    obtain rfl : r = r' := Option.mem_unique hlast hr'
    refine ⟨fun hproves => hsettles.2 hheeded hproves obs hobs hkind, dev, drv, hdev, hdrv, ?_⟩
    rw [hsettles.1 obs hobs hkind]
    exact ⟨List.take_prefix .., List.length_take_le ..⟩
  · rcases h.calls with rfl | ⟨_, rfl⟩ | ⟨_, _, rfl, hproof, hpolicy⟩
    · cases hrs
    · cases hrs
    cases hrs
    exact ⟨.inl hproof.2.2, Option.isNone_iff_eq_none.mp (by rw [← Option.not_isSome, hpolicy]; rfl)⟩

/-- **Proof of non-dispatch and device output.**  A request for which the driver was not called is
never answered with device output.  For every result of the driver: all requests it is the last
result of are answered as they should be, exactly if it does not prove non-dispatch or its proof is
heeded. -/
theorem execute_output_iff (L : Libs) :
    (∀ cfg req command wrappingV3 call f,
      driverCalls.Ends f [] [] (onodeExecuteLegacy L cfg req command wrappingV3 call) →
        f.reply.NoOutput) ∧
    ∀ r : DriverReturn,
      (∀ cfg req command wrappingV3 call f rs,
        driverCalls.Ends f rs [] (onodeExecuteLegacy L cfg req command wrappingV3 call) →
          rs.getLast? = some r → AnswersFor L cfg req command wrappingV3 call r rs f.reply) ↔
      r.Heeded L := by
  refine ⟨fun cfg req command wrappingV3 call f hends => ?_, fun r => ⟨fun hall => ?_, ?_⟩⟩
  · rcases (follows_onodeExecuteLegacy req command wrappingV3).ends hends with
      ⟨hno, -⟩ | ⟨dev, drv, -, -, h⟩
    · exact hno
    · rcases h.output with hno | ⟨r, hr, -⟩
      · exact hno
      · cases hr
  · -- a proof that is not heeded comes out as device output of the sample daemon
    by_contra hheeded
    simp only [DriverReturn.Heeded, not_forall, not_or] at hheeded
    obtain ⟨hok, hproves, hu, hr⟩ := hheeded
    have hends := DriverSample.ends_request (ends_dispatch (L := L) rfl (by decide) hok
      (not_isUnknown_scrubResult hproves hu) (not_refused_scrubResult hr))
    exact ((hall _ _ _ _ _ _ _ hends rfl).1 _ rfl rfl).1 hproves
  · intro hheeded cfg req command wrappingV3 call f rs hends hlast
    rcases (follows_onodeExecuteLegacy req command wrappingV3).ends hends with
      ⟨-, rfl⟩ | ⟨dev, drv, hdev, hdrv, h⟩
    · cases hlast
    · exact answersFor_of_settled hdev hdrv h hlast hheeded

namespace DriverSample

/-- Neither filter finds anything to remove. -/
def libs : Libs := ⟨.known [] [] [] [], fun _ => [], fun _ => none, fun _ _ output => output, id⟩

/-- The command was not sent, says the driver. -/
def notSent (reason : Bytes) : DriverReturn :=
  ⟨none, ⟨text "% Command refused", false, 0, .copy 256 reason, .notSent, false, false, false⟩⟩

end DriverSample

section
open DriverSample

/-- With a reason. -/
theorem execute_output_iff_reason :
    (notSent (text "not on the allowlist")).result.ProvesNotSent ∧
    ∀ cfg req command wrappingV3 call f rs,
      driverCalls.Ends f rs [] (onodeExecuteLegacy libs cfg req command wrappingV3 call) →
        rs.getLast? = some (notSent (text "not on the allowlist")) →
          AnswersFor libs cfg req command wrappingV3 call (notSent (text "not on the allowlist")) rs
            f.reply :=
  ⟨.inr rfl, ((execute_output_iff libs).2 _).mpr fun _ _ => .inr ⟨rfl, by decide +kernel⟩⟩

/-- Without a reason the driver's banner is signed as device output. -/
theorem notSent_signed_as_output :
    (notSent []).result.ProvesNotSent ∧
    driverCalls.Ends ⟨.ok ⟨7, .deviceOutput, .green, text "% Command refused"⟩, none, true⟩
      [notSent []] [] (onodeExecuteLegacy libs config request (text "show version") false none) := by
  have hout : signedOutput libs context (notSent []).result = text "% Command refused" := by
    decide +kernel
  have h : driverCalls.Ends (.ok ⟨device.nodeId, .deviceOutput, gateObsTier context.tier,
      signedOutput libs context (notSent []).result⟩, (notSent []).known) [notSent []] []
      (dispatch libs config device context none none false) :=
    ends_dispatch rfl (by decide) rfl (by decide +kernel) (by decide +kernel)
  rw [hout] at h
  exact ⟨.inr rfl, ends_request h⟩

end

end Virp
