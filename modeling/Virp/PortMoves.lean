import Virp.Errors
import Virp.PortTransaction

/-! # What the port methods do

A method that is not refused makes one move on the three tables (transactions, requests,
native issuances); a refresh either does nothing or ends the lease.  Everything said of
runs rests on these.
-/
namespace Virp

variable {K : PortChecks} {O : PortOwner} {R : PortReadings} {s s' : PortStore} {r : PortRequest}
  {q : RequestRow} {row : PortRow}

/-! ## Fallible calls -/

variable {α : Type} {tid : PyStr}

theorem pure_ok {a b : α} : (pure a : PortResult α) = .ok b ↔ b = a :=
  ⟨fun h => (Except.ok.inj h).symm, fun h => h ▸ rfl⟩

theorem map_ok {β : Type} {x : PortResult α} {f : α → β} {b : β} :
    x.map f = .ok b ↔ ∃ a, x = .ok a ∧ b = f a := by
  cases x with
  | error e => exact ⟨fun h => (nomatch h), fun ⟨_, h, _⟩ => (nomatch h)⟩
  | ok a =>
    refine ⟨fun h => ⟨a, rfl, (Except.ok.inj h).symm⟩, fun ⟨_, h, hf⟩ => ?_⟩
    cases h
    rw [hf]
    rfl

variable {e : PortRefusal} {u : Unit} {pid : PyStr}

theorem refuseIf_ok {c : Bool} : refuseIf c e = .ok u ↔ c = false := by
  cases c
  · exact ⟨fun _ => rfl, fun _ => rfl⟩
  · exact ⟨fun h => (nomatch h), fun h => (nomatch h)⟩

theorem orRefuse_ok {x : Option α} {a : α} : orRefuse x e = .ok a ↔ x = some a := by
  cases x with
  | none => exact ⟨fun h => (nomatch h), fun h => (nomatch h)⟩
  | some b => exact ⟨fun h => congrArg some (Except.ok.inj h), fun h => congrArg _ (Option.some.inj h)⟩

theorem forM_ok {f : α → PortResult Unit} {l : List α} :
    l.forM f = .ok u ↔ ∀ a ∈ l, f a = .ok () := by
  induction l with
  | nil => exact ⟨fun _ _ h => (nomatch h), fun _ => rfl⟩
  | cons a l ih =>
    rw [show (a :: l).forM f = (f a >>= fun _ => l.forM f) from rfl, bind_ok]
    simp only [ih, List.forall_mem_cons]
    exact ⟨fun ⟨_, h, hl⟩ => ⟨h, hl⟩, fun ⟨h, hl⟩ => ⟨(), h, hl⟩⟩

theorem addEvent_ok {n : Nat} {e : PortEvent} (h : addEvent s R n tid e = .ok s') :
    s' = { s with events := s.events ++ [⟨R.eventId n, tid, e, R.eventNs n, none⟩] } := by
  simp only [addEvent, bind_ok, refuseIf_ok, pure_ok] at h
  obtain ⟨_, -, h⟩ := h
  exact h

/-- What is stored with a transaction is what was approved. -/
structure PortApproved (K : PortChecks) (O : PortOwner) (tid : PyStr) (row : PortRow) (l : PortLease) :
    Prop where
  bundle : l.approval.planSha256 = K.digest row.body
  transaction : l.approval.transactionId = tid
  expires : l.expiresNs = l.approval.issuedNs + l.approval.leaseSeconds * 1000000000
  deadline : l.deadline = l.approval.issuedBoottime + l.approval.leaseSeconds
  signed : K.verify O.key l.signature l.approval = true

theorem getTransaction_ok (h : getTransaction K O s tid = .ok row) :
    s.transactions.get tid = some row ∧ ∀ l, row.lease = some l → PortApproved K O tid row l := by
  simp only [getTransaction, bind_ok, orRefuse_ok, refuseIf_ok] at h
  obtain ⟨row', hrow, -, hhash, -, -, h⟩ := h
  simp only [bne_eq_false_iff_eq] at hhash
  cases hl : row'.lease with
  | none =>
    simp only [hl, pure_ok] at h
    subst h
    exact ⟨hrow, fun l h => by rw [hl] at h; cases h⟩
  | some l =>
    simp only [hl, bind_ok, pure_ok, checkLease, refuseIf_ok, Bool.or_eq_false_iff,
      bne_eq_false_iff_eq, Bool.not_eq_false'] at h
    obtain ⟨_, ⟨_, ⟨hplan, htid⟩, _, -, _, ⟨hexp, hdead⟩, hsig⟩, rfl⟩ := h
    refine ⟨hrow, fun l' hl' => ?_⟩
    obtain rfl := Option.mem_unique hl hl'
    exact ⟨hplan.trans hhash.symm, htid, hexp, hdead, hsig⟩

theorem getRequest_ok (h : getRequest K O s r = .ok (q, row)) :
    s.requests.get r.requestId = some q ∧ q.transactionId = r.transactionId ∧
      r.verb = some q.verb ∧ q.finished = false ∧ getTransaction K O s r.transactionId = .ok row := by
  simp only [getRequest, bind_ok, orRefuse_ok, refuseIf_ok, pure_ok, Prod.mk.injEq,
    Bool.or_eq_false_iff, bne_eq_false_iff_eq] at h
  obtain ⟨_, -, q', hq, _, ⟨⟨htid, hverb⟩, hfin⟩, row', hrow, rfl, rfl⟩ := h
  exact ⟨hq, htid, hverb.symm, hfin, hrow⟩

/-! ## Moves -/

/-- A request that is stored, unfinished, and named by the caller as it is. -/
structure Named (s : PortStore) (r : PortRequest) (q : RequestRow) (row : PortRow) : Prop where
  request : s.requests.get r.requestId = some q
  transaction : q.transactionId = r.transactionId
  verb : r.verb = some q.verb
  unfinished : q.finished = false
  row : s.transactions.get r.transactionId = some row

theorem Named.of_getRequest (h : getRequest K O s r = .ok (q, row)) : Named s r q row := by
  obtain ⟨hq, htid, hverb, hfin, hrow⟩ := getRequest_ok h
  exact ⟨hq, htid, hverb, hfin, (getTransaction_ok hrow).1⟩

/-- The calls that leave the three tables alone. -/
def PortCall.plain : PortCall → Bool
  | .beginAuthorization _ _ | .approvalRequest _ _ _ _ _ | .status _ | .events _ | .flush _ => true
  | _ => false

/-- The row of a new transaction. -/
def PortRow.new (K : PortChecks) (O : PortOwner) (body : PortBundle) : PortRow :=
  ⟨body, K.digest body, .prepared, O.bootId, none, none, false, none⟩

/-- What a call that is not refused does to the tables. -/
inductive PortMove (K : PortChecks) (O : PortOwner) (R : PortReadings) (s s' : PortStore) :
    PortCall → PortAnswer → Prop
  | plain {call : PortCall} {ans : PortAnswer} (hplain : call.plain = true)
      (htx : s'.transactions = s.transactions) (hrq : s'.requests = s.requests)
      (his : s'.issuances = s.issuances) : PortMove K O R s s' call ans
  | create {body : PortBundle}
      (havail : ∀ tid row, s.transactions.get tid = some row → row.body.target = body.target →
        row.state.closed = true)
      (htx : s.transactions.insert R.uuid (.new K O body) = some s'.transactions)
      (hrq : s'.requests = s.requests) (his : s'.issuances = s.issuances) :
      PortMove K O R s s' (.create body) (.created R.uuid)
  | approve {a : PortApproval} {signature : Bytes} {row : PortRow} {lease : PortLease}
      (hrow : s.transactions.get a.transactionId = some row) (hstate : row.state = .prepared)
      (htx : s'.transactions = s.transactions.modify a.transactionId
        (fun row => { row with state := .approved, lease := some lease }))
      (hrq : s'.requests = s.requests) (his : s'.issuances = s.issuances) :
      PortMove K O R s s' (.approve a signature) .done
  | start {tid : PyStr} {verb : PortVerb} {row : PortRow} {r : PortRequest}
      (hrow : s.transactions.get tid = some row) (hallowed : row.state ∈ verb.allowed)
      (hlease : row.lease.isSome = true)
      (htx : s'.transactions =
        s.transactions.modify tid (fun row => { row with state := verb.running }))
      (hrq : s.requests.insert R.uuid ⟨tid, verb, false, false⟩ = some s'.requests)
      (his : s'.issuances = s.issuances) :
      PortMove K O R s s' (.start tid (some verb)) (.begun r)
  | reserve {r : PortRequest} {c : NativeChallenge} {q : RequestRow} {row : PortRow} {pid : PyStr}
      (hq : Named s r q row) (hid : pid ∈ nativeIds q.verb row.body)
      (htx : s'.transactions = s.transactions) (hrq : s'.requests = s.requests)
      (his : s.issuances.insert pid ⟨r.requestId, neededCommand q.verb row.body, c, false⟩ =
        some s'.issuances) :
      PortMove K O R s s' (.reserveNative r c) (.reserved pid)
  | sign {r : PortRequest} {pid : PyStr} {n : IssuanceRow} {raw : Bytes}
      (hn : s.issuances.get pid = some n) (hnew : n.issued = false)
      (htx : s'.transactions = s.transactions) (hrq : s'.requests = s.requests)
      (his : s'.issuances = s.issuances.modify pid (fun n => { n with issued := true })) :
      PortMove K O R s s' (.nativeSignable r pid) (.signable raw)
  | dispatch {r : PortRequest} {q : RequestRow} {row : PortRow}
      (hq : Named s r q row) (hnew : q.dispatched = false)
      (hstate : row.state ≠ .expiredBeforeApply)
      (htx : s'.transactions = s.transactions)
      (hrq : s'.requests =
        s.requests.modify r.requestId (fun q => { q with dispatched := true }))
      (his : s'.issuances = s.issuances) :
      PortMove K O R s s' (.requireDispatch r) (.dispatched (dispatchedCommands q.verb row.body))
  | interrupt {r : PortRequest} {reason : InterruptionReason} {q : RequestRow} {row : PortRow}
      (hq : Named s r q row) (hopen : row.state.closed = false)
      (htx : ∃ close, s'.transactions = s.transactions.modify r.transactionId (fun row =>
        { row with
          state := if q.verb = .preflight then .preflightRefused else .unknown
          closeReason := close }))
      (hrq : s'.requests = s.requests.modify r.requestId (fun q => { q with finished := true }))
      (his : s'.issuances = s.issuances) :
      PortMove K O R s s' (.recordInterruption r reason) .done
  | late {r : PortRequest} {outcome : PortOutcome} {hash : PyStr} {evidence : Option PortEvidence}
      {q : RequestRow} {row : PortRow}
      (hq : Named s r q row) (hverb : q.verb = .preflight) (hstate : row.state = .expiredBeforeApply)
      (htx : s'.transactions = s.transactions)
      (hrq : s'.requests = s.requests.modify r.requestId (fun q => { q with finished := true }))
      (his : s'.issuances = s.issuances) :
      PortMove K O R s s' (.finish r outcome hash evidence) .done
  | finish {r : PortRequest} {outcome : PortOutcome} {hash : PyStr}
      {evidence : Option PortEvidence} {q : RequestRow} {row : PortRow} {next : PortState}
      {reason : Option CloseReason}
      (hq : Named s r q row) (hdispatched : q.dispatched = true)
      (hlate : ¬(q.verb = .preflight ∧ row.state = .expiredBeforeApply))
      (hnext : nextState q.verb outcome row.expired = some (next, reason))
      (htx : s'.transactions = s.transactions.modify r.transactionId (fun x => { x with
        preflight := if q.verb = .preflight ∧ outcome = .isMatch then some (R.wall, R.boot)
          else row.preflight
        state := next
        closeReason := reason }))
      (hrq : s'.requests = s.requests.modify r.requestId (fun q => { q with finished := true }))
      (his : s'.issuances = s.issuances) :
      PortMove K O R s s' (.finish r outcome hash evidence) .done

theorem createTransaction_move {body : PortBundle}
    (h : createTransaction K O s body R = .ok (s', tid)) :
    PortMove K O R s s' (.create body) (.created tid) := by
  simp only [createTransaction, assertTargetAvailable, bind_ok, refuseIf_ok, orRefuse_ok, forM_ok,
    pure_ok, Prod.mk.injEq] at h
  obtain ⟨_, -, _, havail, _, -, transactions, htx, s1, hs1, rfl, rfl⟩ := h
  obtain rfl := addEvent_ok hs1
  refine .create ?_ htx rfl rfl
  intro tid row hrow htarget
  have := havail (tid, row) (Rows.mem_all.mpr hrow)
  simp only [assertRowAvailable, bind_ok, refuseIf_ok, htarget, beq_self_eq_true, Bool.true_and,
    Bool.not_eq_false'] at this
  obtain ⟨_, -, _, hclosed, -⟩ := this
  exact hclosed

theorem approve_move {a : PortApproval} {signature : Bytes} (h : approve K O s a signature R = .ok s') :
    PortMove K O R s s' (.approve a signature) .done := by
  simp only [approve, bind_ok, refuseIf_ok, Bool.or_eq_false_iff, bne_eq_false_iff_eq] at h
  obtain ⟨_, -, _, -, row, hrow, _, ⟨hstate, -⟩, _, -, _, -, hs⟩ := h
  obtain rfl := addEvent_ok hs
  exact .approve (getTransaction_ok hrow).1 hstate rfl rfl rfl

theorem beginVerb_move {verb : Option PortVerb} (h : beginVerb K O s tid verb R = .ok (s', r)) :
    PortMove K O R s s' (.start tid verb) (.begun r) := by
  simp only [beginVerb, bind_ok, refuseIf_ok, orRefuse_ok, pure_ok, Prod.mk.injEq,
    decide_eq_false_iff_not, not_not] at h
  obtain ⟨row, hrow, v, rfl, _, hallowed, _, -, l, hl, _, -, _, -, requests, hrq, s1, hs1, rfl, -⟩ := h
  obtain rfl := addEvent_ok hs1
  exact .start (getTransaction_ok hrow).1 hallowed (by rw [hl]; rfl) rfl hrq rfl

theorem nativeCommand_ok {command : Option PyStr} {tier : PyStr}
    (h : nativeCommand q row command R = .ok tier) :
    command = some (neededCommand q.verb row.body) := by
  simp only [nativeCommand, bind_ok, refuseIf_ok, bne_eq_false_iff_eq] at h
  obtain ⟨_, -, _, -, _, -, _, -, _, hcommand, -⟩ := h
  exact hcommand

theorem reserveNative_move {c : NativeChallenge} (h : reserveNative K O s r c R = .ok (s', pid)) :
    PortMove K O R s s' (.reserveNative r c) (.reserved pid) := by
  simp only [reserveNative, bind_ok, refuseIf_ok, orRefuse_ok, pure_ok, Prod.exists, Prod.mk.injEq,
    decide_eq_false_iff_not, not_not] at h
  obtain ⟨q, row, hq, tier, htier, command, hcommand, p, -, _, hid, _, -, _, -, _, -, issuances, his,
    _, -, s1, hs1, rfl, rfl⟩ := h
  obtain rfl := addEvent_ok hs1
  obtain rfl : command = _ := Option.mem_unique hcommand (nativeCommand_ok htier)
  exact .reserve (.of_getRequest hq) hid rfl rfl his

theorem nativeSignable_move {raw : Bytes} (h : nativeSignable K O s r pid R = .ok (s', raw)) :
    PortMove K O R s s' (.nativeSignable r pid) (.signable raw) := by
  simp only [nativeSignable, bind_ok, refuseIf_ok, orRefuse_ok, pure_ok, Prod.exists, Prod.mk.injEq,
    Bool.or_eq_false_iff] at h
  obtain ⟨q, row, -, n, hn, _, ⟨-, hnew⟩, _, -, tier, -, _, -, raw', -, _, -, s1, hs1, rfl, rfl⟩ := h
  obtain rfl := addEvent_ok hs1
  exact .sign hn hnew rfl rfl rfl

theorem requireDispatch_move {cmds : List PyStr} (h : requireDispatch K O s r R = .ok (s', cmds)) :
    PortMove K O R s s' (.requireDispatch r) (.dispatched cmds) := by
  simp only [requireDispatch, bind_ok, refuseIf_ok, orRefuse_ok, pure_ok, Prod.exists,
    Prod.mk.injEq, beq_eq_false_iff_ne] at h
  obtain ⟨q, row, hq, _, hnew, _, -, _, hstate, _, -, _, -, _, _, -, _, -, rfl, rfl⟩ := h
  exact .dispatch (.of_getRequest hq) hnew hstate rfl rfl rfl

theorem recordInterruption_move {reason : InterruptionReason}
    (h : recordInterruption K O s r reason R = .ok s') :
    PortMove K O R s s' (.recordInterruption r reason) .done := by
  simp only [recordInterruption, bind_ok, refuseIf_ok, Prod.exists, decide_eq_true_eq] at h
  obtain ⟨q, row, hq, _, hopen, s1, hs1, h⟩ := h
  obtain rfl := addEvent_ok hs1
  split at h
  · rename_i hp
    obtain rfl := addEvent_ok h
    exact .interrupt (.of_getRequest hq) hopen ⟨some .preflightUnproven, by rw [if_pos hp]⟩ rfl rfl
  · rename_i hp
    obtain rfl := pure_ok.mp h
    exact .interrupt (.of_getRequest hq) hopen ⟨none, by rw [if_neg hp]⟩ rfl rfl

theorem finishRequest_move {outcome : PortOutcome} {hash : PyStr} {evidence : Option PortEvidence}
    (h : finishRequest K O s r outcome hash evidence R = .ok s') :
    PortMove K O R s s' (.finish r outcome hash evidence) .done := by
  simp only [finishRequest, bind_ok, refuseIf_ok, Prod.exists, Bool.not_eq_false'] at h
  obtain ⟨q, row, hq, _, hdisp, h⟩ := h
  split at h
  · rename_i hlate
    simp only [bind_ok] at h
    obtain ⟨_, -, hs⟩ := h
    obtain rfl := addEvent_ok hs
    exact .late (.of_getRequest hq) hlate.1 hlate.2 rfl rfl rfl
  · rename_i hlate
    simp only [bind_ok, orRefuse_ok, Prod.exists] at h
    obtain ⟨next, reason, hnext, s1, hs1, h⟩ := h
    obtain rfl := addEvent_ok hs1
    cases reason with
    | some reason =>
      obtain rfl := addEvent_ok h
      exact .finish (.of_getRequest hq) hdisp hlate hnext rfl rfl rfl
    | none =>
      obtain rfl := pure_ok.mp h
      exact .finish (.of_getRequest hq) hdisp hlate hnext rfl rfl rfl

/-- Every call that is not refused is a move. -/
theorem portBody_move {call : PortCall} {ans : PortAnswer} (h : portBody K O R s call = .ok (s', ans)) :
    PortMove K O R s s' call ans := by
  cases call with simp only [portBody, map_ok, Prod.exists, Prod.mk.injEq] at h
  | create body =>
    obtain ⟨_, _, h, rfl, rfl⟩ := h
    exact createTransaction_move h
  | beginAuthorization tid seconds =>
    obtain ⟨_, h, rfl, rfl⟩ := h
    simp only [beginAuthorization, bind_ok] at h
    obtain ⟨_, -, _, -, _, -, _, -, _, -, hs⟩ := h
    obtain rfl := addEvent_ok hs
    exact .plain rfl rfl rfl rfl
  | approvalRequest tid seconds method reference approvedNs =>
    obtain ⟨_, -, rfl, rfl⟩ := h
    exact .plain rfl rfl rfl rfl
  | approve a signature =>
    obtain ⟨_, h, rfl, rfl⟩ := h
    exact approve_move h
  | status tid =>
    obtain ⟨_, -, rfl, rfl⟩ := h
    exact .plain rfl rfl rfl rfl
  | start tid verb =>
    obtain ⟨_, _, h, rfl, rfl⟩ := h
    exact beginVerb_move h
  | reserveNative r c =>
    obtain ⟨_, _, h, rfl, rfl⟩ := h
    exact reserveNative_move h
  | nativeSignable r pid =>
    obtain ⟨_, _, h, rfl, rfl⟩ := h
    exact nativeSignable_move h
  | requireDispatch r =>
    obtain ⟨_, _, h, rfl, rfl⟩ := h
    exact requireDispatch_move h
  | recordInterruption r reason =>
    obtain ⟨_, h, rfl, rfl⟩ := h
    exact recordInterruption_move h
  | finish r outcome hash evidence =>
    obtain ⟨_, h, rfl, rfl⟩ := h
    exact finishRequest_move h
  | events tid =>
    obtain ⟨rfl, rfl⟩ := Prod.mk.inj (Except.ok.inj h)
    exact .plain rfl rfl rfl rfl
  | flush append =>
    obtain ⟨_, h, rfl, rfl⟩ := h
    simp only [flushEvents, bind_ok, pure_ok] at h
    obtain ⟨_, -, rfl⟩ := h
    exact .plain rfl rfl rfl rfl

/-- What the refresh does, where it does something: the lease is over, and a transaction
that has not been applied is closed. -/
structure LeaseEnds (s s' : PortStore) (tid : PyStr) (row : PortRow) (state : PortState)
    (reason : Option CloseReason) : Prop where
  row_eq : s.transactions.get tid = some row
  leased : row.lease.isSome = true
  was_open : row.state.closed = false
  next : state = row.state ∨ state = .expiredBeforeApply ∧ s.closesAtExpiry tid row.state = true
  transactions : s'.transactions = s.transactions.modify tid
    (fun row => { row with expired := true, state := state, closeReason := reason })
  requests : s'.requests = s.requests
  issuances : s'.issuances = s.issuances
  unreceipted : s'.unreceipted tid = true

theorem refresh_cases (h : refresh K O s tid R = .ok s') :
    s' = s ∨ ∃ row state reason, LeaseEnds s s' tid row state reason := by
  simp only [refresh, bind_ok] at h
  obtain ⟨row, hrow, h⟩ := h
  have hrow := (getTransaction_ok hrow).1
  cases hl : row.lease with
  | none =>
    simp only [hl, pure_ok] at h
    exact .inl h
  | some l =>
    simp only [hl] at h
    split at h
    · rename_i hover
      simp only [Bool.and_eq_true, Bool.not_eq_true'] at hover
      simp only [bind_ok] at h
      obtain ⟨s1, hs1, h⟩ := h
      obtain rfl := addEvent_ok hs1
      split at h
      · rename_i hclose
        obtain rfl := addEvent_ok h
        refine .inr ⟨row, .expiredBeforeApply, some .leaseExpired, hrow, by rw [hl]; rfl,
          hover.1.1, .inr ⟨rfl, hclose⟩, ?_, rfl, rfl, ?_⟩
        · simp only [Rows.modify_modify]
        · simp [PortStore.unreceipted]
      · obtain rfl := pure_ok.mp h
        refine .inr ⟨row, row.state, row.closeReason, hrow, by rw [hl]; rfl, hover.1.1, .inl rfl, ?_,
          rfl, rfl, ?_⟩
        · exact Rows.modify_congr hrow rfl
        · simp [PortStore.unreceipted]
    · exact .inl (pure_ok.mp h)

end Virp
