import Virp.PortStates

/-! # Port transactions over whole runs

The past of a store, call by call, and what its flags and stamps say about it.  From both
follows what the release of a forward command, and the end of a transaction, rest on.
-/
namespace Virp

open Machine List Rows

variable {K : PortChecks} {s s' : PortStore} {past : List (PortEntry × PortAnswer)}
  {c : PortEntry × PortAnswer}

/-! ## The past of a store -/

/-- The call dispatched the request. -/
def dispatches (rid : PyStr) (c : PortEntry × PortAnswer) : Bool :=
  match c.1.call, c.2 with
  | .requireDispatch r, .dispatched _ => r.requestId == rid
  | _, _ => false

/-- The call released the forward command of the transaction. -/
def releasesForward (tid : PyStr) (c : PortEntry × PortAnswer) : Bool :=
  match c.1.call, c.2 with
  | .requireDispatch r, .dispatched _ => r.transactionId == tid && r.verb == some .apply
  | _, _ => false

/-- The call issued the native approval. -/
def issuesNative (pid : PyStr) (c : PortEntry × PortAnswer) : Bool :=
  match c.1.call, c.2 with
  | .nativeSignable _ p, .signable _ => p == pid
  | _, _ => false

/-- The call finished a request of the transaction, with that outcome. -/
def finishes (tid : PyStr) (verb : PortVerb) (outcome : PortOutcome)
    (c : PortEntry × PortAnswer) : Bool :=
  match c.1.call, c.2 with
  | .finish r o _ _, .done => r.transactionId == tid && r.verb == some verb && o == outcome
  | _, _ => false

/-- The calls that neither dispatch nor issue anything. -/
structure Quiet (c : PortEntry × PortAnswer) : Prop where
  dispatches : ∀ rid, dispatches rid c = false
  releases : ∀ tid, releasesForward tid c = false
  issues : ∀ pid, issuesNative pid c = false

/-- The calls that may dispatch or issue. -/
def PortCall.loud : PortCall → Bool
  | .requireDispatch _ | .nativeSignable _ _ => true
  | _ => false

theorem quiet_of_call (h : c.1.call.loud = false) : Quiet c := by
  refine ⟨fun _ => ?_, fun _ => ?_, fun _ => ?_⟩
  · unfold dispatches
    split <;> simp_all [PortCall.loud]
  · unfold releasesForward
    split <;> simp_all [PortCall.loud]
  · unfold issuesNative
    split <;> simp_all [PortCall.loud]

theorem quiet_refused (e : PortEntry) (x : PortRefusal) : Quiet (e, .refused x) := by
  refine ⟨fun _ => ?_, fun _ => ?_, fun _ => ?_⟩
  · unfold dispatches
    split <;> simp_all
  · unfold releasesForward
    split <;> simp_all
  · unfold issuesNative
    split <;> simp_all

/-- What the row of a transaction says about the past. -/
structure RowPast (past : List (PortEntry × PortAnswer)) (tid : PyStr) (row : PortRow) : Prop where
  stamped : ∀ wall boot, row.preflight = some (wall, boot) → ∃ c ∈ past,
    finishes tid .preflight .isMatch c = true ∧ c.1.readings.wall = wall ∧ c.1.readings.boot = boot
  restoring : row.state = .restoreApplied ∨ row.state = .verifyingRestore →
    ∀ c ∈ past, releasesForward tid c = true →
      ∃ e, finishes tid .restore .executed e = true ∧ [c, e].Sublist past
  restored : row.state = .restored → ∀ c ∈ past, releasesForward tid c = true →
    (∃ e v, finishes tid .restore .executed e = true ∧
      finishes tid .verifyRestored .isMatch v = true ∧ [c, e, v].Sublist past) ∨
    ∃ v, finishes tid .reconcile .matchesBefore v = true ∧ [c, v].Sublist past

variable {tid : PyStr} {row : PortRow} {t : Rows PyStr RequestRow} {r : PortRequest}

theorem RowPast.extend (h : RowPast past tid row) (hc : releasesForward tid c = false) :
    RowPast (past ++ [c]) tid row := by
  have hold {d : PortEntry × PortAnswer} (hd : d ∈ past ++ [c]) (hr : releasesForward tid d = true) :
      d ∈ past := by
    rcases mem_append.mp hd with hd | hd
    · exact hd
    · rw [mem_singleton.mp hd, hc] at hr
      cases hr
  have hsub {l : List (PortEntry × PortAnswer)} (hl : l.Sublist past) : l.Sublist (past ++ [c]) :=
    hl.trans (sublist_append_left past [c])
  refine ⟨?_, ?_, ?_⟩
  · intro wall boot hp
    obtain ⟨d, hd, hfin⟩ := h.stamped wall boot hp
    exact ⟨d, mem_append_left _ hd, hfin⟩
  · intro hstate d hd hr
    obtain ⟨e, he, hl⟩ := h.restoring hstate d (hold hd hr) hr
    exact ⟨e, he, hsub hl⟩
  · intro hstate d hd hr
    rcases h.restored hstate d (hold hd hr) hr with ⟨e, v, he, hv, hl⟩ | ⟨v, hv, hl⟩
    · exact .inl ⟨e, v, he, hv, hsub hl⟩
    · exact .inr ⟨v, hv, hsub hl⟩

/-- A row that has not come to a restore says no more than where its stamp is from. -/
theorem RowPast.of_stamp {past' : List (PortEntry × PortAnswer)} {row' : PortRow}
    (h : RowPast past tid row) (hpast : past ⊆ past') (hstamp : row'.preflight = row.preflight)
    (h1 : row'.state ≠ .restoreApplied) (h2 : row'.state ≠ .verifyingRestore)
    (h3 : row'.state ≠ .restored) : RowPast past' tid row' := by
  refine ⟨?_, fun hs => absurd hs (by simp [h1, h2]), fun hs => absurd hs h3⟩
  intro wall boot hp
  obtain ⟨c, hc, hfin⟩ := h.stamped wall boot (hstamp ▸ hp)
  exact ⟨c, hpast hc, hfin⟩

/-- **The history.**  Each dispatched request was dispatched by one call, each issued
approval by one call, a released forward command belongs to a dispatched `apply`, and
every row tells the truth about the past. -/
structure PortPast (s : PortStore) (past : List (PortEntry × PortAnswer)) : Prop where
  dispatched : ∀ rid,
    past.countP (dispatches rid) = ((s.requests.get rid).any (·.dispatched)).toNat
  issued : ∀ pid, past.countP (issuesNative pid) = ((s.issuances.get pid).any (·.issued)).toNat
  released : ∀ tid, ∀ c ∈ past, releasesForward tid c = true → ∃ rid q,
    dispatches rid c = true ∧ RequestOf s.requests tid rid q ∧ q.verb = .apply ∧ q.dispatched = true
  rows : ∀ tid row, s.transactions.get tid = some row → RowPast past tid row

theorem portPast_empty : PortPast .empty [] :=
  ⟨fun _ => rfl, fun _ => rfl, fun _ _ h => (nomatch h), fun _ _ h => (nomatch h)⟩

/-- A quiet call extends the past of a store whose flags do not change. -/
theorem PortPast.quiet (h : PortPast s past) (hc : Quiet c)
    (hrq : ∀ rid, (s'.requests.get rid).any (·.dispatched) = (s.requests.get rid).any (·.dispatched))
    (hkept : ∀ tid rid q, RequestOf s.requests tid rid q →
      ∃ q', RequestOf s'.requests tid rid q' ∧ q'.verb = q.verb ∧ q'.dispatched = q.dispatched)
    (his : ∀ pid, (s'.issuances.get pid).any (·.issued) = (s.issuances.get pid).any (·.issued))
    (hrows : ∀ tid row, s'.transactions.get tid = some row → RowPast (past ++ [c]) tid row) :
    PortPast s' (past ++ [c]) := by
  refine ⟨?_, ?_, ?_, hrows⟩
  · intro rid
    simp [countP_append, hc.dispatches rid, h.dispatched rid, hrq rid]
  · intro pid
    simp [countP_append, hc.issues pid, h.issued pid, his pid]
  intro tid d hd hr
  rcases mem_append.mp hd with hd | hd
  · obtain ⟨rid, q, hdis, hq, hverb, hdisp⟩ := h.released tid d hd hr
    obtain ⟨q', hq', hv, hdd⟩ := hkept tid rid q hq
    exact ⟨rid, q', hdis, hq', hv.trans hverb, hdd.trans hdisp⟩
  · rw [mem_singleton.mp hd, hc.releases tid] at hr
    cases hr

variable {reason : Option CloseReason} {rid : PyStr} {R : PortReadings} {q : RequestRow}
  {cmds : List PyStr}

theorem portPast_leaseEnds {state : PortState} (h : PortPast s past)
    (he : LeaseEnds s s' tid row state reason) : PortPast s' past := by
  refine ⟨he.requests ▸ h.dispatched, he.issuances ▸ h.issued, he.requests ▸ h.released, ?_⟩
  intro x r hx
  rw [he.transactions, get_modify_eq_some] at hx
  rcases hx with ⟨rfl, a, ha, rfl⟩ | ⟨-, hx⟩
  · have hrow := h.rows x a ha
    obtain rfl := Option.mem_unique he.row_eq ha
    rcases he.next with hsame | ⟨hexp, -⟩
    · exact ⟨hrow.stamped, by rw [hsame]; exact hrow.restoring, by rw [hsame]; exact hrow.restored⟩
    · exact hrow.of_stamp (Subset.refl _) rfl (by simp [hexp]) (by simp [hexp]) (by simp [hexp])
  · exact h.rows x r hx

/-- The rows of a store in which one was changed. -/
theorem rowPast_update {f : PortRow → PortRow} (h : PortPast s past)
    (hc : ∀ x, x ≠ tid → releasesForward x c = false) (hrow : s.transactions.get tid = some row)
    (htx : s'.transactions = s.transactions.modify tid f) (hnew : RowPast (past ++ [c]) tid (f row)) :
    ∀ x r, s'.transactions.get x = some r → RowPast (past ++ [c]) x r := by
  intro x r hx
  rw [htx, get_modify_eq_some] at hx
  rcases hx with ⟨rfl, a, ha, rfl⟩ | ⟨hne, hx⟩
  · obtain rfl := Option.mem_unique hrow ha
    exact hnew
  · exact (h.rows x r hx).extend (hc x hne)

/-- The flags of a request that is finished stay. -/
theorem dispatched_finish {x : PyStr} :
    ((t.modify rid (fun q => { q with finished := true })).get x).any (·.dispatched) =
      (t.get x).any (·.dispatched) := by
  rw [get_modify]
  split
  · cases t.get x <;> rfl
  · rfl

theorem kept_finish (tid x : PyStr) (q : RequestRow) (hq : RequestOf t tid x q) :
    ∃ q', RequestOf (t.modify rid (fun q => { q with finished := true })) tid x q' ∧
      q'.verb = q.verb ∧ q'.dispatched = q.dispatched := by
  by_cases hx : x = rid
  · subst hx
    exact ⟨_, requestOf_modify_self hq, rfl, rfl⟩
  · exact ⟨q, requestOf_modify_other hq hx, rfl, rfl⟩

theorem kept_same (tid x : PyStr) (q : RequestRow) (hq : RequestOf t tid x q) :
    ∃ q', RequestOf t tid x q' ∧ q'.verb = q.verb ∧ q'.dispatched = q.dispatched :=
  ⟨q, hq, rfl, rfl⟩

/-- A finished request: what its new row says about the past. -/
theorem rowPast_finish {O : PortOwner} {outcome : PortOutcome} {hash : PyStr}
    {evidence : Option PortEvidence} {next : PortState} (h : RowPast past r.transactionId row)
    (hverb : r.verb = some q.verb) (hrun : row.state = q.verb.running)
    (hnext : nextState q.verb outcome row.expired = some (next, reason)) :
    RowPast (past ++ [(⟨O, R, .finish r outcome hash evidence⟩, .done)]) r.transactionId
      { row with
        preflight := if q.verb = .preflight ∧ outcome = .isMatch then some (R.wall, R.boot)
          else row.preflight
        state := next
        closeReason := reason } := by
  obtain ⟨-, -, -, -, happlied, hverifying, hrestored⟩ := nextState_spec hnext
  set c : PortEntry × PortAnswer := (⟨O, R, .finish r outcome hash evidence⟩, .done) with hc
  have hfin : finishes r.transactionId q.verb outcome c = true := by
    simp [finishes, hc, hverb]
  have hquiet : Quiet c := quiet_of_call rfl
  have hold {d : PortEntry × PortAnswer} (hd : d ∈ past ++ [c])
      (hr : releasesForward r.transactionId d = true) : d ∈ past := by
    rcases mem_append.mp hd with hd | hd
    · exact hd
    · rw [mem_singleton.mp hd, hquiet.releases] at hr
      cases hr
  have hlast {l : List (PortEntry × PortAnswer)} (hl : l.Sublist past) :
      (l ++ [c]).Sublist (past ++ [c]) := hl.append (Sublist.refl _)
  refine ⟨?_, ?_, ?_⟩
  · intro wall boot hp
    by_cases hm : q.verb = .preflight ∧ outcome = .isMatch
    · simp only [hm, and_self, if_true, Option.some.injEq, Prod.mk.injEq] at hp
      refine ⟨c, mem_append_right _ (mem_singleton.mpr rfl), ?_, hp.1, hp.2⟩
      rw [← hm.1, ← hm.2]
      exact hfin
    · simp only [hm, if_false] at hp
      obtain ⟨d, hd, hrest⟩ := h.stamped wall boot hp
      exact ⟨d, mem_append_left _ hd, hrest⟩
  · rintro (hstate | hstate) d hd hr
    · obtain ⟨hv, ho⟩ := happlied hstate
      refine ⟨c, by rw [← hv, ← ho]; exact hfin, ?_⟩
      exact hlast (singleton_sublist.mpr (hold hd hr))
    · exact absurd hstate hverifying
  · intro hstate d hd hr
    rcases hrestored hstate with ⟨hv, ho⟩ | ⟨hv, ho⟩
    · have hst : row.state = .verifyingRestore := by rw [hrun, hv]; rfl
      obtain ⟨e, he, hl⟩ := h.restoring (.inr hst) d (hold hd hr) hr
      exact .inl ⟨e, c, he, by rw [← hv, ← ho]; exact hfin, hlast hl⟩
    · exact .inr ⟨c, by rw [← hv, ← ho]; exact hfin, hlast (singleton_sublist.mpr (hold hd hr))⟩

/-- A dispatched request: what the rows say about the past.  The forward command of a
transaction is released while its `apply` runs. -/
theorem rowPast_dispatch (h : PortPast s past) (hs : s.Sound) (hq : Named s r q row)
    (hstate : row.state ≠ .expiredBeforeApply)
    (hc : ∀ x, releasesForward x c = true → x = r.transactionId ∧ q.verb = .apply) (x : PyStr)
    (a : PortRow) (hx : s.transactions.get x = some a) : RowPast (past ++ [c]) x a := by
  by_cases hrel : releasesForward x c = true
  · obtain ⟨rfl, hverb⟩ := hc x hrel
    obtain rfl := Option.mem_unique hq.row hx
    have hrun : row.state = .applying := by
      rcases (hs.fits _ row hq.row).pending _ q ⟨hq.request, hq.transaction⟩ hq.unfinished with
        hp | ⟨he, -⟩
      · rw [hp, hverb]
        rfl
      · exact absurd he hstate
    exact (h.rows _ row hx).of_stamp (subset_append_left _ _) rfl (by simp [hrun])
      (by simp [hrun]) (by simp [hrun])
  · exact (h.rows x a hx).extend (by simpa using hrel)

theorem portPast_move {e : PortEntry} {ans : PortAnswer} (h : PortPast s past) (hs : s.Sound)
    (hm : PortMove K e.owner e.readings s s' e.call ans) : PortPast s' (past ++ [(e, ans)]) := by
  obtain ⟨O, R, call⟩ := e
  simp only at hm
  cases hm with
  | plain hplain htx hrq his =>
    have hquiet : Quiet (⟨O, R, call⟩, ans) := quiet_of_call (by
      cases call <;> first | rfl | cases hplain)
    refine h.quiet hquiet (fun _ => by rw [hrq]) (hrq ▸ kept_same) (fun _ => by rw [his]) ?_
    intro x r hx
    exact (h.rows x r (htx ▸ hx)).extend (hquiet.releases x)
  | @create body havail htx hrq his =>
    have hquiet : Quiet (⟨O, R, .create body⟩, .created R.uuid) := quiet_of_call rfl
    refine h.quiet hquiet (fun _ => by rw [hrq]) (hrq ▸ kept_same) (fun _ => by rw [his]) ?_
    intro x r hx
    rcases (get_insert_eq_some htx).mp hx with ⟨-, rfl⟩ | ⟨-, hx⟩
    · refine ⟨?_, ?_, ?_⟩
      · intro wall boot hp
        cases hp
      · rintro (hp | hp) <;> cases hp
      · intro hp
        cases hp
    · exact (h.rows x r hx).extend (hquiet.releases x)
  | @approve a signature row lease hrow hstate htx hrq his =>
    have hquiet : Quiet (⟨O, R, .approve a signature⟩, .done) := quiet_of_call rfl
    refine h.quiet hquiet (fun _ => by rw [hrq]) (hrq ▸ kept_same) (fun _ => by rw [his]) ?_
    exact rowPast_update h (fun x _ => hquiet.releases x) hrow htx ((h.rows _ row hrow).of_stamp
      (subset_append_left _ _) rfl (by simp) (by simp) (by simp))
  | @start tid verb row r hrow hallowed hlease htx hrq his =>
    have hquiet : Quiet (⟨O, R, .start tid (some verb)⟩, .begun r) := quiet_of_call rfl
    have hnone := (insert_eq_some hrq).1
    refine h.quiet hquiet ?_ ?_ (fun _ => by rw [his]) ?_
    · intro x
      rw [(insert_eq_some hrq).2 x]
      split
      · rename_i hx
        rw [hx, hnone]
        rfl
      · rfl
    · intro t x q hq
      refine ⟨q, ⟨(get_insert_eq_some hrq).mpr (.inr ⟨?_, hq.1⟩), hq.2⟩, rfl, rfl⟩
      rintro rfl
      exact absurd (hnone.symm.trans hq.1) (by simp)
    · refine rowPast_update h (fun x _ => hquiet.releases x) hrow htx ?_
      have hold := (h.rows tid row hrow).extend (hquiet.releases tid)
      by_cases hv : verb = .verifyRestored
      · -- the check of a restore is begun where the restore has been executed
        subst hv
        have hst : row.state = .restoreApplied := by simpa [PortVerb.allowed] using hallowed
        exact ⟨hold.stamped, fun _ => hold.restoring (.inl hst), fun hp => by cases hp⟩
      · refine hold.of_stamp (Subset.refl _) rfl ?_ ?_ ?_ <;> cases verb <;>
          simp_all [PortVerb.running]
  | @reserve r c q row pid hq hid htx hrq his =>
    have hquiet : Quiet (⟨O, R, .reserveNative r c⟩, .reserved pid) := quiet_of_call rfl
    refine h.quiet hquiet (fun _ => by rw [hrq]) (hrq ▸ kept_same) ?_ ?_
    · intro x
      rw [(insert_eq_some his).2 x]
      split
      · rename_i hx
        rw [hx, (insert_eq_some his).1]
        rfl
      · rfl
    · intro x a hx
      exact (h.rows x a (htx ▸ hx)).extend (hquiet.releases x)
  | @sign r pid n raw hn hnew htx hrq his =>
    refine ⟨?_, ?_, ?_, ?_⟩
    · intro rid
      rw [hrq, ← h.dispatched rid]
      simp [countP_append, dispatches]
    · intro x
      rw [countP_append, h.issued x, his, get_modify]
      by_cases hx : x = pid
      · subst hx
        simp [hn, hnew, issuesNative]
      · have hxp : (pid == x) = false := by simpa using fun he : pid = x => hx he.symm
        simp [hx, issuesNative, hxp]
    · intro tid d hd hr
      rw [hrq]
      rcases mem_append.mp hd with hd | hd
      · exact h.released tid d hd hr
      · rw [mem_singleton.mp hd] at hr
        cases hr
    · intro x a hx
      exact (h.rows x a (htx ▸ hx)).extend rfl
  | @dispatch r q row hq hnew hstate htx hrq his =>
    have hrel {x : PyStr}
        (hx : releasesForward x (⟨O, R, .requireDispatch r⟩,
          .dispatched (dispatchedCommands q.verb row.body)) = true) :
        x = r.transactionId ∧ q.verb = .apply := by
      simp only [releasesForward, hq.verb, Bool.and_eq_true, beq_iff_eq, Option.some.injEq] at hx
      exact ⟨hx.1.symm, hx.2⟩
    have hnow : RequestOf s'.requests r.transactionId r.requestId { q with dispatched := true } := by
      rw [hrq]
      exact requestOf_modify_self ⟨hq.request, hq.transaction⟩
    refine ⟨?_, ?_, ?_, ?_⟩
    · intro x
      rw [countP_append, h.dispatched x, hrq, get_modify]
      by_cases hx : x = r.requestId
      · subst hx
        simp [hq.request, hnew, dispatches]
      · have hxp : (r.requestId == x) = false := by simpa using fun he : r.requestId = x => hx he.symm
        simp [hx, dispatches, hxp]
    · intro pid
      rw [his, ← h.issued pid]
      simp [countP_append, issuesNative]
    · intro tid d hd hr
      rcases mem_append.mp hd with hd | hd
      · obtain ⟨rid, p, hdis, hp, hverb, hdisp⟩ := h.released tid d hd hr
        rw [hrq]
        by_cases hx : rid = r.requestId
        · subst hx
          exact ⟨_, _, hdis, requestOf_modify_self hp, hverb, rfl⟩
        · exact ⟨rid, p, hdis, requestOf_modify_other hp hx, hverb, hdisp⟩
      · rw [mem_singleton.mp hd] at hr ⊢
        obtain ⟨rfl, hverb⟩ := hrel hr
        exact ⟨r.requestId, _, by simp [dispatches], hnow, hverb, rfl⟩
    · intro x a hx
      exact rowPast_dispatch h hs hq hstate (fun _ => hrel) x a (htx ▸ hx)
  | @interrupt r reason q row hq hopen htx hrq his =>
    obtain ⟨close, htx⟩ := htx
    have hquiet : Quiet (⟨O, R, .recordInterruption r reason⟩, .done) := quiet_of_call rfl
    refine h.quiet hquiet (fun _ => by rw [hrq, dispatched_finish]) (hrq ▸ kept_finish)
      (fun _ => by rw [his]) ?_
    refine rowPast_update h (fun x _ => hquiet.releases x) hq.row htx
      ((h.rows _ row hq.row).of_stamp (subset_append_left _ _) rfl ?_ ?_ ?_) <;>
      cases q.verb <;> simp
  | @late r outcome hash evidence q row hq hverb hstate htx hrq his =>
    have hquiet : Quiet (⟨O, R, .finish r outcome hash evidence⟩, .done) := quiet_of_call rfl
    refine h.quiet hquiet (fun _ => by rw [hrq, dispatched_finish]) (hrq ▸ kept_finish)
      (fun _ => by rw [his]) ?_
    intro x a hx
    exact (h.rows x a (htx ▸ hx)).extend (hquiet.releases x)
  | @finish r outcome hash evidence q row next reason hq hdisp hlate hnext htx hrq his =>
    have hquiet : Quiet (⟨O, R, .finish r outcome hash evidence⟩, .done) := quiet_of_call rfl
    refine h.quiet hquiet (fun _ => by rw [hrq, dispatched_finish]) (hrq ▸ kept_finish)
      (fun _ => by rw [his]) ?_
    exact rowPast_update h (fun x _ => hquiet.releases x) hq.row htx
      (rowPast_finish (h.rows _ row hq.row) hq.verb (running_of_named hs hq hdisp hlate) hnext)

/-- A call is refused, with at most its refresh done, or it is a move after its refresh. -/
theorem portStep_cases (s : PortStore) (e : PortEntry) :
    ∃ s1, (s1 = s ∨ ∃ tid row state reason, e.call.refreshes = some tid ∧
        LeaseEnds s s1 tid row state reason) ∧ ((∃ x, portStep K s e = (s1, .refused x)) ∨
        portBody K e.owner e.readings s1 e.call = .ok (portStep K s e)) := by
  have hatomic (s1 : PortStore) :
      (∃ x, portAtomic s1 (portBody K e.owner e.readings s1 e.call) = (s1, .refused x)) ∨
        portBody K e.owner e.readings s1 e.call =
          .ok (portAtomic s1 (portBody K e.owner e.readings s1 e.call)) := by
    cases hb : portBody K e.owner e.readings s1 e.call with
    | error x => exact .inl ⟨x, rfl⟩
    | ok p => exact .inr rfl
  unfold portStep
  split
  · exact ⟨s, .inl rfl, .inl ⟨_, rfl⟩⟩
  split
  · exact ⟨s, .inl rfl, hatomic s⟩
  rename_i tid htid
  split
  · exact ⟨s, .inl rfl, .inl ⟨_, rfl⟩⟩
  rename_i s1 hs1
  refine ⟨s1, ?_, hatomic s1⟩
  rcases refresh_cases hs1 with rfl | ⟨row, state, reason, he⟩
  · exact .inl rfl
  · exact .inr ⟨tid, row, state, reason, htid, he⟩

/-- Store and past together, along a run. -/
theorem portStep_keeps (s : PortStore) (past : List (PortEntry × PortAnswer)) (e : PortEntry)
    (h : s.Sound ∧ PortPast s past) :
    (portStep K s e).1.Sound ∧ PortPast (portStep K s e).1 (past ++ [(e, (portStep K s e).2)]) := by
  obtain ⟨s1, hs1, hstep⟩ := portStep_cases (K := K) s e
  obtain ⟨hsound, hpast⟩ : s1.Sound ∧ PortPast s1 past := by
    rcases hs1 with rfl | ⟨tid, row, state, reason, -, he⟩
    · exact h
    · exact ⟨sound_leaseEnds h.1 he, portPast_leaseEnds h.2 he⟩
  rcases hstep with ⟨x, hx⟩ | hbody
  · rw [hx]
    have hquiet := quiet_refused e x
    exact ⟨hsound, hpast.quiet hquiet (fun _ => rfl) kept_same (fun _ => rfl)
      fun y r hy => (hpast.rows y r hy).extend (hquiet.releases y)⟩
  · have hm : PortMove K e.owner e.readings s1 (portStep K s e).1 e.call (portStep K s e).2 :=
      portBody_move hbody
    exact ⟨sound_move hsound hm, portPast_move hpast hsound hm⟩

/-- What holds of the store when a forward command is released. -/
structure ForwardReady (K : PortChecks) (e : PortEntry) (s : PortStore) (r : PortRequest)
    (row : PortRow) (lease : PortLease) : Prop where
  request : ∃ q, RequestOf s.requests r.transactionId r.requestId q ∧ q.verb = .apply
  row_eq : s.transactions.get r.transactionId = some row
  lease_eq : row.lease = some lease
  approved : PortApproved K e.owner r.transactionId row lease
  wall : e.readings.leaseWall < lease.expiresNs
  boot : e.readings.leaseBoot < lease.deadline
  fresh : ∃ wall boot, row.preflight = some (wall, boot) ∧ 0 ≤ e.readings.freshWall - wall ∧
    e.readings.freshWall - wall ≤ 30000000000 ∧ 0 ≤ e.readings.freshBoot - boot ∧
    e.readings.freshBoot - boot ≤ 30
  native : ∃ pid n, s.issuances.get pid = some n ∧ n.requestId = r.requestId ∧
    n.command = row.body.plan.forward ∧ n.issued = true
  receipts : s.unreceipted r.transactionId = false

theorem freshPreflight_ok {u : Unit} (h : freshPreflight row R = .ok u) :
    ∃ wall boot, row.preflight = some (wall, boot) ∧ 0 ≤ R.freshWall - wall ∧
      R.freshWall - wall ≤ 30000000000 ∧ 0 ≤ R.freshBoot - boot ∧ R.freshBoot - boot ≤ 30 := by
  rw [freshPreflight, refuseIf_ok] at h
  split at h
  · cases h
  rename_i wall boot hp
  simp only [Bool.not_eq_false', Bool.and_eq_true, decide_eq_true_eq] at h
  exact ⟨wall, boot, hp, h.1.1.1, h.1.1.2, h.1.2, h.2⟩

theorem requireDispatch_ready {e : PortEntry}
    (h : requireDispatch K e.owner s r e.readings = .ok (s', cmds)) (hverb : r.verb = some .apply) :
    ∃ row lease, cmds = [row.body.plan.forward] ∧ ForwardReady K e s r row lease := by
  simp only [requireDispatch, bind_ok, refuseIf_ok, orRefuse_ok, pure_ok, Prod.exists,
    Prod.mk.injEq, Bool.not_eq_false'] at h
  obtain ⟨q, row, hq, _, -, _, hfresh, _, -, _, hlease, _, hrec, pid, n, hfind, _, hissued, -, rfl⟩ := h
  obtain ⟨hreq, htid, hv, -, hrow⟩ := getRequest_ok hq
  obtain hv : q.verb = .apply := Option.mem_unique hv hverb
  rw [hv] at hfresh hlease hfind ⊢
  simp only [leaseInForce, PortVerb.needsLease, if_true, bind_ok, orRefuse_ok, refuseIf_ok, leaseOver,
    Bool.true_and, Bool.or_eq_false_iff, decide_eq_false_iff_not, not_le] at hlease
  obtain ⟨lease, hl, ⟨-, hwall⟩, hboot⟩ := hlease
  have hn := mem_of_find?_eq_some hfind
  have hmatch := find?_some hfind
  simp only [Bool.and_eq_true, beq_iff_eq] at hmatch
  refine ⟨row, lease, rfl, ⟨q, ⟨hreq, htid⟩, hv⟩, (getTransaction_ok hrow).1, hl,
    (getTransaction_ok hrow).2 lease hl, hwall, hboot, ?_, ⟨pid, n, mem_all.mp hn, hmatch.1, hmatch.2, hissued⟩, hrec⟩
  rw [freshForApply, if_pos rfl] at hfresh
  exact freshPreflight_ok hfresh

/-- A call that releases leaves its refresh nothing to do: it would owe a receipt. -/
theorem portStep_ready {e : PortEntry} (hcall : e.call = .requireDispatch r)
    (hverb : r.verb = some .apply) (h : (portStep K s e).2 = .dispatched cmds) :
    ∃ row lease, cmds = [row.body.plan.forward] ∧ ForwardReady K e s r row lease := by
  obtain ⟨s1, hs1, ⟨x, hx⟩ | hbody⟩ := portStep_cases (K := K) s e
  · rw [hx] at h
    cases h
  · rw [hcall] at hbody
    simp only [portBody, map_ok, Prod.exists] at hbody
    obtain ⟨s', cmds', hd, hp⟩ := hbody
    rw [hp] at h
    obtain rfl : cmds' = cmds := PortAnswer.dispatched.inj h
    obtain ⟨row, lease, hcmds, hready⟩ := requireDispatch_ready hd hverb
    rcases hs1 with rfl | ⟨tid, row', state, reason, htid, he⟩
    · exact ⟨row, lease, hcmds, hready⟩
    rw [hcall] at htid
    obtain rfl : r.transactionId = tid := Option.some.inj htid
    have := hready.receipts
    rw [he.unreceipted] at this
    cases this

/-- A forward command is released at most once. -/
theorem PortPast.release_once (h : PortPast s past) (hs : s.Sound) (tid : PyStr) :
    past.countP (releasesForward tid) ≤ 1 := by
  by_cases hnone : past.countP (releasesForward tid) = 0
  · omega
  obtain ⟨c, hc, hrel⟩ := countP_pos_iff.mp (Nat.pos_of_ne_zero hnone)
  obtain ⟨rid, q, -, hq, hverb, -⟩ := h.released tid c hc hrel
  obtain ⟨row, hrow⟩ := hs.owned rid q hq.1
  rw [hq.2] at hrow
  -- every release of the transaction dispatches its one `apply` request
  have hle : past.countP (releasesForward tid) ≤ past.countP (dispatches rid) := by
    refine countP_mono_left fun d hd hr => ?_
    obtain ⟨rid', q', hdis, hq', hverb', -⟩ := h.released tid d hd hr
    rw [(hs.fits tid row hrow).one_apply rid rid' q q' hq hq' hverb hverb']
    exact hdis
  have := h.dispatched rid
  have := Bool.toNat_le ((s.requests.get rid).any (·.dispatched))
  omega

/-- A closed transaction whose forward command was released has been restored. -/
theorem PortPast.restored_of_closed (h : PortPast s past) (hs : s.Sound)
    (hrow : s.transactions.get tid = some row) (hclosed : row.state.closed = true) (hc : c ∈ past)
    (hrel : releasesForward tid c = true) : row.state = .restored := by
  obtain ⟨rid, q, -, hq, hverb, hdisp⟩ := h.released tid c hc hrel
  have hfits := hs.fits tid row hrow
  have hafter := hfits.apply_after rid q hq hverb
  have hopen := hfits.applied rid q hq hverb hdisp
  cases hst : row.state <;> simp_all [PortState.closed, PortState.beforeApply]

/-- **Port transactions over any run.**  The forward command of a transaction is released
at most once, and only for a bundle with a valid approval, within its lease, after a fresh
preflight that matched, with its native approval issued once and every event receipted; no
two transactions are open on one target; and a transaction whose forward command was
released is closed only by a restore that was verified, or a reconciliation that found the
baseline, later. -/
theorem port_transactions_of_run (entries : List PortEntry) :
    let s := final (portStep K) .empty entries
    let past := trace (portStep K) .empty entries
    (∀ tid, past.countP (releasesForward tid) ≤ 1) ∧
    (∀ e r cmds, e.call = .requireDispatch r → r.verb = some .apply →
      (portStep K s e).2 = .dispatched cmds →
      ∃ row lease, s.transactions.get r.transactionId = some row ∧
        cmds = [row.body.plan.forward] ∧ row.lease = some lease ∧
        PortApproved K e.owner r.transactionId row lease ∧
        e.readings.leaseWall < lease.expiresNs ∧ e.readings.leaseBoot < lease.deadline ∧
        (∃ c ∈ past, finishes r.transactionId .preflight .isMatch c = true ∧
          0 ≤ e.readings.freshWall - c.1.readings.wall ∧
          e.readings.freshWall - c.1.readings.wall ≤ 30000000000 ∧
          0 ≤ e.readings.freshBoot - c.1.readings.boot ∧
          e.readings.freshBoot - c.1.readings.boot ≤ 30) ∧
        (∃ n, s.issuances.get row.body.nativeProposals.forward.proposalId = some n ∧
          n.requestId = r.requestId ∧ n.command = row.body.plan.forward ∧
          past.countP (issuesNative row.body.nativeProposals.forward.proposalId) = 1) ∧
        ∀ ev ∈ s.events, ev.transactionId = r.transactionId → ev.receipt.isSome = true) ∧
    (∀ tid tid' row row', s.transactions.get tid = some row → s.transactions.get tid' = some row' →
      row.body.target = row'.body.target → row.state.closed = false → row'.state.closed = false →
      tid = tid') ∧
    (∀ tid row, s.transactions.get tid = some row → row.state.closed = true →
      ∀ c ∈ past, releasesForward tid c = true →
        (∃ e v, finishes tid .restore .executed e = true ∧
          finishes tid .verifyRestored .isMatch v = true ∧ [c, e, v].Sublist past) ∨
        ∃ v, finishes tid .reconcile .matchesBefore v = true ∧ [c, v].Sublist past) := by
  intro s past
  obtain ⟨hs, hpast⟩ : s.Sound ∧ PortPast s past :=
    invariant (I := fun s past => PortStore.Sound s ∧ PortPast s past)
      ⟨portStore_sound_empty, portPast_empty⟩ (fun s past e h => portStep_keeps s past e h) entries
  refine ⟨hpast.release_once hs, ?_, hs.one_open, ?_⟩
  · intro e r cmds hcall hverb hans
    obtain ⟨row, lease, hcmds, hr⟩ := portStep_ready hcall hverb hans
    obtain ⟨wall, boot, hstamp, hw0, hw30, hb0, hb30⟩ := hr.fresh
    obtain ⟨c, hc, hfin, rfl, rfl⟩ := (hpast.rows _ row hr.row_eq).stamped wall boot hstamp
    refine ⟨row, lease, hr.row_eq, hcmds, hr.lease_eq, hr.approved, hr.wall, hr.boot,
      ⟨c, hc, hfin, hw0, hw30, hb0, hb30⟩, ?_, ?_⟩
    · obtain ⟨pid, n, hn, hreq, hcmd, hissued⟩ := hr.native
      obtain ⟨q, row', hq, hrow', hid, -⟩ := hs.issued pid n hn
      -- the request of the issuance is the one dispatched
      obtain ⟨q', hq', hv⟩ := hr.request
      obtain rfl := Option.some.inj (hq'.1.symm.trans (hreq ▸ hq))
      rw [hq'.2] at hrow'
      obtain rfl := Option.some.inj (hr.row_eq.symm.trans hrow')
      obtain rfl : pid = row.body.nativeProposals.forward.proposalId := by
        simpa [hv, nativeIds] using hid
      exact ⟨n, hn, hreq, hcmd, by rw [hpast.issued, hn]; simp [hissued]⟩
    · intro ev hev htid
      have hrec := hr.receipts
      unfold PortStore.unreceipted at hrec
      have := any_eq_false.mp hrec ev hev
      simpa [htid, Option.isSome_iff_ne_none] using this
  · intro tid row hrow hclosed c hc hrel
    exact (hpast.rows tid row hrow).restored (hpast.restored_of_closed hs hrow hclosed hc hrel) c hc hrel

/-! ## A round trip -/

namespace PortSample

/-- 64 hexadecimal digits. -/
def hex64 : PyStr := List.replicate 64 '0'

/-- The proposal of that number. -/
def proposal (c : Char) : ProposalRef :=
  ⟨List.replicate 31 '0' ++ [c], List.replicate 63 '0' ++ [c], List.replicate 63 '0' ++ [c]⟩

def plan : PortPlan :=
  ⟨"kestrel-port-plan/1".toList, "Ethernet0/1".toList, "portfast".toList, "YELLOW".toList,
    [" shutdown".toList], [" shutdown".toList, " spanning-tree portfast".toList], hex64,
    "interface Ethernet0/1 spanning-tree portfast".toList,
    "interface Ethernet0/1 no spanning-tree portfast".toList, false, hex64⟩

def bundle : PortBundle :=
  ⟨⟨"kestrel-ios".toList, "192.168.255.10".toList, "Ethernet0/1".toList, 260, 22⟩, plan,
    ["show interfaces Ethernet0/1 switchport".toList,
      "show running-config interface Ethernet0/1".toList],
    [hex64], ⟨proposal '1', proposal '2', proposal '3', [proposal '4', proposal '5']⟩⟩

def checks : PortChecks :=
  ⟨fun _ => hex64, fun _ => hex64, fun _ _ _ => some plan, fun _ _ _ _ _ _ => some [7],
    fun _ signature _ => signature == [1]⟩

def settings : PortOwner := ⟨[], "owner".toList, "boot".toList, 600, "duo".toList⟩

/-- The readings of the `n`-th call, a second after the one before. -/
def readings (n : Nat) : PortReadings :=
  let wall : Int := n * 1000000000
  ⟨wall, n, wall, n, wall, n, wall, n, fun _ => wall,
    fun k => [Char.ofNat (200 + n), Char.ofNat (48 + k)], [Char.ofNat (200 + n)]⟩

def approval : PortApproval :=
  ⟨"kestrel-port-approval/1".toList, List.replicate 32 'a', [Char.ofNat 200], hex64, "owner".toList,
    1000000000, 300, "boot".toList, 1, "duo".toList, List.replicate 16 'r', 0⟩

def flush : PortCall := .flush (fun e => some ⟨hex64, e.eventId⟩)

/-- The request that the `n`-th call begins. -/
def request (n : Nat) (verb : PortVerb) : PortRequest :=
  ⟨[Char.ofNat 200], [Char.ofNat (200 + n)], some verb, true⟩

/-- A verb, begun by the `n`-th call, up to its dispatch. -/
def verbCalls (n : Nat) (verb : PortVerb) (p : ProposalRef) : List PortCall :=
  let challenge : NativeChallenge :=
    ⟨some p.proposalId, some (neededCommand verb bundle), [], 300, 260⟩
  [.start [Char.ofNat 200] (some verb), flush, .reserveNative (request n verb) challenge, flush,
    .nativeSignable (request n verb) p.proposalId, flush, .requireDispatch (request n verb)]

/-- A preflight that matches, and the calls up to the release of the forward command. -/
def calls : List PortCall :=
  [.create bundle, flush, .approve approval [1], flush] ++
    verbCalls 4 .preflight (proposal '3') ++
    [.finish (request 4 .preflight) .isMatch hex64 none, flush] ++
    verbCalls 13 .apply (proposal '1')

/-- The worker is lost after it, and the reconciliation finds the baseline. -/
def ending : List PortCall :=
  [.recordInterruption (request 13 .apply) .workerLost, flush] ++
    verbCalls 22 .reconcile (proposal '4') ++
    [.finish (request 22 .reconcile) .matchesBefore hex64 none]

def entries (calls : List PortCall) : List PortEntry :=
  calls.zipIdx.map (fun p => ⟨settings, readings p.2, p.1⟩)

end PortSample

open PortSample

/-- A run whose last call but ten releases the forward command, and whose last closes the
transaction. -/
theorem port_transactions_of_run_sample :
    (trace (portStep checks) .empty (entries calls)).getLast?.map (·.2) =
      some (.dispatched [plan.forward]) ∧
    ((final (portStep checks) .empty (entries (calls ++ ending))).transactions.get
      [Char.ofNat 200]).map (·.state) = some .restored ∧
    (trace (portStep checks) .empty (entries (calls ++ ending))).countP
      (releasesForward [Char.ofNat 200]) = 1 := by
  have hle := (port_transactions_of_run (K := checks) (entries (calls ++ ending))).1 [Char.ofNat 200]
  have hge : 0 < (trace (portStep checks) .empty (entries (calls ++ ending))).countP
      (releasesForward [Char.ofNat 200]) := by
    decide +kernel
  exact ⟨by decide +kernel, by decide +kernel, by omega⟩

end Virp
