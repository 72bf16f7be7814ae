import Virp.Tacacs

/-! # Runs of the authorization server

However the threads interleave, whatever fails to be written, chained or sent, and
whenever the process dies: the uses that are left, those held by requests under way and
the PASS replies sent never exceed the uses a grant was loaded with.  The reservation is
one flag for each grant, while several of its uses may be held at a time; that the count
is right nevertheless is because a use goes back only for the very request that took it.
-/
namespace Virp

open Machine List AuthThread AuthServer

variable {U : PyText} {s : AuthServer} {r : AuthRequest} {g : Grant} {l grants : List Grant}

/-- The uses of a grant. -/
def uses (grants : List Grant) (id : PyStr) : Int :=
  ((grants.find? (·.grantId == id)).map (·.usesRemaining)).getD 0

/-- A grant but for its uses. -/
def Grant.frame (g : Grant) : Grant := { g with usesRemaining := 0 }

theorem map_frame_updateUses (id : PyStr) (f : Int → Int) (l : List Grant) :
    (updateUses id f l).map Grant.frame = l.map Grant.frame := by
  induction l with
  | nil => rfl
  | cons g l ih =>
    unfold updateUses
    split
    · rfl
    · rw [map_cons, map_cons, ih]

variable {id : PyStr}

theorem uses_updateUses_of_ne {other : PyStr} (h : other ≠ id) (f : Int → Int) (l : List Grant) :
    uses (updateUses id f l) other = uses l other := by
  induction l with
  | nil => rfl
  | cons g l ih =>
    unfold updateUses
    split
    · rename_i hg
      have hne : (g.grantId == other) = false := by simpa [hg] using fun he => h he.symm
      simp [uses, hne]
    · by_cases hg : g.grantId = other
      · simp [uses, hg]
      · have hne : (g.grantId == other) = false := by simpa using hg
        simpa [uses, hne] using ih

theorem uses_updateUses (f : Int → Int) (h : l.any (·.grantId == id) = true) :
    uses (updateUses id f l) id = f (uses l id) := by
  induction l with
  | nil => cases h
  | cons g l ih =>
    unfold updateUses
    split
    · rename_i hg
      simp [uses, hg]
    · rename_i hg
      have hne : (g.grantId == id) = false := by simpa using hg
      have hl : l.any (·.grantId == id) = true := by simpa [hne] using h
      simpa [uses, hne] using ih hl

/-- A grant whose id no other has is the one its id finds. -/
theorem uses_of_mem (hnd : (l.map (·.grantId)).Nodup) (hg : g ∈ l) :
    uses l g.grantId = g.usesRemaining := by
  induction l with
  | nil => cases hg
  | cons x l ih =>
    simp only [map_cons, nodup_cons] at hnd
    rcases mem_cons.mp hg with rfl | hg
    · simp [uses]
    have hne : (x.grantId == g.grantId) = false := by
      simp only [beq_eq_false_iff_ne, ne_eq]
      exact fun he => hnd.1 (he ▸ mem_map.mpr ⟨g, hg, rfl⟩)
    simpa [uses, hne] using ih hnd.2 hg

/-! ## What a PASS rests on -/

/-- The grant permits the request: it is for its device and principal, accepts the
spelling of its command, and is valid when it was received. -/
structure Permits (U : PyText) (g : Grant) (r : AuthRequest) : Prop where
  device : r.device = some g.device
  user : r.user = g.user
  spelling : ∃ command, r.command = some command ∧ canonicalCommand U command ∈ g.accepted U
  valid : g.notBeforeNs ≤ r.recvUtcNs ∧ r.recvUtcNs ≤ g.notAfterNs
  authentic : r.cleartextRefused = false ∧ r.malformed = false

/-- The uses play no part in it. -/
theorem permits_frame_iff : Permits U g.frame r ↔ Permits U g r :=
  ⟨fun h => ⟨h.device, h.user, h.spelling, h.valid, h.authentic⟩,
    fun h => ⟨h.device, h.user, h.spelling, h.valid, h.authentic⟩⟩

variable {nowNs : Int} {l' : List Grant} {i : Nat} {t : AuthThread} {s' : AuthServer}
  {stage : AuthStage} {d : Decision}

theorem chooseGrant_inl {faults : List GrantFault} (h : chooseGrant nowNs l faults = .inl g) :
    g ∈ l ∧ g.notBeforeNs ≤ nowNs ∧ nowNs ≤ g.notAfterNs ∧ 0 < g.usesRemaining := by
  induction l generalizing faults with
  | nil => cases h
  | cons x l ih =>
    unfold chooseGrant at h
    split at h
    · exact ⟨mem_cons_of_mem _ (ih h).1, (ih h).2⟩
    split at h
    · exact ⟨mem_cons_of_mem _ (ih h).1, (ih h).2⟩
    split at h
    · exact ⟨mem_cons_of_mem _ (ih h).1, (ih h).2⟩
    · cases h
      exact ⟨mem_cons_self, by omega, by omega, by omega⟩

variable {device user command : PyStr}

/-- A decision that names a grant found it matching, valid and not spent. -/
theorem authorize_grant (h : (authorize U grants device user command nowNs).grantId ≠ []) :
    ∃ g ∈ grants, g.grantId = (authorize U grants device user command nowNs).grantId ∧
      g.device = device ∧ g.user = user ∧ canonicalCommand U command ∈ g.accepted U ∧
      g.notBeforeNs ≤ nowNs ∧ nowNs ≤ g.notAfterNs ∧ 0 < g.usesRemaining := by
  unfold authorize at h ⊢
  simp only at h ⊢
  split at h
  · exact absurd rfl h
  split at h
  · exact absurd rfl h
  split at h
  · split at h
    · exact absurd rfl h
    · exact absurd rfl h
  split at h
  · exact absurd rfl h
  split at h
  · exact absurd rfl h
  split at h
  · rename_i h1 h2 h3 h4 h5 _ g hg
    obtain ⟨hmem, hfrom, hto, huses⟩ := chooseGrant_inl hg
    obtain ⟨hin, hmatch⟩ := mem_filter.mp hmem
    simp only [grantMatches, Bool.and_eq_true, decide_eq_true_eq, beq_iff_eq] at hmatch
    rw [if_neg h1, if_neg h2, if_neg h3, if_neg h4, if_neg h5]
    exact ⟨g, hin, rfl, hmatch.1.2, hmatch.1.1.2, hmatch.2, hfrom, hto, huses⟩
  · exact absurd rfl h

/-- Two policies that differ in their uses only. -/
def SameGrants (l l' : List Grant) : Prop := l.map Grant.frame = l'.map Grant.frame

theorem SameGrants.ids (h : SameGrants l l') : l.map (·.grantId) = l'.map (·.grantId) := by
  have := congrArg (List.map Grant.grantId) h
  rw [map_map, map_map] at this
  exact this

theorem SameGrants.mem (h : SameGrants l l') (hg : g ∈ l) : ∃ g' ∈ l', g'.frame = g.frame := by
  have hmem : g.frame ∈ l'.map Grant.frame := h ▸ mem_map.mpr ⟨g, hg, rfl⟩
  obtain ⟨g', hg', he⟩ := mem_map.mp hmem
  exact ⟨g', hg', he⟩

/-- Some grant of the policy, with that id, permits the request. -/
def PermittedBy (U : PyText) (grants : List Grant) (id : PyStr) (r : AuthRequest) : Prop :=
  ∃ g ∈ grants, g.grantId = id ∧ Permits U g r

theorem PermittedBy.of_same (h : SameGrants l l') (hp : PermittedBy U l id r) :
    PermittedBy U l' id r := by
  obtain ⟨g, hg, hid, hperm⟩ := hp
  obtain ⟨g', hg', he⟩ := h.mem hg
  have hsame : g'.frame.grantId = g.frame.grantId := congrArg Grant.grantId he
  refine ⟨g', hg', hsame.trans hid, ?_⟩
  rw [← permits_frame_iff, he, permits_frame_iff]
  exact hperm

/-- A thread that may still send a PASS under the grant, or give its use back. -/
def AuthThread.holds (id : PyStr) (t : AuthThread) : Bool :=
  match t.stage with
  | .decided d | .ready d | .unrecorded d => d.status = .passAdd && d.grantId == id
  | .replied _ | .gone => false

/-- A PASS under the grant. -/
def WireReply.passUnder (id : PyStr) (w : WireReply) : Bool :=
  w.decision.status = .passAdd && w.decision.grantId == id

/-- The uses that are taken: held by a thread, or answered with a PASS. -/
def AuthServer.taken (s : AuthServer) (id : PyStr) : Nat :=
  s.threads.countP (·.holds id) + s.wire.countP (·.passUnder id)

/-- A thread that moves on holds its use as before, or lets go of it. -/
theorem countP_setStage (h : s.threads[i]? = some t) (id : PyStr) (stage : AuthStage) :
    (s.setStage i stage).threads.countP (·.holds id) + (if t.holds id then 1 else 0) =
      s.threads.countP (·.holds id) + (if AuthThread.holds id ⟨t.request, stage⟩ then 1 else 0) := by
  have hcount := Machine.countP_modify (holds id) (fun t => ⟨t.request, stage⟩) h
  simp only [Bool.toNat, Bool.cond_eq_ite] at hcount
  exact hcount

theorem holds_gone (id : PyStr) (r : AuthRequest) : AuthThread.holds id ⟨r, .gone⟩ = false := rfl

theorem countP_setStage_gone_le (s : AuthServer) (i : Nat) (id : PyStr) :
    (s.setStage i .gone).threads.countP (·.holds id) ≤ s.threads.countP (·.holds id) := by
  cases h : s.threads[i]? with
  | none =>
    have hlen := getElem?_eq_none_iff.mp h
    exact Nat.le_of_eq (by rw [setStage, modify_eq_self hlen])
  | some t =>
    have := countP_setStage h id .gone
    rw [holds_gone] at this
    simp only [Bool.false_eq_true, if_false, Nat.add_zero] at this
    omega

/-- What is left, in memory and on disk, and what is taken, stay within what was loaded. -/
structure Bounded (grants : List Grant) (s : AuthServer) : Prop where
  same_policy : SameGrants s.policy grants
  same_file : SameGrants s.file grants
  policy_le : ∀ id, id ≠ [] → max 0 (uses s.policy id) + s.taken id ≤ max 0 (uses grants id)
  file_le : ∀ id, id ≠ [] → max 0 (uses s.file id) + s.taken id ≤ max 0 (uses grants id)

/-- Fewer uses taken, with the policies as they were. -/
theorem Bounded.taken_le (h : Bounded grants s) (hp : s'.policy = s.policy) (hf : s'.file = s.file)
    (ht : ∀ id, id ≠ [] → s'.taken id ≤ s.taken id) : Bounded grants s' where
  same_policy := hp ▸ h.same_policy
  same_file := hf ▸ h.same_file
  policy_le id hid := by
    have := h.policy_le id hid
    have := ht id hid
    rw [hp]
    omega
  file_le id hid := by
    have := h.file_le id hid
    have := ht id hid
    rw [hf]
    omega

/-! ## What one event does -/

/-- The ways a request is decided on: nothing is taken, or a use of a grant that permits
it, on disk too if the decision is to go on. -/
inductive Decides (U : PyText) (s : AuthServer) (r : AuthRequest) :
    AuthServer → Option Decision → Prop
  | kept (d : Decision) (h : d.grantId = []) : Decides U s r s (some d)
  | reserved (d : Decision) (reservations : PyStr → Option Reservation)
      (hpass : d.status = .passAdd) (g : Grant) (hg : g ∈ s.policy) (hid : g.grantId = d.grantId)
      (hperm : Permits U g r) (huses : 0 < g.usesRemaining) :
      Decides U s r { s with
        policy := updateUses d.grantId (fun n => max 0 (n - 1)) s.policy
        file := updateUses d.grantId (fun n => max 0 (n - 1)) s.policy
        reservations := reservations } (some d)
  | unwritten (g : Grant) (reservations : PyStr → Option Reservation) (hg : g ∈ s.policy)
      (huses : 0 < g.usesRemaining) :
      Decides U s r { s with
        policy := updateUses g.grantId (fun n => max 0 (n - 1)) s.policy
        reservations := reservations } none

theorem authorize_status (h : (authorize U grants device user command nowNs).grantId ≠ []) :
    (authorize U grants device user command nowNs).status = .passAdd := by
  unfold authorize at h ⊢
  simp only at h ⊢
  split
  · simp_all [denied]
  split
  · rfl
  split
  · split
    · rfl
    · simp_all [denied]
  split
  · simp_all [denied]
  split
  · simp_all [denied]
  split
  · rfl
  · simp_all [denied]

theorem any_grantId_of_mem (hg : g ∈ l) (hid : g.grantId = id) :
    l.any (·.grantId == id) = true := any_eq_true.mpr ⟨g, hg, by simpa using hid⟩

theorem decideRequest_decides (s : AuthServer) (r : AuthRequest) (written : Bool) :
    Decides U s r (decideRequest U s r written).1 (decideRequest U s r written).2 := by
  unfold decideRequest
  split
  · exact .kept _ rfl
  rename_i hclear
  split
  · exact .kept _ rfl
  rename_i device hdevice
  split
  · exact .kept _ rfl
  rename_i hparse
  split
  · exact .kept _ rfl
  rename_i command hcommand
  unfold authorizeAndReserve
  simp only
  split
  · rename_i hpass
    obtain ⟨g, hg, hid, hdev, huser, hspell, hfrom, hto, huses⟩ := authorize_grant hpass.2
    have hperm : Permits U g r := ⟨hdevice.trans (congrArg some hdev.symm), huser.symm,
      ⟨command, hcommand, hspell⟩, ⟨hfrom, hto⟩, by simpa using hclear, by simpa using hparse⟩
    simp only [consume, any_grantId_of_mem hg hid, if_true]
    split
    · exact .reserved _ _ hpass.1 g hg hid hperm huses
    · exact hid ▸ .unwritten g _ hg huses
  · rename_i hno
    refine .kept _ (Decidable.byContradiction fun hne => hno ⟨authorize_status hne, hne⟩)

/-- A decision that names a grant is a PASS the grant permits. -/
def Decision.Backed (U : PyText) (grants : List Grant) (d : Decision) (r : AuthRequest) : Prop :=
  d.grantId ≠ [] → d.status = .passAdd ∧ PermittedBy U grants d.grantId r

theorem backed_denied (grants : List Grant) (status : AuthStatus) (reason : AuthReason)
    (r : AuthRequest) : (denied status reason).Backed U grants r := fun h => absurd rfl h

/-- What a thread owes: its decision is backed, and recorded before it is answered with a
PASS. -/
def AuthThread.Sound (U : PyText) (grants : List Grant) (chain : List AuthRecord) (i : Nat)
    (t : AuthThread) : Prop :=
  match t.stage with
  | .decided d | .unrecorded d => d.Backed U grants t.request
  | .ready d | .replied d => d.Backed U grants t.request ∧
      (d.status = .passAdd → ⟨i, t.request, d⟩ ∈ chain)
  | .gone => True

/-- The thread has answered, or is over. -/
def AuthThread.answered (t : AuthThread) : Bool :=
  match t.stage with
  | .replied _ | .gone => true
  | _ => false

/-- **The invariant of the server.** -/
structure AuthServer.Sound (U : PyText) (grants : List Grant) (s : AuthServer) : Prop where
  bounded : Bounded grants s
  threads_sound : ∀ (i : Nat) (t : AuthThread), s.threads[i]? = some t → t.Sound U grants s.chain i
  wire_answered : ∀ w ∈ s.wire, ∃ t, s.threads[w.thread]? = some t ∧ t.answered = true

theorem getElem?_setStage (s : AuthServer) (i j : Nat) (stage : AuthStage) :
    (s.setStage i stage).threads[j]? =
      if i = j then s.threads[j]?.map (fun t => { t with stage := stage }) else s.threads[j]? := by
  simp only [setStage, getElem?_modify]
  split <;> cases s.threads[j]? <;> rfl

/-- A thread that moves on, with everything else about the threads kept. -/
theorem threads_setStage (h : s.Sound U grants) (ht : s.threads[i]? = some t)
    {chain : List AuthRecord} (hchain : s.chain ⊆ chain)
    (hstage : AuthThread.Sound U grants chain i ⟨t.request, stage⟩) :
    ∀ (j : Nat) (t' : AuthThread), (s.setStage i stage).threads[j]? = some t' →
      t'.Sound U grants chain j := by
  intro j t' ht'
  rw [getElem?_setStage] at ht'
  split at ht'
  · rename_i hij
    subst hij
    rw [ht] at ht'
    cases ht'
    exact hstage
  · have hold := h.threads_sound j t' ht'
    unfold AuthThread.Sound at hold ⊢
    split at hold
    · exact hold
    · exact hold
    · exact ⟨hold.1, fun hp => hchain (hold.2 hp)⟩
    · exact ⟨hold.1, fun hp => hchain (hold.2 hp)⟩
    · trivial

/-- Replies stay replies of threads that have answered. -/
theorem wire_setStage (h : s.Sound U grants)
    (hkeep : ∀ t, s.threads[i]? = some t → t.answered = true →
      AuthThread.answered ⟨t.request, stage⟩ = true) :
    ∀ w ∈ s.wire, ∃ t, (s.setStage i stage).threads[w.thread]? = some t ∧ t.answered = true := by
  intro w hw
  obtain ⟨t, ht, ha⟩ := h.wire_answered w hw
  rw [getElem?_setStage]
  split
  · rename_i hij
    subst hij
    exact ⟨_, by rw [ht]; rfl, hkeep t ht ha⟩
  · exact ⟨t, ht, ha⟩

theorem taken_setStage (ht : s.threads[i]? = some t) (id : PyStr) (stage : AuthStage) :
    (s.setStage i stage).taken id + (if t.holds id then 1 else 0) =
      s.taken id + (if AuthThread.holds id ⟨t.request, stage⟩ then 1 else 0) := by
  have := countP_setStage ht id stage
  have hwire : (s.setStage i stage).wire = s.wire := rfl
  simp only [taken, hwire]
  omega

/-- Taking a use of a grant that has one. -/
theorem uses_take (hnd : (l.map (·.grantId)).Nodup) (hg : g ∈ l) (huses : 0 < g.usesRemaining)
    (id : PyStr) : uses (updateUses g.grantId (fun n => max 0 (n - 1)) l) id =
      uses l id - if id = g.grantId then 1 else 0 := by
  split
  · rename_i hid
    subst hid
    rw [uses_updateUses _ (any_grantId_of_mem hg rfl), uses_of_mem hnd hg]
    omega
  · rename_i hid
    rw [uses_updateUses_of_ne hid]
    omega

theorem taken_append (s : AuthServer) (t : AuthThread) (id : PyStr) :
    AuthServer.taken { s with threads := s.threads ++ [t] } id =
      s.taken id + if t.holds id then 1 else 0 := by
  simp only [taken, countP_append, countP_singleton]
  omega

theorem beq_eq_decide_symm (a b : PyStr) : (a == b) = decide (b = a) := by
  by_cases h : b = a
  · simp [h]
  · rw [decide_eq_false h, beq_eq_false_iff_ne]
    exact fun he => h he.symm

/-- The thread of a request that has been decided on. -/
def newThread (r : AuthRequest) (d : Option Decision) : AuthThread := ⟨r, (d.map .decided).getD .gone⟩

/-- A decision keeps the bounds: a use is held from the moment it is taken. -/
theorem Bounded.request (hnd : (grants.map (·.grantId)).Nodup) (h : Bounded grants s)
    {d : Option Decision} (hd : Decides U s r s' d) :
    Bounded grants { s' with threads := s'.threads ++ [newThread r d] } := by
  have hnd' : (s.policy.map (·.grantId)).Nodup := h.same_policy.ids ▸ hnd
  cases hd with
  | kept d hnone =>
    refine h.taken_le rfl rfl fun id hid => ?_
    have hfree : (newThread r (some d)).holds id = false := by
      simpa [newThread, holds, hnone] using fun _ => hid
    rw [taken_append, hfree]
    exact Nat.le_refl _
  | reserved d reservations hpass g hg hid hperm huses =>
    have hholds (id : PyStr) : (newThread r (some d)).holds id = decide (id = g.grantId) := by
      simp only [newThread, holds, Option.map_some, Option.getD_some, hpass, decide_true,
        Bool.true_and, hid]
      exact beq_eq_decide_symm _ _
    have hle (id : PyStr) (hne : id ≠ []) :
        max 0 (uses (updateUses g.grantId (fun n => max 0 (n - 1)) s.policy) id) +
          (s.taken id + if (newThread r (some d)).holds id then 1 else 0 : Nat) ≤
            max 0 (uses grants id) := by
      have := h.policy_le id hne
      have hleft := uses_of_mem hnd' hg
      rw [uses_take hnd' hg huses, hholds]
      by_cases he : id = g.grantId
      · simp only [he, decide_true, if_true] at this ⊢
        push_cast
        omega
      · simp only [he, decide_false, if_false, Bool.false_eq_true] at this ⊢
        omega
    have hsame : SameGrants (updateUses g.grantId (fun n => max 0 (n - 1)) s.policy) grants :=
      (map_frame_updateUses _ _ _).trans h.same_policy
    rw [← hid]
    exact ⟨hsame, hsame, fun id hne => by rw [taken_append]; exact hle id hne,
      fun id hne => by rw [taken_append]; exact hle id hne⟩
  | unwritten g reservations hg huses =>
    have hfree (id : PyStr) : (newThread r none).holds id = false := rfl
    refine ⟨(map_frame_updateUses _ _ _).trans h.same_policy, h.same_file, ?_, ?_⟩
    · intro id hne
      have := h.policy_le id hne
      rw [taken_append, hfree]
      simp only [uses_take hnd' hg huses, Bool.false_eq_true, if_false]
      change _ + ((s.taken id : Nat) : Int) ≤ _
      split <;> omega
    · intro id hne
      rw [taken_append, hfree]
      exact h.file_le id hne

/-- What a release does: nothing, or one use more under the id. -/
theorem release_cases (s : AuthServer) (id : PyStr) (written : Bool) :
    release s id written = (s, some false) ∨
    (id ≠ [] ∧ s.policy.any (·.grantId == id) = true ∧ ∃ reservations,
      (release s id written = ({ s with
        policy := updateUses id (· + 1) s.policy
        file := updateUses id (· + 1) s.policy
        reservations := reservations }, some true) ∨
      release s id written = ({ s with
        policy := updateUses id (· + 1) s.policy
        reservations := reservations }, none))) := by
  unfold release
  split
  · exact .inl rfl
  rename_i hcond
  simp only [not_or, Bool.not_eq_false] at hcond
  refine .inr ⟨hcond.1, hcond.2.2, fun x => if x = id then none else s.reservations x, ?_⟩
  cases written with
  | true => exact .inl rfl
  | false => exact .inr rfl

theorem uses_give (h : l.any (·.grantId == id) = true) (x : PyStr) :
    uses (updateUses id (· + 1) l) x = uses l x + if x = id then 1 else 0 := by
  split
  · rename_i hx
    subst hx
    exact uses_updateUses _ h
  · rename_i hx
    rw [uses_updateUses_of_ne hx]
    omega

/-- A use that goes back is no longer held. -/
theorem Bounded.give (h : Bounded grants s)
    (hany : s.policy.any (·.grantId == id) = true) (hp : s'.policy = updateUses id (· + 1) s.policy)
    (hf : s'.file = s.file ∨ s'.file = s'.policy)
    (ht : ∀ x, x ≠ [] → s'.taken x + (if x = id then 1 else 0) ≤ s.taken x) :
    Bounded grants s' := by
  have hsame : SameGrants s'.policy grants := by
    rw [hp]
    exact (map_frame_updateUses _ _ _).trans h.same_policy
  have hle : ∀ x, x ≠ [] → max 0 (uses s'.policy x) + s'.taken x ≤ max 0 (uses grants x) := by
    intro x hx
    have h1 := h.policy_le x hx
    have h2 := ht x hx
    rw [hp, uses_give hany]
    by_cases he : x = id
    · simp only [he, if_true] at h1 h2 ⊢
      omega
    · simp only [he, if_false] at h2 ⊢
      omega
  refine ⟨hsame, ?_, hle, ?_⟩
  · rcases hf with hf | hf
    · exact hf ▸ h.same_file
    · exact hf ▸ hsame
  intro x hx
  rcases hf with hf | hf
  · have h1 := h.file_le x hx
    have h2 := ht x hx
    rw [hf]
    omega
  · exact hf ▸ hle x hx

theorem holds_unrecorded (h : d.Backed U grants r) (hid : d.grantId ≠ []) (x : PyStr) :
    AuthThread.holds x ⟨r, .unrecorded d⟩ = decide (x = d.grantId) := by
  simp only [holds, (h hid).1, decide_true, Bool.true_and]
  exact beq_eq_decide_symm _ _

/-! ### The step -/

section
variable {grants : List Grant} {s : AuthServer}

theorem sound_request (hnd : (grants.map (·.grantId)).Nodup) (h : s.Sound U grants)
    (r : AuthRequest) (written : Bool) : (authStep U s (.request r written)).1.Sound U grants := by
  have hd := decideRequest_decides (U := U) s r written
  have hstep : (authStep U s (.request r written)).1 = { (decideRequest U s r written).1 with
        threads := (decideRequest U s r written).1.threads ++
          [newThread r (decideRequest U s r written).2] } := by
    simp only [authStep]
    cases decideRequest U s r written with
    | mk s' d => cases d <;> rfl
  rw [hstep]
  generalize (decideRequest U s r written).1 = s', (decideRequest U s r written).2 = d at hd ⊢
  have hbounded := h.bounded.request hnd hd
  -- the decision touches neither threads, chain nor wire
  have hkeep : s'.threads = s.threads ∧ s'.chain = s.chain ∧ s'.wire = s.wire := by
    cases hd <;> exact ⟨rfl, rfl, rfl⟩
  have hnew : (newThread r d).Sound U grants s.chain s.threads.length := by
    cases hd with
    | kept d hnone => exact fun hne => absurd hnone hne
    | reserved d reservations hpass g hg hid hperm huses =>
      exact fun _ => ⟨hpass, PermittedBy.of_same h.bounded.same_policy ⟨g, hg, hid, hperm⟩⟩
    | unwritten g reservations hg huses => trivial
  refine ⟨hbounded, ?_, ?_⟩
  · intro i t ht
    simp only [hkeep.1, hkeep.2.1] at ht ⊢
    by_cases hi : i < s.threads.length
    · rw [getElem?_append_left hi] at ht
      exact h.threads_sound i t ht
    rw [getElem?_append_right (Nat.le_of_not_lt hi)] at ht
    have hlast : i - s.threads.length = 0 := by
      by_contra hne
      rw [getElem?_eq_none (by simp; omega)] at ht
      cases ht
    rw [hlast] at ht
    cases ht
    have hi' : i = s.threads.length := by omega
    exact hi' ▸ hnew
  · intro w hw
    simp only [hkeep.1, hkeep.2.2] at hw ⊢
    obtain ⟨t, ht, ha⟩ := h.wire_answered w hw
    exact ⟨t, by rw [getElem?_append_left (List.getElem?_eq_some_iff.mp ht).1]; exact ht, ha⟩

theorem sound_chained (h : s.Sound U grants) (i : Nat) (ok : Bool) :
    (authStep U s (.chained i ok)).1.Sound U grants := by
  simp only [authStep]
  split
  · rename_i r d ht
    have hback : d.Backed U grants r := h.threads_sound i _ ht
    have hwire : ∀ stage : AuthStage, ∀ t, s.threads[i]? = some t → t.answered = true →
        answered ⟨t.request, stage⟩ = true := by
      intro stage t ht' ha
      rw [ht] at ht'
      cases ht'
      cases ha
    split
    · refine ⟨h.bounded.taken_le rfl rfl fun id _ => ?_,
        threads_setStage h ht (subset_append_left _ _) ⟨hback, fun _ => by simp⟩,
        wire_setStage h (hwire _)⟩
      have := taken_setStage ht id (.ready d)
      simp only [holds] at this
      exact Nat.le_of_eq (by simpa [taken] using this)
    · refine ⟨h.bounded.taken_le rfl rfl fun id _ => ?_,
        threads_setStage h ht (Subset.refl _) hback, wire_setStage h (hwire _)⟩
      have := taken_setStage ht id (.unrecorded d)
      simp only [holds] at this
      exact Nat.le_of_eq (by simpa [taken] using this)
  · exact h

/-- A thread that has not answered may take any stage, as far as the wire goes. -/
theorem wire_of_unanswered (h : s.Sound U grants) (ht : s.threads[i]? = some t)
    (hno : t.answered = false) (stage : AuthStage) :
    ∀ w ∈ s.wire, ∃ t, (s.setStage i stage).threads[w.thread]? = some t ∧ t.answered = true := by
  refine wire_setStage h fun t' ht' ha => ?_
  rw [ht] at ht'
  cases ht'
  rw [hno] at ha
  cases ha

/-- Letting go of a decision: the thread goes on with an error, or not at all. -/
theorem taken_let_go (ht : s.threads[i]? = some ⟨r, .unrecorded d⟩) (hback : d.Backed U grants r)
    (hstage : ∀ x, AuthThread.holds x ⟨r, stage⟩ = false) (x : PyStr) :
    (s.setStage i stage).taken x + (if d.grantId ≠ [] ∧ x = d.grantId then 1 else 0) ≤ s.taken x := by
  have := taken_setStage ht x stage
  rw [hstage] at this
  split
  · rename_i hx
    rw [holds_unrecorded hback hx.1, hx.2] at this
    simp only [decide_true, if_true, Bool.false_eq_true, if_false, hx.2] at this ⊢
    omega
  · simp only [Bool.false_eq_true, if_false] at this
    omega

section
variable (h : s.Sound U grants)
include h

theorem sound_release (i : Nat) (written : Bool) :
    (authStep U s (.release i written)).1.Sound U grants := by
  simp only [authStep]
  split
  · rename_i r d ht
    have hback : d.Backed U grants r := h.threads_sound i _ ht
    have hwire := wire_of_unanswered h ht rfl
    have herror : ∀ x, holds x ⟨r, .ready (denied .error .notRecorded)⟩ = false :=
      fun _ => rfl
    have hready : AuthThread.Sound U grants s.chain i ⟨r, .ready (denied .error .notRecorded)⟩ :=
      ⟨backed_denied _ _ _ _, fun hp => by cases hp⟩
    rcases release_cases s d.grantId written with he | ⟨hid, hany, reservations, he | he⟩
    · rw [he]
      refine ⟨h.bounded.taken_le rfl rfl fun x _ => ?_, threads_setStage h ht (Subset.refl _)
        hready, hwire _⟩
      exact Nat.le_trans (Nat.le_add_right _ _) (taken_let_go ht hback herror x)
    · rw [he]
      refine ⟨h.bounded.give hany rfl (.inr rfl) fun x _ => ?_, threads_setStage h ht
        (Subset.refl _) hready, hwire _⟩
      have := taken_let_go ht hback herror x
      simp only [hid, ne_eq, not_false_eq_true, true_and] at this
      exact this
    · rw [he]
      refine ⟨h.bounded.give hany rfl (.inl rfl) fun x _ => ?_, threads_setStage h ht
        (Subset.refl _) trivial, hwire _⟩
      have := taken_let_go ht hback (fun x => holds_gone x r) x
      simp only [hid, ne_eq, not_false_eq_true, true_and] at this
      exact this
  · exact h

/-- A reply moves a use from the thread to the wire. -/
theorem sound_send (i : Nat) : (authStep U s (.send i)).1.Sound U grants := by
  simp only [authStep]
  split
  · rename_i r d ht
    have hsound : AuthThread.Sound U grants s.chain i ⟨r, .ready d⟩ := h.threads_sound i _ ht
    refine ⟨h.bounded.taken_le rfl rfl fun x _ => ?_,
      threads_setStage h ht (Subset.refl _) hsound, ?_⟩
    · have hmove := countP_setStage ht x (.replied d)
      have hreplied : holds x ⟨r, .replied d⟩ = false := rfl
      have hreply : WireReply.passUnder x ⟨i, d⟩ = holds x ⟨r, .ready d⟩ := rfl
      simp only [hreplied, Bool.false_eq_true, if_false] at hmove
      simp only [taken, countP_append, countP_singleton, hreply]
      omega
    · intro w hw
      rcases mem_append.mp hw with hw | hw
      · exact wire_of_unanswered h ht rfl _ w hw
      rw [mem_singleton.mp hw]
      refine ⟨⟨r, .replied d⟩, ?_, rfl⟩
      change (s.setStage i (.replied d)).threads[i]? = _
      rw [getElem?_setStage, if_pos rfl, ht]
      rfl
  · exact h

theorem sound_gone (i : Nat) : (s.setStage i .gone).Sound U grants := by
  refine ⟨h.bounded.taken_le rfl rfl fun x _ => ?_, ?_, wire_setStage h fun _ _ _ => rfl⟩
  · have := countP_setStage_gone_le s i x
    have hwire : (s.setStage i .gone).wire = s.wire := rfl
    simp only [taken, hwire]
    omega
  · intro j t ht
    rw [getElem?_setStage] at ht
    split at ht
    · cases hold : s.threads[j]? with
      | none => simp [hold] at ht
      | some t' =>
        rw [hold] at ht
        cases ht
        trivial
    · exact h.threads_sound j t ht

theorem sound_spend (i : Nat) : (authStep U s (.spend i)).1.Sound U grants := by
  simp only [authStep]
  split
  · have hgone := sound_gone h i
    split
    · exact ⟨⟨hgone.bounded.same_policy, hgone.bounded.same_file, hgone.bounded.policy_le,
        hgone.bounded.file_le⟩, hgone.threads_sound, hgone.wire_answered⟩
    · exact hgone
  · exact h

/-- After a crash the policy is what the disk says, and no thread holds anything. -/
theorem sound_crash : (authStep U s .crash).1.Sound U grants := by
  have hnone (x : PyStr) : (s.threads.map fun t => { t with stage := .gone }).countP
      (·.holds x) = 0 := by
    rw [countP_map, countP_eq_zero]
    intro t _ hp
    cases hp
  have hle (x : PyStr) (hx : x ≠ []) :
      max 0 (uses s.file x) + (authStep U s .crash).1.taken x ≤ max 0 (uses grants x) := by
    have := h.bounded.file_le x hx
    simp only [taken, authStep, hnone] at this ⊢
    push_cast at this ⊢
    omega
  refine ⟨⟨h.bounded.same_file, h.bounded.same_file, hle, hle⟩, ?_, ?_⟩
  · intro j t ht
    simp only [authStep, getElem?_map] at ht
    cases hold : s.threads[j]? with
    | none => simp [hold] at ht
    | some t' =>
      rw [hold] at ht
      cases ht
      trivial
  · intro w hw
    obtain ⟨t, ht, -⟩ := h.wire_answered w hw
    exact ⟨{ t with stage := .gone }, by simp [authStep, ht], rfl⟩

end

/-- **Every event keeps the server sound.** -/
theorem sound_authStep (hnd : (grants.map (·.grantId)).Nodup) (s : AuthServer) (e : AuthEvent)
    (h : s.Sound U grants) : (authStep U s e).1.Sound U grants := by
  cases e with
  | request r written => exact sound_request hnd h r written
  | chained i ok => exact sound_chained h i ok
  | release i written => exact sound_release h i written
  | send i => exact sound_send h i
  | spend i => exact sound_spend h i
  | die i => exact sound_gone h i
  | crash => exact sound_crash h

theorem sound_start (grants : List Grant) : (AuthServer.start grants).Sound U grants := by
  refine ⟨⟨rfl, rfl, fun id _ => ?_, fun id _ => ?_⟩, fun i t ht => ?_, fun w hw => ?_⟩
  · change max 0 (uses grants id) + ((0 : Nat) : Int) ≤ _
    omega
  · change max 0 (uses grants id) + ((0 : Nat) : Int) ≤ _
    omega
  · simp [start] at ht
  · cases hw

end

/-- The thread will not send a PASS any more. -/
def AuthThread.settled (t : AuthThread) : Bool :=
  match t.stage with
  | .ready d | .replied d => d.status ≠ .passAdd
  | .gone => true
  | _ => false

/-- A thread has not sent a PASS and will not. -/
def NoPass (i : Nat) (s : AuthServer) : Prop :=
  (∀ w ∈ s.wire, w.thread = i → w.decision.status ≠ .passAdd) ∧
    ∃ t, s.threads[i]? = some t ∧ t.settled = true

theorem settled_setStage {j : Nat} (ht : s.threads[i]? = some t) (hs : t.settled = true)
    (hstage : j = i → AuthThread.settled ⟨t.request, stage⟩ = true) :
    ∃ t, (s.setStage j stage).threads[i]? = some t ∧ t.settled = true := by
  rw [getElem?_setStage]
  split
  · rename_i hji
    exact ⟨_, by rw [ht]; rfl, hstage hji⟩
  · exact ⟨t, ht, hs⟩

theorem noPass_step (i : Nat) (s : AuthServer) (e : AuthEvent) (h : NoPass i s) :
    NoPass i (authStep U s e).1 := by
  obtain ⟨hwire, t, ht, hs⟩ := h
  -- a thread in another stage than a settled one is another thread
  have other {j : Nat} {r : AuthRequest} {stage : AuthStage}
      (hj : s.threads[j]? = some ⟨r, stage⟩) (hu : settled ⟨r, stage⟩ = false) : j ≠ i := by
    rintro rfl
    rw [ht] at hj
    rw [Option.some.inj hj, hu] at hs
    cases hs
  cases e with
  | request r written =>
    have hd := decideRequest_decides (U := U) s r written
    simp only [authStep]
    generalize decideRequest U s r written = p at hd
    obtain ⟨s', d⟩ := p
    have hkeep : s'.threads = s.threads ∧ s'.wire = s.wire := by
      cases hd <;> exact ⟨rfl, rfl⟩
    have hthread (x : AuthThread) : (s'.threads ++ [x])[i]? = some t := by
      rw [hkeep.1, getElem?_append_left (List.getElem?_eq_some_iff.mp ht).1]
      exact ht
    cases d <;> exact ⟨hkeep.2 ▸ hwire, t, hthread _, hs⟩
  | chained j ok =>
    simp only [authStep]
    split
    · rename_i r d hj
      split <;> exact ⟨hwire, settled_setStage ht hs fun hji => absurd hji (other hj rfl)⟩
    · exact ⟨hwire, t, ht, hs⟩
  | release j written =>
    simp only [authStep]
    split
    · rename_i r d hj
      rcases release_cases s d.grantId written with he | ⟨-, -, reservations, he | he⟩ <;> rw [he]
      · exact ⟨hwire, settled_setStage ht hs fun _ => rfl⟩
      · exact ⟨hwire, settled_setStage (s := { s with
          policy := _, file := _, reservations := reservations }) ht hs fun _ => rfl⟩
      · exact ⟨hwire, settled_setStage (s := { s with
          policy := _, reservations := reservations }) ht hs fun _ => rfl⟩
    · exact ⟨hwire, t, ht, hs⟩
  | send j =>
    simp only [authStep]
    split
    · rename_i r d hj
      have hsame (hji : j = i) : settled ⟨r, .ready d⟩ = true := by
        rw [hji, ht] at hj
        rw [← Option.some.inj hj]
        exact hs
      refine ⟨?_, settled_setStage ht hs fun hji => ?_⟩
      · intro w hw hwi
        rcases List.mem_append.mp hw with hw | hw
        · exact hwire w hw hwi
        · obtain rfl := List.mem_singleton.mp hw
          simpa [settled] using hsame hwi
      · simpa [settled] using hsame hji
    · exact ⟨hwire, t, ht, hs⟩
  | spend j =>
    simp only [authStep]
    split
    · split <;> exact ⟨hwire, settled_setStage ht hs fun _ => rfl⟩
    · exact ⟨hwire, t, ht, hs⟩
  | die j => exact ⟨hwire, settled_setStage ht hs fun _ => rfl⟩
  | crash => exact ⟨hwire, { t with stage := .gone }, by simp [authStep, ht], rfl⟩

/-- The thread that gives a use back goes on with an error. -/
theorem noPass_release {written : Bool} (ht : s.threads[i]? = some ⟨r, .unrecorded d⟩)
    (hwire : ∀ w ∈ s.wire, w.thread ≠ i) :
    NoPass i (authStep U s (.release i written)).1 := by
  have hset (s' : AuthServer) (hs' : s'.threads = s.threads) (stage : AuthStage)
      (hstage : settled ⟨r, stage⟩ = true) :
      ∃ t, (s'.setStage i stage).threads[i]? = some t ∧ t.settled = true := by
    rw [getElem?_setStage, if_pos rfl, hs', ht]
    exact ⟨_, rfl, hstage⟩
  simp only [authStep, ht]
  rcases release_cases s d.grantId written with he | ⟨-, -, reservations, he | he⟩ <;> rw [he]
  · exact ⟨fun w hw hwi => absurd hwi (hwire w hw), hset s rfl _ rfl⟩
  · exact ⟨fun w hw hwi => absurd hwi (hwire w hw), hset _ rfl _ rfl⟩
  · exact ⟨fun w hw hwi => absurd hwi (hwire w hw), hset _ rfl _ rfl⟩

/-- **The grants over any run.**  For a policy whose grants have distinct, non-empty ids:
the PASS replies sent under a grant never exceed the uses it was loaded with; each
answered a request the grant permits, and the decision was chained before; and a use goes
back only for a request that has not been answered with a PASS and never will be. -/
theorem grants_of_run (grants : List Grant) (hnd : (grants.map (·.grantId)).Nodup)
    (hne : ∀ g ∈ grants, g.grantId ≠ []) (events : List AuthEvent) :
    let s := final (authStep U) (.start grants) events
    (∀ g ∈ grants, (s.wire.countP (·.passUnder g.grantId) : Int) ≤ max 0 g.usesRemaining) ∧
    (∀ i reply, (authStep U s (.send i)).2 = .sent reply → reply.decision.status = .passAdd →
      ∃ t, s.threads[i]? = some t ∧ (⟨i, t.request, reply.decision⟩ : AuthRecord) ∈ s.chain ∧
        (reply.decision.grantId ≠ [] → PermittedBy U grants reply.decision.grantId t.request)) ∧
    (∀ i written, (authStep U s (.release i written)).1.policy ≠ s.policy →
      (∀ w ∈ s.wire, w.thread ≠ i) ∧ ∀ more,
        ∀ w ∈ (final (authStep U) (authStep U s (.release i written)).1 more).wire,
          w.thread = i → w.decision.status ≠ .passAdd) := by
  intro s
  have hs : s.Sound U grants := final_invariant (I := fun s : AuthServer => s.Sound U grants)
    (sound_start grants) (sound_authStep hnd) events
  refine ⟨?_, ?_, ?_⟩
  · intro g hg
    have hle := hs.bounded.policy_le g.grantId (hne g hg)
    rw [uses_of_mem hnd hg] at hle
    simp only [taken] at hle
    push_cast at hle
    omega
  · intro i reply hsent hpass
    simp only [authStep] at hsent
    split at hsent
    · rename_i r d ht
      cases hsent
      obtain ⟨hback, hrec⟩ : d.Backed U grants r ∧
          (d.status = .passAdd → (⟨i, r, d⟩ : AuthRecord) ∈ s.chain) := hs.threads_sound i _ ht
      exact ⟨_, ht, hrec hpass, fun hid => (hback hid).2⟩
    · cases hsent
  · intro i written hgiven
    have hstep := hgiven
    simp only [authStep] at hstep
    split at hstep
    · -- the policy changes only for a thread whose decision could not be recorded
      rename_i r d ht
      have hwire : ∀ w ∈ s.wire, w.thread ≠ i := by
        rintro w hw rfl
        obtain ⟨t, ht', ha⟩ := hs.wire_answered w hw
        rw [ht] at ht'
        rw [← Option.some.inj ht'] at ha
        cases ha
      refine ⟨hwire, fun more => ?_⟩
      exact (final_invariant (noPass_release ht hwire) (noPass_step (U := U) i) more).1
    · exact absurd rfl hstep

/-! ## A router and two grants -/

namespace TacacsSample

/-- Python's text on ASCII. -/
def ascii : PyText := ⟨Char.isWhitespace, Char.isDigit, List.map Char.toLower⟩

/-- A grant of the compiler, valid from 100 to 200, for two uses. -/
def grant : Grant :=
  ⟨"g-1".toList, "virp-rw".toList, "r1".toList, "interface Loopback 0".toList,
    ["interface Loopback 0".toList, "interface Loopback0".toList], 100, 200, 2⟩

def request (nowNs : Int) : AuthRequest :=
  ⟨false, some "r1".toList, false, some "interface  Loopback0 <cr>".toList, "virp-rw".toList, nowNs⟩

/-- Three requests; the first could not be recorded and gives its use back, the others are
answered under the grant, and after a crash a fourth finds it spent. -/
def events : List AuthEvent :=
  [.request (request 100) true, .request (request 120) true, .chained 0 false, .release 0 true,
   .send 0, .chained 1 true, .send 1, .spend 1, .request (request 130) true, .chained 2 true,
   .send 2, .crash, .request (request 140) true, .chained 3 true, .send 3]

def wire : List WireReply :=
  [⟨0, denied .error .notRecorded⟩, ⟨1, ⟨.passAdd, .grant "g-1".toList, "g-1".toList⟩⟩,
   ⟨2, ⟨.passAdd, .grant "g-1".toList, "g-1".toList⟩⟩, ⟨3, denied .fail (.faults [.spent "g-1".toList])⟩]

/-- The same grant, without an id and for one use. -/
def unnamed : Grant := { grant with grantId := [], usesRemaining := 1 }

/-- Two requests, each chained and answered. -/
def twice : List AuthEvent :=
  [.request (request 100) true, .chained 0 true, .send 0, .spend 0,
   .request (request 120) true, .chained 1 true, .send 1]

end TacacsSample

open TacacsSample

theorem grants_of_run_sample :
    (final (authStep ascii) (.start [grant]) events).wire = TacacsSample.wire ∧
    (TacacsSample.wire.countP (·.passUnder grant.grantId) : Int) ≤ max 0 grant.usesRemaining := by
  have hwire : (final (authStep ascii) (.start [grant]) events).wire = TacacsSample.wire := by
    decide +kernel
  have h := (grants_of_run (U := ascii) [grant] (by decide +kernel) (by decide +kernel) events).1
    grant (mem_singleton.mpr rfl)
  rw [hwire] at h
  exact ⟨hwire, h⟩

/-- A grant without an id is never reserved: one use answers two requests. -/
theorem unnamed_grant_passes_twice :
    ([unnamed].map (·.grantId)).Nodup ∧
    (final (authStep ascii) (.start [unnamed]) twice).wire =
      [⟨0, ⟨.passAdd, .grant [], []⟩⟩, ⟨1, ⟨.passAdd, .grant [], []⟩⟩] ∧
    unnamed.usesRemaining = 1 := by
  decide +kernel

end Virp
