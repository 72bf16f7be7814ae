import Virp.PortMoves

/-! # The states of a port transaction

The state of a transaction is tied to its requests: which may be unfinished, and how far
its `apply` has come.  The tie is kept by every move, and with it the store's invariant.
-/
namespace Virp

open Rows PortVerb

variable {K : PortChecks}

/-! ## States and requests -/

/-- The states of a transaction whose `apply` has not been begun. -/
def PortState.beforeApply : PortState → Bool
  | .prepared | .approved | .preflighting | .preflightVerified | .preflightRefused => true
  | _ => false

/-- The states in which a request may be unfinished: the one its verb runs in, or, if
the lease ended on it, the closed one. -/
def Pending (state : PortState) (q : RequestRow) : Prop :=
  state = q.verb.running ∨
    state = .expiredBeforeApply ∧ (q.verb = .preflight ∨ q.verb = .apply ∧ q.dispatched = false)

/-- A request of the transaction. -/
def RequestOf (t : Rows PyStr RequestRow) (tid rid : PyStr) (q : RequestRow) : Prop :=
  t.get rid = some q ∧ q.transactionId = tid

/-- The state of a transaction fits its requests: at most one is unfinished, and it is the
one the state says; at most one is an `apply`, and once that is dispatched, the end of the
lease closes nothing. -/
structure Fits (t : Rows PyStr RequestRow) (tid : PyStr) (state : PortState) : Prop where
  pending : ∀ rid q, RequestOf t tid rid q → q.finished = false → Pending state q
  one_pending : ∀ rid rid' q q', RequestOf t tid rid q → RequestOf t tid rid' q' →
    q.finished = false → q'.finished = false → rid = rid'
  apply_after : ∀ rid q, RequestOf t tid rid q → q.verb = .apply → state.beforeApply = false
  one_apply : ∀ rid rid' q q', RequestOf t tid rid q → RequestOf t tid rid' q' →
    q.verb = .apply → q'.verb = .apply → rid = rid'
  applied : ∀ rid q, RequestOf t tid rid q → q.verb = .apply → q.dispatched = true →
    state ≠ .expiredBeforeApply

variable {f : RequestRow → RequestRow} {x : PyStr} {s s' : PortStore} {row : PortRow}

section Fits

variable {t t' : Rows PyStr RequestRow} {tid rid : PyStr} {state next : PortState}
  {q : RequestRow} {verb : PortVerb}

theorem Fits.of_none (h : ∀ rid q, ¬RequestOf t tid rid q) : Fits t tid state :=
  ⟨fun rid q hq => absurd hq (h rid q), fun rid _ q _ hq => absurd hq (h rid q),
    fun rid q hq => absurd hq (h rid q), fun rid _ q _ hq => absurd hq (h rid q),
    fun rid q hq => absurd hq (h rid q)⟩

section
variable (h : Fits t tid state)
include h

theorem Fits.congr (he : ∀ rid q, RequestOf t' tid rid q ↔ RequestOf t tid rid q) :
    Fits t' tid state := by
  obtain ⟨h1, h2, h3, h4, h5⟩ := h
  refine ⟨?_, ?_, ?_, ?_, ?_⟩ <;> simpa only [he]

/-- A state in which no verb runs has no unfinished request. -/
theorem Fits.finished (hidle : ∀ verb : PortVerb, state ≠ verb.running)
    (hopen : state ≠ .expiredBeforeApply) (hq : RequestOf t tid rid q) : q.finished = true := by
  by_contra hfin
  rcases h.pending rid q hq (by simpa using hfin) with hp | ⟨hp, -⟩
  · exact hidle _ hp
  · exact hopen hp

/-- The same requests fit another state, if none is unfinished. -/
theorem Fits.idle (hfin : ∀ rid q, RequestOf t tid rid q → q.finished = true)
    (hbefore : next.beforeApply = true → state.beforeApply = true)
    (hexp : next = .expiredBeforeApply → state = .expiredBeforeApply) : Fits t tid next := by
  refine ⟨?_, ?_, ?_, h.one_apply, ?_⟩
  · intro rid q hq hunf
    rw [hfin rid q hq] at hunf
    cases hunf
  · intro rid rid' q q' hq _ hunf
    rw [hfin rid q hq] at hunf
    cases hunf
  · intro rid q hq hverb
    by_contra hb
    have := h.apply_after rid q hq hverb
    rw [hbefore (by simpa using hb)] at this
    cases this
  · intro rid q hq hverb hdisp he
    exact h.applied rid q hq hverb hdisp (hexp he)

theorem Fits.expire
    (hstate : state = .approved ∨ state = .preflightVerified ∨ state = .preflighting ∨
      state = .applying ∧ ∀ rid q, RequestOf t tid rid q → q.verb = .apply → q.dispatched = false) :
    Fits t tid .expiredBeforeApply := by
  have hnone : state ≠ .applying → ∀ rid q, RequestOf t tid rid q → q.verb ≠ .apply := by
    intro hne rid q hq hverb
    have := h.apply_after rid q hq hverb
    rcases hstate with rfl | rfl | rfl | ⟨rfl, -⟩
    · cases this
    · cases this
    · cases this
    · exact hne rfl
  have hundisp : ∀ rid q, RequestOf t tid rid q → q.verb = .apply → q.dispatched = false := by
    intro rid q hq hverb
    by_cases hne : state = .applying
    · rcases hstate with rfl | rfl | rfl | ⟨-, hd⟩
      · cases hne
      · cases hne
      · cases hne
      · exact hd rid q hq hverb
    · exact absurd hverb (hnone hne rid q hq)
  refine ⟨?_, h.one_pending, fun _ _ _ _ => rfl, h.one_apply, ?_⟩
  · intro rid q hq hunf
    refine .inr ⟨rfl, ?_⟩
    rcases h.pending rid q hq hunf with hp | ⟨-, hp⟩
    · cases hv : q.verb with
      | preflight => exact .inl rfl
      | apply => exact .inr ⟨rfl, hundisp rid q hq hv⟩
      | verify => rw [hp, hv] at hstate; simp [running] at hstate
      | restore => rw [hp, hv] at hstate; simp [running] at hstate
      | verifyRestored => rw [hp, hv] at hstate; simp [running] at hstate
      | reconcile => rw [hp, hv] at hstate; simp [running] at hstate
    · exact hp
  · intro rid q hq hverb hdisp
    rw [hundisp rid q hq hverb] at hdisp
    cases hdisp

end

theorem requestOf_insert (hin : t.insert rid ⟨tid, verb, false, false⟩ = some t') :
    RequestOf t' tid x q ↔
      x = rid ∧ q = ⟨tid, verb, false, false⟩ ∨ x ≠ rid ∧ RequestOf t tid x q := by
  unfold RequestOf
  rw [get_insert_eq_some hin]
  constructor
  · rintro ⟨h | h, htid⟩
    · exact .inl h
    · exact .inr ⟨h.1, h.2, htid⟩
  · rintro (h | h)
    · exact ⟨.inl h, by rw [h.2]⟩
    · exact ⟨.inr ⟨h.1, h.2.1⟩, h.2.2⟩

theorem allowed_idle (h : state ∈ verb.allowed) :
    (∀ v : PortVerb, state ≠ v.running) ∧ state.closed = false ∧ state ≠ .prepared ∧
      (verb.running.beforeApply = true → state.beforeApply = true) ∧
      (verb = .apply → state.beforeApply = true) := by
  cases verb <;> simp only [allowed, List.mem_cons, List.not_mem_nil, or_false] at h <;>
    rcases h with rfl | rfl | rfl <;>
    exact ⟨fun v => by cases v <;> simp [running], rfl, by simp, by simp [running,
      PortState.beforeApply], by simp [PortState.beforeApply]⟩

theorem Fits.start (h : Fits t tid state) (hallowed : state ∈ verb.allowed)
    (hin : t.insert rid ⟨tid, verb, false, false⟩ = some t') : Fits t' tid verb.running := by
  obtain ⟨hidle, hopen, -, hbefore, happly⟩ := allowed_idle hallowed
  have hne : state ≠ .expiredBeforeApply := by
    rintro rfl
    cases hopen
  have hfin : ∀ x q, RequestOf t tid x q → q.finished = true := fun x q hq => h.finished hidle hne hq
  have hnoapply : verb = .apply → ∀ x q, RequestOf t tid x q → q.verb ≠ .apply := by
    intro hv x q hq hverb
    have := h.apply_after x q hq hverb
    rw [happly hv] at this
    cases this
  refine ⟨?_, ?_, ?_, ?_, ?_⟩
  · intro x q hq hunf
    rcases (requestOf_insert hin).mp hq with ⟨-, rfl⟩ | ⟨-, hq⟩
    · exact .inl rfl
    · rw [hfin x q hq] at hunf
      cases hunf
  · intro x y q q' hq hq' hunf hunf'
    rcases (requestOf_insert hin).mp hq with ⟨rfl, -⟩ | ⟨-, hq⟩
    · rcases (requestOf_insert hin).mp hq' with ⟨rfl, -⟩ | ⟨-, hq'⟩
      · rfl
      · rw [hfin y q' hq'] at hunf'
        cases hunf'
    · rw [hfin x q hq] at hunf
      cases hunf
  · intro x q hq hverb
    rcases (requestOf_insert hin).mp hq with ⟨-, rfl⟩ | ⟨-, hq⟩
    · obtain rfl : verb = .apply := hverb
      rfl
    · by_contra hb
      have := h.apply_after x q hq hverb
      rw [hbefore (by simpa using hb)] at this
      cases this
  · intro x y q q' hq hq' hverb hverb'
    rcases (requestOf_insert hin).mp hq with ⟨rfl, rfl⟩ | ⟨-, hq⟩
    · rcases (requestOf_insert hin).mp hq' with ⟨rfl, -⟩ | ⟨-, hq'⟩
      · rfl
      · exact absurd hverb' (hnoapply hverb y q' hq')
    · rcases (requestOf_insert hin).mp hq' with ⟨rfl, rfl⟩ | ⟨-, hq'⟩
      · exact absurd hverb (hnoapply hverb' x q hq)
      · exact h.one_apply x y q q' hq hq' hverb hverb'
  · intro x q _ _ _
    cases verb <;> simp [running]

theorem requestOf_modify (hf : ∀ q, (f q).transactionId = q.transactionId) :
    RequestOf (t.modify rid f) tid x q ↔
      (x = rid ∧ ∃ p, RequestOf t tid rid p ∧ q = f p) ∨ x ≠ rid ∧ RequestOf t tid x q := by
  unfold RequestOf
  rw [get_modify_eq_some]
  constructor
  · rintro ⟨⟨hx, p, hp, rfl⟩ | ⟨hx, hq⟩, htid⟩
    · exact .inl ⟨hx, p, ⟨hp, (hf p).symm.trans htid⟩, rfl⟩
    · exact .inr ⟨hx, hq, htid⟩
  · rintro (⟨hx, p, ⟨hp, htid⟩, rfl⟩ | ⟨hx, hq, htid⟩)
    · exact ⟨.inl ⟨hx, p, hp, rfl⟩, (hf p).trans htid⟩
    · exact ⟨.inr ⟨hx, hq⟩, htid⟩

theorem requestOf_modify_self (hq : RequestOf t tid rid q)
    (hf : (f q).transactionId = q.transactionId := by rfl) :
    RequestOf (t.modify rid f) tid rid (f q) :=
  ⟨get_modify_eq_some.mpr (.inl ⟨rfl, q, hq.1, rfl⟩), hf.trans hq.2⟩

theorem requestOf_modify_other (hq : RequestOf t tid x q) (hx : x ≠ rid) :
    RequestOf (t.modify rid f) tid x q := ⟨get_modify_eq_some.mpr (.inr ⟨hx, hq.1⟩), hq.2⟩

/-- A request of the changed table was one of the table before, with the same verb. -/
theorem requestOf_of_modify (hf : ∀ q, (f q).transactionId = q.transactionId ∧ (f q).verb = q.verb)
    (hq : RequestOf (t.modify rid f) tid x q) : ∃ p, RequestOf t tid x p ∧ q.verb = p.verb ∧
      (q = p ∨ x = rid ∧ q = f p) := by
  rcases (requestOf_modify fun q => (hf q).1).mp hq with ⟨rfl, p, hp, rfl⟩ | ⟨-, hq⟩
  · exact ⟨p, hp, (hf p).2, .inr ⟨rfl, rfl⟩⟩
  · exact ⟨q, hq, rfl, .inl rfl⟩

theorem Fits.dispatch (h : Fits t tid state) (hstate : state ≠ .expiredBeforeApply) :
    Fits (t.modify rid (fun q => { q with dispatched := true })) tid state := by
  have hback {x : PyStr} {p : RequestRow}
      (hp : RequestOf (t.modify rid (fun q => { q with dispatched := true })) tid x p) :
      ∃ p', RequestOf t tid x p' ∧ p.verb = p'.verb ∧ p.finished = p'.finished := by
    obtain ⟨p', hp', hv, rfl | ⟨-, rfl⟩⟩ := requestOf_of_modify (by simp) hp
    · exact ⟨p, hp', rfl, rfl⟩
    · exact ⟨p', hp', rfl, rfl⟩
  refine ⟨?_, ?_, ?_, ?_, fun _ _ _ _ _ => hstate⟩
  · intro x p hp hfin
    obtain ⟨p', hp', hv, hf'⟩ := hback hp
    rcases h.pending x p' hp' (hf' ▸ hfin) with hr | ⟨he, -⟩
    · exact .inl (hv ▸ hr)
    · exact absurd he hstate
  · intro x y p p' hp hp' hfin hfin'
    obtain ⟨o, ho, -, hf1⟩ := hback hp
    obtain ⟨o', ho', -, hf2⟩ := hback hp'
    exact h.one_pending x y o o' ho ho' (hf1 ▸ hfin) (hf2 ▸ hfin')
  · intro x p hp hverb
    obtain ⟨o, ho, hv, -⟩ := hback hp
    exact h.apply_after x o ho (hv ▸ hverb)
  · intro x y p p' hp hp' hverb hverb'
    obtain ⟨o, ho, hv, -⟩ := hback hp
    obtain ⟨o', ho', hv', -⟩ := hback hp'
    exact h.one_apply x y o o' ho ho' (hv ▸ hverb) (hv' ▸ hverb')

/-- The unfinished request is finished: none is left, and any state fits that is as far. -/
theorem Fits.stop (h : Fits t tid state) (hq : RequestOf t tid rid q) (hunf : q.finished = false)
    (hbefore : next.beforeApply = true → state.beforeApply = true)
    (hexp : next = .expiredBeforeApply → state = .expiredBeforeApply) :
    Fits (t.modify rid (fun q => { q with finished := true })) tid next := by
  have hback {x : PyStr} {p : RequestRow}
      (hp : RequestOf (t.modify rid (fun q => { q with finished := true })) tid x p) :
      ∃ p', RequestOf t tid x p' ∧ p.verb = p'.verb ∧ p.dispatched = p'.dispatched ∧
        p.finished = true := by
    obtain ⟨p', hp', hv, rfl | ⟨-, rfl⟩⟩ := requestOf_of_modify (by simp) hp
    · refine ⟨p, hp', rfl, rfl, ?_⟩
      by_contra hfin
      have hx := h.one_pending x rid p q hp' hq (by simpa using hfin) hunf
      rcases (requestOf_modify (by simp)).mp hp with ⟨-, o, -, rfl⟩ | ⟨hne, -⟩
      · exact hfin rfl
      · exact hne hx
    · exact ⟨p', hp', rfl, rfl, rfl⟩
  refine ⟨?_, ?_, ?_, ?_, ?_⟩
  · intro x p hp hfin
    obtain ⟨-, -, -, -, hdone⟩ := hback hp
    rw [hdone] at hfin
    cases hfin
  · intro x y p p' hp _ hfin
    obtain ⟨-, -, -, -, hdone⟩ := hback hp
    rw [hdone] at hfin
    cases hfin
  · intro x p hp hverb
    obtain ⟨o, ho, hv, -⟩ := hback hp
    by_contra hb
    have := h.apply_after x o ho (hv ▸ hverb)
    rw [hbefore (by simpa using hb)] at this
    cases this
  · intro x y p p' hp hp' hverb hverb'
    obtain ⟨o, ho, hv, -⟩ := hback hp
    obtain ⟨o', ho', hv', -⟩ := hback hp'
    exact h.one_apply x y o o' ho ho' (hv ▸ hverb) (hv' ▸ hverb')
  · intro x p hp hverb hdisp he
    obtain ⟨o, ho, hv, hd, -⟩ := hback hp
    exact h.applied x o ho (hv ▸ hverb) (hd ▸ hdisp) (hexp he)

end Fits

/-! ## The invariant of the store -/

/-- **The invariant.**  The state of every transaction fits its requests; past `prepared`
it has an approval; requests and issuances belong to stored transactions, and an issuance
is for a proposal and a command of the bundle; and no two transactions are open on one
target. -/
structure PortStore.Sound (s : PortStore) : Prop where
  fits : ∀ tid row, s.transactions.get tid = some row → Fits s.requests tid row.state
  leased : ∀ tid row, s.transactions.get tid = some row → row.state ≠ .prepared →
    row.lease.isSome = true
  owned : ∀ rid q, s.requests.get rid = some q → ∃ row, s.transactions.get q.transactionId = some row
  issued : ∀ pid n, s.issuances.get pid = some n → ∃ q row, s.requests.get n.requestId = some q ∧
    s.transactions.get q.transactionId = some row ∧ pid ∈ nativeIds q.verb row.body ∧
    n.command = neededCommand q.verb row.body
  one_open : ∀ tid tid' row row', s.transactions.get tid = some row →
    s.transactions.get tid' = some row' → row.body.target = row'.body.target →
    row.state.closed = false → row'.state.closed = false → tid = tid'

theorem portStore_sound_empty : PortStore.empty.Sound :=
  ⟨fun _ _ h => (nomatch h), fun _ _ h => (nomatch h), fun _ _ h => (nomatch h),
    fun _ _ h => (nomatch h), fun _ _ _ _ h => (nomatch h)⟩

/-- Only requests of one transaction change, and none loses its transaction or verb. -/
structure Touches (t t' : Rows PyStr RequestRow) (tid : PyStr) : Prop where
  other : ∀ rid q, q.transactionId ≠ tid → (t'.get rid = some q ↔ t.get rid = some q)
  kept : ∀ rid q, t.get rid = some q →
    ∃ q', t'.get rid = some q' ∧ q'.transactionId = q.transactionId ∧ q'.verb = q.verb

section Touches

variable {t t' : Rows PyStr RequestRow} {tid rid : PyStr} {q : RequestRow}

theorem touches_refl : Touches t t tid := ⟨fun _ _ _ => Iff.rfl, fun _ q h => ⟨q, h, rfl, rfl⟩⟩

theorem touches_modify (hf : ∀ q, (f q).transactionId = q.transactionId ∧ (f q).verb = q.verb)
    (hq : t.get rid = some q) (htid : q.transactionId = tid) : Touches t (t.modify rid f) tid := by
  constructor
  · intro x p hp
    rw [get_modify_eq_some, hq]
    constructor
    · rintro (⟨rfl, o, ho, rfl⟩ | ⟨-, h⟩)
      · cases ho
        exact absurd ((hf q).1.trans htid) hp
      · exact h
    · intro h
      refine .inr ⟨?_, h⟩
      rintro rfl
      obtain rfl := Option.mem_unique hq h
      exact hp htid
  · intro x p hp
    by_cases hx : x = rid
    · subst hx
      exact ⟨f p, get_modify_eq_some.mpr (.inl ⟨rfl, p, hp, rfl⟩), (hf p).1, (hf p).2⟩
    · exact ⟨p, get_modify_eq_some.mpr (.inr ⟨hx, hp⟩), rfl, rfl⟩

theorem touches_insert {verb : PortVerb} (hin : t.insert rid ⟨tid, verb, false, false⟩ = some t') :
    Touches t t' tid := by
  have hnone := (insert_eq_some hin).1
  have hne {x : PyStr} {p : RequestRow} (hp : t.get x = some p) : x ≠ rid := by
    rintro rfl
    rw [hnone] at hp
    cases hp
  constructor
  · intro x p hp
    rw [get_insert_eq_some hin]
    constructor
    · rintro (⟨-, rfl⟩ | ⟨-, h⟩)
      · exact absurd rfl hp
      · exact h
    · intro h
      exact .inr ⟨hne h, h⟩
  · intro x p hp
    exact ⟨p, (get_insert_eq_some hin).mpr (.inr ⟨hne hp, hp⟩), rfl, rfl⟩

end Touches

/-- A change of one transaction and its requests keeps the invariant, if its new state
fits its new requests, and it is not opened again. -/
theorem PortStore.Sound.update (h : s.Sound) {tid : PyStr} {f : PortRow → PortRow}
    (hrow : s.transactions.get tid = some row) (htx : s'.transactions = s.transactions.modify tid f)
    (hbody : (f row).body = row.body)
    (hlease : (f row).state ≠ .prepared → (f row).lease.isSome = true)
    (hclosed : row.state.closed = true → (f row).state.closed = true)
    (hfits : Fits s'.requests tid (f row).state) (htouch : Touches s.requests s'.requests tid)
    (his : s'.issuances = s.issuances) : s'.Sound := by
  -- a stored transaction is the changed one, or as it was
  have hget {x : PyStr} {r : PortRow} (hx : s'.transactions.get x = some r) :
      x = tid ∧ r = f row ∨ x ≠ tid ∧ s.transactions.get x = some r := by
    rw [htx, get_modify_eq_some] at hx
    rcases hx with ⟨rfl, a, ha, rfl⟩ | hx
    · obtain rfl := Option.mem_unique hrow ha
      exact .inl ⟨rfl, rfl⟩
    · exact .inr hx
  have hold {x : PyStr} {r : PortRow} (hx : s'.transactions.get x = some r) :
      ∃ r', s.transactions.get x = some r' ∧ r.body = r'.body ∧
        (r.state.closed = false → r'.state.closed = false) := by
    rcases hget hx with ⟨rfl, rfl⟩ | ⟨-, hx⟩
    · refine ⟨row, hrow, hbody, fun ho => ?_⟩
      by_contra hc
      rw [hclosed (by simpa using hc)] at ho
      cases ho
    · exact ⟨r, hx, rfl, id⟩
  have hkeep {x : PyStr} {r : PortRow} (hx : s.transactions.get x = some r) :
      ∃ r', s'.transactions.get x = some r' ∧ r'.body = r.body := by
    rw [htx]
    by_cases he : x = tid
    · subst he
      obtain rfl := Option.mem_unique hrow hx
      exact ⟨f row, get_modify_eq_some.mpr (.inl ⟨rfl, row, hrow, rfl⟩), hbody⟩
    · exact ⟨r, get_modify_eq_some.mpr (.inr ⟨he, hx⟩), rfl⟩
  refine ⟨?_, ?_, ?_, ?_, ?_⟩
  · intro x r hx
    rcases hget hx with ⟨rfl, rfl⟩ | ⟨hne, hx⟩
    · exact hfits
    refine (h.fits x r hx).congr fun rid q => ?_
    unfold RequestOf
    constructor
    · rintro ⟨hq, rfl⟩
      exact ⟨(htouch.other rid q hne).mp hq, rfl⟩
    · rintro ⟨hq, rfl⟩
      exact ⟨(htouch.other rid q hne).mpr hq, rfl⟩
  · intro x r hx hstate
    rcases hget hx with ⟨rfl, rfl⟩ | ⟨-, hx⟩
    · exact hlease hstate
    · exact h.leased x r hx hstate
  · intro rid q hq
    by_cases he : q.transactionId = tid
    · rw [he]
      obtain ⟨r', hr', -⟩ := hkeep hrow
      exact ⟨r', hr'⟩
    · obtain ⟨r, hr⟩ := h.owned rid q ((htouch.other rid q he).mp hq)
      obtain ⟨r', hr', -⟩ := hkeep hr
      exact ⟨r', hr'⟩
  · intro pid n hn
    rw [his] at hn
    obtain ⟨q, r, hq, hr, hid, hcmd⟩ := h.issued pid n hn
    obtain ⟨q', hq', htid, hverb⟩ := htouch.kept _ q hq
    obtain ⟨r', hr', hb⟩ := hkeep hr
    exact ⟨q', r', hq', htid ▸ hr', by rw [hverb, hb]; exact hid, by rw [hverb, hb]; exact hcmd⟩
  · intro x y r r' hx hy htarget ho ho'
    obtain ⟨p, hp, hpb, hpo⟩ := hold hx
    obtain ⟨p', hp', hpb', hpo'⟩ := hold hy
    exact h.one_open x y p p' hp hp' (by rw [← hpb, ← hpb', htarget]) (hpo ho) (hpo' ho')

/-- The requests of a transaction, in a store whose last `apply` is not dispatched. -/
theorem apply_undispatched {tid : PyStr} {state : PortState} (h : Fits s.requests tid state)
    (hu : s.applyUndispatched tid = true) (rid : PyStr) (q : RequestRow)
    (hq : RequestOf s.requests tid rid q) (hverb : q.verb = .apply) : q.dispatched = false := by
  unfold PortStore.applyUndispatched at hu
  obtain ⟨p, hp, hd⟩ := (Option.any_eq_true _ _).mp hu
  have hmem := List.mem_of_getLast? hp
  simp only [List.mem_filter, Bool.and_eq_true, beq_iff_eq] at hmem
  obtain ⟨hall, htid, hv⟩ := hmem
  have hp' : RequestOf s.requests tid p.1 p.2 := ⟨mem_all.mp hall, htid⟩
  have hid := h.one_apply rid p.1 q p.2 hq hp' hverb hv
  have : q = p.2 := Option.some.inj ((hid ▸ hq.1).symm.trans hp'.1)
  rw [this]
  simpa using hd

theorem sound_leaseEnds {tid : PyStr} {state : PortState} {reason : Option CloseReason}
    (h : s.Sound) (he : LeaseEnds s s' tid row state reason) : s'.Sound := by
  have hfits := h.fits tid row he.row_eq
  refine h.update he.row_eq he.transactions rfl (fun _ => he.leased) ?_ ?_
    (he.requests ▸ touches_refl) he.issuances
  · intro hc
    rw [he.was_open] at hc
    cases hc
  · rw [he.requests]
    rcases he.next with hsame | ⟨hexp, hcloses⟩
    · simpa only [hsame] using hfits
    simp only [hexp]
    refine hfits.expire ?_
    cases hst : row.state <;> rw [hst] at hcloses hfits <;>
      simp only [PortStore.closesAtExpiry, Bool.false_eq_true] at hcloses
    · exact .inl rfl
    · exact .inr (.inr (.inl rfl))
    · exact .inr (.inl rfl)
    · exact .inr (.inr (.inr ⟨rfl, apply_undispatched hfits hcloses⟩))

/-- The state a running verb is in when its request is finished. -/
theorem running_of_named (h : s.Sound) {r : PortRequest} {q : RequestRow} (hq : Named s r q row)
    (hdisp : q.dispatched = true) (hlate : ¬(q.verb = .preflight ∧ row.state = .expiredBeforeApply)) :
    row.state = q.verb.running := by
  rcases (h.fits _ row hq.row).pending r.requestId q ⟨hq.request, hq.transaction⟩ hq.unfinished with
    hp | ⟨he, hv | ⟨-, hd⟩⟩
  · exact hp
  · exact absurd ⟨hv, he⟩ hlate
  · rw [hdisp] at hd
    cases hd

theorem nextState_spec {verb : PortVerb} {outcome : PortOutcome} {expired : Bool}
    {next : PortState} {reason : Option CloseReason}
    (h : nextState verb outcome expired = some (next, reason)) :
    next ≠ .prepared ∧ next ≠ .expiredBeforeApply ∧
      (next.beforeApply = true → verb.running.beforeApply = true) ∧ verb.running.closed = false ∧
      (next = .restoreApplied → verb = .restore ∧ outcome = .executed) ∧ next ≠ .verifyingRestore ∧
      (next = .restored → verb = .verifyRestored ∧ outcome = .isMatch ∨
        verb = .reconcile ∧ outcome = .matchesBefore) := by
  unfold nextState at h
  split at h <;> simp only [Option.some.injEq, Prod.mk.injEq, reduceCtorEq] at h <;>
    obtain ⟨rfl, -⟩ := h <;> simp [PortState.beforeApply, running, PortState.closed]

/-- Only the issuances change. -/
theorem PortStore.Sound.issue (h : s.Sound) (htx : s'.transactions = s.transactions)
    (hrq : s'.requests = s.requests) (his : ∀ pid n, s'.issuances.get pid = some n →
      ∃ q row, s.requests.get n.requestId = some q ∧ s.transactions.get q.transactionId = some row ∧
        pid ∈ nativeIds q.verb row.body ∧ n.command = neededCommand q.verb row.body) : s'.Sound :=
  ⟨by rw [htx, hrq]; exact h.fits, by rw [htx]; exact h.leased, by rw [htx, hrq]; exact h.owned,
    by rw [htx, hrq]; exact his, by rw [htx]; exact h.one_open⟩

/-- Only the request a call names changes. -/
theorem PortStore.Sound.request {r : PortRequest} {f : RequestRow → RequestRow} (h : s.Sound)
    (hq : Named s r q row) (htx : s'.transactions = s.transactions)
    (hrq : s'.requests = s.requests.modify r.requestId f)
    (hf : ∀ q, (f q).transactionId = q.transactionId ∧ (f q).verb = q.verb)
    (hfits : Fits (s.requests.modify r.requestId f) r.transactionId row.state)
    (his : s'.issuances = s.issuances) : s'.Sound :=
  h.update (f := fun row => row) hq.row (htx.trans modify_id.symm) rfl (h.leased _ row hq.row) id
    (hrq ▸ hfits) (hrq ▸ touches_modify hf hq.request hq.transaction) his

theorem sound_move {O : PortOwner} {R : PortReadings} {call : PortCall} {ans : PortAnswer}
    (h : s.Sound) (hm : PortMove K O R s s' call ans) : s'.Sound := by
  cases hm with
  | plain hplain htx hrq his =>
    exact h.issue htx hrq (his ▸ h.issued)
  | @create body havail htx hrq his =>
    have hnone := (insert_eq_some htx).1
    have hget {x : PyStr} {r : PortRow} := get_insert_eq_some htx (x := x) (b := r)
    have hkeep {x : PyStr} {r : PortRow} (hx : s.transactions.get x = some r) :
        s'.transactions.get x = some r := by
      refine hget.mpr (.inr ⟨?_, hx⟩)
      rintro rfl
      rw [hnone] at hx
      cases hx
    refine ⟨?_, ?_, ?_, ?_, ?_⟩
    · intro x r hx
      rw [hrq]
      rcases hget.mp hx with ⟨rfl, rfl⟩ | ⟨-, hx⟩
      · -- a new transaction has no requests, which all belong to stored ones
        refine .of_none fun rid q hq => ?_
        obtain ⟨r, hr⟩ := h.owned rid q hq.1
        rw [hq.2, hnone] at hr
        cases hr
      · exact h.fits x r hx
    · intro x r hx hstate
      rcases hget.mp hx with ⟨-, rfl⟩ | ⟨-, hx⟩
      · exact absurd rfl hstate
      · exact h.leased x r hx hstate
    · intro rid q hq
      obtain ⟨r, hr⟩ := h.owned rid q (hrq ▸ hq)
      exact ⟨r, hkeep hr⟩
    · intro pid n hn
      obtain ⟨q, r, hq, hr, hid, hcmd⟩ := h.issued pid n (his ▸ hn)
      exact ⟨q, r, hrq ▸ hq, hkeep hr, hid, hcmd⟩
    · intro x y r r' hx hy htarget ho ho'
      rcases hget.mp hx with ⟨rfl, rfl⟩ | ⟨-, hx⟩
      · rcases hget.mp hy with ⟨rfl, -⟩ | ⟨-, hy⟩
        · rfl
        · rw [havail y r' hy htarget.symm] at ho'
          cases ho'
      · rcases hget.mp hy with ⟨-, rfl⟩ | ⟨-, hy⟩
        · rw [havail x r hx htarget] at ho
          cases ho
        · exact h.one_open x y r r' hx hy htarget ho ho'
  | @approve a signature row lease hrow hstate htx hrq his =>
    have hfits := h.fits _ row hrow
    rw [hstate] at hfits
    refine h.update hrow htx rfl (fun _ => rfl) (by rw [hstate]; intro hc; cases hc) ?_
      (hrq ▸ touches_refl) his
    rw [hrq]
    refine hfits.idle (fun rid q hq => ?_) (fun _ => rfl) (fun he => by cases he)
    exact hfits.finished (fun v => by cases v <;> simp [running]) (by simp) hq
  | @start tid verb row r hrow hallowed hlease htx hrq his =>
    obtain ⟨-, hopen, -, -, -⟩ := allowed_idle hallowed
    refine h.update hrow htx rfl (fun _ => hlease) (by rw [hopen]; intro hc; cases hc) ?_
      (touches_insert hrq) his
    exact (h.fits _ row hrow).start hallowed hrq
  | @reserve r c q row pid hq hid htx hrq his =>
    refine h.issue htx hrq fun p n hn => ?_
    rcases (get_insert_eq_some his).mp hn with ⟨rfl, rfl⟩ | ⟨-, hn⟩
    · exact ⟨q, row, hq.request, hq.transaction ▸ hq.row, hid, rfl⟩
    · exact h.issued p n hn
  | @sign r pid n raw hn hnew htx hrq his =>
    refine h.issue htx hrq fun p m hm => ?_
    rw [his, get_modify_eq_some] at hm
    rcases hm with ⟨rfl, a, ha, rfl⟩ | ⟨-, hm⟩
    · exact h.issued p a ha
    · exact h.issued p m hm
  | @dispatch r q row hq hnew hstate htx hrq his =>
    exact h.request hq htx hrq (fun _ => ⟨rfl, rfl⟩) ((h.fits _ row hq.row).dispatch hstate) his
  | @interrupt r reason q row hq hopen htx hrq his =>
    obtain ⟨close, htx⟩ := htx
    have hfits := h.fits _ row hq.row
    have hpend := hfits.pending r.requestId q ⟨hq.request, hq.transaction⟩ hq.unfinished
    have hrun : row.state = q.verb.running := by
      rcases hpend with hp | ⟨he, -⟩
      · exact hp
      · rw [he] at hopen
        cases hopen
    refine h.update hq.row htx rfl (fun _ => h.leased _ row hq.row ?_) ?_ ?_
      (hrq ▸ touches_modify (fun _ => ⟨rfl, rfl⟩) hq.request hq.transaction) his
    · rw [hrun]
      cases q.verb <;> simp [running]
    · intro hc
      rw [hopen] at hc
      cases hc
    · rw [hrq]
      refine hfits.stop ⟨hq.request, hq.transaction⟩ hq.unfinished ?_ ?_
      · rw [hrun]
        cases q.verb <;> simp [running, PortState.beforeApply]
      · split <;> intro hc <;> cases hc
  | @late r outcome hash evidence q row hq hverb hstate htx hrq his =>
    exact h.request hq htx hrq (fun _ => ⟨rfl, rfl⟩) ((h.fits _ row hq.row).stop
      ⟨hq.request, hq.transaction⟩ hq.unfinished id id) his
  | @finish r outcome hash evidence q row next reason hq hdisp hlate hnext htx hrq his =>
    have hrun := running_of_named h hq hdisp hlate
    obtain ⟨-, hexp, hbefore, hopen, -⟩ := nextState_spec hnext
    refine h.update hq.row htx rfl (fun _ => h.leased _ row hq.row ?_) ?_ ?_
      (hrq ▸ touches_modify (fun _ => ⟨rfl, rfl⟩) hq.request hq.transaction) his
    · rw [hrun]
      cases q.verb <;> simp [running]
    · rw [hrun, hopen]
      intro hc
      cases hc
    · rw [hrq]
      refine (h.fits _ row hq.row).stop ⟨hq.request, hq.transaction⟩ hq.unfinished ?_
        fun he => absurd he hexp
      rw [hrun]
      exact hbefore

end Virp
