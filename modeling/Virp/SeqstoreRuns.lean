import Mathlib.Data.List.Nodup
import Virp.Seqstore

/-! # Runs of the replay store

Accepts, failing saves, crashes and restarts follow one another.  The table in memory
and the file say the same all along, so a restart forgets nothing; a mark only grows,
until another session takes its place.

The code tells an eviction from an append by the tick of the evicted mark, which is
never zero before the 64-bit counter comes round.
-/
namespace Virp

open Machine List UInt64

/-- The store in memory and its file. -/
structure SeqState where
  store : Seqstore
  file : Option Bytes
deriving DecidableEq

/-- What happens to the store: an accept whose save succeeds or not, a process that dies
in an accept after the new file is in place, a restart. -/
inductive SeqEvent where
  | accept (key : SeqKey) (seq : UInt64) (saved : Bool)
  | crash (key : SeqKey) (seq : UInt64)
  | restart

/-- The result of an accept, with the key that lost its mark. -/
inductive SeqAnswer where
  | ok (evicted : Option SeqKey)
  | refused (err : VirpError)
  | died (evicted : Option SeqKey)
  | started
  | loadFailed
deriving DecidableEq

def SeqState.empty : SeqState := ⟨.empty, none⟩

/-- `virp_seqstore_init` on the file. -/
def SeqState.reload (s : SeqState) : SeqState × Bool :=
  match seqstoreLoad s.file with
  | some st => (⟨st, s.file⟩, true)
  | none => (s, false)

/-- One event.  `accept` is `virp_seqstore_accept`. -/
def seqStep (s : SeqState) : SeqEvent → SeqState × SeqAnswer
  | .accept key seq saved =>
    match acceptTable s.store key seq with
    | .error err => (s, .refused err)
    | .ok (new, back, evicted) =>
      if saved then (⟨new, some (seqText new.entries)⟩, .ok (evicted.map SeqMark.key))
      else (⟨back, s.file⟩, .refused .chainDb)
  | .crash key seq =>
    match acceptTable s.store key seq with
    | .error _ => (s.reload.1, .died none)
    | .ok (new, _, evicted) =>
      ((SeqState.mk new (some (seqText new.entries))).reload.1, .died (evicted.map SeqMark.key))
  | .restart => (s.reload.1, if s.reload.2 then .started else .loadFailed)

/-! ## What an accept does to the table -/

/-- Distinct keys, no more than the table holds, and no mark with a zero tick. -/
structure Seqstore.Valid (st : Seqstore) : Prop where
  nodup : (st.entries.map SeqMark.key).Nodup
  bound : st.entries.length ≤ seqstoreMaxEntries
  touched : ∀ m ∈ st.entries, m.touched ≠ 0

/-- The specification of an accept that changes the table: its mark is the submitted
number, above the one it replaces; the other marks are kept, but for the evicted one,
which is of another session; a failed save finds everything as it was. -/
structure Accepts (st : Seqstore) (key : SeqKey) (seq : UInt64) (new back : Seqstore)
    (evicted : Option SeqMark) : Prop where
  tick_new : new.tick = st.tick + 1
  tick_back : back.tick = st.tick + 1
  back_eq : back.entries = st.entries
  nodup : (new.entries.map SeqMark.key).Nodup
  bound : new.entries.length ≤ seqstoreMaxEntries
  mem_new : ⟨key.1, key.2, seq, st.tick + 1⟩ ∈ new.entries
  old_lt : ∀ m ∈ st.entries, m.key = key → m.lastSeq < seq
  kept : ∀ m ∈ st.entries, m.key ≠ key → m ∈ new.entries ∨ evicted = some m
  origin : ∀ m ∈ new.entries, m = ⟨key.1, key.2, seq, st.tick + 1⟩ ∨ m ∈ st.entries
  evicted_other : ∀ m, evicted = some m → m ∈ st.entries ∧ m.sessionId ≠ key.1

variable {s : SeqState} {st : Seqstore} {key : SeqKey} {seq : UInt64} {l : List SeqMark}

variable {i n : Nat} {m a : SeqMark} {new back : Seqstore} {evicted : Option SeqMark} {k : SeqKey}
  {q : UInt64}

theorem victimLoop_some {sid : SessionId} {j : Nat} {best : Option (Nat × SeqMark)}
    (h : victimLoop sid l i best = some (j, m)) :
    best = some (j, m) ∨ ∃ k, j = i + k ∧ l[k]? = some m ∧ m.sessionId ≠ sid := by
  induction l generalizing i best with
  | nil => exact .inl h
  | cons x l ih =>
    unfold victimLoop at h
    -- the loop goes on with the best so far, or with this mark
    have here (hx : x.sessionId ≠ sid) (heq : some (i, x) = some (j, m)) :
        best = some (j, m) ∨ ∃ k, j = i + k ∧ (x :: l)[k]? = some m ∧ m.sessionId ≠ sid := by
      obtain ⟨rfl, rfl⟩ := Prod.mk.inj (Option.some.inj heq)
      exact .inr ⟨0, rfl, rfl, hx⟩
    rcases ih h with hbest | ⟨k, rfl, hk, hm⟩
    · split at hbest
      · exact .inl hbest
      rename_i hx
      split at hbest
      · exact here hx hbest
      · split at hbest
        · exact here hx hbest
        · exact .inl hbest
    · exact .inr ⟨k + 1, by omega, by simpa using hk, hm⟩

/-- A mark stays in a list of which another place is written. -/
theorem mem_set_of_ne (hm : m ∈ l) (hi : ∀ x, l[i]? = some x → x ≠ m) : m ∈ l.set i a := by
  obtain ⟨k, hk, rfl⟩ := getElem_of_mem hm
  have hne : i ≠ k := by
    rintro rfl
    exact hi _ (getElem?_eq_getElem hk) rfl
  refine mem_of_getElem? (i := k) ?_
  rw [getElem?_set_ne hne, getElem?_eq_getElem hk]

theorem find_some (h : st.find key = some i) : ∃ m, st.entries[i]? = some m ∧ m.key = key := by
  obtain ⟨hi, hp, -⟩ := findIdx?_eq_some_iff_getElem.mp h
  simp only [Bool.and_eq_true, beq_iff_eq] at hp
  exact ⟨_, getElem?_eq_getElem hi, Prod.ext hp.2 hp.1⟩

theorem find_none (h : st.find key = none) : ∀ m ∈ st.entries, m.key ≠ key := by
  intro m hm heq
  have := findIdx?_eq_none_iff.mp h m hm
  simp [← heq, SeqMark.key] at this

theorem getElem?_mem (h : st.entries[i]? = some m) : m ∈ st.entries := mem_of_getElem? h

theorem set_getElem?_self (h : l[i]? = some m) : (l.set i a).set i m = l := by
  obtain ⟨hi, rfl⟩ := List.getElem?_eq_some_iff.mp h
  rw [List.set_set, set_getElem_self]

theorem mem_set_self (h : l[i]? = some m) : a ∈ l.set i a := by
  obtain ⟨hi, -⟩ := List.getElem?_eq_some_iff.mp h
  exact mem_of_getElem? (i := i) (by simp [hi])

/-- The pair has a mark: it is raised in place. -/
theorem accepts_raise (hv : st.Valid) {old : SeqMark} (hold : st.entries[i]? = some old)
    (hkey : old.key = key) (hlt : old.lastSeq < seq) :
    let entries := st.entries.set i { old with lastSeq := seq, touched := st.tick + 1 }
    Accepts st key seq ⟨entries, st.tick + 1⟩ ⟨entries.set i old, st.tick + 1⟩ none := by
  intro entries
  have hmark : ({ old with lastSeq := seq, touched := st.tick + 1 } : SeqMark) =
      ⟨key.1, key.2, seq, st.tick + 1⟩ := by rw [← hkey]; rfl
  have hkeys : entries.map SeqMark.key = st.entries.map SeqMark.key := by
    have hget : (st.entries.map SeqMark.key)[i]? = some old.key := by simp [hold]
    obtain ⟨hi, hget⟩ := List.getElem?_eq_some_iff.mp hget
    calc entries.map SeqMark.key
        = (st.entries.map SeqMark.key).set i old.key := List.map_set
      _ = (st.entries.map SeqMark.key).set i (st.entries.map SeqMark.key)[i] := by rw [hget]
      _ = st.entries.map SeqMark.key := set_getElem_self hi
  refine ⟨rfl, rfl, set_getElem?_self hold, hkeys ▸ hv.nodup,
    (length_set ..).trans_le hv.bound, hmark ▸ mem_set_self hold, ?_, ?_, ?_, by simp⟩
  · intro m hm hmk
    rwa [List.inj_on_of_nodup_map hv.nodup hm (getElem?_mem hold) (hmk.trans hkey.symm)]
  · intro m hm hmk
    refine .inl (mem_set_of_ne hm fun x hx hxm => hmk ?_)
    rw [hold] at hx
    rw [← hxm, ← Option.some.inj hx, hkey]
  · intro m hm
    rcases List.mem_or_eq_of_mem_set hm with hm | rfl
    · exact .inr hm
    · exact .inl hmark

theorem key_notMem (hnew : ∀ m ∈ st.entries, m.key ≠ key) : key ∉ st.entries.map SeqMark.key := by
  intro hm
  obtain ⟨m, hm, hk⟩ := mem_map.mp hm
  exact hnew m hm hk

/-- The pair has none, and there is room for one. -/
theorem accepts_append (hv : st.Valid) (hnew : ∀ m ∈ st.entries, m.key ≠ key)
    (hroom : st.entries.length < seqstoreMaxEntries) :
    let entries := st.entries ++ [⟨key.1, key.2, seq, st.tick + 1⟩]
    Accepts st key seq ⟨entries, st.tick + 1⟩ ⟨entries.dropLast, st.tick + 1⟩ none := by
  intro entries
  refine ⟨rfl, rfl, dropLast_concat, ?_, ?_, mem_append_right _ mem_cons_self,
    fun m hm hk => absurd hk (hnew m hm), fun m hm _ => .inl (mem_append_left _ hm), ?_,
    by simp⟩
  · simp only [entries, map_append, map_cons, map_nil]
    refine nodup_append.mpr ⟨hv.nodup, nodup_singleton _, ?_⟩
    rintro a ha b hb rfl
    rw [mem_singleton.mp hb] at ha
    exact key_notMem hnew ha
  · simp only [entries, length_append, length_singleton]
    omega
  · intro m hm
    rcases mem_append.mp hm with hm | hm
    · exact .inr hm
    · exact .inl (mem_singleton.mp hm)

/-- The pair has none, and a mark of another session makes room. -/
theorem accepts_evict (hv : st.Valid) (hnew : ∀ m ∈ st.entries, m.key ≠ key) {victim : SeqMark}
    (hi : st.entries[i]? = some victim) (hother : victim.sessionId ≠ key.1) :
    let entries := st.entries.set i ⟨key.1, key.2, seq, st.tick + 1⟩
    Accepts st key seq ⟨entries, st.tick + 1⟩ ⟨entries.set i victim, st.tick + 1⟩
      (some victim) := by
  intro entries
  have hmem := getElem?_mem hi
  refine ⟨rfl, rfl, set_getElem?_self hi, ?_, (length_set ..).trans_le hv.bound,
    mem_set_self hi, fun m hm hmk => absurd hmk (hnew m hm), ?_, ?_, ?_⟩
  · simp only [entries, map_set]
    exact hv.nodup.set (key_notMem hnew)
  · intro m hm _
    by_cases hmv : victim = m
    · exact .inr (congrArg some hmv)
    · refine .inl (mem_set_of_ne hm fun x hx => ?_)
      rw [hi] at hx
      exact Option.some.inj hx ▸ hmv
  · intro m hm
    rcases mem_or_eq_of_mem_set hm with hm | rfl
    · exact .inr hm
    · exact .inl rfl
  · rintro m ⟨⟩
    exact ⟨hmem, hother⟩

theorem acceptTable_ok (hv : st.Valid) (h : acceptTable st key seq = .ok (new, back, evicted)) :
    Accepts st key seq new back evicted := by
  unfold acceptTable at h
  simp only at h
  split at h
  · rename_i i hfind
    obtain ⟨old, hold, hkey⟩ := find_some hfind
    rw [show st.entries.getD i .zero = old by simp [getD, hold]] at h
    split at h
    · cases h
    rename_i hlt
    cases h
    exact accepts_raise hv hold hkey (UInt64.not_le.mp hlt)
  · rename_i hfind
    split at h
    · rename_i hroom
      cases h
      exact accepts_append hv (find_none hfind) hroom
    split at h
    · cases h
    rename_i i victim hvictim
    obtain ⟨k, rfl, hk, hother⟩ := (victimLoop_some hvictim).resolve_left (by simp)
    rw [if_pos (hv.touched victim (getElem?_mem hk)), Nat.zero_add] at h
    cases h
    exact accepts_evict hv (find_none hfind) hk hother

/-- The first mark of a key. -/
theorem find_eq_some (hm : st.entries[i]? = some m) (hkey : m.key = key)
    (hbefore : ∀ j < i, ∀ x, st.entries[j]? = some x → x.key ≠ key) : st.find key = some i := by
  obtain ⟨hi, rfl⟩ := List.getElem?_eq_some_iff.mp hm
  refine List.findIdx?_eq_some_iff_getElem.mpr ⟨hi, ?_, fun j hj => ?_⟩
  · simp [← hkey, SeqMark.key]
  · have hne := hbefore j hj _ (getElem?_eq_getElem (Nat.lt_trans hj hi))
    simp only [Bool.and_eq_true, beq_iff_eq, not_and]
    exact fun hnode hid => hne (Prod.ext hid hnode)

theorem find_before (h : st.find key = some i) :
    ∀ j < i, ∀ x, st.entries[j]? = some x → x.key ≠ key := by
  obtain ⟨hi, -, hbefore⟩ := List.findIdx?_eq_some_iff_getElem.mp h
  intro j hj x hx hkey
  obtain ⟨hjlt, rfl⟩ := List.getElem?_eq_some_iff.mp hx
  have := hbefore j hj
  simp [← hkey, SeqMark.key] at this

theorem acceptTable_replay (hfind : st.find key = some i) (hm : st.entries[i]? = some m)
    (hseq : m.lastSeq = seq) : acceptTable st key seq = .error .replayDetected := by
  unfold acceptTable
  simp only [hfind, getD, hm, Option.getD_some, hseq]
  exact if_pos (UInt64.le_refl seq)

/-- A number that was accepted is a replay from then on. -/
theorem acceptTable_again (h : acceptTable st key seq = .ok (new, back, evicted)) :
    acceptTable new key seq = .error .replayDetected := by
  unfold acceptTable at h
  simp only at h
  split at h
  · rename_i i hfind
    obtain ⟨old, hold, hkey⟩ := find_some hfind
    obtain ⟨hi, -⟩ := List.getElem?_eq_some_iff.mp hold
    rw [show st.entries.getD i .zero = old by simp [List.getD, hold]] at h
    split at h
    · cases h
    cases h
    have hset : (st.entries.set i { old with lastSeq := seq, touched := st.tick + 1 })[i]? =
        some { old with lastSeq := seq, touched := st.tick + 1 } := by
      simp [hi]
    refine acceptTable_replay (find_eq_some hset hkey fun j hj x hx => ?_) hset rfl
    rw [getElem?_set_ne (Nat.ne_of_gt hj)] at hx
    exact find_before hfind j hj x hx
  · rename_i hfind
    split at h
    · cases h
      have hlast : (st.entries ++ [⟨key.1, key.2, seq, st.tick + 1⟩])[st.entries.length]? =
          some ⟨key.1, key.2, seq, st.tick + 1⟩ := by
        simp
      refine acceptTable_replay (find_eq_some hlast rfl fun j hj x hx => ?_) hlast rfl
      rw [getElem?_append_left hj] at hx
      exact find_none hfind x (mem_of_getElem? hx)
    · split at h
      · cases h
      rename_i i victim hvictim
      obtain ⟨k, rfl, hk, -⟩ := (victimLoop_some hvictim).resolve_left (by simp)
      rw [Nat.zero_add] at h
      obtain ⟨hi, -⟩ := List.getElem?_eq_some_iff.mp hk
      cases h
      have hset : (st.entries.set k ⟨key.1, key.2, seq, st.tick + 1⟩)[k]? =
          some ⟨key.1, key.2, seq, st.tick + 1⟩ := by
        simp [hi]
      refine acceptTable_replay (find_eq_some hset rfl fun j hj x hx => ?_) hset rfl
      rw [getElem?_set_ne (Nat.ne_of_gt hj)] at hx
      exact find_none hfind x (mem_of_getElem? hx)

/-- A failed save puts everything back, unless the mark that made room has a tick of zero. -/
theorem acceptTable_back_iff (h : acceptTable st key seq = .ok (new, back, evicted)) :
    back.entries = st.entries ↔ ∀ m, evicted = some m → m.touched ≠ 0 := by
  unfold acceptTable at h
  simp only at h
  split at h
  · rename_i i hfind
    obtain ⟨old, hold, -⟩ := find_some hfind
    rw [show st.entries.getD i .zero = old by simp [List.getD, hold]] at h
    split at h
    · cases h
    cases h
    exact iff_of_true (set_getElem?_self hold) nofun
  · split at h
    · cases h
      exact iff_of_true (List.dropLast_concat ..) nofun
    split at h
    · cases h
    rename_i i victim hvictim
    obtain ⟨k, rfl, hk, -⟩ := (victimLoop_some hvictim).resolve_left (by simp)
    rw [Nat.zero_add] at h
    cases h
    split
    · rename_i htouched
      exact iff_of_true (set_getElem?_self hk) (by rintro m ⟨⟩; exact htouched)
    rename_i htouched
    refine iff_of_false (fun heq => ?_) (fun hall => htouched (hall victim rfl))
    have hpos := (List.getElem?_eq_some_iff.mp hk).1
    have hlen := congrArg List.length heq
    simp only [List.length_dropLast, length_set] at hlen
    omega

/-! ## Memory and file -/

/-- After `n` events: the table is valid, its tick has not come round, and the file says
what the table says. -/
structure SeqState.Sound (s : SeqState) (n : Nat) : Prop where
  valid : s.store.Valid
  tick_le : s.store.tick.toNat ≤ seqstoreMaxEntries + n
  persisted : s.file = some (seqText s.store.entries) ∨ s.file = none ∧ s.store.entries = []

/-- The file depends on the marks only. -/
theorem seqText_congr {l' : List SeqMark} (h : l.map SeqMark.mark = l'.map SeqMark.mark) :
    seqText l = seqText l' := by
  have hline : ∀ m : SeqMark, seqLine m =
      (fun p : SeqKey × UInt64 => seqLine ⟨p.1.1, p.1.2, p.2, 0⟩) m.mark := fun _ => rfl
  have hmap : l.map seqLine = l'.map seqLine := by
    have := congrArg (List.map fun p : SeqKey × UInt64 => seqLine ⟨p.1.1, p.1.2, p.2, 0⟩) h
    rw [map_map, map_map] at this
    exact this
  rw [seqText, seqText, flatMap_def, flatMap_def, hmap]

theorem map_key_of_map_mark {l' : List SeqMark} (h : l.map SeqMark.mark = l'.map SeqMark.mark) :
    l.map SeqMark.key = l'.map SeqMark.key := by
  have := congrArg (List.map Prod.fst) h
  rw [map_map, map_map] at this
  exact this

theorem touched_retouch {t : UInt64} (h : t.toNat + l.length < 2 ^ 64) (hm : m ∈ retouch t l) :
    m.touched ≠ 0 := by
  induction l generalizing t with
  | nil => cases hm
  | cons x l ih =>
    simp only [length_cons] at h
    have hnext := toNat_add_one (t := t) (by omega)
    rcases mem_cons.mp hm with rfl | hm
    · intro h0
      have h0 : (t + 1).toNat = 0 := congrArg toNat h0
      omega
    · exact ih (by omega) hm

section
variable (h : s.Sound n)
include h

/-- A restart finds the marks in the file. -/
theorem SeqState.Sound.reload :
    s.reload.2 = true ∧ s.reload.1.Sound 0 ∧ s.reload.1.store.marks = s.store.marks ∧
      s.reload.1.file = s.file := by
  have hbound := h.valid.bound
  have hload : s.reload = (⟨⟨retouch 0 s.store.entries, ofNat s.store.entries.length⟩,
      s.file⟩, true) := by
    rcases h.persisted with hf | ⟨hf, hnil⟩
    · simp only [SeqState.reload, hf, seqstoreLoad_seqText hbound]
    · simp [SeqState.reload, hf, hnil, seqstoreLoad, Seqstore.empty, retouch]
  have hmarks := map_mark_retouch 0 s.store.entries
  have hlen : (retouch 0 s.store.entries).length = s.store.entries.length := by
    simpa using congrArg List.length hmarks
  rw [hload]
  refine ⟨rfl, ⟨⟨?_, hlen.trans_le hbound, fun m hm => touched_retouch ?_ hm⟩, ?_, ?_⟩, hmarks, rfl⟩
  · exact map_key_of_map_mark hmarks ▸ h.valid.nodup
  · have : (0 : UInt64).toNat = 0 := rfl
    unfold seqstoreMaxEntries at hbound
    omega
  · simp only [toNat_ofNat']
    exact (Nat.mod_le _ _).trans (by omega)
  · rcases h.persisted with hf | ⟨hf, hnil⟩
    · exact .inl (hf.trans (congrArg some (seqText_congr hmarks.symm)))
    · exact .inr ⟨hf, by simp [hnil, retouch]⟩

theorem SeqState.Sound.mono {k : Nat} (hnk : n ≤ k) : s.Sound k :=
  ⟨h.valid, h.tick_le.trans (by omega), h.persisted⟩

/-- The table an accept is about to save is sound once it is saved. -/
theorem SeqState.Sound.saved (hn : seqstoreMaxEntries + n + 1 < 2 ^ 64)
    (ha : Accepts s.store key seq new back evicted) :
    (SeqState.mk new (some (seqText new.entries))).Sound (n + 1) := by
  have htick := h.tick_le
  have hnext := toNat_add_one (t := s.store.tick) (by omega)
  refine ⟨⟨ha.nodup, ha.bound, fun m hm => ?_⟩, ?_, .inl rfl⟩
  · rcases ha.origin m hm with rfl | hm
    · intro h0
      have h0 : (s.store.tick + 1).toNat = 0 := congrArg toNat h0
      omega
    · exact h.valid.touched m hm
  · simp only [ha.tick_new]
    omega

/-- **Every event keeps memory and file in agreement.** -/
theorem sound_step (hn : seqstoreMaxEntries + n + 1 < 2 ^ 64) (e : SeqEvent) :
    (seqStep s e).1.Sound (n + 1) := by
  have hreload : s.reload.1.Sound (n + 1) := h.reload.2.1.mono (Nat.zero_le _)
  cases e with
  | accept key seq saved =>
    simp only [seqStep]
    cases ht : acceptTable s.store key seq with
    | error err => exact h.mono (Nat.le_succ n)
    | ok r =>
      obtain ⟨new, back, evicted⟩ := r
      have ha := acceptTable_ok h.valid ht
      cases saved with
      | true => exact h.saved hn ha
      | false =>
        have htick := h.tick_le
        have hnext := toNat_add_one (t := s.store.tick) (by omega)
        simp only [Bool.false_eq_true, if_false]
        refine ⟨⟨?_, ?_, ?_⟩, ?_, ?_⟩
        · exact ha.back_eq ▸ h.valid.nodup
        · exact ha.back_eq ▸ h.valid.bound
        · exact ha.back_eq ▸ h.valid.touched
        · simp only [ha.tick_back]
          omega
        · exact ha.back_eq ▸ h.persisted
  | crash key seq =>
    simp only [seqStep]
    cases ht : acceptTable s.store key seq with
    | error err => exact hreload
    | ok r =>
      have ha := acceptTable_ok h.valid ht
      exact (h.saved hn ha).reload.2.1.mono (Nat.zero_le _)
  | restart => exact hreload

theorem sound_run (events : List SeqEvent) (hn : seqstoreMaxEntries + n + events.length < 2 ^ 64) :
    (final seqStep s events).Sound (n + events.length) := by
  induction events generalizing s n with
  | nil => exact h
  | cons e events ih =>
    simp only [length_cons] at hn
    have hrest := ih (sound_step h (by omega) e) (by omega)
    rw [Nat.add_right_comm, Nat.add_assoc] at hrest
    exact hrest

end

theorem sound_empty : SeqState.empty.Sound 0 :=
  ⟨⟨nodup_nil, Nat.zero_le _, by simp [SeqState.empty, Seqstore.empty]⟩, Nat.zero_le _,
    .inr ⟨rfl, rfl⟩⟩

/-! ## Marks only grow -/

/-- The pair has a mark, at least `q`. -/
def SeqState.Holds (s : SeqState) (key : SeqKey) (q : UInt64) : Prop :=
  ∃ p ∈ s.store.marks, p.1 = key ∧ q ≤ p.2

/-- The pair lost its mark to another session. -/
def SeqAnswer.evicts (key : SeqKey) : SeqAnswer → Bool
  | .ok evicted => evicted = some key
  | .died evicted => evicted = some key
  | _ => false

/-- A mark survives an accept, unless it is evicted, and never falls. -/
theorem Accepts.holds (ha : Accepts s.store key seq new back evicted) (h : s.Holds k q)
    (he : evicted.map SeqMark.key ≠ some k) (file : Option Bytes) :
    (SeqState.mk new file).Holds k q := by
  obtain ⟨p, hp, rfl, hq⟩ := h
  obtain ⟨m, hm, rfl⟩ := mem_map.mp hp
  by_cases hk : m.key = key
  · refine ⟨_, mem_map.mpr ⟨_, ha.mem_new, rfl⟩, hk.symm, ?_⟩
    exact UInt64.le_trans hq (UInt64.le_of_lt (ha.old_lt m hm hk))
  · rcases ha.kept m hm hk with hnew | hev
    · exact ⟨_, mem_map.mpr ⟨m, hnew, rfl⟩, rfl, hq⟩
    · exact absurd (congrArg (Option.map SeqMark.key) hev) he

theorem holds_step (hs : s.Sound n) (hn : seqstoreMaxEntries + n + 1 < 2 ^ 64) (h : s.Holds k q)
    (e : SeqEvent) (he : (seqStep s e).2.evicts k = false) : (seqStep s e).1.Holds k q := by
  have hreload : s.reload.1.Holds k q := by
    unfold SeqState.Holds
    rwa [hs.reload.2.2.1]
  cases e with
  | accept key seq saved =>
    simp only [seqStep] at he ⊢
    cases ht : acceptTable s.store key seq with
    | error err => exact h
    | ok r =>
      obtain ⟨new, back, evicted⟩ := r
      have ha := acceptTable_ok hs.valid ht
      rw [ht] at he
      cases saved with
      | true => exact ha.holds h (by simpa [SeqAnswer.evicts] using he) _
      | false =>
        simp only [Bool.false_eq_true, if_false, SeqState.Holds, Seqstore.marks, ha.back_eq]
        exact h
  | crash key seq =>
    simp only [seqStep] at he ⊢
    cases ht : acceptTable s.store key seq with
    | error err => exact hreload
    | ok r =>
      obtain ⟨new, back, evicted⟩ := r
      have ha := acceptTable_ok hs.valid ht
      rw [ht] at he
      have hnew := ha.holds h (by simpa [SeqAnswer.evicts] using he) (some (seqText new.entries))
      unfold SeqState.Holds
      simp only
      rw [(hs.saved hn ha).reload.2.2.1]
      exact hnew
  | restart => exact hreload

theorem holds_run (hs : s.Sound n) {events : List SeqEvent}
    (hn : seqstoreMaxEntries + n + events.length < 2 ^ 64) (h : s.Holds k q)
    (he : ∀ a ∈ trace seqStep s events, a.2.evicts k = false) :
    (final seqStep s events).Holds k q := by
  induction events generalizing s n with
  | nil => exact h
  | cons e events ih =>
    simp only [length_cons] at hn
    rw [trace_cons, forall_mem_cons] at he
    exact ih (sound_step hs (by omega) e) (by omega) (holds_step hs (by omega) h e he.1) he.2

/-- What an accept that returned OK did. -/
theorem accept_ok (hs : s.Sound n) {saved : Bool} {evicted : Option SeqKey}
    (h : (seqStep s (.accept key seq saved)).2 = .ok evicted) :
    ∃ new back victim, Accepts s.store key seq new back victim ∧
      evicted = victim.map SeqMark.key ∧ (seqStep s (.accept key seq saved)).1.store = new := by
  simp only [seqStep] at h ⊢
  cases ht : acceptTable s.store key seq with
  | error err =>
    rw [ht] at h
    cases h
  | ok r =>
    rw [ht] at h
    cases saved with
    | true =>
      exact ⟨r.1, r.2.1, r.2.2, acceptTable_ok hs.valid ht, by simpa using h.symm, rfl⟩
    | false => cases h

/-- A session of the samples. -/
def sampleSid (b : UInt8) : SessionId := .fill 16 b

/-- An accept, a restart, a replay of it, a failing save and a retry. -/
def sampleSeqEvents : List SeqEvent :=
  [.accept (sampleSid 1, 7) 5 true, .restart, .accept (sampleSid 1, 7) 5 true,
   .accept (sampleSid 1, 7) 6 false]

/-- Accepts that fail to save do nothing but count. -/
theorem final_failing_accepts (seq : UInt64) (hnone : s.store.find key = none)
    (hroom : s.store.entries.length < seqstoreMaxEntries) (k : Nat) :
    final seqStep s (List.replicate k (.accept key seq false)) =
      ⟨⟨s.store.entries, s.store.tick + UInt64.ofNat k⟩, s.file⟩ := by
  induction k generalizing s with
  | zero => simp
  | succ k ih =>
    have hstep : (seqStep s (.accept key seq false)).1 =
        ⟨⟨s.store.entries, s.store.tick + 1⟩, s.file⟩ := by
      simp [seqStep, acceptTable, hnone, hroom]
    rw [replicate_succ, final_cons, hstep,
      ih (s := ⟨⟨s.store.entries, s.store.tick + 1⟩, s.file⟩) hnone hroom]
    simp only [SeqState.mk.injEq, Seqstore.mk.injEq, true_and, and_true]
    rw [UInt64.add_assoc, UInt64.add_comm 1, UInt64.ofNat_add]
    rfl

/-- A mark of session 1 accepted when the tick is back at zero, and a table filled by
session 2. -/
def roundEvents : List SeqEvent :=
  .accept (sampleSid 1, 0) 1 true ::
    (List.range 127).map fun i => .accept (sampleSid 2, UInt64.ofNat i) 1 true

end Virp
