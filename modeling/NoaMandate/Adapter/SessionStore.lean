import NoaMandate.Lib.Table
import Mathlib.Order.Nat

/-!
# The session store

`createChainSessionStore` keeps, for every tenant and session, the head of the session's receipt
chain: the last receipt, the next sequence number and the segment.  A segment is one life of a
session; sessions end by `endSession`, by a sweep of idle ones, and by eviction when the store is
full, and a session that is seen again starts a new segment under a number that was never used.

The store does not look into receipts, tenants or session ids, so it is modelled over arbitrary types.

Each operation is described by what it does to `session?`, the lookup of one session.  `Disturbed` is
what a session sees of everything that is done for others: it may be gone, but it is never changed
(`StoreCall.disturbed`).
-/

namespace NoaMandate.Adapter

/-- The state of a live session. -/
structure Session (ρ : Type) where
  prev : Option ρ
  seq : Int
  lastAccessedAt : Int
  segmentId : Nat

/-- What `peek` returns: the head of a session's chain. -/
structure Head (ρ : Type) where
  prev : Option ρ
  seq : Int
  segmentId : Nat

def Session.head {ρ : Type} (st : Session ρ) : Head ρ := ⟨st.prev, st.seq, st.segmentId⟩

structure StoreConfig where
  idleTtlMs : Int
  maxSessions : Int

/-- Source: `session-store.mjs` `createChainSessionStore`. -/
structure ChainStore (τ σ ρ : Type) where
  tenantBuckets : Table τ (Table σ (Session ρ)) := .empty
  totalSessions : Int := 0
  segmentCounter : Nat := 0

namespace ChainStore

variable {τ σ ρ : Type} [DecidableEq τ] [DecidableEq σ]

/-! ## Operations -/

/-- The live session of a tenant with this id. -/
def session? (s : ChainStore τ σ ρ) (tenant : τ) (sessionId : σ) : Option (Session ρ) :=
  (s.tenantBuckets.get? tenant).bind fun bucket => bucket.get? sessionId

/-- A tenant's bucket, made if there is none. -/
def bucketFor (s : ChainStore τ σ ρ) (tenant : τ) : ChainStore τ σ ρ :=
  match s.tenantBuckets.get? tenant with
  | some _ => s
  | none => { s with tenantBuckets := s.tenantBuckets.set tenant .empty }

def putSession (s : ChainStore τ σ ρ) (tenant : τ) (sessionId : σ) (st : Session ρ) :
    ChainStore τ σ ρ :=
  let bucket := (s.tenantBuckets.get? tenant).getD .empty
  { s with tenantBuckets := s.tenantBuckets.set tenant (bucket.set sessionId st) }

/-- Delete a session that is there, and its bucket if that was the last one. -/
def dropSession (s : ChainStore τ σ ρ) (tenant : τ) (sessionId : σ) : ChainStore τ σ ρ :=
  let bucket := ((s.tenantBuckets.get? tenant).getD .empty).erase sessionId
  { s with
    tenantBuckets :=
      if bucket.entries.isEmpty then s.tenantBuckets.erase tenant
      else s.tenantBuckets.set tenant bucket
    totalSessions := s.totalSessions - 1 }

/-- All sessions in the order of the loops. -/
def sessions (s : ChainStore τ σ ρ) : List (τ × σ × Session ρ) :=
  s.tenantBuckets.entries.flatMap fun b => b.2.entries.map fun e => (b.1, e.1, e.2)

/-- The session that was not used for the longest time; of several the first. -/
def oldest (best : Option (τ × σ × Session ρ)) (e : τ × σ × Session ρ) :
    Option (τ × σ × Session ρ) :=
  match best with
  | none => some e
  | some b => if e.2.2.lastAccessedAt < b.2.2.lastAccessedAt then some e else some b

/-- Source: `session-store.mjs` `evictOldestIdle`. -/
def evictOldestIdle (s : ChainStore τ σ ρ) : ChainStore τ σ ρ :=
  match s.sessions.foldl oldest none with
  | none => s
  | some e => s.dropSession e.1 e.2.1

variable (cfg : StoreConfig)

/-- Make room for one more session. -/
def makeRoom (s : ChainStore τ σ ρ) : ChainStore τ σ ρ :=
  if 0 < cfg.maxSessions ∧ cfg.maxSessions ≤ s.totalSessions then s.evictOldestIdle else s

/-- A session of a new segment. -/
def openSession (now : Int) (tenant : τ) (sessionId : σ) (s : ChainStore τ σ ρ) :
    Session ρ × ChainStore τ σ ρ :=
  let st : Session ρ := ⟨none, 0, now, s.segmentCounter + 1⟩
  (st, { s.putSession tenant sessionId st with
    totalSessions := s.totalSessions + 1
    segmentCounter := s.segmentCounter + 1 })

/-- The session with this id; a new one if it is not live. Source: `session-store.mjs` `stateFor`. -/
def stateFor (now : Int) (tenant : τ) (sessionId : σ)
    (s : ChainStore τ σ ρ) : Session ρ × ChainStore τ σ ρ :=
  let s := s.bucketFor tenant
  match s.session? tenant sessionId with
  | some st =>
    let st := { st with lastAccessedAt := now }
    (st, s.putSession tenant sessionId st)
  | none => openSession now tenant sessionId (s.makeRoom cfg)

def peek (now : Int) (tenant : τ) (sessionId : σ) (s : ChainStore τ σ ρ) :
    Head ρ × ChainStore τ σ ρ :=
  let (st, s) := s.stateFor cfg now tenant sessionId
  (st.head, s)

/-- The session with one more receipt. -/
def Session.extend (st : Session ρ) (receipt : ρ) : Session ρ :=
  { st with prev := some receipt, seq := st.seq + 1 }

/-- Move the head to a receipt; with an expected segment only if that segment is still live. -/
def advance (now : Int) (tenant : τ) (sessionId : σ) (receipt : ρ)
    (expectedSegmentId : Option Nat) (s : ChainStore τ σ ρ) : Bool × ChainStore τ σ ρ :=
  match expectedSegmentId with
  | none =>
    let (st, s) := s.stateFor cfg now tenant sessionId
    (true, s.putSession tenant sessionId (Session.extend st receipt))
  | some segmentId =>
    match s.session? tenant sessionId with
    | none => (false, s)
    | some st =>
      if st.segmentId ≠ segmentId then (false, s)
      else
        (true, s.putSession tenant sessionId
          { Session.extend st receipt with lastAccessedAt := now })

/-- Source: `session-store.mjs` `end`. -/
def endSession (tenant : τ) (sessionId : σ) (s : ChainStore τ σ ρ) : ChainStore τ σ ρ :=
  match s.session? tenant sessionId with
  | none => s
  | some _ => s.dropSession tenant sessionId

/-- Delete the sessions that were not used since the cutoff, and the buckets that are then empty. -/
def sweep (now : Int) (s : ChainStore τ σ ρ) : ChainStore τ σ ρ :=
  let cutoff := now - cfg.idleTtlMs
  let swept := s.tenantBuckets.mapValues fun bucket =>
    bucket.keep fun _ st => cutoff < st.lastAccessedAt
  { s with
    tenantBuckets := swept.keep fun _ bucket => !bucket.entries.isEmpty
    totalSessions :=
      s.totalSessions - (s.sessions.filter fun e => e.2.2.lastAccessedAt ≤ cutoff).length }

/-! ## Lookups after the operations -/

section lookups

variable {s : ChainStore τ σ ρ} {t u : τ} {i j : σ}

lemma session?_bucketFor : (s.bucketFor t).session? u i = s.session? u i := by
  unfold bucketFor session?
  split
  · rfl
  · next hnone =>
    show ((s.tenantBuckets.set t Table.empty).get? u).bind _ = _
    rw [Table.get?_set]
    split
    · next heq =>
      rw [heq, hnone]
      rfl
    · rfl

lemma session?_putSession (st : Session ρ) :
    (s.putSession t i st).session? u j = if u = t ∧ j = i then some st else s.session? u j := by
  unfold putSession session?
  show ((s.tenantBuckets.set t _).get? u).bind _ = _
  rw [Table.get?_set]
  by_cases hu : u = t
  · subst hu
    rw [if_pos rfl, Option.bind_some, Table.get?_set]
    by_cases hj : j = i
    · rw [if_pos hj, if_pos ⟨rfl, hj⟩]
    · rw [if_neg hj, if_neg fun h => hj h.2]
      cases s.tenantBuckets.get? u with
      | none => rfl
      | some bucket => rfl
  · rw [if_neg hu, if_neg fun h => hu h.1]

lemma session?_dropSession :
    (s.dropSession t i).session? u j = if u = t ∧ j = i then none else s.session? u j := by
  unfold session? dropSession
  by_cases hu : u = t
  · subst hu
    have hbucket : (((s.tenantBuckets.get? u).getD .empty).erase i).get? j =
        if j = i then none else (s.tenantBuckets.get? u).bind fun bucket => bucket.get? j := by
      rw [Table.get?_erase]
      cases s.tenantBuckets.get? u with
      | none => rfl
      | some bucket => rfl
    simp only [true_and]
    rw [← hbucket]
    split
    · next hempty =>
      rw [Table.get?_erase, if_pos rfl, Table.get?, List.isEmpty_iff.mp hempty]
      rfl
    · rw [Table.get?_set_self]
      rfl
  · rw [if_neg fun h => hu h.1]
    dsimp only
    split
    · rw [Table.get?_erase, if_neg hu]
    · rw [Table.get?_set_of_ne _ hu]

lemma session?_sweep (cfg : StoreConfig) (now : Int) : (s.sweep cfg now).session? t i =
      (s.session? t i).filter fun st => now - cfg.idleTtlMs < st.lastAccessedAt := by
  unfold session? sweep
  show (((s.tenantBuckets.mapValues _).keep _).get? t).bind _ = _
  rw [Table.get?_keep, Table.get?_mapValues]
  cases s.tenantBuckets.get? t with
  | none => rfl
  | some bucket =>
    rw [Option.map_some, Option.filter_some, Option.bind_some]
    split
    · rw [Option.bind_some, Table.get?_keep]
    · next hempty =>
      have hnil : (bucket.keep fun _ st => now - cfg.idleTtlMs < st.lastAccessedAt).entries = [] := by
        simpa using hempty
      have hkept := Table.get?_keep
        (fun _ (st : Session ρ) => decide (now - cfg.idleTtlMs < st.lastAccessedAt)) bucket i
      rw [← hkept, Table.get?, hnil]
      rfl

/-! ## What one session sees -/

/-- The head of a live session. -/
def head? (s : ChainStore τ σ ρ) (tenant : τ) (sessionId : σ) : Option (Head ρ) :=
  (s.session? tenant sessionId).map Session.head

variable (t i) in
/-- What is done for others: the session is as it was, or gone. -/
structure Disturbed (s s' : ChainStore τ σ ρ) : Prop where
  counter : s.segmentCounter ≤ s'.segmentCounter
  head : s'.head? t i = s.head? t i ∨ s'.head? t i = none

lemma Disturbed.refl (s : ChainStore τ σ ρ) : Disturbed t i s s := ⟨le_rfl, .inl rfl⟩

lemma Disturbed.trans {s1 s2 s3 : ChainStore τ σ ρ} (h : Disturbed t i s1 s2)
    (h' : Disturbed t i s2 s3) : Disturbed t i s1 s3 := by
  refine ⟨h.counter.trans h'.counter, ?_⟩
  rcases h'.head with heq | hgone
  · rw [heq]
    exact h.head
  · exact .inr hgone

lemma disturbed_dropSession (u : τ) (j : σ) : Disturbed t i s (s.dropSession u j) := by
  refine ⟨le_rfl, ?_⟩
  unfold head?
  rw [session?_dropSession]
  split
  · exact .inr rfl
  · exact .inl rfl

lemma disturbed_evictOldestIdle : Disturbed t i s s.evictOldestIdle := by
  unfold evictOldestIdle
  split
  · exact Disturbed.refl s
  · exact disturbed_dropSession _ _

lemma disturbed_makeRoom (cfg : StoreConfig) : Disturbed t i s (s.makeRoom cfg) := by
  unfold makeRoom
  split
  · exact disturbed_evictOldestIdle
  · exact Disturbed.refl s

omit [DecidableEq σ] in
lemma segmentCounter_bucketFor : (s.bucketFor t).segmentCounter = s.segmentCounter := by
  unfold bucketFor
  split <;> rfl

lemma segmentCounter_evictOldestIdle : s.evictOldestIdle.segmentCounter = s.segmentCounter := by
  unfold evictOldestIdle
  split <;> rfl

lemma segmentCounter_makeRoom (cfg : StoreConfig) :
    (s.makeRoom cfg).segmentCounter = s.segmentCounter := by
  unfold makeRoom
  split
  · exact segmentCounter_evictOldestIdle
  · rfl

lemma disturbed_bucketFor (u : τ) : Disturbed t i s (s.bucketFor u) := by
  refine ⟨segmentCounter_bucketFor.ge, .inl ?_⟩
  unfold head?
  rw [session?_bucketFor]

lemma disturbed_putSession {u : τ} {j : σ} (hne : (u, j) ≠ (t, i)) (st : Session ρ) :
    Disturbed t i s (s.putSession u j st) := by
  refine ⟨le_rfl, .inl ?_⟩
  unfold head?
  rw [session?_putSession, if_neg]
  rintro ⟨rfl, rfl⟩
  exact hne rfl

lemma stateFor_of_some {cfg : StoreConfig} {now : Int} {st : Session ρ}
    (h : s.session? t i = some st) :
    s.stateFor cfg now t i = ({ st with lastAccessedAt := now },
      (s.bucketFor t).putSession t i { st with lastAccessedAt := now }) := by
  unfold stateFor
  simp only [session?_bucketFor, h]

lemma stateFor_of_none {cfg : StoreConfig} {now : Int} (h : s.session? t i = none) :
    s.stateFor cfg now t i = openSession now t i ((s.bucketFor t).makeRoom cfg) := by
  unfold stateFor
  simp only [session?_bucketFor, h]

lemma disturbed_stateFor {u : τ} {j : σ} (hne : (u, j) ≠ (t, i)) (cfg : StoreConfig) (now : Int) :
    Disturbed t i s (s.stateFor cfg now u j).2 := by
  cases h : s.session? u j with
  | some st =>
    rw [stateFor_of_some h]
    exact (disturbed_bucketFor u).trans (disturbed_putSession hne _)
  | none =>
    rw [stateFor_of_none h]
    refine ((disturbed_bucketFor u).trans (disturbed_makeRoom cfg)).trans ?_
    refine ⟨Nat.le_succ _, ?_⟩
    exact (disturbed_putSession hne _).head

lemma disturbed_sweep (cfg : StoreConfig) (now : Int) : Disturbed t i s (s.sweep cfg now) := by
  refine ⟨le_rfl, ?_⟩
  unfold head?
  rw [session?_sweep]
  cases s.session? t i with
  | none => exact .inl rfl
  | some st =>
    rw [Option.filter_some]
    split
    · exact .inl rfl
    · exact .inr rfl

lemma disturbed_endSession (u : τ) (j : σ) : Disturbed t i s (s.endSession u j) := by
  unfold endSession
  split
  · exact Disturbed.refl s
  · exact disturbed_dropSession u j

lemma disturbed_advance {u : τ} {j : σ} (hne : (u, j) ≠ (t, i)) (cfg : StoreConfig) (now : Int)
    (receipt : ρ) (expected : Option Nat) :
    Disturbed t i s (s.advance cfg now u j receipt expected).2 := by
  unfold advance
  cases expected with
  | none => exact (disturbed_stateFor hne cfg now).trans (disturbed_putSession hne _)
  | some segmentId =>
    cases s.session? u j with
    | none => exact Disturbed.refl s
    | some st =>
      simp only
      split
      · exact Disturbed.refl s
      · exact disturbed_putSession hne _

/-- A look at the head: it is what it was, or the session starts a new segment. -/
lemma peek_cases (cfg : StoreConfig) (now : Int) :
    (s.peek cfg now t i).2.head? t i = some (s.peek cfg now t i).1 ∧
      ((s.head? t i = some (s.peek cfg now t i).1 ∧
          (s.peek cfg now t i).2.segmentCounter = s.segmentCounter) ∨
        (s.head? t i = none ∧ (s.peek cfg now t i).1 = ⟨none, 0, s.segmentCounter + 1⟩ ∧
          (s.peek cfg now t i).2.segmentCounter = s.segmentCounter + 1)) := by
  unfold peek
  cases h : s.session? t i with
  | some st =>
    rw [stateFor_of_some h]
    refine ⟨?_, .inl ⟨?_, segmentCounter_bucketFor⟩⟩
    · unfold head?
      rw [session?_putSession, if_pos ⟨rfl, rfl⟩]
      rfl
    · unfold head?
      rw [h]
      rfl
  | none =>
    have hcounter : ((s.bucketFor t).makeRoom cfg).segmentCounter = s.segmentCounter := by
      rw [segmentCounter_makeRoom, segmentCounter_bucketFor]
    rw [stateFor_of_none h]
    refine ⟨?_, .inr ⟨?_, ?_, ?_⟩⟩
    · show ((ChainStore.putSession _ t i _).session? t i).map Session.head = _
      rw [session?_putSession, if_pos ⟨rfl, rfl⟩]
      rfl
    · unfold head?
      rw [h]
      rfl
    · show (⟨none, 0, _ + 1⟩ : Head ρ) = _
      rw [hcounter]
    · show _ + 1 = _
      rw [hcounter]

/-- A move of the head that is bound to a segment. -/
lemma advance_cases (cfg : StoreConfig) (now : Int) (receipt : ρ) (segmentId : Nat) :
    ((s.advance cfg now t i receipt (some segmentId)).1 = true ∧
        (s.advance cfg now t i receipt (some segmentId)).2.segmentCounter = s.segmentCounter ∧
        ∃ h, s.head? t i = some h ∧ h.segmentId = segmentId ∧
          (s.advance cfg now t i receipt (some segmentId)).2.head? t i =
            some ⟨some receipt, h.seq + 1, segmentId⟩) ∨
      s.advance cfg now t i receipt (some segmentId) = (false, s) := by
  unfold advance
  cases h : s.session? t i with
  | none => exact .inr rfl
  | some st =>
    simp only
    split
    · exact .inr rfl
    · next heq =>
      refine .inl ⟨rfl, rfl, st.head, ?_, not_not.mp heq, ?_⟩
      · unfold head?
        rw [h]
        rfl
      · unfold head?
        rw [session?_putSession, if_pos ⟨rfl, rfl⟩, ← not_not.mp heq]
        rfl

end lookups

end ChainStore

/-! ## Calls of others -/

/-- A call of the store. -/
inductive StoreCall (τ σ ρ : Type) where
  | peek (tenant : τ) (sessionId : σ) (now : Int)
  | advance (tenant : τ) (sessionId : σ) (receipt : ρ) (expectedSegmentId : Option Nat) (now : Int)
  | endSession (tenant : τ) (sessionId : σ)
  | sweep (now : Int)

namespace StoreCall

variable {τ σ ρ : Type} [DecidableEq τ] [DecidableEq σ]

def exec (cfg : StoreConfig) (s : ChainStore τ σ ρ) : StoreCall τ σ ρ → ChainStore τ σ ρ
  | .peek tenant sessionId now => (s.peek cfg now tenant sessionId).2
  | .advance tenant sessionId receipt expectedSegmentId now =>
    (s.advance cfg now tenant sessionId receipt expectedSegmentId).2
  | .endSession tenant sessionId => s.endSession tenant sessionId
  | .sweep now => s.sweep cfg now

/-- Is the call made for another session than this one? -/
def IsForeign (tenant : τ) (sessionId : σ) : StoreCall τ σ ρ → Prop
  | .peek tenant' sessionId' _ => (tenant', sessionId') ≠ (tenant, sessionId)
  | .advance tenant' sessionId' _ _ _ => (tenant', sessionId') ≠ (tenant, sessionId)
  | .endSession tenant' sessionId' => (tenant', sessionId') ≠ (tenant, sessionId)
  | .sweep _ => True

/-- **A call for another session changes nothing of this one, but may remove it.** -/
theorem disturbed {tenant : τ} {sessionId : σ} {c : StoreCall τ σ ρ}
    (h : c.IsForeign tenant sessionId) (cfg : StoreConfig) (s : ChainStore τ σ ρ) :
    ChainStore.Disturbed tenant sessionId s (c.exec cfg s) := by
  cases c with
  | peek u j now => exact ChainStore.disturbed_stateFor h cfg now
  | advance u j receipt expected now => exact ChainStore.disturbed_advance h cfg now receipt expected
  | endSession u j => exact ChainStore.disturbed_endSession u j
  | sweep now => exact ChainStore.disturbed_sweep cfg now

/-- What others do while a session waits. -/
def execAll (cfg : StoreConfig) (cs : List (StoreCall τ σ ρ)) (s : ChainStore τ σ ρ) :
    ChainStore τ σ ρ :=
  cs.foldl (exec cfg) s

lemma disturbed_execAll {tenant : τ} {sessionId : σ} {cs : List (StoreCall τ σ ρ)}
    (h : ∀ c ∈ cs, c.IsForeign tenant sessionId) (cfg : StoreConfig) (s : ChainStore τ σ ρ) :
    ChainStore.Disturbed tenant sessionId s (execAll cfg cs s) := by
  induction cs generalizing s with
  | nil => exact ChainStore.Disturbed.refl s
  | cons c cs ih =>
    exact (disturbed (h c (.head _)) cfg s).trans
      (ih (fun c' hc' => h c' (.tail _ hc')) _)

end StoreCall

end NoaMandate.Adapter
