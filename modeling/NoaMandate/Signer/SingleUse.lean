import Mathlib.Logic.Relation
import NoaMandate.Signer.Journal
import NoaMandate.Signer.Soundness

/-!
# One grant for each approval

The signer as a machine that survives crashes: its memory, the request it is working on, the journal
on disk, the clock, and the documents it has answered with.  A crash can come between any two steps
and loses everything but the journal; a restart reads the journal back and rewrites it.  The clock
never goes back.

An approval is remembered, in memory and on disk, until it has expired: `approvalMs + retention +
skew`.  The freshness check and the claim read the clock separately.  When the second reading is at
most the clock skew after the first, an approval that passed the freshness check has not expired at
the claim, so the claim finds it (`approval_granted_once`); when the second reading comes later, the
entry may be dropped between the two (`approval_granted_twice`).
-/

namespace NoaMandate

open Pipeline

namespace Signer

/-! ## The machine -/

/-- A signed document and the approval it spends. -/
structure Pending where
  signed : Json
  ref : String
  approvalMs : Int

/-- How far the request at hand has come. -/
inductive Stage where
  | idle
  /-- Prepared on the clock reading `first`. -/
  | prepared (c : Pending) (first : Int)
  /-- Not found among the spent approvals. -/
  | admitted (c : Pending)
  /-- Appended to the journal. -/
  | journaled (c : Pending)
  /-- Entered in memory as well. -/
  | claimed (c : Pending)

/-- The process. -/
inductive Phase where
  | down
  | up (seen : Seen) (stage : Stage)

structure Sys where
  journal : Option (List Char)
  phase : Phase
  clock : Int
  /-- The documents answered with so far. -/
  returned : List Json

/-- A signer that was never started, on whatever is in the journal file. -/
def Sys.off (journal : Option (List Char)) (clock : Int) : Sys := ⟨journal, .down, clock, []⟩

/-- The journal after an append. -/
def appended (journal : Option (List Char)) (c : Pending) : Option (List Char) :=
  (Store.append ⟨[], journal⟩ (c.ref, c.approvalMs)).journal

/-- One step; `allowed first second` restricts the two clock readings of a grant request. -/
inductive Step (P : Platform) (D : Deps) (file : String) (allowed : Int → Int → Prop) :
    Sys → Sys → Prop where
  | start {s : Sys} {now : Int} {st : Store} (hphase : s.phase = .down) (hnow : s.clock ≤ now)
      (hstart : Signer.start D file now s.journal = .ok st) :
      Step P D file allowed s
        { s with phase := .up st.seen .idle, journal := st.journal, clock := now }
  | crash {s : Sys} : Step P D file allowed s { s with phase := .down }
  /-- A compaction; one that fails has still pruned the memory. -/
  | compact {s : Sys} {now : Int} {seen : Seen} (hphase : s.phase = .up seen .idle)
      (hnow : s.clock ≤ now) :
      Step P D file allowed s
        { s with
          phase := .up (Replay.prune D.maxApprovalAgeMs now seen) .idle
          journal := some (Replay.journalText (Replay.prune D.maxApprovalAgeMs now seen))
          clock := now }
  | compactFails {s : Sys} {now : Int} {seen : Seen} (hphase : s.phase = .up seen .idle)
      (hnow : s.clock ≤ now) :
      Step P D file allowed s
        { s with phase := .up (Replay.prune D.maxApprovalAgeMs now seen) .idle, clock := now }
  /-- A request that is answered at once, without a document. -/
  | refuse {s : Sys} {now : Int} {seen : Seen} {line : List Char} {answer : Response}
      (hphase : s.phase = .up seen .idle) (hnow : s.clock ≤ now)
      (hprepare : Signer.prepare P D now line = .error answer) :
      Step P D file allowed s { s with clock := now }
  /-- A request whose document spends no approval. -/
  | attest {s : Sys} {now : Int} {seen : Seen} {line : List Char} {doc : Json}
      (hphase : s.phase = .up seen .idle) (hnow : s.clock ≤ now)
      (hprepare : Signer.prepare P D now line = .ok ⟨doc, none⟩) :
      Step P D file allowed s { s with clock := now, returned := s.returned ++ [doc] }
  | prepare {s : Sys} {now : Int} {seen : Seen} {line : List Char} {c : Pending}
      (hphase : s.phase = .up seen .idle) (hnow : s.clock ≤ now)
      (hprepare : Signer.prepare P D now line = .ok ⟨c.signed, some (c.ref, c.approvalMs)⟩) :
      Step P D file allowed s { s with phase := .up seen (.prepared c now), clock := now }
  | accept {s : Sys} {now first : Int} {seen : Seen} {c : Pending}
      (hphase : s.phase = .up seen (.prepared c first)) (hnow : s.clock ≤ now)
      (hallowed : allowed first now)
      (hfree : Replay.admission (Replay.prune D.maxApprovalAgeMs now seen) c.ref = .free) :
      Step P D file allowed s
        { s with
          phase := .up (Replay.prune D.maxApprovalAgeMs now seen) (.admitted c), clock := now }
  | deny {s : Sys} {now first : Int} {seen : Seen} {c : Pending}
      (hphase : s.phase = .up seen (.prepared c first)) (hnow : s.clock ≤ now)
      (hallowed : allowed first now)
      (hfree : Replay.admission (Replay.prune D.maxApprovalAgeMs now seen) c.ref ≠ .free) :
      Step P D file allowed s
        { s with phase := .up (Replay.prune D.maxApprovalAgeMs now seen) .idle, clock := now }
  | append {s : Sys} {seen : Seen} {c : Pending} (hphase : s.phase = .up seen (.admitted c)) :
      Step P D file allowed s
        { s with phase := .up seen (.journaled c), journal := appended s.journal c }
  /-- An append that throws, before the line is written or after (`written`). -/
  | appendFails {s : Sys} {seen : Seen} {c : Pending} (written : Bool)
      (hphase : s.phase = .up seen (.admitted c)) :
      Step P D file allowed s
        { s with
          phase := .up seen .idle
          journal := if written then appended s.journal c else s.journal }
  | enter {s : Sys} {seen : Seen} {c : Pending} (hphase : s.phase = .up seen (.journaled c)) :
      Step P D file allowed s
        { s with phase := .up (Replay.set seen c.ref c.approvalMs) (.claimed c) }
  | answer {s : Sys} {seen : Seen} {c : Pending} (hphase : s.phase = .up seen (.claimed c)) :
      Step P D file allowed s
        { s with phase := .up seen .idle, returned := s.returned ++ [c.signed] }

/-- Any number of steps. -/
def Run (P : Platform) (D : Deps) (file : String) (allowed : Int → Int → Prop) : Sys → Sys → Prop :=
  Relation.ReflTransGen (Step P D file allowed)

/-- The second reading comes at most the clock skew after the first. -/
def Timely (first second : Int) : Prop := second ≤ first + CLOCK_SKEW_MS

/-- The approval receipt hash of a signed execution grant. -/
def grantedApproval (doc : Json) : Option String :=
  if doc.getStr? "spec" = some EXECUTION_GRANT_SPEC then doc.getStr? "approvalReceiptHash" else none

/-- The approvals that grants were returned for, in order. -/
def Sys.granted (s : Sys) : List String := s.returned.filterMap grantedApproval

/-! ## The handler takes these steps -/

/-- The documents an answer carries. -/
def Response.documents : Response → List Json
  | .artifact doc => [doc]
  | _ => []

variable {P : Platform} {D : Deps} {file : String} {allowed : Int → Int → Prop}

/-- A request that is handled from start to end is a run of the machine. -/
theorem run_handle {s : Sys} {seen : Seen} {now1 now2 : Int} (fails : Option String)
    (line : List Char) (hphase : s.phase = .up seen .idle) (h1 : s.clock ≤ now1) (h2 : now1 ≤ now2)
    (hallowed : allowed now1 now2) :
    let result := handleGrantSignerRequest P D now1 now2 fails ⟨seen, s.journal⟩ line
    ∃ clock ≤ now2, Run P D file allowed s
      ⟨result.2.journal, .up result.2.seen .idle, clock,
        s.returned ++ result.1.documents⟩ := by
  obtain ⟨journal, phase, clock, returned⟩ := s
  obtain rfl : phase = .up seen .idle := hphase
  cases hprepare : prepare P D now1 line with
  | error answer =>
    have hnone : answer.documents = [] := by
      cases answer with
      | artifact doc => exact absurd hprepare (prepare_ne_artifact doc)
      | _ => rfl
    simp only [handleGrantSignerRequest, hprepare, hnone, List.append_nil]
    exact ⟨now1, h2, .single (.refuse rfl h1 hprepare)⟩
  | ok pr =>
    obtain ⟨signed, claim⟩ := pr
    cases claim with
    | none =>
      simp only [handleGrantSignerRequest, hprepare]
      exact ⟨now1, h2, .single (.attest rfl h1 hprepare)⟩
    | some claim =>
      obtain ⟨ref, ms⟩ := claim
      simp only [handleGrantSignerRequest, hprepare]
      refine ⟨now2, le_rfl, .head (Step.prepare (c := ⟨signed, ref, ms⟩) rfl h1 hprepare) ?_⟩
      cases hfound : Replay.admission (Replay.prune D.maxApprovalAgeMs now2 seen) ref with
      | spent =>
        simp only [SPENT, Response.documents, List.append_nil]
        exact .single (.deny rfl h2 hallowed (by simp [hfound]))
      | full =>
        simp only [FULL, notRecorded, Response.documents, List.append_nil]
        exact .single (.deny rfl h2 hallowed (by simp [hfound]))
      | free =>
        refine .head (.accept rfl h2 hallowed hfound) ?_
        cases fails with
        | some cause =>
          simp only [notRecorded, Response.documents, List.append_nil]
          exact .single (.appendFails false rfl)
        | none =>
          refine .head (.append rfl) (.head (.enter rfl) (.single ?_))
          exact Step.answer (c := ⟨signed, ref, ms⟩) rfl

/-! ## What an approval hash determines -/

/-- The hash is that of a receipt, and the receipt's approval is of this instant. -/
def Genuine (P : Platform) (ref : String) (ms : Int) : Prop :=
  ∃ r text, Schema.ReceiptShape r ∧ r.Distinct ∧ recomputedHash P.toIntrinsics r = some ref ∧
    Receipt.hash r = ref ∧ r.strAt? ["governance", "approval", "at"] = some text ∧
    P.dateParse text = some ms

variable {ms : Int}

/-- One hash is one approval, so it has one instant. -/
lemma Genuine.unique (hsha : Function.Injective P.sha256Hex) {ref : String} {ms' : Int}
    (h : Genuine P ref ms) (h' : Genuine P ref ms') : ms = ms' := by
  obtain ⟨r, text, hshape, hd, hrec, hhash, htext, hms⟩ := h
  obtain ⟨r', text', hshape', hd', hrec', hhash', htext', hms'⟩ := h'
  have hagree : Receipt.Agree r r' :=
    Receipt.agree_of_hash_eq hsha hshape hshape' hd hd' (hhash.symm ▸ hrec) (hhash'.symm ▸ hrec')
      (hhash.trans hhash'.symm)
  have hsame := hagree.strAt? hd hd' (by decide : "governance" ≠ "sig") ["approval", "at"]
  rw [htext, htext', Option.some.injEq] at hsame
  rw [hsame, hms', Option.some.injEq] at hms
  exact hms.symm

lemma Genuine.storable (hdate : ∀ text ms, P.dateParse text = some ms → ms.natAbs ≤ Json.maxSafe)
    {ref : String} (h : Genuine P ref ms) : Replay.Storable (ref, ms) := by
  obtain ⟨r, text, -, -, hrec, -, -, hms⟩ := h
  refine ⟨?_, hdate text ms hms⟩
  obtain ⟨input, -, rfl⟩ := Option.map_eq_some_iff.mp hrec
  intro hempty
  have hlen := congrArg String.length hempty
  simp [Intrinsics.sha256Prefixed] at hlen

/-- What is known of a request that is about to spend an approval. -/
structure Pending.Backed (P : Platform) (c : Pending) : Prop where
  genuine : Genuine P c.ref c.approvalMs
  grants : grantedApproval c.signed = some c.ref

lemma readProof_approvalReceipt {proof : Json} {p : Proof} (h : readProof proof = .ok p) :
    proof.get? "approvalReceipt" = some p.approvalReceipt := by
  simp only [readProof, ok_iff] at h
  obtain ⟨_, -, _, -, _, -, receipt, hreceipt, rfl⟩ := h
  exact (Option.filter_eq_some_iff.mp hreceipt).1

/-- A prepared claim: its approval was fresh on the first reading. -/
lemma prepare_claim {now : Int} {line : List Char} {c : Pending}
    (h : prepare P D now line = .ok ⟨c.signed, some (c.ref, c.approvalMs)⟩) :
    c.Backed P ∧ now - c.approvalMs ≤ D.maxApprovalAgeMs := by
  obtain ⟨req, op, hreq, -, hsigned⟩ := prepare_eq_ok h
  obtain ⟨artifact, spec, -, hspec, hclaim, hdoc⟩ := prepareSigned_eq_ok hsigned
  obtain rfl := claimOf_other hclaim
  obtain ⟨-, proof, c', hproof, hc', hvalid⟩ := claimOf_grant hclaim
  cases hc'
  simp only [validateGrantRequest, ok_iff, Prod.mk.injEq] at hvalid
  obtain ⟨_, -, _, -, p, hp, a, ha, ms, hfresh, _, hchain, _, -, _, -, ref, hbind, _, -, rfl, rfl⟩ :=
    hvalid
  obtain ⟨-, -, -, -, -, hat, -⟩ := checkApproval_eq_ok ha
  obtain ⟨hms, hage⟩ := checkFresh_eq_ok hfresh
  obtain ⟨⟨ring, -, hchainValid⟩, -⟩ := checkChain_eq_ok hchain
  obtain ⟨href, hbound, -⟩ := checkGrantBindings_eq_ok hbind
  have hshape := hchainValid.shape p.approvalReceipt (by simp)
  rw [receiptRefHash_eq hshape] at href
  have hhash := Option.some.inj ((hchainValid.hash p.approvalReceipt (by simp)).symm.trans href)
  refine ⟨⟨⟨p.approvalReceipt, a.at', hshape, ?_, href, hhash, hat, hms⟩, ?_⟩, hage⟩
  · have hreqDistinct := (parseDocument_wellFormed hreq).distinct
    have hproofGet : req.get? "proof" = some proof := (Option.filter_eq_some_iff.mp hproof).1
    exact (hreqDistinct.get? hproofGet).get? (readProof_approvalReceipt hp)
  · have hgrant : c.signed.getStr? "spec" = some EXECUTION_GRANT_SPEC := by
      rw [Json.getStr?_eq_some, hdoc _ (by decide), hspec]
    rw [grantedApproval, if_pos hgrant, Json.getStr?, hdoc _ (by decide)]
    exact hbound

/-- A document that spends no approval is no grant. -/
lemma prepare_attestation {now : Int} {line : List Char} {doc : Json}
    (h : prepare P D now line = .ok ⟨doc, none⟩) : grantedApproval doc = none := by
  obtain ⟨req, op, hreq, -, hsigned⟩ := prepare_eq_ok h
  obtain ⟨artifact, spec, -, hspec, hclaim, hdoc⟩ := prepareSigned_eq_ok hsigned
  refine if_neg fun hgrant => ?_
  rw [Json.getStr?_eq_some, hdoc _ (by decide), hspec] at hgrant
  obtain rfl := Json.str.inj (Option.some.inj hgrant)
  obtain ⟨-, _, _, -, hnone, -⟩ := claimOf_grant hclaim
  cases hnone

/-! ## Remembering -/

/-- The record has every one of these approvals that has not expired. -/
def Remembers (P : Platform) (D : Deps) (clock : Int) (seen : Seen) (refs : List String) : Prop :=
  ∀ ref ∈ refs, ∃ ms, Genuine P ref ms ∧
    (clock ≤ Replay.expiryFor D.maxApprovalAgeMs ms → seen.lookup ref = some ms)

namespace Remembers

variable {clock now : Int} {seen : Seen} {refs : List String}

lemma later (h : Remembers P D clock seen refs) (hnow : clock ≤ now) :
    Remembers P D now seen refs := fun ref href =>
  (h ref href).imp fun _ hms => ⟨hms.1, fun hlive => hms.2 (hnow.trans hlive)⟩

lemma prune (h : Remembers P D now seen refs) :
    Remembers P D now (Replay.prune D.maxApprovalAgeMs now seen) refs := fun ref href =>
  (h ref href).imp fun _ hms => ⟨hms.1, fun hlive => Replay.lookup_prune (hms.2 hlive) hlive⟩

variable {ref : String}

lemma set (hsha : Function.Injective P.sha256Hex) (h : Remembers P D clock seen refs) (hms : Genuine P ref ms) :
    Remembers P D clock (Replay.set seen ref ms) refs := by
  intro k hk
  obtain ⟨ms', hgenuine, hkept⟩ := h k hk
  refine ⟨ms', hgenuine, fun hlive => ?_⟩
  rw [Replay.lookup_set]
  by_cases hkr : k = ref
  · subst hkr
    rw [if_pos rfl, hms.unique hsha hgenuine]
  · rw [if_neg hkr]
    exact hkept hlive

lemma concat (h : Remembers P D clock seen refs) (hms : Genuine P ref ms)
    (hseen : seen.lookup ref = some ms) : Remembers P D clock seen (refs ++ [ref]) := by
  intro k hk
  rcases List.mem_append.mp hk with hk | hk
  · exact h k hk
  · obtain rfl := List.mem_singleton.mp hk
    exact ⟨ms, hms, fun _ => hseen⟩

/-- An approval that is free after pruning, and that has not expired, was never granted. -/
lemma not_mem_of_free (hsha : Function.Injective P.sha256Hex) (h : Remembers P D now seen refs) (hms : Genuine P ref ms)
    (hlive : now ≤ Replay.expiryFor D.maxApprovalAgeMs ms)
    (hfree : Replay.admission (Replay.prune D.maxApprovalAgeMs now seen) ref = .free) : ref ∉ refs := by
  intro href
  obtain ⟨ms', hgenuine, hkept⟩ := h.prune ref href
  obtain rfl := hms.unique hsha hgenuine
  rw [Replay.admission, hkept hlive] at hfree
  cases hfree

end Remembers

/-! ## The invariant -/

/-- The journal holds whole entries, and with them every approval that was granted. -/
structure OnDisk (P : Platform) (D : Deps) (s : Sys) (es : Seen) : Prop where
  journal : s.journal = some (Replay.journalText es)
  storable : ∀ e ∈ es, Replay.Storable e
  remembers : Remembers P D s.clock (Replay.recorded es) s.granted

/-- So does the memory of a running process. -/
structure InMemory (P : Platform) (D : Deps) (s : Sys) (seen : Seen) : Prop where
  sound : Replay.Sound seen
  remembers : Remembers P D s.clock seen s.granted

/-- What holds of the request at hand. -/
def StageOk (P : Platform) (D : Deps) (s : Sys) (es seen : Seen) : Stage → Prop
  | .idle => True
  | .prepared c first => c.Backed P ∧ first - c.approvalMs ≤ D.maxApprovalAgeMs ∧ first ≤ s.clock
  | .admitted c => c.Backed P ∧ c.ref ∉ s.granted
  | .journaled c => c.Backed P ∧ c.ref ∉ s.granted ∧
      (Replay.recorded es).lookup c.ref = some c.approvalMs
  | .claimed c => c.Backed P ∧ c.ref ∉ s.granted ∧
      (Replay.recorded es).lookup c.ref = some c.approvalMs ∧
      seen.lookup c.ref = some c.approvalMs

/-- A process that is down may never have run, and then it granted nothing. -/
def PhaseOk (P : Platform) (D : Deps) (s : Sys) : Phase → Prop
  | .down => s.granted = [] ∨ ∃ es, OnDisk P D s es
  | .up seen stage => ∃ es, OnDisk P D s es ∧ InMemory P D s seen ∧ StageOk P D s es seen stage

structure Inv (P : Platform) (D : Deps) (s : Sys) : Prop where
  once : s.granted.Nodup
  phase : PhaseOk P D s s.phase

variable {s : Sys} {es seen : Seen} {now : Int}

lemma Inv.up (h : Inv P D s) {stage : Stage} (hphase : s.phase = .up seen stage) :
    ∃ es, OnDisk P D s es ∧ InMemory P D s seen ∧ StageOk P D s es seen stage := by
  have hok := h.phase
  rwa [hphase] at hok

lemma inv_off (journal : Option (List Char)) (clock : Int) : Inv P D (.off journal clock) :=
  ⟨List.nodup_nil, Or.inl rfl⟩

/-! ### Parts of steps -/

lemma OnDisk.later (h : OnDisk P D s es) (hnow : s.clock ≤ now) (phase : Phase) :
    OnDisk P D { s with phase, clock := now } es :=
  ⟨h.journal, h.storable, h.remembers.later hnow⟩

lemma InMemory.later (h : InMemory P D s seen) (hnow : s.clock ≤ now)
    (journal : Option (List Char)) (phase : Phase) :
    InMemory P D { s with journal, phase, clock := now } seen :=
  ⟨h.sound, h.remembers.later hnow⟩

lemma InMemory.prune (h : InMemory P D s seen) :
    InMemory P D s (Replay.prune D.maxApprovalAgeMs s.clock seen) :=
  ⟨h.sound.prune _ _, h.remembers.prune⟩

/-- A journal that is rewritten from memory holds what the memory holds. -/
lemma InMemory.rewrite (h : InMemory P D s seen) (phase : Phase) :
    OnDisk P D { s with journal := some (Replay.journalText seen), phase } seen where
  journal := rfl
  storable := h.sound.storable
  remembers := by
    rw [Replay.recorded_of_nodup h.sound.nodup]
    exact h.remembers

variable (hsha : Function.Injective P.sha256Hex)
  (hdate : ∀ text ms, P.dateParse text = some ms → ms.natAbs ≤ Json.maxSafe)

include hsha hdate in
lemma OnDisk.append (h : OnDisk P D s es) {c : Pending} (hc : c.Backed P) (phase : Phase) :
    OnDisk P D { s with phase, journal := appended s.journal c } (es ++ [(c.ref, c.approvalMs)]) where
  journal := by
    simp [appended, Store.append, h.journal, Replay.journalText]
  storable e he := by
    rcases List.mem_append.mp he with he | he
    · exact h.storable e he
    · obtain rfl := List.mem_singleton.mp he
      exact hc.genuine.storable hdate
  remembers := by
    rw [Replay.recorded_concat]
    exact h.remembers.set hsha hc.genuine

lemma granted_concat (s : Sys) (doc : Json) (phase : Phase) (clock : Int) :
    Sys.granted { s with phase, clock, returned := s.returned ++ [doc] } =
      s.granted ++ (grantedApproval doc).toList := by
  rw [Sys.granted, List.filterMap_append]
  cases hdoc : grantedApproval doc <;> simp [Sys.granted, hdoc]

/-- What a restart reads back. -/
lemma inMemory_start {st : Store} (h : Inv P D s) (hphase : s.phase = .down)
    (hnow : s.clock ≤ now) (hstart : start D file now s.journal = .ok st) :
    InMemory P D { s with clock := now } st.seen ∧
      st.journal = some (Replay.journalText st.seen) := by
  simp only [start, ok_iff] at hstart
  obtain ⟨loaded, hload, rfl⟩ := hstart
  have hok := h.phase
  rw [hphase] at hok
  have hremembers : Remembers P D s.clock loaded s.granted := by
    rcases hok with hnone | ⟨es, hdisk⟩
    · intro ref href
      rw [hnone] at href
      cases href
    · rw [hdisk.journal] at hload
      rw [Replay.load_journalText hdisk.storable hload]
      exact hdisk.remembers
  refine ⟨?_, rfl⟩
  have hmemory : InMemory P D { s with clock := now } loaded :=
    ⟨Replay.load_sound hload, hremembers.later hnow⟩
  exact hmemory.prune

/-! ### Every step keeps it -/

/-- Between the two readings of a timely request its approval cannot expire. -/
lemma not_expired {c : Pending} {first : Int} (htimely : Timely first now)
    (hfresh : first - c.approvalMs ≤ D.maxApprovalAgeMs) :
    now ≤ Replay.expiryFor D.maxApprovalAgeMs c.approvalMs := by
  unfold Timely at htimely
  unfold Replay.expiryFor
  omega

include hsha hdate in
theorem inv_step {s s' : Sys} (h : Inv P D s) (hstep : Step P D file Timely s s') : Inv P D s' := by
  cases hstep with
  | start hphase hnow hstart =>
    obtain ⟨hmemory, hjournal⟩ := inMemory_start h hphase hnow hstart
    rw [hjournal]
    exact ⟨h.once, _, hmemory.rewrite _, hmemory.later le_rfl _ _, trivial⟩
  | crash =>
    refine ⟨h.once, ?_⟩
    have hok := h.phase
    cases hphase : s.phase with
    | down =>
      rw [hphase] at hok
      exact hok.imp id fun ⟨es, hdisk⟩ => ⟨es, hdisk.later le_rfl _⟩
    | up seen stage =>
      obtain ⟨es, hdisk, -⟩ := h.up hphase
      exact Or.inr ⟨es, hdisk.later le_rfl _⟩
  | compact hphase hnow =>
    obtain ⟨es, -, hmemory, -⟩ := h.up hphase
    have hpruned := (hmemory.later hnow s.journal s.phase).prune
    exact ⟨h.once, _, hpruned.rewrite _, hpruned.later le_rfl _ _, trivial⟩
  | compactFails hphase hnow =>
    obtain ⟨es, hdisk, hmemory, -⟩ := h.up hphase
    exact ⟨h.once, es, hdisk.later hnow _, (hmemory.later hnow _ _).prune, trivial⟩
  | refuse hphase hnow hprepare =>
    obtain ⟨es, hdisk, hmemory, -⟩ := h.up hphase
    refine ⟨h.once, ?_⟩
    rw [hphase]
    exact ⟨es, hdisk.later hnow _, hmemory.later hnow _ _, trivial⟩
  | @attest now seen line doc hphase hnow hprepare =>
    obtain ⟨es, hdisk, hmemory, -⟩ := h.up hphase
    have hsame : Sys.granted { s with clock := now, returned := s.returned ++ [doc] } =
        s.granted := by
      rw [granted_concat, prepare_attestation hprepare]
      exact List.append_nil _
    refine ⟨hsame ▸ h.once, ?_⟩
    rw [hphase]
    exact ⟨es, ⟨hdisk.journal, hdisk.storable, hsame ▸ hdisk.remembers.later hnow⟩,
      ⟨hmemory.sound, hsame ▸ hmemory.remembers.later hnow⟩, trivial⟩
  | prepare hphase hnow hprepare =>
    obtain ⟨es, hdisk, hmemory, -⟩ := h.up hphase
    obtain ⟨hbacked, hfresh⟩ := prepare_claim hprepare
    exact ⟨h.once, es, hdisk.later hnow _, hmemory.later hnow _ _, hbacked, hfresh, le_rfl⟩
  | accept hphase hnow htimely hfree =>
    obtain ⟨es, hdisk, hmemory, hbacked, hfresh, -⟩ := h.up hphase
    have hmemory' := hmemory.later hnow s.journal s.phase
    exact ⟨h.once, es, hdisk.later hnow _, hmemory'.prune.later le_rfl _ _, hbacked,
      hmemory'.remembers.not_mem_of_free hsha hbacked.genuine (not_expired htimely hfresh) hfree⟩
  | deny hphase hnow _ _ =>
    obtain ⟨es, hdisk, hmemory, -⟩ := h.up hphase
    exact ⟨h.once, es, hdisk.later hnow _, (hmemory.later hnow _ _).prune, trivial⟩
  | append hphase =>
    obtain ⟨es, hdisk, hmemory, hbacked, hfresh⟩ := h.up hphase
    refine ⟨h.once, _, hdisk.append hsha hdate hbacked _, hmemory.later le_rfl _ _, hbacked, hfresh,
      ?_⟩
    rw [Replay.recorded_concat, Replay.lookup_set, if_pos rfl]
  | appendFails written hphase =>
    obtain ⟨es, hdisk, hmemory, hbacked, -⟩ := h.up hphase
    refine ⟨h.once, ?_⟩
    cases written with
    | false => exact ⟨es, hdisk.later le_rfl _, hmemory.later le_rfl _ _, trivial⟩
    | true =>
      exact ⟨_, hdisk.append hsha hdate hbacked _, hmemory.later le_rfl _ _, trivial⟩
  | enter hphase =>
    obtain ⟨es, hdisk, hmemory, hbacked, hfresh, hjournal⟩ := h.up hphase
    refine ⟨h.once, es, hdisk.later le_rfl _, ⟨?_, hmemory.remembers.set hsha hbacked.genuine⟩,
      hbacked, hfresh, hjournal, ?_⟩
    · exact hmemory.sound.set (hbacked.genuine.storable hdate)
    · rw [Replay.lookup_set, if_pos rfl]
  | @answer seen c hphase =>
    obtain ⟨es, hdisk, hmemory, hbacked, hfresh, hjournal, hentered⟩ := h.up hphase
    have hgranted : Sys.granted
        { s with phase := .up seen .idle, returned := s.returned ++ [c.signed] } =
        s.granted ++ [c.ref] := by
      rw [granted_concat, hbacked.grants]
      rfl
    refine ⟨?_, es, ⟨hdisk.journal, hdisk.storable, ?_⟩, ⟨hmemory.sound, ?_⟩, trivial⟩
    · rw [hgranted, List.nodup_append]
      refine ⟨h.once, by simp, fun ref href k hk hrk => hfresh ?_⟩
      obtain rfl := List.mem_singleton.mp hk
      exact hrk ▸ href
    · rw [hgranted]
      exact hdisk.remembers.concat hbacked.genuine hjournal
    · rw [hgranted]
      exact hmemory.remembers.concat hbacked.genuine hentered

include hsha hdate in
theorem inv_run {s s' : Sys} (h : Inv P D s) (hrun : Run P D file Timely s s') : Inv P D s' := by
  induction hrun with
  | refl => exact h
  | tail _ hstep ih => exact inv_step hsha hdate ih hstep

end Signer

open Signer in
/-- Over every sequence of requests, compactions, crashes and restarts on one journal file, whatever
it held at first and as long as the second clock reading of a grant request comes at most the clock
skew after the first, no two of the signed execution grants that were returned carry one approval
receipt hash.  Instants are integers a journal line can hold. -/
theorem approval_granted_once (P : Platform) (D : Deps) (file : String)
    (hsha : Function.Injective P.sha256Hex)
    (hdate : ∀ text ms, P.dateParse text = some ms → ms.natAbs ≤ Json.maxSafe)
    (journal : Option (List Char)) (clock : Int) (s : Sys)
    (hrun : Run P D file Timely (.off journal clock) s) : s.granted.Nodup :=
  (inv_run hsha hdate (inv_off journal clock) hrun).once

namespace Signer.SampleRequest

/-! ### Two requests over one approval -/

def journalFile : String := "approvals.journal"

/-- The hash of the approval both requests present. -/
def approvalRef : String := "sha256:" ++ honest.approval

def secondSigned : Json :=
  signed secondGrant
    "GK7dKCoenJdqKSsIvypAxND+2NEztEciNJs0HhRbRLsAomesjPnwJe0qFiQGrQ718KCHfpdyuqni5RZwxlnSCg=="

lemma prepare_second : prepare honestPlatform deps nowMs (line secondGrant inOrder) =
    .ok ⟨secondSigned, some (approvalRef, nowMs)⟩ := by
  have hparse : parseDocument (line secondGrant inOrder) "request" =
      .ok (request secondGrant inOrder) := parseDocument_of_textBound (by decide +kernel) _
  rw [prepare_line hparse]
  decide +kernel

/-- The journal with the approval. -/
def spentJournal : Option (List Char) := some (Replay.journalText [(approvalRef, nowMs)])

/-- The signer after the first request. -/
def afterFirst (clock : Int) : Sys :=
  ⟨spentJournal, .up [(approvalRef, nowMs)] .idle, clock, [honestSigned]⟩

lemma handle_first : handleGrantSignerRequest honestPlatform deps nowMs nowMs none ⟨[], some []⟩
      (line (firstGrant honest) inOrder) =
    (.artifact honestSigned, ⟨[(approvalRef, nowMs)], spentJournal⟩) := by
  rw [handleGrantSignerRequest, prepare_honest]
  simp [Replay.prune, Replay.admission, MAX_REPLAY_ENTRIES, Store.append, Replay.set, spentJournal,
    Replay.journalText, approvalRef]

/-- The signer is started on no journal and grants the first request. -/
lemma run_first {allowed : Int → Int → Prop} (hallowed : allowed nowMs nowMs) :
    ∃ clock ≤ nowMs, Run honestPlatform deps journalFile allowed (.off none nowMs)
      (afterFirst clock) := by
  have hstart : start deps journalFile nowMs none = .ok ⟨[], some []⟩ := rfl
  obtain ⟨clock, hclock, hrun⟩ := run_handle (P := honestPlatform) (D := deps) none
    (line (firstGrant honest) inOrder) (s := ⟨some [], .up [] .idle, nowMs, []⟩) rfl le_rfl le_rfl
    hallowed
  simp only [handle_first] at hrun
  exact ⟨clock, hclock, .head (.start rfl le_rfl hstart) hrun⟩

/-- The second request, on whatever second reading. -/
lemma run_second {allowed : Int → Int → Prop} {now clock : Int} (hclock : clock ≤ nowMs)
    (hnow : nowMs ≤ now) (hallowed : allowed nowMs now) :
    ∃ s, Run honestPlatform deps journalFile allowed (afterFirst clock) s ∧
      s.returned = [honestSigned] ++
        if nowMs + 960000 < now then [secondSigned] else [] := by
  obtain ⟨clock', -, hrun⟩ := run_handle (P := honestPlatform) (D := deps) none
    (line secondGrant inOrder) (s := afterFirst clock) rfl hclock hnow hallowed
  refine ⟨_, hrun, ?_⟩
  rw [handleGrantSignerRequest, prepare_second]
  have hexpiry : Replay.expiryFor deps.maxApprovalAgeMs nowMs = nowMs + 960000 := rfl
  by_cases hlate : nowMs + 960000 < now
  · simp [Replay.prune, hexpiry, hlate, Replay.admission, MAX_REPLAY_ENTRIES, Response.documents,
      afterFirst]
  · simp [Replay.prune, hexpiry, hlate, Replay.admission, SPENT, Response.documents, afterFirst]

end Signer.SampleRequest

open Signer SampleRequest in
/-- The signer grants a request, crashes, and is restarted; a second request over the same approval
is refused. -/
theorem approval_granted_once_restarted :
    ∃ s, Run honestPlatform deps journalFile Timely (.off none nowMs) s ∧
      s.returned = [honestSigned] ∧ s.granted = [approvalRef] ∧ s.granted.Nodup := by
  have htimely : Timely nowMs nowMs := by unfold Timely; decide
  obtain ⟨clock, hclock, hfirst⟩ := run_first htimely
  have hrestart : start deps journalFile nowMs spentJournal =
      .ok ⟨[(approvalRef, nowMs)], spentJournal⟩ := by decide +kernel
  obtain ⟨s, hsecond, hreturned⟩ := run_second le_rfl le_rfl htimely
  have hrun : Run honestPlatform deps journalFile Timely (.off none nowMs) s :=
    ((hfirst.tail .crash).tail (.start rfl hclock hrestart)).trans hsecond
  have hdate : ∀ text ms, honestPlatform.dateParse text = some ms → ms.natAbs ≤ Json.maxSafe := by
    intro text ms hms
    have hmem := Assoc.mem_of_lookup hms
    exact (show ∀ e ∈ _, e.2.natAbs ≤ Json.maxSafe by decide) _ hmem
  refine ⟨s, hrun, hreturned, ?_, approval_granted_once honestPlatform deps journalFile
    (tableDigest_injective (by decide +kernel) (by decide +kernel)) hdate none nowMs s hrun⟩
  rw [Sys.granted, hreturned]
  decide +kernel

open Signer SampleRequest in
/-- When the clock jumps between the two readings of the second request, the signer grants it as
well. -/
theorem approval_granted_twice : Function.Injective honestPlatform.sha256Hex ∧
    ∃ s, Run honestPlatform deps journalFile (fun _ _ => True) (.off none nowMs) s ∧
      s.returned = [honestSigned, secondSigned] ∧ s.granted = [approvalRef, approvalRef] := by
  refine ⟨tableDigest_injective (by decide +kernel) (by decide +kernel), ?_⟩
  obtain ⟨clock, hclock, hfirst⟩ := @run_first (fun _ _ => True) trivial
  obtain ⟨s, hsecond, hreturned⟩ :=
    @run_second (fun _ _ => True) (nowMs + 960001) clock hclock (by decide) trivial
  refine ⟨s, hfirst.trans hsecond, hreturned, ?_⟩
  rw [Sys.granted, hreturned]
  decide +kernel

end NoaMandate
