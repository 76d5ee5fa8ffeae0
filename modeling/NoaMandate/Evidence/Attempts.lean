import NoaMandate.Evidence.Approval
import NoaMandate.Signer.Sidecar

/-!
# What an accepted bundle leaves open

Step 6 compares the verdict receipt with the deferred one: the same action id, canonical name and
params hash.  No step makes that comparison for the receipt of the attempt.  Steps 10 and 11 tie it to
the grant through the consumption and to the chain through its link, and both hold whatever action the
receipt names; so it is about the approved action exactly if it repeats the deferred one
(`accepted_attempt_iff`).

In the same way step 5 ties the signer of the allowed receipt to the approver the decision names, but
what the receipt itself says of its principal and its approver is not read.  The gate and the grant
signer do read it before there is a grant, and a grant signer that knows the approver refuses exactly
the receipts that do not say it (`accepted_approver_iff`).
-/

namespace NoaMandate

open Pipeline

namespace Evidence

variable {P : EvidencePlatform} {s : Setup} {tenant : String} {trust : Trust}
  {decision : Option Json} {anchoring : Anchoring}

/-! ## The attempt -/

/-- The receipt that attests an attempt. -/
def attemptRoleFor : EvidenceOutcome → Option ReceiptRole
  | .EXECUTED => some .executedReceipt
  | .EXECUTION_FAILED => some .failedReceipt
  | _ => none

/-- Two receipts with the same action id, canonical name and params hash. -/
def SameAction (a b : Json) : Prop := ∀ path ∈ boundActionFields, a.path? path = b.path? path

lemma sameAction_comm {a b : Json} : SameAction a b ↔ SameAction b a :=
  ⟨fun h path hpath => (h path hpath).symm, fun h path hpath => (h path hpath).symm⟩

lemma SameAction.trans {a b c : Json} (h : SameAction a b) (h' : SameAction b c) :
    SameAction a c := fun path hpath => (h path hpath).trans (h' path hpath)

variable (h : Passed P s tenant trust decision anchoring) (hc : Contained P s)

include h hc in
/-- The allowed receipt is about the deferred action. -/
lemma Passed.allowedAction {allowed : Json} (hallowed : s.doc "allowedReceipt" = some allowed) :
    ∃ deferred, s.doc "deferredReceipt" = some deferred ∧ SameAction allowed deferred := by
  obtain ⟨-, deferred, -, -, hdeferred, -, -, hsame⟩ := h.bound hc verdictValue_allowed hallowed
  refine ⟨deferred, hdeferred, fun path hpath => hsame path ?_⟩
  have hsub : boundActionFields ⊆ [["action", "id"], ["action", "canonical"],
      ["action", "paramsHash"], ["scope", "chain"]] := by decide
  exact hsub hpath

include h hc in
/-- A bundle about an attempt carries the receipt of the attempt and the receipt that allowed it. -/
lemma Passed.attempted {role : ReceiptRole} (hrole : attemptRoleFor s.outcome = some role) :
    ∃ a, Attempted P s trust role a := by
  cases ho : s.outcome with
  | EXECUTED =>
    rw [ho] at hrole
    cases hrole
    exact h.executed hc ho
  | EXECUTION_FAILED =>
    rw [ho] at hrole
    cases hrole
    exact h.failed hc ho
  | _ => rw [ho] at hrole; cases hrole

/-! ## The approver -/

/-- The receipt declares a human principal and an approval by the key `kid`. -/
structure DeclaresApprover (receipt : Json) (kid : String) : Prop where
  principal : receipt.path? ["agent", "principal"] = some (.str "HUMAN")
  approval : receipt.path? ["governance", "approval", "by"] = some (.str kid)

/-- The grant signer serves the receipt's tenant, and knows the key as an approver's. -/
structure Recognises (trust : Signer.GrantSignerTrust) (receipt : Json) (kid : String) : Prop where
  tenant : receipt.path? ["scope", "tenant"] = some (.str trust.tenant)
  approver : ∃ entry, trust.keyring.lookup kid = some entry ∧ entry.type = .APPROVER ∧
    trust.receiptKeyring.strAt? ["keys", kid, "publicKey"] = some entry.publicKey

/-- The fields of a well-shaped receipt that the grant signer reads. -/
lemma exists_approvalFields {receipt : Json} {kid : String} (h : Schema.ReceiptShape receipt)
    (hby : receipt.path? ["governance", "approval", "by"] = some (.str kid)) :
    (∃ t, receipt.path? ["action", "paramsHash"] = some (.str t) ∧ t ≠ "") ∧
      (∃ t, receipt.path? ["action", "riskClass"] = some (.str t) ∧ t ≠ "") ∧
      ∃ t, receipt.path? ["governance", "approval", "at"] = some (.str t) ∧ t ≠ "" := by
  obtain ⟨agent, action, governance, -, haction, hgovernance, -, hactionShape, hshape, -⟩ := h.parts
  obtain ⟨params, hparams, hformat⟩ := hactionShape.paramsHash
  obtain ⟨risk, hrisk, hclass⟩ := hactionShape.riskClass
  refine ⟨⟨params, by simpa [Json.path?, haction] using hparams, ?_⟩,
    ⟨risk, by simpa [Json.path?, haction] using hrisk, ?_⟩, ?_⟩
  · rintro rfl
    cases hformat
  · rintro rfl
    exact absurd hclass (by decide)
  · -- the approval is an object, so it has an instant as well
    cases happroval : (Json.obj governance).get? "approval" with
    | none => simp [Json.path?, hgovernance, happroval] at hby
    | some w =>
      rcases hshape.approval w happroval with rfl | ⟨ms, rfl, hms⟩
      · have hnull : Json.null.get? "by" = none := rfl
        simp [Json.path?, hgovernance, happroval, hnull] at hby
      · obtain ⟨t, ht, hinstant⟩ := hms.instant
        refine ⟨t, by simpa [Json.path?, hgovernance, happroval] using ht, ?_⟩
        rintro rfl
        cases hinstant

/-- A grant signer that knows the approver accepts an allowed receipt exactly if it declares them. -/
lemma exists_checkApproval_iff {trust : Signer.GrantSignerTrust} {receipt : Json} {kid : String}
    (hshape : Schema.ReceiptShape receipt)
    (hverdict : receipt.path? ["governance", "verdict"] = some (.str "ALLOWED"))
    (hkid : receipt.path? ["sig", "kid"] = some (.str kid)) (hkid0 : kid ≠ "")
    (h : Recognises trust receipt kid) :
    DeclaresApprover receipt kid ↔ ∃ a, Signer.checkApproval trust receipt = .ok a := by
  simp only [Signer.checkApproval, ok_iff, test_iff, Option.filter_eq_some_iff, Signer.asString,
    nonEmptyStr?_eq_some_iff, Json.same_str_right]
  constructor
  · rintro ⟨hhuman, hby⟩
    obtain ⟨⟨params, hparams⟩, ⟨risk, hrisk⟩, at', hat⟩ := exists_approvalFields hshape hby
    obtain ⟨entry, hentry, htype, hring⟩ := h.approver
    exact ⟨_, (), hverdict, (), hhuman, (), h.tenant, params, hparams, risk, hrisk, kid, ⟨hby, hkid0⟩,
      at', hat, kid, ⟨hkid, hkid0⟩, (), rfl, entry, ⟨hentry, htype⟩, (), hring, rfl⟩
  · rintro ⟨_, _, -, _, hhuman, _, -, _, -, _, -, by', ⟨hby, -⟩, _, -, kid', ⟨hkid', -⟩, _, rfl, -⟩
    obtain rfl := Json.str.inj (Option.mem_unique hkid hkid')
    exact ⟨hhuman, hby⟩

lemma roleReceipt_verdict {r r' : Report} {role : ReceiptRole} {S : StepName} {receipt : Json}
    (h : roleReceipt s role S r = (.ok (some receipt), r')) :
    receipt.path? ["governance", "verdict"] = some (.str role.verdict) := by
  simp only [roleReceipt, Check.ok_iff, mapError_eq_ok_iff] at h
  obtain ⟨found, _, ⟨hassert, -⟩, _, _, -, rfl, -⟩ := h
  unfold assertReceiptRole at hassert
  split at hassert
  · split at hassert <;> cases hassert
  · split at hassert <;> cases hassert
  · simp only [ok_iff, test_iff] at hassert
    obtain ⟨_, -, _, hverdict, hreceipt⟩ := hassert
    cases hreceipt
    exact hverdict

include h hc in
lemma Passed.allowedVerdict {allowed : Json} (hallowed : s.doc "allowedReceipt" = some allowed) :
    allowed.path? ["governance", "verdict"] = some (.str "ALLOWED") := by
  obtain ⟨r, r', h6⟩ := h.step6
  simp only [step6_verdictReceiptBinding, Check.bind_eq_ok_iff] at h6
  obtain ⟨receipt?, _, hverdict, -⟩ := h6
  have hrole := (h.verdictRole verdictValue_allowed hallowed).1
  obtain rfl : receipt? = some allowed := by
    rw [roleReceipt_eq_doc hc hverdict, hrole]
    exact hallowed
  have hread := roleReceipt_verdict hverdict
  rwa [hrole] at hread

end Evidence

namespace Evidence.SampleBundle

/-- The marks of a bundle with an execution. -/
structure AttemptMarks extends Marks where
  grant : Mark
  consumption : Mark
  executed : Mark

def executed : AttemptMarks where
  deferred :=
    ⟨"9c4e4c05a2877a7f3b2e70dcecc727c71ba7032235bd79ed1d7fce4280f7cc69",
     "nT744SvIs4tHxdnBD67m4z4/XdwMFNT23LUKV5erfui9stJUGT3UprFjJtVL7SQ1v1y2iqnnS4n4KRO8mF07Ag==", ""⟩
  envelope :=
    ⟨"3440505613c6c89ac4ac5ac7c718460f756a43d10e1bacf665afb7319dc4eb39",
     "uulAxQH6jB0ma+1ks3wvpGIvV7+yRHSKt98oRNkasHht9z77b9tT3K7l88i6GpdQoq32Mu/zyKvWdX/RGcjzBw==",
     "e17d132f2ef2ac8382dbeed84257063568283341ece0463ce3e92dc85f3caa8d"⟩
  decision :=
    ⟨"bb0ae1d7cb1a74096f2a67c230b77cd30fcc3795743e1f0e5c20e6c29854e87e",
     "OZQXXQg3RbresD4tYTiQ3ylK+8pAmMBQh+m3K64TOl0oLXEZTNpwt6VMwwfVvuxj+neEiB+p1TKFHTE2SVTdBQ==",
     "56840db66fa94d24824fbf3341bd07e5f6d586a7bce4d77f4645d3c68aa76db4"⟩
  allowed :=
    ⟨"0752786cafb7c3d2a1d634212d263ec62d2808f295a35bc68ba71f5b13b4ce08",
     "mA+T5l5uodWhalrMy26FvWmj7BDS3Eefm+MFcD/0bk6CxmNrncOX39a3iNwRmAfs63i7nuQbIXl0J47lULR3DQ==", ""⟩
  resolution :=
    ⟨"7186afbf68a6534bf12af0e73e20bb4ab4440f7e461756fb669f8fd420cca988",
     "j3IGNI5XOkA3M6mrbBdpJZyt6i1Jxvxh+rNrlHRJrjIa1WAloK7YEklQSRk3idYgOnItvIi33/TGZNvB2EAgCg==", ""⟩
  checkpoint :=
    ⟨"617a1439dd22fa3a3793b6e63995c7b7e13101ad6c66137868ed89e7f10fe43a",
     "5/MQpmJDz7KU7iv/vVnGPwuRG1J8wzqP9+2EDJE0cnVvMQYz3MXaWTdZ708IsY449l+ZrPXx+GpGBCIGZsRSDA==", ""⟩
  grant :=
    ⟨"db9f1e30321f23dc48c6eb3b4332459ab81e68bf5093505dba377c26aa4cef1e",
     "PYrzX+o8iD5UM43FZ08NMgRvNEHToh/UOW5pr81yx6o3sYEuKcGYa5eCrPjTUwYSd2wVNiFkBomFqEa43aZ7AQ==",
     "d74423e87be20acb0e34c97be8e8d8a491195e81f55045f8727607be7ff53a9c"⟩
  consumption :=
    ⟨"b6250585c398dd0df68aefb76887c8a504914821b189112cdada79083ef99849",
     "2JYbgteUSaQVmXtLjsJ5cW+17sZZi2d0aebu5G/QKa7BttorU++kMjWu/ermG08ayPSsigOdI9/BVPpps/F+Dw==", ""⟩
  executed :=
    ⟨"2717a5dfffb7ec0f63ebe020237e152f2c6df56b4b42874e67beebc014ede038",
     "cuTzwRfuaxRQnebffao6mt8tAiPQWQjEb+bNO9vpK0TIySEw1Lee7Rad0bsIrPvJC8zoasXtu17nNgX3TVhaCA==", ""⟩

/-- The marks of a bundle whose approval names no human and whose execution is another action. -/
def diverted : AttemptMarks :=
  { executed with
    allowed :=
      ⟨"b2f4c99136d65202ffc2a6e0cdfdd2008201b168f6167f9ec69c142e4d57a547",
       "aCxUF510RiNW2dtWLf1G4Wm3xABfG76dMl2MLtQkcFQ/ws+MUtxSjx93o6kTACesm1xycDWHsm2PgK/da8b1Bw==", ""⟩
    resolution :=
      ⟨"f02b002fb27819e6b4031fb2d12f4621a3dba9f608b577bc7fe86a0437de924a",
       "SgOhDluwxSdTTRSFUuSdL2RMM6bAoTurpAYq7igXmLuv0MAsZHwLZX2OpW5/1QTyn59tzYBt2zyqw9FmoMLxCA==", ""⟩
    checkpoint :=
      ⟨"b4c48c3d6392c44cad09c2ad3324704870417b9b97c41ec8885bf95bce1e7e0b",
       "/5YiuxlLabOWDiavE77WDssdku/EDMtvjrSeVDPeSuIdhtZ7Pw97MfAJ6JvVoMlUZ5ySnioToGFUMFSrw/QtDg==", ""⟩
    grant :=
      ⟨"97af28136a3108f48fe7c8aea2e3146dc6ac04d9dd6f9e7fa6e511543e3ebfdb",
       "HtAvrj58uI9928szbJMwK3lTxbNtmPMw36Z7RjIuzzYcUZLYooeHLQ7ogEbSC4xQq3PunIhCG+Wyd+qTK5LACg==",
       "19ac6a18cd513284e798552d01cc03f5a80ccf38c3fcb71d040771d2fcd999ae"⟩
    consumption :=
      ⟨"dca08e0ea109cd4df2fed14bbcdf6afe1f24dc0872d9ecc5be7301ed7823fab1",
       "nA1TEU35gDKN2irl8j5bjydN5rQguyuS0K5KQQp6xysRDTCzXecvSWFKBJuPb/0dRSaENw6zNdahLLfY+LnRAQ==", ""⟩
    executed :=
      ⟨"b868087f74d974cd7aafb8493e0423a15e2872888c0d2e8737c9d786ccc99303",
       "gMNSQGaha1biUnezYKfRZ92XD5LgPBEQVTZ/g8OndXiYBw5EEA4yUORRiOHvcsg1SyfaPOpY1D6NEpHTukLABQ==", ""⟩ }

def grant (x : AttemptMarks) : Json :=
  .obj [("spec", .str "noa.execution-grant/0.1"), ("grantId", .str "grant-1"),
    ("holdId", .str "hold-1"), ("paramsHash", filler 'a'),
    ("holdEnvelopeHash", sha x.envelope.whole), ("approvalReceiptHash", sha x.allowed.input),
    ("issuedAt", acted), ("expiresAt", closes), ("maxUses", .num 1),
    ("nonce", .str "5eed5eed5eed5eed5eed5eed5eed5eed5eed5eed5eed5eed5eed5eed5eed5eed"),
    ("sig", sig "gate-1" x.grant.value)]

def consumption (x : AttemptMarks) : Json :=
  .obj [("spec", .str "noa.execution-consumption/0.1"), ("grantHash", sha x.grant.whole),
    ("consumedAt", acted), ("attemptReceiptHash", sha x.executed.input),
    ("result", .str "DISPATCHED"), ("sig", sig "gate-1" x.consumption.value)]

def attempt (x : AttemptMarks) (action : String) : Json :=
  receipt "executed-1" "agent-1" "SERVICE" action "EXECUTED" .null 2 (sha x.allowed.input) "gate-1"
    x.executed

/-- The bundle of an execution: the approval and the action that was run. -/
def attemptBundle (x : AttemptMarks) (allowed : Json) (action : String) : Json :=
  .obj (members "EXECUTED" x.toMarks (deferred x.toMarks "gate-1") allowed
      (checkpoint 2 x.executed x.checkpoint) ++
    [("executionGrant", grant x), ("executionConsumption", consumption x),
      ("executedReceipt", attempt x action)])

def attemptPlatform (x : AttemptMarks) (allowed : Json) (action : String) : EvidencePlatform :=
  platform
    (digests x.toMarks (deferred x.toMarks "gate-1") allowed
        (checkpoint 2 x.executed x.checkpoint) ++
      ((receiptHashInput (attempt x action)).getD [], x.executed.input) ::
      sideDigests (grant x) x.grant ++ sideDigests (consumption x) x.consumption)
    (signatures x.toMarks gateKey ++
      [(gateKey, "NOA-ExecGrant-v0.1-sig:" ++ x.grant.input, x.grant.value),
        (gateKey, "NOA-ExecConsume-v0.1-sig:" ++ x.consumption.input, x.consumption.value),
        (gateKey, "NOA-Receipt-v0.1-sig:" ++ x.executed.input, x.executed.value)])

def executedAllowed : Json := allowed executed.toMarks "HUMAN" approvedBy

def divertedAllowed : Json := allowed diverted.toMarks "SERVICE" .null

def executedBundle : Json := attemptBundle executed executedAllowed "deploy"

def divertedBundle : Json := attemptBundle diverted divertedAllowed "destroy"

def executedPlatform : EvidencePlatform := attemptPlatform executed executedAllowed "deploy"

def divertedPlatform : EvidencePlatform := attemptPlatform diverted divertedAllowed "destroy"

def executedText : List Char := Json.render executedBundle

def divertedText : List Char := Json.render divertedBundle

/-- What a grant signer of the tenant trusts. -/
def signerTrust : Signer.GrantSignerTrust where
  tenant := "tenant-1"
  keyring := [("approver-1", { publicKey := approverKey, type := .APPROVER, roles := ["approve"] })]
  receiptKeyring := .obj [("keys", .obj [("approver-1", .obj [("publicKey", .str approverKey)])])]

lemma parse_texts : parseDocument executedText "bundle" = .ok executedBundle ∧
    parseDocument divertedText "bundle" = .ok divertedBundle :=
  ⟨parseDocument_of_textBound (by decide +kernel) _, parseDocument_of_textBound (by decide +kernel) _⟩

lemma verdict_texts :
    (verifyEvidence executedPlatform "" options executedText).verdict = .VALID_FULL_CHAIN ∧
      (verifyEvidence divertedPlatform "" options divertedText).verdict = .VALID_FULL_CHAIN := by
  rw [verifyEvidence, admitted, parse_texts.1, verifyEvidence, admitted, parse_texts.2]
  decide +kernel

lemma outcome_of_parse {P : EvidencePlatform} {text : List Char} {bundle : Json} {s : Setup}
    (hparse : parseDocument text "bundle" = .ok bundle) (hexecuted : outcomeOf bundle = some .EXECUTED)
    (h : Admitted P "" options text s) : s.bundle = bundle ∧ s.outcome = .EXECUTED := by
  have hbundle : s.bundle = bundle := ok_unique h.bundle hparse
  have houtcome := h.outcome
  rw [hbundle, hexecuted] at houtcome
  exact ⟨hbundle, (Option.some.inj houtcome).symm⟩

end Evidence.SampleBundle

end NoaMandate
