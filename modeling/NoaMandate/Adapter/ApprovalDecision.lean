import NoaMandate.Adapter.ApprovalRules
import NoaMandate.Kernel.Verify

/-!
# Verifying a human approval

`verifyApprovalReceipt` decides whether a document is a genuine approval by a human: an `ALLOWED`
receipt whose content hashes to the hash it names, signed by a current key of the approver keyring
that the identity manifest lists for its agent, and bound to the chain and the action that are
expected.  `verifyApprovalReceipt_eq_ok` is everything that acceptance tells; what is built on it
never looks at the checks again.
-/

namespace NoaMandate.Adapter

open Pipeline

/-- What an approval is checked against; an absent expectation is not checked. -/
structure ApprovalOptions where
  approverKeyring : Option Json
  identityManifest : Option Json
  expectedChain : Option String
  expectedAction : Option (JsString × String)

/-- `JSON.stringify` inside a message. -/
def jsonText : Option Json → String
  | none => "undefined"
  | some v => String.ofList (Json.render v)

/-- Is there a non-empty string at the path? -/
def hasText (r : Json) (path : List String) : Bool := (r.strAt? path).any (· ≠ "")

/-- Does the receipt name this action and these arguments? -/
def actsOn (r : Json) (action : JsString × String) : Bool :=
  (r.strAt? ["action", "id"]).any (fun id => js id = action.1) &&
    (r.strAt? ["action", "paramsHash"]).any (· = action.2)

/-- Does the manifest list the key id for the agent? An own member that is not an array lists
none. -/
def manifestLists (manifest : Json) (agentId kid : String) : Bool :=
  match manifest.get? agentId with
  | some (.arr kids) => kids.contains (.str kid)
  | _ => false

/-- Source: `approval-decision.mjs` `verifyApprovalReceipt`. -/
def verifyApprovalReceipt (I : Intrinsics) (receipt : Option Json) (opts : ApprovalOptions) :
    Except String Unit := do
  let keyring ← demand (opts.approverKeyring.filter Json.isObj)
    "no trusted approver keyring supplied — approval cannot be authenticated"
  let r ← demand (receipt.filter fun r => !r.isScalar) "approval receipt is not an object"
  refuse (r.path? ["governance", "verdict"] ≠ some (.str "ALLOWED"))
    ("approval verdict is not ALLOWED (got " ++ jsonText (r.path? ["governance", "verdict"]) ++ ")")
  refuse (!(hasText r ["governance", "approval", "by"] && hasText r ["governance", "approval", "at"]))
    "approval receipt has no human approver (governance.approval.by/at)"
  refuse (!hasText r ["scope", "chain"]) "approval receipt has no scope.chain"
  refuse (opts.expectedChain.any fun chain => Receipt.chainId r ≠ chain)
    ("approval receipt scope.chain " ++ jsonStringify (Receipt.chainId r) ++
      " does not match this session's chain " ++ jsonStringify (opts.expectedChain.getD ""))
  refuse (!hasText r ["agent", "id"]) "approval receipt has no agent.id"
  refuse (!(r.path? ["sig", "alg"] = some (.str "ed25519") && hasText r ["sig", "kid"] &&
    hasText r ["sig", "value"])) "approval receipt has a malformed signature block"
  let hashInput ← demand (receiptHashInput r) "approval receipt is not canonicalizable"
  refuse (r.strAt? ["chain", "hash"] ≠ some (I.sha256Prefixed hashInput))
    "approval receipt hash does not match its content (tampered)"
  let message := I.signingMessage Verify.RECEIPT_SIG_DOMAIN hashInput
  -- the keyring is handed on as its canonical text; a keyring without one throws
  let _ ← demand (canonicalize keyring) "approval-receipt verification failed closed"
  let pub ← (resolveVerificationKey I (Json.norm keyring) (Receipt.kid r) message
      (Receipt.sigValue r)).mapError fun reason =>
    if reason.endsWith "not in keyring" then
      "signing key " ++ jsonStringify (Receipt.kid r) ++ " is not in the trusted approver keyring"
    else reason
  refuse (!I.verifyEd25519 pub message (Receipt.sigValue r))
    ("invalid approver signature (kid " ++ Receipt.kid r ++ ")")
  refuse (opts.identityManifest.any fun m => !m.isObj)
    "identityManifest must be an object (agent.id -> kid[])"
  refuse (opts.identityManifest.any fun m => !manifestLists m (Receipt.agentId r) (Receipt.kid r))
    ("agent " ++ jsonStringify (Receipt.agentId r) ++ " is not authorized for signing key " ++
      jsonStringify (Receipt.kid r) ++ " (identity manifest)")
  refuse (opts.expectedAction.isSome && !(r.get? "action").any fun a => !a.isScalar)
    "approval receipt has no action to bind against the held request"
  refuse (opts.expectedAction.any fun action => !actsOn r action)
    ("approval is for a different action (approved " ++ jsonText (r.path? ["action", "id"]) ++ "/" ++
      jsonText (r.path? ["action", "paramsHash"]) ++ ", held " ++
      ((opts.expectedAction.map fun a => String.ofList (JsString.quote a.1) ++ "/" ++
        jsonStringify a.2).getD "") ++ ")")

/-! ## What acceptance tells -/

/-- The signature of a receipt verifies under a current key of the keyring. -/
def SignedByCurrentKey (I : Intrinsics) (keyring r : Json) (hashInput : List Char) : Prop :=
  ∃ parsed pub, parseVerificationKeyring I "keyring" (Json.norm keyring) = .ok parsed ∧
    parsed.keyring.lookup (Receipt.kid r) = some pub ∧ Receipt.kid r ∉ parsed.retiredKids ∧
    I.verifyEd25519 pub (I.signingMessage Verify.RECEIPT_SIG_DOMAIN hashInput)
      (Receipt.sigValue r) = true

/-- A genuine approval: what a receipt that was accepted is. -/
structure Approved (I : Intrinsics) (opts : ApprovalOptions) (r : Json) : Prop where
  verdict : r.path? ["governance", "verdict"] = some (.str "ALLOWED")
  chain : ∀ chain, opts.expectedChain = some chain → Receipt.chainId r = chain
  signed : ∃ keyring hashInput, opts.approverKeyring = some keyring ∧
    receiptHashInput r = some hashInput ∧
    r.strAt? ["chain", "hash"] = some (I.sha256Prefixed hashInput) ∧
    SignedByCurrentKey I keyring r hashInput
  listed : ∀ manifest, opts.identityManifest = some manifest →
    manifestLists manifest (Receipt.agentId r) (Receipt.kid r) = true
  action : ∀ action, opts.expectedAction = some action → actsOn r action = true

lemma any_eq_false_iff {α : Type} {o : Option α} {p : α → Bool} :
    o.any p = false ↔ ∀ a, o = some a → p a = false := by
  cases o <;> simp

/-- **An accepted receipt is a genuine approval.** -/
theorem verifyApprovalReceipt_eq_ok {I : Intrinsics} {receipt : Option Json} {opts : ApprovalOptions}
    (h : verifyApprovalReceipt I receipt opts = .ok ()) : ∃ r, receipt = some r ∧ Approved I opts r := by
  simp only [verifyApprovalReceipt, ok_iff, Option.filter_eq_some_iff] at h
  obtain ⟨keyring, ⟨hkeyring, -⟩, r, ⟨hr, -⟩, _, hverdict, _, -, _, -, _, hchain, _, -, _, -,
    hashInput, hinput, _, hhash, _, -, pub, hpub, _, hsig, _, -, _, hlisted, _, -, haction⟩ := h
  obtain ⟨parsed, hparsed, hlookup, hcurrent⟩ := resolveVerificationKey_eq_ok hpub
  refine ⟨r, hr, ⟨?_, ?_, ⟨keyring, hashInput, hkeyring, hinput, ?_, ?_⟩, ?_, ?_⟩⟩
  · simpa using hverdict
  · intro chain hexpected
    simpa using any_eq_false_iff.mp hchain chain hexpected
  · simpa using hhash
  · exact ⟨parsed, pub, hparsed, hlookup, hcurrent, by simpa using hsig⟩
  · intro manifest hmanifest
    simpa using any_eq_false_iff.mp hlisted manifest hmanifest
  · intro action hexpected
    simpa using any_eq_false_iff.mp haction action hexpected

end NoaMandate.Adapter
