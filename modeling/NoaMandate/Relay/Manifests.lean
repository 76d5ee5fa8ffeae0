import Mathlib.Data.List.Pairwise
import NoaMandate.Relay.Registry

/-!
# Publishing key manifests

A tenant's agents publish versions of its key manifest.  The store here starts with any content: a
record may have been written before the version bound existed, and then lacks its mark.

* `Publication` — what a publish can do: store a record, confirm the one that is there, or nothing.
* `ManifestsSound` — a stored change raises the version by 1 to 1000, except for one recovery of a
  tenant from a record that the engine did not write; a tenant's record changes only through an agent
  of that tenant; publishes of one version carry one manifest and one delegation.
* `manifests_sound` — this holds of every run of publishes.

The exception for recovery is not needed in the last part.  While a tenant's record is out of reach,
every publish for it that is answered with 200 is the recovery itself, so no version is answered for
before and after it (`Confirmed`).
-/

namespace NoaMandate

namespace Relay

open Pipeline

/-- A call of `putManifest`. -/
structure Publish where
  clock : Nat → Int
  agent : AgentRecord
  input : Json

/-- The relay as its agents publish manifests, over the in-memory store with any content. -/
def publishing (P : RelayPlatform) (init : Store) : Service Store Publish EngineResult where
  init := init
  exec c s := putManifest P c.clock c.agent c.input s
  allowed _ _ := True

/-- What publishes have been served, the latest first. -/
abbrev Published := List (Served Store Publish EngineResult)

/-! ## One publish -/

/-- What a publish that passes the checks asks to store. -/
structure Asks (P : RelayPlatform) (s : Store) (c : Publish) (record : KeyManifestRecord) : Prop where
  manifest : c.input.get? "manifest" = some record.manifest
  tenant : record.tenant = (asString (record.manifest.get? "tenant")).getD "default"
  inScope : c.agent.tenant = some record.tenant
  version : record.manifest.get? "version" = some (.num record.version)
  nonneg : 0 ≤ record.version
  bounded : ∀ cur, s.getLatestManifest record.tenant = some cur → unreachable cur = false →
    record.version ≤ cur.version + MAX_VERSION_JUMP
  opening : (∀ cur, s.getLatestManifest record.tenant = some cur → unreachable cur = true) →
    record.version ≤ MAX_GENESIS_VERSION
  refHash : safeRefHash P record.manifest = some record.refHash
  marked : record.publishedUnderVersionBound = true
  given : ∀ d, c.input.get? "delegation" = some d → d.isObj = true ∧ record.delegation = some d

/-- What a publish does. -/
inductive Publication (P : RelayPlatform) (s : Store) (c : Publish) : EngineResult → Store → Prop
  | stored {record : KeyManifestRecord} {r : EngineResult} (asks : Asks P s c record)
      (advances : ∀ cur, s.getLatestManifest record.tenant = some cur →
        unreachable cur = true ∨ cur.version < record.version) (accepted : r.status = 200) :
      Publication P s c r { s with manifests := s.manifests.set record.tenant record }
  | confirmed {record cur : KeyManifestRecord} {r : EngineResult} (asks : Asks P s c record)
      (current : s.getLatestManifest record.tenant = some cur) (reached : unreachable cur = false)
      (idempotent : classifyManifestPut P (some cur) record = .idempotent)
      (accepted : r.status = 200) : Publication P s c r s
  | refused {r : EngineResult} (refused : 400 ≤ r.status) : Publication P s c r s

variable {P : RelayPlatform} {s s' init : Store} {c : Publish} {past : Published} {version : Int}

lemma manifestVersion_eq_ok {manifest : Json} (h : manifestVersion manifest = .ok version) :
    manifest.get? "version" = some (.num version) ∧ 0 ≤ version := by
  unfold manifestVersion at h
  split at h
  · split at h
    · rename_i hget hrange
      cases h
      exact ⟨hget, hrange.2⟩
    · cases h
  · cases h

variable {tenant : String}

variable {given : Option Json}

lemma checkManifestDelegation_eq_ok {d : Option Json}
    (h : checkManifestDelegation tenant d = .ok given) :
    given = d ∧ ∀ d', d = some d' → d'.isObj = true := by
  cases d with
  | none =>
    cases h
    exact ⟨rfl, nofun⟩
  | some d =>
    simp only [checkManifestDelegation, ok_iff, Bool.or_eq_false_iff] at h
    obtain ⟨-, ⟨hobj, -⟩, named, -, -, -, rfl⟩ := h
    refine ⟨rfl, ?_⟩
    rintro d' ⟨⟩
    simpa using hobj

/-- The bound on the version, against the record that is there. -/
lemma checkVersionBound_eq_ok {cur : Option KeyManifestRecord}
    (h : checkVersionBound cur version = .ok ()) :
    (∀ c, cur = some c → unreachable c = false → version ≤ c.version + MAX_VERSION_JUMP) ∧
      ((∀ c, cur = some c → unreachable c = true) → version ≤ MAX_GENESIS_VERSION) := by
  unfold checkVersionBound at h
  cases hreached : cur.filter (!unreachable ·) with
  | none =>
    rw [hreached, refuse_eq_ok_iff] at h
    refine ⟨?_, fun _ => by simpa using h⟩
    rintro c rfl hc
    simp [hc] at hreached
  | some c =>
    rw [hreached, refuse_eq_ok_iff] at h
    obtain ⟨rfl, hc⟩ := Option.filter_eq_some_iff.mp hreached
    refine ⟨?_, fun hall => ?_⟩
    · rintro c' ⟨⟩ -
      simpa using h
    · rw [hall c rfl] at hc
      cases hc

variable {record cur : KeyManifestRecord}

lemma checkManifest_asks {recovery : Bool}
    (h : checkManifest P (c.clock 0) c.agent c.input s = .ok (record, recovery)) :
    Asks P s c record ∧ recovery = (s.getLatestManifest record.tenant).any unreachable := by
  simp only [checkManifest, ok_iff, Option.filter_eq_some_iff] at h
  obtain ⟨-, -, manifest, ⟨hmanifest, -⟩, -, hscope, version, hversion, hash, hhash, given, hgiven, _,
    hbound, heq⟩ := h
  obtain ⟨rfl, rfl⟩ := Prod.mk.inj heq
  obtain ⟨hnum, hnonneg⟩ := manifestVersion_eq_ok hversion
  obtain ⟨rfl, hobj⟩ := checkManifestDelegation_eq_ok hgiven
  obtain ⟨hbounded, hopening⟩ := checkVersionBound_eq_ok hbound
  refine ⟨⟨hmanifest, rfl, by simpa using hscope, hnum, hnonneg, hbounded, hopening, hhash, rfl, ?_⟩,
    rfl⟩
  intro d hd
  refine ⟨hobj d hd, ?_⟩
  simp only [hd]
  cases s.getLatestManifest ((asString (manifest.get? "tenant")).getD "default") <;> simp

/-- The refusals of a publish are errors. -/
abbrev Refusal (r : EngineResult) : Prop := 400 ≤ r.status

lemma checkManifest_errors {now : Int} {agent : AgentRecord} {input : Json} :
    ErrorsIn Refusal (checkManifest P now agent input s) := by
  unfold checkManifest
  refine .refusing rfl ?_
  refine .demanding rfl fun manifest => ?_
  refine .refusing rfl ?_
  refine .bind ?_ fun version => ?_
  · unfold manifestVersion
    split
    · split
      · exact .ok
      · exact .error (by decide)
    · exact .error (by decide)
  refine .demanding rfl fun hash => ?_
  refine .bind ?_ fun given => ?_
  · unfold checkManifestDelegation
    split
    · exact .ok
    · exact .refusing rfl <|
        .demanding rfl fun _ =>
        .refusing rfl .ok
  refine .bind ?_ fun _ => .ok
  unfold checkVersionBound
  split
  · exact .refuse (show 400 ≤ 422 by decide)
  · exact .refuse (show 400 ≤ 422 by decide)

lemma publish_errors {recovery : Bool} : ErrorsIn Refusal (publish P record recovery s) := by
  have hconflict : ∀ outcome cur, Refusal (conflictResult outcome cur record) := by
    intro outcome cur
    unfold conflictResult
    dsimp only
    split
    · exact show 400 ≤ 409 by decide
    · exact show 400 ≤ 409 by decide
  exact .bind (.refuse (hconflict _ _)) fun _ => .mapError fun _ => hconflict _ _

lemma classifyManifestPut_eq_stored
    (h : classifyManifestPut P (some cur) record = .stored) : cur.version < record.version := by
  unfold classifyManifestPut at h
  dsimp only at h
  split_ifs at h with hgt
  exact hgt

variable {r : EngineResult}

lemma publish_publication (asks : Asks P s c record) (accepted : r.status = 200)
    (h : publish P record ((s.getLatestManifest record.tenant).any unreachable) s = .ok s') :
    Publication P s c r s' := by
  simp only [publish, ok_iff] at h
  obtain ⟨-, -, h⟩ := h
  unfold Store.putManifest at h
  dsimp only at h
  split at h
  · -- a recovery
    rename_i hrecovery
    cases h
    refine .stored asks (fun cur hcur => .inl ?_) accepted
    rw [hcur] at hrecovery
    exact hrecovery
  · rename_i hreached
    split at h
    · rename_i hstored
      cases h
      refine .stored asks (fun cur hcur => .inr ?_) accepted
      rw [show s.manifests.get? record.tenant = some cur from hcur] at hstored
      exact classifyManifestPut_eq_stored hstored
    · rename_i hidempotent
      cases h
      cases hcur : s.getLatestManifest record.tenant with
      | none =>
        rw [show s.manifests.get? record.tenant = none from hcur] at hidempotent
        cases hidempotent
      | some cur =>
        rw [show s.manifests.get? record.tenant = some cur from hcur] at hidempotent
        rw [hcur] at hreached
        exact .confirmed asks hcur (by simpa using hreached) hidempotent accepted
    · cases h

/-- What a publish does to the store, and what it answers. -/
lemma putManifest_publication (P : RelayPlatform) (c : Publish) (s : Store) :
    Publication P s c (putManifest P c.clock c.agent c.input s).1
      (putManifest P c.clock c.agent c.input s).2 := by
  unfold putManifest
  rcases answered_cases s _ with ⟨r, hr, heq⟩ | ⟨y, hy, heq⟩
  · rw [heq]
    exact .refused (ErrorsIn.bind checkManifest_errors
      (fun _ => .bind publish_errors fun _ => .ok) r hr)
  · rw [heq]
    simp only [ok_iff] at hy
    obtain ⟨⟨record, recovery⟩, hchecked, written, hwritten, rfl⟩ := hy
    obtain ⟨hasks, rfl⟩ := checkManifest_asks hchecked
    exact publish_publication hasks rfl hwritten

/-! ## Publishes over time -/

/-- The publish replaced a record of the tenant that the engine had not written, with a version out of
reach, by one at the scale of a first version. -/
structure Recovery (init : Store) (e : Served Store Publish EngineResult) (tenant : String) : Prop where
  from_initial : ∃ old, e.before.getLatestManifest tenant = some old ∧
    init.getLatestManifest tenant = some old ∧ old.publishedUnderVersionBound = false ∧
    MAX_SANE_VERSION < old.version
  to_genesis : ∃ new, e.after.getLatestManifest tenant = some new ∧ 0 ≤ new.version ∧
    new.version ≤ MAX_GENESIS_VERSION ∧ new.publishedUnderVersionBound = true

/-- The publish was answered with 200, for the tenant, the version and the manifest. -/
structure Accepted (e : Served Store Publish EngineResult) (tenant : String) (version : Int)
    (manifest : Json) : Prop where
  answer : e.answer.status = 200
  manifest_eq : e.call.input.get? "manifest" = some manifest
  tenant_eq : (asString (manifest.get? "tenant")).getD "default" = tenant
  version_eq : manifest.get? "version" = some (.num version)

/-- What holds of the publishes of a run. -/
structure ManifestsSound (init : Store) (past : Published) : Prop where
  advance : ∀ e ∈ past, ∀ tenant old, e.before.getLatestManifest tenant = some old →
    ∃ new, e.after.getLatestManifest tenant = some new ∧
      (new = old ∨ (old.version + 1 ≤ new.version ∧ new.version ≤ old.version + 1000) ∨
        Recovery init e tenant)
  once : past.Pairwise fun later earlier =>
    ∀ tenant, ¬(Recovery init later tenant ∧ Recovery init earlier tenant)
  inScope : ∀ e ∈ past, ∀ tenant,
    e.after.getLatestManifest tenant ≠ e.before.getLatestManifest tenant →
    e.call.agent.tenant = some tenant
  agree : ∀ e ∈ past, ∀ e' ∈ past, ∀ tenant version manifest manifest',
    Accepted e tenant version manifest → Accepted e' tenant version manifest' →
    manifest.Eqv manifest' ∧ ∀ d d', e.call.input.get? "delegation" = some d →
      e'.call.input.get? "delegation" = some d' → d.Eqv d'

lemma getLatestManifest_set (record : KeyManifestRecord) (tenant : String) :
    ({ s with manifests := s.manifests.set record.tenant record } : Store).getLatestManifest tenant =
      if tenant = record.tenant then some record else s.getLatestManifest tenant :=
  Table.get?_set _ _ _ _

/-- A record that is not marked is the one the run started with. -/
def Provenance (init s : Store) : Prop :=
  ∀ tenant record, s.getLatestManifest tenant = some record →
    record.publishedUnderVersionBound = true ∨ init.getLatestManifest tenant = some record

lemma Publication.provenance (h : Publication P s c r s')
    (hs : Provenance init s) : Provenance init s' := by
  cases h with
  | stored asks =>
    intro tenant record hrecord
    rw [getLatestManifest_set] at hrecord
    split at hrecord
    · cases hrecord
      exact .inl asks.marked
    · exact hs tenant record hrecord
  | confirmed => exact hs
  | refused => exact hs

lemma run_provenance (hrun : (publishing P init).Run past) :
    Provenance init ((publishing P init).state past) :=
  hrun.invariant (fun _ _ h => .inr h) fun past c _ _ hs =>
    (putManifest_publication P c ((publishing P init).state past)).provenance hs

variable {e : Served Store Publish EngineResult}

/-- What was published in a run. -/
lemma run_published (hrun : (publishing P init).Run past) (he : e ∈ past) :
    Provenance init e.before ∧ Publication P e.before e.call e.answer e.after := by
  obtain ⟨later, earlier, -, hearlier, -, heq⟩ := hrun.of_mem he
  rw [heq]
  exact ⟨run_provenance hearlier, putManifest_publication P e.call _⟩

/-! ### Versions -/

lemma unreachable_eq_true :
    unreachable cur = true ↔ MAX_SANE_VERSION < cur.version ∧ cur.publishedUnderVersionBound = false := by
  simp [unreachable]

lemma Asks.reachable (h : Asks P s c record) : unreachable record = false := by
  simp [unreachable, h.marked]

lemma Publication.advance
    (h : Publication P e.before e.call e.answer e.after) (hs : Provenance init e.before) {old : KeyManifestRecord} (hold : e.before.getLatestManifest tenant = some old) :
    ∃ new, e.after.getLatestManifest tenant = some new ∧
      (new = old ∨ (old.version + 1 ≤ new.version ∧ new.version ≤ old.version + 1000) ∨
        Recovery init e tenant) := by
  generalize hafter : e.after = after at h
  cases h with
  | @stored record _ asks advances =>
    have hget := getLatestManifest_set record tenant (s := e.before)
    rw [hget]
    by_cases htenant : tenant = record.tenant
    · subst htenant
      rw [if_pos rfl] at hget ⊢
      refine ⟨record, rfl, .inr ?_⟩
      cases hreached : unreachable old with
      | false =>
        have hbound := asks.bounded old hold hreached
        rcases advances old hold with hun | hlt
        · rw [hreached] at hun
          cases hun
        · exact .inl ⟨by omega, hbound⟩
      | true =>
        obtain ⟨hhigh, hunmarked⟩ := unreachable_eq_true.mp hreached
        refine .inr ⟨⟨old, hold, ?_, hunmarked, hhigh⟩, record, ?_, asks.nonneg, ?_, asks.marked⟩
        · rcases hs _ old hold with hmarked | hinit
          · rw [hunmarked] at hmarked
            cases hmarked
          · exact hinit
        · rw [hafter, hget]
        · refine asks.opening fun cur hcur => ?_
          cases hold.symm.trans hcur
          exact hreached
    · rw [if_neg htenant]
      exact ⟨old, hold, .inl rfl⟩
  | confirmed => exact ⟨old, hold, .inl rfl⟩
  | refused => exact ⟨old, hold, .inl rfl⟩

/-- The tenant's record was written under the version bound. -/
def Marked (s : Store) (tenant : String) : Prop :=
  ∃ record, s.getLatestManifest tenant = some record ∧ record.publishedUnderVersionBound = true

lemma Publication.marked (h : Publication P s c r s')
    (hs : Marked s tenant) : Marked s' tenant := by
  cases h with
  | @stored record _ asks =>
    unfold Marked
    rw [getLatestManifest_set]
    split
    · exact ⟨record, rfl, asks.marked⟩
    · exact hs
  | confirmed => exact hs
  | refused => exact hs

/-! ### One version, one manifest -/

/-- The record of the tenant has gone past the version, or is what was published at it. -/
def Confirmed (s : Store) (tenant : String) (version : Int) (manifest : Json) (given : Option Json) :
    Prop :=
  ∃ cur, s.getLatestManifest tenant = some cur ∧ unreachable cur = false ∧ version ≤ cur.version ∧
    (version = cur.version → manifest.Eqv cur.manifest ∧
      ∀ d, given = some d → ∃ d', cur.delegation = some d' ∧ d.Eqv d')

lemma Publication.confirmed_kept (h : Publication P s c r s') {manifest : Json}
    (hs : Confirmed s tenant version manifest given) : Confirmed s' tenant version manifest given := by
  cases h with
  | @stored record _ asks advances =>
    obtain ⟨cur, hcur, hreached, hle, hsame⟩ := hs
    unfold Confirmed
    rw [getLatestManifest_set]
    split
    · rename_i htenant
      subst htenant
      rcases advances cur hcur with hun | hlt
      · rw [hreached] at hun
        cases hun
      · exact ⟨record, rfl, asks.reachable, by omega, fun heq => by omega⟩
    · exact ⟨cur, hcur, hreached, hle, hsame⟩
  | confirmed => exact hs
  | refused => exact hs

lemma present?_eq_some {o : Option Json} {d : Json} (h : Artifact.present? o = some d) : o = some d := by
  unfold Artifact.present? at h
  split at h
  · cases h
  · exact h

lemma optionalCanonicalValueEqual_eq_true (hinj : Function.Injective P.sha256Hex) {a b : Option Json}
    (h : optionalCanonicalValueEqual P a b = true) {d : Json} (hd : Artifact.present? b = some d) :
    ∃ d', a = some d' ∧ d.Eqv d' := by
  unfold optionalCanonicalValueEqual at h
  rw [hd] at h
  cases ha : Artifact.present? a with
  | none =>
    rw [ha] at h
    cases h
  | some d' =>
    refine ⟨d', present?_eq_some ha, ?_⟩
    rw [ha] at h
    dsimp only at h
    split at h
    · rename_i x y hx hy
      obtain rfl : x = y := by simpa using h
      exact eqv_of_refHash_eq hinj hy hx
    · cases h

/-- A publish that confirms a record carries its version, its manifest and its delegation. -/
lemma classifyManifestPut_eq_idempotent (hinj : Function.Injective P.sha256Hex) (h : classifyManifestPut P (some cur) record = .idempotent) :
    record.version = cur.version ∧ record.manifest.Eqv cur.manifest ∧
      ∀ d, Artifact.present? record.delegation = some d →
        ∃ d', cur.delegation = some d' ∧ d.Eqv d' := by
  unfold classifyManifestPut at h
  dsimp only at h
  split_ifs at h with hgt hlt hsame
  obtain ⟨hmanifest, hdelegation⟩ := (Bool.and_eq_true _ _).mp hsame
  refine ⟨by omega, ?_, fun d hd => optionalCanonicalValueEqual_eq_true hinj hdelegation hd⟩
  split at hmanifest
  · rename_i x y hx hy
    simp only [test_iff] at hmanifest
    obtain ⟨-, rfl⟩ := hmanifest
    exact eqv_of_refHash_eq hinj hy hx
  · cases hmanifest

lemma Asks.present (h : Asks P s c record) {d : Json}
    (hd : c.input.get? "delegation" = some d) : Artifact.present? record.delegation = some d := by
  obtain ⟨hobj, heq⟩ := h.given d hd
  rw [heq]
  cases d with
  | obj ms => rfl
  | _ => cases hobj

/-- What was accepted and what was asked are of one tenant, version and manifest. -/
lemma Accepted.asks {manifest : Json} (h : Accepted e tenant version manifest)
    (hasks : Asks P s e.call record) :
    record.tenant = tenant ∧ record.version = version ∧ record.manifest = manifest := by
  obtain rfl := Option.mem_unique hasks.manifest h.manifest_eq
  refine ⟨hasks.tenant.trans h.tenant_eq, ?_, rfl⟩
  have hversion := hasks.version.symm.trans h.version_eq
  simpa using hversion

/-- An accepted publish is confirmed by the record it leaves. -/
lemma Publication.confirmed_of_accepted (hinj : Function.Injective P.sha256Hex) (h : Publication P e.before e.call e.answer e.after) {manifest : Json}
    (haccepted : Accepted e tenant version manifest) :
    Confirmed e.after tenant version manifest (e.call.input.get? "delegation") := by
  generalize hafter : e.after = after at h
  cases h with
  | @stored record _ asks advances =>
    obtain ⟨rfl, rfl, rfl⟩ := haccepted.asks asks
    unfold Confirmed
    rw [getLatestManifest_set, if_pos rfl]
    exact ⟨record, rfl, asks.reachable, le_rfl, fun _ => ⟨Json.Eqv.refl _, fun d hd =>
      ⟨d, (asks.given d hd).2, Json.Eqv.refl d⟩⟩⟩
  | @confirmed record cur _ asks current reached idempotent =>
    obtain ⟨rfl, rfl, rfl⟩ := haccepted.asks asks
    obtain ⟨hversion, hmanifest, hdelegation⟩ := classifyManifestPut_eq_idempotent hinj idempotent
    exact ⟨cur, current, reached, hversion.le, fun _ => ⟨hmanifest, fun d hd =>
      hdelegation d (asks.present hd)⟩⟩
  | refused hrefused =>
    rw [haccepted.answer] at hrefused
    exact absurd hrefused (by decide)

/-- Accepted publishes of one tenant and version carry one manifest and one delegation. -/
def PublishesAgree (e e' : Served Store Publish EngineResult) : Prop :=
  ∀ tenant version manifest manifest',
    Accepted e tenant version manifest → Accepted e' tenant version manifest' →
    manifest.Eqv manifest' ∧ ∀ d d', e.call.input.get? "delegation" = some d →
      e'.call.input.get? "delegation" = some d' → d.Eqv d'

instance : Std.Symm PublishesAgree := by
  refine ⟨fun e e' h tenant version manifest manifest' haccepted haccepted' => ?_⟩
  obtain ⟨hmanifest, hdelegation⟩ := h tenant version manifest' manifest haccepted' haccepted
  exact ⟨hmanifest.symm, fun d d' hd hd' => (hdelegation d' d hd' hd).symm⟩

lemma publishesAgree_refl (e : Served Store Publish EngineResult) : PublishesAgree e e := by
  intro tenant version manifest manifest' haccepted haccepted'
  cases haccepted.manifest_eq.symm.trans haccepted'.manifest_eq
  refine ⟨Json.Eqv.refl _, fun d d' hd hd' => ?_⟩
  cases hd.symm.trans hd'
  exact Json.Eqv.refl _

/-- A publish agrees with what is confirmed by the record it finds. -/
lemma Publication.agrees (hinj : Function.Injective P.sha256Hex) (h : Publication P e.before e.call e.answer e.after) {manifest manifest' : Json}
    (haccepted : Accepted e tenant version manifest)
    (hconfirmed : Confirmed e.before tenant version manifest' given) :
    manifest.Eqv manifest' ∧ ∀ d d', e.call.input.get? "delegation" = some d → given = some d' →
      d.Eqv d' := by
  generalize hafter : e.after = after at h
  obtain ⟨cur, hcur, hreached, hle, hsame⟩ := hconfirmed
  cases h with
  | @stored record _ asks advances =>
    -- the version is taken, so nothing is stored under it
    obtain ⟨rfl, rfl, rfl⟩ := haccepted.asks asks
    rcases advances cur hcur with hun | hlt
    · rw [hreached] at hun
      cases hun
    · exact absurd hlt (not_lt.mpr hle)
  | @confirmed record cur' _ asks current reached idempotent =>
    obtain ⟨rfl, rfl, rfl⟩ := haccepted.asks asks
    cases hcur.symm.trans current
    obtain ⟨hversion, hmanifest, hdelegation⟩ := classifyManifestPut_eq_idempotent hinj idempotent
    obtain ⟨hmanifest', hdelegation'⟩ := hsame hversion
    refine ⟨hmanifest.trans hmanifest'.symm, fun d d' hd hd' => ?_⟩
    obtain ⟨g, hg, hdg⟩ := hdelegation d (asks.present hd)
    obtain ⟨g', hg', hdg'⟩ := hdelegation' d' hd'
    cases hg.symm.trans hg'
    exact hdg.trans hdg'.symm
  | refused hrefused =>
    rw [haccepted.answer] at hrefused
    exact absurd hrefused (by decide)

/-- Every run of publishes, whatever the store started with, advances each tenant's version in bounded
steps, with at most one recovery, through agents of the tenant, and never answers for two manifests or
delegations of one version. -/
theorem manifests_sound (P : RelayPlatform) (hinj : Function.Injective P.sha256Hex) (init : Store)
    (past : Published) (hrun : (publishing P init).Run past) : ManifestsSound init past where
  advance e he tenant old hold := by
    obtain ⟨hprovenance, hpublication⟩ := run_published hrun he
    exact hpublication.advance hprovenance hold
  once := by
    refine hrun.pairwise fun past c run _ e he tenant => ?_
    rintro ⟨⟨⟨old, hold, -, hunmarked, -⟩, -⟩, -, new, hnew, -, -, hmarked⟩
    -- what the earlier recovery wrote is marked, and stays so
    obtain ⟨record, hrecord, hmarked⟩ : Marked ((publishing P init).state past) tenant :=
      run.persists (I := fun s => Marked s tenant)
        (fun _ c' _ _ h => (putManifest_publication P c' _).marked h) he
        ⟨new, hnew, hmarked⟩
    cases hold.symm.trans hrecord
    rw [hunmarked] at hmarked
    cases hmarked
  inScope e he tenant hchanged := by
    obtain ⟨-, hpublication⟩ := run_published hrun he
    generalize hafter : e.after = after at hpublication hchanged
    cases hpublication with
    | @stored record _ asks =>
      rw [getLatestManifest_set] at hchanged
      split at hchanged
      · rename_i htenant
        rw [htenant]
        exact asks.inScope
      · exact absurd rfl hchanged
    | confirmed => exact absurd rfl hchanged
    | refused => exact absurd rfl hchanged
  agree e he e' he' := by
    have hpairwise : past.Pairwise PublishesAgree := by
      refine hrun.pairwise fun past c run _ e he tenant version manifest manifest' h h' => ?_
      have hconfirmed : Confirmed ((publishing P init).state past) tenant version manifest'
          (e.call.input.get? "delegation") :=
        run.persists
          (I := fun s => Confirmed s tenant version manifest' (e.call.input.get? "delegation"))
          (fun _ c' _ _ h => (putManifest_publication P c' _).confirmed_kept h) he
          ((run_published run he).2.confirmed_of_accepted hinj h')
      have hpublication : Publication P ((publishing P init).state past) c
        ((publishing P init).serve past c).answer ((publishing P init).serve past c).after :=
        putManifest_publication P c _
      exact hpublication.agrees hinj h hconfirmed
    exact hpairwise.forall_of_forall (fun x _ => publishesAgree_refl x) he he'

/-! ## A sample run -/

namespace SampleRelay

def manifest (version : Int) : Json :=
  .obj [("spec", .str "noa.key-manifest/0.1"), ("tenant", .str "acme"), ("version", .num version)]

/-- A record from before the version bound, at a version out of reach. -/
def stuck : KeyManifestRecord where
  tenant := "acme"
  version := 9007199254740991
  manifest := manifest 9007199254740991
  delegation := none
  refHash := ""
  createdAt := 0
  publishedUnderVersionBound := false

def stuckStore : Store := { manifests := Table.empty.set "acme" stuck }

def publishOf (version : Int) : Publish := ⟨fun _ => 0, agent, .obj [("manifest", manifest version)]⟩

/-- The tenant recovers at version 1, repeats it, and goes on to version 3. -/
abbrev recovered : Published :=
  (publishing platform stuckStore).play [publishOf 3, publishOf 1, publishOf 1]

/-- The versions along the run, the latest first. -/
def versions (past : Published) : List (Option Int) :=
  past.map fun e => (e.after.getLatestManifest "acme").map (·.version)

end SampleRelay

theorem manifests_sound_recovered :
    SampleRelay.versions SampleRelay.recovered = [some 3, some 1, some 1] ∧
      ManifestsSound SampleRelay.stuckStore SampleRelay.recovered :=
  ⟨by decide, manifests_sound SampleRelay.platform SampleRelay.platform_injective
    SampleRelay.stuckStore _ (Service.run_play ⟨trivial, trivial, trivial, trivial⟩)⟩

end Relay

end NoaMandate
