import NoaMandate.Lib.Pipeline

/-!
# Checks that keep a record

A program that refuses at the first failed check, and that reports what it saw on the way, is a
chain of `Check` steps: a step refuses or gives a value, and leaves a record either way.  A step
that does not touch the record is an `Except` step, lifted.

A run that passes is read by the `_eq_ok_iff` lemmas, as in `Pipeline`.  What a run may stop with is
read by `Within`, together with a property of the record that every step keeps; a bind rule lets the
later steps know that the earlier ones passed.
-/

/-- A computation that refuses or gives a value, and leaves a record either way. -/
def Check (σ ε α : Type) : Type := σ → Except ε α × σ

namespace Check

open Pipeline

variable {σ ε α β : Type}

instance : Monad (Check σ ε) where
  pure a := fun s => (.ok a, s)
  bind x f := fun s =>
    match x s with
    | (.ok a, s') => f a s'
    | (.error e, s') => (.error e, s')

instance : MonadLift (Except ε) (Check σ ε) := ⟨fun x s => (x, s)⟩

/-- Change the record. -/
def note (f : σ → σ) : Check σ ε Unit := fun s => (.ok (), f s)

/-- Read the record. -/
def record : Check σ ε σ := fun s => (.ok s, s)

/-- Run a check and go on with its result, refused or not. -/
def attempt (x : Check σ ε α) : Check σ ε (Except ε α) := fun s => (.ok (x s).1, (x s).2)

/-! ## A run that passes -/

variable {x : Check σ ε α} {s s' : σ}

@[simp] lemma bind_eq_ok_iff {f : α → Check σ ε β} {b : β} :
    (x >>= f) s = (.ok b, s') ↔ ∃ a s1, x s = (.ok a, s1) ∧ f a s1 = (.ok b, s') := by
  simp only [bind]
  rcases x s with ⟨_ | a, s1⟩ <;> simp [and_assoc]

@[simp] lemma pure_eq_ok_iff {a b : α} :
    (pure a : Check σ ε α) s = (.ok b, s') ↔ a = b ∧ s = s' := by
  simp [pure]

@[simp] lemma lift_eq_ok_iff {y : Except ε α} {a : α} :
    (liftM y : Check σ ε α) s = (.ok a, s') ↔ y = .ok a ∧ s = s' := by
  simp [liftM, monadLift, MonadLift.monadLift]

@[simp] lemma note_eq_ok_iff {f : σ → σ} {u : Unit} :
    (note f : Check σ ε Unit) s = (.ok u, s') ↔ f s = s' := by
  simp [note]

@[simp] lemma record_eq_ok_iff {r : σ} :
    (record : Check σ ε σ) s = (.ok r, s') ↔ s = r ∧ s = s' := by
  simp [record]

@[simp] lemma attempt_eq_ok_iff {r : Except ε α} : (attempt x) s = (.ok r, s') ↔ x s = (r, s') := by
  simp [attempt, Prod.ext_iff]

/-- All steps of a check at once. -/
lemma ok_iff :
    (∀ {σ ε α β : Type} {x : Check σ ε α} {f : α → Check σ ε β} {s s' : σ} {b : β},
      (x >>= f) s = (.ok b, s') ↔ ∃ a s1, x s = (.ok a, s1) ∧ f a s1 = (.ok b, s')) ∧
    (∀ {σ ε α : Type} {s s' : σ} {a b : α},
      (pure a : Check σ ε α) s = (.ok b, s') ↔ a = b ∧ s = s') ∧
    (∀ {σ ε α : Type} {s s' : σ} {y : Except ε α} {a : α},
      (liftM y : Check σ ε α) s = (.ok a, s') ↔ y = .ok a ∧ s = s') ∧
    ∀ {σ ε : Type} {s s' : σ} {f : σ → σ} {u : Unit},
      (note f : Check σ ε Unit) s = (.ok u, s') ↔ f s = s' :=
  ⟨bind_eq_ok_iff, pure_eq_ok_iff, lift_eq_ok_iff, note_eq_ok_iff⟩

/-! ## A run that stops -/

variable {e : ε}

@[simp] lemma bind_eq_error_iff {f : α → Check σ ε β} : (x >>= f) s = (.error e, s') ↔
    x s = (.error e, s') ∨ ∃ a s1, x s = (.ok a, s1) ∧ f a s1 = (.error e, s') := by
  simp only [bind]
  rcases x s with ⟨_ | a, s1⟩ <;> simp [and_assoc]

@[simp] lemma lift_eq_error_iff {y : Except ε α} :
    (liftM y : Check σ ε α) s = (.error e, s') ↔ y = .error e ∧ s = s' := by
  simp [liftM, monadLift, MonadLift.monadLift]

@[simp] lemma pure_ne_error {a : α} : (pure a : Check σ ε α) s ≠ (.error e, s') := by
  simp [pure]

@[simp] lemma record_ne_error : (record : Check σ ε σ) s ≠ (.error e, s') := by
  simp [record]

@[simp] lemma attempt_ne_error : (attempt x) s ≠ (.error e, s') := by
  simp [attempt]

/-! ## What a passing run leaves -/

/-- A run that passes leaves a record that satisfies `R`; with `R` false, no run passes. -/
def Leaves (R : σ → Prop) (x : Check σ ε α) : Prop := ∀ s a s', x s = (.ok a, s') → R s'

section

variable {R : σ → Prop}

lemma Leaves.error : Leaves R (liftM (.error e : Except ε α) : Check σ ε α) := by
  intro s a s' h
  simp at h

/-- The last check of a chain is the one that counts. -/
lemma Leaves.bind {f : α → Check σ ε β} (hf : ∀ a, Leaves R (f a)) : Leaves R (x >>= f) := by
  intro s b s' h
  obtain ⟨a, s1, -, hrest⟩ := bind_eq_ok_iff.mp h
  exact hf a s1 b s' hrest

lemma Leaves.ite {c : Prop} [Decidable c] {y : Check σ ε α} (hx : Leaves R x) (hy : Leaves R y) :
    Leaves R (if c then x else y) := by
  split
  · exact hx
  · exact hy

end

/-! ## What a run may stop with -/

/-- From a record that satisfies `R` the check leaves one that does, and whatever it stops with
satisfies `Q`. -/
def Within (R : σ → Prop) (Q : ε → Prop) (x : Check σ ε α) : Prop :=
  ∀ s, R s → R (x s).2 ∧ ∀ e, (x s).1 = .error e → Q e

variable {R : σ → Prop} {Q : ε → Prop}

lemma Within.lift {y : Except ε α} (h : ErrorsIn Q y) : Within R Q (liftM y : Check σ ε α) :=
  fun _ hs => ⟨hs, h⟩

lemma Within.pure {a : α} : Within R Q (Pure.pure a : Check σ ε α) :=
  fun _ hs => ⟨hs, fun _ h => by cases h⟩

lemma Within.note {f : σ → σ} (h : ∀ s, R s → R (f s)) :
    Within R Q (Check.note f : Check σ ε Unit) :=
  fun s hs => ⟨h s hs, fun _ h => by cases h⟩

lemma Within.record : Within R Q (Check.record : Check σ ε σ) :=
  fun _ hs => ⟨hs, fun _ h => by cases h⟩

variable {f : α → Check σ ε β}

/-- The steps after a check may use that it passed. -/
lemma Within.bind_of_ok (hx : Within R Q x)
    (hf : ∀ s a s', x s = (.ok a, s') → Within R Q (f a)) : Within R Q (x >>= f) := by
  intro s hs
  obtain ⟨hrecord, hstop⟩ := hx s hs
  simp only [Bind.bind]
  rcases hxs : x s with ⟨e | a, s'⟩
  · rw [hxs] at hrecord hstop
    exact ⟨hrecord, fun e' he => hstop e' (by cases he; rfl)⟩
  · rw [hxs] at hrecord
    exact hf s a s' hxs s' hrecord

lemma Within.bind (hx : Within R Q x) (hf : ∀ a, Within R Q (f a)) :
    Within R Q (x >>= f) :=
  hx.bind_of_ok fun _ a _ _ => hf a

lemma Within.refusing {bad : Bool} {f : Unit → Check σ ε β} (h : Q e) (hf : Within R Q (f ())) :
    Within R Q ((liftM (refuse bad e) : Check σ ε Unit) >>= f) :=
  .bind (.lift (.refuse h)) fun _ => hf

lemma Within.demanding {o : Option α} (h : Q e) (hf : ∀ a, Within R Q (f a)) :
    Within R Q ((liftM (demand o e) : Check σ ε α) >>= f) :=
  .bind (.lift (.demand h)) hf

lemma Within.ite {c : Prop} [Decidable c] {y : Check σ ε α} (hx : Within R Q x)
    (hy : Within R Q y) : Within R Q (if c then x else y) := by
  split
  · exact hx
  · exact hy

lemma Within.error (hx : Within R Q x) (hs : R s) (h : x s = (.error e, s')) : Q e ∧ R s' := by
  obtain ⟨hrecord, hstop⟩ := hx s hs
  rw [h] at hrecord hstop
  exact ⟨hstop e rfl, hrecord⟩

lemma Within.mono {Q' : ε → Prop} (hx : Within R Q x) (h : ∀ e, Q e → Q' e) : Within R Q' x :=
  fun s hs => ⟨(hx s hs).1, fun e he => h e ((hx s hs).2 e he)⟩

/-- As `Within`, with nothing said of the record a refusal leaves. -/
def StopsIn (R : σ → Prop) (Q : ε → Prop) (x : Check σ ε α) : Prop :=
  ∀ s, R s → (∀ e s', x s = (.error e, s') → Q e) ∧ ∀ a s', x s = (.ok a, s') → R s'

lemma Within.stopsIn (hx : Within R Q x) : StopsIn R Q x := by
  refine fun s hs => ⟨fun e s' h => (hx.error hs h).1, fun a s' h => ?_⟩
  have hrecord := (hx s hs).1
  rwa [h] at hrecord

lemma StopsIn.bind_of_ok (hx : StopsIn R Q x)
    (hf : ∀ s a s', x s = (.ok a, s') → StopsIn R Q (f a)) : StopsIn R Q (x >>= f) := by
  refine fun s hs => ⟨fun e s' h => ?_, fun b s' h => ?_⟩
  · rcases bind_eq_error_iff.mp h with h | ⟨a, s1, ha, h⟩
    · exact (hx s hs).1 e s' h
    · exact (hf s a s1 ha s1 ((hx s hs).2 a s1 ha)).1 e s' h
  · obtain ⟨a, s1, ha, h⟩ := bind_eq_ok_iff.mp h
    exact (hf s a s1 ha s1 ((hx s hs).2 a s1 ha)).2 b s' h

lemma StopsIn.bind (hx : StopsIn R Q x) (hf : ∀ a, StopsIn R Q (f a)) :
    StopsIn R Q (x >>= f) :=
  hx.bind_of_ok fun _ a _ _ => hf a

end Check
