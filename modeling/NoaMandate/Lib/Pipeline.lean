import Mathlib.Tactic.Lemma

/-!
# Pipelines of checks

A program that refuses at the first failed check is a chain of `Except` steps.  Two steps cover
every check: `refuse` stops when a condition holds and `demand` stops when a value is missing.  The
`_eq_ok_iff` lemmas read a successful run of such a chain as the conjunction of its checks, so a
proof about a long pipeline peels it with `obtain` instead of splitting it.

`Related` compares two runs: both stop with one error, or both succeed with related values.
-/

namespace Pipeline

variable {ε α β : Type}

/-- Stop with `e` when `bad` holds. -/
def refuse (bad : Bool) (e : ε) : Except ε Unit := if bad then .error e else .ok ()

/-- Stop with `e` when there is no value. -/
def demand (o : Option α) (e : ε) : Except ε α :=
  match o with
  | some a => .ok a
  | none => .error e

/-! ## Running a check -/

variable {f : α → Except ε β}

lemma ok_bind {a : α} : (Except.ok a >>= f) = f a := rfl

lemma error_bind {e : ε} : (Except.error e >>= f) = Except.error e := rfl

lemma mapError_ok {ε' : Type} {a : α} {f : ε → ε'} :
    (Except.ok a : Except ε α).mapError f = .ok a := rfl

lemma mapError_bind {ε' : Type} {x : Except ε α} {g : ε → ε'} :
    (x >>= f).mapError g = x.mapError g >>= fun a => (f a).mapError g := by
  cases x <;> rfl

lemma refuse_false {e : ε} : refuse false e = Except.ok () := rfl

/-! ## A successful run -/

variable {x : Except ε α}

@[simp] lemma bind_eq_ok_iff {b : β} : (x >>= f) = .ok b ↔ ∃ a, x = .ok a ∧ f a = .ok b := by
  cases x <;> simp [bind, Except.bind]

@[simp] lemma map_eq_ok_iff {f : α → β} {b : β} : x.map f = .ok b ↔ ∃ a, x = .ok a ∧ f a = b := by
  cases x <;> simp [Except.map]

lemma map_bind {γ : Type} {g : β → γ} : (x >>= f).map g = x >>= fun a => (f a).map g := by
  cases x <;> rfl

@[simp] lemma mapError_eq_ok_iff {ε' : Type} {f : ε → ε'} {a : α} :
    x.mapError f = .ok a ↔ x = .ok a := by
  cases x with
  | error e => exact ⟨fun h => (by cases h), fun h => (by cases h)⟩
  | ok b => simp [mapError_ok]

@[simp] lemma pure_eq_ok_iff {a b : α} : (pure a : Except ε α) = .ok b ↔ a = b := by
  simp [pure, Except.pure]

@[simp] lemma refuse_eq_ok_iff {bad : Bool} {e : ε} {u : Unit} :
    refuse bad e = .ok u ↔ bad = false := by
  cases bad <;> simp [refuse]

@[simp] lemma demand_eq_ok_iff {o : Option α} {e : ε} {a : α} :
    demand o e = .ok a ↔ o = some a := by
  cases o <;> simp [demand]

/-- All steps of a pipeline at once. -/
lemma ok_iff :
    (∀ {ε α β : Type} {x : Except ε α} {f : α → Except ε β} {b : β},
      (x >>= f) = .ok b ↔ ∃ a, x = .ok a ∧ f a = .ok b) ∧
    (∀ {ε α : Type} {a b : α}, (pure a : Except ε α) = .ok b ↔ a = b) ∧
    (∀ {ε : Type} {bad : Bool} {e : ε} {u : Unit}, refuse bad e = .ok u ↔ bad = false) ∧
    (∀ {ε α : Type} {o : Option α} {e : ε} {a : α}, demand o e = .ok a ↔ o = some a) ∧
    ∀ {ε ε' α : Type} {x : Except ε α} {f : ε → ε'} {a : α}, x.mapError f = .ok a ↔ x = .ok a :=
  ⟨bind_eq_ok_iff, pure_eq_ok_iff, refuse_eq_ok_iff, demand_eq_ok_iff, mapError_eq_ok_iff⟩

/-- What each single check establishes, the check of a list establishes of every element. -/
lemma forall_of_checks {check : List α → Except ε Unit} {Q : α → Prop} {u : Unit}
    (hcons : ∀ a as, check (a :: as) = .ok u → Q a ∧ check as = .ok u) (as : List α)
    (h : check as = .ok u) : ∀ a ∈ as, Q a := by
  induction as with
  | nil => exact fun a ha => absurd ha List.not_mem_nil
  | cons a as ih =>
    obtain ⟨ha, has⟩ := hcons a as h
    exact List.forall_mem_cons.mpr ⟨ha, ih has⟩

lemma ok_unique {ε α : Type} {x : Except ε α} {a b : α} (h : x = .ok a) (h' : x = .ok b) : a = b :=
  Except.ok.inj (h.symm.trans h')

/-- The tests of a program, read as propositions. -/
lemma test_iff :
    (∀ {a b : Bool}, (a && b) = true ↔ a = true ∧ b = true) ∧
    (∀ {a b : Bool}, (a || b) = true ↔ a = true ∨ b = true) ∧
    (∀ {a b : Bool}, (a || b) = false ↔ a = false ∧ b = false) ∧
    (∀ {a : Bool}, (!a) = true ↔ a = false) ∧ (∀ {a : Bool}, (!a) = false ↔ a = true) ∧
    (∀ {p : Prop} [Decidable p], decide p = true ↔ p) ∧
    (∀ {p : Prop} [Decidable p], decide p = false ↔ ¬ p) ∧ (∀ {p : Prop}, ¬ ¬ p ↔ p) ∧
    ∀ {α : Type} {a b : α}, a ≠ b ↔ ¬ a = b := by
  simp

/-- Membership in a list that is written out. -/
lemma mem_iff : (∀ {α : Type} {a b : α} {l : List α}, a ∈ b :: l ↔ a = b ∨ a ∈ l) ∧
    (∀ {α : Type} {a : α}, a ∉ ([] : List α)) ∧ (∀ {p : Prop}, p ∨ False ↔ p) ∧
    (∀ {α : Type} {a : α} {l l' : List α}, a :: l ++ l' = a :: (l ++ l')) ∧
    ∀ {α : Type} {l : List α}, [] ++ l = l := by
  simp

/-! ## What a pipeline can stop with -/

/-- Whatever the pipeline stops with satisfies `P`. -/
def ErrorsIn (P : ε → Prop) (x : Except ε α) : Prop := ∀ e, x = .error e → P e

variable {P : ε → Prop}

lemma ErrorsIn.ok {a : α} : ErrorsIn P (.ok a : Except ε α) := fun _ h => by cases h

lemma ErrorsIn.error {e : ε} (h : P e) : ErrorsIn P (.error e : Except ε α) := fun _ h' => by
  cases h'
  exact h

lemma ErrorsIn.refuse {bad : Bool} {e : ε} (h : P e) : ErrorsIn P (refuse bad e) := by
  cases bad
  · exact .ok
  · exact .error h

lemma ErrorsIn.demand {o : Option α} {e : ε} (h : P e) : ErrorsIn P (demand o e) := by
  cases o
  · exact .error h
  · exact .ok

lemma ErrorsIn.refuses {bad : Bool} {e : ε} [Decidable (P e)] (h : decide (P e) = true) :
    ErrorsIn P (Pipeline.refuse bad e) := .refuse (of_decide_eq_true h)

lemma ErrorsIn.demands {o : Option α} {e : ε} [Decidable (P e)] (h : decide (P e) = true) :
    ErrorsIn P (Pipeline.demand o e) := .demand (of_decide_eq_true h)

/-- The steps after `x` may use what it gave. -/
lemma ErrorsIn.bind_of_ok (hx : ErrorsIn P x)
    (hf : ∀ a, x = .ok a → ErrorsIn P (f a)) : ErrorsIn P (x >>= f) := by
  cases x with
  | error e => exact fun e' h => hx e' (by simpa [Bind.bind, Except.bind] using h)
  | ok a => exact hf a rfl

lemma ErrorsIn.bind (hx : ErrorsIn P x) (hf : ∀ a, ErrorsIn P (f a)) : ErrorsIn P (x >>= f) :=
  hx.bind_of_ok fun a _ => hf a

/-- A check, and the steps after it. -/
lemma ErrorsIn.refusing {bad : Bool} {e : ε} [Decidable (P e)] {f : Unit → Except ε β}
    (h : decide (P e) = true) (hf : ErrorsIn P (f ())) : ErrorsIn P (Pipeline.refuse bad e >>= f) :=
  .bind (.refuses h) fun _ => hf

lemma ErrorsIn.demanding {o : Option α} {e : ε} [Decidable (P e)] (h : decide (P e) = true)
    (hf : ∀ a, ErrorsIn P (f a)) : ErrorsIn P (Pipeline.demand o e >>= f) :=
  .bind (.demands h) hf

lemma ErrorsIn.map {f : α → β} (hx : ErrorsIn P x) : ErrorsIn P (x.map f) := by
  cases x with
  | error e => exact fun e' h => hx e' (by simpa [Except.map] using h)
  | ok a => exact .ok

lemma ErrorsIn.mapError {ε' : Type} {x : Except ε' α} {f : ε' → ε} (h : ∀ e, P (f e)) :
    ErrorsIn P (x.mapError f) := by
  cases x with
  | error e => exact .error (h e)
  | ok a => exact .ok

/-! ## What a pipeline answers -/

/-- The answer of a pipeline, stopped or not, satisfies `P`. -/
def Answers (P : ε → Prop) (x : Except ε ε) : Prop := ErrorsIn P x ∧ ∀ a, x = .ok a → P a

lemma Answers.bind {f : α → Except ε ε} (hx : ErrorsIn P x)
    (hf : ∀ a, x = .ok a → Answers P (f a)) : Answers P (x >>= f) := by
  cases x with
  | error e =>
    refine ⟨fun e' h => hx e' (by simpa [Bind.bind, Except.bind] using h), fun a h => ?_⟩
    cases h
  | ok a => exact hf a rfl

lemma Answers.pure {e : ε} (h : P e) : Answers P (Pure.pure e) :=
  ⟨.ok, fun _ ha => by cases ha; exact h⟩

/-! ## Two runs of a pipeline -/

/-- The two runs stop with the same error, or both succeed, with related values. -/
def Related {γ : Type} (R : α → γ → Prop) : Except ε α → Except ε γ → Prop
  | .ok a, .ok c => R a c
  | .error e, .error e' => e = e'
  | _, _ => False

section related

variable {γ δ : Type} {R : α → γ → Prop}

lemma Related.ok {a : α} {c : γ} (h : R a c) : Related R (.ok a : Except ε α) (.ok c) := h

lemma Related.error {e : ε} : Related R (.error e : Except ε α) (.error e : Except ε γ) := rfl

lemma Related.of_eq {x y : Except ε α} (h : x = y) : Related Eq x y := by
  subst h
  cases x with
  | error e => exact .error
  | ok a => exact .ok rfl

/-- One run, compared with itself; the steps after it know what it gave. -/
lemma Related.self (x : Except ε α) : Related (fun a a' => a = a' ∧ x = .ok a) x x := by
  cases x with
  | error e => exact .error
  | ok a => exact .ok ⟨rfl, rfl⟩

/-- A check that reads nothing the two runs differ in; the steps after it know that it passed. -/
lemma Related.refuse {bad bad' : Bool} {e e' : ε} (hbad : bad = bad') (he : bad = true → e = e') :
    Related (fun _ _ => bad = false) (refuse bad e) (refuse bad' e') := by
  subst hbad
  cases bad with
  | false => exact .ok rfl
  | true => exact he rfl

lemma Related.bind {S : β → δ → Prop} {x : Except ε α} {y : Except ε γ} {f : α → Except ε β}
    {g : γ → Except ε δ} (h : Related R x y) (hfg : ∀ a c, R a c → Related S (f a) (g c)) :
    Related S (x >>= f) (y >>= g) := by
  cases x with
  | error e =>
    cases y with
    | error e' => exact h
    | ok c => exact h.elim
  | ok a =>
    cases y with
    | error e' => exact h.elim
    | ok c => exact hfg a c h

lemma Related.mono {S : α → γ → Prop} {x : Except ε α} {y : Except ε γ} (h : Related R x y)
    (hRS : ∀ a c, R a c → S a c) : Related S x y := by
  simpa using h.bind (f := pure) (g := pure) fun a c hac => .ok (hRS a c hac)

/-- A step that both runs make. -/
lemma Related.step {S : β → δ → Prop} {f : α → Except ε β} {g : α → Except ε δ}
    (h : ∀ a, Related S (f a) (g a)) : Related S (x >>= f) (x >>= g) :=
  (Related.of_eq rfl).bind fun a _ ha => ha ▸ h a

/-- Two runs that succeed together and whose refusals `g` does not tell apart. -/
lemma Related.of_refusals {ε' : Type} {g : ε → ε'} {d : ε'} {x : Except ε α} {y : Except ε γ}
    (hx : ErrorsIn (fun e => g e = d) x) (hy : ErrorsIn (fun e => g e = d) y)
    (hxy : (∃ a, x = .ok a) ↔ ∃ c, y = .ok c) (hR : ∀ a c, x = .ok a → y = .ok c → R a c) :
    Related R (x.mapError g) (y.mapError g) := by
  cases x with
  | error e =>
    cases y with
    | error e' => exact (hx e rfl).trans (hy e' rfl).symm
    | ok c =>
      obtain ⟨_, h⟩ := hxy.mpr ⟨c, rfl⟩
      cases h
  | ok a =>
    obtain ⟨c, rfl⟩ := hxy.mp ⟨a, rfl⟩
    exact hR a c rfl rfl

end related

end Pipeline
