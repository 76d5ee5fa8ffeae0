import Mathlib.Tactic.Lemma

/-!
# Programs that may stop, with their effects kept

A handler of requests changes a state and may be left early by an error; what it did to the state
before that stays done.  `EStateM` is the monad of such programs.

`Spec pre x post err` says: started in a state with `pre`, the program `x` either returns a value with
`post`, or stops in a state with `err`.  There is one rule for each way of making a program
(`Spec.pure`, `Spec.bind`, `Spec.raise`, …), so a proof about a program follows its text.  The steps
`fromExcept`, `require` and `onState` cover what a handler does: use the answer of a pure
function, insist on a condition, and run an operation of the state.

Where only the runs that return matter, the `_returns_iff` lemmas read such a run as the sequence of its
steps.
-/

namespace Program

variable {ε ε' σ α β : Type}

/-! ## Steps -/

/-- Use the answer of a pure function, or stop with its error. -/
def fromExcept (x : Except ε' α) (f : ε' → ε) : EStateM ε σ α := fun s =>
  match x with
  | .ok a => .ok a s
  | .error e => .error (f e) s

/-- Stop unless the condition holds. -/
def require (b : Bool) (e : ε) : EStateM ε σ Unit := fun s => if b then .ok () s else .error e s

/-- Stop. -/
def raise (e : ε) : EStateM ε σ α := fun s => .error e s

/-- Run an operation of the state. -/
def onState (f : σ → α × σ) : EStateM ε σ α := fun s => .ok (f s).1 (f s).2

/-! ## Runs that return -/

section returns

variable {s s' : σ} {a : α} {b : β} {e : ε}

lemma bind_returns_iff {x : EStateM ε σ α} {f : α → EStateM ε σ β} :
    (x >>= f) s = .ok b s' ↔ ∃ a t, x s = .ok a t ∧ f a t = .ok b s' := by
  show EStateM.bind x f s = .ok b s' ↔ _
  unfold EStateM.bind
  cases x s with
  | ok a t =>
    constructor
    · intro h
      exact ⟨a, t, rfl, h⟩
    · rintro ⟨a', t', heq, h⟩
      cases heq
      exact h
  | error e t =>
    constructor
    · intro h
      cases h
    · rintro ⟨a', t', heq, -⟩
      cases heq

lemma pure_returns_iff {a' : α} : (Pure.pure a : EStateM ε σ α) s = .ok a' s' ↔ a' = a ∧ s' = s := by
  show EStateM.Result.ok a s = .ok a' s' ↔ _
  rw [EStateM.Result.ok.injEq, eq_comm, @eq_comm _ s]

lemma fromExcept_returns_iff {x : Except ε' α} {f : ε' → ε} :
    (fromExcept x f : EStateM ε σ α) s = .ok a s' ↔ x = .ok a ∧ s' = s := by
  unfold fromExcept
  cases x <;> simp [eq_comm]

lemma require_returns_iff {p : Bool} {u : Unit} :
    (require p e : EStateM ε σ Unit) s = .ok u s' ↔ p = true ∧ s' = s := by
  unfold require
  cases p <;> simp [eq_comm]

lemma raise_returns_iff : (raise e : EStateM ε σ α) s = .ok a s' ↔ False := by
  simp [raise]

lemma onState_returns_iff {f : σ → α × σ} :
    (onState f : EStateM ε σ α) s = .ok a s' ↔ a = (f s).1 ∧ s' = (f s).2 := by
  simp [onState, eq_comm]

end returns

/-! ## Specifications -/

/-- From a state with `pre` the program returns with `post` or stops with `err`. -/
def Spec (pre : σ → Prop) (x : EStateM ε σ α) (post : α → σ → Prop) (err : σ → Prop) : Prop :=
  ∀ s, pre s →
    match x s with
    | .ok a s' => post a s'
    | .error _ s' => err s'

variable {pre : σ → Prop} {post : α → σ → Prop} {err : σ → Prop} {x : EStateM ε σ α}

lemma Spec.pure {a : α} (h : ∀ s, pre s → post a s) :
    Spec pre (Pure.pure a : EStateM ε σ α) post err := h

lemma Spec.raise {e : ε} (h : ∀ s, pre s → err s) :
    Spec pre (Program.raise e : EStateM ε σ α) post err := h

lemma Spec.bind {mid : α → σ → Prop} {f : α → EStateM ε σ β} {post : β → σ → Prop}
    (hx : Spec pre x mid err) (hf : ∀ a, Spec (mid a) (f a) post err) :
    Spec pre (x >>= f) post err := by
  intro s hs
  have hmid := hx s hs
  show match EStateM.bind x f s with
    | .ok a s' => post a s'
    | .error _ s' => err s'
  unfold EStateM.bind
  cases hrun : x s with
  | ok a s' =>
    rw [hrun] at hmid
    exact hf a s' hmid
  | error e s' =>
    rw [hrun] at hmid
    exact hmid

/-- What the pure function answered is known in the rest of the program. -/
lemma Spec.bind_fromExcept {y : Except ε' α} {f : ε' → ε} {g : α → EStateM ε σ β}
    {post : β → σ → Prop} (herr : ∀ s, pre s → err s)
    (hg : ∀ a, y = .ok a → Spec pre (g a) post err) :
    Spec pre (Program.fromExcept y f >>= g) post err := by
  cases y with
  | ok a => exact hg a rfl
  | error e => exact herr

lemma Spec.bind_require {b : Bool} {e : ε} {g : Unit → EStateM ε σ β} {post : β → σ → Prop}
    (herr : ∀ s, pre s → err s) (hg : Spec pre (g ()) post err) :
    Spec pre (Program.require b e >>= g) post err := by
  cases b with
  | true => exact hg
  | false => exact herr

lemma Spec.onState {f : σ → α × σ} (h : ∀ s, pre s → post (f s).1 (f s).2) :
    Spec pre (Program.onState f : EStateM ε σ α) post err := h

end Program
