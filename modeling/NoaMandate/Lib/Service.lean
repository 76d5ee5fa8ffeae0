import Mathlib.Tactic.Lemma
import Mathlib.Data.List.Basic

/-!
# Services

A service holds a state and answers calls one after another.  A run is the list of what was served,
the latest first.  What may be called can depend on the run so far: a caller may hold on to something
it was shown earlier, and a name the service makes up was not made up before.

`Run.invariant` and `Run.invariant_ordered` lift a fact about one call to a whole run: a property of
the state that every call keeps, and a preorder along which every call moves the state.
`Run.pairwise` is for facts about two calls of one run.

`answers_filter` compares two runs: one of all the calls of a list, and one of those that are kept.
If the state of the second is a view of the state of the first, which the calls that are left out do
not change and the others respect, then the calls that are kept are answered alike (`Hides`).
-/

/-- One call that was served. -/
structure Served (σ κ ρ : Type) where
  before : σ
  call : κ
  answer : ρ
  after : σ

namespace Served

variable {σ κ ρ : Type}

/-- The state after a run that started from `init`. -/
def final (init : σ) : List (Served σ κ ρ) → σ
  | [] => init
  | e :: _ => e.after

/-- The run passed through the state. -/
def Passes (init : σ) (past : List (Served σ κ ρ)) (s : σ) : Prop :=
  ∃ later earlier, past = later ++ earlier ∧ final init earlier = s

lemma passes_nil {init s : σ} : Passes init ([] : List (Served σ κ ρ)) s ↔ s = init := by
  constructor
  · rintro ⟨later, earlier, hsplit, rfl⟩
    rw [(List.append_eq_nil_iff.mp hsplit.symm).2]
    rfl
  · rintro rfl
    exact ⟨[], [], rfl, rfl⟩

lemma passes_cons {init s : σ} {e : Served σ κ ρ} {past : List (Served σ κ ρ)} :
    Passes init (e :: past) s ↔ s = e.after ∨ Passes init past s := by
  constructor
  · rintro ⟨later, earlier, hsplit, rfl⟩
    rcases List.cons_eq_append_iff.mp hsplit with ⟨-, rfl⟩ | ⟨rest, -, rfl⟩
    · exact .inl rfl
    · exact .inr ⟨rest, earlier, rfl, rfl⟩
  · rintro (rfl | ⟨later, earlier, rfl, rfl⟩)
    · exact ⟨[], e :: past, rfl, rfl⟩
    · exact ⟨e :: later, earlier, rfl, rfl⟩

end Served

structure Service (σ κ ρ : Type) where
  init : σ
  exec : κ → σ → ρ × σ
  /-- What may be called after what was served. -/
  allowed : List (Served σ κ ρ) → κ → Prop

namespace Service

variable {σ κ ρ : Type} {M : Service σ κ ρ} {past later : List (Served σ κ ρ)} {c : κ}

/-- The state after a run. -/
def state (M : Service σ κ ρ) (past : List (Served σ κ ρ)) : σ := Served.final M.init past

/-- Serve a call after a run. -/
def serve (M : Service σ κ ρ) (past : List (Served σ κ ρ)) (c : κ) : Served σ κ ρ where
  before := M.state past
  call := c
  answer := (M.exec c (M.state past)).1
  after := (M.exec c (M.state past)).2

inductive Run (M : Service σ κ ρ) : List (Served σ κ ρ) → Prop
  | start : Run M []
  | serve {past : List (Served σ κ ρ)} {c : κ} (run : Run M past) (allowed : M.allowed past c) :
      Run M (M.serve past c :: past)

@[simp] lemma state_cons (e : Served σ κ ρ) : M.state (e :: past) = e.after := rfl

/-- What was served for a list of calls, the latest first. -/
def play (M : Service σ κ ρ) : List κ → List (Served σ κ ρ)
  | [] => []
  | c :: cs => M.serve (M.play cs) c :: M.play cs

/-- Every call of the list may be called after those before it. -/
def Playable (M : Service σ κ ρ) : List κ → Prop
  | [] => True
  | c :: cs => M.allowed (M.play cs) c ∧ M.Playable cs

lemma run_play {calls : List κ} (h : M.Playable calls) : M.Run (M.play calls) := by
  induction calls with
  | nil => exact .start
  | cons c cs ih => exact .serve (ih h.2) h.1

variable {e : Served σ κ ρ}

lemma call_of_mem_play {calls : List κ} (h : e ∈ M.play calls) : e.call ∈ calls := by
  induction calls with
  | nil => cases h
  | cons c cs ih =>
    rcases List.mem_cons.mp h with rfl | h
    · exact .head _
    · exact .tail _ (ih h)

/-! ## Reading a run -/

lemma Run.tail (h : M.Run (e :: past)) : M.Run past := by
  cases h with
  | serve run _ => exact run

lemma Run.suffix (h : M.Run (later ++ past)) : M.Run past := by
  induction later with
  | nil => exact h
  | cons e later ih => exact ih h.tail

lemma Run.head (h : M.Run (e :: past)) : M.allowed past e.call ∧ e = M.serve past e.call := by
  cases h with
  | serve _ allowed => exact ⟨allowed, rfl⟩

lemma Run.before_eq (h : M.Run (e :: past)) : e.before = M.state past := by
  rw [h.head.2]
  rfl

lemma Run.exec_eq (h : M.Run (e :: past)) : M.exec e.call e.before = (e.answer, e.after) := by
  rw [h.head.2]
  rfl

/-- What was served at some point of a run. -/
lemma Run.served_at (h : M.Run (later ++ e :: past)) :
    M.Run past ∧ ∃ c, M.allowed past c ∧ e = M.serve past c := by
  have hrun : M.Run (e :: past) := h.suffix
  exact ⟨hrun.tail, e.call, hrun.head⟩

/-- What was served at some point of a run, found by membership. -/
lemma Run.of_mem (h : M.Run past) (he : e ∈ past) :
    ∃ later earlier, past = later ++ e :: earlier ∧ M.Run earlier ∧ M.allowed earlier e.call ∧
      e = M.serve earlier e.call := by
  obtain ⟨later, earlier, rfl⟩ := List.append_of_mem he
  have hhead : M.Run (e :: earlier) := h.suffix
  exact ⟨later, earlier, rfl, hhead.tail, hhead.head⟩

/-! ## From a call to a run -/

/-- What every call keeps holds after every run. -/
lemma Run.invariant {I : σ → Prop} (hinit : I M.init)
    (hcall : ∀ past c, M.Run past → M.allowed past c → I (M.state past) →
      I (M.exec c (M.state past)).2) (h : M.Run past) : I (M.state past) := by
  induction h with
  | start => exact hinit
  | serve run hallowed ih => exact hcall _ _ run hallowed ih

/-- An invariant and an order along which the state moves, proved together: a call may rely on how
the states the run passed through compare with the present one. -/
lemma Run.invariant_ordered {I : σ → Prop} {R : σ → σ → Prop} (hinit : I M.init)
    (hrefl : ∀ s, R s s) (htrans : ∀ s t u, R s t → R t u → R s u)
    (hcall : ∀ past c, M.Run past → M.allowed past c → I (M.state past) →
      (∀ s, Served.Passes M.init past s → R s (M.state past)) →
      I (M.exec c (M.state past)).2 ∧ R (M.state past) (M.exec c (M.state past)).2)
    (h : M.Run past) :
    I (M.state past) ∧ ∀ s, Served.Passes M.init past s → R s (M.state past) := by
  induction h with
  | start =>
    refine ⟨hinit, fun s hs => ?_⟩
    rw [Served.passes_nil.mp hs]
    exact hrefl _
  | serve run hallowed ih =>
    obtain ⟨hkept, hmoved⟩ := hcall _ _ run hallowed ih.1 ih.2
    refine ⟨hkept, fun s hs => ?_⟩
    rcases Served.passes_cons.mp hs with rfl | hs
    · exact hrefl _
    · exact htrans _ _ _ (ih.2 s hs) hmoved

/-- What a call brought about and every later call keeps holds at the end of the run. -/
lemma Run.persists {I : σ → Prop}
    (hcall : ∀ past c, M.Run past → M.allowed past c → I (M.state past) →
      I (M.exec c (M.state past)).2) (h : M.Run past) (he : e ∈ past)
    (hafter : I e.after) : I (M.state past) := by
  induction h with
  | start => cases he
  | serve run hallowed ih =>
    rcases List.mem_cons.mp he with rfl | he
    · exact hafter
    · exact hcall _ _ run hallowed (ih he)

/-- What holds between a call and every earlier one holds between any two. -/
lemma Run.pairwise {B : Served σ κ ρ → Served σ κ ρ → Prop}
    (hcall : ∀ past c, M.Run past → M.allowed past c → ∀ e ∈ past, B (M.serve past c) e)
    (h : M.Run past) : past.Pairwise B := by
  induction h with
  | start => exact List.Pairwise.nil
  | serve run hallowed ih => exact List.Pairwise.cons (hcall _ _ run hallowed) ih

/-! ## Leaving calls out -/

/-- What was answered to the calls that are looked at, the latest first. -/
def answers (M : Service σ κ ρ) (seen : κ → Bool) (calls : List κ) : List (κ × ρ) :=
  ((M.play calls).filter fun e => seen e.call).map fun e => (e.call, e.answer)

/-- The calls that are kept act on the view as they do on the state, and the others do not show in
it. The calls come latest first, and `I` may speak of those that were made. -/
structure Hides (M : Service σ κ ρ) (kept seen : κ → Bool) (view : σ → σ)
    (I : List κ → σ → Prop) (calls : List κ) : Prop where
  init : I [] M.init
  view_init : view M.init = M.init
  keeps : ∀ c cs s, c :: cs <:+ calls → I cs s → I (c :: cs) (M.exec c s).2
  acts : ∀ c cs s, c :: cs <:+ calls → I cs s → kept c = true →
    view (M.exec c s).2 = (M.exec c (view s)).2
  shows : ∀ c cs s, c :: cs <:+ calls → I cs s → seen c = true →
    kept c = true ∧ (M.exec c (view s)).1 = (M.exec c s).1
  hides : ∀ c cs s, c :: cs <:+ calls → I cs s → kept c = false → view (M.exec c s).2 = view s

namespace Hides

variable {kept seen : κ → Bool} {view : σ → σ} {I : List κ → σ → Prop} {calls : List κ}

lemma tail {c : κ} {cs : List κ} (h : M.Hides kept seen view I (c :: cs)) :
    M.Hides kept seen view I cs where
  init := h.init
  view_init := h.view_init
  keeps d ds s hds := h.keeps d ds s (hds.trans (List.suffix_cons _ _))
  acts d ds s hds := h.acts d ds s (hds.trans (List.suffix_cons _ _))
  shows d ds s hds := h.shows d ds s (hds.trans (List.suffix_cons _ _))
  hides d ds s hds := h.hides d ds s (hds.trans (List.suffix_cons _ _))

lemma invariant (h : M.Hides kept seen view I calls) : I calls (M.state (M.play calls)) := by
  induction calls with
  | nil => exact h.init
  | cons c cs ih => exact h.keeps c cs _ List.suffix_rfl (ih h.tail)

/-- The run of the kept calls stands at the view of the run of all. -/
lemma state_filter (h : M.Hides kept seen view I calls) :
    M.state (M.play (calls.filter kept)) = view (M.state (M.play calls)) := by
  induction calls with
  | nil => exact h.view_init.symm
  | cons c cs ih =>
    have hI := h.tail.invariant
    cases hc : kept c with
    | false =>
      rw [List.filter_cons_of_neg (by simp [hc]), ih h.tail]
      exact (h.hides c cs _ List.suffix_rfl hI hc).symm
    | true =>
      rw [List.filter_cons_of_pos hc]
      show (M.exec c (M.state (M.play (cs.filter kept)))).2 = _
      rw [ih h.tail]
      exact (h.acts c cs _ List.suffix_rfl hI hc).symm

end Hides

lemma answers_cons (seen : κ → Bool) (c : κ) (cs : List κ) : M.answers seen (c :: cs) =
      if seen c = true then (c, (M.exec c (M.state (M.play cs))).1) :: M.answers seen cs
      else M.answers seen cs := by
  unfold answers
  rw [play, List.filter_cons]
  split
  · rename_i hc
    rw [if_pos (show seen c = true from hc)]
    rfl
  · rename_i hc
    rw [if_neg (show ¬ seen c = true from hc)]

/-- Leaving out calls that do not show changes no answer that is looked at. -/
lemma answers_filter {kept seen : κ → Bool} {view : σ → σ} {I : List κ → σ → Prop} {calls : List κ}
    (h : M.Hides kept seen view I calls) :
    M.answers seen (calls.filter kept) = M.answers seen calls := by
  induction calls with
  | nil => rfl
  | cons c cs ih =>
    have hshows := h.shows c cs _ List.suffix_rfl h.tail.invariant
    rw [answers_cons]
    cases hseen : seen c with
    | true =>
      obtain ⟨hkept, hanswer⟩ := hshows hseen
      rw [List.filter_cons_of_pos hkept, answers_cons, hseen, if_pos rfl, if_pos rfl, ih h.tail,
        h.tail.state_filter, hanswer]
    | false =>
      rw [if_neg Bool.false_ne_true]
      cases hkept : kept c with
      | false =>
        rw [List.filter_cons_of_neg (by simp [hkept])]
        exact ih h.tail
      | true =>
        rw [List.filter_cons_of_pos hkept, answers_cons, hseen, if_neg Bool.false_ne_true]
        exact ih h.tail

end Service
