import Mathlib.Algebra.BigOperators.Group.List.Basic
import NoaMandate.Kernel.SafeJsonLanguage

/-!
# The strict parser is complete

What the grammar reads as a document that keeps the rules, the parser reads as the value the document
denotes.  The induction is on the document; the fuel is measured by the text of the value, which is the
shortest of its texts: every token the grammar reads takes at least as many units as the canonical token
of the same value, because an escape is written out only where the grammar asks for one, a number has no
superfluous digits, and there is no white space.

The text of a value is itself in the grammar (`reads_render`), so the parser reads it back:
`parseValue_render` for a text as it stands, `parseDocument_render` for the text of a document within
the parser's limits.

`safeParse_language`: the parser accepts a text exactly if the grammar reads it as a document that keeps
the rules.
-/

namespace NoaMandate

open Pipeline

namespace SafeJson

open Json Rfc8259

/-! ## The length of a rendered value -/

/-- The number of code units of a value's text. -/
def size (v : Json) : Nat := (toUnits (render v)).length

/-- The number of code units of a string token. -/
def tokenSize (s : String) : Nat := (toUnits (stringText s)).length

lemma length_renderElems (xs : List Json) :
    (toUnits (renderElems false xs)).length = (xs.map fun x => size x + 1).sum + 1 := by
  induction xs with
  | nil => rfl
  | cons x xs ih =>
    have hcomma : charUnits ',' = [0x2c] := by decide
    rw [renderElems, if_neg (by decide)]
    simp only [toUnits_append, toUnits_cons, toUnits_nil, hcomma, List.length_append, ih,
      List.map_cons, List.sum_cons, List.length_cons, List.length_nil, size]
    omega

lemma length_renderMembers (ms : List (String × Json)) : (toUnits (renderMembers false ms)).length =
      (ms.map fun m => tokenSize m.1 + size m.2 + 2).sum + 1 := by
  induction ms with
  | nil => rfl
  | cons m ms ih =>
    obtain ⟨k, v⟩ := m
    have hcomma : charUnits ',' = [0x2c] := by decide
    have hcolon : charUnits ':' = [0x3a] := by decide
    rw [renderMembers, if_neg (by decide)]
    simp only [toUnits_append, toUnits_cons, toUnits_nil, hcomma, hcolon, List.length_append, ih,
      List.map_cons, List.sum_cons, List.length_cons, List.length_nil, size, tokenSize]
    omega

lemma size_arr (x : Json) (xs : List Json) :
    size (.arr (x :: xs)) = ((x :: xs).map fun x => size x + 1).sum + 1 := by
  have hopen : charUnits '[' = [0x5b] := by decide
  rw [size, render, renderElems, if_pos rfl]
  simp only [toUnits_append, toUnits_cons, toUnits_nil, hopen, List.length_append,
    length_renderElems, List.map_cons, List.sum_cons, List.length_cons, List.length_nil, size]
  omega

lemma size_obj (m : String × Json) (ms : List (String × Json)) : size (.obj (m :: ms)) =
      ((m :: ms).map fun m => tokenSize m.1 + size m.2 + 2).sum + 1 := by
  obtain ⟨k, v⟩ := m
  have hopen : charUnits '\x7b' = [0x7b] := by decide
  have hcolon : charUnits ':' = [0x3a] := by decide
  rw [size, render, renderMembers, if_pos rfl]
  simp only [toUnits_append, toUnits_cons, toUnits_nil, hopen, hcolon, List.length_append,
    length_renderMembers, List.map_cons, List.sum_cons, List.length_cons, List.length_nil, size,
    tokenSize]
  omega

/-! ## The length of what is read -/

/-- The least number of units that write one unit of a string. -/
def unitCost (u : Nat) : Nat :=
  if u = 0x22 ∨ u = 0x5c ∨ u = 0x08 ∨ u = 0x09 ∨ u = 0x0a ∨ u = 0x0c ∨ u = 0x0d then 2
  else if u < 0x20 then 6 else 1

lemma unitCost_of_plain {u : Nat} (h1 : 0x20 ≤ u) (h2 : u ≠ 0x22) (h3 : u ≠ 0x5c) :
    unitCost u = 1 := by
  rw [unitCost, if_neg (by omega), if_neg (by omega)]

lemma length_escapeChar (c : Char) :
    (toUnits (escapeChar c)).length = ((charUnits c).map unitCost).sum := by
  by_cases hlow : c.toNat < 0x20
  · rw [← Char.ofNat_toNat c]
    generalize c.toNat = n at hlow ⊢
    interval_cases n <;> decide
  by_cases hquote : c = '"'
  · subst hquote
    decide
  by_cases hescape : c = '\\'
  · subst hescape
    decide
  have hq : c.toNat ≠ 0x22 := fun h => hquote (Char.ext (UInt32.toNat_inj.mp h))
  have he : c.toNat ≠ 0x5c := fun h => hescape (Char.ext (UInt32.toNat_inj.mp h))
  have hcost : ∀ u ∈ charUnits c, unitCost u = 1 := by
    intro u hu
    unfold charUnits at hu
    split at hu
    · rw [List.mem_singleton.mp hu]
      exact unitCost_of_plain (Nat.le_of_not_lt hlow) hq he
    · simp only [mem_iff] at hu
      exact unitCost_of_plain (by omega) (by omega) (by omega)
  rw [escapeChar_of_plain hlow hquote hescape, toUnits_cons, toUnits_nil, List.append_nil,
    List.map_congr_left hcost, List.map_const', List.sum_replicate]
  exact (Nat.mul_one _).symm

lemma tokenSize_eq (s : String) : tokenSize s = ((units s).map unitCost).sum + 2 := by
  have key : ∀ cs : List Char, (toUnits (cs.flatMap escapeChar)).length =
      ((cs.flatMap charUnits).map unitCost).sum := by
    intro cs
    induction cs with
    | nil => rfl
    | cons c cs ih =>
      rw [List.flatMap_cons, List.flatMap_cons, toUnits_append, List.length_append, ih,
        length_escapeChar, List.map_append, List.sum_append]
  have hquote : charUnits '"' = [0x22] := by decide
  rw [tokenSize, stringText, stringRest, units, toUnits_cons, toUnits_append, toUnits_cons,
    toUnits_nil, hquote]
  simp only [List.length_append, List.length_cons, List.length_nil, key]
  omega

variable {text rest ds : List Nat}

lemma Chars.cost_le {us : List Nat} (h : Chars text us rest) :
    (us.map unitCost).sum + 1 + rest.length ≤ text.length := by
  induction h with
  | close => simp only [List.map_nil, List.sum_nil, List.length_cons]; omega
  | @unescaped c text us rest hc hquote hescape _ ih =>
    have hcost : unitCost c = 1 := by rw [unitCost, if_neg (by omega), if_neg (by omega)]
    simp only [List.map_cons, List.sum_cons, List.length_cons, hcost]
    omega
  | @escaped e u text us rest he _ ih =>
    have hcost : unitCost u ≤ 2 := by
      simp only [escapes, mem_iff, Prod.mk.injEq] at he
      unfold unitCost
      split
      · exact le_rfl
      · rw [if_neg (by omega)]
        decide
    simp only [List.map_cons, List.sum_cons, List.length_cons]
    omega
  | @hex a b c d d1 d2 d3 d4 text us rest _ _ _ _ _ ih =>
    have hcost : ∀ u, unitCost u ≤ 6 := by
      intro u
      unfold unitCost
      split
      · decide
      · split <;> decide
    have := hcost (((d1 * 16 + d2) * 16 + d3) * 16 + d4)
    simp only [List.map_cons, List.sum_cons, List.length_cons]
    omega

lemma Digits.lt_ten (h : Digits text ds rest) : ∀ d ∈ ds, d < 10 := by
  induction h with
  | nil => simp
  | cons hd _ ih => exact List.forall_mem_cons.mpr ⟨by omega, ih⟩

lemma IntPart.lt_ten (h : IntPart text ds rest) : ∀ d ∈ ds, d < 10 := by
  cases h with
  | zero => simp
  | digits _ hd hds => exact List.forall_mem_cons.mpr ⟨by omega, Digits.lt_ten hds⟩

lemma decimal_lt (h : ∀ d ∈ ds, d < 10) : decimal ds < 10 ^ ds.length := by
  have hlt := Nat.ofDigits_lt_base_pow_length (b := 10) (by decide) (l := ds.reverse)
    fun d hd => h d (List.mem_reverse.mp hd)
  rwa [List.length_reverse] at hlt

/-- An integer token is not shorter than the integer's canonical text. -/
lemma IntPart.size_le {t : List Nat} {neg : Bool} (hminus : Minus text neg t)
    (hint : IntPart t ds rest) :
    size (.num (if neg then -(decimal ds : ℤ) else decimal ds)) + rest.length ≤ text.length := by
  obtain ⟨hlen, hne⟩ := hint.length_eq
  have hdigits : ∀ k, (toUnits (Nat.toDigits 10 k)).length = (Nat.toDigits 10 k).length := by
    intro k
    rw [toUnits_digits fun c hc => Nat.isDigit_of_mem_toDigits (by decide) (by decide) hc,
      List.length_map]
  have hshort := Nat.toDigits_length 10 (decimal ds) ds.length (List.length_pos_iff.mpr hne)
    (decimal_lt (IntPart.lt_ten hint))
  have hdash : charUnits '-' = [0x2d] := by decide
  cases hminus with
  | present =>
    rw [if_pos rfl, size, render, intText, Int.natAbs_neg, Int.natAbs_natCast, List.length_cons]
    split
    · rw [toUnits_cons, hdash, List.singleton_append, List.length_cons, hdigits]
      omega
    · rw [hdigits]
      omega
  | absent =>
    rw [if_neg (by decide), size, render, intText, if_neg (by omega), Int.natAbs_natCast, hdigits]
    omega

lemma Number.size_le {x : Numeral} {n : Int} (h : Number text x rest)
    (hfrac : x.frac = none) (hexp : x.exp = none) (hn : x.value = n) :
    size (.num n) + rest.length ≤ text.length := by
  rw [Numeral.value_of_integer hfrac hexp] at hn
  have hn : (if x.negative then -(decimal x.int : ℤ) else decimal x.int) = n := by exact_mod_cast hn
  obtain ⟨hminus, hint, hfrac', hexp'⟩ := h
  dsimp only at hfrac hexp
  subst hfrac hexp
  cases hfrac'
  cases hexp'
  rw [← hn]
  exact IntPart.size_le hminus hint

/-- No text of the document is shorter than the text of its value. -/
def Longer (d : Doc) : Prop :=
  ∀ {maxDepth depth : Nat} {text rest : List Nat} {v : Json}, Value text d rest →
    Strict maxDepth depth d → Denotes d v → size v + rest.length ≤ text.length

lemma Elems.size_le {maxDepth depth : Nat} (ds : List Doc) (hds : ∀ d ∈ ds, Longer d) :
    ∀ {text rest : List Nat} {vs : List Json}, Elems text ds rest →
      (∀ d ∈ ds, Strict maxDepth depth d) → DenotesElems ds vs →
      (vs.map fun v => size v + 1).sum + rest.length ≤ text.length := by
  induction ds with
  | nil => exact fun h => absurd h not_elems_nil
  | cons d ds ih =>
    intro text rest vs h hstrict hden
    obtain ⟨t1, t2, hws, hd, hmore⟩ := elems_cons_iff.mp h
    cases hden with
    | @cons _ v _ vs hden hdens =>
    have h1 := hws.length_le
    have h2 := hds d (.head _) hd (hstrict d (.head _)) hden
    rw [List.map_cons, List.sum_cons]
    rcases hmore with ⟨rfl, hclose⟩ | ⟨t3, hcomma, hrest⟩
    · have h3 := hclose.length_le
      cases hdens
      simp only [List.length_cons, List.map_nil, List.sum_nil] at h3 ⊢
      omega
    · have h3 := hcomma.length_le
      have h4 := ih (fun e he => hds e (.tail _ he)) hrest
        (fun e he => hstrict e (.tail _ he)) hdens
      simp only [List.length_cons] at h3
      omega

lemma Members.size_le {maxDepth depth : Nat} (ms : List (List Nat × Doc))
    (hms : ∀ m ∈ ms, Longer m.2) :
    ∀ {text rest : List Nat} {ns : List (String × Json)}, Members text ms rest →
      (∀ m ∈ ms, Strict maxDepth depth m.2) → DenotesMembers ms ns →
      (ns.map fun n => tokenSize n.1 + size n.2 + 2).sum + rest.length ≤ text.length := by
  induction ms with
  | nil => exact fun h => absurd h not_members_nil
  | cons m ms ih =>
    intro text rest ns h hstrict hden
    cases hden with
    | @cons d v _ ns key hden hdens =>
    obtain ⟨t1, t2, t3, t4, t5, hquote, hname, hcolon, hgap, hd, hmore⟩ := members_cons_iff.mp h
    have h1 := hquote.length_le
    have h2 := Chars.cost_le hname
    have h3 := hcolon.length_le
    have h4 := hgap.length_le
    have h5 := hms _ (.head _) hd (hstrict _ (.head _)) hden
    have htoken := tokenSize_eq key
    rw [List.map_cons, List.sum_cons]
    dsimp only
    simp only [List.length_cons] at h1 h3
    rcases hmore with ⟨rfl, hclose⟩ | ⟨t6, hcomma, hrest⟩
    · have h6 := hclose.length_le
      cases hdens
      simp only [List.length_cons, List.map_nil, List.sum_nil] at h6 ⊢
      omega
    · have h6 := hcomma.length_le
      have h7 := ih (fun m hm => hms m (.tail _ hm)) hrest
        (fun m hm => hstrict m (.tail _ hm)) hdens
      simp only [List.length_cons] at h6
      omega

lemma Value.size_le (d : Doc) : Longer d := by
  induction d using Doc.ind with
  | null =>
    intro maxDepth depth text rest v h _ hden
    cases hden
    rw [value_null_iff.mp h, show size .null = 4 from rfl]
    simp only [List.length_cons]
    omega
  | bool b =>
    intro maxDepth depth text rest v h _ hden
    cases hden
    rw [value_bool_iff.mp h]
    cases b
    · rw [show size (.bool false) = 5 from rfl, if_neg (by decide)]
      simp only [List.length_cons]
      omega
    · rw [show size (.bool true) = 4 from rfl, if_pos rfl]
      simp only [List.length_cons]
      omega
  | num x =>
    intro maxDepth depth text rest v h hstrict hden
    cases hden with
    | num hn =>
    cases hstrict with
    | num _ hfrac hexp _ => exact Number.size_le (value_num_iff.mp h) hfrac hexp hn
  | str us =>
    intro maxDepth depth text rest v h _ hden
    cases hden with
    | str s =>
    obtain ⟨text', rfl, hbody⟩ := value_str_iff.mp h
    have hcost := Chars.cost_le hbody
    have htoken : size (.str s) = tokenSize s := rfl
    rw [htoken, tokenSize_eq, List.length_cons]
    omega
  | arr ds ih =>
    intro maxDepth depth text rest v h hstrict hden
    cases hden with
    | @arr _ vs hdens =>
    cases hstrict with
    | arr _ hstricts =>
    obtain ⟨text', rfl, ⟨rfl, hclose⟩ | hbody⟩ := value_arr_iff.mp h
    · have := hclose.length_le
      cases hdens
      rw [show size (.arr []) = 2 from rfl]
      simp only [List.length_cons] at this ⊢
      omega
    · have hsize := Elems.size_le ds ih hbody hstricts hdens
      cases hdens with
      | nil => exact absurd hbody not_elems_nil
      | cons _ _ =>
        rw [size_arr, List.length_cons]
        omega
  | obj ms ih =>
    intro maxDepth depth text rest v h hstrict hden
    cases hden with
    | @obj _ ns hdens =>
    cases hstrict with
    | obj _ _ _ hstricts =>
    obtain ⟨text', rfl, ⟨rfl, hclose⟩ | hbody⟩ := value_obj_iff.mp h
    · have := hclose.length_le
      cases hdens
      rw [show size (.obj []) = 2 from rfl]
      simp only [List.length_cons] at this ⊢
      omega
    · have hsize := Members.size_le ms ih hbody hstricts hdens
      cases hdens with
      | nil => exact absurd hbody not_members_nil
      | cons _ _ _ =>
        rw [size_obj, List.length_cons]
        omega

/-! ## What the grammar reads, the parser reads -/

variable {maxDepth depth : Nat} {ms : List (List Nat × Doc)} {ns : List (String × Json)}

lemma elems_skipWs {text rest : List Nat} {ds : List Doc} (h : Elems text ds rest) :
    Elems (skipWs text) ds rest := by
  cases h with
  | last hws hd hclose => exact skipWs_eq hws hd.noWs ▸ .last (.nil _) hd hclose
  | more hws hd hcomma hds => exact skipWs_eq hws hd.noWs ▸ .more (.nil _) hd hcomma hds

lemma members_skipWs {text rest : List Nat} (h : Members text ms rest) :
    Members (skipWs text) ms rest := by
  cases h with
  | last hws hname hcolon hgap hd hclose =>
    exact skipWs_eq hws (noWs_cons (by decide)) ▸ .last (.nil _) hname hcolon hgap hd hclose
  | more hws hname hcolon hgap hd hcomma hms =>
    exact skipWs_eq hws (noWs_cons (by decide)) ▸ .more (.nil _) hname hcolon hgap hd hcomma hms

lemma ends_of_follow (h : Follow rest) : Ends rest := by
  intro c hc
  have hfollow := h c hc
  unfold IsFollow IsWs at hfollow
  simp only [isDigit, Bool.and_eq_false_iff, decide_eq_false_iff_not]
  omega

lemma length_render_pos (v : Json) : 0 < (render v).length := by
  obtain ⟨c, t, hct, -⟩ := render_eq_cons v
  rw [hct]
  exact Nat.succ_pos _

/-- The parser reads the document wherever it keeps the rules. -/
def Read (maxDepth : Nat) (d : Doc) : Prop :=
  ∀ fuel depth text t v rest, Ws text t → Value t d rest → Strict maxDepth depth d → Denotes d v →
    Follow rest → text.length ≤ fuel + rest.length →
    parseValue maxDepth fuel depth text = .ok (v, rest)

/-- The same with fuel for the text of the value. -/
def ReadAs (maxDepth : Nat) (d : Doc) : Prop :=
  ∀ fuel depth text t v rest, Ws text t → Value t d rest → Strict maxDepth depth d → Denotes d v →
    Ends rest → (render v).length ≤ fuel → parseValue maxDepth fuel depth text = .ok (v, rest)

lemma parseElems_of_elems (ds : List Doc) (hread : ∀ d ∈ ds, ReadAs maxDepth d) :
    ∀ fuel depth text vs rest, Elems text ds rest → (∀ d ∈ ds, Strict maxDepth (depth + 1) d) →
      DenotesElems ds vs → (renderElems true vs).length ≤ fuel →
      parseElems maxDepth fuel depth text = .ok (vs, rest) := by
  have hcomma : ∀ vs, 0 < (renderElems true vs).length ∧
      (renderElems true vs).length ≤ (renderElems false vs).length := by
    intro vs
    cases vs <;> simp [renderElems, length_render_pos]
  induction ds with
  | nil => exact fun _ _ _ _ _ h => absurd h not_elems_nil
  | cons d ds ih =>
    intro fuel depth text vs rest h hstrict hden hlen
    obtain ⟨t1, t2, hws, hd, hmore⟩ := elems_cons_iff.mp h
    cases hden with
    | @cons _ v _ vs hden hdens =>
    rw [renderElems, if_pos rfl, List.nil_append, List.length_append] at hlen
    have hv := length_render_pos v
    have hvs := hcomma vs
    obtain ⟨fuel, rfl⟩ : ∃ f, fuel = f + 1 := ⟨fuel - 1, by omega⟩
    have hvalue := hread d (.head _) fuel (depth + 1) text t1 v t2 hws hd (hstrict d (.head _)) hden
      (ends_of_follow (follow_of_more (by decide) hmore)) (by omega)
    simp only [parseElems, hvalue, ok_bind]
    rcases hmore with ⟨rfl, hclose⟩ | ⟨t3, hcomma, hrest⟩
    · cases hdens
      rw [skipWs_eq hclose (noWs_cons (by decide))]
      rfl
    · have helems := ih (fun e he => hread e (.tail _ he)) fuel depth t3 vs rest hrest
        (fun e he => hstrict e (.tail _ he)) hdens (by omega)
      simp only [skipWs_eq hcomma (noWs_cons (by decide)), helems]
      rfl

lemma parseMembers_of_members (ms : List (List Nat × Doc)) (hread : ∀ m ∈ ms, ReadAs maxDepth m.2) :
    ∀ fuel depth seen text ns rest, Members text ms rest →
      (∀ m ∈ ms, Strict maxDepth (depth + 1) m.2) → DenotesMembers ms ns →
      (ns.map Prod.fst).Nodup → (∀ n ∈ ns, n.1 ∉ seen) → (∀ n ∈ ns, n.1 ∉ forbiddenKeys) →
      (renderMembers true ns).length ≤ fuel →
      parseMembers maxDepth fuel depth seen text = .ok (ns, rest) := by
  have hcomma : ∀ ns, 0 < (renderMembers true ns).length ∧
      (renderMembers true ns).length ≤ (renderMembers false ns).length := by
    intro ns
    cases ns <;> simp [renderMembers, stringText]
  induction ms with
  | nil => exact fun _ _ _ _ _ _ h => absurd h not_members_nil
  | cons m ms ih =>
    obtain ⟨name, d⟩ := m
    intro fuel depth seen text ns rest h hstrict hden hnodup hfresh hallowed hlen
    obtain ⟨t1, t2, t3, t4, t5, hquote, hname, hcolon, hgap, hd, hmore⟩ := members_cons_iff.mp h
    cases hden with
    | @cons _ v _ ns key hden hdens =>
    rw [renderMembers, if_pos rfl, List.nil_append, List.length_append, List.length_cons,
      List.length_append] at hlen
    have hns := hcomma ns
    obtain ⟨fuel, rfl⟩ : ∃ f, fuel = f + 1 := ⟨fuel - 1, by omega⟩
    have hvalue := hread (Json.units key, d) (.head _) fuel (depth + 1) t3 t4 v t5 hgap hd
      (hstrict _ (.head _)) hden (ends_of_follow (follow_of_more (by decide) hmore)) (by omega)
    have hforbidden : forbiddenKeys.contains key = false := by
      simpa using hallowed (key, v) List.mem_cons_self
    have hseen : seen.contains key = false := by simpa using hfresh (key, v) List.mem_cons_self
    rw [parseMembers, skipWs_eq hquote (noWs_cons (by decide))]
    simp only [parseString_eq_ok_iff.mpr hname, ok_bind, hforbidden, hseen, refuse_false,
      skipWs_eq hcolon (noWs_cons (by decide)), hvalue]
    rcases hmore with ⟨rfl, hclose⟩ | ⟨t6, hcomma, hrest⟩
    · cases hdens
      rw [skipWs_eq hclose (noWs_cons (by decide))]
      rfl
    · obtain ⟨hnew, hnodup⟩ := List.nodup_cons.mp hnodup
      have hmembers := ih (fun m hm => hread m (.tail _ hm)) fuel depth (key :: seen) t6 ns rest hrest
        (fun m hm => hstrict m (.tail _ hm)) hdens hnodup (by
          intro n hn hmem
          rcases List.mem_cons.mp hmem with hnk | hns
          · exact hnew (List.mem_map.mpr ⟨n, hn, hnk⟩)
          · exact hfresh n (.tail _ hn) hns)
        (fun n hn => hallowed n (.tail _ hn)) (by omega)
      simp only [skipWs_eq hcomma (noWs_cons (by decide)), hmembers]
      rfl

/-- The rules for names, for the names of the value. -/
lemma names_of_strict {depth : Nat} (hden : DenotesMembers ms ns)
    (hstrict : Strict maxDepth depth (.obj ms)) :
    (ns.map Prod.fst).Nodup ∧ ∀ n ∈ ns, n.1 ∉ forbiddenKeys := by
  have hnames := denotesMembers_names hden
  cases hstrict with
  | obj hdepth hnodup hname hvalues =>
    refine ⟨?_, fun n hn hforbidden => ?_⟩
    · rw [hnames] at hnodup
      refine List.Nodup.of_map Json.units ?_
      rwa [List.map_map]
    · have hmem : Json.units n.1 ∈ ms.map Prod.fst := by
        rw [hnames]
        exact List.mem_map.mpr ⟨n, hn, rfl⟩
      obtain ⟨m, hm, heq⟩ := List.mem_map.mp hmem
      exact (hname m hm).2 (heq ▸ List.mem_map_of_mem hforbidden)

lemma parseValue_readAs (maxDepth : Nat) (d : Doc) : ReadAs maxDepth d := by
  have hfuel : ∀ {v : Json} {fuel : Nat}, (render v).length ≤ fuel → ∃ f, fuel = f + 1 := by
    intro v fuel h
    have := length_render_pos v
    exact ⟨fuel - 1, by omega⟩
  induction d using Doc.ind with
  | null =>
    intro fuel depth text t v rest hws hd hstrict hden hrest hlen
    obtain ⟨fuel, rfl⟩ := hfuel hlen
    cases hden
    cases hstrict with
    | null hdepth =>
    have hnull := parseNull_eq_ok_iff.mpr hd
    obtain rfl := value_null_iff.mp hd
    rw [parseValue, if_neg (Nat.not_lt.mpr hdepth), skipWs_eq hws hd.noWs]
    simp only [hnull]
    rfl
  | bool b =>
    intro fuel depth text t v rest hws hd hstrict hden hrest hlen
    obtain ⟨fuel, rfl⟩ := hfuel hlen
    cases hden
    cases hstrict with
    | bool hdepth =>
    have hbool := parseBool_eq_ok_iff.mpr hd
    rw [parseValue, if_neg (Nat.not_lt.mpr hdepth), skipWs_eq hws hd.noWs]
    obtain rfl := value_bool_iff.mp hd
    cases b
    · simp only [Bool.false_eq_true, if_false] at hbool
      simp only [Bool.false_eq_true, if_false, hbool]
      rfl
    · simp only [if_true] at hbool
      simp only [if_true, hbool]
      rfl
  | num x =>
    intro fuel depth text t v rest hws hd hstrict hden hrest hlen
    obtain ⟨fuel, rfl⟩ := hfuel hlen
    cases hden with
    | num hn =>
    cases hstrict with
    | num hdepth hfrac hexp hsafe =>
    have hnumber := value_num_iff.mp hd
    have hnum := parseNumber_of_number hnumber hfrac hexp hn hsafe hrest
    obtain ⟨c, t', rfl, hc⟩ := hnumber.head
    exact parseValue_number hdepth (skipWs_eq hws hd.noWs) hc hnum
  | str us =>
    intro fuel depth text t v rest hws hd hstrict hden hrest hlen
    obtain ⟨fuel, rfl⟩ := hfuel hlen
    cases hden
    cases hstrict with
    | str hdepth _ =>
    rw [parseValue, if_neg (Nat.not_lt.mpr hdepth), skipWs_eq hws hd.noWs]
    obtain ⟨t', rfl, hbody⟩ := value_str_iff.mp hd
    simp only [parseString_eq_ok_iff.mpr hbody]
    rfl
  | arr ds ih =>
    intro fuel depth text t v rest hws hd hstrict hden hrest hlen
    obtain ⟨fuel, rfl⟩ := hfuel hlen
    cases hden with
    | @arr _ vs hdens =>
    cases hstrict with
    | arr hdepth hstricts =>
    rw [parseValue, if_neg (Nat.not_lt.mpr hdepth), skipWs_eq hws hd.noWs]
    obtain ⟨t', rfl, ⟨rfl, hclose⟩ | hbody⟩ := value_arr_iff.mp hd
    · cases hdens
      simp only [skipWs_eq hclose (noWs_cons (by decide))]
      rfl
    · rw [render, List.length_cons] at hlen
      have helems := parseElems_of_elems ds ih fuel depth (skipWs t') vs rest (elems_skipWs hbody)
        hstricts hdens (by omega)
      dsimp only
      rw [if_neg (by decide), if_pos rfl]
      split
      · rename_i rest' hclose
        exact absurd hbody (not_elems_of_close (hclose ▸ ws_skipWs t'))
      · rw [helems]
        rfl
  | obj ms ih =>
    intro fuel depth text t v rest hws hd hstrict hden hrest hlen
    obtain ⟨fuel, rfl⟩ := hfuel hlen
    cases hden with
    | @obj _ ns hdens =>
    obtain ⟨hnodup, hallowed⟩ := names_of_strict hdens hstrict
    cases hstrict with
    | obj hdepth _ _ hstricts =>
    rw [parseValue, if_neg (Nat.not_lt.mpr hdepth), skipWs_eq hws hd.noWs]
    obtain ⟨t', rfl, ⟨rfl, hclose⟩ | hbody⟩ := value_obj_iff.mp hd
    · cases hdens
      simp only [skipWs_eq hclose (noWs_cons (by decide))]
      rfl
    · rw [render, List.length_cons] at hlen
      have hmembers := parseMembers_of_members ms ih fuel depth [] (skipWs t') ns rest
        (members_skipWs hbody) hstricts hdens hnodup (by simp) hallowed (by omega)
      dsimp only
      rw [if_pos rfl]
      split
      · rename_i rest' hclose
        exact absurd hbody (not_members_of_close (hclose ▸ ws_skipWs t'))
      · rw [hmembers]
        rfl

lemma parseValue_of_value (maxDepth : Nat) (d : Doc) : Read maxDepth d := by
  intro fuel depth text t v rest hws hd hstrict hden hrest hlen
  have hsize := Value.size_le d hd hstrict hden
  have hunits := length_le_length_toUnits (render v)
  have hgap := hws.length_le
  unfold size at hsize
  exact parseValue_readAs maxDepth d fuel depth text t v rest hws hd hstrict hden
    (ends_of_follow hrest) (by omega)

/-! ## The text of a value is in the grammar -/

lemma readsElems_render {xs : List Json} (hne : xs ≠ [])
    (h : ∀ x ∈ xs, ∀ rest, Ends rest →
      Reads maxDepth (depth + 1) (toUnits (render x) ++ rest) x rest) (rest : List Nat) :
    ReadsElems maxDepth depth (toUnits (renderElems true xs) ++ rest) xs rest := by
  induction xs with
  | nil => exact absurd rfl hne
  | cons x xs ih =>
    obtain ⟨t, d, hws, hd, hstrict, hden⟩ := h x (.head _) _ (ends_renderElems xs rest)
    have htext : toUnits (renderElems true (x :: xs)) ++ rest =
        toUnits (render x) ++ (toUnits (renderElems false xs) ++ rest) := by
      rw [renderElems, if_pos rfl, List.nil_append, toUnits_append, List.append_assoc]
    rw [htext]
    cases xs with
    | nil => exact ⟨[d], .last hws hd (.nil _), by simpa using hstrict, .cons hden .nil⟩
    | cons y ys =>
      obtain ⟨ds, hds, hstricts, hdens⟩ := ih (by simp) fun z hz => h z (.tail _ hz)
      exact ⟨d :: ds, .more hws hd (.nil _) hds, List.forall_mem_cons.mpr ⟨hstrict, hstricts⟩,
        .cons hden hdens⟩

lemma readsMembers_render (hne : ns ≠ [])
    (h : ∀ n ∈ ns, ∀ rest, Ends rest →
      Reads maxDepth (depth + 1) (toUnits (render n.2) ++ rest) n.2 rest) (rest : List Nat) :
    ReadsMembers maxDepth depth (toUnits (renderMembers true ns) ++ rest) ns rest := by
  induction ns with
  | nil => exact absurd rfl hne
  | cons n ns ih =>
    obtain ⟨k, v⟩ := n
    obtain ⟨t, d, hws, hd, hstrict, hden⟩ := h (k, v) (.head _) _ (ends_renderMembers ns rest)
    have htext : toUnits (renderMembers true ((k, v) :: ns)) ++ rest =
        0x22 :: (toUnits (stringRest k) ++
          0x3a :: (toUnits (render v) ++ (toUnits (renderMembers false ns) ++ rest))) := by
      rw [renderMembers, if_pos rfl, List.nil_append, stringText]
      simp only [toUnits_cons, toUnits_append, List.append_assoc, List.cons_append]
      rfl
    have hname := parseString_eq_ok_iff.mp (parseString_stringRest k
      (0x3a :: (toUnits (render v) ++ (toUnits (renderMembers false ns) ++ rest))))
    rw [htext]
    cases ns with
    | nil =>
      exact ⟨[(_, d)], .last (.nil _) hname (.nil _) hws hd (.nil _), by simpa using hstrict,
        .cons k hden .nil⟩
    | cons m ms =>
      obtain ⟨ds, hds, hstricts, hdens⟩ := ih (by simp) fun z hz => h z (.tail _ hz)
      exact ⟨(_, d) :: ds, .more (.nil _) hname (.nil _) hws hd (.nil _) hds,
        List.forall_mem_cons.mpr ⟨hstrict, hstricts⟩, .cons k hden hdens⟩

lemma reads_render (v : Json) : ∀ {depth : Nat}, v.Distinct → Allowed v → Fits maxDepth depth v →
    ∀ rest, Ends rest → Reads maxDepth depth (toUnits (render v) ++ rest) v rest := by
  induction v using Json.ind with
  | null => exact fun _ _ hfit rest _ => ⟨_, _, .nil _, .null _, .null hfit, .null⟩
  | bool b =>
    intro depth _ _ hfit rest _
    cases b with
    | false => exact ⟨_, _, .nil _, .false _, .bool hfit, .bool _⟩
    | true => exact ⟨_, _, .nil _, .true _, .bool hfit, .bool _⟩
  | num n =>
    intro depth _ _ hfit rest hends
    obtain ⟨x, hx, hfrac, hexp, hval, hsafe⟩ :=
      number_of_parseNumber (parseNumber_intText hfit.2 hends)
    exact ⟨_, _, .nil _, .number hx, .num hfit.1 hfrac hexp hsafe, .num hval⟩
  | str s =>
    intro depth _ _ hfit rest _
    have hbody := parseString_eq_ok_iff.mp (parseString_stringRest s rest)
    exact ⟨_, _, .nil _, .string hbody, .str hfit ⟨s, rfl⟩, .str s⟩
  | arr xs ih =>
    intro depth hdist hallow hfit rest _
    rw [distinct_arr] at hdist
    rw [fits_arr] at hfit
    have hallow := (allowedElems_iff xs).mp hallow
    cases xs with
    | nil => exact ⟨_, _, .nil _, .emptyArray (.nil _), .arr hfit.1 (by simp), .arr .nil⟩
    | cons x xs =>
      obtain ⟨ds, hds, hstricts, hdens⟩ := readsElems_render (by simp)
        (fun y hy => ih y hy (hdist y hy) (hallow y hy) (hfit.2 y hy)) rest
      exact ⟨_, _, .nil _, .array hds, .arr hfit.1 hstricts, .arr hdens⟩
  | obj ns ih =>
    intro depth hdist hallow hfit rest _
    obtain ⟨hnodup, hdist⟩ := (distinct_obj ns).mp hdist
    rw [fits_obj] at hfit
    have hallow := (allowedMembers_iff ns).mp hallow
    cases ns with
    | nil =>
      exact ⟨_, _, .nil _, .emptyObject (.nil _), .obj hfit.1 (by simp) (by simp) (by simp),
        .obj .nil⟩
    | cons n ns =>
      obtain ⟨ds, hds, hstricts, hdens⟩ := readsMembers_render (by simp)
        (fun m hm => ih m hm (hdist m hm) (hallow m hm).2 (hfit.2 m hm)) rest
      exact ⟨_, _, .nil _, .object hds,
        strict_obj hfit.1 hdens hnodup (fun m hm => (hallow m hm).1) hstricts, .obj hdens⟩

/-- The parser reads the value's own text back, at any depth where it fits, with enough fuel. -/
def ReadBack (maxDepth : Nat) (v : Json) : Prop :=
  ∀ fuel depth text, v.Distinct → Allowed v → Fits maxDepth depth v → (render v).length ≤ fuel →
    Ends text → parseValue maxDepth fuel depth (toUnits (render v) ++ text) = .ok (v, text)

/-- The parser reads every value back from its own text. -/
theorem parseValue_render (maxDepth : Nat) (v : Json) : ReadBack maxDepth v := by
  intro fuel depth text hdist hallow hfit hlen hends
  obtain ⟨t, d, hws, hd, hstrict, hden⟩ := reads_render v hdist hallow hfit text hends
  exact parseValue_readAs maxDepth d fuel depth _ t v text hws hd hstrict hden hends hlen

lemma exists_denotesElems {ds : List Doc} (h : ∀ d ∈ ds, ∃ v, Denotes d v) :
    ∃ vs, DenotesElems ds vs := by
  induction ds with
  | nil => exact ⟨_, .nil⟩
  | cons d ds ih =>
    obtain ⟨v, hv⟩ := h d (.head _)
    obtain ⟨vs, hvs⟩ := ih fun e he => h e (.tail _ he)
    exact ⟨_, .cons hv hvs⟩

lemma exists_denotesMembers
    (h : ∀ m ∈ ms, WellFormedUnits m.1 ∧ ∃ v, Denotes m.2 v) : ∃ ns, DenotesMembers ms ns := by
  induction ms with
  | nil => exact ⟨_, .nil⟩
  | cons m ms ih =>
    obtain ⟨name, d⟩ := m
    obtain ⟨⟨k, rfl⟩, v, hv⟩ := h _ (.head _)
    obtain ⟨ns, hns⟩ := ih fun n hn => h n (.tail _ hn)
    exact ⟨_, .cons k hv hns⟩

/-- A document that keeps the rules denotes a value. -/
lemma exists_denotes {d : Doc} :
    ∀ {depth : Nat}, Strict maxDepth depth d → ∃ v, Denotes d v := by
  induction d using Doc.ind with
  | null => exact fun _ => ⟨_, .null⟩
  | bool b => exact fun _ => ⟨_, .bool b⟩
  | num x =>
    intro depth h
    cases h with
    | num _ hfrac hexp _ => exact ⟨_, .num (Numeral.value_of_integer hfrac hexp)⟩
  | str us =>
    intro depth h
    cases h with
    | str _ hus =>
      obtain ⟨s, rfl⟩ := hus
      exact ⟨_, .str s⟩
  | arr ds ih =>
    intro depth h
    cases h with
    | arr _ hds =>
      obtain ⟨vs, hvs⟩ := exists_denotesElems fun d hd => ih d hd (hds d hd)
      exact ⟨_, .arr hvs⟩
  | obj ms ih =>
    intro depth h
    cases h with
    | obj _ _ hnames hms =>
      obtain ⟨ns, hns⟩ := exists_denotesMembers fun m hm => ⟨(hnames m hm).1, ih m hm (hms m hm)⟩
      exact ⟨_, .obj hns⟩

/-! ## Texts -/

lemma safeParse_eq_ok_iff {maxLength : Nat} {text : List Nat}
    (hlen : text.length ≤ maxLength) {v : Json} : safeParse maxDepth maxLength text = .ok v ↔
      ∃ d, JsonText text d ∧ Strict maxDepth 0 d ∧ Denotes d v := by
  have hend : Follow [] := by simp [Starts]
  rw [safeParse, if_neg (Nat.not_lt.mpr hlen)]
  constructor
  · intro h
    split at h
    · cases h
    rename_i value rest hvalue
    split at h
    · rename_i hrest
      cases h
      obtain ⟨t, d, hws, hd, hstrict, hden⟩ := (parse_reads maxDepth _).1 _ _ _ _ hvalue
      exact ⟨d, .mk hws hd (hrest ▸ ws_skipWs rest), hstrict, hden⟩
    · cases h
  · rintro ⟨d, ⟨hws, hd, hrest⟩, hstrict, hden⟩
    rename_i t rest
    have hvalue := parseValue_of_value maxDepth d (text.length + 1) 0 text t v rest hws hd hstrict
      hden (hrest.follow hend) (by omega)
    have hskip : skipWs rest = [] := skipWs_eq hrest (by simp [Starts])
    simp only [hvalue, hskip]

end SafeJson

/-- A document is read back from its text. -/
theorem parseDocument_render {v : Json} (hdist : v.Distinct) (hallow : SafeJson.Allowed v)
    (hfit : Json.Fits 64 0 v) (hlen : utf8Length (Json.render v) ≤ MAX_INPUT_BYTES) (what : String) :
    parseDocument (Json.render v) what = .ok v := by
  have hunits := SafeJson.length_toUnits_le (Json.render v)
  have hread := SafeJson.parseValue_render 64 v ((SafeJson.toUnits (Json.render v)).length + 1) 0 []
    hdist hallow hfit (Nat.le_succ_of_le (SafeJson.length_le_length_toUnits _)) SafeJson.ends_nil
  rw [List.append_nil] at hread
  have hparse : SafeJson.safeParse 64 MAX_INPUT_BYTES (SafeJson.toUnits (Json.render v)) = .ok v := by
    rw [SafeJson.safeParse, if_neg (by omega), hread]
    rfl
  unfold SafeJson.toUnits at hparse
  rw [parseDocument, if_neg (by omega), hparse]

open Rfc8259 SafeJson in
/-- The strict parser accepts exactly its language.

A text within the length limit is accepted if and only if the JSON grammar reads it as a document that
keeps the rules, and the value returned is the one and only value of the document that the grammar
reads. -/
theorem safeParse_language {text : List Nat} (hlen : text.length ≤ MAX_INPUT_BYTES) :
    ((∃ v, safeParse 64 MAX_INPUT_BYTES text = .ok v) ↔ ∃ d, JsonText text d ∧ Strict 64 0 d) ∧
    ∀ v, safeParse 64 MAX_INPUT_BYTES text = .ok v →
      ∀ d, JsonText text d → ∀ v', Denotes d v' ↔ v' = v := by
  refine ⟨⟨?_, ?_⟩, fun v h d hd v' => ⟨fun hv' => ?_, ?_⟩⟩
  · rintro ⟨v, h⟩
    obtain ⟨d, hd, hstrict, -⟩ := (safeParse_eq_ok_iff hlen).mp h
    exact ⟨d, hd, hstrict⟩
  · rintro ⟨d, hd, hstrict⟩
    obtain ⟨v, hv⟩ := exists_denotes hstrict
    exact ⟨v, (safeParse_eq_ok_iff hlen).mpr ⟨d, hd, hstrict, hv⟩⟩
  · obtain ⟨d₀, hd₀, hstrict, -⟩ := (safeParse_eq_ok_iff hlen).mp h
    obtain rfl := hd.unique hd₀
    have hparse := (safeParse_eq_ok_iff hlen).mpr ⟨d, hd, hstrict, hv'⟩
    exact ok_unique hparse h
  · rintro rfl
    obtain ⟨d₀, hd₀, -, hden⟩ := (safeParse_eq_ok_iff hlen).mp h
    obtain rfl := hd.unique hd₀
    exact hden

namespace SafeJson.Sample

/-- ` [-0,"\u0041"]` -/
def text : List Nat :=
  [0x20, 0x5b, 0x2d, 0x30, 0x2c, 0x22, 0x5c, 0x75, 0x30, 0x30, 0x34, 0x31, 0x22, 0x5d]

def value : Json := .arr [.num 0, .str "A"]

end SafeJson.Sample

open Rfc8259 SafeJson in
/-- A text with white space, a negative zero and an escape. -/
theorem safeParse_language_sample :
    ∃ d, JsonText Sample.text d ∧ Strict 64 0 d ∧ ∀ v', Denotes d v' ↔ v' = Sample.value := by
  have hparse : safeParse 64 MAX_INPUT_BYTES Sample.text = .ok Sample.value := by decide +kernel
  obtain ⟨haccepts, hvalue⟩ := @safeParse_language Sample.text (by decide)
  obtain ⟨d, hd, hstrict⟩ := haccepts.mp ⟨_, hparse⟩
  exact ⟨d, hd, hstrict, hvalue _ hparse d hd⟩

end NoaMandate
