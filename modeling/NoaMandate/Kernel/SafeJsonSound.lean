import NoaMandate.Kernel.SafeJsonComplete

/-!
# What the parser accepts is well formed

Every value the strict parser returns has distinct member names, none of them a forbidden one, is
nested no deeper than the limit and holds integers in the safe range only.  The grammar reads what
the parser accepts as a document that keeps the parser's rules, and the rules carry over to the value
the document denotes, by induction on the value.
-/

namespace NoaMandate

open Pipeline

namespace SafeJson

open Rfc8259

/-- A value that may stand at nesting depth `depth` of a parsed document. -/
structure WellFormed (maxDepth depth : Nat) (v : Json) : Prop where
  distinct : v.Distinct
  allowed : Allowed v
  fits : Json.Fits maxDepth depth v

/-- Members that may follow the names `seen` in an object at depth `depth`. -/
structure WellFormedMembers (maxDepth depth : Nat) (seen : List String)
    (ms : List (String × Json)) : Prop where
  nodup : (ms.map Prod.fst).Nodup
  fresh : ∀ m ∈ ms, m.1 ∉ seen
  allowed : ∀ m ∈ ms, m.1 ∉ forbiddenKeys
  values : ∀ m ∈ ms, WellFormed maxDepth (depth + 1) m.2

variable {maxDepth depth fuel : Nat}

variable {ms : List (String × Json)} {xs : List Json}

lemma WellFormed.arr (hdepth : depth ≤ maxDepth)
    (h : ∀ x ∈ xs, WellFormed maxDepth (depth + 1) x) : WellFormed maxDepth depth (.arr xs) where
  distinct := (Json.distinct_arr xs).mpr fun x hx => (h x hx).distinct
  allowed := (allowedElems_iff xs).mpr fun x hx => (h x hx).allowed
  fits := (Json.fits_arr _ _ _).mpr ⟨hdepth, fun x hx => (h x hx).fits⟩

lemma WellFormedMembers.obj (hdepth : depth ≤ maxDepth)
    (h : WellFormedMembers maxDepth depth [] ms) : WellFormed maxDepth depth (.obj ms) where
  distinct := (Json.distinct_obj ms).mpr ⟨h.nodup, fun m hm => (h.values m hm).distinct⟩
  allowed := (allowedMembers_iff ms).mpr fun m hm => ⟨h.allowed m hm, (h.values m hm).allowed⟩
  fits := (Json.fits_obj _ _ _).mpr ⟨hdepth, fun m hm => (h.values m hm).fits⟩

variable {ds : List Doc} {ds' : List (List Nat × Doc)}

lemma exists_of_denotesElems (h : DenotesElems ds xs) : ∀ x ∈ xs, ∃ d ∈ ds, Denotes d x := by
  induction ds generalizing xs with
  | nil => cases h; simp
  | cons d ds ih =>
    cases h with
    | cons hd hds =>
      simp only [List.forall_mem_cons, List.exists_mem_cons_iff]
      exact ⟨.inl hd, fun x hx => .inr (ih hds x hx)⟩

lemma exists_of_denotesMembers (h : DenotesMembers ds' ms) :
    ∀ m ∈ ms, ∃ d ∈ ds', Denotes d.2 m.2 := by
  induction ds' generalizing ms with
  | nil => cases h; simp
  | cons d ds' ih =>
    cases h with
    | cons k hd hds =>
      simp only [List.forall_mem_cons, List.exists_mem_cons_iff]
      exact ⟨.inl hd, fun m hm => .inr (ih hds m hm)⟩

/-- What a document that keeps the rules denotes is well formed. -/
lemma WellFormed.of_strict {v : Json} : ∀ {depth : Nat} {d : Doc}, Strict maxDepth depth d →
    Denotes d v → WellFormed maxDepth depth v := by
  induction v using Json.ind with
  | null =>
    intro depth d h hden
    cases hden
    cases h with
    | null hdepth => exact ⟨trivial, trivial, hdepth⟩
  | bool b =>
    intro depth d h hden
    cases hden
    cases h with
    | bool hdepth => exact ⟨trivial, trivial, hdepth⟩
  | num n =>
    intro depth d h hden
    cases hden with
    | num hn =>
    cases h with
    | num hdepth _ _ hsafe =>
      rw [hn, ← Int.cast_abs, Int.abs_eq_natAbs] at hsafe
      exact ⟨trivial, trivial, hdepth, by exact_mod_cast hsafe⟩
  | str s =>
    intro depth d h hden
    cases hden
    cases h with
    | str hdepth _ => exact ⟨trivial, trivial, hdepth⟩
  | arr xs ih =>
    intro depth d h hden
    cases hden with
    | arr hdens =>
    cases h with
    | arr hdepth hds =>
      refine .arr hdepth fun x hx => ?_
      obtain ⟨d, hd, hden⟩ := exists_of_denotesElems hdens x hx
      exact ih x hx (hds d hd) hden
  | obj ms ih =>
    intro depth d h hden
    cases hden with
    | obj hdens =>
    obtain ⟨hnodup, hallowed⟩ := names_of_strict hdens h
    cases h with
    | obj hdepth _ _ hds =>
      refine WellFormedMembers.obj hdepth ⟨hnodup, by simp, hallowed, fun m hm => ?_⟩
      obtain ⟨d, hd, hden⟩ := exists_of_denotesMembers hdens m hm
      exact ih m hm (hds d hd) hden

/-- The parser returns well-formed values. -/
lemma parseValue_wellFormed {text rest : List Nat} {v : Json}
    (h : parseValue maxDepth fuel depth text = .ok (v, rest)) : WellFormed maxDepth depth v := by
  obtain ⟨t, d, -, -, hstrict, hden⟩ := (parse_reads maxDepth fuel).1 _ _ _ _ h
  exact .of_strict hstrict hden

end SafeJson

/-- A document that parses is well formed. -/
theorem parseDocument_wellFormed {text : List Char} {what : String} {v : Json}
    (h : parseDocument text what = .ok v) : SafeJson.WellFormed 64 0 v := by
  unfold parseDocument at h
  split at h
  · cases h
  split at h
  · rename_i v' hparse
    cases h
    unfold SafeJson.safeParse at hparse
    split at hparse
    · cases hparse
    split at hparse
    · cases hparse
    rename_i value rest hvalue
    split at hparse
    · cases hparse
      exact SafeJson.parseValue_wellFormed hvalue
    · cases hparse
  · cases h

/-! ## A test for documents

Reading a document back from its text takes a pass over every character.  Whether it is read back can
be told from the value itself. -/

namespace SafeJson

open Json (intText maxSafe)

lemma utf8Length_eq_utf8ByteSize (cs : List Char) :
    utf8Length cs = (String.ofList cs).utf8ByteSize := by
  induction cs with
  | nil => rfl
  | cons c cs ih =>
    rw [utf8Length_cons, ih, ← List.singleton_append, String.ofList_append,
      String.utf8ByteSize_append]
    simp

/-- A string token against the size of its string. -/
lemma utf8Length_stringText_le_size (s : String) :
    utf8Length (Json.stringText s) ≤ 24 * s.utf8ByteSize + 2 := by
  have htoken := utf8Length_stringText_le s
  have hunits : (Json.units s).length ≤ utf8Length (Text.chars s) := length_toUnits_le _
  rw [utf8Length_eq_utf8ByteSize, Text.chars_eq_toList, String.ofList_toList] at hunits
  omega

mutual

/-- A bound on the length of a value's text, if the value is not nested too deep, its numbers are
safe and every object has distinct and allowed names. -/
def textBound (depth : Nat) : Json → Option Nat
  | .null => if depth ≤ 64 then some 4 else none
  | .bool _ => if depth ≤ 64 then some 5 else none
  | .num n => if depth ≤ 64 ∧ n.natAbs ≤ maxSafe then some (utf8Length (intText n)) else none
  | .str s => if depth ≤ 64 then some (24 * s.utf8ByteSize + 2) else none
  | .arr xs => if depth ≤ 64 then (textBoundElems (depth + 1) xs).map (· + 1) else none
  | .obj ms => if depth ≤ 64 then (textBoundMembers (depth + 1) ms).map (· + 1) else none

/-- The bound for the elements of an array, with a comma or a bracket each. -/
def textBoundElems (depth : Nat) : List Json → Option Nat
  | [] => some 1
  | x :: xs => do
    let bx ← textBound depth x
    let bxs ← textBoundElems depth xs
    return bx + bxs + 1

/-- The bound for the members of an object. -/
def textBoundMembers (depth : Nat) : List (String × Json) → Option Nat
  | [] => some 1
  | (k, v) :: ms =>
    if k ∈ forbiddenKeys ∨ k ∈ ms.map Prod.fst then none
    else do
      let bv ← textBound depth v
      let bms ← textBoundMembers depth ms
      return 24 * k.utf8ByteSize + bv + bms + 4

end

/-- The test is right about a value. -/
def Tested (v : Json) : Prop :=
  ∀ depth n, textBound depth v = some n →
    WellFormed 64 depth v ∧ utf8Length (Json.render v) ≤ n

lemma utf8Length_separator_le (first : Bool) : utf8Length (if first then [] else [',']) ≤ 1 := by
  cases first <;> decide

lemma tested_elems (ih : ∀ x ∈ xs, Tested x) {n : Nat} (first : Bool)
    (h : textBoundElems depth xs = some n) :
    (∀ x ∈ xs, WellFormed 64 depth x) ∧ utf8Length (Json.renderElems first xs) ≤ n := by
  induction xs generalizing n first with
  | nil =>
    cases h
    exact ⟨fun _ hx => absurd hx List.not_mem_nil, by rw [Json.renderElems]; decide⟩
  | cons x xs ihxs =>
    simp only [textBoundElems, Option.bind_eq_bind, Option.bind_eq_some_iff, Option.pure_def,
      Option.some.injEq] at h
    obtain ⟨bx, hx, bxs, hxs, rfl⟩ := h
    obtain ⟨hform, hlen⟩ := ih x (.head _) depth bx hx
    obtain ⟨hforms, hlens⟩ := ihxs (fun y hy => ih y (.tail _ hy)) false hxs
    have hsep := utf8Length_separator_le first
    refine ⟨List.forall_mem_cons.mpr ⟨hform, hforms⟩, ?_⟩
    rw [Json.renderElems, utf8Length_append, utf8Length_append]
    omega

lemma tested_members (ih : ∀ m ∈ ms, Tested m.2) {n : Nat}
    (first : Bool) (h : textBoundMembers (depth + 1) ms = some n) :
    WellFormedMembers 64 depth [] ms ∧ utf8Length (Json.renderMembers first ms) ≤ n := by
  induction ms generalizing n first with
  | nil =>
    cases h
    exact ⟨⟨List.nodup_nil, by simp, by simp, by simp⟩, by rw [Json.renderMembers]; decide⟩
  | cons m ms ihms =>
    obtain ⟨k, v⟩ := m
    rw [textBoundMembers] at h
    split at h
    · cases h
    rename_i hk
    simp only [Option.bind_eq_bind, Option.bind_eq_some_iff, Option.pure_def,
      Option.some.injEq] at h
    obtain ⟨bv, hv, bms, hms, rfl⟩ := h
    obtain ⟨hallowed, hfresh⟩ := not_or.mp hk
    obtain ⟨hform, hlen⟩ : WellFormed 64 (depth + 1) v ∧ utf8Length (Json.render v) ≤ bv :=
      ih (k, v) (.head _) (depth + 1) bv hv
    obtain ⟨hforms, hlens⟩ := ihms (fun m hm => ih m (.tail _ hm)) false hms
    have hsep := utf8Length_separator_le first
    have hname := utf8Length_stringText_le_size k
    have hcolon : Char.utf8Size ':' = 1 := by decide
    refine ⟨⟨List.nodup_cons.mpr ⟨hfresh, hforms.nodup⟩, by simp,
      List.forall_mem_cons.mpr ⟨hallowed, hforms.allowed⟩,
      List.forall_mem_cons.mpr ⟨hform, hforms.values⟩⟩, ?_⟩
    rw [Json.renderMembers, utf8Length_append, utf8Length_append, utf8Length_cons,
      utf8Length_append]
    omega

lemma tested (v : Json) : Tested v := by
  induction v using Json.ind with
  | null =>
    intro depth n h
    obtain ⟨hdepth, ⟨⟩⟩ := Option.ite_none_right_eq_some.mp h
    exact ⟨⟨trivial, trivial, hdepth⟩, by rw [Json.render]; decide⟩
  | bool b =>
    intro depth n h
    obtain ⟨hdepth, ⟨⟩⟩ := Option.ite_none_right_eq_some.mp h
    exact ⟨⟨trivial, trivial, hdepth⟩, by cases b <;> rw [Json.render] <;> decide⟩
  | num i =>
    intro depth n h
    obtain ⟨⟨hdepth, hsafe⟩, ⟨⟩⟩ := Option.ite_none_right_eq_some.mp h
    exact ⟨⟨trivial, trivial, hdepth, hsafe⟩, le_rfl⟩
  | str s =>
    intro depth n h
    obtain ⟨hdepth, ⟨⟩⟩ := Option.ite_none_right_eq_some.mp h
    exact ⟨⟨trivial, trivial, hdepth⟩, utf8Length_stringText_le_size s⟩
  | arr xs ih =>
    intro depth n h
    obtain ⟨hdepth, h⟩ := Option.ite_none_right_eq_some.mp h
    obtain ⟨b, hb, rfl⟩ := Option.map_eq_some_iff.mp h
    obtain ⟨hforms, hlen⟩ := tested_elems ih true hb
    have hbracket : Char.utf8Size '[' = 1 := by decide
    refine ⟨.arr hdepth hforms, ?_⟩
    rw [Json.render, utf8Length_cons]
    omega
  | obj ms ih =>
    intro depth n h
    obtain ⟨hdepth, h⟩ := Option.ite_none_right_eq_some.mp h
    obtain ⟨b, hb, rfl⟩ := Option.map_eq_some_iff.mp h
    obtain ⟨hforms, hlen⟩ := tested_members ih true hb
    have hbrace : Char.utf8Size '\x7b' = 1 := by decide
    refine ⟨hforms.obj hdepth, ?_⟩
    rw [Json.render, utf8Length_cons]
    omega

end SafeJson

/-- A document that passes the test is read back from its text. -/
theorem parseDocument_of_textBound {v : Json}
    (h : (SafeJson.textBound 0 v).any (· ≤ MAX_INPUT_BYTES) = true) (what : String) :
    parseDocument (Json.render v) what = .ok v := by
  cases hbound : SafeJson.textBound 0 v with
  | none => rw [hbound] at h; cases h
  | some n =>
    rw [hbound] at h
    obtain ⟨hform, hlen⟩ := SafeJson.tested v 0 n hbound
    exact parseDocument_render hform.distinct hform.allowed hform.fits
      (hlen.trans (of_decide_eq_true h)) what

end NoaMandate
