import Mathlib.Algebra.BigOperators.Group.List.Basic
import NoaMandate.Kernel.Receipt
import NoaMandate.Kernel.SafeJsonSound

/-!
# Parsing and canonicalisation are inverse

The canonical text of a parsed value is the shortest of its texts, and sorting the members does not
change the length.  So a canonical text is within the limits whenever the text it was made from is, and
the parser reads it back as the value with its members sorted.
-/

namespace NoaMandate

open Pipeline

namespace SafeJson

open Json Rfc8259

/-- Sorting the members does not change the length. -/
lemma size_norm (v : Json) : size (norm v) = size v := by
  induction v using Json.ind with
  | arr xs ih =>
    rw [norm_arr]
    cases xs with
    | nil => rfl
    | cons x xs =>
      rw [List.map_cons, size_arr, size_arr, ← List.map_cons, List.map_map]
      refine congrArg (fun l => List.sum l + 1) (List.map_congr_left fun y hy => ?_)
      exact congrArg (· + 1) (ih y hy)
  | obj ms ih =>
    rw [norm_obj]
    cases ms with
    | nil => rfl
    | cons m ms =>
      have hperm := sortMembers_perm (m :: ms)
      cases hsorted : sortMembers (m :: ms) with
      | nil => rw [hsorted] at hperm; exact absurd hperm.nil_eq (by simp)
      | cons n ns =>
        rw [hsorted] at hperm
        have hsum := (hperm.map fun m => tokenSize m.1 + size m.2 + 2).sum_eq
        have hmap : ((n :: ns).map fun m => (m.1, Json.norm m.2)) =
            (n.1, Json.norm n.2) :: ns.map fun m => (m.1, Json.norm m.2) := rfl
        rw [hmap, size_obj, ← hmap, List.map_map, size_obj, ← hsum]
        refine congrArg (fun l => List.sum l + 1) (List.map_congr_left fun y hy => ?_)
        exact congrArg (tokenSize y.1 + · + 2) (ih y (hperm.mem_iff.mp hy))
  | _ => rfl

variable {text : List Nat}

/-! ## Accepted texts -/

/-- What an accepted text says about its value. -/
structure Accepted (text : List Nat) (v : Json) : Prop where
  form : WellFormed 64 0 v
  length : size v ≤ text.length
  limit : text.length ≤ MAX_INPUT_BYTES

lemma accepted_of_safeParse {v : Json}
    (h : safeParse 64 MAX_INPUT_BYTES text = .ok v) : Accepted text v := by
  have hlen : text.length ≤ MAX_INPUT_BYTES := by
    by_contra hlong
    rw [safeParse, if_pos (Nat.lt_of_not_le hlong)] at h
    cases h
  obtain ⟨d, ⟨hws, hd, -⟩, hstrict, hden⟩ := (safeParse_eq_ok_iff hlen).mp h
  have hsize := Value.size_le d hd hstrict hden
  refine ⟨?_, (Nat.le_of_add_right_le hsize).trans hws.length_le, hlen⟩
  rw [safeParse, if_neg (Nat.not_lt.mpr hlen)] at h
  split at h
  · cases h
  rename_i value rest hvalue
  split at h
  · cases h
    exact parseValue_wellFormed hvalue
  · cases h

lemma Allowed.norm {v : Json} (h : Allowed v) : Allowed (norm v) := by
  induction v using Json.ind with
  | arr xs ih =>
    have hxs := (allowedElems_iff xs).mp h
    rw [norm_arr]
    refine (allowedElems_iff _).mpr fun x hx => ?_
    obtain ⟨x', hx', rfl⟩ := List.mem_map.mp hx
    exact ih x' hx' (hxs x' hx')
  | obj ms ih =>
    have hms := (allowedMembers_iff ms).mp h
    rw [norm_obj]
    refine (allowedMembers_iff _).mpr fun m hm => ?_
    obtain ⟨m', hm', rfl⟩ := exists_mem_of_mem_norm hm
    exact ⟨(hms m' hm').1, ih m' hm' (hms m' hm').2⟩
  | _ => trivial

/-- The text of a well-formed value is read back. -/
lemma safeParse_render {v : Json} (h : WellFormed 64 0 v) (hlen : size v ≤ MAX_INPUT_BYTES) :
    safeParse 64 MAX_INPUT_BYTES (toUnits (render v)) = .ok v := by
  have hfuel := length_le_length_toUnits (render v)
  have hvalue := parseValue_render 64 v ((toUnits (render v)).length + 1) 0 [] h.distinct h.allowed
    h.fits (by omega) ends_nil
  rw [List.append_nil] at hvalue
  have hlimit : ¬ MAX_INPUT_BYTES < (toUnits (render v)).length := Nat.not_lt.mpr hlen
  rw [safeParse, if_neg hlimit, hvalue]
  rfl

end SafeJson

open SafeJson in
/-- Parsing and canonicalisation are inverse.

The canonical text of an accepted text's value exists, is no longer than the text, and parses to an
equal value with the same canonical text.  Two accepted texts have the same canonical text exactly if
their values are equal up to the order of object members; `-0` is read as `0`. -/
theorem safeParse_canonicalize : (∀ text v, safeParse 64 MAX_INPUT_BYTES text = .ok v →
      ∃ t, canonicalize v = some t ∧ (toUnits t).length ≤ text.length ∧
        ∃ w, safeParse 64 MAX_INPUT_BYTES (toUnits t) = .ok w ∧ Json.Eqv w v ∧
          canonicalize w = some t) ∧ ∀ text text' v v', safeParse 64 MAX_INPUT_BYTES text = .ok v →
      safeParse 64 MAX_INPUT_BYTES text' = .ok v' →
      (canonicalize v = canonicalize v' ↔ Json.Eqv v v') := by
  refine ⟨fun text v h => ?_, fun text text' v v' h h' => ?_⟩
  · obtain ⟨hform, hsize, hlimit⟩ := accepted_of_safeParse h
    obtain ⟨t, ht⟩ := Json.exists_canonicalText hform.fits
    obtain rfl := Json.serialize_eq_render _ v 0 t ht
    have hlen : (toUnits (Json.render (Json.norm v))).length ≤ text.length :=
      (size_norm v).trans_le hsize
    have hnorm : WellFormed 64 0 (Json.norm v) :=
      ⟨hform.distinct.norm, hform.allowed.norm, hform.fits.norm⟩
    obtain ⟨u, hu⟩ := Json.exists_canonicalText hnorm.fits
    obtain rfl := Json.canonicalText_eq_of_eqv (Json.eqv_norm v) hu ht
    exact ⟨_, ht, hlen, _, safeParse_render hnorm (hlen.trans hlimit), Json.eqv_norm v, hu⟩
  · obtain ⟨t, ht⟩ := Json.exists_canonicalText (accepted_of_safeParse h).form.fits
    obtain ⟨t', ht'⟩ := Json.exists_canonicalText (accepted_of_safeParse h').form.fits
    constructor
    · intro heq
      exact Json.eqv_of_canonicalText_eq ht (ht'.trans (ht'.symm.trans (heq.symm.trans ht)))
    · intro heqv
      exact ht.trans ((Json.canonicalText_eq_of_eqv heqv ht ht') ▸ ht'.symm)

open SafeJson in
/-- The sample text, whose canonical text has neither the white space nor the sign nor the escape. -/
theorem safeParse_canonicalize_sample :
    ∃ t, canonicalize Sample.value = some t ∧ (toUnits t).length ≤ Sample.text.length ∧
      ∃ w, safeParse 64 MAX_INPUT_BYTES (toUnits t) = .ok w ∧ Json.Eqv w Sample.value ∧
        canonicalize w = some t :=
  safeParse_canonicalize.1 Sample.text Sample.value (by decide +kernel)

end NoaMandate
