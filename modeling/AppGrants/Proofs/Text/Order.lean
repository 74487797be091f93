import AppGrants.Text.Order

/-! The order of texts is a linear one. -/
namespace AppGrants.Text

theorem compareChars_eq (left right : List Char) :
    compareChars left right = compare (left.map Char.toNat) (right.map Char.toNat) := by
  induction left generalizing right with
  | nil => cases right <;> rfl
  | cons c left ih =>
    cases right with
    | nil => rfl
    | cons d right =>
      rw [compareChars,ih]
      exact List.compareLex_cons_cons.symm

instance : Std.TransCmp compareChars where
  eq_swap := by
    intro left right
    rw [compareChars_eq,compareChars_eq]
    exact Std.OrientedOrd.eq_swap
  isLE_trans := by
    intro left middle right
    rw [compareChars_eq,compareChars_eq,compareChars_eq]
    exact Std.TransOrd.isLE_trans

theorem transCmp_of_chars {order : String → String → Ordering} (chars : String → List Char)
    (same : ∀ left right, order left right = compareChars (chars left) (chars right)) : Std.TransCmp order where
  eq_swap := by
    intro left right
    rw [same,same]
    exact Std.OrientedCmp.eq_swap
  isLE_trans := by
    intro left middle right
    rw [same,same,same]
    exact Std.TransCmp.isLE_trans

instance : Std.TransCmp compareTexts := transCmp_of_chars String.toList fun _ _ => rfl

instance : Std.TransCmp compareFolded := transCmp_of_chars _ fun _ _ => rfl

instance : Std.TransCmp compareLabels := inferInstanceAs (Std.TransCmp (compareLex compareFolded compareTexts))

instance : Std.LawfulEqCmp compareTexts where
  eq_of_compare := by
    intro left right same
    rw [compareTexts,compareChars_eq] at same
    have codes := Std.LawfulEqOrd.eq_of_compare same
    exact String.toList_injective ((List.map_inj_right fun _ _ => Char.toNat_inj.mp).mp codes)
  compare_self := by
    intro text
    rw [compareTexts,compareChars_eq]
    exact Std.ReflOrd.compare_self

instance : Std.LawfulEqCmp compareLabels where
  eq_of_compare same := Std.LawfulEqCmp.eq_of_compare (Ordering.then_eq_eq.mp same).2
  compare_self := Std.ReflCmp.compare_self

end AppGrants.Text
