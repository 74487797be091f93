import Mathlib.Data.List.Nodup

/-! Values that are looked up by their names. -/
namespace AppGrants
variable {α : Type} {fields : List (String × α)} {name : String}

theorem lookup_cons_ne {other : String} (apart : name ≠ other) (value : α) (fields : List (String × α)) :
    ((other,value) :: fields).lookup name = fields.lookup name := by
  rw [List.lookup_cons,beq_false_of_ne apart]

theorem lookup_eq_none (absent : name ∉ fields.map (·.1)) : fields.lookup name = none := by
  rw [List.lookup_eq_none_iff]
  intro field member
  rw [bne_iff_ne]
  rintro rfl
  exact absent (List.mem_map_of_mem member)

theorem lookup_reverse (distinct : (fields.map (·.1)).Nodup) : fields.reverse.lookup name = fields.lookup name := by
  induction fields with
  | nil => rfl
  | cons first rest ih =>
    obtain ⟨fresh,distinct⟩ := List.nodup_cons.mp distinct
    rw [List.reverse_cons,List.lookup_append,ih distinct]
    by_cases same : name = first.1
    · subst same
      rw [lookup_eq_none fresh,List.lookup_cons_self,List.lookup_cons_self]
      rfl
    · rw [lookup_cons_ne same,lookup_cons_ne same,List.lookup_nil,Option.or_none]

theorem lookup_filter (given : String → Bool) (fields : List (String × α)) (name : String) :
    (fields.filter (given ·.1)).lookup name = if given name then fields.lookup name else none := by
  induction fields with
  | nil => simp
  | cons field fields ih =>
    by_cases same : name = field.1
    · subst same
      cases there : given field.1 with
      | true => rw [List.filter_cons_of_pos (by exact there),List.lookup_cons_self,List.lookup_cons_self,if_pos rfl]
      | false =>
        rw [List.filter_cons_of_neg (by simp [there]),ih,there]
        rfl
    · rw [lookup_cons_ne same,← ih]
      cases there : given field.1 with
      | true => rw [List.filter_cons_of_pos (by exact there),lookup_cons_ne same]
      | false => rw [List.filter_cons_of_neg (by simp [there])]

theorem lookup_filter_kept {keeps : String × α → Bool} {value : α} (listed : fields.lookup name = some value)
    (kept : keeps (name,value) = true) : (fields.filter keeps).lookup name = some value := by
  induction fields with
  | nil => cases listed
  | cons first rest ih =>
    by_cases same : name = first.1
    · subst same
      rw [List.lookup_cons_self] at listed
      obtain rfl := Option.some.inj listed
      rw [List.filter_cons_of_pos kept,List.lookup_cons_self]
    · rw [lookup_cons_ne same] at listed
      rw [List.filter_cons]
      split
      · rw [lookup_cons_ne same]
        exact ih listed
      · exact ih listed

end AppGrants
