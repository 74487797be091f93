import AppGrants.Proofs.Catalog.Sorting

/-! The list of apps is what the filters show, in the one order that ranks, labels and identities give it. Filters that show more
put further rows between those that were there. -/
namespace AppGrants.Catalog
open Std

/-- What passes the one passes the other. -/
structure Filters.Within (fewer more : Filters) : Prop where
  system : fewer.showSystemApps = true → more.showSystemApps = true
  primaryUser : more.showOnlyPrimaryUserApps = true → fewer.showOnlyPrimaryUserApps = true

theorem Filters.Within.passes {fewer more : Filters} (within : fewer.Within more) {record : AppRecord}
    (passed : fewer.passes record = true) : more.passes record = true := by
  unfold Filters.passes at passed ⊢
  simp only [Bool.and_eq_true,Bool.or_eq_true,Bool.not_eq_true'] at passed ⊢
  obtain ⟨user,system⟩ := passed
  refine ⟨?_,?_⟩
  · rcases user with every_user | first_user
    · exact .inl (Bool.eq_false_iff.mpr fun only => Bool.eq_false_iff.mp every_user (within.primaryUser only))
    · exact .inr first_user
  · exact system.imp_left (Or.imp_right within.system)

theorem Filters.Within.shows {fewer more : Filters} (within : fewer.Within more) (selfPackage : String) {record : AppRecord}
    (shown : fewer.shows selfPackage record = true) : more.shows selfPackage record = true := by
  unfold Filters.shows at shown ⊢
  simp only [Bool.and_eq_true,Bool.or_eq_true] at shown ⊢
  exact ⟨shown.1,shown.2.imp_right within.passes⟩

section
variable (selfPackage : String) {labels : Collation} [TransCmp labels] {records others : List AppRecord}

theorem list_of_perm (filters : Filters) (distinct : (records.map (·.identity)).Nodup) (perm : records.Perm others) :
    list filters selfPackage labels records = list filters selfPackage labels others := by
  apply sortBy_eq_of_perm (perm.filter _)
  intro left inside right inside' same
  have left_mem := (List.mem_filter.mp inside).1
  have right_mem := (List.mem_filter.mp inside').1
  exact List.inj_on_of_nodup_map distinct left_mem right_mem (identity_eq_of_compareRecords same)

/-- The rows that fewer filters let through stand in the longer list as they do in their own. -/
theorem filter_list {fewer more : Filters} (within : fewer.Within more) (records : List AppRecord) :
    (list more selfPackage labels records).filter (fewer.shows selfPackage) = list fewer selfPackage labels records := by
  have both : (records.filter (more.shows selfPackage)).filter (fewer.shows selfPackage) =
      records.filter (fewer.shows selfPackage) := by
    rw [List.filter_filter]
    refine List.filter_congr fun record _ => ?_
    cases shown : fewer.shows selfPackage record with
    | true => rw [within.shows selfPackage shown,Bool.and_self]
    | false => rfl
  unfold list
  rw [filter_sortBy,both]

theorem list_list (filters : Filters) (records : List AppRecord) :
    list filters selfPackage labels (list filters selfPackage labels records) = list filters selfPackage labels records := by
  have itself : filters.Within filters := ⟨id,id⟩
  have shown : (list filters selfPackage labels records).filter (filters.shows selfPackage) =
      list filters selfPackage labels records := filter_list selfPackage itself records
  rw [list,shown]
  exact sortBy_sortBy _

end

/-- The list has the records that are shown, in order; for records of different identities it is the same in whichever order they
came; listing it again changes nothing; and of filters of which one shows no more than the other, the list of the one is what it
lets through of the list of the other. -/
theorem list_canonical (selfPackage : String) : TransCmp Text.compareLabels ∧
    ∀ (labels : Collation) [TransCmp labels] (records : List AppRecord),
      (∀ filters : Filters, let shown := list filters selfPackage labels records
        shown.Perm (records.filter (filters.shows selfPackage)) ∧
        shown.Pairwise (fun left right => compareRecords labels left right ≠ .gt) ∧
        ((records.map (·.identity)).Nodup → ∀ others : List AppRecord, others.Perm records →
          list filters selfPackage labels others = shown) ∧
        list filters selfPackage labels shown = shown) ∧
      ∀ fewer more : Filters, fewer.Within more →
        (list fewer selfPackage labels records).Sublist (list more selfPackage labels records) := by
  refine ⟨inferInstance,fun labels _ records => ⟨fun filters => ⟨list_perm ..,pairwise_sortBy _,?_,?_⟩,?_⟩⟩
  · intro distinct others perm
    exact (list_of_perm selfPackage filters distinct perm.symm).symm
  · exact list_list selfPackage filters records
  · intro fewer more within
    rw [← filter_list selfPackage within records]
    exact List.filter_sublist

/-- A system app and an app of a second user, which the narrow filters leave out. -/
def mixedRecords : List AppRecord := [
  .ofPackage { packageName := "b", uid := 10001 } none, .ofPackage { packageName := "a", uid := 10002, flags := .system } none,
  .ofPackage { packageName := "c", uid := 110003 } none]

theorem list_canonical_widened :
    let narrow : Filters := { showSystemApps := false, showOnlyPrimaryUserApps := true }
    let wide : Filters := { showSystemApps := true, showOnlyPrimaryUserApps := false }
    TransCmp Text.compareLabels ∧ (mixedRecords.map (·.identity)).Nodup ∧ mixedRecords.reverse.Perm mixedRecords ∧
      narrow.Within wide ∧
      list wide "" Text.compareLabels mixedRecords.reverse = list wide "" Text.compareLabels mixedRecords ∧
      (list narrow "" Text.compareLabels mixedRecords).Sublist (list wide "" Text.compareLabels mixedRecords) := by
  intro narrow wide
  have distinct : (mixedRecords.map (·.identity)).Nodup := by decide
  have perm : mixedRecords.reverse.Perm mixedRecords := List.reverse_perm _
  have within : narrow.Within wide := ⟨fun _ => rfl,fun _ => rfl⟩
  obtain ⟨collates,lists⟩ := list_canonical ""
  obtain ⟨same,wider⟩ := lists Text.compareLabels mixedRecords
  exact ⟨collates,distinct,perm,within,(same wide).2.2.1 distinct _ perm,wider narrow wide within⟩

end AppGrants.Catalog
