import EntityGen.Manifest.Basic
import Mathlib.Algebra.GroupWithZero.Nat
import Mathlib.Data.List.Basic
import Mathlib.Data.List.Perm.Basic

/-!
What a manifest tells of itself: its labels, and the models under each. A label is listed once, where it first
occurs (`pairwise_firstOccurrences`). Every entry is under one label, so the labels together have all models of the
manifest, and each as often as it is there (`Manifest.models?_perm`). -/
namespace EntityGen

/-- First occurrences are listed in the order in which they occur. -/
theorem pairwise_firstOccurrences {α : Type} [BEq α] [LawfulBEq α] (l : List α) :
    (firstOccurrences l).Pairwise fun a b => l.idxOf a < l.idxOf b := by
  induction l with
  | nil => exact .nil
  | cons a rest ih =>
    have other : ∀ b ∈ (firstOccurrences rest).filter (fun b => !(b == a)), a ≠ b := by
      intro b hb
      have ne := (List.mem_filter.mp hb).2
      simp only [Bool.not_eq_true', beq_eq_false_iff_ne] at ne
      exact ne.symm
    rw [firstOccurrences, List.pairwise_cons]
    refine ⟨fun b hb => ?_, (ih.filter _).imp_of_mem fun {b c} hb hc before => ?_⟩
    · rw [List.idxOf_cons_self, List.idxOf_cons_ne _ (other b hb)]
      exact Nat.succ_pos _
    · rw [List.idxOf_cons_ne _ (other b hb), List.idxOf_cons_ne _ (other c hc)]
      exact Nat.succ_lt_succ before

/-- Elements sorted by their keys are all of the elements. -/
theorem flatMap_filter_perm {α β : Type} [BEq β] [LawfulBEq β] (key : α → β) {keys : List β} (once : keys.Nodup)
    {l : List α} (all : ∀ a ∈ l, key a ∈ keys) : (keys.flatMap fun k => l.filter (key · == k)).Perm l := by
  induction keys generalizing l with
  | nil =>
    obtain rfl : l = [] := List.eq_nil_iff_forall_not_mem.mpr fun a ha => List.not_mem_nil (all a ha)
    exact .refl _
  | cons k rest ih =>
    obtain ⟨absent, once⟩ := List.nodup_cons.mp once
    let left := l.filter fun a => !(key a == k)
    have covered : ∀ a ∈ left, key a ∈ rest := by
      intro a ha
      obtain ⟨ha, ne⟩ := List.mem_filter.mp ha
      simp only [Bool.not_eq_true', beq_eq_false_iff_ne] at ne
      exact List.mem_of_ne_of_mem ne (all a ha)
    have later : (rest.flatMap fun k' => l.filter (key · == k')) =
        rest.flatMap fun k' => left.filter (key · == k') := by
      refine List.flatMap_congr fun k' hk' => ?_
      have ne : k' ≠ k := fun same => absent (same ▸ hk')
      rw [List.filter_filter]
      refine List.filter_congr fun a _ => ?_
      by_cases h : key a = k' <;> simp [h, ne]
    rw [List.flatMap_cons, later]
    exact ((ih once covered).append_left _).trans (List.filter_append_perm _ l)

namespace Manifest
variable (manifest : Manifest)

/-- A label that is there has the models of its entries, which may be none. -/
theorem models?_eq (label : String) :
    manifest.models? label =
      if label ∈ manifest.labels then
        some ((manifest.apps.filter (·.label == label)).flatMap (·.models))
      else none := by
  have entries : (manifest.apps.filter (·.label == label)).isEmpty = true ↔ label ∉ manifest.labels := by
    rw [List.isEmpty_iff, List.filter_eq_nil_iff, mem_labels]
    simp
  unfold models?
  by_cases h : label ∈ manifest.labels
  · rw [if_pos h]
    exact if_neg fun empty => entries.mp empty h
  · rw [if_neg h]
    exact if_pos (entries.mpr h)

/-- The models under a label are those of the entries with it, there or not. -/
theorem getD_models? (label : String) :
    (manifest.models? label).getD [] = (manifest.apps.filter (·.label == label)).flatMap (·.models) := by
  unfold models?
  cases manifest.apps.filter (·.label == label) <;> rfl

/-- The models under all labels are the models of all entries. -/
theorem models?_perm :
    (manifest.labels.flatMap fun label => (manifest.models? label).getD []).Perm
      (manifest.apps.flatMap (·.models)) := by
  have covered : ∀ app ∈ manifest.apps, app.label ∈ manifest.labels := fun app ha => mem_labels.mpr ⟨app, ha, rfl⟩
  have entries := flatMap_filter_perm App.label (nodup_firstOccurrences _) covered
  simp only [getD_models?]
  rw [← List.flatMap_assoc]
  exact entries.flatMap_right _

/-- The numbers of models under the labels add up to the number of all models. -/
theorem sum_length_models? :
    (manifest.labels.map fun label => ((manifest.models? label).getD []).length).sum =
      (manifest.apps.map (·.models.length)).sum := by
  rw [← List.length_flatMap, ← List.length_flatMap]
  exact manifest.models?_perm.length_eq

end Manifest

end EntityGen
