import Mathlib.Data.List.Basic

/-!
# Joined texts

Texts with a separator between two of them, as the lines of a report have it: the first text, and each of the
others behind a separator. What is neither in the separator nor in one of the texts is not in the whole.
-/

namespace SpanMeter.Text

/-- Lists that are joined with `sep`: the first, and the others behind a `sep` each. -/
theorem intercalate_cons_eq_flatMap {α : Type} (sep first : List α) (others : List (List α)) :
    sep.intercalate (first :: others) = first ++ others.flatMap (sep ++ ·) := by
  induction others generalizing first with
  | nil => simp
  | cons next others ih =>
    rw [List.intercalate_cons_cons, ih, List.flatMap_cons]
    simp only [List.append_assoc]

theorem intercalate_cons_eq_join (sep first : String) (others : List String) :
    sep.intercalate (first :: others) = first ++ String.join (others.map (sep ++ ·)) := by
  apply String.toList_inj.1
  simp [String.toList_intercalate, intercalate_cons_eq_flatMap, String.toList_join,
    List.flatMap_map]

/-- A character that is not in the separator comes from one of the texts. -/
theorem exists_mem_of_mem_intercalate {c : Char} {sep : String} {texts : List String}
    (hsep : c ∉ sep.toList) (h : c ∈ (sep.intercalate texts).toList) :
    ∃ text ∈ texts, c ∈ text.toList := by
  cases texts with
  | nil => cases h
  | cons first others =>
    rw [intercalate_cons_eq_join, String.toList_append, String.toList_join] at h
    rcases List.mem_append.1 h with h | h
    · exact ⟨first, List.mem_cons_self, h⟩
    · obtain ⟨text, htext, hc⟩ := List.mem_flatMap.1 h
      obtain ⟨other, hother, rfl⟩ := List.mem_map.1 htext
      rw [String.toList_append] at hc
      exact ⟨other, List.mem_cons_of_mem _ hother, (List.mem_append.1 hc).resolve_left hsep⟩

end SpanMeter.Text
