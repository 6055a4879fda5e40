import SpanMeter.Proofs.Text.Joined
import SpanMeter.Report.Layout

/-!
# The parameters in a report

A report shows the caller's parameters between the facts about the host and the table: four on a line, with a
comma and a blank between two of them, and an empty line behind the last. The report writes them one by one
and tells from its number what stands before each; what comes out is the list cut into groups of four, whatever
its length. As long as no parameter has a comma or a line break in it, they are read back from these lines.

* `groupsOf` cuts a list into groups, as `CutsAfter` says.
* `Report.join_paramPieces`: the parameters, written one by one, are the groups on lines of their own.
* `Report.readParams` reads the parameters back from their lines. It knows nothing of their number.
* `Report.showsParams`: all of this, for every report.
-/

namespace SpanMeter

/-! ## Lists in groups -/

section

variable {α : Type}

/-- A list in groups of `n`, of which the last may be shorter. -/
def groupsOf (n : Nat) : List α → List (List α)
  | [] => []
  | a :: as => (a :: as.take (n - 1)) :: groupsOf n (as.drop (n - 1))
termination_by as => as.length
decreasing_by simp only [List.length_drop, List.length_cons]; omega

/-- The groups of a list that is cut after every `n` elements. -/
structure CutsAfter (n : Nat) (as : List α) (groups : List (List α)) : Prop where
  /-- The groups are the list, in order. -/
  flatten : groups.flatten = as
  /-- All groups but the last are full, -/
  length_of_mem_dropLast : ∀ g ∈ groups.dropLast, g.length = n
  /-- and the last one is not empty. -/
  length_of_mem_getLast? : ∀ g ∈ groups.getLast?, 1 ≤ g.length ∧ g.length ≤ n

@[simp] theorem groupsOf_nil (n : Nat) : groupsOf n ([] : List α) = [] := by simp only [groupsOf]

theorem groupsOf_cons (n : Nat) (a : α) (as : List α) :
    groupsOf n (a :: as) = (a :: as.take (n - 1)) :: groupsOf n (as.drop (n - 1)) := by
  simp only [groupsOf]

theorem groupsOf_eq_nil_iff {n : Nat} {as : List α} : groupsOf n as = [] ↔ as = [] := by
  cases as with
  | nil => simp
  | cons a as => simp [groupsOf_cons]

theorem ne_nil_of_mem_groupsOf {n : Nat} {as g : List α} (h : g ∈ groupsOf n as) : g ≠ [] := by
  fun_induction groupsOf n as with
  | case1 => cases h
  | case2 a as ih =>
    rcases List.mem_cons.1 h with rfl | h
    · exact List.cons_ne_nil _ _
    · exact ih h

theorem flatten_groupsOf (n : Nat) (as : List α) : (groupsOf n as).flatten = as := by
  fun_induction groupsOf n as with
  | case1 => rfl
  | case2 a as ih => rw [List.flatten_cons, ih, List.cons_append, List.take_append_drop]

/-- A list is cut after every `n` elements. -/
theorem cutsAfter_groupsOf {n : Nat} (hn : 0 < n) (as : List α) : CutsAfter n as (groupsOf n as) := by
  refine ⟨flatten_groupsOf n as, ?_, ?_⟩
  · fun_induction groupsOf n as with
    | case1 => simp
    | case2 a as ih =>
      intro g hg
      by_cases hrest : as.drop (n - 1) = []
      · rw [hrest, groupsOf_nil] at hg
        cases hg
      · rw [List.dropLast_cons_of_ne_nil (mt groupsOf_eq_nil_iff.1 hrest)] at hg
        rcases List.mem_cons.1 hg with rfl | hg
        · -- something is left behind the first group, so it is full
          have hlen := List.length_pos_iff.2 hrest
          rw [List.length_drop] at hlen
          rw [List.length_cons, List.length_take]
          omega
        · exact ih g hg
  · fun_induction groupsOf n as with
    | case1 => simp
    | case2 a as ih =>
      intro g hg
      by_cases hrest : as.drop (n - 1) = []
      · rw [hrest, groupsOf_nil] at hg
        obtain rfl : a :: as.take (n - 1) = g := by simpa using hg
        rw [List.length_cons, List.length_take]
        omega
      · rw [List.getLast?_cons_of_ne_nil (mt groupsOf_eq_nil_iff.1 hrest)] at hg
        exact ih g hg

/-- All groups are full if the length allows it. -/
theorem length_of_mem_groupsOf {n : Nat} (hn : 0 < n) {as g : List α} (h : n ∣ as.length)
    (hg : g ∈ groupsOf n as) : g.length = n := by
  fun_induction groupsOf n as with
  | case1 => cases hg
  | case2 a as ih =>
    have hle : n ≤ as.length + 1 := Nat.le_of_dvd (Nat.succ_pos _) h
    rcases List.mem_cons.1 hg with rfl | hg
    · rw [List.length_cons, List.length_take]
      omega
    · refine ih ?_ hg
      have hdrop : (as.drop (n - 1)).length = (a :: as).length - n := by
        rw [List.length_drop, List.length_cons]
        omega
      rw [hdrop]
      exact Nat.dvd_sub h (Nat.dvd_refl n)

end

/-! ## What is written -/

namespace Report

open Text

/-- The lines of the parameters. -/
def paramLines (params : List String) : List String :=
  (groupsOf paramsPerLine params).map (", ".intercalate ·)

/-- The parameters on their lines, a line break if there are any, and an empty line. -/
def paramBlock (params : List String) : String :=
  "\n".intercalate (paramLines params) ++ (if params = [] then "" else "\n") ++ "\n"

/-- The parameters from the index `i` on, with what stands before each. -/
def separated (i : Nat) (params : List String) : String :=
  String.join ((params.zipIdx i).map fun p => paramSeparator p.2 ++ p.1)

@[simp] theorem separated_nil (i : Nat) : separated i [] = "" := rfl

theorem separated_cons (i : Nat) (param : String) (params : List String) :
    separated i (param :: params) = paramSeparator i ++ param ++ separated (i + 1) params := by
  simp [separated]

theorem separated_append (i : Nat) (params params' : List String) :
    separated i (params ++ params') =
      separated i params ++ separated (i + params.length) params' := by
  simp [separated, List.zipIdx_append]

/-- Within a line there are commas before the parameters. -/
theorem separated_of_line {i : Nat} {params : List String}
    (h : ∀ k < params.length, (i + k) % paramsPerLine ≠ 0) :
    separated i params = String.join (params.map (", " ++ ·)) := by
  induction params generalizing i with
  | nil => rfl
  | cons param params ih =>
    have hi : i % paramsPerLine ≠ 0 := h 0 (Nat.succ_pos _)
    have hsep : paramSeparator i = ", " := by
      have hzero : i ≠ 0 := fun h => hi (by simp [h])
      rw [paramSeparator, if_neg hzero, if_neg hi]
    have hrest : ∀ k < params.length, (i + 1 + k) % paramsPerLine ≠ 0 := by
      intro k hk
      have := h (k + 1) (Nat.succ_lt_succ hk)
      rwa [Nat.add_assoc, Nat.add_comm 1 k]
    rw [separated_cons, hsep, ih hrest, List.map_cons, String.join_cons]

/-- The parameters from the beginning of a line on are written in groups, one on each line. -/
theorem separated_eq {i : Nat} (hi : i % paramsPerLine = 0) (params : List String) :
    separated i params =
      (if params = [] then "" else paramSeparator i) ++ "\n".intercalate (paramLines params) := by
  rw [paramLines]
  fun_induction groupsOf paramsPerLine params generalizing i with
  | case1 => simp
  | case2 param params ih =>
    have hline : separated (i + 1) (params.take (paramsPerLine - 1)) =
        String.join ((params.take (paramsPerLine - 1)).map (", " ++ ·)) := by
      refine separated_of_line fun k hk => ?_
      rw [List.length_take] at hk
      simp only [paramsPerLine] at hi hk ⊢
      omega
    have hcut : separated (i + 1) params = separated (i + 1) (params.take (paramsPerLine - 1)) ++
        separated (i + 1 + (params.take (paramsPerLine - 1)).length)
          (params.drop (paramsPerLine - 1)) := by
      rw [← separated_append, List.take_append_drop]
    rw [separated_cons, hcut, hline, if_neg (List.cons_ne_nil _ _), List.map_cons]
    by_cases hrest : params.drop (paramsPerLine - 1) = []
    · -- the group is the last one
      rw [hrest, separated_nil, groupsOf_nil, List.map_nil, String.intercalate_singleton,
        intercalate_cons_eq_join, String.append_empty, String.append_assoc]
    · have hfull : (params.take (paramsPerLine - 1)).length = paramsPerLine - 1 := by
        have := List.length_pos_iff.2 hrest
        rw [List.length_drop] at this
        rw [List.length_take]
        omega
      have hnext : (i + 1 + (paramsPerLine - 1)) % paramsPerLine = 0 := by
        simp only [paramsPerLine] at hi ⊢
        omega
      have hsep : paramSeparator (i + 1 + (paramsPerLine - 1)) = "\n" := by
        rw [paramSeparator, if_neg (by omega), if_pos hnext]
      have hlines : (groupsOf paramsPerLine (params.drop (paramsPerLine - 1))).map
          (", ".intercalate ·) ≠ [] := by
        rw [Ne, List.map_eq_nil_iff]
        exact mt groupsOf_eq_nil_iff.1 hrest
      rw [hfull, ih hnext, if_neg hrest, hsep, String.intercalate_cons_of_ne_nil hlines,
        intercalate_cons_eq_join]
      simp only [String.append_assoc]

/-- **The parameters, written one by one,** are the list in groups of four. -/
theorem join_paramPieces (params : List String) :
    String.join (paramPieces params) = paramBlock params := by
  have hlines := separated_eq (Nat.zero_mod paramsPerLine) params
  have hzero : paramSeparator 0 = "" := rfl
  rw [separated, hzero, ite_self, String.empty_append] at hlines
  rw [paramPieces, String.join_append, String.join_append, hlines, paramBlock]
  cases params <;> simp

/-! ## What is read back -/

/-- The parameters on a line, which commas divide; behind each comma there is a blank. -/
def fieldsOf (line : List Char) : List (List Char) :=
  match line.splitOn ',' with
  | [] => []
  | first :: others => first :: others.map (·.drop 1)

/-- The parameters on lines of which the last two are empty. -/
def readParams (block : String) : List String :=
  ((block.toList.splitOn '\n').dropLast.dropLast.flatMap fieldsOf).map String.ofList

/-- A text that is one field of one line. -/
def IsField (text : String) : Prop := ',' ∉ text.toList ∧ '\n' ∉ text.toList

instance (text : String) : Decidable (IsField text) := inferInstanceAs (Decidable (_ ∧ _))

/-- The fields of a line are read back. -/
theorem fieldsOf_intercalate {group : List String} (hne : group ≠ [])
    (h : ∀ p ∈ group, IsField p) :
    fieldsOf (", ".intercalate group).toList = group.map String.toList := by
  obtain ⟨first, others, rfl⟩ := List.exists_cons_of_ne_nil hne
  have hline : (", ".intercalate (first :: others)).toList =
      [','].intercalate (first.toList :: others.map fun p => ' ' :: p.toList) := by
    rw [String.toList_intercalate, List.map_cons, intercalate_cons_eq_flatMap,
      intercalate_cons_eq_flatMap]
    simp [List.flatMap_map]
  have hcomma : ∀ field ∈ first.toList :: others.map fun p => ' ' :: p.toList, ',' ∉ field := by
    intro field hfield
    rcases List.mem_cons.1 hfield with rfl | hfield
    · exact (h first List.mem_cons_self).1
    · obtain ⟨p, hp, rfl⟩ := List.mem_map.1 hfield
      simpa using (h p (List.mem_cons_of_mem _ hp)).1
  rw [fieldsOf, hline, List.splitOn_intercalate ',' hcomma (List.cons_ne_nil _ _)]
  simp [Function.comp_def]

theorem paramBlock_eq (params : List String) :
    paramBlock params = "\n".intercalate (paramLines params ++ ["", ""]) := by
  rw [paramBlock]
  by_cases hp : params = []
  · simp [hp, paramLines]
  · have hlines : paramLines params ≠ [] := by
      rw [paramLines, Ne, List.map_eq_nil_iff]
      exact mt groupsOf_eq_nil_iff.1 hp
    rw [String.intercalate_append_of_ne_nil hlines (List.cons_ne_nil _ _), if_neg hp]
    simp [String.append_assoc]

/-- **Parameters are read back** from their lines. -/
theorem readParams_paramBlock {params : List String} (h : ∀ p ∈ params, IsField p) :
    readParams (paramBlock params) = params := by
  have hgroup : ∀ g ∈ groupsOf paramsPerLine params, ∀ p ∈ g, IsField p := by
    intro g hg p hp
    refine h p ?_
    rw [← flatten_groupsOf paramsPerLine params]
    exact List.mem_flatten_of_mem hg hp
  have hbreak : ∀ line ∈ (paramLines params ++ ["", ""]).map String.toList, '\n' ∉ line := by
    intro line hline
    obtain ⟨text, htext, rfl⟩ := List.mem_map.1 hline
    rcases List.mem_append.1 htext with htext | htext
    · obtain ⟨g, hg, rfl⟩ := List.mem_map.1 htext
      intro hbreak
      obtain ⟨p, hp, hbreak⟩ := exists_mem_of_mem_intercalate (by decide) hbreak
      exact (hgroup g hg p hp).2 hbreak
    · have hempty : ∀ t ∈ ["", ""], '\n' ∉ t.toList := by decide
      exact hempty text htext
  have hsplit : (paramBlock params).toList.splitOn '\n' =
      (paramLines params).map String.toList ++ [[], []] := by
    rw [paramBlock_eq, String.toList_intercalate]
    refine (List.splitOn_intercalate '\n' hbreak (by simp)).trans (by simp)
  have hfields : ((paramLines params).map String.toList).flatMap fieldsOf =
      params.map String.toList := by
    have hmap : (groupsOf paramsPerLine params).flatMap
        (fun g => fieldsOf (", ".intercalate g).toList) =
        (groupsOf paramsPerLine params).flatMap (·.map String.toList) :=
      List.flatMap_congr fun g hg => fieldsOf_intercalate (ne_nil_of_mem_groupsOf hg) (hgroup g hg)
    rw [paramLines, List.map_map, List.flatMap_map]
    refine hmap.trans ?_
    rw [List.flatMap_def, ← List.map_flatten, flatten_groupsOf]
  have hdrop : ∀ lines : List (List Char), (lines ++ [[], []]).dropLast.dropLast = lines := by
    simp
  rw [readParams, hsplit, hdrop, hfields, List.map_map]
  simp [Function.comp_def]

/-- The parameters stand between the facts about the host and the table, in groups of four, and are read
back. -/
structure ShowsParams (r : Report) : Prop where
  text : r.text = String.join (r.settingPieces ++ r.facts.map factPiece ++ ["\n"]) ++
    paramBlock r.params ++ String.join r.tablePieces
  cuts : CutsAfter 4 r.params (groupsOf paramsPerLine r.params)
  /-- If their number is a multiple of four, all lines are full. -/
  full : 4 ∣ r.params.length → ∀ g ∈ groupsOf paramsPerLine r.params, g.length = 4
  read : (∀ p ∈ r.params, IsField p) → readParams (paramBlock r.params) = r.params

/-- **The parameters in a report,** however many there are. -/
theorem showsParams (r : Report) : r.ShowsParams where
  text := by
    rw [Report.text, pieces, headPieces, String.join_append, String.join_append, join_paramPieces]
  cuts := cutsAfter_groupsOf (by decide) r.params
  full h _ := length_of_mem_groupsOf (by decide) h
  read := readParams_paramBlock

/-- A report with empty parameters, of which the last stands on a line of its own. -/
def blankParams : Report := ⟨.new [], .zero, false, false, [], ["", " b", "", "", ""]⟩

theorem showsParams_blankParams :
    (∀ p ∈ blankParams.params, IsField p) ∧ readParams ",  b, , \n\n\n" = blankParams.params ∧
      4 ∣ ["", " b", "", ""].length ∧
      (∀ g ∈ groupsOf paramsPerLine ["", " b", "", ""], g.length = 4) ∧
      paramBlock [] ≠ paramBlock [""] := by
  have hfield : ∀ p ∈ blankParams.params, IsField p := by decide
  have hblock : paramBlock blankParams.params = ",  b, , \n\n\n" := by
    rw [← join_paramPieces]
    decide
  refine ⟨hfield, ?_, by decide, ?_, fun h => ?_⟩
  · rw [← hblock]
    exact (showsParams blankParams).read hfield
  · exact (showsParams { blankParams with params := ["", " b", "", ""] }).full (by decide)
  · have hnone := (showsParams { blankParams with params := [] }).read (by decide)
    have hone := (showsParams { blankParams with params := [""] }).read (by decide)
    exact absurd (hnone.symm.trans ((congrArg readParams h).trans hone)) (by decide)

end Report

end SpanMeter
