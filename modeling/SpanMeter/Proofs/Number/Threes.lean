import SpanMeter.Proofs.Number.Grouping

/-!
# Groups of three digits

A whole number in groups of three digits is its decimal numeral with separators in it. They divide the
digits, counted from the end, into groups of three, of which the first may be shorter; none stands at an
end. So no two numbers are written alike, and the text is longer than the numeral by a sign for every three
digits but the last three. Any separator will do that is neither a digit nor a minus sign.

* `Number.splitOn_group`: the groups that the separators divide the digits into.
* `Number.filter_groupDigits`: what is left when the separators are taken out.
* `Number.groupDigits_encodes`: both for every whole number, and what follows from them.
-/

namespace SpanMeter.Number

/-- What stands before the digits of a whole number. -/
def sign (n : Int) : List Char := if n < 0 then ['-'] else []

/-- Groups of digits, with three in each but the first. -/
structure InThrees (groups : List (List Char)) : Prop where
  isDigit : ∀ g ∈ groups, ∀ c ∈ g, c.isDigit = true
  first : ∃ first rest, groups = first :: rest ∧ 1 ≤ first.length ∧ first.length ≤ 3
  others : ∀ g ∈ groups.tail, g.length = 3

/-- A text writes a whole number in groups of three digits, between which `sep` stands. -/
structure WritesInThrees (sep : Char) (n : Int) (text : String) : Prop where
  /-- Without the separators it is the decimal numeral. -/
  numeral : String.ofList (text.toList.filter (· ≠ sep)) = toString n
  /-- Behind the sign it is made of groups, and no separator stands at an end. -/
  groups : ∃ body, text.toList = sign n ++ body ∧ InThrees (body.splitOn sep) ∧
    body.head? ≠ some sep ∧ body.getLast? ≠ some sep ∧
    body.length = (toString n.natAbs).length + ((toString n.natAbs).length - 1) / 3

/-! ## The groups -/

/-- The separators divide digits into groups of three, and what is left over stands first. -/
theorem splitOn_group {sep : Char} {ds : List Char} (hne : ds ≠ []) (hsep : sep ∉ ds) :
    ∃ first rest, (group sep ds).splitOn sep = first :: rest ∧ (first :: rest).flatten = ds ∧
      first.length = (ds.length - 1) % 3 + 1 ∧ ∀ g ∈ rest, g.length = 3 := by
  fun_induction group sep ds with
  | case1 => exact absurd rfl hne
  | case2 d => exact ⟨[d], [], List.splitOn_eq_singleton hsep, rfl, rfl, by simp⟩
  | case3 d ds hds hmod ih =>
    obtain ⟨first, rest, hsplit, hflat, hfirst, hrest⟩ :=
      ih (fun h => hds h) fun h => hsep (List.mem_cons_of_mem d h)
    have hd : sep ∉ [d] := fun h => hsep (List.mem_singleton.1 h ▸ List.mem_cons_self)
    have hpos : 0 < ds.length := List.length_pos_iff.2 fun h => hds h
    refine ⟨[d], first :: rest, ?_, ?_, ?_, ?_⟩
    · rw [← hsplit, ← List.singleton_append, List.splitOn_append_cons_self,
        List.splitOn_eq_singleton hd, List.singleton_append]
    · rw [List.flatten_cons, hflat, List.singleton_append]
    · simp [hmod]
    · -- the digits behind the separator fill their groups
      intro g hg
      rcases List.mem_cons.1 hg with rfl | hg
      · omega
      · exact hrest g hg
  | case4 d ds hds hmod ih =>
    obtain ⟨first, rest, hsplit, hflat, hfirst, hrest⟩ :=
      ih (fun h => hds h) fun h => hsep (List.mem_cons_of_mem d h)
    have hd : (d == sep) = false := beq_false_of_ne fun h => hsep (h ▸ List.mem_cons_self)
    refine ⟨d :: first, rest, ?_, ?_, ?_, hrest⟩
    · rw [List.splitOn_cons_eq_if_modifyHead, hd, hsplit]
      rfl
    · rw [List.flatten_cons, List.cons_append, ← List.flatten_cons, hflat]
    · simp only [List.length_cons]
      omega

/-- Digits that are divided into groups begin and end as they are. -/
theorem ends_group (sep : Char) (ds : List Char) :
    (group sep ds).head? = ds.head? ∧ (group sep ds).getLast? = ds.getLast? := by
  fun_induction group sep ds with
  | case1 => exact ⟨rfl, rfl⟩
  | case2 d => exact ⟨rfl, rfl⟩
  | case3 d ds hds hmod ih =>
    obtain ⟨a, as, rfl⟩ := List.exists_cons_of_ne_nil fun h => hds h
    simp [List.getLast?_cons, ih.2]
  | case4 d ds hds hmod ih => simp [List.getLast?_cons, ih.2]

/-- Digits fall into groups of three. -/
theorem inThrees_splitOn_group {sep : Char} {ds : List Char} (hne : ds ≠ []) (hsep : sep ∉ ds)
    (hd : ∀ c ∈ ds, c.isDigit = true) : InThrees ((group sep ds).splitOn sep) := by
  obtain ⟨first, rest, hsplit, hflat, hfirst, hrest⟩ := splitOn_group hne hsep
  rw [hsplit]
  refine ⟨fun g hg c hc => hd c ?_, ⟨first, rest, rfl, ?_, ?_⟩, hrest⟩
  · rw [← hflat]
    exact List.mem_flatten_of_mem hg hc
  · omega
  · omega

/-! ## Whole numbers -/

theorem toList_groupDigits (n : Int) (sep : Char) :
    (groupDigits n sep).toList = sign n ++ group sep (digits n.natAbs) := String.toList_ofList

theorem length_toString (n : Nat) : (toString n).length = (digits n).length := by
  rw [Nat.toString_eq_repr, ← String.length_toList, Nat.toList_repr, digits]

/-- Without the separators a grouped number is its decimal numeral. -/
theorem filter_groupDigits {sep : Char} (hd : sep.isDigit = false) (hs : sep ≠ '-') (n : Int) :
    String.ofList ((groupDigits n sep).toList.filter (· ≠ sep)) = toString n := by
  have hsign : (sign n).filter (· ≠ sep) = sign n := by
    unfold sign
    split <;> simp [hs.symm]
  have hdigits : (digits n.natAbs).filter (· ≠ sep) = digits n.natAbs :=
    List.filter_eq_self.2 fun c hc => decide_eq_true (ne_of_isDigit (isDigit_of_mem_digits hc) hd)
  rw [toList_groupDigits, List.filter_append, hsign, filter_group (by simp), hdigits,
    toString_eq_numeral]
  rfl

/-- A grouped number is read back up to its sign. -/
theorem read_groupDigits {sep : Char} (hd : sep.isDigit = false) (n : Int) :
    read (groupDigits n sep).toList = n.natAbs := by
  have hsign : (sign n).filter Char.isDigit = [] := by
    unfold sign
    split <;> rfl
  rw [read, toList_groupDigits, List.filter_append, hsign, filter_group hd, filter_digits,
    List.nil_append, ofDigitChars_digits]

/-- The sign is there to see. -/
theorem head?_groupDigits (n : Int) (sep : Char) :
    (groupDigits n sep).toList.head? = some '-' ↔ n < 0 := by
  rw [toList_groupDigits, sign]
  split
  · simp [*]
  · have hdigit : (digits n.natAbs).head? ≠ some '-' := fun h =>
      absurd (isDigit_of_mem_digits (List.mem_of_head? h)) (by decide)
    simp [*, (ends_group sep _).1]

/-- **A whole number in groups of three digits** is its decimal numeral, divided by separators, and no two
whole numbers are written alike. -/
theorem groupDigits_encodes {sep : Char} (hd : sep.isDigit = false) (hs : sep ≠ '-') :
    (∀ n, WritesInThrees sep n (groupDigits n sep)) ∧ Function.Injective (groupDigits · sep) := by
  refine ⟨fun n => ⟨filter_groupDigits hd hs n, ?_⟩, fun m n h => ?_⟩
  · have hne : digits n.natAbs ≠ [] := Nat.toDigits_ne_nil
    have hisDigit : ∀ c ∈ digits n.natAbs, c.isDigit = true := fun c => isDigit_of_mem_digits
    have hsep : sep ∉ digits n.natAbs := fun h => by simp [hisDigit sep h] at hd
    obtain ⟨hhead, hlast⟩ := ends_group sep (digits n.natAbs)
    refine ⟨group sep (digits n.natAbs), toList_groupDigits n sep,
      inThrees_splitOn_group hne hsep hisDigit, ?_, ?_, ?_⟩
    · rw [hhead]
      exact fun h => hsep (List.mem_of_head? h)
    · rw [hlast]
      exact fun h => hsep (List.mem_of_getLast? h)
    · rw [length_group, length_toString]
  · have hsign := head?_groupDigits m sep
    have habs := read_groupDigits hd m
    rw [show groupDigits m sep = groupDigits n sep from h] at hsign habs
    rw [head?_groupDigits] at hsign
    rw [read_groupDigits hd] at habs
    omega

/-- The least number of a signed word of 64 bits, and one whose digits fill all groups. -/
theorem groupDigits_encodes_least :
    (','.isDigit = false ∧ ',' ≠ '-') ∧
      WritesInThrees ',' (-9223372036854775808) "-9,223,372,036,854,775,808" ∧
      groupDigits 123456 ',' ≠ groupDigits (-123456) ',' := by
  have hd : ','.isDigit = false := by decide
  have hs : ',' ≠ '-' := by decide
  obtain ⟨hwrites, hinj⟩ := groupDigits_encodes hd hs
  exact ⟨⟨hd, hs⟩, hwrites (-9223372036854775808), fun h => absurd (hinj h) (by decide)⟩

end SpanMeter.Number
