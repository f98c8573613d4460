import DataLayer.Proofs.Text.Caseless

/-!
# Letters and digits

Every character that has a lower case or an upper case is alphabetic. So letter case leaves the
other characters alone, and the letters and digits of a text up to letter case do not depend on what
stands between them.
-/

namespace DataLayer.Text

/-- A code inside one of the ranges is in the ranges. -/
theorem inRanges_of_mem {ranges : List (Nat × Nat)} {range : Nat × Nat} {code : Nat}
    (member : range ∈ ranges) (low : range.1 ≤ code) (high : code ≤ range.2) :
    inRanges ranges code = true :=
  List.any_eq_true.mpr ⟨range, member, Bool.and_eq_true_iff.mpr
    ⟨decide_eq_true low, decide_eq_true high⟩⟩

/-- The lower-case ASCII letters are alphabetic. -/
theorem isAlphabetic_of_isLower {c : Char} (small : c.isLower = true) : isAlphabetic c = true := by
  unfold Char.isLower at small
  rw [Bool.and_eq_true, decide_eq_true_iff, decide_eq_true_iff] at small
  exact inRanges_of_mem (List.mem_cons_of_mem _ List.mem_cons_self)
    (UInt32.le_iff_toNat_le.mp small.1) (UInt32.le_iff_toNat_le.mp small.2)

namespace CaseRun

/-- The range as a run that maps its members to themselves. -/
def ofRange (range : Nat × Nat) : CaseRun := ⟨range.1, range.2, 1, range.1⟩

/-- Whether the members of the run are members of other runs, all of one or each of its own. -/
def isInside (run : CaseRun) (others : List CaseRun) : Bool :=
  others.any run.members.within ||
    (List.range (run.last - run.first + 1)).all fun offset =>
      !Nat.beq (offset % run.step) 0 ||
        others.any fun other => ( other.apply? (run.first + offset)).isSome

variable {run : CaseRun} {code image : Nat}

/-- The run of a range applies to its codes only. -/
theorem inRanges_of_applies {ranges : List (Nat × Nat)} {other : CaseRun}
    (among : other ∈ ranges.map ofRange) (applied : other.apply? code = some image) :
    inRanges ranges code = true := by
  obtain ⟨range, member, rfl⟩ := List.mem_map.mp among
  obtain ⟨low, high, -, -⟩ := applies_iff.mp applied
  exact inRanges_of_mem member low high

/-- A run that is inside some ranges has only members there. -/
theorem inRanges_of_isInside {ranges : List (Nat × Nat)} {near : List CaseRun}
    (inside : run.isInside near = true) (among : near ⊆ ranges.map ofRange)
    (applied : run.apply? code = some image) : inRanges ranges code = true := by
  rcases Bool.or_eq_true_iff.mp inside with whole | each
  · obtain ⟨other, member, within⟩ := List.any_eq_true.mp whole
    obtain ⟨further, applies, -⟩ := exists_andThen within (members_applies applied)
    exact inRanges_of_applies (among member) applies
  · obtain ⟨low, high, steps, -⟩ := applies_iff.mp applied
    have offset : code - run.first ∈ List.range (run.last - run.first + 1) := by
      rw [List.mem_range]
      omega
    have holds := List.all_eq_true.mp each _ offset
    rw [steps, Nat.add_sub_cancel' low] at holds
    obtain ⟨other, member, applies⟩ := List.any_eq_true.mp holds
    obtain ⟨further, applies⟩ := Option.isSome_iff_exists.mp applies
    exact inRanges_of_applies (among member) applies

end CaseRun

/-- Whether all characters that the table mentions are in the ranges. -/
def CaseTable.isInside (table : CaseTable) (ranges : List (Nat × Nat)) : Bool :=
  CaseRun.alongside CaseRun.members CaseRun.isInside (ranges.map .ofRange)
    (table.runs ++ table.expansions.map fun expansion => .point expansion.1)

/-- A table inside some ranges leaves the characters outside them alone. -/
theorem CaseTable.map_of_outside {table : CaseTable} {ranges : List (Nat × Nat)}
    (inside : table.isInside ranges = true) {c : Char} (outside : inRanges ranges c.toNat = false) :
    table.map c = [c] := by
  have missed {run : CaseRun}
      (member : run ∈ table.runs ++ table.expansions.map fun expansion => .point expansion.1) :
      run.apply? c.toNat = none := by
    refine Option.eq_none_iff_forall_ne_some.mpr fun image applied => ?_
    obtain ⟨near, among, within, -⟩ := CaseRun.exists_near inside member
    rw [CaseRun.inRanges_of_isInside within among applied] at outside
    cases outside
  refine table.map_of_misses (fun run member => missed (List.mem_append_left _ member)) ?_
  intro expansion member same
  have other := missed (List.mem_append_right _ (List.mem_map_of_mem member))
  rw [← same, CaseRun.point_applies] at other
  cases other

/-- What is not alphabetic is its own lower case. -/
theorem lowerOf_of_not_alphabetic {c : Char} (plain : isAlphabetic c = false) :
    lowerOf c = [c] := by
  have inside : lowerTable.isInside alphabeticRanges = true := by decide +kernel
  rw [lowerOf_eq, CaseTable.map_of_outside inside plain]

/-- What is not alphabetic is its own upper case. -/
theorem upperOf_of_not_alphabetic {c : Char} (plain : isAlphabetic c = false) :
    upperOf c = [c] := by
  have inside : upperTable.isInside alphabeticRanges = true := by decide +kernel
  rw [upperOf_eq, CaseTable.map_of_outside inside plain]

/-- What is not alphabetic is its own caseless form. -/
theorem caselessOf_of_not_alphabetic {c : Char} (plain : isAlphabetic c = false) :
    caselessOf c = [c] := by
  rw [caselessOf, lowerOf_of_not_alphabetic plain, List.flatMap_singleton,
    upperOf_of_not_alphabetic plain]

/-- The letters and digits of a text, up to letter case. -/
def letters (text : List Char) : List Char := (caseless text).filter isAlphanumeric

/-- The letters of joined texts are joined. -/
theorem letters_append (first second : List Char) :
    letters (first ++ second) = letters first ++ letters second := by
  rw [letters, caseless_append, List.filter_append]
  rfl

/-- The letters of a text are those of its first character and those of the rest. -/
theorem letters_cons (c : Char) (rest : List Char) :
    letters (c :: rest) = letters [c] ++ letters rest := letters_append [c] rest

/-- A character that is no letter or digit does not count. -/
theorem letters_of_not_alphanumeric {c : Char} (plain : isAlphanumeric c = false) :
    letters [c] = [] := by
  have other := (Bool.or_eq_false_iff.mp plain).1
  rw [letters, caseless, List.flatMap_singleton, caselessOf_of_not_alphabetic other,
    List.filter_singleton, plain]
  rfl

/-- Texts that agree up to letter case have the same letters and digits. -/
theorem letters_eq_of_caseless {first second : List Char} (same : caseless first = caseless second) :
    letters first = letters second :=
  congrArg (List.filter isAlphanumeric) same

end DataLayer.Text
