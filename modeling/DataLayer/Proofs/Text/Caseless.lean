import DataLayer.Proofs.Text.CaseTable

/-!
# Letter case ignored

Checks on the runs, which cover all members of a run at once, show that lower case is its own lower
case, and that the upper case of the lower case is the same for a character, for its lower case and
for its upper case. So texts that agree in it agree up to letter case.
-/

namespace DataLayer.Text

namespace CaseRun

/-- What the run yields is in none of these runs, and the table does not expand it. -/
def isPlain (run : CaseRun) (table : CaseTable) (near : List CaseRun) : Bool :=
  near.all run.misses && table.expansions.all fun expansion => run.misses (point expansion.1)

/-- One of these runs of upper case takes what the run yields to the code points that begin with the
given one. -/
def raisesTo (run : CaseRun) (uppers : List CaseRun) (target : Nat) : Bool :=
  uppers.any fun upper => run.within upper && Nat.beq (run.andThen upper).target target

/-- One of these runs of lower case and then one of upper case give back what the run yields. -/
def returns (run : CaseRun) (lowers uppers : List CaseRun) : Bool :=
  lowers.any fun lower => run.within lower && (run.andThen lower).raisesTo uppers run.target

variable {run : CaseRun} {code image : Nat} {near lowers uppers : List CaseRun}

/-- The images of a run are left alone by a table in which the run is plain. -/
theorem map_of_isPlain {table : CaseTable} (plain : run.isPlain table near = true)
    (close : ∀ other ∈ table.runs, run.Near near other) (applied : run.apply? code = some image)
    (valid : (Char.ofNat image).toNat = image) :
    table.map (Char.ofNat image) = [Char.ofNat image] := by
  obtain ⟨noRun, noExpansion⟩ := Bool.and_eq_true_iff.mp plain
  refine table.map_of_misses ?_ ?_ <;> rw [valid]
  · exact fun other member => none_of_near (close other member) noRun applied
  · exact fun expansion member =>
      ne_of_misses_point (List.all_eq_true.mp noExpansion expansion member) applied

/-- The images of a run have upper cases at the codes that the run is raised to. -/
theorem upperOf_of_raisesTo {target : Nat} (amongUppers : uppers ⊆ upperRuns)
    (raised : run.raisesTo uppers target = true) (applied : run.apply? code = some image)
    (valid : (Char.ofNat image).toNat = image) :
    upperOf (Char.ofNat image) = [Char.ofNat (target + (code - run.first))] := by
  simp only [raisesTo, List.any_eq_true, Bool.and_eq_true, Nat.beq_eq] at raised
  obtain ⟨upper, member, within, rfl⟩ := raised
  obtain ⟨capital, mapped, both⟩ := exists_andThen within applied
  obtain ⟨-, -, -, rfl⟩ := applies_iff.mp both
  rw [← valid] at mapped
  rw [upperOf_eq, upperTable.map_of_run (amongUppers member) mapped]
  rfl

end CaseRun

/-- The character up to letter case: the upper case of its lower case. -/
def caselessOf (c : Char) : List Char := (lowerOf c).flatMap upperOf

/-- The text up to letter case. -/
def caseless (text : List Char) : List Char := text.flatMap caselessOf

/-- Joined texts are compared by their joined caseless forms. -/
theorem caseless_append (first second : List Char) :
    caseless (first ++ second) = caseless first ++ caseless second := List.flatMap_append

/-- The images of a run that returns are their own caseless forms. -/
theorem CaseRun.caselessOf_of_returns {run : CaseRun} {code image : Nat}
    {lowers uppers : List CaseRun} (amongLowers : lowers ⊆ lowerRuns)
    (amongUppers : uppers ⊆ upperRuns) (back : run.returns lowers uppers = true)
    (applied : run.apply? code = some image) (valid : (Char.ofNat image).toNat = image) :
    caselessOf (Char.ofNat image) = [Char.ofNat image] := by
  simp only [returns, List.any_eq_true, Bool.and_eq_true] at back
  obtain ⟨lower, member, within, raised⟩ := back
  obtain ⟨small, lowered, both⟩ := exists_andThen within applied
  have smallCode := lowerTable.toNat_image (amongLowers member) lowered
  have capital := upperOf_of_raisesTo amongUppers raised both smallCode
  obtain ⟨-, -, -, rfl⟩ := applies_iff.mp applied
  rw [← valid] at lowered
  rw [caselessOf, lowerOf_eq, lowerTable.map_of_run (amongLowers member) lowered,
    List.flatMap_singleton, capital]
  rfl

/-- How the tables of lower case and of upper case go together. -/
structure CasesAgree : Prop where
  /-- Lower case yields no character that it changes. -/
  lowerRuns_settled : CaseRun.alongside id (·.isPlain lowerTable) lowerRuns lowerRuns = true
  lowerExpansions_settled : (lowerExpansions.all fun expansion => expansion.2.all fun code =>
    (CaseRun.point code).isPlain lowerTable lowerRuns) = true
  /-- What lower case expands has no upper case. -/
  lowerExpansions_unraised : (lowerExpansions.all fun expansion =>
    (CaseRun.point expansion.1).isPlain upperTable upperRuns) = true
  /-- What upper case yields is the upper case of its lower case. In most runs the run itself is
  what gives it back. -/
  upperRuns_settled : CaseRun.alongside id
    (fun run near => run.returns near (run :: upperRuns)) lowerRuns upperRuns = true
  /-- What an expansion is made of is a capital letter or a mark without case. -/
  upperExpansions_settled : CaseRun.alongside .point
    (fun code near => (CaseRun.point code).returns near upperRuns ||
      (CaseRun.point code).isPlain lowerTable near &&
        (CaseRun.point code).isPlain upperTable upperRuns)
    lowerRuns (upperExpansions.flatMap (·.2)) = true
  /-- A character that has both cases, as in title case, has the upper case of its lower case. -/
  upperRuns_raised : CaseRun.alongside CaseRun.members
    (fun run near => near.all fun lower => run.members.misses lower ||
      run.members.within lower && (run.members.andThen lower).raisesTo upperRuns run.target)
    lowerRuns upperRuns = true
  upperExpansions_raised : CaseRun.alongside (CaseRun.point ·.1)
    (fun expansion near => near.all fun lower => (CaseRun.point expansion.1).misses lower ||
      (CaseRun.point expansion.1).within lower &&
        upperExpansions.contains
          (((CaseRun.point expansion.1).andThen lower).target, expansion.2))
    lowerRuns upperExpansions = true

/-- Lower case, upper case and caseless form agree. -/
theorem casesAgree : CasesAgree where
  lowerRuns_settled := by decide +kernel
  lowerExpansions_settled := by decide +kernel
  lowerExpansions_unraised := by decide +kernel
  upperRuns_settled := by decide +kernel
  upperExpansions_settled := by decide +kernel
  upperRuns_raised := by decide +kernel
  upperExpansions_raised := by decide +kernel

private theorem exists_lower {α : Type} {yields : α → CaseRun} {check : α → List CaseRun → Bool}
    {items : List α} {item : α} (checked : CaseRun.alongside yields check lowerRuns items = true)
    (member : item ∈ items) :
    ∃ near ⊆ lowerRuns, check item near = true ∧
      ∀ lower ∈ lowerRuns, (yields item).Near near lower := by
  obtain ⟨near, among, passed, close⟩ := CaseRun.exists_near checked member
  exact ⟨near, among, passed, close lowerTable.ascending⟩

/-- Lower case is its own lower case. -/
theorem lowerOf_lowerOf (c : Char) : (lowerOf c).flatMap lowerOf = lowerOf c := by
  rcases lowerTable.map_cases c with
    ⟨run, member, image, applied, mapped⟩ | ⟨codes, member, mapped⟩ | mapped <;>
    rw [← lowerOf_eq] at mapped <;> rw [mapped]
  · obtain ⟨near, -, plain, close⟩ := exists_lower casesAgree.lowerRuns_settled member
    rw [List.flatMap_singleton, lowerOf_eq]
    exact CaseRun.map_of_isPlain plain close applied (lowerTable.toNat_image member applied)
  · have settled := List.all_eq_true.mp casesAgree.lowerExpansions_settled _ member
    rw [List.flatMap_map, List.map_eq_flatMap]
    refine List.flatMap_congr fun code inside => ?_
    have valid := ((lowerTable.expands _ member).2.2 code inside).2
    exact CaseRun.map_of_isPlain (List.all_eq_true.mp settled code inside)
      (fun _ among => .inl among) (CaseRun.point_applies code) (toNat_ofNat_of_isValidChar valid)
  · rw [List.flatMap_singleton, mapped]

/-- Upper case is the same up to letter case, or it is no other character. -/
private theorem caseless_upperOf_or (c : Char) :
    caseless (upperOf c) = upperOf c ∨ upperOf c = [c] := by
  rcases upperTable.map_cases c with
    ⟨run, member, image, applied, mapped⟩ | ⟨codes, member, mapped⟩ | mapped <;>
    rw [← upperOf_eq] at mapped <;> rw [mapped]
  · have among : run ∈ upperRuns := member
    obtain ⟨near, lowers, back, -⟩ := exists_lower casesAgree.upperRuns_settled among
    have uppers : run :: upperRuns ⊆ upperRuns := List.cons_subset.mpr ⟨among, List.Subset.refl _⟩
    have same := CaseRun.caselessOf_of_returns lowers uppers back applied
      (upperTable.toNat_image member applied)
    rw [caseless, List.flatMap_singleton, same]
    exact .inl rfl
  · refine .inl ?_
    have expands := (upperTable.expands _ member).2.2
    rw [caseless, List.flatMap_map, List.map_eq_flatMap]
    refine List.flatMap_congr fun code inside => ?_
    have among : code ∈ upperExpansions.flatMap (·.2) := List.mem_flatMap.mpr ⟨_, member, inside⟩
    obtain ⟨near, lowers, settled, close⟩ := exists_lower casesAgree.upperExpansions_settled among
    have applied := CaseRun.point_applies code
    have same := toNat_ofNat_of_isValidChar (expands code inside).2
    -- A code of an expansion is given back by the upper case, or no table changes it.
    rcases Bool.or_eq_true_iff.mp settled with back | plain
    · exact CaseRun.caselessOf_of_returns lowers (List.Subset.refl _) back applied same
    · obtain ⟨noLower, noUpper⟩ := Bool.and_eq_true_iff.mp plain
      have lowered := CaseRun.map_of_isPlain noLower close applied same
      have raised := CaseRun.map_of_isPlain noUpper (fun _ among => .inl among) applied same
      rw [caselessOf, lowerOf_eq, lowered, List.flatMap_singleton, upperOf_eq, raised]
  · exact .inr rfl

/-- A character that has a lower case and an upper case has the upper case of its lower case. -/
private theorem upperOf_lowered {c : Char} {lower : CaseRun} {small : Nat}
    (lowerMember : lower ∈ lowerRuns) (lowered : lower.apply? c.toNat = some small)
    (changed : upperOf c ≠ [c]) : upperOf (Char.ofNat small) = upperOf c := by
  have smallCode := lowerTable.toNat_image lowerMember lowered
  have meets {run : CaseRun} (applied : run.apply? c.toNat = some c.toNat) :
      run.misses lower ≠ true := by
    intro missed
    rw [CaseRun.none_of_misses missed applied] at lowered
    cases lowered
  rcases upperTable.map_cases c with
    ⟨run, member, image, applied, mapped⟩ | ⟨codes, member, mapped⟩ | mapped <;>
    rw [← upperOf_eq] at mapped
  -- The character is in a run of the upper table: the lower run goes on to where this one does.
  · have among : run ∈ upperRuns := member
    obtain ⟨near, -, checked, close⟩ := exists_lower casesAgree.upperRuns_raised among
    have itself := CaseRun.members_applies applied
    have raised := List.all_eq_true.mp checked lower
      (CaseRun.mem_of_near (close lower lowerMember) itself lowered)
    rw [Bool.or_eq_true_iff, or_iff_right (meets itself), Bool.and_eq_true] at raised
    obtain ⟨further, again, both⟩ := CaseRun.exists_andThen raised.1 itself
    obtain rfl : small = further := Option.some.inj (lowered.symm.trans again)
    obtain ⟨-, -, -, rfl⟩ := CaseRun.applies_iff.mp applied
    rw [CaseRun.upperOf_of_raisesTo (List.Subset.refl _) raised.2 both smallCode, mapped]
    rfl
  -- The character has an expansion: what it is lowered to has the same one.
  · have among : (c.toNat, codes) ∈ upperExpansions := member
    obtain ⟨near, -, checked, close⟩ := exists_lower casesAgree.upperExpansions_raised among
    have itself := CaseRun.point_applies c.toNat
    have raised := List.all_eq_true.mp checked lower
      (CaseRun.mem_of_near (close lower lowerMember) itself lowered)
    rw [Bool.or_eq_true_iff, or_iff_right (meets itself), Bool.and_eq_true,
      List.contains_iff_mem] at raised
    obtain ⟨within, expanded⟩ := raised
    obtain ⟨further, again, both⟩ := CaseRun.exists_andThen within itself
    obtain rfl : small = further := Option.some.inj (lowered.symm.trans again)
    have target : ((CaseRun.point c.toNat).andThen lower).target = small := by
      obtain ⟨-, -, -, same⟩ := CaseRun.applies_iff.mp both
      simpa [CaseRun.andThen, CaseRun.point] using same
    rw [target, ← smallCode] at expanded
    rw [mapped, upperOf_eq, upperTable.map_of_expansion expanded]
  · exact absurd mapped changed

/-- Upper case is the same up to letter case. -/
theorem caseless_upperOf (c : Char) : caseless (upperOf c) = caselessOf c := by
  by_cases same : upperOf c = [c]
  · rw [same, caseless, List.flatMap_singleton]
  have settled := (caseless_upperOf_or c).resolve_right same
  rw [settled, caselessOf]
  rcases lowerTable.map_cases c with
    ⟨lower, member, small, lowered, mapped⟩ | ⟨codes, member, -⟩ | mapped
  · rw [lowerOf_eq, mapped, List.flatMap_singleton, upperOf_lowered member lowered same]
  · have plain := List.all_eq_true.mp casesAgree.lowerExpansions_unraised _ member
    have raised := CaseRun.map_of_isPlain plain (fun _ among => .inl among)
      (CaseRun.point_applies c.toNat) (by rw [Char.ofNat_toNat])
    rw [Char.ofNat_toNat] at raised
    exact absurd raised same
  · rw [lowerOf_eq, mapped, List.flatMap_singleton]

/-- Lower case is the same up to letter case. -/
theorem caseless_lowerOf (c : Char) : caseless (lowerOf c) = caselessOf c := by
  unfold caseless caselessOf
  rw [← List.flatMap_assoc, lowerOf_lowerOf]

private theorem flatMap_upperOf_lowerAfter (before text : List Char) :
    (lowerAfter before text).flatMap upperOf = caseless text := by
  induction text generalizing before with
  | nil => rfl
  | cons c rest ih =>
      rw [lowerAfter, List.flatMap_append, ih, caseless, caseless, List.flatMap_cons]
      congr 1
      split
      case isFalse => rfl
      case isTrue sigma =>
        -- Both forms of the small sigma have the upper case of the capital one.
        subst sigma
        split <;> decide

/-- The upper case of the lower case of a text is found character by character. -/
theorem upper_lower (text : String) :
    upper (lower text) = String.ofList (caseless text.toList) := by
  rw [upper, lower, String.toList_ofList, flatMap_upperOf_lowerAfter]

end DataLayer.Text
