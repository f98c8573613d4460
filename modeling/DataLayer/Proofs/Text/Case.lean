import DataLayer.Proofs.Text.CaseTable

/-!
# Letter case

Texts that agree up to the case of ASCII letters have the same lower case, so the narrow comparison
of names implies the wide one. Lower case has no capital ASCII letters: none stands for itself, and
no mapping of another character yields one. Digits behind a text stay as they are and end the word,
so they have no influence on what stands before them.
-/

namespace DataLayer.Text

/-- Ranges that lie apart from an interval have none of its code points. -/
theorem inRanges_of_apart {ranges : List (Nat × Nat)} {low high code : Nat}
    (apart : (ranges.all fun range => Nat.blt range.2 low || Nat.blt high range.1) = true)
    (atLeast : low ≤ code) (atMost : code ≤ high) : inRanges ranges code = false := by
  refine List.any_eq_false.mpr fun range member => ?_
  have outside := List.all_eq_true.mp apart range member
  rw [Bool.or_eq_true_iff, Nat.blt_eq, Nat.blt_eq] at outside
  rw [Bool.and_eq_true, decide_eq_true_iff, decide_eq_true_iff]
  omega

private theorem capital_of_toLower_ne {c : Char} (changed : c.toLower ≠ c) :
    65 ≤ c.toNat ∧ c.toNat ≤ 90 := by
  unfold Char.toLower at changed
  split at changed
  · rename_i inside
    exact ⟨UInt32.le_iff_toNat_le.mp inside.1, UInt32.le_iff_toNat_le.mp inside.2⟩
  · exact absurd rfl changed

/-- A character that lowering changes is one of `A` to `Z`, so what holds of these holds of it. -/
private theorem of_toLower_ne (property : Char → Prop)
    (letters : ∀ code ∈ List.range' 65 26, property (Char.ofNat code)) {c : Char}
    (changed : c.toLower ≠ c) : property c :=
  have capital := capital_of_toLower_ne changed
  of_codes property letters capital.1 (by omega)

private theorem isCased_toLower (c : Char) : isCased c.toLower = isCased c := by
  by_cases changed : c.toLower = c
  · rw [changed]
  · exact of_toLower_ne (fun c => isCased c.toLower = isCased c) (by decide) changed

private theorem isCaseIgnorable_toLower (c : Char) :
    isCaseIgnorable c.toLower = isCaseIgnorable c := by
  by_cases changed : c.toLower = c
  · rw [changed]
  · have capital := capital_of_toLower_ne changed
    have small : 97 ≤ c.toLower.toNat ∧ c.toLower.toNat ≤ 122 :=
      of_toLower_ne (fun c => 97 ≤ c.toLower.toNat ∧ c.toLower.toNat ≤ 122) (by decide) changed
    unfold isCaseIgnorable
    rw [inRanges_of_apart (by decide +kernel) capital.1 capital.2,
      inRanges_of_apart (by decide +kernel) small.1 small.2]

private theorem lowerOf_toLower (c : Char) : lowerOf c.toLower = lowerOf c := by
  by_cases changed : c.toLower = c
  · rw [changed]
  · exact of_toLower_ne (fun c => lowerOf c.toLower = lowerOf c) (by decide) changed

private theorem toLower_eq_sigma_iff (c : Char) : c.toLower = 'Σ' ↔ c = 'Σ' := by
  by_cases changed : c.toLower = c
  · rw [changed]
  · exact of_toLower_ne (fun c => c.toLower = 'Σ' ↔ c = 'Σ') (by decide) changed

private theorem meetsCased_map_toLower (characters : List Char) :
    meetsCased (characters.map Char.toLower) = meetsCased characters := by
  induction characters with
  | nil => rfl
  | cons c rest ih =>
      unfold meetsCased at ih ⊢
      rw [List.map_cons, List.dropWhile_cons, List.dropWhile_cons, isCaseIgnorable_toLower]
      cases isCaseIgnorable c with
      | true => exact ih
      | false => exact isCased_toLower c

/-- Lower case does not depend on the case of ASCII letters, in the text or before it. -/
private theorem lowerAfter_map_toLower (before text : List Char) :
    lowerAfter (before.map Char.toLower) (text.map Char.toLower) = lowerAfter before text := by
  induction text generalizing before with
  | nil => rfl
  | cons c rest ih =>
      have next := ih (c :: before)
      rw [List.map_cons] at next ⊢
      simp only [lowerAfter, next, meetsCased_map_toLower, lowerOf_toLower, toLower_eq_sigma_iff]

/-- Without a capital sigma every character is lowered on its own. -/
theorem lower_of_no_sigma {text : String} (plain : 'Σ' ∉ text.toList) :
    lower text = String.ofList (text.toList.flatMap lowerOf) := by
  have lowered (before characters : List Char) (plain : 'Σ' ∉ characters) :
      lowerAfter before characters = characters.flatMap lowerOf := by
    induction characters generalizing before with
    | nil => rfl
    | cons c rest ih =>
        rw [List.mem_cons, not_or] at plain
        rw [lowerAfter, if_neg (Ne.symm plain.1), ih _ plain.2, List.flatMap_cons]
  rw [lower, lowered [] _ plain]

/-- Names that agree up to the case of ASCII letters agree in lower case. -/
theorem lower_eq_of_sameIgnoringAsciiCase {left right : String}
    (same : sameIgnoringAsciiCase left right = true) : lower left = lower right := by
  have folded : left.toList.map Char.toLower = right.toList.map Char.toLower := by
    simpa [sameIgnoringAsciiCase] using same
  rw [lower, lower, ← lowerAfter_map_toLower [] left.toList, folded,
    lowerAfter_map_toLower [] right.toList]

private theorem isUpper_lowerAfter (before text : List Char) :
    ∀ d ∈ lowerAfter before text, d.isUpper = false := by
  induction text generalizing before with
  | nil => simp [lowerAfter]
  | cons c rest ih =>
      intro d mem
      rcases List.mem_append.mp mem with here | later
      · split at here
        · rw [List.mem_singleton.mp here]
          split <;> rfl
        · exact isUpper_of_mem_lowerOf here
      · exact ih (c :: before) d later

/-- No capital ASCII letter is left in lower case. -/
theorem isUpper_of_mem_lower {text : String} {c : Char} (member : c ∈ (lower text).toList) :
    c.isUpper = false := by
  rw [lower, String.toList_ofList] at member
  exact isUpper_lowerAfter [] _ c member

/-- The codes of the ASCII digits are 48 to 57. -/
theorem codes_of_isAsciiDigit {c : Char} (digit : isAsciiDigit c = true) :
    48 ≤ c.toNat ∧ c.toNat ≤ 57 := by
  rw [isAsciiDigit, Bool.and_eq_true, decide_eq_true_iff, decide_eq_true_iff] at digit
  exact ⟨UInt32.le_iff_toNat_le.mp digit.1, UInt32.le_iff_toNat_le.mp digit.2⟩

/-- What holds of `0` to `9` holds of every ASCII digit. -/
theorem of_isAsciiDigit (property : Char → Prop)
    (digits : ∀ code ∈ List.range' 48 10, property (Char.ofNat code)) {c : Char}
    (digit : isAsciiDigit c = true) : property c :=
  have codes := codes_of_isAsciiDigit digit
  of_codes property digits codes.1 (by omega)

private theorem uncased_of_isAsciiDigit {c : Char} (digit : isAsciiDigit c = true) :
    isCased c = false ∧ isCaseIgnorable c = false ∧ c ≠ 'Σ' ∧ lowerOf c = [c] := by
  obtain ⟨low, high⟩ := codes_of_isAsciiDigit digit
  exact ⟨inRanges_of_apart (by decide +kernel) low high,
    inRanges_of_apart (by decide +kernel) low high,
    of_isAsciiDigit (fun c => c ≠ 'Σ' ∧ lowerOf c = [c]) (by decide) digit⟩

/-- A digit ends the search for a cased character. -/
private theorem meetsCased_append_digits {digits : List Char}
    (plain : ∀ c ∈ digits, isAsciiDigit c = true) (text : List Char) :
    meetsCased (text ++ digits) = meetsCased text := by
  induction text with
  | nil =>
      cases digits with
      | nil => rfl
      | cons c rest =>
          obtain ⟨uncased, met, -, -⟩ := uncased_of_isAsciiDigit (plain c List.mem_cons_self)
          simp [meetsCased, met, uncased]
  | cons c rest ih =>
      unfold meetsCased at ih ⊢
      rw [List.cons_append, List.dropWhile_cons, List.dropWhile_cons]
      cases isCaseIgnorable c with
      | true => exact ih
      | false => rfl

private theorem lowerAfter_digits {digits : List Char}
    (plain : ∀ c ∈ digits, isAsciiDigit c = true) (before : List Char) :
    lowerAfter before digits = digits := by
  induction digits generalizing before with
  | nil => rfl
  | cons c rest ih =>
      obtain ⟨digit, others⟩ := List.forall_mem_cons.mp plain
      obtain ⟨-, -, noSigma, same⟩ := uncased_of_isAsciiDigit digit
      rw [lowerAfter, if_neg noSigma, same, ih others, List.singleton_append]

private theorem lowerAfter_append_digits {digits : List Char}
    (plain : ∀ c ∈ digits, isAsciiDigit c = true) (before text : List Char) :
    lowerAfter before (text ++ digits) = lowerAfter before text ++ digits := by
  induction text generalizing before with
  | nil => exact lowerAfter_digits plain before
  | cons c rest ih =>
      rw [List.cons_append, lowerAfter, lowerAfter, ih, meetsCased_append_digits plain,
        List.append_assoc]

/-- Digits at the end of a text have no influence on the lower case of what stands before them. -/
theorem lower_append_digits {text digits : String}
    (plain : ∀ c ∈ digits.toList, isAsciiDigit c = true) :
    lower (text ++ digits) = lower text ++ digits := by
  rw [lower, String.toList_append, lowerAfter_append_digits plain, String.ofList_append,
    String.ofList_toList, lower]

end DataLayer.Text
