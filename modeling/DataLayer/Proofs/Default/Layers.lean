import DataLayer.Proofs.Default.Parentheses

/-!
# Layers that do not matter

Stripping comes to the one text that no matching pair of parentheses encloses any more, and takes
off nothing but white space and matching pairs. So the normal form of a default is the same with
any number of layers around it.
-/

namespace DataLayer.DefaultExpression

/-- The first parenthesis closes at the last character. -/
def Wrapped (text : List Char) : Prop := ∃ body, Balanced body ∧ text = '(' :: (body ++ [')'])

/-- A text around a core from which only white space and matching pairs of parentheses separate
it. -/
inductive Layered (core : List Char) : List Char → Prop
  | core : Layered core core
  | inBlanks {before text after : List Char} : Blank before → Layered core text → Blank after →
      Layered core (before ++ text ++ after)
  | inParentheses {text : List Char} : Layered core text → Balanced text →
      Layered core ('(' :: (text ++ [')']))

variable {core text : List Char}

section Wrapped

/-- A parenthesis that stays open up to the last character, and is closed by it, encloses a balanced
text. -/
theorem follow_of_staysOpen {depth : Nat} {quoted : Bool}
    (kept : staysOpen (depth + 1) quoted (text ++ [')']) = true) :
    follow depth quoted text = some (0, false) := by
  induction text generalizing depth quoted with
  | nil =>
      cases quoted
      · have closed : depth = 0 := by simpa [staysOpen] using kept
        rw [closed]
        rfl
      · simp [staysOpen] at kept
  | cons c text ih =>
      simp only [List.cons_append, staysOpen] at kept
      rw [follow]
      split at kept
      · rw [if_pos ‹_›, ih kept]
      split at kept
      · rw [if_neg ‹_›, if_pos ‹_›, ih kept]
      split at kept
      · split at kept
        · cases kept
        -- The last character is still to come, so this one must not close the first.
        rename_i open_
        have above : depth ≠ 0 := fun zero => open_ ⟨by omega, by simp⟩
        obtain ⟨below, rfl⟩ := Nat.exists_eq_succ_of_ne_zero above
        rw [if_neg ‹_›, if_neg ‹_›, if_pos ‹_›, if_neg (by omega)]
        exact ih kept
      · rw [if_neg ‹_›, if_neg ‹_›, if_neg ‹_›, ih kept]

/-- The scan for a parenthesis that stays open to the end finds exactly the wrapped texts. -/
theorem isWrapped_iff : isWrapped text = true ↔ Wrapped text := by
  constructor
  · intro wrapped
    have whole := eq_of_isWrapped wrapped
    have kept : staysOpen 0 false text = true := (Bool.and_eq_true_iff.mp wrapped).2
    rw [whole] at kept
    exact ⟨inner text, follow_of_staysOpen kept, whole⟩
  · rintro ⟨body, balanced, rfl⟩
    exact isWrapped_inParentheses balanced

end Wrapped

section Strip

/-- What trimming takes off is a layer. -/
theorem Layered.of_trimmed (layered : Layered core (trimmed text)) : Layered core text := by
  obtain ⟨before, after, blankBefore, blankAfter, same⟩ := exists_inBlanks text
  rw [same]
  exact layered.inBlanks blankBefore blankAfter

/-- Stripping takes off nothing but layers. -/
theorem layered_stripParentheses (text : List Char) : Layered (stripParentheses text) text := by
  induction text using stripParentheses.induct with
  | case1 text wrapped ih =>
      obtain ⟨body, balanced, whole⟩ := isWrapped_iff.mp wrapped
      have between : inner (trimmed text) = body := by
        rw [whole]
        exact List.dropLast_concat
      rw [stripParentheses, if_pos wrapped]
      rw [between] at ih ⊢
      refine Layered.of_trimmed ?_
      rw [whole]
      exact ih.inParentheses balanced
  | case2 text bare =>
      rw [stripParentheses, if_neg bare]
      exact Layered.core.of_trimmed

/-- Stripping leaves no wrapped text. -/
theorem not_wrapped_stripParentheses (text : List Char) : ¬ Wrapped (stripParentheses text) := by
  induction text using stripParentheses.induct with
  | case1 text wrapped ih =>
      rw [stripParentheses, if_pos wrapped]
      exact ih
  | case2 text bare =>
      rw [stripParentheses, if_neg bare]
      exact fun wrapped => bare (isWrapped_iff.mpr wrapped)

/-- Layers make no difference to stripping. -/
theorem Layered.stripParentheses_eq (layered : Layered core text) :
    stripParentheses text = stripParentheses core := by
  induction layered with
  | core => rfl
  | inBlanks blankBefore _ blankAfter ih =>
      rw [← stripParentheses_trimmed, trimmed_inBlanks blankBefore blankAfter,
        stripParentheses_trimmed, ih]
  | inParentheses _ balanced ih => rw [stripParentheses_inParentheses balanced, ih]

/-- Layers around a balanced text consist of matching pairs. -/
theorem Enclosed.layered (balanced : Balanced core) (enclosed : Enclosed core text) :
    Layered core text := by
  induction enclosed with
  | core => exact .core
  | inBlanks blankBefore _ blankAfter ih => exact ih.inBlanks blankBefore blankAfter
  | inParentheses layers ih => exact ih.inParentheses (layers.balanced balanced)

/-- Layers are parentheses and white space around a text. -/
theorem Layered.enclosed (layered : Layered core text) : Enclosed core text := by
  induction layered with
  | core => exact .core
  | inBlanks blankBefore _ blankAfter ih => exact ih.inBlanks blankBefore blankAfter
  | inParentheses _ _ ih => exact ih.inParentheses

/-- Around a balanced text, any parentheses and white space are layers. -/
theorem Enclosed.stripParentheses_eq (balanced : Balanced core) (enclosed : Enclosed core text) :
    stripParentheses text = stripParentheses core :=
  (enclosed.layered balanced).stripParentheses_eq

/-- A stripped text stands in the original one, between parentheses and white space. -/
theorem enclosed_stripParentheses (text : List Char) : Enclosed (stripParentheses text) text :=
  (layered_stripParentheses text).enclosed

/-- Whatever a text is stripped to is separated from it by layers only, and has none itself; and
there is only one such text. -/
theorem stripParentheses_eq_iff :
    stripParentheses text = core ↔ Layered core text ∧ Unpadded core ∧ ¬ Wrapped core := by
  constructor
  · rintro rfl
    exact ⟨layered_stripParentheses text, unpadded_stripParentheses text,
      not_wrapped_stripParentheses text⟩
  · rintro ⟨layered, unpadded, bare⟩
    rw [layered.stripParentheses_eq]
    refine stripParentheses_eq_self unpadded ?_
    rwa [← Bool.not_eq_true, isWrapped_iff]

example : stripParentheses "((a)+(b))".toList = "(a)+(b)".toList := by cbv

example : stripParentheses " ((')'))".toList = "')'".toList := by cbv

end Strip

section Normalize

/-- Only white space is trimmed to nothing. -/
theorem isEmpty_trimmed_iff : (trimmed text).isEmpty = true ↔ Blank text := by
  rw [List.isEmpty_iff]
  constructor
  · intro nothing
    obtain ⟨before, after, blankBefore, blankAfter, same⟩ := exists_inBlanks text
    rw [nothing, List.append_nil] at same
    rw [same]
    exact List.forall_mem_append.mpr ⟨blankBefore, blankAfter⟩
  · intro blank
    rw [← List.append_nil text, ← List.append_nil (text ++ [])]
    rw [@trimmed_inBlanks _ [] _ blank (by simp [Blank])]
    rfl

/-- What is in the core is in the text around it. -/
theorem Enclosed.subset (enclosed : Enclosed core text) : core ⊆ text := by
  induction enclosed with
  | core => exact List.Subset.refl _
  | inBlanks _ _ _ ih =>
      exact fun c member => List.mem_append_left _ (List.mem_append_right _ (ih member))
  | inParentheses _ ih =>
      exact fun c member => List.mem_cons_of_mem _ (List.mem_append_left _ (ih member))

/-- Layers of parentheses and white space around a default have no influence on its normal form, and
stripping takes off all layers of every text and nothing else. -/
theorem layers_ignored :
    (∀ (raw text : String) (dbType : String) (nullable : Bool) (length : Int),
      ¬ Blank raw.toList → Balanced raw.toList → Enclosed raw.toList text.toList →
        normalize (some text) dbType nullable length =
          normalize (some raw) dbType nullable length) ∧
    ∀ text core : List Char,
      stripParentheses text = core ↔ Layered core text ∧ Unpadded core ∧ ¬ Wrapped core := by
  refine ⟨fun raw text dbType nullable length visible balanced enclosed => ?_,
    fun text core => stripParentheses_eq_iff⟩
  have visibleText : ¬ Blank text.toList :=
    fun blank => visible fun c member => blank c (enclosed.subset member)
  have notEmpty {characters : List Char} (visible : ¬ Blank characters) :
      (trimmed characters).isEmpty = false :=
    Bool.eq_false_iff.mpr fun nothing => visible (isEmpty_trimmed_iff.mp nothing)
  rw [normalize_some, normalize_some, notEmpty visible, notEmpty visibleText,
    enclosed.stripParentheses_eq balanced]

/-- Two layers with white space around a call whose text has a parenthesis in quotes. -/
theorem layers_ignored_nested :
    normalize (some " ( (left(')', 1) + '('))\t") "varchar" true 10 =
        normalize (some "left(')', 1) + '('") "varchar" true 10 := by
  have layers : Enclosed "left(')', 1) + '('".toList " ( (left(')', 1) + '('))\t".toList :=
    @Enclosed.inBlanks _ [' '] _ ['\t'] (by decide)
      (.inParentheses (@Enclosed.inBlanks _ [' '] _ [] (by decide) (.inParentheses .core)
        (by decide))) (by decide)
  exact layers_ignored.1 _ _ "varchar" true 10 (by decide) (by decide) layers

end Normalize

end DataLayer.DefaultExpression
