import DataLayer.Wrapper.Statement

/-!
# The text of laid-out code

With a line end behind every line, the text of several pieces is made of the texts of the pieces,
one after the other. `Text.FixedAround` says that of a text only some parts vary, in order; the
rules of it follow the pieces and blocks of code in which the parts stand.
-/

namespace DataLayer

namespace Text

@[simp] theorem concat_nil : concat [] = "" := rfl

@[simp] theorem concat_cons (first : String) (others : List String) :
    concat (first :: others) = first ++ concat others := by
  cases others with
  | nil => simp [concat, joinWith]
  | cons next others => simp [concat, joinWith]

@[simp] theorem concat_append (texts others : List String) :
    concat (texts ++ others) = concat texts ++ concat others := by
  induction texts with
  | nil => simp
  | cons first texts ih =>
      rw [List.cons_append, concat_cons, concat_cons, ih, String.append_assoc]

/-- The texts of many lists one after the other are those of all their members. -/
theorem concat_flatMap {V : Type} (members : List V) (texts : V → List String) :
    concat (members.flatMap texts) = concat (members.map fun member => concat (texts member)) := by
  induction members with
  | nil => rfl
  | cons first members ih =>
      rw [List.flatMap_cons, concat_append, ih, List.map_cons, concat_cons]

/-- Joined texts are the first of them, and then the others with the separator before each. -/
theorem joinWith_cons (separator first : String) (others : List String) :
    joinWith separator (first :: others) = first ++ concat (others.map (separator ++ ·)) := by
  induction others generalizing first with
  | nil => simp [joinWith]
  | cons next others ih =>
      rw [joinWith, ih, List.map_cons, concat_cons, String.append_assoc, String.append_assoc]

/-- Texts that are followed by others stand with the separator behind each. -/
theorem joinWith_append {separator : String} {others : List String} (followed : others ≠ [])
    (texts : List String) :
    joinWith separator (texts ++ others) =
      concat (texts.map (· ++ separator)) ++ joinWith separator others := by
  induction texts with
  | nil => simp
  | cons first texts ih =>
      have later : texts ++ others ≠ [] := List.append_ne_nil_of_right_ne_nil _ followed
      obtain ⟨next, rest, following⟩ := List.exists_cons_of_ne_nil later
      rw [List.cons_append, following, joinWith, ← following, ih, List.map_cons, concat_cons]
      simp only [String.append_assoc]

/-- The lines, each with its line end. -/
def ended (lines : List String) : String := concat (lines.map (· ++ "\n"))

/-- Lines are ended one by one, so those of two lists can be ended apart. -/
theorem ended_append (lines others : List String) :
    ended (lines ++ others) = ended lines ++ ended others := by
  rw [ended, List.map_append, concat_append, ended, ended]

/-- The text varies with a value only in some parts of it. They are given in their order, and before,
between and after them stands the same for every value. -/
inductive FixedAround {V : Type} : (V → String) → List (V → String) → Prop where
  | fixed (text : String) : FixedAround (fun _ => text) []
  | part (before : String) (varying : V → String) {rest : V → String} {parts : List (V → String)}
      (others : FixedAround rest parts) :
      FixedAround (fun value => before ++ varying value ++ rest value) (varying :: parts)

namespace FixedAround

variable {V : Type} {text other : V → String} {parts others : List (V → String)}

/-- Only the values of a text matter, not how it is written down. -/
theorem congr (around : FixedAround text parts) (same : ∀ value, other value = text value) :
    FixedAround other parts := by
  rw [funext same]
  exact around

/-- More fixed text may stand in front. -/
theorem withOpening (around : FixedAround text parts) (opening : String) :
    FixedAround (fun value => opening ++ text value) parts := by
  cases around with
  | fixed text => exact .fixed (opening ++ text)
  | part before varying others =>
      refine (FixedAround.part (opening ++ before) varying others).congr fun value => ?_
      simp only [String.append_assoc]

/-- Two texts one after the other have the parts of both, in this order. -/
theorem append (around : FixedAround text parts) (aroundOther : FixedAround other others) :
    FixedAround (fun value => text value ++ other value) (parts ++ others) := by
  induction around with
  | fixed text => exact aroundOther.withOpening text
  | part before varying _ ih =>
      refine (FixedAround.part before varying ih).congr fun value => ?_
      simp only [String.append_assoc]

/-- More fixed text may stand behind. -/
theorem withClosing (around : FixedAround text parts) (closing : String) :
    FixedAround (fun value => text value ++ closing) parts := by
  have appended := around.append (.fixed closing)
  rwa [List.append_nil] at appended

/-- A text that varies as a whole is its own only part. -/
theorem whole (varying : V → String) : FixedAround varying [varying] := by
  refine (FixedAround.part "" varying (.fixed "")).congr fun value => ?_
  simp

/-- Parts that vary with what is computed from a value vary with the value. -/
theorem comp {W : Type} (around : FixedAround text parts) (value : W → V) :
    FixedAround (fun origin => text (value origin))
      (parts.map fun varying origin => varying (value origin)) := by
  induction around with
  | fixed text => exact .fixed text
  | part before varying _ ih => exact .part before (fun origin => varying (value origin)) ih

end FixedAround

end Text

namespace Code

open Text (FixedAround concat ended)

@[simp] theorem linesOfAll_append (depth : Nat) (pieces others : List Code) :
    linesOfAll depth (pieces ++ others) = linesOfAll depth pieces ++ linesOfAll depth others := by
  induction pieces with
  | nil => rfl
  | cons piece pieces ih => simp only [List.cons_append, linesOfAll, ih, List.append_assoc]

/-- The lines of code that is written member by member are those of each member in order. -/
theorem linesOfAll_flatMap {V : Type} (depth : Nat) (members : List V) (code : V → List Code) :
    linesOfAll depth (members.flatMap code) =
      members.flatMap fun member => linesOfAll depth (code member) := by
  induction members with
  | nil => rfl
  | cons first members ih =>
      rw [List.flatMap_cons, List.flatMap_cons, linesOfAll_append, ih]

/-- The text of several pieces with a line end behind every line. -/
def text (depth : Nat) (pieces : List Code) : String := ended (linesOfAll depth pieces)

/-- The texts of two lists of pieces follow each other. -/
theorem text_append (depth : Nat) (pieces others : List Code) :
    text depth (pieces ++ others) = text depth pieces ++ text depth others := by
  rw [text, linesOfAll_append, Text.ended_append, text, text]

/-- The text of the first piece comes first. -/
theorem text_cons (depth : Nat) (first : Code) (others : List Code) :
    text depth (first :: others) = text depth [first] ++ text depth others :=
  text_append depth [first] others

/-- Code that is written member by member has its text member by member. -/
theorem text_flatMap {V : Type} (depth : Nat) (members : List V) (code : V → List Code) :
    text depth (members.flatMap code) = concat (members.map fun member => text depth (code member)) := by
  rw [text, linesOfAll_flatMap, ended, List.map_flatMap, Text.concat_flatMap]
  rfl

/-- A line is indented and ended. -/
theorem text_line (depth : Nat) (content : String) :
    text depth [line content] = indent depth ++ content ++ "\n" := by
  simp [text, linesOfAll, lines, ended]

/-- An empty line is not indented. -/
theorem text_blank (depth : Nat) : text depth [blank] = "\n" := by
  simp [text, linesOfAll, lines, ended]

/-- A block has its opening lines, its body one step deeper, and a closing brace. -/
theorem text_block (depth : Nat) (opening : List String) (body : List Code) :
    text depth [block opening body] =
      ended (openingLines depth opening) ++ text (depth + 1) body ++ indent depth ++ "\x7d\n" := by
  simp [text, linesOfAll, lines, ended, String.append_assoc]

/-- The body of a region is not indented further. -/
theorem text_region (depth : Nat) (title : String) (body : List Code) :
    text depth (region title body) =
      indent depth ++ "#region " ++ title ++ "\n" ++ text depth body ++ indent depth ++
        "#endregion\n" := by
  have bounded : region title body =
      [line ("#region " ++ title)] ++ body ++ [line "#endregion"] := rfl
  rw [bounded, text_append, text_append, text_line, text_line]
  simp only [String.append_assoc]
  rfl

/-- Code with an empty line between the members. -/
theorem text_intersperse_blank {V : Type} (depth : Nat) (members : List V) (code : V → List Code) :
    text depth ((members.map code).intersperse [blank]).flatten =
      Text.joinWith "\n" (members.map fun member => text depth (code member)) := by
  induction members with
  | nil => rfl
  | cons first others ih =>
      cases others with
      | nil => simp [Text.joinWith]
      | cons next others =>
          simp only [List.map_cons] at ih
          simp only [List.map_cons, List.intersperse_cons_cons, List.flatten_cons, text_append,
            text_blank, Text.joinWith, ih, String.append_assoc]

/-- The last brace has no line end. -/
theorem layout_block (depth : Nat) (pieces : List Code) (opening : List String)
    (body : List Code) :
    layout depth (pieces ++ [block opening body]) =
      text depth pieces ++ (ended (openingLines depth opening) ++ text (depth + 1) body ++
        (indent depth ++ "\x7d")) := by
  have closed : linesOfAll depth [block opening body] =
      (openingLines depth opening ++ linesOfAll (depth + 1) body) ++ [indent depth ++ "\x7d"] := by
    simp [linesOfAll, lines]
  rw [layout, linesOfAll_append, closed, Text.joinWith_append (by simp),
    Text.joinWith_append (by simp), ← ended, ← ended, Text.ended_append]
  rfl

section Around

variable {V : Type} {depth : Nat} {inner others : V → List Code} {parts further : List (V → String)}

/-- A fixed piece may stand in front of code that varies. -/
theorem fixedAround_cons (around : FixedAround (fun value => text depth (inner value)) parts)
    (first : Code) : FixedAround (fun value => text depth (first :: inner value)) parts :=
  (around.withOpening (text depth [first])).congr fun value => text_cons depth first (inner value)

/-- So may several fixed pieces. -/
theorem fixedAround_behind (around : FixedAround (fun value => text depth (inner value)) parts)
    (before : List Code) : FixedAround (fun value => text depth (before ++ inner value)) parts :=
  (around.withOpening (text depth before)).congr fun value => text_append depth before (inner value)

/-- Fixed pieces may stand behind code that varies. -/
theorem fixedAround_before (around : FixedAround (fun value => text depth (inner value)) parts)
    (after : List Code) : FixedAround (fun value => text depth (inner value ++ after)) parts :=
  (around.withClosing (text depth after)).congr fun value => text_append depth (inner value) after

/-- Code that varies may follow other code that does, with the parts of both. -/
theorem fixedAround_append (around : FixedAround (fun value => text depth (inner value)) parts)
    (aroundOthers : FixedAround (fun value => text depth (others value)) further) :
    FixedAround (fun value => text depth (inner value ++ others value)) (parts ++ further) :=
  (around.append aroundOthers).congr fun value => text_append depth (inner value) (others value)

/-- The parts in a block come before those in the code behind the block. -/
theorem fixedAround_block_append
    (around : FixedAround (fun value => text (depth + 1) (inner value)) parts)
    (opening : List String)
    (aroundOthers : FixedAround (fun value => text depth (others value)) further) :
    FixedAround (fun value => text depth (block opening (inner value) :: others value))
      (parts ++ further) := by
  have opened := around.withOpening (ended (openingLines depth opening))
  have closed := opened.withClosing (indent depth ++ "\x7d\n")
  refine (closed.append aroundOthers).congr fun value => ?_
  rw [text_cons, text_block]
  simp only [String.append_assoc]

/-- A block varies as its body does, whatever fixed pieces follow it. -/
theorem fixedAround_block
    (around : FixedAround (fun value => text (depth + 1) (inner value)) parts)
    (opening : List String) (after : List Code) :
    FixedAround (fun value => text depth (block opening (inner value) :: after)) parts := by
  have appended := fixedAround_block_append around opening (.fixed (text depth after))
  rwa [List.append_nil] at appended

/-- The parts in the last block come after those in the code before it. -/
theorem fixedAround_lastBlock (around : FixedAround (fun value => text depth (others value)) parts)
    (opening : List String)
    (aroundInner : FixedAround (fun value => text (depth + 1) (inner value)) further) :
    FixedAround (fun value => layout depth (others value ++ [block opening (inner value)]))
      (parts ++ further) := by
  have opened := aroundInner.withOpening (ended (openingLines depth opening))
  have closed := opened.withClosing (indent depth ++ "\x7d")
  exact (around.append closed).congr fun value =>
    layout_block depth (others value) opening (inner value)

/-- A list of members varies with the texts of its members. -/
theorem fixedAround_flatMap {W : Type} {code : W → List Code} {written : W → String}
    (same : ∀ member, text depth (code member) = written member) (members : V → List W) :
    FixedAround (fun value => text depth ((members value).flatMap code))
      [fun value => concat ((members value).map written)] := by
  refine (FixedAround.whole _).congr fun value => ?_
  rw [text_flatMap]
  exact congrArg concat (List.map_congr_left fun member _ => same member)

end Around

end Code

/-- The code of a body is that of its statements, piece by piece. -/
theorem BodyStatement.codeOfAll_eq (body : List BodyStatement) :
    codeOfAll body = body.map code := by
  induction body with
  | nil => rfl
  | cons statement body ih => rw [codeOfAll, ih, List.map_cons]

/-- A statement that is in another body too has its code there. -/
theorem BodyStatement.codeOfAll_subset {body others : List BodyStatement}
    (contained : body ⊆ others) : codeOfAll body ⊆ codeOfAll others := by
  rw [codeOfAll_eq, codeOfAll_eq]
  exact List.map_subset code contained

end DataLayer
