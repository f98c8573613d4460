import DataLayer.Proofs.Default.TextLiterals
import DataLayer.Proofs.Entity.Declaration
import DataLayer.Proofs.Literal.Characters

/-!
# Defaults that fit their members

The type of a member and the literal of its default are decided apart from each other, from the
type, the nullability and the length of the column. They agree on which columns hold one character
and which hold a text, except for documents, whose defaults keep the quotes of the database. What
stands in the literal is taken over, so it is one literal exactly when the text permits it.
-/

namespace DataLayer

open Text (lower)

namespace TypeMap

open DefaultExpression (characterTypes)

/-- Only the character types and documents have texts as their built-in counterparts, and none has
a character. -/
theorem builtinColumn?_string {dbType : String} {nullable : Bool} {target : String}
    (found : builtinColumn? dbType nullable = some target) :
    target ≠ "char" ∧
      (target = "string" → characterTypes.contains dbType = true ∨ dbType = "xml") := by
  obtain ⟨mapping, search, rfl⟩ := Option.map_eq_some_iff.mp found
  have listed : ∀ mapping ∈ ColumnMapping.builtin, ∀ nullable : Bool,
      (if nullable then mapping.optional else mapping.required) ≠ "char" ∧
        ((if nullable then mapping.optional else mapping.required) = "string" →
          characterTypes.contains mapping.dbType = true ∨ mapping.dbType = "xml") := by decide
  have named := List.find?_some search
  have answer := listed mapping (List.mem_of_find?_eq_some search) nullable
  rwa [eq_of_beq named] at answer

/-- Without replaced entries a column has its built-in type, or none. -/
theorem resolve_sqlServer (dbType : String) (nullable : Bool) (length : Int) :
    sqlServer.resolve dbType nullable length =
      match builtinColumn? (lower dbType) nullable with
      | none => .error (.unmappedType dbType (if nullable then "nullable column" else "column"))
      | some target =>
        if !nullable && length == 1 && target == "string" then .ok "char" else .ok target := rfl

/-- A type of texts is one of characters where there is room for one and it cannot be null. -/
theorem resolve_of_string {dbType : String} {nullable : Bool} (length : Int)
    (target : builtinColumn? (lower dbType) nullable = some "string") :
    sqlServer.resolve dbType nullable length =
      .ok (if !nullable && length == 1 then "char" else "string") := by
  rw [resolve_sqlServer, target]
  dsimp only
  rw [beq_self_eq_true, Bool.and_true]
  split <;> rfl

/-- A member holds a text or a character only for these types, and a character exactly where there
is room for one and it cannot be null. -/
theorem resolve_string {dbType : String} {nullable : Bool} {length : Int} {memberType : String}
    (resolved : sqlServer.resolve dbType nullable length = .ok memberType)
    (text : memberType = "string" ∨ memberType = "char") :
    (characterTypes.contains (lower dbType) = true ∨ lower dbType = "xml") ∧
      memberType = if !nullable && length == 1 then "char" else "string" := by
  rw [resolve_sqlServer] at resolved
  cases found : builtinColumn? (lower dbType) nullable with
  | none => simp [found] at resolved
  | some target =>
      obtain ⟨noCharacter, typed⟩ := builtinColumn?_string found
      rw [found] at resolved
      dsimp only at resolved
      split at resolved
      · rename_i single
        rw [Bool.and_eq_true, beq_iff_eq] at single
        cases resolved
        exact ⟨typed single.2, by rw [if_pos single.1]⟩
      · rename_i notSingle
        cases resolved
        rcases text with rfl | rfl
        · rw [beq_self_eq_true, Bool.and_true] at notSingle
          exact ⟨typed rfl, by rw [if_neg notSingle]⟩
        · exact absurd rfl noCharacter

end TypeMap

namespace DefaultExpression

open Literal (escaped isText isCharacter otherQuote lineEnds)

section Doubled

/-- Doubling quotes adds no other characters. -/
theorem mem_doubled {text : List Char} {c : Char} : c ∈ doubled text ↔ c ∈ text := by
  rw [doubled, List.mem_flatMap]
  constructor
  · rintro ⟨d, member, same⟩
    split at same <;> simp_all
  · exact fun member => ⟨c, member, by split <;> simp_all⟩

/-- Quotes are doubled one by one. -/
theorem doubled_append (first second : List Char) :
    doubled (first ++ second) = doubled first ++ doubled second := List.flatMap_append

/-- White space has no quotes to double. -/
theorem doubled_of_blank {text : List Char} (blank : Blank text) : doubled text = text :=
  doubled_of_free fun quote => absurd (blank _ quote) (by decide)

/-- White space around a text is white space around the text with doubled quotes. -/
theorem trimmed_doubled (text : List Char) : trimmed (doubled text) = doubled (trimmed text) := by
  obtain ⟨before, after, blankBefore, blankAfter, same⟩ := exists_inBlanks text
  rw [same, doubled_append, doubled_append, doubled_of_blank blankBefore,
    doubled_of_blank blankAfter, trimmed_inBlanks blankBefore blankAfter,
    (unpadded_doubled (unpadded_trimmed text)).trimmed_eq,
    trimmed_inBlanks blankBefore blankAfter, (unpadded_trimmed text).trimmed_eq]

end Doubled

section Kinds

/-- Without escapes, a text is one literal unless it has the end of a line in it. -/
theorem isText_textLiteral {content : List Char} (noEscape : '\\' ∉ content) :
    isText (textLiteral content) = true ↔ ∀ c ∈ content, c ∉ lineEnds := by
  rw [Literal.isText_iff (toList_textLiteral content),
    Literal.exists_readPlain?_escaped_iff noEscape]

/-- Without escapes, a character literal needs one character, of one code unit and no line end. For
no character it has a blank. -/
theorem isCharacter_characterLiteral {content : List Char} (noEscape : '\\' ∉ content) :
    isCharacter (characterLiteral content) = true ↔
      content = [] ∨ ∃ c, content = [c] ∧ c ∉ lineEnds ∧ c.toNat < 0x10000 := by
  cases content with
  | nil => exact iff_of_true (by decide) (.inl rfl)
  | cons first others =>
      rw [Literal.isCharacter_escaped_iff noEscape (by simp [characterLiteral, Text.replaceChar])]
      simp

/-- Only the empty text stays empty when quotes are doubled. -/
theorem doubled_eq_nil_iff {text : List Char} : doubled text = [] ↔ text = [] := by
  rw [List.eq_nil_iff_forall_not_mem, List.eq_nil_iff_forall_not_mem]
  simp only [mem_doubled]

/-- Only another character than the quote stays a single one. -/
theorem doubled_eq_singleton_iff {text : List Char} {c : Char} :
    doubled text = [c] ↔ text = [c] ∧ c ≠ '\'' := by
  constructor
  · intro same
    cases text with
    | nil => cases same
    | cons first rest =>
        by_cases quote : first = '\''
        · subst quote
          cases same
        · rw [doubled_cons quote] at same
          obtain ⟨rfl, nothing⟩ := List.cons.inj same
          exact ⟨by rw [doubled_eq_nil_iff.mp nothing], quote⟩
  · rintro ⟨rfl, noQuote⟩
    rw [doubled_cons noQuote]
    rfl

end Kinds

section Documents

/-- Between quotes everything but parentheses and session numbers stays, the quotes above all. -/
theorem toList_plainForm_quoted (marked : Bool) (content : List Char) :
    ∃ first rest, (plainForm (quoted marked content)).toList = first :: rest ∧ first ≠ '"' := by
  have kept : withoutParentheses (quoted marked content) =
      quoted marked (withoutParentheses content) := by
    cases marked <;> simp [withoutParentheses, quoted, inQuotes]
  obtain ⟨first, rest, same, noPattern, noQuote⟩ : ∃ first rest,
      quoted marked (withoutParentheses content) = first :: rest ∧ first ≠ '@' ∧ first ≠ '"' := by
    cases marked
    · exact ⟨'\'', _, rfl, by decide, by decide⟩
    · exact ⟨'N', _, rfl, by decide, by decide⟩
  rw [toList_plainForm, kept, (unpadded_quoted marked _).trimmed_eq, same, Text.replacePattern,
    if_neg fun pattern => noPattern pattern.1]
  exact ⟨first, _, rfl, noQuote⟩

/-- The default of a document keeps the quotes of the database. -/
theorem normalize_document {raw dbType : String} {nullable : Bool} {length : Int}
    (document : lower dbType = "xml") {marked : Bool} {content : List Char}
    (stripped : stripParentheses raw.toList = quoted marked content) :
    normalize (some raw) dbType nullable length = some (plainForm (quoted marked content)) := by
  obtain ⟨first, rest, written, -⟩ := toList_plainForm_quoted marked content
  have formed : form (quoted marked content) (lower dbType) nullable length =
      plainForm (quoted marked content) := by
    rw [document]
    rfl
  have visible : quoted marked content ≠ [] := by cases marked <;> simp [quoted, inQuotes]
  rw [← formed]
  refine normalize_eq_form stripped visible (not_null_quoted marked content) ?_
  rw [formed, ← Bool.not_eq_true, String.isEmpty_iff, ← String.toList_inj, written]
  exact List.cons_ne_nil _ _

end Documents

end DefaultExpression

namespace EntityClass

open DefaultExpression
open Literal (isText isCharacter lineEnds)

/-- How the default of a column fits the type of its member, for a default that is one literal of a
text. White space around the text does not count, except in a document. -/
structure FitsMember (column : Column) (memberType : String) (marked : Bool) (text : List Char) :
    Prop where
  /-- A text member gets a literal between double quotes. -/
  string : memberType = "string" → lower column.dbType ≠ "xml" →
    column.defaultValue = some (textLiteral (doubled (trimmed text))) ∧
      ('\\' ∉ trimmed text →
        (isText (textLiteral (doubled (trimmed text))) = true ↔ ∀ c ∈ trimmed text, c ∉ lineEnds))
  /-- A character member gets a literal between single quotes. It holds one character if the text
  does, and a blank if the text is empty. -/
  character : memberType = "char" → lower column.dbType ≠ "xml" →
    column.defaultValue = some (characterLiteral (doubled (trimmed text))) ∧
      ('\\' ∉ trimmed text →
        (isCharacter (characterLiteral (doubled (trimmed text))) = true ↔
          trimmed text = [] ∨
            ∃ c, trimmed text = [c] ∧ c ≠ '\'' ∧ c ∉ lineEnds ∧ c.toNat < 0x10000))
  /-- The default of a document stays in the quotes of the database, so it is no literal of a
  text. -/
  document : lower column.dbType = "xml" →
    column.defaultValue = some (plainForm (quoted marked (doubled text))) ∧
      isText (plainForm (quoted marked (doubled text))) = false

/-- The default of a column that is one literal of a text fits the type of its member, whatever
settings, table and nullability. A document alone keeps the quotes of the database. -/
theorem defaults_fit {settings : Settings} {table : Table} {info : ColumnInfo} {key : Bool}
    {found : EntityProperty} {raw : String} {marked : Bool} {text : List Char}
    (declared : property settings .sqlServer table { Column.ofInfo info with key := key } =
      .ok found)
    (given : info.defaultText = some raw)
    (literal : Enclosed (quoted marked (doubled text)) raw.toList) :
    FitsMember { Column.ofInfo info with key := key } found.memberType marked text := by
  have resolved := type_of_property declared
  have default : { Column.ofInfo info with key := key }.defaultValue =
      normalize (some raw) { Column.ofInfo info with key := key }.dbType
        { Column.ofInfo info with key := key }.nullable
        { Column.ofInfo info with key := key }.length := by
    rw [← given]
    rfl
  have stripped := stripParentheses_of_literal literal
  generalize { Column.ofInfo info with key := key } = column at resolved default
  have typed (holds : found.memberType = "string" ∨ found.memberType = "char") :=
    TypeMap.resolve_string resolved holds
  -- The literal is of a character under the condition under which the member is one.
  have written (holds : found.memberType = "string" ∨ found.memberType = "char")
      (other : lower column.dbType ≠ "xml") :
      column.defaultValue = some (if !column.nullable && column.length == 1 then
        characterLiteral (doubled (trimmed text)) else textLiteral (doubled (trimmed text))) := by
    rw [default, normalize_quoted ((typed holds).1.resolve_right other) stripped, trimmed_doubled]
  have noEscape (free : '\\' ∉ trimmed text) : '\\' ∉ doubled (trimmed text) :=
    fun member => free (mem_doubled.mp member)
  constructor
  · intro holds other
    have several : ¬(!column.nullable && column.length == 1) = true := by
      intro single
      have character := (typed (.inl holds)).2
      rw [holds, if_pos single] at character
      exact absurd character (by decide)
    refine ⟨by rw [written (.inl holds) other, if_neg several], fun free => ?_⟩
    rw [isText_textLiteral (noEscape free)]
    simp only [mem_doubled]
  · intro holds other
    have single : (!column.nullable && column.length == 1) = true := by
      by_contra several
      have string := (typed (.inr holds)).2
      rw [holds, if_neg several] at string
      exact absurd string (by decide)
    refine ⟨by rw [written (.inr holds) other, if_pos single], fun free => ?_⟩
    rw [isCharacter_characterLiteral (noEscape free), doubled_eq_nil_iff]
    simp only [doubled_eq_singleton_iff, and_assoc]
  · intro document
    obtain ⟨first, rest, plain, noQuote⟩ := toList_plainForm_quoted marked (doubled text)
    exact ⟨default.trans (normalize_document document stripped),
      Literal.isText_eq_false plain noQuote⟩

/-- A column for one letter that cannot be null. -/
theorem defaults_fit_single :
    let info : ColumnInfo :=
      { name := "sex", dbType := "NChar", length := 1, defaultText := some "((N'f '))" }
    ∃ found, property {} .sqlServer ⟨"t", .table, []⟩ { Column.ofInfo info with key := true } =
        .ok found ∧ found.memberType = "char" ∧
      (Column.ofInfo info).defaultValue = some "'f'" ∧ isCharacter "'f'" = true := by
  intro info
  have resolved : TypeMap.sqlServer.resolve (lower "NChar") false 1 = .ok "char" :=
    TypeMap.resolve_of_string 1 (by decide +kernel)
  obtain ⟨found, declared, holds⟩ : ∃ found, property {} .sqlServer ⟨"t", .table, []⟩
      { Column.ofInfo info with key := true } = .ok found ∧ found.memberType = "char" := by
    unfold property
    dsimp only [Column.ofInfo, info]
    rw [resolved]
    exact ⟨_, rfl, rfl⟩
  have literal : Enclosed (quoted true (doubled "f ".toList)) "((N'f '))".toList :=
    .inParentheses (.inParentheses .core)
  have noDocument : lower (lower "NChar") ≠ "xml" := by decide +kernel
  obtain ⟨written, fits⟩ := (defaults_fit declared rfl literal).character holds noDocument
  have text : trimmed "f ".toList = ['f'] := by decide
  rw [text] at written fits
  exact ⟨found, declared, holds, written, (fits (by decide)).mpr (.inr ⟨'f', rfl, by decide⟩)⟩

/-- The default of a document keeps its single quotes. In a text the last backslash escapes the
quote that ends the literal, a backslash that is the character does the same, and a single quote
stays the two characters that stand for it. -/
theorem defaults_misfit :
    TypeMap.sqlServer.resolve "xml" true (-1) = .ok "string" ∧
      normalize (some "('<a/>')") "xml" true (-1) = some "'<a/>'" ∧ isText "'<a/>'" = false ∧
    TypeMap.sqlServer.resolve "varchar" true 10 = .ok "string" ∧
      normalize (some "('a\\')") "varchar" true 10 = some "\"a\\\"" ∧
      isText "\"a\\\"" = false ∧
    TypeMap.sqlServer.resolve "char" false 1 = .ok "char" ∧
      normalize (some "('\\')") "char" false 1 = some "'\\'" ∧ isCharacter "'\\'" = false ∧
      normalize (some "('''')") "char" false 1 = some "'\\'\\''" ∧
      isCharacter "'\\'\\''" = false := by
  have written (text : List Char) {raw dbType : String} {nullable : Bool} {length : Int}
      {form : String} (character : characterTypes.contains (lower dbType) = true)
      (literal : Enclosed (quoted false (doubled text)) raw.toList)
      (same : (if !nullable && length == 1 then characterLiteral (trimmed (doubled text))
        else textLiteral (trimmed (doubled text))) = form) :
      normalize (some raw) dbType nullable length = some form := by
    rw [normalize_quoted character (stripParentheses_of_literal literal), same]
  have kept : Enclosed (quoted false (doubled "<a/>".toList)) "('<a/>')".toList :=
    .inParentheses .core
  have document : normalize (some "('<a/>')") "xml" true (-1) = some "'<a/>'" :=
    (normalize_eq_form (stripParentheses_of_literal kept) (by decide) (by decide)
      (by decide +kernel)).trans (congrArg some (by decide +kernel))
  have text : normalize (some "('a\\')") "varchar" true 10 = some "\"a\\\"" :=
    written "a\\".toList (by decide) (.inParentheses .core) (by decide +kernel)
  have escape : normalize (some "('\\')") "char" false 1 = some "'\\'" :=
    written "\\".toList (by decide) (.inParentheses .core) (by decide +kernel)
  have quote : normalize (some "('''')") "char" false 1 = some "'\\'\\''" :=
    written "'".toList (by decide) (.inParentheses .core) (by decide +kernel)
  exact ⟨TypeMap.resolve_of_string (-1) (by decide +kernel), document, by decide,
    TypeMap.resolve_of_string 10 (by decide +kernel), text, by decide,
    TypeMap.resolve_of_string 1 (by decide +kernel), escape, by decide, quote, by decide⟩

end EntityClass

end DataLayer
