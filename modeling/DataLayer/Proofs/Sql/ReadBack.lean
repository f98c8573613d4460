import DataLayer.Proofs.Sql.Reader
import DataLayer.Proofs.Sql.Statements

/-!
# Statements read back

A statement that can be written at all is spelled by its tokens, and its tokens are read as the
same statement. So the text determines the statement, whatever characters its names hold.
-/

namespace DataLayer.Sql

/-- The tokens of one assignment. -/
def Assignment.tokens (assignment : Assignment) : List Token :=
  [.name assignment.column, .symbol '=', .parameter assignment.parameter]

/-- The tokens of assignments with a separator between neighbours. -/
def assignmentTokens (separator : Token) (assignments : List Assignment) : List Token :=
  [separator].intercalate (assignments.map Assignment.tokens)

/-- The tokens that spell a statement. -/
def Statement.tokens : Statement → List Token
  | insert table [] =>
    [.word "insert", .word "into", .name table, .word "default", .word "values"]
  | insert table values =>
    [.word "insert", .word "into", .name table, .symbol '('] ++
      [.symbol ','].intercalate (values.map fun value => [.name value.column]) ++
      [.symbol ')', .word "values", .symbol '('] ++
      [.symbol ','].intercalate (values.map fun value => [.parameter value.parameter]) ++
      [.symbol ')']
  | update table changes conditions =>
    [.word "update", .name table, .word "set"] ++ assignmentTokens (.symbol ',') changes ++
      [.word "where"] ++ assignmentTokens (.word "and") conditions
  | delete table conditions =>
    [.word "delete", .word "from", .name table, .word "where"] ++
      assignmentTokens (.word "and") conditions

/-- Assignments whose parameters can be written. -/
def Assignment.IsWritable (assignment : Assignment) : Prop :=
  ∃ name : String, assignment.parameter = "@" ++ name ∧
    ∀ c ∈ name.toList, Text.isAsciiWord c = true

/-- Statements that can be written: every parameter can, and no list is empty that has to be
written. -/
def Statement.IsWritable : Statement → Prop
  | insert _ values => ∀ value ∈ values, value.IsWritable
  | update _ changes conditions =>
    changes ≠ [] ∧ conditions ≠ [] ∧ (∀ change ∈ changes, change.IsWritable) ∧
      ∀ condition ∈ conditions, condition.IsWritable
  | delete _ conditions => conditions ≠ [] ∧ ∀ condition ∈ conditions, condition.IsWritable

namespace Assignment

/-- A writable parameter is one token and goes on with none before it. -/
theorem IsWritable.tokens?_parameter {assignment : Assignment} (writable : assignment.IsWritable) :
    tokens? assignment.parameter = some [.parameter assignment.parameter] ∧
      Apart assignment.parameter := by
  obtain ⟨name, parameter, words⟩ := writable
  rw [parameter]
  exact ⟨Sql.tokens?_parameter words, apart_parameter name⟩

/-- A writable assignment is read as its tokens. -/
theorem IsWritable.tokens?_text {assignment : Assignment} (writable : assignment.IsWritable) :
    tokens? assignment.text = some assignment.tokens := by
  obtain ⟨parameter, apart⟩ := writable.tokens?_parameter
  have equals : tokens? " = " = some [.symbol '='] := rfl
  exact tokens?_append (tokens?_append (tokens?_bracketed _) equals (by decide)) parameter apart

/-- A writable assignment goes on with no token before it. -/
theorem apart_text (assignment : Assignment) (writable : assignment.IsWritable) :
    Apart assignment.text :=
  ((apart_bracketed _).append (by decide)).append writable.tokens?_parameter.2

end Assignment

/-- Written assignments with a separator between neighbours. -/
private theorem tokens?_assignments {separator : String} {between : Token}
    (separates : tokens? separator = some [between]) (apart : Apart separator)
    {assignments : List Assignment} (writable : ∀ each ∈ assignments, each.IsWritable) :
    tokens? (Text.joinWith separator (assignments.map Assignment.text)) =
        some (assignmentTokens between assignments) ∧
      Apart (Text.joinWith separator (assignments.map Assignment.text)) :=
  tokens?_joinWith separates apart assignments
    (fun each member => (writable each member).tokens?_text)
    fun each member => each.apart_text (writable each member)

/-- A writable statement is spelled by its tokens. -/
theorem Statement.tokens?_text {statement : Statement} (writable : statement.IsWritable) :
    tokens? statement.text = some statement.tokens := by
  have comma : tokens? ", " = some [.symbol ','] := rfl
  have conjunction : tokens? " and " = some [.word "and"] := rfl
  cases statement with
  | insert table values =>
      have opening : tokens? "insert into " = some [.word "insert", .word "into"] := rfl
      -- The text is read from its beginning, and no part goes on with a token before it.
      have start := tokens?_append opening (tokens?_bracketed table) (apart_bracketed table)
      cases values with
      | nil =>
          have defaults : tokens? " default values" = some [.word "default", .word "values"] := rfl
          exact tokens?_append start defaults (by decide)
      | cons first others =>
          obtain ⟨columns, columnsApart⟩ := tokens?_joinWith comma (by decide) (first :: others)
            (fun value _ => tokens?_bracketed value.column)
            fun value _ => apart_bracketed value.column
          obtain ⟨parameters, parametersApart⟩ := tokens?_joinWith comma (by decide)
            (first :: others) (fun value member => (writable value member).tokens?_parameter.1)
            fun value member => (writable value member).tokens?_parameter.2
          have middle : tokens? ") values (" =
            some [.symbol ')', .word "values", .symbol '('] := rfl
          have opened := tokens?_append start (show tokens? " (" = some [.symbol '('] from rfl)
            (by decide)
          have listed := tokens?_append (tokens?_append opened columns columnsApart) middle
            (by decide)
          exact tokens?_append (tokens?_append listed parameters parametersApart)
            (show tokens? ")" = some [.symbol ')'] from rfl) (by decide)
  | update table changes conditions =>
      obtain ⟨-, -, changesWritable, conditionsWritable⟩ := writable
      obtain ⟨changed, changedApart⟩ := tokens?_assignments comma (by decide) changesWritable
      obtain ⟨singled, singledApart⟩ :=
        tokens?_assignments conjunction (by decide) conditionsWritable
      have opening : tokens? "update " = some [.word "update"] := rfl
      have start := tokens?_append opening (tokens?_bracketed table) (apart_bracketed table)
      have opened := tokens?_append start (show tokens? " set " = some [.word "set"] from rfl)
        (by decide)
      have listed := tokens?_append (tokens?_append opened changed changedApart)
        (show tokens? " where " = some [.word "where"] from rfl) (by decide)
      exact tokens?_append listed singled singledApart
  | delete table conditions =>
      obtain ⟨-, conditionsWritable⟩ := writable
      obtain ⟨singled, singledApart⟩ :=
        tokens?_assignments conjunction (by decide) conditionsWritable
      have opening : tokens? "delete from " = some [.word "delete", .word "from"] := rfl
      have start := tokens?_append opening (tokens?_bracketed table) (apart_bracketed table)
      have opened := tokens?_append start (show tokens? " where " = some [.word "where"] from rfl)
        (by decide)
      exact tokens?_append opened singled singledApart

/-- Spelled items up to a closing parenthesis are read as the list of the items. -/
theorem readList_spelled {α : Type} {item : Token → Option String} {spelling : α → Token}
    {label : α → String} (reads : ∀ value, item (spelling value) = some (label value))
    (first : α) (others : List α) (rest : List Token) :
    readList item ([.symbol ','].intercalate
        ((first :: others).map fun value => [spelling value]) ++ .symbol ')' :: rest) =
      some ((first :: others).map label, rest) := by
  induction others generalizing first with
  | nil => simp [readList, reads]
  | cons next others ih =>
      have split : [.symbol ','].intercalate
          ((first :: next :: others).map fun value => [spelling value]) =
          spelling first :: .symbol ',' ::
            [.symbol ','].intercalate ((next :: others).map fun value => [spelling value]) :=
        List.intercalate_cons_cons
      rw [split, List.cons_append, List.cons_append, readList, reads, ih next]
      rfl

/-- Spelled assignments are read as long as the separator follows. -/
theorem readAssignments_spelled {separator : Token} (first : Assignment)
    (others : List Assignment) {rest : List Token} (ends : rest.head? ≠ some separator) :
    readAssignments separator (assignmentTokens separator (first :: others) ++ rest) =
      some (first :: others, rest) := by
  induction others generalizing first with
  | nil =>
      cases rest with
      | nil => rfl
      | cons next rest =>
          have other : next ≠ separator := by simpa using ends
          simp [assignmentTokens, Assignment.tokens, readAssignments, other]
  | cons next others ih =>
      have split : assignmentTokens separator (first :: next :: others) =
          .name first.column :: .symbol '=' :: .parameter first.parameter :: separator ::
            assignmentTokens separator (next :: others) :=
        List.intercalate_cons_cons
      rw [split]
      simp only [List.cons_append, readAssignments, if_true, ih next]
      rfl

/-- Assignments joined by `and` are read back as the conditions. -/
theorem readConditions_spelled (first : Assignment) (others : List Assignment) :
    readConditions (assignmentTokens (.word "and") (first :: others)) =
      some (first :: others) := by
  have read : readAssignments (.word "and")
      (assignmentTokens (.word "and") (first :: others) ++ []) = some (first :: others, []) :=
    readAssignments_spelled first others (by simp)
  rw [List.append_nil] at read
  rw [readConditions, read]

/-- The tokens of a writable statement are read as the statement. -/
theorem Statement.ofTokens_tokens {statement : Statement} (writable : statement.IsWritable) :
    ofTokens statement.tokens = some statement := by
  cases statement with
  | insert table values =>
      cases values with
      | nil => rfl
      | cons first others =>
          have columns : ∀ rest, readList Token.name? ([.symbol ','].intercalate
              ((first :: others).map fun value => [.name value.column]) ++ .symbol ')' :: rest) =
              some ((first :: others).map Assignment.column, rest) :=
            readList_spelled (fun _ => rfl) first others
          have parameters : readList Token.parameter? ([.symbol ','].intercalate
              ((first :: others).map fun value => [.parameter value.parameter]) ++
              [.symbol ')']) =
              some ((first :: others).map Assignment.parameter, []) :=
            readList_spelled (fun _ => rfl) first others []
          -- The two lists are of the same values, so that pairing them gives these back.
          have paired : ((first :: others).map Assignment.column).zipWith Assignment.mk
              ((first :: others).map Assignment.parameter) = first :: others := by
            rw [List.zipWith_map, List.zipWith_self, List.map_id']
          simp only [tokens, List.append_assoc, List.cons_append, List.nil_append, ofTokens,
            readValues, columns, parameters, List.length_map, if_true, paired]
          rfl
  | update table changes conditions =>
      obtain ⟨changed, singled, -, -⟩ := writable
      obtain ⟨firstChange, changes, rfl⟩ := List.exists_cons_of_ne_nil changed
      obtain ⟨firstCondition, conditions, rfl⟩ := List.exists_cons_of_ne_nil singled
      have set (rest : List Token) : readAssignments (.symbol ',')
          (assignmentTokens (.symbol ',') (firstChange :: changes) ++ .word "where" :: rest) =
          some (firstChange :: changes, .word "where" :: rest) :=
        readAssignments_spelled firstChange changes (by simp)
      simp only [tokens, List.append_assoc, List.cons_append, List.nil_append, ofTokens, set,
        readConditions_spelled]
      rfl
  | delete table conditions =>
      obtain ⟨singled, -⟩ := writable
      obtain ⟨firstCondition, conditions, rfl⟩ := List.exists_cons_of_ne_nil singled
      simp [tokens, ofTokens, readConditions_spelled]

/-- A writable statement is read back from its text. -/
theorem Statement.read_text {statement : Statement} (writable : statement.IsWritable) :
    read statement.text = some statement := by
  rw [read, tokens?_text writable, Option.bind_some, ofTokens_tokens writable]

section Tables

variable {table : Table}

/-- The assignments of a table's columns are writable. -/
theorem isWritable_assign {columns : List Column} (part : columns ⊆ table.columns) :
    ∀ assignment ∈ assign (parameterNames table) columns, assignment.IsWritable := by
  intro assignment member
  obtain ⟨column, among, rfl⟩ := List.mem_map.mp member
  obtain ⟨name, found, words⟩ := lookup_parameterNames (part among)
  exact ⟨name, by rw [parameterOf, found], words⟩

/-- The insert statement of a table is writable. -/
theorem insertStatement_isWritable (table : Table) : (insertStatement table).IsWritable :=
  isWritable_assign (writableColumns_subset table)

/-- The update statement of a table, where there is one, is writable. -/
theorem updateStatement_isWritable {statement : Statement}
    (built : updateStatement table = .ok (some statement)) : statement.IsWritable := by
  obtain ⟨keyed, changing, rfl⟩ := updateStatement_eq_some_iff.mp built
  exact ⟨by simpa [assign] using changing, by simpa [assign] using keyed,
    isWritable_assign (plainColumns_subset table), isWritable_assign (keyColumns_subset table)⟩

/-- The delete statement of a table, where there is one, is writable. -/
theorem deleteStatement_isWritable {statement : Statement}
    (built : deleteStatement table = .ok statement) : statement.IsWritable := by
  obtain ⟨keyed, rfl⟩ := deleteStatement_eq_ok_iff.mp built
  exact ⟨by simpa [assign] using keyed, isWritable_assign (keyColumns_subset table)⟩

end Tables

end DataLayer.Sql
