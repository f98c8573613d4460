import DataLayer.Sql

/-!
# A reader of statements

The reader knows nothing of how statements are written. It cuts a text into bracketed names,
parameters, words and symbols, where two closing brackets inside a name stand for one, and then
reads the shapes of the three statements.
-/

namespace DataLayer.Sql

/-- A token of a statement. A parameter keeps its leading `@`. -/
inductive Token where
  | name (text : String)
  | parameter (text : String)
  | word (text : String)
  | symbol (c : Char)
deriving DecidableEq, Repr

/-- Where the reader stands, with the characters of the unfinished token, the last one first. -/
inductive Mode where
  | between
  | inName (read : List Char)
  /-- Behind a closing bracket, which ends the name unless another one follows. -/
  | afterBracket (read : List Char)
  | inWord (read : List Char)
  | inParameter (read : List Char)
deriving DecidableEq, Repr

namespace Mode

/-- What a character does where no token is unfinished. -/
def begin? (c : Char) : Option (Mode × List Token) :=
  if c = ' ' then some (between, [])
  else if c = '[' then some (inName [], [])
  else if c = '@' then some (inParameter [], [])
  else if Text.isAsciiWord c then some (inWord [c], [])
  else if c ∈ ['(', ')', ',', '='] then some (between, [.symbol c])
  else none

/-- The mode in which a character goes on with the unfinished token. -/
def continue? : Mode → Char → Option Mode
  | between, _ => none
  | inName read, c => some (if c = ']' then afterBracket read else inName (c :: read))
  | afterBracket read, c => if c = ']' then some (inName (c :: read)) else none
  | inWord read, c => if Text.isAsciiWord c then some (inWord (c :: read)) else none
  | inParameter read, c => if Text.isAsciiWord c then some (inParameter (c :: read)) else none

/-- The unfinished token, if it may end here. A name may not. -/
def end? : Mode → Option (List Token)
  | between => some []
  | inName _ => none
  | afterBracket read => some [.name (String.ofList read.reverse)]
  | inWord read => some [.word (String.ofList read.reverse)]
  | inParameter read => some [.parameter ("@" ++ String.ofList read.reverse)]

/-- The tokens of a text that is read on from a mode. -/
def tokens? : Mode → List Char → Option (List Token)
  | mode, [] => mode.end?
  | mode, c :: rest =>
    match mode.continue? c with
    | some next => next.tokens? rest
    | none =>
      mode.end?.bind fun ended =>
        (begin? c).bind fun (next, begun) =>
          (next.tokens? rest).map fun others => ended ++ (begun ++ others)

end Mode

/-- The tokens of a text. -/
def tokens? (text : String) : Option (List Token) := Mode.between.tokens? text.toList

/-- Whether the first character, if there is one, can only begin something new. -/
def beginsApart : List Char → Bool
  | [] => true
  | c :: _ => c != ']' && !Text.isAsciiWord c

/-- A text whose beginning cannot go on with an unfinished token. -/
def Apart (text : String) : Prop := beginsApart text.toList = true

instance (text : String) : Decidable (Apart text) :=
  inferInstanceAs (Decidable (beginsApart text.toList = true))

/-- Reads items separated by commas up to a closing parenthesis. -/
def readList (item : Token → Option String) : List Token → Option (List String × List Token)
  | first :: .symbol ',' :: rest =>
    (item first).bind fun value =>
      (readList item rest).map fun (values, rest) => (value :: values, rest)
  | first :: .symbol ')' :: rest => (item first).map fun value => ([value], rest)
  | _ => none

/-- Reads assignments for as long as the separator follows. -/
def readAssignments (separator : Token) :
    List Token → Option (List Assignment × List Token)
  | .name column :: .symbol '=' :: .parameter parameter :: next :: rest =>
    if next = separator then
      (readAssignments separator rest).map fun (others, rest) =>
        (⟨column, parameter⟩ :: others, rest)
    else
      some ([⟨column, parameter⟩], next :: rest)
  | [.name column, .symbol '=', .parameter parameter] => some ([⟨column, parameter⟩], [])
  | _ => none

/-- The name that a token is. -/
def Token.name? : Token → Option String
  | name text => some text
  | _ => none

/-- The parameter that a token is. -/
def Token.parameter? : Token → Option String
  | parameter text => some text
  | _ => none

/-- Reads the columns and the parameters of an insert and pairs them by position. -/
def readValues (tokens : List Token) : Option (List Assignment) :=
  match readList Token.name? tokens with
  | some (columns, .word "values" :: .symbol '(' :: rest) =>
    match readList Token.parameter? rest with
    | some (parameters, []) =>
      if columns.length = parameters.length then
        some (columns.zipWith Assignment.mk parameters)
      else
        none
    | _ => none
  | _ => none

/-- Reads the conditions that end a statement. -/
def readConditions (tokens : List Token) : Option (List Assignment) :=
  match readAssignments (.word "and") tokens with
  | some (conditions, []) => some conditions
  | _ => none

/-- The statement that a row of tokens spells. -/
def Statement.ofTokens : List Token → Option Statement
  | [.word "insert", .word "into", .name table, .word "default", .word "values"] =>
    some (.insert table [])
  | .word "insert" :: .word "into" :: .name table :: .symbol '(' :: rest =>
    (readValues rest).map (.insert table)
  | .word "update" :: .name table :: .word "set" :: rest =>
    match readAssignments (.symbol ',') rest with
    | some (changes, .word "where" :: rest) => (readConditions rest).map (.update table changes)
    | _ => none
  | .word "delete" :: .word "from" :: .name table :: .word "where" :: rest =>
    (readConditions rest).map (.delete table)
  | _ => none

/-- Reads a statement. -/
def Statement.read (sql : String) : Option Statement := (tokens? sql).bind Statement.ofTokens

/-! ### Laws of the tokens -/

namespace Mode

private theorem tokens?_nil (mode : Mode) : mode.tokens? [] = mode.end? := rfl

private theorem tokens?_continued {mode next : Mode} {c : Char}
    (continued : mode.continue? c = some next) (rest : List Char) :
    mode.tokens? (c :: rest) = next.tokens? rest := by
  rw [tokens?, continued]

private theorem tokens?_ended {mode : Mode} {c : Char} {ended : List Token}
    (stopped : mode.continue? c = none) (hasEnded : mode.end? = some ended) (rest : List Char) :
    mode.tokens? (c :: rest) = (between.tokens? (c :: rest)).map (ended ++ ·) := by
  simp only [tokens?, stopped, hasEnded]
  cases begin? c with
  | none => rfl
  | some begun => simp [continue?, end?, Function.comp_def]

/-- A token that may end is not continued by a character that stands apart. -/
private theorem continue?_of_end? {mode : Mode} {read : List Token} (ended : mode.end? = some read)
    {c : Char} {rest : List Char} (apart : beginsApart (c :: rest) = true) :
    mode.continue? c = none := by
  obtain ⟨noBracket, noWord⟩ : c ≠ ']' ∧ Text.isAsciiWord c = false := by
    simpa [beginsApart] using apart
  cases mode with
  | between => rfl
  | inName _ => cases ended
  | afterBracket _ => simp [continue?, noBracket]
  | inWord _ => simp [continue?, noWord]
  | inParameter _ => simp [continue?, noWord]

private theorem tokens?_append {mode : Mode} {first second : List Char} {read : List Token}
    (spelled : mode.tokens? first = some read)
    (apart : beginsApart second = true) :
    mode.tokens? (first ++ second) = (between.tokens? second).map (read ++ ·) := by
  induction first generalizing mode read with
  | nil =>
      -- Whatever is unfinished may end here, and the second text does not go on with it.
      rw [tokens?_nil] at spelled
      cases second with
      | nil => simp [tokens?_nil, spelled, end?.eq_1]
      | cons c rest => exact tokens?_ended (continue?_of_end? spelled apart) spelled rest
  | cons c first ih =>
      cases continued : mode.continue? c with
      | some next =>
          rw [tokens?_continued continued] at spelled
          rw [List.cons_append, tokens?_continued continued]
          exact ih spelled
      | none =>
          simp only [tokens?, continued] at spelled
          obtain ⟨ended, hasEnded, spelled⟩ := Option.bind_eq_some_iff.mp spelled
          obtain ⟨⟨next, begun⟩, hasBegun, spelled⟩ := Option.bind_eq_some_iff.mp spelled
          obtain ⟨others, otherwise, rfl⟩ := Option.map_eq_some_iff.mp spelled
          simp only [List.cons_append, tokens?, continued, hasEnded, hasBegun, Option.bind_some,
            ih otherwise]
          simp [Function.comp_def]

/-- A name is read up to its end, whatever characters it holds. -/
private theorem tokens?_inName (name read : List Char) :
    (inName read).tokens?
        ((name.flatMap fun c => if c = ']' then [']', ']'] else [c]) ++ [']']) =
      some [.name (String.ofList (read.reverse ++ name))] := by
  induction name generalizing read with
  | nil => simp [tokens?, continue?, end?]
  | cons c name ih =>
      rw [List.flatMap_cons, List.append_assoc]
      by_cases closing : c = ']'
      · subst closing
        have doubled : (inName read).continue? ']' = some (afterBracket read) := rfl
        have single : (afterBracket read).continue? ']' = some (inName (']' :: read)) := rfl
        rw [if_pos rfl, List.cons_append, List.cons_append, List.nil_append,
          tokens?_continued doubled, tokens?_continued single, ih]
        simp
      · have plain : (inName read).continue? c = some (inName (c :: read)) := by
          simp [continue?, closing]
        rw [if_neg closing, List.singleton_append, tokens?_continued plain, ih]
        simp

private theorem tokens?_inParameter (name read : List Char)
    (words : ∀ c ∈ name, Text.isAsciiWord c = true) :
    (inParameter read).tokens? name =
      some [.parameter ("@" ++ String.ofList (read.reverse ++ name))] := by
  induction name generalizing read with
  | nil => simp [tokens?_nil, end?]
  | cons c name ih =>
      obtain ⟨word, others⟩ := List.forall_mem_cons.mp words
      have longer : (inParameter read).continue? c = some (inParameter (c :: read)) := by
        simp [continue?, word]
      rw [tokens?_continued longer, ih (c :: read) others]
      simp

end Mode

/-- What is read of a text is not changed by a text that follows apart. -/
theorem tokens?_append {first second : String} {before after : List Token}
    (spelled : tokens? first = some before) (followed : tokens? second = some after)
    (apart : Apart second) : tokens? (first ++ second) = some (before ++ after) := by
  have read := Mode.tokens?_append spelled apart
  rw [tokens?, String.toList_append, read, ← tokens?, followed]
  rfl

private theorem Apart.of_cons {text : String} {c : Char} {rest : List Char}
    (spelled : text.toList = c :: rest) (apart : beginsApart [c] = true) : Apart text := by
  rw [Apart, spelled]
  exact apart

/-- Texts that go on with no token before them do not when joined. -/
theorem Apart.append {first second : String} (apart : Apart first) (followed : Apart second) :
    Apart (first ++ second) := by
  unfold Apart at *
  rw [String.toList_append]
  cases characters : first.toList with
  | nil => exact followed
  | cons c rest => rwa [characters] at apart

private theorem toList_bracketed (name : String) :
    (bracketed name).toList =
      '[' :: ((name.toList.flatMap fun c => if c = ']' then [']', ']'] else [c]) ++ [']']) := by
  simp only [bracketed, Text.replaceChar, String.toList_append, String.toList_ofList]
  rfl

/-- No name can end its brackets early. -/
theorem tokens?_bracketed (name : String) : tokens? (bracketed name) = some [.name name] := by
  rw [tokens?, toList_bracketed]
  have opened : Mode.begin? '[' = some (.inName [], []) := rfl
  simp [Mode.tokens?, Mode.continue?, Mode.end?, opened, Mode.tokens?_inName]

/-- A name in brackets goes on with no token before it. -/
theorem apart_bracketed (name : String) : Apart (bracketed name) :=
  Apart.of_cons (toList_bracketed name) (by decide)

/-- An `@` with letters, digits and underscores is one parameter. -/
theorem tokens?_parameter {name : String} (words : ∀ c ∈ name.toList, Text.isAsciiWord c = true) :
    tokens? ("@" ++ name) = some [.parameter ("@" ++ name)] := by
  rw [tokens?, String.toList_append]
  have opened : Mode.begin? '@' = some (.inParameter [], []) := rfl
  simp [Mode.tokens?, Mode.continue?, Mode.end?, opened, Mode.tokens?_inParameter _ _ words]

/-- A name with the parameter mark goes on with no token before it. -/
theorem apart_parameter (name : String) : Apart ("@" ++ name) :=
  Apart.of_cons (String.toList_append ..) (by decide)

/-- Joined texts that stand apart are read one by one, with the separator between neighbours. -/
theorem tokens?_joinWith {α : Type} {separator : String} {between : List Token}
    (separates : tokens? separator = some between) (apart : Apart separator)
    {text : α → String} {spelling : α → List Token} (items : List α)
    (spelled : ∀ item ∈ items, tokens? (text item) = some (spelling item))
    (begins : ∀ item ∈ items, Apart (text item)) :
    tokens? (Text.joinWith separator (items.map text)) =
        some (between.intercalate (items.map spelling)) ∧
      Apart (Text.joinWith separator (items.map text)) := by
  induction items with
  | nil => exact ⟨rfl, (by decide : Apart "")⟩
  | cons item items ih =>
      obtain ⟨first, others⟩ := List.forall_mem_cons.mp spelled
      obtain ⟨firstBegins, othersBegin⟩ := List.forall_mem_cons.mp begins
      cases items with
      | nil => exact ⟨by simpa [Text.joinWith] using first, firstBegins⟩
      | cons next items =>
          obtain ⟨rest, restBegins⟩ := ih others othersBegin
          simp only [List.map_cons, Text.joinWith, List.intercalate_cons_cons] at rest restBegins ⊢
          exact ⟨tokens?_append (tokens?_append first separates apart) rest restBegins,
            (firstBegins.append apart).append restBegins⟩

end DataLayer.Sql
