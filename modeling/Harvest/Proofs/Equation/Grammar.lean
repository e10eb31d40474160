import Harvest.Proofs.Equation.Tokens

/-! The grammar of comparisons: two operands with a comparator between them, and white space around each. Exactly the
texts of this form are read, and each of them has this form in one way only. -/

namespace Harvest

open Equation

/-- How operands are written: the name of a reference, a number without quotes, or anything in quotes; a reference
stays one in quotes. -/
inductive Operand.Written : List Char → Operand → Prop
  | value : Written "value".toList .value
  | parentValue : Written "parentValue".toList .parentValue
  | number {word : List Char} (bare : ∀ c ∈ word, Text.isBlank c = false ∧ c ∉ ['"', '\'', '=', '!', '<', '>'])
      (reads : (Decimal.binary64? word).isSome = true) : Written word (.literal (String.ofList word))
  | quotedValue {quote : Char} {written : List Char} (mark : IsQuote quote)
      (content : Quoted quote written "value".toList) : Written (quote :: (written ++ [quote])) .value
  | quotedParentValue {quote : Char} {written : List Char} (mark : IsQuote quote)
      (content : Quoted quote written "parentValue".toList) : Written (quote :: (written ++ [quote])) .parentValue
  | quotedText {quote : Char} {written text : List Char} (mark : IsQuote quote) (content : Quoted quote written text)
      (noReference : text ≠ "value".toList ∧ text ≠ "parentValue".toList) :
      Written (quote :: (written ++ [quote])) (.literal (String.ofList text))

namespace Equation

/-- The parts of a written comparison in order. -/
@[ext]
structure Layout where
  before : List Char
  left : List Char
  afterLeft : List Char
  comparator : Comparator
  beforeRight : List Char
  right : List Char
  after : List Char

/-- The parts put together. -/
def Layout.text (layout : Layout) : List Char :=
  layout.before ++ (layout.left ++ (layout.afterLeft ++ (layout.comparator.symbol.toList ++
    (layout.beforeRight ++ (layout.right ++ layout.after)))))

/-- The parts are white space where they should be, and write the operands and the comparator of a comparison. -/
structure Layout.Writes (layout : Layout) (equation : Equation) : Prop where
  before : ∀ c ∈ layout.before, Text.isBlank c = true
  left : Operand.Written layout.left equation.left
  afterLeft : ∀ c ∈ layout.afterLeft, Text.isBlank c = true
  comparator : layout.comparator = equation.comparator
  beforeRight : ∀ c ∈ layout.beforeRight, Text.isBlank c = true
  right : Operand.Written layout.right equation.right
  after : ∀ c ∈ layout.after, Text.isBlank c = true

/-- A text in double quotes, with a backslash before every character that is to be escaped. -/
def quoted (escapes : Char → Bool) (text : List Char) : List Char :=
  '"' :: ((text.flatMap fun c => if escapes c then ['\\', c] else [c]) ++ ['"'])

/-- The characters of a number in the grammar are those of a bare word. -/
theorem isBare_iff {c : Char} :
    isBare c = true ↔ Text.isBlank c = false ∧ c ∉ ['"', '\'', '=', '!', '<', '>'] := by
  simp [isBare, and_assoc]

/-- A reference is found by its name. -/
theorem reference?_eq (name : List Char) : reference? name =
    if name = "value".toList then some .value
    else if name = "parentValue".toList then some .parentValue else none := by
  unfold reference?
  simp only [beq_iff_eq]

/-- What stands in quotes is a reference, if it is the name of one, and a text otherwise. -/
theorem operand_quoted {quote : Char} (mark : IsQuote quote) {written text : List Char}
    (content : Quoted quote written text) :
    operand (quote :: (written ++ [quote])) =
      .ok ((reference? text).getD (.literal (String.ofList text))) := by
  -- What stands inside is found by taking the two marks away.
  have last : (written ++ [quote]).getLast? = some quote := by simp
  have inside : (written ++ [quote]).dropLast = written := by simp
  have isMark : quote = '"' ∨ quote = '\'' := mark
  unfold operand
  simp only [if_pos isMark, last, inside, content.unescape, if_true]

/-- A token without quotes is a reference or a number. -/
theorem operand_word {word : List Char} (something : word ≠ []) (bare : ∀ c ∈ word, isBare c = true) :
    operand word = match reference? word with
      | some found => .ok found
      | none => if (Decimal.binary64? word).isSome then .ok (.literal (String.ofList word))
        else .error (.unknownOperand (String.ofList word)) := by
  -- The first character is bare, so that no quote opens the token.
  obtain ⟨c, rest, rfl⟩ := List.exists_cons_of_ne_nil something
  have first := bare c (by simp)
  have noQuote : ¬(c = '"' ∨ c = '\'') :=
    not_or.mpr ⟨ne_of_isBare first (by decide), ne_of_isBare first (by decide)⟩
  unfold operand
  exact if_neg noQuote

/-- A comparator is found by its symbol. -/
theorem ofSymbol?_eq_some_iff {token : List Char} {comparator : Comparator} :
    Comparator.ofSymbol? token = some comparator ↔ token = comparator.symbol.toList := by
  -- All comparators are tried, and no two have one symbol.
  constructor
  · intro found
    have same := List.find?_some found
    exact (eq_of_beq same).symm
  · rintro rfl
    cases comparator <;> decide

/-- Whatever follows a token, the text begins with something that can be seen. -/
theorem IsToken.visible {token : List Char} (shape : IsToken token) (rest : List Char) :
    ∀ c ∈ (token ++ rest).head?, Text.isBlank c = false := by
  obtain ⟨c, more, rfl, visible⟩ := shape.exists_cons
  simpa using visible

/-- A comparator is no operand: it is neither a name nor a number. -/
theorem operand_symbol (comparator : Comparator) :
    operand comparator.symbol.toList = .error (.unknownOperand comparator.symbol) := by
  cases comparator <;> rfl

/-- A quoted token is always closed. -/
theorem IsToken.operand_ne_unterminatedLiteral {token : List Char} (shape : IsToken token) (text : String) :
    operand token ≠ .error (.unterminatedLiteral text) := by
  -- By the shape of the token, none of which opens a quote without closing it.
  cases shape with
  | quoted mark content =>
    rw [operand_quoted mark content]
    nofun
  | symbol comparator =>
    rw [operand_symbol]
    nofun
  | word something bare =>
    rw [operand_word something bare]
    split
    · nofun
    · split <;> nofun

end Equation

namespace Operand.Written

variable {token : List Char} {operand : Operand}

/-- Every written operand is a token. -/
theorem isToken (written : Written token operand) : IsToken token := by
  cases written with
  | value => exact .word (by decide) (List.all_eq_true.mp (by decide))
  | parentValue => exact .word (by decide) (List.all_eq_true.mp (by decide))
  | number bare reads =>
    refine .word ?_ fun c member => isBare_iff.mpr (bare c member)
    -- Nothing at all is no number.
    rintro rfl
    exact absurd reads (by decide)
  | quotedValue mark content => exact .quoted mark content
  | quotedParentValue mark content => exact .quoted mark content
  | quotedText mark content noReference => exact .quoted mark content

/-- A written operand is read. -/
theorem read (written : Written token operand) : Equation.operand token = .ok operand := by
  cases written with
  | value => decide
  | parentValue => decide
  | number bare reads =>
    have something : token ≠ [] := by
      rintro rfl
      exact absurd reads (by decide)
    -- Neither of the two names is a number.
    have noReference : reference? token = none := by
      rw [reference?_eq, if_neg, if_neg]
      all_goals
        rintro rfl
        exact absurd reads (by decide)
    rw [operand_word something fun c member => isBare_iff.mpr (bare c member), noReference]
    exact if_pos reads
  | quotedValue mark content => rw [operand_quoted mark content, reference?_eq, if_pos rfl]; rfl
  | quotedParentValue mark content =>
    rw [operand_quoted mark content, reference?_eq, if_neg (by decide), if_pos rfl]
    rfl
  | quotedText mark content noReference =>
    rw [operand_quoted mark content, reference?_eq, if_neg noReference.1, if_neg noReference.2]
    rfl

/-- A token that is read was written as an operand. -/
theorem of_read (shape : IsToken token) (read : Equation.operand token = .ok operand) :
    Written token operand := by
  cases shape with
  | @quoted quote written text mark content =>
    rw [operand_quoted mark content, reference?_eq] at read
    split_ifs at read with isValue isParent
    · cases read
      exact .quotedValue mark (isValue ▸ content)
    · cases read
      exact .quotedParentValue mark (isParent ▸ content)
    · cases read
      exact .quotedText mark content ⟨isValue, isParent⟩
  | symbol comparator =>
    rw [operand_symbol] at read
    cases read
  | word something bare =>
    rw [operand_word something bare, reference?_eq] at read
    by_cases isValue : token = "value".toList
    · rw [if_pos isValue] at read
      cases read
      exact isValue ▸ .value
    rw [if_neg isValue] at read
    by_cases isParent : token = "parentValue".toList
    · rw [if_pos isParent] at read
      cases read
      exact isParent ▸ .parentValue
    rw [if_neg isParent] at read
    -- What is no name must be a number.
    by_cases reads : (Decimal.binary64? token).isSome = true
    · cases (if_pos reads).symm.trans read
      exact .number (fun c member => isBare_iff.mp (bare c member)) reads
    · cases (if_neg reads).symm.trans read

/-- A written operand goes on up to the first character behind it, unless that one is bare. -/
theorem tokenLength?_append (written : Written token operand) {rest : List Char}
    (ends : ∀ c ∈ rest.head?, isBare c = false) : tokenLength? (token ++ rest) = some token.length := by
  -- By the shape of the token. A symbol is no operand, and only a word can go on.
  cases shape : written.isToken with
  | quoted mark content => simpa using content.tokenLength?_append mark rest
  | symbol comparator =>
    exact absurd ((operand_symbol comparator).symm.trans written.read) (by simp)
  | word something bare => exact tokenLength?_word_append something bare ends

/-- No written operand begins with an equals sign. -/
theorem head?_ne_equals (written : Written token operand) (rest : List Char) : (token ++ rest).head? ≠ some '=' := by
  -- By the shape of the token: a quote, or a bare character, of which the sign is none.
  cases written.isToken with
  | @quoted quote _ _ mark content =>
    rcases mark with rfl | rfl <;> simp
  | symbol comparator =>
    exact absurd ((operand_symbol comparator).symm.trans written.read) (by simp)
  | word something bare =>
    obtain ⟨c, more, rfl⟩ := List.exists_cons_of_ne_nil something
    have other : c ≠ '=' := ne_of_isBare (bare c (by simp)) (by decide)
    simpa using other

end Operand.Written

namespace Equation.Layout

variable {layout layout' : Layout} {equation equation' : Equation}

/-- The tokens of a written comparison are its operands and its comparator. -/
theorem Writes.tokens (writes : layout.Writes equation) :
    Equation.tokens layout.text = .ok [layout.left, layout.comparator.symbol.toList, layout.right] := by
  obtain ⟨before, left, afterLeft, comparator, beforeRight, right, after⟩ := layout
  have notBare {c : Char} (white : Text.isBlank c = true) : isBare c = false := by simp [isBare, white]
  -- Behind the left operand there is white space or the comparator, neither of which goes on with it.
  have leftEnds : ∀ c ∈ (afterLeft ++ (comparator.symbol.toList ++ (beforeRight ++ (right ++ after)))).head?,
      isBare c = false := by
    cases afterLeft with
    | nil =>
      intro c first
      cases comparator <;> cases first <;> decide
    | cons c rest => simpa using notBare (writes.afterLeft c (by simp))
  have comparatorEnds : (beforeRight ++ (right ++ after)).head? ≠ some '=' := by
    cases beforeRight with
    | nil => exact writes.right.head?_ne_equals after
    | cons c rest =>
      have white := writes.beforeRight c (by simp)
      rintro same
      cases same
      exact absurd white (by decide)
  have rightEnds : ∀ c ∈ after.head?, isBare c = false := by
    intro c first
    exact notBare (writes.after c (List.mem_of_mem_head? first))
  have afterwards : ∀ here last, tokensGo 0 here last after = .ok [] := by
    intro here last
    have nothing := tokensGo_blank writes.after [] here last
    rwa [List.append_nil] at nothing
  rw [Equation.tokens, text, tokensGo_blank writes.before,
    tokensGo_token writes.left.isToken (writes.left.tokenLength?_append leftEnds),
    tokensGo_blank writes.afterLeft,
    tokensGo_token (.symbol comparator) (tokenLength?_symbol_append comparator comparatorEnds),
    tokensGo_blank writes.beforeRight,
    tokensGo_token writes.right.isToken (writes.right.tokenLength?_append rightEnds), afterwards]
  rfl

/-- White space in front of something that can be seen is all the white space there. -/
theorem blank_unique {blank blank' s s' : List Char} (white : ∀ c ∈ blank, Text.isBlank c = true)
    (white' : ∀ c ∈ blank', Text.isBlank c = true) (visible : ∀ c ∈ s.head?, Text.isBlank c = false)
    (visible' : ∀ c ∈ s'.head?, Text.isBlank c = false) (same : blank ++ s = blank' ++ s') :
    blank = blank' ∧ s = s' := by
  -- Both are the longest white beginning of the same text.
  have whole {blank s : List Char} (white : ∀ c ∈ blank, Text.isBlank c = true)
      (visible : ∀ c ∈ s.head?, Text.isBlank c = false) : (blank ++ s).takeWhile Text.isBlank = blank := by
    rw [List.takeWhile_append_of_pos white]
    cases s with
    | nil => simp
    | cons c s => simp [visible c rfl]
  have alike : blank = blank' := by rw [← whole white visible, same, whole white' visible']
  exact ⟨alike, List.append_cancel_left (alike ▸ same)⟩

/-- A text is written as a comparison in one way only. -/
theorem Writes.unique (writes : layout.Writes equation) (writes' : layout'.Writes equation')
    (same : layout.text = layout'.text) : layout = layout' := by
  -- The tokens are the same, so that only the white space around them is left to compare.
  have tokens := writes.tokens
  rw [same, writes'.tokens, Except.ok.injEq] at tokens
  simp only [List.cons.injEq, and_true] at tokens
  obtain ⟨sameLeft, sameSymbol, sameRight⟩ := tokens
  have sameComparator : layout'.comparator = layout.comparator := by
    have found := ofSymbol?_eq_some_iff.mpr sameSymbol
    rw [ofSymbol?_eq_some_iff.mpr rfl] at found
    exact Option.some.inj found
  obtain ⟨sameBefore, same⟩ := blank_unique writes.before writes'.before
    (writes.left.isToken.visible _) (writes'.left.isToken.visible _) same
  rw [sameLeft] at same
  obtain ⟨sameAfterLeft, same⟩ := blank_unique writes.afterLeft writes'.afterLeft
    (IsToken.visible (.symbol _) _) (IsToken.visible (.symbol _) _) (List.append_cancel_left same)
  rw [sameSymbol] at same
  obtain ⟨sameBeforeRight, same⟩ := blank_unique writes.beforeRight writes'.beforeRight
    (writes.right.isToken.visible _) (writes'.right.isToken.visible _) (List.append_cancel_left same)
  rw [sameRight] at same
  exact Layout.ext sameBefore sameLeft.symm sameAfterLeft sameComparator.symm sameBeforeRight sameRight.symm
    (List.append_cancel_left same)

/-- The parts of a layout tell the comparison that it writes. -/
theorem Writes.equation_unique (writes : layout.Writes equation) (writes' : layout.Writes equation') :
    equation = equation' := by
  -- Each of the three parts is read in one way only.
  have left := Except.ok.inj (writes.left.read.symm.trans writes'.left.read)
  have comparator := writes.comparator.symm.trans writes'.comparator
  have right := Except.ok.inj (writes.right.read.symm.trans writes'.right.read)
  obtain ⟨_, _, _⟩ := equation
  obtain ⟨_, _, _⟩ := equation'
  cases left
  cases comparator
  cases right
  rfl

/-- Three tokens that are read as operands around a comparator make up a written comparison. -/
theorem exists_of_tokens {s left right : List Char} (tokens : Equation.tokens s =
    .ok [left, equation.comparator.symbol.toList, right]) (readLeft : operand left = .ok equation.left)
    (readRight : operand right = .ok equation.right) :
    ∃ layout : Layout, layout.text = s ∧ layout.Writes equation := by
  -- The text is taken apart token by token, and white space is all that is left.
  obtain ⟨before, s, _, _, rfl, white, leftShape, tokens⟩ := exists_of_tokensGo_cons tokens
  obtain ⟨afterLeft, s, _, _, rfl, white', -, tokens⟩ := exists_of_tokensGo_cons tokens
  obtain ⟨beforeRight, after, _, _, rfl, white'', rightShape, tokens⟩ := exists_of_tokensGo_cons tokens
  exact ⟨⟨before, left, afterLeft, equation.comparator, beforeRight, right, after⟩, rfl, white,
    .of_read leftShape readLeft, white', rfl, white'', .of_read rightShape readRight,
    blank_of_tokensGo_nil tokens⟩

end Equation.Layout

namespace Equation

/-- A comparison is read from three tokens, the middle one of which is a comparator. -/
theorem parse_eq_ok_iff {source : String} {equation : Equation} :
    parse source = .ok equation ↔ ∃ left right, tokens source.toList =
      .ok [left, equation.comparator.symbol.toList, right] ∧ operand left = .ok equation.left ∧
        operand right = .ok equation.right := by
  -- Reading fails at the first of its steps that fails, so that all of them have to succeed.
  constructor
  · intro read
    unfold parse at read
    obtain ⟨found, scanned, read⟩ := ok_of_bind read
    split at read
    · rename_i left middle right
      split at read
      · rename_i comparator named
        obtain ⟨leftOperand, readLeft, read⟩ := ok_of_bind read
        obtain ⟨rightOperand, readRight, read⟩ := ok_of_bind read
        cases read
        rw [ofSymbol?_eq_some_iff] at named
        subst named
        exact ⟨left, right, scanned, readLeft, readRight⟩
      · cases read
    · cases read
  · rintro ⟨left, right, scanned, readLeft, readRight⟩
    simp [parse, scanned, ofSymbol?_eq_some_iff.mpr rfl, readLeft, readRight, Bind.bind, Except.bind, Pure.pure,
      Except.pure]

/-- The complaint about a quote that is not closed is never made. -/
theorem parse_ne_unterminatedLiteral (source text : String) :
    parse source ≠ .error (.unterminatedLiteral text) := by
  intro failed
  unfold parse at failed
  rcases error_of_bind failed with unscanned | ⟨found, scanned, failed⟩
  · -- The tokens themselves give another complaint.
    obtain ⟨offset, same⟩ := exists_offset_of_tokensGo_error unscanned
    cases same
  split at failed
  · rename_i left middle right
    have shapes := isToken_of_mem scanned
    split at failed
    · rcases error_of_bind failed with refused | ⟨_, -, failed⟩
      · exact (shapes left (by simp)).operand_ne_unterminatedLiteral text refused
      rcases error_of_bind failed with refused | ⟨_, -, failed⟩
      · exact (shapes right (by simp)).operand_ne_unterminatedLiteral text refused
      cases failed
    · cases failed
  · cases failed

/-- A text in double quotes is read as that text, or as the reference that it names, if backslashes stand before
the quotes and the backslashes in it and before no line feed. -/
theorem quoted_escapes {escapes : Char → Bool} (quotes : escapes '"' = true) (backslashes : escapes '\\' = true)
    (lines : escapes '\n' = false) (text : List Char) :
    Quoted '"' (text.flatMap fun c => if escapes c then ['\\', c] else [c]) text := by
  -- By the text, each character of which stands plain or behind a backslash.
  induction text with
  | nil => exact .empty
  | cons c text ih =>
    rw [List.flatMap_cons]
    split
    · rename_i escaped
      refine .escaped ?_ ih
      rintro rfl
      exact absurd (escaped.symm.trans lines) (by decide)
    · rename_i plain
      refine .plain ?_ ?_ ih
      · rintro rfl
        exact plain quotes
      · rintro rfl
        exact plain backslashes

/-- Exactly the texts of the grammar are read, each as the only comparison that it is written for and in the only
way of writing it. Every text can be written in double quotes, unless it names a reference, and no quote is ever found
unclosed. -/
theorem parse_grammar :
    (∀ (source : String) (equation : Equation), parse source = .ok equation ↔
      ∃ layout : Layout, layout.text = source.toList ∧ layout.Writes equation) ∧
    (∀ (layout layout' : Layout) (equation equation' : Equation), layout.Writes equation →
      layout'.Writes equation' → layout.text = layout'.text → layout = layout' ∧ equation = equation') ∧
    (∀ (escapes : Char → Bool) (text : String), escapes '"' = true → escapes '\\' = true → escapes '\n' = false →
      text ≠ "value" → text ≠ "parentValue" →
        Operand.Written (quoted escapes text.toList) (.literal text) ∧
          operand (quoted escapes text.toList) = .ok (.literal text)) ∧
    ∀ source text : String, parse source ≠ .error (.unterminatedLiteral text) := by
  -- Reading goes through the three tokens, and a layout is told by its tokens and the white space between.
  refine ⟨fun source equation => ?_, fun layout layout' equation equation' writes writes' same => ?_,
    fun escapes text quotes backslashes lines noValue noParent => ?_, parse_ne_unterminatedLiteral⟩
  · rw [parse_eq_ok_iff]
    constructor
    · rintro ⟨left, right, scanned, readLeft, readRight⟩
      exact Layout.exists_of_tokens scanned readLeft readRight
    · rintro ⟨layout, whole, writes⟩
      have scanned := writes.tokens
      rw [whole, writes.comparator] at scanned
      exact ⟨layout.left, layout.right, scanned, writes.left.read, writes.right.read⟩
  · obtain rfl := writes.unique writes' same
    exact ⟨rfl, writes.equation_unique writes'⟩
  · have content := quoted_escapes quotes backslashes lines text.toList
    have noReference : text.toList ≠ "value".toList ∧ text.toList ≠ "parentValue".toList :=
      ⟨fun same => noValue (String.toList_injective same), fun same => noParent (String.toList_injective same)⟩
    have written := Operand.Written.quotedText (.inl rfl) content noReference
    rw [String.ofList_toList] at written
    exact ⟨written, written.read⟩

/-- A value is compared with a text in single quotes that holds one itself, and a text with a double quote is
written. -/
theorem parse_grammar_innerQuotes :
    let layout : Layout := ⟨[' '], "value".toList, [], .le, ['\t', '\n'], "'it\\'s'".toList, []⟩
    let equation : Equation := ⟨.value, .le, .literal "it's"⟩
    let escapes (c : Char) : Bool := c = '"' ∨ c = '\\'
    layout.text = " value<=\t\n'it\\'s'".toList ∧ layout.Writes equation ∧
      parse " value<=\t\n'it\\'s'" = .ok equation ∧ escapes '"' = true ∧ escapes '\\' = true ∧
      escapes '\n' = false ∧ Operand.Written "\"3\\\" wide\"".toList (.literal "3\" wide") ∧
      operand "\"3\\\" wide\"".toList = .ok (.literal "3\" wide") := by
  -- The layout is given part by part, and the quoted text character by character.
  intro layout equation escapes
  have content : Quoted '\'' "it\\'s".toList "it's".toList :=
    .plain (by decide) (by decide) (.plain (by decide) (by decide) (.escaped (by decide)
      (.plain (by decide) (by decide) .empty)))
  have writes : layout.Writes equation := {
    before := List.all_eq_true.mp rfl
    left := .value
    afterLeft := List.all_eq_true.mp rfl
    comparator := rfl
    beforeRight := List.all_eq_true.mp rfl
    right := .quotedText (.inr rfl) content (by decide)
    after := List.all_eq_true.mp rfl }
  have whole : layout.text = " value<=\t\n'it\\'s'".toList := by decide
  have wide := parse_grammar.2.2.1 escapes "3\" wide" rfl rfl rfl (by decide) (by decide)
  exact ⟨whole, writes, (parse_grammar.1 _ _).mpr ⟨layout, whole, writes⟩, rfl, rfl, rfl, wide⟩

end Equation

end Harvest
