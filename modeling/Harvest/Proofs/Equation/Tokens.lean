import Harvest.Equation.Reader
import Harvest.Proofs.Outcome
import Mathlib.Data.List.TakeWhile

/-! What the tokens of a comparison are: they and the white space between them make up the whole text, each has
one of three shapes, and each goes on as long as its shape allows. -/

namespace Harvest.Equation

/-- What stands between two quotes, and the text that is meant: a backslash takes the next character along, which
is not a line feed. -/
inductive Quoted (quote : Char) : List Char → List Char → Prop
  | empty : Quoted quote [] []
  | plain {c : Char} {written text : List Char} (closesNot : c ≠ quote) (escapesNot : c ≠ '\\')
      (rest : Quoted quote written text) : Quoted quote (c :: written) (c :: text)
  | escaped {c : Char} {written text : List Char} (goesOn : c ≠ '\n') (rest : Quoted quote written text) :
      Quoted quote ('\\' :: c :: written) (c :: text)

/-- The two quotes. -/
def IsQuote (c : Char) : Prop :=
  c = '"' ∨ c = '\''

/-- The shapes of tokens. -/
inductive IsToken : List Char → Prop
  | quoted {quote : Char} {written text : List Char} (mark : IsQuote quote) (content : Quoted quote written text) :
      IsToken (quote :: (written ++ [quote]))
  | symbol (comparator : Comparator) : IsToken comparator.symbol.toList
  | word {word : List Char} (something : word ≠ []) (bare : ∀ c ∈ word, isBare c = true) : IsToken word

/-- A quote is no backslash. -/
theorem IsQuote.ne_backslash {quote : Char} (mark : IsQuote quote) : quote ≠ '\\' := by
  rcases mark with rfl | rfl <;> decide

/-- A character of a bare word is none of the marks that stand at the beginning of other tokens. -/
theorem ne_of_isBare {c mark : Char} (bare : isBare c = true) (special : isBare mark = false) : c ≠ mark := by
  -- One of them is bare and the other is not.
  rintro rfl
  rw [special] at bare
  cases bare

/-- The closing quote is found behind a quoted text. -/
theorem Quoted.quotedLength?_append {quote : Char} (mark : IsQuote quote) {written text : List Char}
    (content : Quoted quote written text) (rest : List Char) :
    quotedLength? quote (written ++ quote :: rest) = some (written.length + 1) := by
  -- Neither a plain character nor the one after a backslash closes the text.
  induction content with
  | empty => simp [quotedLength?, mark.ne_backslash]
  | plain closesNot escapesNot _ ih => simp [quotedLength?, closesNot, escapesNot, ih]
  | escaped goesOn _ ih => simp [quotedLength?, goesOn, ih]

/-- A closing quote is only found behind a quoted text. -/
theorem exists_quoted_of_quotedLength? {quote : Char} {s : List Char} {n : Nat}
    (found : quotedLength? quote s = some n) :
    ∃ written text rest, s = written ++ quote :: rest ∧ n = written.length + 1 ∧ Quoted quote written text := by
  -- The induction follows the search, which passes over one or two characters at a time.
  induction s using quotedLength?.induct quote generalizing n with
  | case1 => simp [quotedLength?] at found
  | case2 => simp [quotedLength?] at found
  | case3 rest => simp [quotedLength?] at found
  | case4 c rest goesOn ih =>
    rw [quotedLength?, if_neg goesOn, Option.map_eq_some_iff] at found
    obtain ⟨length, found, rfl⟩ := found
    obtain ⟨written, text, rest, rfl, rfl, content⟩ := ih found
    exact ⟨'\\' :: c :: written, c :: text, rest, rfl, rfl, .escaped goesOn content⟩
  | case5 rest lone escape =>
    -- The quote closes the text at once.
    rw [quotedLength?.eq_4 _ _ _ lone escape, if_pos rfl] at found
    cases found
    exact ⟨[], [], rest, rfl, rfl, .empty⟩
  | case6 c rest lone escape open_ ih =>
    rw [quotedLength?.eq_4 _ _ _ lone escape, if_neg open_, Option.map_eq_some_iff] at found
    obtain ⟨length, found, rfl⟩ := found
    obtain ⟨written, text, rest, rfl, rfl, content⟩ := ih found
    -- A backslash would have something behind it, if only the closing quote.
    have escapesNot : c ≠ '\\' := by
      rintro rfl
      cases written <;> exact escape _ _ rfl rfl
    exact ⟨c :: written, c :: text, rest, rfl, rfl, .plain open_ escapesNot content⟩

/-- A text without its escapes is what is meant. -/
theorem Quoted.unescape {quote : Char} {written text : List Char} (content : Quoted quote written text) :
    Equation.unescape written = text := by
  -- By the content, where a backslash is always followed by what it escapes.
  induction content with
  | empty => rfl
  | plain closesNot escapesNot _ ih => simp [Equation.unescape, escapesNot, ih]
  | escaped goesOn _ ih => simp [Equation.unescape, ih]

/-- A quoted text is a token of its whole length, whatever comes behind it. -/
theorem Quoted.tokenLength?_append {quote : Char} (mark : IsQuote quote) {written text : List Char}
    (content : Quoted quote written text) (rest : List Char) :
    tokenLength? (quote :: (written ++ [quote]) ++ rest) = some (written.length + 2) := by
  have found := content.quotedLength?_append mark rest
  rcases mark with rfl | rfl <;> simp [tokenLength?, found]

/-- A comparator is a token, unless an equals sign behind it makes it a longer one. -/
theorem tokenLength?_symbol_append (comparator : Comparator) {rest : List Char} (ends : rest.head? ≠ some '=') :
    tokenLength? (comparator.symbol.toList ++ rest) = some comparator.symbol.toList.length := by
  -- Only the two comparators of one character can go on.
  have endsNot : ∀ more, rest = '=' :: more → False := by
    rintro more rfl
    exact ends rfl
  cases comparator <;> simp [Comparator.symbol, tokenLength?]

/-- A text that begins with a bare character has the token of its bare beginning. -/
theorem tokenLength?_of_isBare {c : Char} (bare : isBare c = true) (s : List Char) :
    tokenLength? (c :: s) = some ((c :: s).takeWhile isBare).length := by
  -- No other kind of token begins with such a character.
  have noQuote : c ≠ '"' := ne_of_isBare bare (by decide)
  have noApostrophe : c ≠ '\'' := ne_of_isBare bare (by decide)
  have noEquals : c ≠ '=' := ne_of_isBare bare (by decide)
  have noBang : c ≠ '!' := ne_of_isBare bare (by decide)
  have noLess : c ≠ '<' := ne_of_isBare bare (by decide)
  have noGreater : c ≠ '>' := ne_of_isBare bare (by decide)
  simp [tokenLength?, noQuote, noApostrophe, noEquals, noBang, noLess, noGreater, bare]

/-- A bare word is a token if no character behind it goes on with it. -/
theorem tokenLength?_word_append {word rest : List Char} (something : word ≠ [])
    (bare : ∀ c ∈ word, isBare c = true) (ends : ∀ c ∈ rest.head?, isBare c = false) :
    tokenLength? (word ++ rest) = some word.length := by
  -- A word is measured by its longest bare beginning.
  have whole : (word ++ rest).takeWhile isBare = word := by
    rw [List.takeWhile_append_of_pos bare]
    cases rest with
    | nil => simp
    | cons c rest => simp [ends c rfl]
  obtain ⟨c, word, rfl⟩ := List.exists_cons_of_ne_nil something
  rw [List.cons_append] at whole ⊢
  rw [tokenLength?_of_isBare (bare c (by simp)), whole]

/-- The token at the beginning of a text has one of the three shapes. -/
theorem exists_token_of_tokenLength? {s : List Char} {n : Nat} (found : tokenLength? s = some n) :
    ∃ token rest, s = token ++ rest ∧ token.length = n ∧ IsToken token := by
  have quotedToken {quote : Char} (mark : IsQuote quote) {rest : List Char}
      (closed : (quotedLength? quote rest).map (· + 1) = some n) :
      ∃ token after, quote :: rest = token ++ after ∧ token.length = n ∧ IsToken token := by
    obtain ⟨length, inside, rfl⟩ := Option.map_eq_some_iff.mp closed
    obtain ⟨written, text, after, rfl, rfl, content⟩ := exists_quoted_of_quotedLength? inside
    exact ⟨quote :: (written ++ [quote]), after, by simp, by simp, .quoted mark content⟩
  have symbolToken (comparator : Comparator) {rest : List Char}
      (measured : some comparator.symbol.toList.length = some n) :
      ∃ token after, comparator.symbol.toList ++ rest = token ++ after ∧ token.length = n ∧ IsToken token :=
    ⟨_, rest, rfl, Option.some.inj measured, .symbol comparator⟩
  unfold tokenLength? at found
  split at found
  · exact quotedToken (.inl rfl) found
  · exact quotedToken (.inr rfl) found
  · exact symbolToken .eq found
  · exact symbolToken .ne found
  · exact symbolToken .le found
  · exact symbolToken .ge found
  · exact symbolToken .lt found
  · exact symbolToken .gt found
  · -- All else is a word, if there is one.
    split at found
    · cases found
    · rename_i length something
      refine ⟨s.takeWhile isBare, s.dropWhile isBare, List.takeWhile_append_dropWhile.symm, ?_,
        .word ?_ fun c member => List.mem_takeWhile_imp member⟩
      · exact something.trans (Option.some.inj found)
      · exact List.ne_nil_of_length_eq_add_one something

/-- A character of a token is passed over. -/
theorem tokensGo_skip (skip here last : Nat) (c : Char) (s : List Char) :
    tokensGo (skip + 1) here last (c :: s) = tokensGo skip (here + c.utf8Size) last s :=
  rfl

/-- A white character in front is passed over. -/
theorem tokensGo_white {c : Char} (white : Text.isBlank c = true) (s : List Char) (here last : Nat) :
    tokensGo 0 here last (c :: s) = tokensGo 0 (here + c.utf8Size) last s :=
  if_pos white

/-- The rest of a token is passed over. -/
theorem tokensGo_append (token rest : List Char) (here last : Nat) :
    tokensGo token.length here last (token ++ rest) = tokensGo 0 (here + Text.size token) last rest := by
  -- One character at a time, each of which moves the place by its own size.
  induction token generalizing here with
  | nil => rfl
  | cons c token ih =>
    rw [List.length_cons, List.cons_append, tokensGo_skip, ih, Nat.add_assoc]
    rfl

/-- White space in front is passed over. -/
theorem tokensGo_blank {blank : List Char} (white : ∀ c ∈ blank, Text.isBlank c = true) (s : List Char)
    (here last : Nat) :
    tokensGo 0 here last (blank ++ s) = tokensGo 0 (here + Text.size blank) last s := by
  -- One character at a time, each of which moves the place by its own size.
  induction blank generalizing here with
  | nil => rfl
  | cons c blank ih =>
    rw [List.cons_append, tokensGo_white (white c (by simp)), ih fun other member => white other (by simp [member]),
      Nat.add_assoc]
    rfl

/-- A token begins with something that can be seen. -/
theorem IsToken.exists_cons {token : List Char} (shape : IsToken token) :
    ∃ c rest, token = c :: rest ∧ Text.isBlank c = false := by
  -- By the shape of the token: a quote, a symbol or a bare character.
  cases shape with
  | @quoted quote written _ mark _ =>
    refine ⟨quote, written ++ [quote], rfl, ?_⟩
    rcases mark with rfl | rfl <;> decide
  | symbol comparator => cases comparator <;> exact ⟨_, _, rfl, by decide⟩
  | @word word something bare =>
    obtain ⟨c, rest, rfl⟩ := List.exists_cons_of_ne_nil something
    have first := bare c (by simp)
    simp only [isBare, Bool.and_eq_true, Bool.not_eq_true'] at first
    exact ⟨c, rest, rfl, first.1.1.1.1.1.1⟩

/-- What can be seen and is measured is a token, and the others follow behind it. -/
theorem tokensGo_visible {c : Char} {s : List Char} {n : Nat} (visible : Text.isBlank c = false)
    (measured : tokenLength? (c :: s) = some n) (here last : Nat) :
    tokensGo 0 here last (c :: s) =
      (tokensGo (n - 1) (here + c.utf8Size) (here + Text.size ((c :: s).take n)) s).map ((c :: s).take n :: ·) := by
  rw [tokensGo, if_neg (by simp [visible]), measured]
  rfl

/-- What can be seen and is not measured is an error. -/
theorem tokensGo_unmeasured {c : Char} {s : List Char} (visible : Text.isBlank c = false)
    (unmeasured : tokenLength? (c :: s) = none) (here last : Nat) :
    tokensGo 0 here last (c :: s) = .error (.unexpectedInput last) := by
  rw [tokensGo, if_neg (by simp [visible]), unmeasured]

/-- The token in front comes first, and the others follow from the text behind it. -/
theorem tokensGo_token {token : List Char} (shape : IsToken token) {rest : List Char}
    (measured : tokenLength? (token ++ rest) = some token.length) (here last : Nat) :
    tokensGo 0 here last (token ++ rest) =
      (tokensGo 0 (here + Text.size token) (here + Text.size token) rest).map (token :: ·) := by
  obtain ⟨c, more, rfl, visible⟩ := shape.exists_cons
  rw [List.cons_append] at measured ⊢
  rw [tokensGo_visible visible measured]
  -- The rest of the token is passed over, and what is cut off is the token.
  rw [← List.cons_append, List.take_left, List.length_cons, Nat.add_sub_cancel, tokensGo_append, Nat.add_assoc]
  rfl

/-- A text without tokens is white space. -/
theorem blank_of_tokensGo_nil {s : List Char} {here last : Nat} (nothing : tokensGo 0 here last s = .ok []) :
    ∀ c ∈ s, Text.isBlank c = true := by
  induction s generalizing here with
  | nil => simp
  | cons c s ih =>
    cases visible : Text.isBlank c with
    | true =>
      rw [tokensGo_white visible] at nothing
      simpa [visible] using ih nothing
    | false =>
      -- A token that is measured would be among the tokens.
      cases measured : tokenLength? (c :: s) with
      | none =>
        rw [tokensGo_unmeasured visible measured] at nothing
        cases nothing
      | some n =>
        rw [tokensGo_visible visible measured] at nothing
        obtain ⟨_, _, impossible⟩ := ok_of_map nothing
        cases impossible

/-- The first token of a text stands behind white space, and the others come from the text behind it. -/
theorem exists_of_tokensGo_cons {s token : List Char} {others : List (List Char)} {here last : Nat}
    (found : tokensGo 0 here last s = .ok (token :: others)) :
    ∃ blank rest here' last', s = blank ++ (token ++ rest) ∧ (∀ c ∈ blank, Text.isBlank c = true) ∧
      IsToken token ∧ tokensGo 0 here' last' rest = .ok others := by
  induction s generalizing here with
  | nil => cases found
  | cons c s ih =>
    cases visible : Text.isBlank c with
    | true =>
      rw [tokensGo_white visible] at found
      obtain ⟨blank, rest, here', last', rfl, white, shape, onwards⟩ := ih found
      exact ⟨c :: blank, rest, here', last', rfl, by simpa [visible] using white, shape, onwards⟩
    | false =>
      cases measured : tokenLength? (c :: s) with
      | none =>
        rw [tokensGo_unmeasured visible measured] at found
        cases found
      | some n =>
        -- The token that is measured is the one in front.
        obtain ⟨first, rest, whole, rfl, shape⟩ := exists_token_of_tokenLength? measured
        rw [whole] at measured found
        rw [tokensGo_token shape measured] at found
        obtain ⟨later, onwards, same⟩ := ok_of_map found
        obtain ⟨rfl, rfl⟩ := List.cons.inj same
        exact ⟨[], rest, _, _, whole, by simp, shape, onwards⟩

/-- All tokens of a text have the shape of tokens. -/
theorem isToken_of_mem {s : List Char} {found : List (List Char)} {here last : Nat}
    (scanned : tokensGo 0 here last s = .ok found) : ∀ token ∈ found, IsToken token := by
  -- By the tokens that are found, behind each of which the scan goes on alike.
  induction found generalizing s here last with
  | nil => simp
  | cons token others ih =>
    obtain ⟨_, _, _, _, -, -, shape, onwards⟩ := exists_of_tokensGo_cons scanned
    intro other member
    rcases List.mem_cons.mp member with rfl | later
    · exact shape
    · exact ih onwards other later

/-- Where no token starts is all that can be wrong with the tokens of a text. -/
theorem exists_offset_of_tokensGo_error {s : List Char} {skip here last : Nat} {cause : Error}
    (failed : tokensGo skip here last s = .error cause) : ∃ offset, cause = .unexpectedInput offset := by
  induction s generalizing skip here last with
  | nil => cases skip <;> cases failed
  | cons c s ih =>
    cases skip with
    | succ skip => exact ih failed
    | zero =>
      cases visible : Text.isBlank c with
      | true =>
        rw [tokensGo_white visible] at failed
        exact ih failed
      | false =>
        cases measured : tokenLength? (c :: s) with
        | none =>
          rw [tokensGo_unmeasured visible measured] at failed
          cases failed
          exact ⟨last, rfl⟩
        | some n =>
          -- What is wrong is wrong behind the token.
          rw [tokensGo_visible visible measured] at failed
          exact ih (error_of_map failed)

end Harvest.Equation
