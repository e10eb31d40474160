import Harvest.Json.Printer
import Harvest.Json.Reader
import Harvest.Proofs.Number.Decimal
import Mathlib.Algebra.GroupWithZero.Nat

/-! Documents as text: what is written is read back, with nothing left over and nothing of what follows read along. -/

namespace Harvest.Json

/-- Documents without binary64 numbers, whose whole numbers are words of 64 bits with or without a sign and whose
brackets are nested up to a depth. -/
inductive Plain : Nat → Json → Prop
  | null {depth : Nat} : Plain depth .null
  | bool {depth : Nat} (value : Bool) : Plain depth (.bool value)
  | int {depth : Nat} {value : Int} (low : -(Word.signBound : Int) ≤ value) (high : value < Word.bound) :
      Plain depth (.int value)
  | string {depth : Nat} (value : String) : Plain depth (.string value)
  | array {depth : Nat} {items : List Json} (each : ∀ item ∈ items, Plain depth item) :
      Plain (depth + 1) (.array items)
  | object {depth : Nat} {members : List (String × Json)} (each : ∀ member ∈ members, Plain depth member.2) :
      Plain (depth + 1) (.object members)

/-- A list is plain if whatever its items stand for is written plainly. -/
theorem Plain.array_map {α : Type} {depth : Nat} {write : α → Json} {values : List α}
    (each : ∀ value ∈ values, Plain depth (write value)) : Plain (depth + 1) (.array (values.map write)) := by
  -- Every item is the writing of a value.
  refine .array fun item among => ?_
  obtain ⟨value, member, rfl⟩ := List.mem_map.mp among
  exact each value member

section Strings

/-- Both hexadecimal digits of a number below 256 are read back. -/
theorem hexDigit?_digitChar : ∀ n < 16, hexDigit? (Nat.digitChar n) = some n := by
  decide

/-- Two zeros and the hexadecimal digits of a number below 256 are read back. -/
theorem hexQuad?_hexPair {n : Nat} (small : n < 256) (rest : List Char) :
    hexQuad? ('0' :: '0' :: (hexPair n ++ rest)) = some (n, rest) := by
  -- Below 256 the two digits are all there is of the number.
  have zero : hexDigit? '0' = some 0 := rfl
  have high := hexDigit?_digitChar (n / 16 % 16) (Nat.mod_lt _ (by decide))
  have low := hexDigit?_digitChar (n % 16) (Nat.mod_lt _ (by decide))
  have whole : ((0 * 16 + 0) * 16 + n / 16 % 16) * 16 + n % 16 = n := by omega
  simp only [hexQuad?, hexPair, List.cons_append, List.nil_append, zero, high, low, Option.bind_eq_bind,
    Option.bind_some, whole]
  rfl

/-- The escape of a control character is read back. -/
theorem unicodeEscape?_hexPair {c : Char} (control : c.toNat < 0x20) (rest : List Char) :
    unicodeEscape? ('0' :: '0' :: (hexPair c.toNat ++ rest)) = some (c, rest) := by
  -- A control character is no half of a pair.
  have noLow : ¬(0xDC00 ≤ c.toNat ∧ c.toNat ≤ 0xDFFF) := by omega
  have noHigh : ¬(0xD800 ≤ c.toNat ∧ c.toNat ≤ 0xDBFF) := by omega
  simp only [unicodeEscape?, hexQuad?_hexPair (Nat.lt_trans control (by decide)), Option.bind_eq_bind,
    Option.bind_some, if_neg noLow, if_neg noHigh, Char.ofNat_toNat]
  rfl

/-- A character inside quotes is read back. -/
theorem stringBody?_escapeChar (fuel : Nat) (done : List Char) (c : Char) (rest : List Char) :
    stringBody? (fuel + 1) done (escapeChar c ++ rest) = stringBody? fuel (c :: done) rest := by
  unfold escapeChar
  -- The characters with a short escape come first, one by one.
  split
  · subst c; rfl
  split
  · subst c; rfl
  split
  · subst c; rfl
  split
  · subst c; rfl
  split
  · subst c; rfl
  split
  · subst c; rfl
  split
  · subst c; rfl
  split
  · -- All other control characters are written by their numbers.
    rename_i control
    simp only [List.cons_append, stringBody?, unicodeEscape?_hexPair control]
    rfl
  · -- Whatever can be printed stands for itself.
    rename_i noQuote noSlash _ _ _ _ _ printed
    rw [List.singleton_append, stringBody?]
    · exact if_neg printed
    · exact noQuote
    · exact fun _ same _ => noSlash same
    · exact fun _ _ same _ => noSlash same

/-- A text is not longer than what is written for it. -/
theorem length_le_escaped (text : List Char) : text.length ≤ (text.flatMap escapeChar).length := by
  -- By the text, for every character of which at least one is written.
  have some_written (c : Char) : 1 ≤ (escapeChar c).length := by
    unfold escapeChar
    repeat' split
    all_goals simp
  induction text with
  | nil => exact Nat.le_refl _
  | cons c text ih =>
    rw [List.length_cons, List.flatMap_cons, List.length_append, Nat.add_comm]
    exact Nat.add_le_add (some_written c) ih

/-- The text inside quotes is read back up to the closing one. -/
theorem stringBody?_escaped (text done rest : List Char) {fuel : Nat} (enough : text.length < fuel) :
    stringBody? fuel done (text.flatMap escapeChar ++ '"' :: rest) =
      some (String.ofList (done.reverse ++ text), rest) := by
  -- By the text, each character of which uses up one step and is put in front of what is done.
  induction text generalizing done fuel with
  | nil =>
    obtain ⟨fuel, rfl⟩ := Nat.exists_eq_succ_of_ne_zero (Nat.ne_of_gt enough)
    simp [stringBody?]
  | cons c text ih =>
    obtain ⟨fuel, rfl⟩ := Nat.exists_eq_succ_of_ne_zero (Nat.ne_of_gt (Nat.lt_of_le_of_lt (Nat.zero_le _) enough))
    rw [List.flatMap_cons, List.append_assoc, stringBody?_escapeChar, ih (c :: done) (by simpa using enough)]
    simp

/-- What is written for a text begins with a quote and ends with one. -/
theorem toList_quote (text : String) (rest : List Char) :
    (quote text).toList ++ rest = '"' :: (text.toList.flatMap escapeChar ++ '"' :: rest) := by
  simp [quote]

/-- A text is read back behind its opening quote. -/
theorem stringBody?_quote (text : String) (rest : List Char) :
    stringBody? ((text.toList.flatMap escapeChar ++ '"' :: rest).length + 1) []
      (text.toList.flatMap escapeChar ++ '"' :: rest) = some (text, rest) := by
  -- One step for every character that is written is enough.
  have long := length_le_escaped text.toList
  rw [stringBody?_escaped _ _ _ (by rw [List.length_append]; omega), List.reverse_nil, List.nil_append,
    String.ofList_toList]

end Strings

section Numbers

/-- What stands behind a value inside a document, if anything does. -/
def Closes (rest : List Char) : Prop :=
  ∀ c ∈ rest.head?, c = ',' ∨ c = ']' ∨ c = '\x7d'

/-- Nothing stands behind the last value of a text. -/
theorem closes_nil : Closes [] := by
  simp [Closes]

/-- The values inside brackets are told apart by commas, and end with the bracket. -/
theorem closes_cons {c : Char} (mark : c = ',' ∨ c = ']' ∨ c = '\x7d') (rest : List Char) : Closes (c :: rest) := by
  simpa [Closes] using mark

/-- No digit stands behind a value. -/
theorem Closes.noDigit {rest : List Char} (closes : Closes rest) : ∀ c ∈ rest.head?, Decimal.isDigit c = false := by
  intro c first
  rcases closes c first with rfl | rfl | rfl <;> rfl

/-- No fraction begins behind a value, since there are no digits. -/
theorem Closes.noDigits {rest : List Char} (closes : Closes rest) :
    rest.takeWhile Decimal.isDigit = [] ∧ rest.dropWhile Decimal.isDigit = rest := by
  -- What follows a value does not begin with a digit.
  cases rest with
  | nil => exact ⟨rfl, rfl⟩
  | cons c rest => simp [closes.noDigit c rfl]

/-- A run of digits is read into the significand if its number is a word. -/
theorem significand_digits (start : Nat) {run rest : List Char} (digits : ∀ c ∈ run, c.isDigit = true)
    (small : Decimal.ofDigits start run < Word.bound) (closes : Closes rest) :
    significand start (run ++ rest) = (Decimal.ofDigits start run, run.length, rest) := by
  induction run generalizing start with
  | nil =>
    cases rest with
    | nil => rfl
    | cons c rest =>
      have noDigit : Decimal.digit? c = none := by simpa [Decimal.isDigit] using closes.noDigit c rfl
      simp [significand, noDigit, Decimal.ofDigits]
  | cons c run ih =>
    obtain ⟨digit, others⟩ := List.forall_mem_cons.mp digits
    have onwards : Decimal.ofDigits start (c :: run) = Decimal.ofDigits (start * 10 + (c.toNat - 48)) run := by
      rw [Decimal.ofDigits, List.foldl_cons, Decimal.digit?_of_isDigit digit, Nat.mul_comm]
      rfl
    -- What is read so far is a word, since the whole number is one.
    rw [onwards] at small ⊢
    have room := Nat.lt_of_le_of_lt (Decimal.le_ofDigits (start * 10 + (c.toNat - 48)) run) small
    simp only [List.cons_append, significand, Decimal.digit?_of_isDigit digit, if_neg (Nat.not_le_of_lt room),
      ih _ others small, List.length_cons]

/-- The digits of a word are read into the significand. A zero is read alone, and only zero begins with one. -/
theorem significand_written {n : Nat} (small : n < Word.bound) {first : Char} {more rest : List Char}
    (written : Decimal.digits n = first :: more) (closes : Closes rest) :
    ∃ count, (if first = '0' then (0, 1, more ++ rest) else significand 0 (first :: (more ++ rest))) =
      (n, count, rest) := by
  -- Zero is its only digit, and of any other number the first digit is not zero.
  by_cases zero : n = 0
  · subst zero
    obtain ⟨rfl, rfl⟩ := List.cons.inj (written.symm.trans (rfl : Decimal.digits 0 = ['0']))
    exact ⟨1, by simp⟩
  · have leading := Decimal.head_digits_ne_zero (Nat.pos_of_ne_zero zero)
    simp only [written, List.head_cons] at leading
    have read := significand_digits 0 (fun c => Decimal.isDigit_of_mem_digits (n := n)) (by
      rwa [Decimal.ofDigits_digits]) closes
    rw [Decimal.ofDigits_digits] at read
    rw [if_neg leading, ← List.cons_append, ← written]
    exact ⟨_, read⟩

/-- A number that is a word is read up to what follows it. -/
theorem number?_digits {n : Nat} (small : n < Word.bound) (negative : Bool) {rest : List Char} (closes : Closes rest) :
    number? negative (Decimal.digits n ++ rest) =
      if negative = false then some (int n, rest)
      else if n = 0 ∨ Word.signBound < n then (floatOfParts? true n 0).map (·, rest)
      else some (int (-(n : Int)), rest) := by
  obtain ⟨first, more, written, digit⟩ := Decimal.exists_digits_eq n
  obtain ⟨count, parts⟩ := significand_written small written closes
  rw [written, List.cons_append]
  simp only [number?, Decimal.isDigit_of_isDigit digit, parts, closes.noDigits, Bool.not_true, Bool.false_eq_true,
    if_false, List.length_nil, Nat.lt_irrefl, and_false]
  -- No point and no exponent stands behind it.
  split
  · exact absurd (closes '.' rfl) (by decide)
  · exact absurd (closes 'e' rfl) (by decide)
  · exact absurd (closes 'E' rfl) (by decide)
  · cases negative <;> rfl

end Numbers

section Values

variable {fuel depth : Nat}

/-- A value that begins with a digit is a number. -/
theorem value?_of_isDigit {first : Char} (digit : first.isDigit = true) (rest : List Char) :
    value? (fuel + 1) depth (first :: rest) = number? false (first :: rest) := by
  -- A digit is no white space, and none of the marks that the other values begin with.
  have visible : skipBlanks (first :: rest) = first :: rest := by
    refine List.dropWhile_cons_of_neg ?_
    rw [decide_eq_true_iff]
    rintro (rfl | rfl | rfl | rfl) <;> exact absurd digit (by decide)
  rw [value?, visible]
  split
  all_goals
    first
      | rfl
      | rename_i begins
        obtain ⟨rfl, -⟩ := List.cons.inj begins
        exact absurd digit (by decide)

/-- A written whole number is read back. -/
theorem value?_int {n : Int} (low : -(Word.signBound : Int) ≤ n) (high : n < Word.bound) {rest : List Char}
    (closes : Closes rest) : value? (fuel + 1) depth ((toString n).toList ++ rest) = some (int n, rest) := by
  cases n with
  | ofNat n =>
    have written : (toString (Int.ofNat n)).toList = Decimal.digits n := Decimal.toList_toString n
    obtain ⟨first, more, digits, digit⟩ := Decimal.exists_digits_eq n
    rw [written, digits, List.cons_append, value?_of_isDigit digit, ← List.cons_append, ← digits,
      number?_digits (by simpa using high) false closes]
    rfl
  | negSucc n =>
    -- Behind a sign stands a number that is not zero and has a place among those with a sign.
    have room : ¬(n + 1 = 0 ∨ Word.signBound < n + 1) := by omega
    have small : n + 1 < Word.bound := Nat.lt_of_le_of_lt (by omega) (by decide : Word.signBound < Word.bound)
    have signed : value? (fuel + 1) depth ('-' :: (Decimal.digits (n + 1) ++ rest)) =
        number? true (Decimal.digits (n + 1) ++ rest) := rfl
    rw [Decimal.toList_toString_negSucc, List.cons_append, signed, number?_digits small true closes,
      if_neg (by decide), if_neg room]
    rfl

/-- Every written document begins with something to see, which is not a closing bracket. -/
theorem render_begins {document : Json} (plain : document.Plain depth) :
    ∃ first rest, document.render.toList = first :: rest ∧
      (first ≠ ' ' ∧ first ≠ '\t' ∧ first ≠ '\n' ∧ first ≠ '\r') ∧ first ≠ ']' := by
  -- By the form of the document, each of which has its own first character.
  cases plain with
  | null => exact ⟨_, _, rfl, by decide⟩
  | bool value => cases value <;> exact ⟨_, _, rfl, by decide⟩
  | @int _ n _ _ =>
    cases n with
    | ofNat n =>
      obtain ⟨first, more, digits, digit⟩ := Decimal.exists_digits_eq n
      refine ⟨first, more, (Decimal.toList_toString n).trans digits, ?_⟩
      refine ⟨⟨?_, ?_, ?_, ?_⟩, ?_⟩ <;> exact fun same => absurd digit (same ▸ by decide)
    | negSucc n => exact ⟨_, _, Decimal.toList_toString_negSucc n, by decide⟩
  | string text => exact ⟨_, _, by simpa [render] using toList_quote text [], by decide⟩
  | @array _ items _ => exact ⟨'[', (renderItems items ++ "]").toList, by simp [render], by decide⟩
  | @object _ members _ => exact ⟨'\x7b', (renderMembers members ++ "\x7d").toList, by simp [render], by decide⟩

/-- Items behind an opening bracket are read as a list. -/
theorem value?_items {first : Char} (visible : first ≠ ' ' ∧ first ≠ '\t' ∧ first ≠ '\n' ∧ first ≠ '\r')
    (inside : first ≠ ']') (rest : List Char) :
    value? (fuel + 1) (depth + 1) ('[' :: first :: rest) =
      (items? fuel depth [] (first :: rest)).map fun (items, rest) => (array items, rest) := by
  -- The bracket is not closed again at once.
  have kept : skipBlanks (first :: rest) = first :: rest := by
    refine List.dropWhile_cons_of_neg ?_
    simpa using visible
  rw [value?, show skipBlanks ('[' :: first :: rest) = '[' :: first :: rest from rfl]
  simp only [Nat.add_eq_zero_iff, Nat.one_ne_zero, and_false, if_false, kept]
  split
  · rename_i begins
    exact absurd (List.cons.inj begins).1 inside
  · rfl

/-- Between two items a comma is written. -/
theorem toList_renderItems (item next : Json) (items : List Json) :
    (renderItems (item :: next :: items)).toList =
      item.render.toList ++ ',' :: (renderItems (next :: items)).toList := by
  simp [renderItems]

/-- The items of a list begin with the first one. -/
theorem renderItems_begins (item : Json) (items : List Json) :
    ∃ rest, (renderItems (item :: items)).toList = item.render.toList ++ rest := by
  -- A comma follows it, or nothing.
  cases items with
  | nil => exact ⟨[], by simp [renderItems]⟩
  | cons next items => exact ⟨_, toList_renderItems item next items⟩

/-- A member is written as its name and its value. -/
theorem toList_renderMembers_singleton (name : String) (value : Json) (rest : List Char) :
    (renderMembers [(name, value)]).toList ++ rest =
      '"' :: (name.toList.flatMap escapeChar ++ '"' :: ':' :: (value.render.toList ++ rest)) := by
  rw [renderMembers, String.toList_append, String.toList_append, List.append_assoc, List.append_assoc, toList_quote]
  rfl

/-- The value of a member is shorter than the member. -/
theorem length_value_lt (name : String) (value : Json) :
    value.render.toList.length < (renderMembers [(name, value)]).toList.length := by
  -- The name stands in front of the value.
  have written := congrArg List.length (toList_renderMembers_singleton name value [])
  simp only [List.append_nil, List.length_cons, List.length_append] at written
  omega

/-- Between two members a comma is written. -/
theorem toList_renderMembers (member next : String × Json) (members : List (String × Json)) :
    (renderMembers (member :: next :: members)).toList =
      (renderMembers [member]).toList ++ ',' :: (renderMembers (next :: members)).toList := by
  simp [renderMembers]

/-- The members of an object begin with a quote. -/
theorem renderMembers_begins (member : String × Json) (members : List (String × Json)) :
    ∃ rest, (renderMembers (member :: members)).toList = '"' :: rest := by
  -- The first member begins with the quote of its name.
  cases members with
  | nil => exact ⟨_, by simpa using toList_renderMembers_singleton member.1 member.2 []⟩
  | cons next members =>
    rw [toList_renderMembers, toList_renderMembers_singleton]
    exact ⟨_, rfl⟩

/-- An item is read up to what follows it, which is a comma or the closing bracket. -/
theorem items?_item {item : Json} {rest : List Char}
    (read : value? fuel depth (item.render.toList ++ rest) = some (item, rest)) (done : List Json) :
    items? (fuel + 1) depth done (item.render.toList ++ rest) =
      match skipBlanks rest with
      | ',' :: rest => items? fuel depth (item :: done) rest
      | ']' :: rest => some ((item :: done).reverse, rest)
      | _ => none := by
  rw [items?, read]
  rfl

/-- A member is read up to what follows it, which is a comma or the closing brace. -/
theorem members?_member (name : String) {value : Json} {rest : List Char}
    (read : value? fuel depth (value.render.toList ++ rest) = some (value, rest)) (done : List (String × Json)) :
    members? (fuel + 1) depth done ((renderMembers [(name, value)]).toList ++ rest) =
      match skipBlanks rest with
      | ',' :: rest => members? fuel depth ((name, value) :: done) rest
      | '\x7d' :: rest => some (((name, value) :: done).reverse, rest)
      | _ => none := by
  have named := stringBody?_quote name (':' :: (value.render.toList ++ rest))
  rw [toList_renderMembers_singleton, members?]
  -- No blanks are written in front of the name and of the colon.
  simp only [show ∀ s, skipBlanks ('"' :: s) = '"' :: s from fun _ => rfl, named, Option.bind_eq_bind, Option.bind_some,
    show ∀ s, skipBlanks (':' :: s) = ':' :: s from fun _ => rfl]
  rw [read]
  rfl

/-- The text of a document is read back as the document, up to what follows it. -/
def ReadsBack (depth : Nat) (document : Json) : Prop :=
  ∀ fuel rest, 2 * document.render.toList.length ≤ fuel → Closes rest →
    value? (fuel + 1) depth (document.render.toList ++ rest) = some (document, rest)

/-- Items that are read back one by one are read back as a list, up to what follows the closing bracket. -/
theorem items?_render {items : List Json} (filled : items ≠ []) (each : ∀ item ∈ items, ReadsBack depth item)
    (enough : 2 * (renderItems items).toList.length + 2 ≤ fuel) (done : List Json) (rest : List Char) :
    items? fuel depth done ((renderItems items).toList ++ ']' :: rest) = some (done.reverse ++ items, rest) := by
  -- By the items, each of which leaves enough fuel for those behind its comma.
  induction items generalizing fuel done with
  | nil => exact absurd rfl filled
  | cons item items ih =>
    obtain ⟨fuel, rfl⟩ := Nat.exists_eq_add_of_le' (Nat.le_trans (Nat.le_add_left ..) enough)
    obtain ⟨first, others⟩ := List.forall_mem_cons.mp each
    cases items with
    | nil =>
      rw [renderItems] at enough ⊢
      have read := first fuel (']' :: rest) (by omega) (closes_cons (.inr (.inl rfl)) rest)
      rw [items?_item read done, ← List.reverse_cons]
      rfl
    | cons next items =>
      rw [toList_renderItems, List.length_append, List.length_cons] at enough
      rw [toList_renderItems, List.append_assoc, List.cons_append,
        items?_item (first fuel _ (by omega) (closes_cons (.inl rfl) _)) done]
      exact (ih (by simp) others (by omega) (item :: done)).trans (by simp)

/-- Members that are read back one by one are read back together, up to what follows the closing brace. -/
theorem members?_render {members : List (String × Json)} (filled : members ≠ [])
    (each : ∀ member ∈ members, ReadsBack depth member.2)
    (enough : 2 * (renderMembers members).toList.length + 2 ≤ fuel) (done : List (String × Json)) (rest : List Char) :
    members? fuel depth done ((renderMembers members).toList ++ '\x7d' :: rest) =
      some (done.reverse ++ members, rest) := by
  -- By the members, each of which leaves enough fuel for those behind its comma.
  induction members generalizing fuel done with
  | nil => exact absurd rfl filled
  | cons member members ih =>
    obtain ⟨name, value⟩ := member
    obtain ⟨fuel, rfl⟩ := Nat.exists_eq_add_of_le' (Nat.le_trans (Nat.le_add_left ..) enough)
    obtain ⟨first, others⟩ := List.forall_mem_cons.mp each
    have shorter := length_value_lt name value
    dsimp only at first
    cases members with
    | nil =>
      have read := first fuel ('\x7d' :: rest) (by omega) (closes_cons (.inr (.inr rfl)) rest)
      rw [members?_member name read done, ← List.reverse_cons]
      rfl
    | cons next members =>
      rw [toList_renderMembers, List.length_append, List.length_cons] at enough
      rw [toList_renderMembers, List.append_assoc, List.cons_append,
        members?_member name (first fuel _ (by omega) (closes_cons (.inl rfl) _)) done]
      exact (ih (by simp) others (by omega) ((name, value) :: done)).trans (by simp)

/-- A written document is read back, up to what follows it. -/
theorem readsBack_of_plain {document : Json} (plain : document.Plain depth) : ReadsBack depth document := by
  -- By the form of the document. Items and members are read back with less fuel, which is enough for them.
  induction plain with
  | null => exact fun fuel rest _ _ => rfl
  | bool value => cases value <;> exact fun fuel rest _ _ => rfl
  | int low high => exact fun fuel rest _ closes => value?_int low high closes
  | string text =>
    intro fuel rest _ _
    rw [render, toList_quote]
    exact congrArg (Option.map _) (stringBody?_quote text rest)
  | @array depth items each ih =>
    intro fuel rest enough _
    cases items with
    | nil => rfl
    | cons item items =>
      have written : (render (.array (item :: items))).toList =
          '[' :: ((renderItems (item :: items)).toList ++ [']']) := by simp [render]
      rw [written, List.length_cons, List.length_append, List.length_singleton] at enough
      have read := items?_render (by simp) ih (show _ ≤ fuel by omega) [] rest
      -- What stands behind the bracket is the beginning of the first item.
      obtain ⟨more, items_begin⟩ := renderItems_begins item items
      obtain ⟨first, _, begins, visible, inside⟩ := render_begins (each item (by simp))
      rw [written, List.cons_append, List.append_assoc, List.singleton_append]
      rw [items_begin, begins, List.cons_append, List.cons_append] at read ⊢
      rw [value?_items visible inside, read]
      rfl
  | @object depth members each ih =>
    intro fuel rest enough _
    cases members with
    | nil => rfl
    | cons member members =>
      have written : (render (.object (member :: members))).toList =
          '\x7b' :: ((renderMembers (member :: members)).toList ++ ['\x7d']) := by simp [render]
      rw [written, List.length_cons, List.length_append, List.length_singleton] at enough
      have read := members?_render (by simp) ih (show _ ≤ fuel by omega) [] rest
      obtain ⟨more, begins⟩ := renderMembers_begins member members
      rw [written, List.cons_append, List.append_assoc, List.singleton_append]
      rw [begins] at read ⊢
      exact congrArg (Option.map _) read

/-- A document with less than the limit of brackets is read back from its text. -/
theorem readFirst?_render {document : Json} (plain : document.Plain (nestingLimit - 1)) :
    readFirst? document.render.toList = some (document, []) := by
  have read := readsBack_of_plain plain (2 * document.render.toList.length + 1) [] (by omega) closes_nil
  rwa [List.append_nil] at read

/-- Nothing but the document is read back. -/
theorem readAll?_render {document : Json} (plain : document.Plain (nestingLimit - 1)) :
    readAll? document.render.toList = some document := by
  rw [readAll?, readFirst?_render plain]
  rfl

end Values

section Lengths

/-- A text takes a byte for every character at least. -/
theorem length_le_utf8ByteSize (text : String) : text.length ≤ text.utf8ByteSize := by
  -- By induction on the characters, none of which is written in less than a byte.
  have run (characters : List Char) : characters.length ≤ (String.ofList characters).utf8ByteSize := by
    induction characters with
    | nil => exact Nat.zero_le _
    | cons c rest ih =>
      have byte := c.utf8Size_pos
      rw [← List.singleton_append, String.ofList_append, String.utf8ByteSize_append, List.length_append,
        List.length_singleton, ← String.singleton_eq_ofList, String.utf8ByteSize_singleton]
      omega
  have all := run text.toList
  rwa [String.length_toList, String.ofList_toList] at all

/-- In quotes no character is left out. -/
theorem length_le_quote (text : String) : text.length ≤ (quote text).length := by
  -- Two marks are added to the escaped text.
  have inside := length_le_escaped text.toList
  rw [String.length_toList] at inside
  rw [quote, String.length_ofList, List.length_append, List.length_cons]
  omega

/-- A list of texts is written with all their characters. -/
theorem sum_length_le_renderItems (texts : List String) :
    (texts.map String.length).sum ≤ (renderItems (texts.map .string)).length := by
  induction texts with
  | nil => exact Nat.zero_le _
  | cons text rest ih =>
    have first := length_le_quote text
    -- A comma stands in front of the others, if there are any.
    cases rest with
    | nil => simpa [renderItems, render] using first
    | cons next rest =>
      simp only [List.map_cons, List.sum_cons, renderItems, render, String.length_append] at ih ⊢
      omega

end Lengths

end Harvest.Json
