import Harvest.Identity.Cookie
import Harvest.Proofs.Text.Replacing
import Harvest.Proofs.Text.Splitting
import Harvest.Proofs.Text.Trimming
import Mathlib.Data.List.Induction

/-! Cookies as texts and as pairs. A written cookie is read back as the pairs that were written, so that merging goes
by pairs: a name keeps its place, the last value given to it counts, and new names come in at the end. -/

namespace Harvest.Cookies

/-- A pair that can be told from its written form: neither text ends in white space, the name has no equals sign, and
there is no semicolon. -/
structure Plain (pair : String × String) : Prop where
  name : Text.Trimmed pair.1.toList
  value : Text.Trimmed pair.2.toList
  noEquals : '=' ∉ pair.1.toList
  noSemicolon : ';' ∉ (pairText pair).toList

/-- The written form of a pair, character by character. -/
theorem toList_pairText (pair : String × String) :
    (pairText pair).toList = pair.1.toList ++ '=' :: pair.2.toList := by
  rw [pairText, String.toList_append, String.toList_append, List.append_assoc]
  rfl

section Pair

variable {pair : String × String}

/-- There is no white space at the ends of a written pair. -/
theorem Plain.trimmed (plain : Plain pair) : Text.Trimmed (pairText pair).toList := by
  -- An empty name or value leaves the equals sign at that end.
  rw [toList_pairText]
  exact plain.name.append_cons plain.value (by decide)

/-- A written pair is read back. -/
theorem Plain.read (plain : Plain pair) : pair? (pairText pair).toList = some pair := by
  -- The first sign of the pair is the one between name and value, and neither is trimmed.
  rw [pair?, toList_pairText, Text.cutAt?_append_cons plain.noEquals, Option.map_some]
  dsimp only
  rw [plain.name.trimChars_eq, plain.value.trimChars_eq, String.ofList_toList, String.ofList_toList]

/-- Whatever is read without a semicolon is plain. -/
theorem plain_of_pair? {s : List Char} (noSemicolon : ';' ∉ s) (read : pair? s = some pair) : Plain pair := by
  obtain ⟨⟨name, value⟩, cut, rfl⟩ := Option.map_eq_some_iff.mp read
  obtain ⟨rfl, noEquals⟩ := Text.eq_of_cutAt? cut
  refine ⟨?_, ?_, ?_, ?_⟩
  · rw [String.toList_ofList]
    exact Text.trimmed_trimChars name
  · rw [String.toList_ofList]
    exact Text.trimmed_trimChars value
  · rw [String.toList_ofList]
    exact fun among => noEquals (Text.mem_of_mem_trimChars among)
  · -- Trimming brings no semicolon in, and the equals sign is none.
    intro among
    rw [toList_pairText, String.toList_ofList, String.toList_ofList, List.mem_append, List.mem_cons] at among
    rw [List.mem_append, List.mem_cons] at noSemicolon
    rcases among with inName | isEquals | inValue
    · exact noSemicolon (.inl (Text.mem_of_mem_trimChars inName))
    · exact absurd isEquals (by decide)
    · exact noSemicolon (.inr (.inr (Text.mem_of_mem_trimChars inValue)))

/-- The pair that a server sets is plain. -/
theorem plain_of_setPair? {header : String} (set : setPair? header = some pair) : Plain pair := by
  obtain ⟨read, -⟩ := Option.filter_eq_some_iff.mp set
  refine plain_of_pair? (fun among => ?_) read
  -- Only what stands before the first semicolon is read.
  have before := List.mem_takeWhile_imp (Text.mem_of_mem_trimChars among)
  simp at before

end Pair

/-- The pairs of a written cookie are plain. -/
theorem plain_of_mem_parse {cookie : String} {pair : String × String} (among : pair ∈ parse cookie) : Plain pair := by
  -- A piece has no semicolon, so that none is left in what it is trimmed to.
  obtain ⟨piece, isPiece, read⟩ := List.mem_filterMap.mp among
  refine plain_of_pair? (fun inside => ?_) read
  exact Text.not_mem_of_mem_splitAtChar isPiece (Text.mem_of_mem_trimChars inside)

/-- The pairs in a text. -/
def pairsIn (s : List Char) : Cookies :=
  (Text.splitAtChar ';' s).filterMap fun piece => pair? (Text.trimChars piece)

/-- White space in front makes no difference. -/
theorem pairsIn_cons {c : Char} (white : Text.isBlank c = true) (s : List Char) : pairsIn (c :: s) = pairsIn s := by
  have other : c ≠ ';' := by
    rintro rfl
    exact absurd white (by decide)
  obtain ⟨first, rest, before, after⟩ := Text.splitAtChar_cons ';' c s
  -- The character belongs to the first piece, which is trimmed.
  rw [pairsIn, pairsIn, before, after, if_neg other, List.filterMap_cons, List.filterMap_cons,
    Text.trimChars_cons white]

section Written

variable {pair : String × String} (plain : Plain pair)

include plain

/-- A written pair alone is the only one. -/
theorem Plain.pairsIn_eq : pairsIn (pairText pair).toList = [pair] := by
  -- It has no semicolon, and so it is a single piece.
  rw [pairsIn, Text.splitAtChar_eq_singleton plain.noSemicolon, List.filterMap_cons, plain.trimmed.trimChars_eq,
    plain.read]
  rfl

/-- A written pair ends at the semicolon behind it. -/
theorem Plain.pairsIn_append_cons (s : List Char) :
    pairsIn ((pairText pair).toList ++ ';' :: s) = pair :: pairsIn s := by
  -- The pair has no semicolon of its own, and so the first piece ends there.
  rw [pairsIn, Text.splitAtChar_append_cons plain.noSemicolon, List.filterMap_cons, plain.trimmed.trimChars_eq,
    plain.read]
  rfl

end Written

/-- Plain pairs are read back from their written form. -/
theorem parse_render {cookies : Cookies} (plain : ∀ pair ∈ cookies, Plain pair) : parse (render cookies) = cookies := by
  have mark : "; ".toList = [';', ' '] := by decide
  change pairsIn (render cookies).toList = cookies
  rw [render, Text.join, String.toList_intercalate, mark]
  induction cookies with
  | nil => rfl
  | cons pair rest ih =>
    obtain ⟨here, later⟩ := List.forall_mem_cons.mp plain
    cases rest with
    | nil =>
      rw [List.map_singleton, List.map_singleton, List.intercalate_singleton]
      exact here.pairsIn_eq
    | cons next rest =>
      -- The blank behind the semicolon stands in front of the next pair.
      have others := ih later
      simp only [List.map_cons] at others ⊢
      rw [Text.intercalate_cons_cons, List.cons_append, here.pairsIn_append_cons, List.cons_append, List.nil_append,
        pairsIn_cons (by decide), others]

/-- The names, in the order in which they are sent. -/
def names (cookies : Cookies) : List String :=
  cookies.map Prod.fst

@[simp] theorem names_nil : names [] = [] := rfl

@[simp] theorem names_cons (name value : String) (cookies : Cookies) :
    names ((name, value) :: cookies) = name :: names cookies := rfl

@[simp] theorem names_append (cookies more : Cookies) : names (cookies ++ more) = names cookies ++ names more :=
  List.map_append

/-- The values held under a name. -/
def held (name : String) (cookies : Cookies) : List String :=
  (cookies.filter fun pair => pair.1 = name).map Prod.snd

/-- The values held under a name that others are given to: the last of these takes the place of the first one held. -/
def renewed (values others : List String) : List String :=
  match others.getLast? with
  | some last => last :: values.tail
  | none => values

/-- Gives one name after the other its value. -/
def setAll (cookies pairs : Cookies) : Cookies :=
  pairs.foldl (fun cookies (name, value) => cookies.set name value) cookies

section Held

variable (name value : String) (cookies : Cookies)

@[simp] theorem held_nil : held name [] = [] := rfl

/-- The first pair counts under its own name. -/
@[simp] theorem held_cons_self : held name ((name, value) :: cookies) = value :: held name cookies := by
  simp [held]

/-- A pair of another name does not count. -/
theorem held_cons_of_ne {other : String} (different : other ≠ name) :
    held name ((other, value) :: cookies) = held name cookies := by
  simp [held, different]

/-- The values held in one list and then another. -/
theorem held_append (more : Cookies) : held name (cookies ++ more) = held name cookies ++ held name more := by
  simp [held]

/-- As many values are held under a name as it is there. -/
@[simp] theorem length_held : (held name cookies).length = cookies.names.count name := by
  -- By the pairs, each of which counts if it has the name.
  induction cookies with
  | nil => rfl
  | cons pair rest ih =>
    obtain ⟨other, old⟩ := pair
    by_cases same : other = name
    · subst same
      rw [held_cons_self, List.length_cons, ih, names_cons, List.count_cons_self]
    · rw [held_cons_of_ne _ _ _ same, ih, names_cons, List.count_cons_of_ne same]

/-- No value is held under a name that is not there. -/
theorem held_eq_nil_iff : held name cookies = [] ↔ name ∉ names cookies := by
  rw [← List.length_eq_zero_iff, length_held, List.count_eq_zero]

end Held

section Renewed

variable (values others : List String)

/-- The last of the values given is the one that counts. -/
theorem renewed_append_singleton (last : String) : renewed values (others ++ [last]) = last :: values.tail := by
  rw [renewed, List.getLast?_concat]

/-- The values behind the first one stay. -/
theorem tail_renewed : (renewed values others).tail = values.tail := by
  unfold renewed
  split <;> rfl

/-- Giving the same values again makes no difference. -/
theorem renewed_renewed : renewed (renewed values others) others = renewed values others := by
  unfold renewed
  cases others.getLast? <;> rfl

/-- As many values are held as before, but one at least if any is given. -/
theorem length_renewed : (renewed values others).length = max values.length (if others = [] then 0 else 1) := by
  -- A first value is replaced where there is one, and put in where there is none.
  unfold renewed
  cases given : others.getLast? with
  | none => simp [List.getLast?_eq_none_iff.mp given]
  | some last =>
    have some_ : others ≠ [] := List.ne_nil_of_mem (List.mem_of_getLast? given)
    rw [if_neg some_, List.length_cons, List.length_tail]
    omega

end Renewed

/-- Pairs are told by the order of their names and by the values held under each of them. -/
theorem ext_held {cookies others : Cookies} (order : cookies.names = others.names)
    (same : ∀ name, held name cookies = held name others) : cookies = others := by
  induction cookies generalizing others with
  | nil => exact (List.map_eq_nil_iff.mp order.symm).symm
  | cons pair rest ih =>
    obtain ⟨name, value⟩ := pair
    obtain ⟨⟨name', value'⟩, rest', rfl, sameName, later⟩ := List.map_eq_cons_iff.mp order.symm
    obtain rfl : name' = name := sameName
    -- The first values are the first ones held under the first name.
    have first := same name'
    rw [held_cons_self, held_cons_self] at first
    obtain ⟨rfl, -⟩ := List.cons.inj first
    rw [ih later.symm fun other => ?_]
    have here := same other
    by_cases own : name' = other
    · subst own
      rw [held_cons_self, held_cons_self] at here
      exact (List.cons.inj here).2
    · rwa [held_cons_of_ne _ _ _ own, held_cons_of_ne _ _ _ own] at here

section Set

variable (name value : String) (cookies : Cookies)

/-- A name that is present keeps its place, and a new one comes in at the end. -/
theorem names_set : (cookies.set name value).names =
    if name ∈ cookies.names then cookies.names else cookies.names ++ [name] := by
  induction cookies with
  | nil => rfl
  | cons pair rest ih =>
    obtain ⟨other, old⟩ := pair
    by_cases same : other = name
    · simp [set, same]
    · -- The name is sought among the pairs that follow.
      rw [set, if_neg same, names_cons, names_cons, ih]
      simp only [List.mem_cons, Ne.symm same, false_or]
      split <;> rfl

/-- The value takes the place of the first one held under its name. -/
theorem held_set_self : held name (cookies.set name value) = value :: (held name cookies).tail := by
  -- By the pairs up to the first one of that name.
  induction cookies with
  | nil => simp [set]
  | cons pair rest ih =>
    obtain ⟨other, old⟩ := pair
    by_cases same : other = name
    · subst same
      rw [set, if_pos rfl, held_cons_self, held_cons_self, List.tail_cons]
    · rw [set, if_neg same, held_cons_of_ne _ _ _ same, held_cons_of_ne _ _ _ same, ih]

/-- The values held under other names stay. -/
theorem held_set_of_ne {other : String} (different : name ≠ other) :
    held other (cookies.set name value) = held other cookies := by
  -- By the pairs, up to the one that is replaced.
  induction cookies with
  | nil => rw [set, held_cons_of_ne _ _ _ different]
  | cons pair rest ih =>
    obtain ⟨first, old⟩ := pair
    rw [set]
    split
    · rename_i same
      rw [same, held_cons_of_ne _ _ _ different, held_cons_of_ne _ _ _ different]
    · by_cases own : first = other
      · subst own
        rw [held_cons_self, held_cons_self, ih]
      · rw [held_cons_of_ne _ _ _ own, held_cons_of_ne _ _ _ own, ih]

/-- A pair is the one that was set, or was there before. -/
theorem mem_of_mem_set {pair : String × String} (among : pair ∈ cookies.set name value) :
    pair ∈ cookies ∨ pair = (name, value) := by
  -- By the pairs, up to the one that is replaced.
  induction cookies with
  | nil => exact .inr (List.mem_singleton.mp among)
  | cons first rest ih =>
    obtain ⟨other, old⟩ := first
    rw [set] at among
    split at among
    · rcases List.mem_cons.mp among with new | later
      · exact .inr new
      · exact .inl (List.mem_cons_of_mem _ later)
    · rcases List.mem_cons.mp among with here | later
      · exact .inl (here ▸ List.mem_cons_self)
      · exact (ih later).imp_left (List.mem_cons_of_mem _)

end Set

section SetAll

variable (cookies pairs : Cookies)

/-- The last pair is set last. -/
theorem setAll_append_singleton (name value : String) :
    cookies.setAll (pairs ++ [(name, value)]) = (cookies.setAll pairs).set name value := by
  rw [setAll, List.foldl_append]
  rfl

/-- Giving values in two turns is giving them in one. -/
theorem setAll_append (more : Cookies) : cookies.setAll (pairs ++ more) = (cookies.setAll pairs).setAll more :=
  List.foldl_append

/-- Names that are present keep their places, and new ones come in at the end in the order in which they first
appear. -/
theorem names_setAll : (cookies.setAll pairs).names =
    cookies.names ++ (names pairs).eraseDups.filter fun name => name ∉ cookies.names := by
  -- The last pair brings a new name in, unless that one has been there before.
  induction pairs using List.reverseRecOn with
  | nil => simp [setAll]
  | append_singleton pairs pair ih =>
    obtain ⟨name, value⟩ := pair
    rw [setAll_append_singleton, names_set, ih, names_append, List.eraseDups_append, List.filter_append]
    have appears : name ∈ cookies.names ++ (names pairs).eraseDups.filter (fun name => name ∉ cookies.names) ↔
        name ∈ cookies.names ∨ name ∈ names pairs := by
      rw [List.mem_append, List.mem_filter, List.mem_eraseDups, decide_eq_true_eq]
      tauto
    by_cases old : name ∈ cookies.names
    · rw [if_pos (appears.mpr (.inl old))]
      by_cases given : name ∈ names pairs <;> simp [List.removeAll, given, old, List.eraseDups_cons]
    · by_cases given : name ∈ names pairs
      · rw [if_pos (appears.mpr (.inr given))]
        simp [List.removeAll, given]
      · rw [if_neg (fun among => (appears.mp among).elim old given)]
        simp [List.removeAll, given, old, List.eraseDups_cons]

/-- The last value given to a name takes the place of the first one that was held, and a name that is given none keeps
its values. -/
theorem held_setAll (name : String) :
    held name (cookies.setAll pairs) = renewed (held name cookies) (held name pairs) := by
  -- By the pairs from the end, since the last one of a name counts.
  induction pairs using List.reverseRecOn with
  | nil => rfl
  | append_singleton pairs pair ih =>
    obtain ⟨other, value⟩ := pair
    rw [setAll_append_singleton, held_append]
    by_cases own : other = name
    · subst own
      rw [held_set_self, ih, held_cons_self, held_nil, renewed_append_singleton, tail_renewed]
    · rw [held_set_of_ne _ _ _ own, held_cons_of_ne _ _ _ own, held_nil, List.append_nil, ih]

/-- Giving the same values once more changes nothing. -/
theorem setAll_setAll : (cookies.setAll pairs).setAll pairs = cookies.setAll pairs := by
  refine ext_held ?_ fun name => ?_
  · -- No name is new the second time.
    rw [names_setAll _ pairs]
    have known : ((names pairs).eraseDups.filter fun name => name ∉ (cookies.setAll pairs).names) = [] := by
      rw [List.filter_eq_nil_iff]
      intro name given
      rw [List.mem_eraseDups] at given
      by_cases old : name ∈ cookies.names <;> simp [names_setAll, given, old]
    rw [known, List.append_nil]
  · rw [held_setAll _ pairs, held_setAll, renewed_renewed]

end SetAll

/-- Plain pairs stay plain when plain values are given to names. -/
theorem plain_of_mem_setAll {cookies pairs : Cookies} (old : ∀ pair ∈ cookies, Plain pair)
    (new : ∀ pair ∈ pairs, Plain pair) : ∀ pair ∈ cookies.setAll pairs, Plain pair := by
  -- By the pairs from the end, each of which is set on its own.
  induction pairs using List.reverseRecOn with
  | nil => exact old
  | append_singleton pairs last ih =>
    rw [List.forall_mem_append, List.forall_mem_singleton] at new
    rw [setAll_append_singleton]
    intro pair among
    rcases mem_of_mem_set _ _ _ among with before | rfl
    · exact ih new.1 pair before
    · exact new.2

/-- The pairs that a server sets. -/
def given (headers : List String) : Cookies :=
  headers.filterMap setPair?

/-- The pairs that a server sets are plain. -/
theorem plain_of_mem_given {headers : List String} {pair : String × String} (among : pair ∈ given headers) :
    Plain pair := by
  obtain ⟨header, -, set⟩ := List.mem_filterMap.mp among
  exact plain_of_setPair? set

/-- Merging writes the pairs down again, unless there is nothing to merge. -/
theorem merge_eq (cookie : String) (headers : List String) : merge cookie headers =
    if given headers = [] then cookie else render ((parse cookie).setAll (given headers)) := by
  -- Merging looks at whether any header sets a pair.
  unfold merge
  cases pairs : headers.filterMap setPair? with
  | nil => rw [given, pairs, if_pos rfl]
  | cons first rest =>
    rw [given, pairs, if_neg (List.cons_ne_nil _ _)]
    rfl

/-- The pairs of a merged cookie are the old ones with the new values given. -/
theorem parse_merge (cookie : String) (headers : List String) :
    parse (merge cookie headers) = (parse cookie).setAll (given headers) := by
  -- What was written down is read back, since all pairs stay plain.
  rw [merge_eq]
  split
  · rename_i none_
    rw [none_]
    rfl
  · refine parse_render (plain_of_mem_setAll (fun _ => plain_of_mem_parse) fun _ => plain_of_mem_given)

/-- The pairs of a cookie made of what a server sets are those that it sets. -/
theorem parse_ofHeaders (headers : List String) : parse (ofHeaders headers) = given headers :=
  parse_render fun _ => plain_of_mem_given

/-- The headers of two replies set the pairs of the first and then those of the second. -/
theorem given_append (earlier later : List String) : given (earlier ++ later) = given earlier ++ given later :=
  List.filterMap_append

/-- Merging the headers of two replies is merging those of the first and then those of the second. -/
theorem merge_append (cookie : String) (earlier later : List String) :
    merge cookie (earlier ++ later) = merge (merge cookie earlier) later := by
  rw [merge_eq _ later, parse_merge, merge_eq, merge_eq, given_append, setAll_append]
  -- A reply that sets nothing leaves the cookie as it is written.
  by_cases first : given earlier = []
  · by_cases second : given later = []
    · simp [first, second]
    · rw [first, List.nil_append, if_neg second, if_neg second]
  · by_cases second : given later = []
    · rw [second, List.append_nil, if_neg first, if_pos rfl, if_neg first]
      rfl
    · rw [if_neg (fun none_ => first (List.append_eq_nil_iff.mp none_).1), if_neg second]

end Harvest.Cookies
