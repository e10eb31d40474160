import Harvest.Identity.Cookie
import Harvest.Proofs.Text.Splitting
import Harvest.Proofs.Text.Trimming

/-! Which pairs stand in a cookie and which ones a header sets. Both are told by how the text is cut, at the semicolons
and at the first equals sign, and by what is white space; reading finds exactly these. -/

namespace Harvest.Cookies

section Piece

/-- A piece of a text is a name and a value around its first equals sign, apart from the white space around both. -/
def IsPair (piece : List Char) (pair : String × String) : Prop :=
  ∃ name value, piece = name ++ '=' :: value ∧ '=' ∉ name ∧ Text.TrimsTo name pair.1.toList ∧
    Text.TrimsTo value pair.2.toList

variable {piece : List Char} {pair : String × String}

/-- What is left of a text without the white space around it, as a string. -/
theorem trimsTo_toList_iff {s : List Char} {text : String} :
    Text.TrimsTo s text.toList ↔ String.ofList (Text.trimChars s) = text := by
  rw [Text.trimsTo_iff, ← String.toList_inj, String.toList_ofList, eq_comm]

/-- Reading a piece finds its name and value. -/
theorem isPair_iff : IsPair piece pair ↔ pair? piece = some pair := by
  -- The piece is cut at its first equals sign, and both sides are trimmed.
  constructor
  · rintro ⟨name, value, rfl, first, isName, isValue⟩
    rw [pair?, Text.cutAt?_append_cons first, Option.map_some]
    dsimp only
    rw [trimsTo_toList_iff.mp isName, trimsTo_toList_iff.mp isValue]
  · intro read
    obtain ⟨⟨name, value⟩, cut, rfl⟩ := Option.map_eq_some_iff.mp read
    obtain ⟨whole, first⟩ := Text.eq_of_cutAt? cut
    exact ⟨name, value, whole, first, trimsTo_toList_iff.mpr rfl, trimsTo_toList_iff.mpr rfl⟩

/-- A piece with an equals sign is a pair. -/
theorem exists_isPair (marked : '=' ∈ piece) : ∃ pair, IsPair piece pair := by
  obtain ⟨name, value, rfl, first⟩ := List.eq_append_cons_of_mem marked
  exact ⟨(_, _), name, value, rfl, first, trimsTo_toList_iff.mpr rfl, trimsTo_toList_iff.mpr rfl⟩

/-- No equals sign stands in white space. -/
theorem not_mem_of_white {s : List Char} (white : ∀ c ∈ s, c ∈ Text.whiteSpace) : '=' ∉ s :=
  fun among => absurd (white _ among) (by decide)

/-- A piece with white space around it is the same pair. -/
theorem IsPair.append (isPair : IsPair piece pair) {before behind : List Char}
    (front : ∀ c ∈ before, c ∈ Text.whiteSpace) (back : ∀ c ∈ behind, c ∈ Text.whiteSpace) :
    IsPair (before ++ piece ++ behind) pair := by
  -- No white space is an equals sign, so that the first one stays where it is.
  obtain ⟨name, value, rfl, first, isName, isValue⟩ := isPair
  refine ⟨before ++ name, value ++ behind, by simp, ?_, ?_, ?_⟩
  · exact fun among => (List.mem_append.mp among).elim (not_mem_of_white front) first
  · simpa using isName.append front (List.forall_mem_nil _)
  · simpa using isValue.append (List.forall_mem_nil _) back

/-- White space around a piece makes no difference to what is read. -/
theorem pair?_trimChars (piece : List Char) : pair? (Text.trimChars piece) = pair? piece := by
  obtain ⟨⟨before, behind, whole, front, back⟩, -, -⟩ := Text.trimsTo_iff.mpr (Eq.refl (Text.trimChars piece))
  refine Option.ext fun pair => ?_
  rw [← isPair_iff, ← isPair_iff]
  have around {found : String × String} (inner : IsPair (Text.trimChars piece) found) : IsPair piece found := by
    rw [whole]
    exact inner.append front back
  refine ⟨around, fun outer => ?_⟩
  -- The equals sign stands between the white space, and a piece is one pair only.
  have marked : '=' ∈ piece := by
    obtain ⟨name, value, same, -⟩ := outer
    rw [same]
    exact List.mem_append_right _ List.mem_cons_self
  rw [whole, List.mem_append, List.mem_append, or_iff_left (not_mem_of_white back),
    or_iff_right (not_mem_of_white front)] at marked
  obtain ⟨other, inner⟩ := exists_isPair marked
  rwa [Option.some.inj ((isPair_iff.mp outer).symm.trans (isPair_iff.mp (around inner)))]

end Piece

/-- The pairs that come of things in their order, those that none comes of left out. -/
inductive Gathered {α : Type} (gives : α → String × String → Prop) : List α → Cookies → Prop
  | nil : Gathered gives [] []
  | given {one : α} {rest : List α} {pair : String × String} {pairs : Cookies} (here : gives one pair)
      (later : Gathered gives rest pairs) : Gathered gives (one :: rest) (pair :: pairs)
  | none {one : α} {rest : List α} {pairs : Cookies} (nothing : ∀ pair, ¬ gives one pair)
      (later : Gathered gives rest pairs) : Gathered gives (one :: rest) pairs

/-- Pairs are gathered by reading one thing after the other. -/
theorem gathered_iff {α : Type} {gives : α → String × String → Prop} {read : α → Option (String × String)}
    (told : ∀ one pair, gives one pair ↔ read one = some pair) {list : List α} {pairs : Cookies} :
    Gathered gives list pairs ↔ pairs = list.filterMap read := by
  -- By the list, each entry of which gives the pair that is read from it, or none.
  induction list generalizing pairs with
  | nil =>
    constructor
    · rintro ⟨⟩
      rfl
    · rintro rfl
      exact .nil
  | cons one rest ih =>
    constructor
    · rintro (_ | ⟨here, later⟩ | ⟨nothing, later⟩)
      · rw [List.filterMap_cons_some ((told _ _).mp here), ih.mp later]
      · have unread : read one = none := Option.eq_none_iff_forall_ne_some.mpr fun pair => nothing pair ∘ (told _ _).mpr
        rw [List.filterMap_cons_none unread, ih.mp later]
    · rintro rfl
      cases found : read one with
      | none =>
        rw [List.filterMap_cons_none found]
        exact .none (fun pair gives => by simp [(told _ _).mp gives] at found) (ih.mpr rfl)
      | some pair =>
        rw [List.filterMap_cons_some found]
        exact .given ((told _ _).mpr found) (ih.mpr rfl)

/-- The pairs that stand in a written cookie, in its pieces between the semicolons. -/
def Holds (cookie : String) (pairs : Cookies) : Prop :=
  ∃ pieces, Text.Cut [';'] cookie.toList pieces ∧ Gathered IsPair pieces pairs

/-- Reading a written cookie finds the pairs that stand in it. -/
theorem holds_iff {cookie : String} {pairs : Cookies} : Holds cookie pairs ↔ pairs = parse cookie := by
  -- The pieces are those that the text is cut into, for there is only one way to cut it.
  have gathered {pieces : List (List Char)} :=
    @gathered_iff _ IsPair (fun piece => pair? (Text.trimChars piece))
      (fun piece pair => by rw [isPair_iff, pair?_trimChars]) pieces pairs
  constructor
  · rintro ⟨pieces, cut, each⟩
    rw [gathered.mp each, cut.unique (Text.cut_splitAtChar ';' _)]
    rfl
  · exact fun same => ⟨_, Text.cut_splitAtChar ';' _, gathered.mpr same⟩

/-- The pair that a header sets, in its first piece; the name is not empty. -/
def SetsPair (header : String) (pair : String × String) : Prop :=
  ∃ piece attributes, Text.Cut [';'] header.toList (piece :: attributes) ∧ IsPair piece pair ∧ pair.1 ≠ ""

/-- Reading a header finds the pair that it sets. -/
theorem setsPair_iff {header : String} {pair : String × String} :
    SetsPair header pair ↔ setPair? header = some pair := by
  -- A header is cut in one way only, and its first piece is the one that is read.
  obtain ⟨others, pieces⟩ := Text.exists_splitAtChar ';' header.toList
  have cut := Text.cut_splitAtChar ';' header.toList
  rw [setPair?, pair?_trimChars, Option.filter_eq_some_iff, ← isPair_iff, decide_eq_true_eq]
  constructor
  · rintro ⟨piece, attributes, cut', isPair, named⟩
    obtain ⟨rfl, -⟩ := List.cons.inj ((cut'.unique cut).trans pieces)
    exact ⟨isPair, named⟩
  · rintro ⟨isPair, named⟩
    exact ⟨_, _, pieces ▸ cut, isPair, named⟩

/-- The pairs that a server sets with some headers. -/
def SetsPairs (headers : List String) (pairs : Cookies) : Prop :=
  Gathered SetsPair headers pairs

/-- Reading headers finds the pairs that are set with them. -/
theorem setsPairs_iff {headers : List String} {pairs : Cookies} :
    SetsPairs headers pairs ↔ pairs = headers.filterMap setPair? :=
  @gathered_iff _ SetsPair setPair? (fun _ _ => setsPair_iff) headers pairs

end Harvest.Cookies
