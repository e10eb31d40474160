import Harvest.Proofs.Identity.Cookie
import Harvest.Proofs.Identity.Pairs
import Harvest.Proofs.Identity.Rotation
import Mathlib.Data.List.Nodup

/-! The cookie in use: what a server sets is merged into it pair by pair, and now and then it gives way to one out of
the jar. A name is held as often as in the cookie that was taken up last, however much is merged into that. -/

namespace Harvest.Identity

open Cookies

/-- What merging makes of a cookie with some pairs when a server sends others. -/
structure Merges (cookie merged : String) (old sent new : Cookies) : Prop where
  /-- The pairs are written down with their new values, unless none are sent. -/
  written : merged = if sent = [] then cookie else render new
  /-- They stand in the cookie as they were written. -/
  read : Holds merged new
  /-- Names that are present keep their places, and new ones come in at the end in the order in which they first
  appear. -/
  names : new.names = old.names ++ sent.names.eraseDups.filter fun name => name ∉ old.names
  /-- The last value that is sent takes the place of the first one held under its name. -/
  values : ∀ name, held name new = renewed (held name old) (held name sent)

/-- Merging goes by the pairs that stand in the cookie and those that the headers set, whatever their texts. -/
theorem exists_merges (cookie : String) (headers : List String) :
    ∃ old sent new, Holds cookie old ∧ SetsPairs headers sent ∧
      Merges cookie (merge cookie headers) old sent new := by
  -- The pairs are those that the code reads, which are the ones that stand there.
  refine ⟨parse cookie, given headers, (parse cookie).setAll (given headers), holds_iff.mpr rfl,
    setsPairs_iff.mpr rfl, ?_⟩
  exact {
    written := merge_eq cookie headers
    read := holds_iff.mpr (parse_merge cookie headers).symm
    names := names_setAll _ _
    values := held_setAll _ _ }

/-- Merging what is there already changes nothing. -/
theorem merge_merge (cookie : String) (headers : List String) :
    merge (merge cookie headers) headers = merge cookie headers := by
  -- The values that are given once more are held already.
  rw [merge_eq _ headers, parse_merge, setAll_setAll]
  split
  · rfl
  · rename_i some_
    rw [merge_eq, if_neg some_]

/-- Merging the headers of two replies is merging them one after the other, merging them once more changes nothing, and
each time the pairs are found again as they were written. -/
theorem merging_composes (identity : Identity) (earlier later : List String) :
    identity.mergeCookies (earlier ++ later) = (identity.mergeCookies earlier).mergeCookies later ∧
      (identity.mergeCookies earlier).mergeCookies earlier = identity.mergeCookies earlier ∧
      (∃ old sent new, Holds identity.cookie old ∧ SetsPairs earlier sent ∧
        Merges identity.cookie (identity.mergeCookies earlier).cookie old sent new) ∧
      ∃ sent, SetsPairs earlier sent ∧ Holds (ofHeaders earlier) sent := by
  -- Giving values in two goes, or twice, is giving them once.
  refine ⟨?_, ?_, exists_merges identity.cookie earlier, given earlier, setsPairs_iff.mpr rfl,
    holds_iff.mpr (parse_ofHeaders earlier).symm⟩
  · rw [mergeCookies, merge_append]
    rfl
  · rw [mergeCookies, mergeCookies, merge_merge]

/-- A cookie with two pairs, in the loose form in which it may stand in a jar. -/
def sampleIdentity : Identity :=
  { cookie := " a = 1;b=2; flag" }

/-- A reply that gives one of the names another value, brings a new one, and sets two headers of no use. -/
def sampleReply : List String :=
  ["b=3; Path=/", "=4", "c = x=y ;Secure", "flag"]

/-- The pairs of the reply are merged into the loose cookie, which is written down properly by that. -/
theorem merging_composes_sampleReply :
    (sampleIdentity.mergeCookies sampleReply).cookie = "a=1; b=3; c=x=y" ∧
      Holds sampleIdentity.cookie [("a", "1"), ("b", "2")] ∧
      SetsPairs sampleReply [("b", "3"), ("c", "x=y")] ∧
      Holds (ofHeaders sampleReply) [("b", "3"), ("c", "x=y")] ∧
      (sampleIdentity.mergeCookies sampleReply).mergeCookies sampleReply =
        sampleIdentity.mergeCookies sampleReply := by
  -- Reading the reply tells which pairs it sets, and there are no others.
  obtain ⟨-, again, -, sent, sets, holds⟩ := merging_composes sampleIdentity sampleReply []
  have pairs : [("b", "3"), ("c", "x=y")] = sent := (setsPairs_iff.mp sets).trans (by decide +kernel) |>.symm
  rw [← pairs] at sets holds
  exact ⟨by decide +kernel, holds_iff.mpr (by decide +kernel), sets, holds, again⟩

/-- What a server sets with an event. -/
def Event.headers : Event → List String
  | .sets headers => headers
  | _ => []

/-- The jar that was last put in is the one of an event, or empty. -/
theorem lastGiven_mem (events : List Event) :
    lastGiven events = ([], []) ∨ Event.replaces (lastGiven events).1 (lastGiven events).2 ∈ events := by
  -- By the events from the end, since the last jar counts.
  induction events using List.reverseRecOn with
  | nil => exact .inl rfl
  | append_singleton events event ih =>
    rw [lastGiven, List.foldl_append]
    cases event with
    | replaces pool jar => exact .inr (List.mem_append_right _ (List.mem_singleton_self _))
    | fails failure => exact ih.imp_right (List.mem_append_left _)
    | sets headers => exact ih.imp_right (List.mem_append_left _)

/-- A cookie in the jar was put there. -/
theorem exists_of_mem_jar {settings : ProxySettings} {events : List Event} {entry : String}
    (inside : entry ∈ (after settings events).jar) : ∃ pool jar, Event.replaces pool jar ∈ events ∧ entry ∈ jar := by
  -- What is left of a jar is a suffix of what was put in.
  have among : entry ∈ (lastGiven events).2 := (left_of_given settings events).2.2.subset inside
  rcases lastGiven_mem events with none_ | isEvent
  · rw [none_] at among
    cases among
  · exact ⟨_, _, isEvent, among⟩

/-- The cookie in use goes back to one that was taken up after the first of the events. From then on it has only been
merged into. -/
structure Source (settings : ProxySettings) (before since : List Event) (entry : String) : Prop where
  /-- It was put into the jar, unless none has been taken up yet. -/
  origin : before = [] ∧ entry = "" ∨ ∃ pool jar, Event.replaces pool jar ∈ before ∧ entry ∈ jar
  taken : (after settings before).cookie = entry
  merged : (after settings (before ++ since)).cookie = merge entry (since.flatMap Event.headers)

/-- An event that takes no cookie out of the jar leaves the source as it was. -/
theorem Source.append_singleton {settings : ProxySettings} {before since : List Event} {entry : String}
    (source : Source settings before since entry) {event : Event}
    (kept : (after settings (before ++ since ++ [event])).cookie =
      merge (after settings (before ++ since)).cookie event.headers) :
    Source settings before (since ++ [event]) entry := by
  refine ⟨source.origin, source.taken, ?_⟩
  rw [← List.append_assoc, kept, source.merged, ← merge_append, List.flatMap_append, List.flatMap_singleton]

/-- A failure takes a cookie out of the jar, or leaves the one in use. -/
theorem cookie_step_fails (settings : ProxySettings) (identity : Identity) (failure : Failure) :
    (identity.step settings (.fails failure)).cookie ∈ identity.jar ∨
      (identity.step settings (.fails failure)).cookie = identity.cookie := by
  rw [step_fails]
  split
  · dsimp only
    split
    · -- Nothing can be taken from an empty jar.
      cases jar : identity.jar with
      | nil => exact .inr rfl
      | cons first rest => exact .inl List.mem_cons_self
    · exact .inr rfl
  · exact .inr rfl

/-- An event takes a cookie out of the jar, or what a server sets with it is merged into the one in use. -/
theorem cookie_step (settings : ProxySettings) (identity : Identity) (event : Event) :
    (identity.step settings event).cookie ∈ identity.jar ∨
      (identity.step settings event).cookie = merge identity.cookie event.headers := by
  -- Only a server sets anything, and merging nothing changes nothing.
  cases event with
  | fails failure => exact cookie_step_fails settings identity failure
  | sets headers => exact .inr rfl
  | replaces pool jar => exact .inr rfl

/-- Every cookie in use has a source. -/
theorem exists_source (settings : ProxySettings) (events : List Event) :
    ∃ before since entry, before ++ since = events ∧ Source settings before since entry := by
  induction events using List.reverseRecOn with
  | nil => exact ⟨[], [], "", rfl, .inl ⟨rfl, rfl⟩, rfl, rfl⟩
  | append_singleton events event ih =>
    obtain ⟨before, since, entry, rfl, source⟩ := ih
    have next := after_append_singleton settings (before ++ since) event
    rcases cookie_step settings (after settings (before ++ since)) event with taken | merged
    · -- The cookie out of the jar is the new source.
      rw [← next] at taken
      obtain ⟨pool, jar, isEvent, among⟩ := exists_of_mem_jar taken
      refine ⟨before ++ since ++ [event], [], _, List.append_nil _,
        .inr ⟨pool, jar, List.mem_append_left _ isEvent, among⟩, rfl, ?_⟩
      rw [List.append_nil]
      rfl
    · rw [← next] at merged
      exact ⟨before, since ++ [event], entry, (List.append_assoc _ _ _).symm, source.append_singleton merged⟩

/-- The pairs of the cookie in use. -/
def cookies (settings : ProxySettings) (events : List Event) : Cookies :=
  parse (after settings events).cookie

/-- What the cookie in use holds under its names. -/
structure Holding (settings : ProxySettings) (events : List Event) : Prop where
  /-- A name is there as often as in the cookie that was taken up last, and once at least if a server has set it since
  then. -/
  counts : ∃ before since entry, before ++ since = events ∧ Source settings before since entry ∧
    ∀ name, (cookies settings events).names.count name =
      max ((parse entry).names.count name) (if name ∈ (given (since.flatMap Event.headers)).names then 1 else 0)
  /-- The last value that a server sets for a name takes the place of the first one held, and the others stay. -/
  renews : ∀ headers name last, (held name (given headers)).getLast? = some last →
    held name (cookies settings (events ++ [.sets headers])) = last :: (held name (cookies settings events)).tail
  /-- So if in no cookie that is put into the jar a name is there twice, then it is not in the cookie in use either, and
  the last value that a server sets for a name is the only one held. -/
  single : (∀ pool jar, Event.replaces pool jar ∈ events → ∀ entry ∈ jar, (parse entry).names.Nodup) →
    (cookies settings events).names.Nodup ∧
      ∀ headers name last, (held name (given headers)).getLast? = some last →
        held name (cookies settings (events ++ [.sets headers])) = [last]
  /-- A cookie that is made of the headers of a reply has the pairs that they set, as often as they do. -/
  made : ∀ headers, parse (ofHeaders headers) = given headers

/-- The pairs after a server has set some. -/
theorem cookies_append_sets (settings : ProxySettings) (events : List Event) (headers : List String) :
    cookies settings (events ++ [.sets headers]) = (cookies settings events).setAll (given headers) := by
  rw [cookies, after_append_singleton]
  exact parse_merge _ headers

/-- Merging keeps the number of values held under a name, unless there is none and a server sets one. -/
theorem count_merge (entry : String) (headers : List String) (name : String) :
    (parse (merge entry headers)).names.count name =
      max ((parse entry).names.count name) (if name ∈ (given headers).names then 1 else 0) := by
  rw [← length_held, parse_merge, held_setAll, length_renewed, length_held]
  simp only [held_eq_nil_iff, ite_not]

/-- The cookie in use holds a name as often as the one that was taken up last, whatever has been merged into that. -/
theorem names_held (settings : ProxySettings) (events : List Event) : Holding settings events := by
  obtain ⟨before, since, entry, whole, source⟩ := exists_source settings events
  have counts : ∀ name, (cookies settings events).names.count name =
      max ((parse entry).names.count name) (if name ∈ (given (since.flatMap Event.headers)).names then 1 else 0) := by
    intro name
    rw [cookies, ← whole, source.merged]
    exact count_merge entry _ name
  have renews : ∀ headers name last, (held name (given headers)).getLast? = some last →
      held name (cookies settings (events ++ [.sets headers])) =
        last :: (held name (cookies settings events)).tail := by
    intro headers name last set
    rw [cookies_append_sets, held_setAll, renewed, set]
  refine ⟨⟨before, since, entry, whole, source, counts⟩, renews, fun distinct => ?_, parse_ofHeaders⟩
  -- The cookie that was taken up last is one of those that were put into the jar, or empty.
  have taken : (parse entry).names.Nodup := by
    rcases source.origin with ⟨-, rfl⟩ | ⟨pool, jar, isEvent, among⟩
    · exact List.nodup_nil
    · exact distinct pool jar (whole ▸ List.mem_append_left since isEvent) entry among
  have once : ∀ name, (cookies settings events).names.count name ≤ 1 := by
    intro name
    have twice := List.nodup_iff_count_le_one.mp taken name
    rw [counts name]
    split <;> omega
  refine ⟨List.nodup_iff_count_le_one.mpr once, fun headers name last set => ?_⟩
  -- Of one value nothing stays when another takes its place.
  have none_left : (held name (cookies settings events)).tail.length = 0 := by
    have few := once name
    rw [← length_held] at few
    rw [List.length_tail]
    omega
  rw [renews headers name last set, List.eq_nil_of_length_eq_zero none_left]

/-- One reply sets two values for a name, and the cookie that is made of it is put into the jar and taken up. -/
def sampleRepeated : List Event :=
  [.replaces ["a"] [ofHeaders ["x=1; Path=/", "x=2"]], .fails ⟨0, false, true⟩]

/-- The cookie that is taken up then holds both values, and a third one that a server sets takes the place of the first
only. -/
theorem repeated_name_held :
    (cookies sampleSettings sampleRepeated).names = ["x", "x"] ∧
      held "x" (cookies sampleSettings (sampleRepeated ++ [.sets ["x=3"]])) = ["3", "2"] ∧
      (after sampleSettings (sampleRepeated ++ [.sets ["x=3"]])).cookie = "x=3; x=2" := by
  decide +kernel

end Harvest.Identity
