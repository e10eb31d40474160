import Harvest.Identity.Basic
import Mathlib.Data.List.DropRight
import Mathlib.Data.List.Induction

/-! What an identity has been through: the failures that it met, those that it let through, and those that it held
back. The count and the time that it keeps are read off this history. -/

namespace Harvest.Identity

/-- A failure: when it is counted, and what it asks to change. -/
structure Failure where
  now : Nat
  proxy : Bool
  cookie : Bool
  deriving DecidableEq, Repr

/-- What may happen to an identity. -/
inductive Event where
  | fails (failure : Failure)
  | sets (headers : List String)
  | replaces (pool jar : List String)

/-- The identity after an event. -/
def step (settings : ProxySettings) (identity : Identity) : Event → Identity
  | .fails failure => (identity.rotate settings failure.now failure.proxy failure.cookie).2
  | .sets headers => identity.mergeCookies headers
  | .replaces pool jar => identity.replace pool jar

/-- A new identity after a series of events. -/
def after (settings : ProxySettings) (events : List Event) : Identity :=
  events.foldl (step settings) {}

/-- One event more is one step more. -/
theorem after_append_singleton (settings : ProxySettings) (events : List Event) (event : Event) :
    after settings (events ++ [event]) = (after settings events).step settings event := by
  -- A series of events is worked off from its front.
  simp [after]

/-- A failure and the identity that it meets. -/
structure Encounter where
  failure : Failure
  met : Identity

namespace Encounter

variable (settings : ProxySettings) (encounter : Encounter)

/-- Is the identity told to have changed? -/
def rotates : Bool :=
  (encounter.met.rotate settings encounter.failure.now encounter.failure.proxy encounter.failure.cookie).1

/-- Can anything change of what the failure asks to change? -/
def isFruitful : Bool :=
  (encounter.failure.proxy && 1 < encounter.met.pool.length) ||
    (encounter.failure.cookie && !encounter.met.jar.isEmpty)

/-- Has the identity been kept for long enough, or are the failures too many? -/
def isLet : Bool :=
  encounter.met.dwellPassed settings encounter.failure.now ||
    settings.failureThreshold ≤ encounter.met.failures + 1

/-- A failure is let through after the time, or if it is one too many. -/
theorem isLet_eq_true_iff : encounter.isLet settings = true ↔
    encounter.met.dwellPassed settings encounter.failure.now = true ∨
      settings.failureThreshold ≤ encounter.met.failures + 1 := by
  rw [isLet, Bool.or_eq_true, decide_eq_true_eq]

/-- A failure is held back before the time, unless it is one too many. -/
theorem held_eq : (!encounter.met.dwellPassed settings encounter.failure.now &&
    decide (encounter.met.failures + 1 < settings.failureThreshold)) = !encounter.isLet settings := by
  -- The code asks whether the count is below the threshold, and the other way round here.
  have fewer : decide (encounter.met.failures + 1 < settings.failureThreshold) =
      !decide (settings.failureThreshold ≤ encounter.met.failures + 1) := by
    rw [← decide_not]
    exact decide_eq_decide.mpr Nat.not_le.symm
  rw [isLet, Bool.not_or, fewer]

/-- An identity changes if it lets the failure through and there is something to change. -/
theorem rotates_eq : encounter.rotates settings = (encounter.isLet settings && encounter.isFruitful) := by
  -- A failure that is held back leaves the proxy and the cookie.
  unfold rotates rotate
  simp only [held_eq]
  cases encounter.isLet settings with
  | false => rfl
  | true => rfl

end Encounter

section Step

variable (settings : ProxySettings) (identity : Identity) (failure : Failure)

/-- A proxy that is dropped is all that changes. -/
theorem dropProxy_eq : identity.dropProxy =
    { identity with pool := if 1 < identity.pool.length then identity.pool.tail else identity.pool } := by
  unfold dropProxy
  split
  · rename_i first second rest pool
    simp [pool]
  · -- A pool of another form has one proxy at most.
    rename_i others
    have short : ¬1 < identity.pool.length := by
      intro long
      match pool : identity.pool with
      | [] => simp [pool] at long
      | [_] => simp [pool] at long
      | first :: second :: rest => exact others first second rest pool
    rw [if_neg short]

/-- Taking a cookie leaves the rest of the jar. -/
theorem takeCookie_eq : identity.takeCookie =
    { identity with cookie := identity.jar.headD identity.cookie, jar := identity.jar.tail } := by
  -- By whether the jar has a first entry.
  obtain ⟨pool, jar, cookie, failures, rotatedAt⟩ := identity
  cases jar with
  | nil => rfl
  | cons first rest => rfl

/-- A failure that is held back is only counted; one that is let through starts the count anew, whether or not anything
changes. -/
theorem step_fails : identity.step settings (.fails failure) =
    if (⟨failure, identity⟩ : Encounter).isLet settings then
      { pool := if failure.proxy ∧ 1 < identity.pool.length then identity.pool.tail else identity.pool
        jar := if failure.cookie then identity.jar.tail else identity.jar
        cookie := if failure.cookie then identity.jar.headD identity.cookie else identity.cookie
        failures := 0
        rotatedAt := some failure.now }
    else { identity with failures := identity.failures + 1 } := by
  have held := Encounter.held_eq settings ⟨failure, identity⟩
  simp only [step, rotate, held]
  by_cases passes : (⟨failure, identity⟩ : Encounter).isLet settings = true
  · simp only [passes, dropProxy_eq, takeCookie_eq]
    -- Nothing can be taken from an empty jar, nor dropped from a pool of one proxy.
    obtain ⟨pool, jar, cookie, failures, rotatedAt⟩ := identity
    cases failure.proxy <;> cases failure.cookie <;> cases jar <;> by_cases long : 1 < pool.length <;> simp [long]
  · simp [passes]

end Step

/-- What the next event lets the identity meet. -/
def Event.encounter? (identity : Identity) : Event → Option Encounter
  | .fails failure => some ⟨failure, identity⟩
  | _ => none

/-- The failures that an identity meets in a series of events, one behind the other. -/
def encountersFrom (settings : ProxySettings) : Identity → List Event → List Encounter
  | _, [] => []
  | identity, event :: rest =>
    (event.encounter? identity).toList ++ encountersFrom settings (identity.step settings event) rest

/-- The failures that a new identity meets in a series of events. -/
def encounters (settings : ProxySettings) (events : List Event) : List Encounter :=
  encountersFrom settings {} events

/-- The failure of the last event is met last. -/
theorem encounters_append_singleton (settings : ProxySettings) (events : List Event) (event : Event) :
    encounters settings (events ++ [event]) =
      encounters settings events ++ (event.encounter? (after settings events)).toList := by
  have general : ∀ identity, encountersFrom settings identity (events ++ [event]) =
      encountersFrom settings identity events ++
        (event.encounter? (events.foldl (step settings) identity)).toList := by
    -- Each of the events before moves the identity on that the last one finds.
    induction events with
    | nil =>
      intro identity
      simp [encountersFrom]
    | cons first rest ih =>
      intro identity
      simp [encountersFrom, ih]
  exact general {}

/-- The last of the encounters of a kind, if there is any. -/
def lastOf (kind : Encounter → Bool) (encounters : List Encounter) : Option Encounter :=
  (encounters.filter kind).getLast?

/-- The encounters after the last one of a kind, or all of them. -/
def sinceLastOf (kind : Encounter → Bool) (encounters : List Encounter) : List Encounter :=
  encounters.rtakeWhile fun encounter => !kind encounter

section Kind

variable {kind : Encounter → Bool} {encounter : Encounter} (encounters : List Encounter)

/-- An encounter of the kind is the last one of it. -/
theorem lastOf_append_of_pos (own : kind encounter = true) :
    lastOf kind (encounters ++ [encounter]) = some encounter := by
  simp [lastOf, own]

/-- An encounter of another kind is not looked at. -/
theorem lastOf_append_of_neg (other : ¬kind encounter = true) :
    lastOf kind (encounters ++ [encounter]) = lastOf kind encounters := by
  simp [lastOf, other]

/-- There is nothing after an encounter of the kind. -/
theorem sinceLastOf_append_of_pos (own : kind encounter = true) :
    sinceLastOf kind (encounters ++ [encounter]) = [] :=
  List.rtakeWhile_concat_neg _ _ _ (by simp [own])

/-- An encounter of another kind comes after the last one of the kind. -/
theorem sinceLastOf_append_of_neg (other : ¬kind encounter = true) :
    sinceLastOf kind (encounters ++ [encounter]) = sinceLastOf kind encounters ++ [encounter] :=
  List.rtakeWhile_concat_pos _ _ _ (by simp [other])

/-- Only encounters of other kinds come after the last one of the kind. -/
theorem not_of_mem_sinceLastOf (since : encounter ∈ sinceLastOf kind encounters) : kind encounter = false := by
  have other := List.mem_rtakeWhile_imp since
  simpa using other

/-- Behind an encounter of the kind the last one of it is found there or later, and no more comes after it than what
comes behind. -/
theorem lastOf_append_cons (before between : List Encounter) {first : Encounter} (own : kind first = true) :
    (∃ last ∈ lastOf kind (before ++ first :: between), last ∈ first :: between) ∧
      (sinceLastOf kind (before ++ first :: between)).length ≤ between.length := by
  -- One encounter more is the last one of the kind, or leaves it as it was.
  induction between using List.reverseRecOn with
  | nil =>
    rw [lastOf_append_of_pos before own, sinceLastOf_append_of_pos before own]
    exact ⟨⟨first, rfl, List.mem_singleton_self first⟩, Nat.le_refl 0⟩
  | append_singleton between next ih =>
    obtain ⟨⟨last, found, among⟩, few⟩ := ih
    rw [← List.cons_append, ← List.append_assoc]
    by_cases ofKind : kind next = true
    · rw [lastOf_append_of_pos _ ofKind, sinceLastOf_append_of_pos _ ofKind]
      exact ⟨⟨next, rfl, List.mem_append_right _ (List.mem_singleton_self next)⟩, Nat.zero_le _⟩
    · rw [lastOf_append_of_neg _ ofKind, sinceLastOf_append_of_neg _ ofKind]
      refine ⟨⟨last, found, List.mem_append_left _ among⟩, ?_⟩
      rw [List.length_append, List.length_append]
      omega

/-- Two kinds have the same last encounter, and the same ones after it, if one includes the other and what is of the
wider kind only does not come after the last one of the narrower. -/
theorem lastOf_congr {narrow : Encounter → Bool} {encounters : List Encounter}
    (includes : ∀ encounter, narrow encounter = true → kind encounter = true)
    (none_since : ∀ encounter ∈ sinceLastOf narrow encounters, kind encounter = false) :
    lastOf kind encounters = lastOf narrow encounters ∧
      sinceLastOf kind encounters = sinceLastOf narrow encounters := by
  -- By the encounters from the end, down to the last one of the narrower kind.
  induction encounters using List.reverseRecOn with
  | nil => exact ⟨rfl, rfl⟩
  | append_singleton encounters next ih =>
    by_cases ofNarrow : narrow next = true
    · have ofKind := includes next ofNarrow
      rw [lastOf_append_of_pos _ ofKind, lastOf_append_of_pos _ ofNarrow, sinceLastOf_append_of_pos _ ofKind,
        sinceLastOf_append_of_pos _ ofNarrow]
      exact ⟨rfl, rfl⟩
    · rw [sinceLastOf_append_of_neg _ ofNarrow] at none_since ⊢
      have notKind : ¬kind next = true := by
        rw [none_since next (List.mem_append_right _ (List.mem_singleton_self next))]
        exact Bool.false_ne_true
      obtain ⟨sameLast, sameSince⟩ := ih fun encounter since => none_since encounter (List.mem_append_left _ since)
      rw [lastOf_append_of_neg _ notKind, lastOf_append_of_neg _ ofNarrow, sinceLastOf_append_of_neg _ notKind,
        sameLast, sameSince]
      exact ⟨rfl, rfl⟩

end Kind

/-- The identity counts the failures since the last one that it let through, and keeps the time of that one. -/
theorem counted (settings : ProxySettings) (events : List Event) :
    (after settings events).failures =
        (sinceLastOf (Encounter.isLet settings) (encounters settings events)).length ∧
      (after settings events).rotatedAt =
        (lastOf (Encounter.isLet settings) (encounters settings events)).map fun last => last.failure.now := by
  induction events using List.reverseRecOn with
  | nil => exact ⟨rfl, rfl⟩
  | append_singleton events event ih =>
    obtain ⟨failures, rotatedAt⟩ := ih
    rw [after_append_singleton, encounters_append_singleton]
    cases event with
    | fails failure =>
      simp only [Event.encounter?, Option.toList_some, step_fails]
      -- Whatever is let through starts the count and the time anew.
      by_cases passes : (⟨failure, after settings events⟩ : Encounter).isLet settings = true
      · rw [if_pos passes, lastOf_append_of_pos _ passes, sinceLastOf_append_of_pos _ passes]
        exact ⟨rfl, rfl⟩
      · rw [if_neg passes, lastOf_append_of_neg _ passes, sinceLastOf_append_of_neg _ passes]
        refine ⟨?_, rotatedAt⟩
        rw [List.length_append, ← failures]
        rfl
    | sets headers => simpa [Event.encounter?, step, mergeCookies] using ⟨failures, rotatedAt⟩
    | replaces pool jar => simpa [Event.encounter?, step, replace] using ⟨failures, rotatedAt⟩

/-- Is a change due, given the last encounter of a kind and those since then? -/
def IsDue (settings : ProxySettings) (now : Nat) (last : Option Encounter) (since : List Encounter) : Prop :=
  last = none ∨ (∃ encounter ∈ last, settings.dwellMillis ≤ now - encounter.failure.now) ∨
    settings.failureThreshold ≤ since.length + 1

/-- A failure is let through if that is due, given the last one that was. -/
theorem isLet_iff (settings : ProxySettings) (events : List Event) (failure : Failure) :
    (⟨failure, after settings events⟩ : Encounter).isLet settings = true ↔
      IsDue settings failure.now (lastOf (Encounter.isLet settings) (encounters settings events))
        (sinceLastOf (Encounter.isLet settings) (encounters settings events)) := by
  -- Count and time of an identity are those of the encounters since the last one let through.
  obtain ⟨failures, rotatedAt⟩ := counted settings events
  rw [Encounter.isLet_eq_true_iff, failures, dwellPassed, rotatedAt, IsDue]
  cases lastOf (Encounter.isLet settings) (encounters settings events) with
  | none => simp
  | some last => simp

end Harvest.Identity
