import Harvest.Number.Word
import Harvest.Proofs.Identity.History

/-! When an identity changes, and what it gives up: never its last proxy, never more than it was given, and not again
before it has been kept for long enough or the failures are too many. -/

namespace Harvest.Identity

/-- When a failure is counted. -/
def Event.time? : Event → Option Nat
  | .fails failure => some failure.now
  | _ => none

/-- The clock never goes back. -/
def InOrder (events : List Event) : Prop :=
  (events.filterMap Event.time?).Pairwise (· ≤ ·)

instance (events : List Event) : Decidable (InOrder events) :=
  inferInstanceAs (Decidable (List.Pairwise _ _))

/-- The pool and the jar that were last put in; a new identity has neither proxies nor cookies. -/
def lastGiven (events : List Event) : List String × List String :=
  events.foldl (fun given event =>
    match event with
    | .replaces pool jar => (pool, jar)
    | _ => given) ([], [])

/-- At most the first entry is gone, and only if that is allowed. -/
def Sheds (allowed : Bool) (before after : List String) : Prop :=
  after = before ∨ allowed = true ∧ ∃ first, before = first :: after

section Step

variable (settings : ProxySettings) (identity : Identity) (failure : Failure)

/-- A failure takes at most the first proxy away, and not the last one. -/
theorem pool_step_fails : Sheds failure.proxy identity.pool (identity.step settings (.fails failure)).pool ∧
    ((identity.step settings (.fails failure)).pool = [] → identity.pool = []) := by
  rw [step_fails]
  split
  · dsimp only
    split
    · rename_i drops
      -- There is a second proxy, which is the first one then.
      obtain ⟨allowed, long⟩ := drops
      cases pool : identity.pool with
      | nil => simp [pool] at long
      | cons first rest =>
        refine ⟨.inr ⟨allowed, first, rfl⟩, fun none_left => ?_⟩
        rw [pool, List.length_cons] at long
        rw [List.tail_cons] at none_left
        simp [none_left] at long
    · exact ⟨.inl rfl, id⟩
  · exact ⟨.inl rfl, id⟩

/-- A failure takes at most the first cookie out of the jar. -/
theorem jar_step_fails : Sheds failure.cookie identity.jar (identity.step settings (.fails failure)).jar := by
  rw [step_fails]
  split
  · dsimp only
    split
    · rename_i allowed
      -- Nothing is taken out of an empty jar.
      cases jar : identity.jar with
      | nil => exact .inl rfl
      | cons first rest => exact .inr ⟨allowed, first, rfl⟩
    · exact .inl rfl
  · exact .inl rfl

/-- The count starts anew before it comes to the threshold. -/
theorem failures_step_fails_lt :
    (identity.step settings (.fails failure)).failures < max settings.failureThreshold 1 := by
  rw [step_fails]
  split
  · exact Nat.lt_of_lt_of_le Nat.one_pos (Nat.le_max_right _ _)
  · rename_i held
    -- A failure that is held back is not one too many.
    have few : ¬settings.failureThreshold ≤ identity.failures + 1 := fun many =>
      held (((⟨failure, identity⟩ : Encounter).isLet_eq_true_iff settings).mpr (.inr many))
    have below : identity.failures + 1 < settings.failureThreshold := Nat.lt_of_not_le few
    exact Nat.lt_of_lt_of_le below (Nat.le_max_left _ _)

end Step

/-- What is shed of a suffix leaves a suffix. -/
theorem Sheds.suffix {allowed : Bool} {before after given : List String} (sheds : Sheds allowed before after)
    (suffix : before <:+ given) : after <:+ given := by
  -- Nothing is shed, or the first entry is.
  rcases sheds with same | ⟨-, first, whole⟩
  · rwa [same]
  · rw [whole] at suffix
    exact (List.suffix_cons first after).trans suffix

/-- The identity has only given up proxies and cookies from the front of what it was given, and never its last proxy. -/
theorem left_of_given (settings : ProxySettings) (events : List Event) :
    (after settings events).pool <:+ (lastGiven events).1 ∧
      ((after settings events).pool = [] → (lastGiven events).1 = []) ∧
      (after settings events).jar <:+ (lastGiven events).2 := by
  induction events using List.reverseRecOn with
  | nil => exact ⟨List.suffix_rfl, fun _ => rfl, List.suffix_rfl⟩
  | append_singleton events event ih =>
    obtain ⟨pool, poolLeft, jar⟩ := ih
    rw [after_append_singleton, lastGiven, List.foldl_append]
    cases event with
    | fails failure =>
      obtain ⟨sheds, lastStays⟩ := pool_step_fails settings (after settings events) failure
      refine ⟨sheds.suffix pool, fun none_left => poolLeft (lastStays none_left), ?_⟩
      exact (jar_step_fails settings (after settings events) failure).suffix jar
    -- Cookies that a server sets are no cookies of the jar.
    | sets headers => exact ⟨pool, poolLeft, jar⟩
    | replaces newPool newJar => exact ⟨List.suffix_rfl, id, List.suffix_rfl⟩

/-- The count stays below the threshold, or is nothing. -/
theorem failures_lt (settings : ProxySettings) (events : List Event) :
    (after settings events).failures < max settings.failureThreshold 1 := by
  -- By the events from the end: a failure counts up to the threshold and then from nothing.
  induction events using List.reverseRecOn with
  | nil => exact Nat.lt_of_lt_of_le Nat.one_pos (Nat.le_max_right _ _)
  | append_singleton events event ih =>
    rw [after_append_singleton]
    cases event with
    | fails failure => exact failures_step_fails_lt settings _ failure
    | sets headers => exact ih
    | replaces pool jar => exact ih

/-- The failures are met when they are counted. -/
theorem map_now_encounters (settings : ProxySettings) (events : List Event) :
    (encounters settings events).map (fun encounter => encounter.failure.now) = events.filterMap Event.time? := by
  -- By the events from the end, of which only failures have a time.
  induction events using List.reverseRecOn with
  | nil => rfl
  | append_singleton events event ih =>
    rw [encounters_append_singleton, List.map_append, ih, List.filterMap_append]
    cases event with
    | fails failure => rfl
    | sets headers => rfl
    | replaces pool jar => rfl

/-- What is met later is not counted earlier. -/
theorem InOrder.le_of_mem {settings : ProxySettings} {events : List Event} (ordered : InOrder events)
    {before between : List Encounter} {first last : Encounter}
    (met : encounters settings events = before ++ first :: between) (among : last ∈ first :: between) :
    first.failure.now ≤ last.failure.now := by
  -- The times of the encounters are those of the events, which are in order.
  have times : ((before ++ first :: between).map fun encounter => encounter.failure.now).Pairwise (· ≤ ·) := by
    rw [← met, map_now_encounters]
    exact ordered
  rw [List.pairwise_map] at times
  have behind := List.pairwise_cons.mp (List.pairwise_append.mp times).2.1
  rcases List.mem_cons.mp among with rfl | later
  · exact Nat.le_refl _
  · exact behind.1 last later

/-- Whatever changes the identity was let through. -/
theorem Encounter.isLet_of_rotates {settings : ProxySettings} {encounter : Encounter}
    (changed : encounter.rotates settings = true) : encounter.isLet settings = true := by
  rw [rotates_eq, Bool.and_eq_true] at changed
  exact changed.1

/-- Between two changes the identity has been kept for long enough, or the failures are too many. -/
theorem rotations_apart {settings : ProxySettings} {events : List Event} (ordered : InOrder events)
    {before between : List Encounter} {first : Encounter}
    (met : encounters settings events = before ++ first :: between) (changed : first.rotates settings = true)
    {failure : Failure} (changed' : (⟨failure, after settings events⟩ : Encounter).rotates settings = true) :
    settings.dwellMillis ≤ failure.now - first.failure.now ∨
      settings.failureThreshold ≤ between.length + 1 := by
  have due := (isLet_iff settings events failure).mp (Encounter.isLet_of_rotates changed')
  rw [met] at due
  -- The first change may not be the last failure that was let through, but it is not behind it.
  obtain ⟨⟨last, found, among⟩, few⟩ := lastOf_append_cons before between (Encounter.isLet_of_rotates changed)
  rcases due with none_yet | ⟨other, found', dwelt⟩ | many
  · rw [none_yet] at found
    cases found
  · have same : other = last := Option.mem_unique found' found
    have later := ordered.le_of_mem met among
    rw [same] at dwelt
    left
    omega
  · right
    omega

/-- What an identity gives up over a series of events, and when. -/
structure Conserved (settings : ProxySettings) (events : List Event) : Prop where
  /-- The proxies are the last ones of those that were put in, and some are left if there were any. -/
  pool : (after settings events).pool <:+ (lastGiven events).1
  poolLeft : (after settings events).pool = [] → (lastGiven events).1 = []
  /-- The cookies to take up are the last ones of those that were put in. -/
  jar : (after settings events).jar <:+ (lastGiven events).2
  /-- A failure takes one proxy and one cookie at most, and what it does not ask for stays. -/
  sheds : ∀ failure : Failure,
    Sheds failure.proxy (after settings events).pool (after settings (events ++ [.fails failure])).pool ∧
    Sheds failure.cookie (after settings events).jar (after settings (events ++ [.fails failure])).jar
  /-- Two changes are as far apart in time as the settings say, or in failures. -/
  apart : ∀ (failure : Failure) (before between : List Encounter) (first : Encounter),
    encounters settings events = before ++ first :: between → first.rotates settings = true →
    (⟨failure, after settings events⟩ : Encounter).rotates settings = true →
    settings.dwellMillis ≤ failure.now - first.failure.now ∨ settings.failureThreshold ≤ between.length + 1
  /-- The count stays below the threshold. -/
  counted : (after settings events).failures < max settings.failureThreshold 1
  /-- There is always room in a word for one failure more. -/
  room : settings.failureThreshold < Word.halfBound → (after settings events).failures + 1 < Word.halfBound

/-- However often it fails, an identity gives up only what it was given, never its last proxy, and not too often. -/
theorem rotation_conservative (settings : ProxySettings) (events : List Event) (ordered : InOrder events) :
    Conserved settings events := by
  -- What is left of pool and jar comes from the last ones given, and the count stays below the threshold.
  obtain ⟨pool, poolLeft, jar⟩ := left_of_given settings events
  have counted := failures_lt settings events
  refine ⟨pool, poolLeft, jar, fun failure => ?_, fun failure before between first met changed changed' => ?_,
    counted, fun fits => ?_⟩
  · rw [after_append_singleton]
    exact ⟨(pool_step_fails settings _ failure).1, jar_step_fails settings _ failure⟩
  · exact rotations_apart ordered met changed changed'
  · unfold Word.halfBound at fits ⊢
    omega

/-- An identity is kept for an hour, unless there are three failures. -/
def sampleSettings : ProxySettings :=
  { minDwell := 3600, failureThreshold := 3 }

/-- Three proxies and two cookies are put in, and four failures follow at once. -/
def sampleFailures : List Event :=
  [.replaces ["a", "b", "c"] ["x=1", "x=2"], .fails ⟨0, true, true⟩, .fails ⟨1, true, true⟩,
    .fails ⟨1, true, true⟩, .fails ⟨2, true, true⟩]

/-- Of four failures the first and the last one change the identity. -/
theorem rotation_conservative_sampleFailures :
    InOrder sampleFailures ∧
      (encounters sampleSettings sampleFailures).map (Encounter.rotates sampleSettings) =
        [true, false, false, true] ∧
      after sampleSettings sampleFailures =
        { pool := ["c"], jar := [], cookie := "x=2", failures := 0, rotatedAt := some 2 } ∧
      Conserved sampleSettings sampleFailures :=
  ⟨by decide, by decide, by decide, rotation_conservative sampleSettings sampleFailures (by decide)⟩

/-- An identity goes by the last failure of a kind: it counts those since then, keeps its time, and changes whenever
something can change and it is time again. -/
structure GoesBy (kind : Encounter → Bool) (settings : ProxySettings) (events : List Event) : Prop where
  failures : (after settings events).failures = (sinceLastOf kind (encounters settings events)).length
  rotatedAt : (after settings events).rotatedAt =
    (lastOf kind (encounters settings events)).map fun last => last.failure.now
  rotates : ∀ failure : Failure, (⟨failure, after settings events⟩ : Encounter).rotates settings = true ↔
    (⟨failure, after settings events⟩ : Encounter).isFruitful = true ∧
      IsDue settings failure.now (lastOf kind (encounters settings events))
        (sinceLastOf kind (encounters settings events))

/-- An identity goes by the failures that it lets through. -/
theorem goesBy_isLet (settings : ProxySettings) (events : List Event) :
    GoesBy (Encounter.isLet settings) settings events := by
  -- An identity changes by a failure that is let through and has something to change.
  obtain ⟨failures, rotatedAt⟩ := counted settings events
  refine ⟨failures, rotatedAt, fun failure => ?_⟩
  rw [Encounter.rotates_eq, Bool.and_eq_true, isLet_iff]
  exact And.comm

/-- An identity goes by the last failure that it let through, which is one that came when it was time again, whether
or not anything could change then. If since the last change none was let through in vain, it goes by the changes. -/
theorem rotation_due (settings : ProxySettings) (events : List Event) :
    GoesBy (Encounter.isLet settings) settings events ∧
      (∀ failure : Failure, (⟨failure, after settings events⟩ : Encounter).isLet settings = true ↔
        IsDue settings failure.now (lastOf (Encounter.isLet settings) (encounters settings events))
          (sinceLastOf (Encounter.isLet settings) (encounters settings events))) ∧
      ((∀ encounter ∈ sinceLastOf (Encounter.rotates settings) (encounters settings events),
          encounter.isLet settings = true → encounter.isFruitful = true) →
        GoesBy (Encounter.rotates settings) settings events) := by
  have byLet := goesBy_isLet settings events
  refine ⟨byLet, isLet_iff settings events, fun fruitful => ?_⟩
  -- Whatever was let through since the last change would have been a change.
  have held : ∀ encounter ∈ sinceLastOf (Encounter.rotates settings) (encounters settings events),
      encounter.isLet settings = false := by
    intro encounter since
    have unchanged := not_of_mem_sinceLastOf _ since
    rw [Encounter.rotates_eq] at unchanged
    rw [Bool.eq_false_iff]
    intro passes
    rw [passes, fruitful encounter since passes] at unchanged
    cases unchanged
  obtain ⟨sameLast, sameSince⟩ := lastOf_congr (fun _ => Encounter.isLet_of_rotates) held
  exact ⟨sameSince ▸ byLet.failures, sameLast ▸ byLet.rotatedAt, sameLast ▸ sameSince ▸ byLet.rotates⟩

/-- After the first of the sample failures all that were held back had something to change. -/
theorem rotation_due_sampleFailures :
    let events := sampleFailures.take 4
    (∀ encounter ∈ sinceLastOf (Encounter.rotates sampleSettings) (encounters sampleSettings events),
        encounter.isLet sampleSettings = true → encounter.isFruitful = true) ∧
      (sinceLastOf (Encounter.rotates sampleSettings) (encounters sampleSettings events)).length = 2 ∧
      GoesBy (Encounter.rotates sampleSettings) sampleSettings events := by
  -- The two failures that were held back could have dropped a proxy.
  have fruitful : ∀ encounter ∈ sinceLastOf (Encounter.rotates sampleSettings)
      (encounters sampleSettings (sampleFailures.take 4)),
      encounter.isLet sampleSettings = true → encounter.isFruitful = true := by decide
  exact ⟨fruitful, by decide, (rotation_due sampleSettings (sampleFailures.take 4)).2.2 fruitful⟩

/-- A failure that asks for a cookie where the jar is empty changes nothing, but the next failure that could drop a
proxy is held back for it, although nothing has ever changed. -/
theorem rotation_swallowed :
    let events := [.replaces ["a", "b"] [], .fails ⟨0, false, true⟩]
    let next : Encounter := ⟨⟨0, true, true⟩, after sampleSettings events⟩
    lastOf (Encounter.rotates sampleSettings) (encounters sampleSettings events) = none ∧
      next.isFruitful = true ∧ next.rotates sampleSettings = false ∧
      ¬GoesBy (Encounter.rotates sampleSettings) sampleSettings events := by
  -- Without any rotation before, the failure would be due, and it changes nothing.
  intro events next
  have never : lastOf (Encounter.rotates sampleSettings) (encounters sampleSettings events) = none := by decide
  have fruitful : next.isFruitful = true := by decide
  have unchanged : next.rotates sampleSettings = false := by decide
  refine ⟨never, fruitful, unchanged, fun goes => ?_⟩
  have changed : next.rotates sampleSettings = true := (goes.rotates _).mpr ⟨fruitful, .inl never⟩
  rw [unchanged] at changed
  cases changed

end Harvest.Identity
