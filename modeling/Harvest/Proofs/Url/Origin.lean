import Harvest.Proofs.Number.Decimal
import Harvest.Proofs.Text.Replacing
import Harvest.Url.Reader
import Mathlib.Tactic.IntervalCases

/-! The origin of a web address: the scheme, a host and perhaps a port, and nothing of a query. -/

namespace Harvest

/-- The digits of a number in any base are written with the characters for digits. -/
theorem exists_digitChar_of_mem {base n : Nat} {c : Char} (several : 1 < base) (among : c ∈ Nat.toDigits base n) :
    ∃ digit, c = Nat.digitChar digit := by
  induction n using Nat.strongRecOn with
  | ind n ih =>
    by_cases small : n < base
    · rw [Nat.toDigits_of_lt_base small, List.mem_singleton] at among
      exact ⟨n, among⟩
    · -- The last digit stands behind those of the number without it.
      have large : base ≤ n := Nat.le_of_not_lt small
      rw [Nat.toDigits_of_base_le several large, List.mem_append, List.mem_singleton] at among
      rcases among with higher | last
      · exact ih (n / base) (Nat.div_lt_self (by omega) several) higher
      · exact ⟨n % base, last⟩

/-- A question mark is no digit. -/
theorem digitChar_ne_question (digit : Nat) : Nat.digitChar digit ≠ '?' := by
  rcases Nat.lt_or_ge digit 16 with small | large
  · interval_cases digit <;> decide
  · -- What is no digit in base 16 is written with a character of its own.
    have beyond : ∀ n < 16, digit ≠ n := fun n below => by omega
    simp [Nat.digitChar, beyond]

/-- No number has a question mark, in whatever base it is written. -/
theorem question_not_mem_toDigits {base : Nat} (several : 1 < base) (n : Nat) : '?' ∉ Nat.toDigits base n := by
  -- Digits are written with letters and figures.
  intro among
  obtain ⟨digit, same⟩ := exists_digitChar_of_mem several among
  exact digitChar_ne_question digit same.symm

/-- No number has a question mark. -/
theorem question_not_mem_toString (n : Nat) : '?' ∉ (toString n).toList := by
  rw [Decimal.toList_toString]
  exact question_not_mem_toDigits (by decide) n

/-- Joined strings have no question mark if the separator and the strings have none. -/
theorem question_not_mem_join {sep : String} {pieces : List String} (between : '?' ∉ sep.toList)
    (free : ∀ piece ∈ pieces, '?' ∉ piece.toList) : '?' ∉ (Text.join sep pieces).toList := by
  -- A character of a joined text comes from one of the two.
  intro among
  rcases Text.mem_or_of_mem_join among with inside | ⟨piece, listed, inside⟩
  · exact between inside
  · exact free piece listed inside

namespace Host

/-- An address of eight pieces has no question mark. -/
theorem question_not_mem_v6Text (pieces : List Nat) : '?' ∉ (v6Text pieces).toList := by
  -- The pieces are joined by colons on both sides of the gap, if there is one.
  have side (part : List Nat) : '?' ∉ (Text.join ":" (part.map hexText)).toList := by
    refine question_not_mem_join (by decide) fun piece listed => ?_
    obtain ⟨n, -, rfl⟩ := List.mem_map.mp listed
    rw [hexText, String.toList_ofList]
    exact question_not_mem_toDigits (by decide) n
  unfold v6Text
  dsimp only
  split
  · exact side pieces
  · simp only [String.toList_append, List.mem_append, not_or]
    exact ⟨⟨side _, by decide⟩, side _⟩

/-- What is read as an address of eight pieces is one. -/
theorem exists_of_v6? {s : List Char} {host : Host} (read : v6? s = some host) : ∃ pieces, host = .v6 pieces := by
  -- Both ways of writing such an address give its pieces, if any.
  unfold v6? at read
  split at read
  · obtain ⟨pieces, -, read⟩ := Option.bind_eq_some_iff.mp read
    split at read
    · exact ⟨pieces, (Option.some.inj read).symm⟩
    · cases read
  · split at read
    · cases read
    · obtain ⟨left, -, read⟩ := Option.bind_eq_some_iff.mp read
      obtain ⟨right, -, read⟩ := Option.bind_eq_some_iff.mp read
      split at read
      · cases read
      · exact ⟨_, (Option.some.inj read).symm⟩

/-- What is read as an address of four bytes is one. -/
theorem exists_of_v4? {s : List Char} {host : Host} (read : v4? s = some host) : ∃ bytes, host = .v4 bytes := by
  -- All that is read comes from its numbers, if there are not too many.
  unfold v4? at read
  extract_lets parts wanted at read
  split at read
  · cases read
  · obtain ⟨numbers, -, read⟩ := Option.bind_eq_some_iff.mp read
    unfold v4OfNumbers? at read
    split at read
    · cases read
    · split at read
      · cases read
      · exact ⟨_, (Option.some.inj read).symm⟩

/-- An address of four bytes has no question mark. -/
theorem question_not_mem_v4 (bytes : Nat) : '?' ∉ (v4 bytes).text.toList := by
  -- Four numbers are joined by full stops.
  refine question_not_mem_join (by decide) fun piece listed => ?_
  obtain ⟨unit, -, rfl⟩ := List.mem_map.mp listed
  exact question_not_mem_toString _

/-- A host of the name system is not empty, and has no question mark. -/
theorem parse?_free {s : List Char} {host : Host} (read : parse? s = some host) :
    host ≠ .domain "" ∧ '?' ∉ host.text.toList := by
  unfold parse? at read
  split at read
  · -- Between brackets stands an address of eight pieces.
    rename_i found bracketed
    unfold bracketed? at bracketed
    split at bracketed
    · cases bracketed
      split at read
      · obtain ⟨pieces, rfl⟩ := exists_of_v6? read
        refine ⟨by simp, ?_⟩
        simp only [text, String.toList_append, List.mem_append, not_or]
        exact ⟨⟨by decide, question_not_mem_v6Text pieces⟩, by decide⟩
      · cases read
    · cases bracketed
  · obtain ⟨decoded, -, read⟩ := Option.bind_eq_some_iff.mp read
    dsimp only at read
    split at read
    · cases read
    · rename_i fine
      split at read
      · obtain ⟨bytes, rfl⟩ := exists_of_v4? read
        exact ⟨by simp, question_not_mem_v4 bytes⟩
      · cases read
        -- A name has a character, and none that is barred.
        simp only [Bool.or_eq_true, List.isEmpty_iff, List.any_eq_true, not_or, not_exists, not_and] at fine
        refine ⟨fun same => fine.1 ?_, fun among => fine.2 '?' ?_ (by decide)⟩
        · simpa using congrArg String.toList (domain.inj same)
        · simpa [text] using among

end Host

namespace Url

/-- The locator of a file is one of a file. -/
theorem scheme_of_file? {s : List Char} {url : Url} (read : file? s = some url) : url.scheme = "file" := by
  -- Every branch that reads a locator gives it that scheme.
  unfold file? at read
  split at read
  · split at read
    · dsimp only at read
      split at read
      · cases read
        rfl
      · obtain ⟨host, -, rfl⟩ := Option.map_eq_some_iff.mp read
        rfl
    · cases read
      rfl
  · cases read
    rfl

/-- Behind the scheme stands a host, if the scheme is one of the network. -/
theorem host_of_authority? {scheme : String} {s : List Char} {url : Url} (read : authority? scheme s = some url) :
    url.scheme = scheme ∧
      (isNetwork scheme = true → ∃ name host, Host.parse? name = some host ∧ url.host = some host) := by
  unfold authority? at read
  extract_lets network part rest at read
  split at read
  rename_i credentials target _
  split at read
  · cases read
  split at read
  rename_i name tail _
  split at read
  · cases read
  extract_lets finish at read
  -- Whichever way the host is read, the rest is the same.
  have finished : ∀ host, finish host = some url →
      url.scheme = scheme ∧ (host ≠ .domain "" → url.host = some host) := by
    intro host done
    dsimp -zeta only [finish] at done
    split at done
    · cases done
    · obtain ⟨port, -, done⟩ := Option.bind_eq_some_iff.mp done
      extract_lets named at done
      split at done
      · cases done
      · cases done
        exact ⟨rfl, fun something => if_neg something⟩
  split at read
  · obtain ⟨host, found, read⟩ := Option.bind_eq_some_iff.mp read
    obtain ⟨same, kept⟩ := finished host read
    exact ⟨same, fun _ => ⟨name, host, found, kept (Host.parse?_free found).1⟩⟩
  · rename_i unnamed
    obtain ⟨host, -, read⟩ := Option.bind_eq_some_iff.mp read
    exact ⟨(finished host read).1, fun network => absurd network unnamed⟩

/-- A web address has a host, which has no question mark. -/
theorem exists_host {source : String} {url : Url} (read : parse? source = some url)
    (web : url.scheme = "http" ∨ url.scheme = "https") :
    ∃ host, url.host = some host ∧ '?' ∉ host.text.toList := by
  obtain ⟨⟨scheme, rest⟩, -, read⟩ := Option.bind_eq_some_iff.mp read
  dsimp only at read
  split at read
  · rw [scheme_of_file? read] at web
    exact absurd web (by decide)
  have network : isNetwork url.scheme = true := by rcases web with same | same <;> rw [same] <;> decide
  split at read
  · obtain ⟨same, hosted⟩ := host_of_authority? read
    obtain ⟨name, host, found, named⟩ := hosted (same ▸ network)
    exact ⟨host, named, (Host.parse?_free found).2⟩
  · rename_i other
    -- Any other scheme is none of the web.
    have same : url.scheme = scheme := by
      split at read
      · exact (host_of_authority? read).1
      · cases read
        rfl
    exact absurd (same ▸ network) other

/-- The origin of a web address is its scheme and something without a question mark. -/
theorem origin_of_web {source : String} {url : Url} (read : parse? source = some url)
    (web : url.scheme = "http" ∨ url.scheme = "https") :
    ∃ place, url.origin = url.scheme ++ "://" ++ place ∧ '?' ∉ place.toList := by
  -- The place is the host, with the port behind it if one is named.
  obtain ⟨host, named, free⟩ := exists_host read web
  have wrapped : url.scheme ≠ "blob" := by rcases web with same | same <;> simp [same]
  have network : isNetwork url.scheme = true := by rcases web with same | same <;> rw [same] <;> decide
  cases port : url.port with
  | none =>
    refine ⟨host.text, ?_, free⟩
    simp [origin, originGo, wrapped, named, network, port]
  | some number =>
    refine ⟨host.text ++ (":" ++ toString number), ?_, ?_⟩
    · simp [origin, originGo, wrapped, named, network, port, String.append_assoc]
    · simp only [String.toList_append, List.mem_append, not_or]
      exact ⟨free, by decide, question_not_mem_toString number⟩

end Url

end Harvest
