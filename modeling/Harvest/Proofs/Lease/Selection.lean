import Harvest.Proofs.Lease.Series

/-! Which rule is selected when none is wanted: a stored active one with active links, as long as the sample of active
links names one. Active links of rules that are not in use take room in the sample, so that rules behind them can be
passed over. -/

namespace Harvest.Lease

/-- The active links that a selection looks at: the first ones, one at least. -/
def sampled (sample : Nat) (links : List Link) : List Link :=
  (links.filter fun link => link.status = .active).take (max sample 1)

/-- How the result of a selection is tied to the stored rules and links. -/
structure Picks (rules : List Rule) (links : List Link) (sample : Nat) (found : Option Rule) : Prop where
  /-- A rule that is selected is stored as active and owns an active link. -/
  eligible : ∀ rule ∈ found, rule ∈ rules ∧ rule.status = .active ∧
    ∃ link ∈ links, link.ruleId = rule.id ∧ link.status = .active
  /-- None is selected exactly if no link of the sample belongs to a rule that is stored as active. -/
  none_iff : found = none ↔ ∀ link ∈ sampled sample links, ∀ rule ∈ rules, rule.id = link.ruleId →
    rule.status ≠ .active

/-- If all active links belong to rules that are stored as active, none is selected only when no link is active. -/
theorem Picks.none_iff_of_inUse {rules : List Rule} {links : List Link} {sample : Nat} {found : Option Rule}
    (picks : Picks rules links sample found)
    (inUse : ∀ link ∈ links, link.status = .active → ∃ rule ∈ rules, rule.id = link.ruleId ∧ rule.status = .active) :
    found = none ↔ ∀ link ∈ links, link.status ≠ .active := by
  rw [picks.none_iff]
  constructor
  · intro idle link among active
    -- The first active link is looked at in any case.
    have waiting : link ∈ links.filter fun link => link.status = .active :=
      List.mem_filter.mpr ⟨among, decide_eq_true active⟩
    obtain ⟨first, rest, shown⟩ := List.exists_cons_of_ne_nil (List.ne_nil_of_mem waiting)
    have seen : first ∈ sampled sample links := by
      obtain ⟨room, enough⟩ := Nat.exists_eq_succ_of_ne_zero (Nat.ne_of_gt (le_max_right sample 1))
      rw [sampled, shown, enough, List.take_succ_cons]
      exact List.mem_cons_self
    obtain ⟨stored, itself⟩ := List.mem_filter.mp (List.mem_of_mem_take seen)
    obtain ⟨rule, ruled, own, used⟩ := inUse first stored (of_decide_eq_true itself)
    exact idle first seen rule ruled own used
  · intro none_active link shown
    obtain ⟨stored, itself⟩ := List.mem_filter.mp (List.mem_of_mem_take shown)
    exact absurd (of_decide_eq_true itself) (none_active link stored)

/-- A selection leaves the ledger as it is, and picks from the sample. -/
theorem selectRule_picks {name : Nat → String} {mayFail : Prop} {ledger : Ledger} {now : Int}
    (valid : ledger.Valid) (sample : Nat) {shuffle : List String → List String}
    (mixes : ∀ ids, (shuffle ids).Perm ids) :
    Operation.Leads name mayFail (Idles mayFail ledger fun outcome =>
        ∃ found, outcome = .ok found ∧ Picks ledger.rules ledger.links sample found)
      (selectRule now sample shuffle none) ledger := by
  -- The filter on documents is that on links.
  have seen : (Page.first (max sample 1)).window (ledger.links.filter fun link =>
      Store.chosen [Filter.isText "status" LinkStatus.active.text] link.members) = sampled sample ledger.links := by
    refine congrArg (List.take (max sample 1)) (List.filter_congr fun link _ => ?_)
    rw [Bool.eq_iff_iff, Store.chosen_isText _ link.field_status]
    simp [LinkStatus.text_inj]
  refine leads_readLinks valid.dated ?_ fun may reason => idles_fails may reason
  rw [seen]
  have named (id : String) : id ∈ shuffle ((sampled sample ledger.links).map Link.ruleId) ↔
      ∃ link ∈ sampled sample ledger.links, link.ruleId = id := by
    rw [(mixes _).mem_iff, List.mem_map]
  refine firstActive_leads valid _ [] (by simp) (fun rule among candidate active => ?_) (fun idle => ?_)
    fun may reason => idles_fails may reason
  · -- The candidate stands for a link of the sample, which is an active link of the rule.
    obtain ⟨link, shown, own⟩ := (named rule.id).mp candidate
    obtain ⟨stored, itself⟩ := List.mem_filter.mp (List.mem_of_mem_take shown)
    refine idles_gives ⟨some rule, rfl, fun other same => ?_, iff_of_false nofun fun idle => ?_⟩
    · cases same
      exact ⟨among, active, link, stored, own, of_decide_eq_true itself⟩
    · exact idle link shown rule among own.symm active
  · refine idles_gives ⟨none, rfl, nofun, iff_of_true rfl fun link shown rule among own => ?_⟩
    exact idle rule among ((named rule.id).mpr ⟨link, shown, own.symm⟩)

namespace Coordinator

variable {name : Nat → String}

/-- After any series of requests a selection picks from the sample, whatever its size and order are, and changes
nothing. -/
theorem selection_picks (injective : Function.Injective name) (tasks : List Task) (now : Int) (sample : Nat)
    {shuffle : List String → List String} (mixes : ∀ ids, (shuffle ids).Perm ids) :
    ∃ (rules : List Rule) (links : List Link),
      (workOff name {} tasks).store.documents Lease.rules = rules.map Rule.members ∧
      (workOff name {} tasks).store.documents Lease.links = links.map Link.members ∧
      (workOff name {} tasks).Answers name (selectRule now sample shuffle none)
        fun outcome => ∃ found, outcome = .ok found ∧ Picks rules links sample found := by
  -- The ledger behind the series has the rules and links that the selection reads.
  obtain ⟨ledger, tracks⟩ := Ledger.Tracks.exists_of_workOff injective tasks
  exact ⟨ledger.rules, ledger.links, tracks.behind.kept.rules, tracks.behind.kept.links,
    tracks.answers fun _ => selectRule_picks tracks.valid sample mixes⟩

/-- The sample rule has an active link and is stored as cancelled, before another rule gets an active link. -/
def sampleShadow : List Task :=
  [⟨System.dawn, [], .upsertRule System.sampleRule System.sampleRule_fits⟩,
    ⟨System.dawn, [], .generateLinks "r"⟩,
    ⟨System.noon, [], .upsertRule { System.sampleRule with status := .cancelled } { System.sampleRule_fits with }⟩,
    ⟨System.noon, [], .upsertRule { System.sampleRule with id := "q" } { System.sampleRule_fits with }⟩,
    ⟨System.noon, [], .generateLinks "q"⟩]

/-- With room for two links in the sample the other rule is selected. -/
theorem selection_picks_sampleShadow :
    (((workOff Supply.strokes {} sampleShadow).attempt Supply.strokes [] (selectRule 10 2 id none)).1.map
      fun found => found.map Rule.id) = .ok (some "q") ∧
    (∀ ids : List String, (id ids).Perm ids) ∧
    ∃ (rules : List Rule) (links : List Link),
      (workOff Supply.strokes {} sampleShadow).store.documents Lease.rules = rules.map Rule.members ∧
      (workOff Supply.strokes {} sampleShadow).store.documents Lease.links = links.map Link.members ∧
      (workOff Supply.strokes {} sampleShadow).Answers Supply.strokes (selectRule 10 2 id none)
        fun outcome => ∃ found, outcome = .ok found ∧ Picks rules links 2 found :=
  ⟨by rfl, List.Perm.refl, selection_picks Supply.strokes_injective sampleShadow 10 2 List.Perm.refl⟩

/-- With room for one link only, none is selected, although the other rule is stored as active and owns an active
link. -/
theorem selection_overlooks :
    ((workOff Supply.strokes {} sampleShadow).attempt Supply.strokes [] (selectRule 10 1 id none)).1 = .ok none ∧
    ∃ rule : Rule, ∃ link : Link,
      rule.members ∈ (workOff Supply.strokes {} sampleShadow).store.documents rules ∧ rule.status = .active ∧
      link.members ∈ (workOff Supply.strokes {} sampleShadow).store.documents links ∧
      link.ruleId = rule.id ∧ link.status = .active := by
  -- The sample of one link is that of the cancelled rule.
  let rule : Rule := { System.sampleRule with id := "q", updated := 10, generated := some 10 }
  let link : Link := { id := "|", url := "u1", ruleId := "q", updated := 10 }
  have stored : ((workOff Supply.strokes {} sampleShadow).store.documents rules)[1]? = some rule.members := by rfl
  have waits : ((workOff Supply.strokes {} sampleShadow).store.documents links)[1]? = some link.members := by rfl
  exact ⟨by rfl, rule, link, List.mem_of_getElem? stored, rfl, List.mem_of_getElem? waits, rfl, rfl⟩

end Coordinator

end Harvest.Lease
