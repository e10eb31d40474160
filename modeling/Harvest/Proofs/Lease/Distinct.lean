import Harvest.Proofs.Crawl.Accounts
import Harvest.Proofs.Lease.Series
import Harvest.Proofs.Text.Replacing

/-! The open links of a rule have different addresses, whatever is done to rules and wherever an operation fails:
the links of an earlier generation are out of the way before those of the next one come in. -/

namespace Harvest

namespace Rule

/-- The address of a page tells its number, if the link pattern has the placeholder. -/
theorem pageUrl_injective {rule : Rule} (placed : Text.contains placeholder rule.linkPattern = true) :
    Function.Injective rule.pageUrl :=
  fun _ _ same => eq_of_toString_eq (Text.eq_of_replaceAll_eq (by decide) placed same)

/-- The pages of a rule have different addresses. -/
theorem nodup_of_pageUrls {rule : Rule} {urls : List String} (pages : rule.pageUrls = .ok urls) : urls.Nodup := by
  -- Different numbers give different addresses.
  unfold pageUrls at pages
  split at pages
  · rename_i placed
    cases pages
    exact List.nodup_range.map fun _ _ same => Nat.succ.inj (pageUrl_injective placed same)
  · cases pages

end Rule

namespace Lease

/-- However the links of a ledger become others, the addresses of the open links of a rule stay different. -/
theorem LinksBecome.distinct {before : Ledger} {request : Request} {links : List Link}
    (become : LinksBecome before request links)
    (distinct : ∀ ruleId, ((openLinks ruleId before.links).map Link.url).Nodup) (ruleId : String) :
    ((openLinks ruleId links).map Link.url).Nodup := by
  cases become with
  | moved moves => exact (distinct ruleId).sublist (openLinks_moves moves ruleId)
  | @generated rule moved added stored inUse moves closed pages own =>
    rw [openLinks_append, List.map_append]
    by_cases its : rule.id = ruleId
    · -- Only the new links of the rule can be open, and their addresses are those of its pages.
      subst its
      rw [closed, List.map_nil, List.nil_append]
      exact (Rule.nodup_of_pageUrls pages).sublist (List.Sublist.map _ List.filter_sublist)
    · rw [openLinks_of_others own its, List.map_nil, List.append_nil]
      exact (distinct ruleId).sublist (openLinks_moves moves ruleId)

namespace Coordinator

variable {name : Nat → String}

/-- After any series of requests, wherever calls have failed, the open links of a rule have different addresses.
So have the links that a lease gives, and a crawl that is seeded with them knows each by its address. -/
theorem open_urls_distinct (injective : Function.Injective name) (tasks : List Task) :
    ∃ links : List Link,
      (workOff name {} tasks).store.documents Lease.links = links.map Link.members ∧
      (∀ ruleId, ((openLinks ruleId links).map Link.url).Nodup) ∧
      ∀ (now : Instant) (outages : List Outage) (ruleId worker : String) (size : Nat) (leased : List Link),
        ((workOff name {} tasks).attempt name outages (allocate now ruleId worker size)).1 = .ok leased →
          (leased.map Link.url).Nodup ∧
          ∀ queue : Crawl.Queue, ∀ link ∈ leased,
            (queue.seed leased).linkIds.lookup link.url = some link.id := by
  obtain ⟨ledger, tracks, distinct⟩ := Ledger.Tracks.start.workOff injective
    (fun ledger => ∀ ruleId, ((openLinks ruleId ledger.links).map Link.url).Nodup)
    (fun does distinct => does.links.distinct distinct) (by simp [openLinks]) tasks
  refine ⟨ledger.links, tracks.behind.kept.links, distinct, ?_⟩
  intro now outages ruleId worker size leased gave
  -- A lease is one more request, after which the leased links are open.
  obtain ⟨after, -, does⟩ := tracks.work_ended injective (.allocate ruleId worker size) gave
  have told : leased.Sublist (openLinks ruleId after.links) := does.told
  have different : (leased.map Link.url).Nodup :=
    (does.links.distinct distinct ruleId).sublist (told.map Link.url)
  exact ⟨different, fun queue link among => Crawl.Queue.lookup_seed different among⟩

/-- After the sample series the two links of the changed rule are leased, under the addresses of its pages. -/
theorem open_urls_distinct_sampleSeries :
    (((workOff Supply.strokes {} sampleSeries).attempt Supply.strokes [] (allocate 10 "r" "v" 5)).1.map
      fun leased => leased.map Link.url) = .ok ["1v1", "2v2"] ∧
    ∃ links : List Link,
      (workOff Supply.strokes {} sampleSeries).store.documents Lease.links = links.map Link.members ∧
      (∀ ruleId, ((openLinks ruleId links).map Link.url).Nodup) ∧
      ∀ (now : Instant) (outages : List Outage) (ruleId worker : String) (size : Nat) (leased : List Link),
        ((workOff Supply.strokes {} sampleSeries).attempt Supply.strokes outages
            (allocate now ruleId worker size)).1 = .ok leased →
          (leased.map Link.url).Nodup ∧
          ∀ queue : Crawl.Queue, ∀ link ∈ leased,
            (queue.seed leased).linkIds.lookup link.url = some link.id :=
  ⟨by rfl, open_urls_distinct Supply.strokes_injective sampleSeries⟩

end Coordinator

end Lease

end Harvest
