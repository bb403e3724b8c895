import HotspotGovernor.Foundation
import HotspotGovernor.Lib.SortedList

namespace HotspotGovernor.Authority

open Foundation Lib

inductive AuthorityDomain
  | coordinatorEpoch | bootIncarnation | publisherIncarnation | topology | capacity | signals
  | paths | traffic | policy | attribution | persistence | mitigationBudget
  deriving DecidableEq

def AuthorityDomain.rank : AuthorityDomain → ℕ
  | .coordinatorEpoch => 0
  | .bootIncarnation => 1
  | .publisherIncarnation => 2
  | .topology => 3
  | .capacity => 4
  | .signals => 5
  | .paths => 6
  | .traffic => 7
  | .policy => 8
  | .attribution => 9
  | .persistence => 10
  | .mitigationBudget => 11

structure AuthorityGrant where
  domain : AuthorityDomain
  granted : Bool
  reason : String
  binding : String := ""
  deriving DecidableEq

/-- The findings recorded for one decision, in the order in which they were made. -/
structure AuthorityVector where
  grants : List AuthorityGrant := []
  deriving DecidableEq

namespace AuthorityVector

def push (v : AuthorityVector) (grant : AuthorityGrant) : AuthorityVector := ⟨v.grants ++ [grant]⟩

def grant (v : AuthorityVector) (domain : AuthorityDomain) (reason : String) (binding : String := "") :
    AuthorityVector := v.push ⟨domain, true, reason, binding⟩

def deny (v : AuthorityVector) (domain : AuthorityDomain) (reason : String) (binding : String := "") :
    AuthorityVector := v.push ⟨domain, false, reason, binding⟩

def granted (v : AuthorityVector) (domain : AuthorityDomain) : Bool :=
  let found := v.grants.filter (fun g ↦ g.domain = domain)
  found.all AuthorityGrant.granted && !found.isEmpty

/-- One entry per domain: the last finding replaces the one kept so far. -/
def keepLast (kept : List AuthorityGrant) (grant : AuthorityGrant) : List AuthorityGrant :=
  if kept.any (fun k ↦ k.domain = grant.domain) then
    kept.map (fun k ↦ if k.domain = grant.domain then grant else k)
  else if kept.length ≥ Limits.kMaxAuthorityGrants then kept
  else kept ++ [grant]

def sealGrants (v : AuthorityVector) : AuthorityVector :=
  let sorted := SortedList.sortBy (fun g : AuthorityGrant ↦ g.domain.rank) v.grants
  ⟨SortedList.sortBy (fun g : AuthorityGrant ↦ g.domain.rank) (sorted.foldl keepLast [])⟩

/-- The finding that decides a domain once the vector is sealed: the last one made for it. -/
def effective (v : AuthorityVector) (domain : AuthorityDomain) : Option AuthorityGrant :=
  (v.grants.filter (fun g ↦ g.domain = domain)).getLast?

theorem effective_push (v : AuthorityVector) (grant : AuthorityGrant) (domain : AuthorityDomain) :
    (v.push grant).effective domain =
      if grant.domain = domain then some grant else v.effective domain := by
  unfold effective push
  rw [List.filter_append]
  by_cases h : grant.domain = domain <;> simp [h]

end AuthorityVector

theorem AuthorityDomain.rank_injective : Function.Injective AuthorityDomain.rank := by
  intro a b h
  cases a <;> cases b <;> first | rfl | cases h

theorem AuthorityDomain.rank_lt (d : AuthorityDomain) : d.rank < 12 := by
  cases d <;> decide

namespace AuthorityVector

theorem length_lt_of_nodup {kept : List AuthorityGrant} (h : (kept.map AuthorityGrant.domain).Nodup) :
    kept.length < Limits.kMaxAuthorityGrants := by
  have hnodup : (kept.map (fun g ↦ g.domain.rank)).Nodup := by
    have hmap := h.map AuthorityDomain.rank_injective
    rwa [List.map_map] at hmap
  have hsub : kept.map (fun g ↦ g.domain.rank) ⊆ List.range 12 := by
    intro n hn
    obtain ⟨g, -, rfl⟩ := List.mem_map.mp hn
    exact List.mem_range.mpr g.domain.rank_lt
  have hlen := (List.subperm_of_subset hnodup hsub).length_le
  rw [List.length_map, List.length_range] at hlen
  exact lt_of_le_of_lt hlen (by decide)

/-- What the deduplication holds after some grants: one entry per domain, the last one seen. -/
structure Kept (grants kept : List AuthorityGrant) : Prop where
  nodup : (kept.map AuthorityGrant.domain).Nodup
  last : ∀ domain, kept.filter (fun g ↦ g.domain = domain) =
    (grants.filter (fun g ↦ g.domain = domain)).getLast?.toList

theorem Kept.keepLast {grants kept : List AuthorityGrant} (h : Kept grants kept) (grant : AuthorityGrant) :
    Kept (grants ++ [grant]) (keepLast kept grant) := by
  unfold AuthorityVector.keepLast
  by_cases hany : kept.any (fun k ↦ k.domain = grant.domain) = true
  · rw [if_pos hany]
    obtain ⟨k, hk, hdom⟩ := List.any_eq_true.mp hany
    have hsame : (fun k : AuthorityGrant ↦ (if k.domain = grant.domain then grant else k).domain) =
        AuthorityGrant.domain := by
      funext k
      split_ifs with hd
      · exact hd.symm
      · rfl
    refine ⟨?_, fun domain ↦ ?_⟩
    · rw [List.map_map, Function.comp_def, hsame]
      exact h.nodup
    · have hfilter : (fun g : AuthorityGrant ↦ decide (g.domain = domain)) ∘
          (fun k ↦ if k.domain = grant.domain then grant else k) = fun k ↦ decide (k.domain = domain) := by
        funext k
        simp only [Function.comp_apply]
        rw [show (if k.domain = grant.domain then grant else k).domain = k.domain from congrFun hsame k]
      rw [List.filter_map, hfilter, h.last, List.filter_append]
      by_cases hd : grant.domain = domain
      · have hmem : k ∈ kept.filter (fun g ↦ g.domain = domain) :=
          List.mem_filter.mpr ⟨hk, by simpa [hd] using hdom⟩
        rw [h.last] at hmem
        obtain ⟨g, hg⟩ : ∃ g, (grants.filter (fun g ↦ g.domain = domain)).getLast? = some g :=
          ⟨k, Option.mem_toList.mp hmem⟩
        have hgd : g.domain = domain := by
          simpa using (List.mem_filter.mp (List.mem_of_getLast? hg)).2
        simp [hg, hd, hgd]
      · have hkeep : ∀ g ∈ (grants.filter (fun g ↦ g.domain = domain)).getLast?.toList,
            (if g.domain = grant.domain then grant else g) = g := by
          intro g hg
          rw [← h.last] at hg
          have hgd : g.domain = domain := by simpa using (List.mem_filter.mp hg).2
          rw [if_neg (fun he ↦ hd (he.symm.trans hgd))]
        rw [List.map_congr_left hkeep]
        simp [hd]
  · have hnew : ∀ k ∈ kept, k.domain ≠ grant.domain := by
      intro k hk he
      exact hany (List.any_eq_true.mpr ⟨k, hk, by simpa using he⟩)
    rw [if_neg hany, if_neg (not_le.mpr (length_lt_of_nodup h.nodup))]
    refine ⟨?_, fun domain ↦ ?_⟩
    · rw [List.map_append]
      refine List.nodup_append.mpr ⟨h.nodup, List.nodup_singleton _, ?_⟩
      intro d hd d' hd' he
      obtain ⟨k, hk, rfl⟩ := List.mem_map.mp hd
      exact hnew k hk (he.trans (List.mem_singleton.mp hd'))
    · rw [List.filter_append, List.filter_append, h.last]
      by_cases hd : grant.domain = domain
      · have hnone : (grants.filter (fun g ↦ g.domain = domain)).getLast?.toList = [] := by
          rw [← h.last, List.filter_eq_nil_iff]
          intro k hk
          simpa [hd] using hnew k hk
        rw [hnone]
        simp [hd]
      · simp [hd]

theorem Kept.foldl {done kept : List AuthorityGrant} (h : Kept done kept) (grants : List AuthorityGrant) :
    Kept (done ++ grants) (grants.foldl AuthorityVector.keepLast kept) := by
  induction grants generalizing done kept with
  | nil => simpa using h
  | cons grant grants ih =>
    have hnext := ih (h.keepLast grant)
    rwa [List.append_assoc] at hnext

theorem kept_foldl (grants : List AuthorityGrant) : Kept grants (grants.foldl keepLast []) := by
  have hnil : Kept [] [] := ⟨List.nodup_nil, fun _ ↦ rfl⟩
  exact hnil.foldl grants

theorem filter_sealGrants (v : AuthorityVector) (domain : AuthorityDomain) :
    v.sealGrants.grants.filter (fun g ↦ g.domain = domain) = (v.effective domain).toList := by
  have hstable : ∀ gs : List AuthorityGrant,
      (SortedList.sortBy (fun g : AuthorityGrant ↦ g.domain.rank) gs).filter (fun g ↦ g.domain = domain) =
        gs.filter (fun g ↦ g.domain = domain) := by
    refine SortedList.filter_sortBy (fun a b ha hb ↦ ?_)
    rw [of_decide_eq_true ha, of_decide_eq_true hb]
  unfold sealGrants effective
  rw [hstable, (kept_foldl _).last, hstable]

theorem granted_sealGrants (v : AuthorityVector) (domain : AuthorityDomain) :
    v.sealGrants.granted domain = (v.effective domain).any AuthorityGrant.granted := by
  unfold granted
  rw [filter_sealGrants]
  cases v.effective domain <;> simp

theorem granted_iff (v : AuthorityVector) (domain : AuthorityDomain) : v.granted domain = true ↔
    (∀ g ∈ v.grants, g.domain = domain → g.granted = true) ∧ (v.effective domain).isSome = true := by
  simp only [granted, effective, Bool.and_eq_true, List.all_eq_true, List.mem_filter, decide_eq_true_eq,
    and_imp, Bool.not_eq_true', List.getLast?_isSome, ← List.isEmpty_eq_false_iff]

theorem mem_of_effective {v : AuthorityVector} {domain : AuthorityDomain} {g : AuthorityGrant}
    (h : v.effective domain = some g) : g ∈ v.grants ∧ g.domain = domain := by
  have hmem := List.mem_of_getLast? h
  simpa using hmem

/-- Sealing keeps what a domain was granted exactly when nothing refused it, or the last finding does. -/
theorem granted_of_sealed_iff (v : AuthorityVector) (domain : AuthorityDomain) :
    v.sealGrants.granted domain = v.granted domain ↔
      (∀ g ∈ v.grants, g.domain = domain → g.granted = true) ∨
        ∃ g, v.effective domain = some g ∧ g.granted = false := by
  rw [Bool.eq_iff_iff, granted_sealGrants, granted_iff]
  cases hlast : v.effective domain with
  | none =>
    have hnone : ∀ g ∈ v.grants, g.domain ≠ domain := by simpa [effective] using hlast
    have hvacuous : ∀ g ∈ v.grants, g.domain = domain → g.granted = true :=
      fun g hg hd ↦ absurd hd (hnone g hg)
    simp only [Option.any_none, Option.isSome_none, Bool.false_eq_true, and_false, iff_self, true_iff]
    exact Or.inl hvacuous
  | some last =>
    obtain ⟨hmem, hdomain⟩ := mem_of_effective hlast
    have hdecides : (∀ g ∈ v.grants, g.domain = domain → g.granted = true) → last.granted = true :=
      fun h ↦ h last hmem hdomain
    cases hg : last.granted with
    | true => simp [hg]
    | false =>
      rw [hg] at hdecides
      simp only [Option.any_some, hg, Bool.false_eq_true, Option.isSome_some, and_true, false_iff,
        Option.some.injEq, exists_eq_left', or_true, iff_true]
      intro h
      exact Bool.false_ne_true (hdecides h)

/-- A refusal that a later approval follows: the domain is denied until the vector is sealed, and granted
from then on. -/
theorem refusal_forgotten :
    let v := (({} : AuthorityVector).deny .attribution "contributor population exceeded the bound").grant
      .attribution "fresh contributor evidence"
    v.granted .attribution = false ∧ v.sealGrants.granted .attribution = true := by
  decide

end AuthorityVector

end HotspotGovernor.Authority
