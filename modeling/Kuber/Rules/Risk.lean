import Mathlib.Data.Prod.Lex
import Kuber.Rules.Models

/-!
# Risk scores

The benchmark heuristic: every permission gives rise to signals, whose points
are added up under their reason.
-/

namespace Kuber.Rules

open Kuber.Library

def mutatingVerbs : List String := ["create", "update", "patch", "delete", "*"]

/-- The signals of one permission, in the order they are tested. -/
def permissionRiskSignals (permission : Permission) : List (String × Nat) :=
  (if permission.verb = "*" then [("wildcard verbs", 20)] else []) ++
  (if permission.resource = "*" ∨ permission.apiGroup = "*" then
    [("wildcard resources/API groups", 25)] else []) ++
  (if permission.namespace = none then [("cluster-wide scope", 8)] else []) ++
  (if (permission.source.getD "").startsWith "ClusterRoleBinding/" then
    [("ClusterRoleBinding grant", 5)] else []) ++
  (if permission.resource = "secrets" then
    [(permission.verb ++ " secrets",
      if permission.verb ∈ ["get", "list", "watch", "*"] then 8 else 12)]
    else []) ++
  (if permission.verb ∈ mutatingVerbs then
    [("mutating verb: " ++ permission.verb, 4)] else []) ++
  (if permission.verb ∈ ["delete", "*"] then
    [("delete capability", 5)] else []) ++
  (if permission.resource ∈
      ["roles", "clusterroles", "rolebindings", "clusterrolebindings"] then
    [("RBAC modification capability", 20)] else [])

structure RiskFinding where
  reason : String
  points : Nat
  occurrences : Nat
deriving DecidableEq, Repr

structure RiskAssessment where
  score : Nat
  uncappedScore : Nat
  findings : List RiskFinding
deriving DecidableEq, Repr

/-- Points and occurrences of every reason, highest points first. -/
def riskFindings (policy : Policy) : List RiskFinding :=
  let totals := OrderedDict.groupFold Prod.fst (0, 0)
    (fun (total : Nat × Nat) (signal : String × Nat) =>
      (total.1 + signal.2, total.2 + 1))
    (policy.permissions.flatMap permissionRiskSignals)
  (sortBy (fun item => toLex (-(item.2.1 : Int), item.1)) totals.entries).map
    fun item => ⟨item.1, item.2.1, item.2.2⟩

def scorePolicy (policy : Policy) : RiskAssessment :=
  let findings := riskFindings policy
  let uncapped := (findings.map RiskFinding.points).sum
  ⟨min 100 uncapped, uncapped, findings⟩

/-- The points of one permission. -/
def Permission.points (permission : Permission) : Nat :=
  ((permissionRiskSignals permission).map Prod.snd).sum

theorem uncappedScore_eq_sum (policy : Policy) :
    (scorePolicy policy).uncappedScore =
      (policy.permissions.map Permission.points).sum := by
  let signals := policy.permissions.flatMap permissionRiskSignals
  let totals := OrderedDict.groupFold Prod.fst (0, 0)
    (fun (total : Nat × Nat) (signal : String × Nat) =>
      (total.1 + signal.2, total.2 + 1)) signals
  have points : (riskFindings policy).map RiskFinding.points =
      (sortBy (fun item => toLex (-(item.2.1 : Int), item.1))
        totals.entries).map fun item => item.2.1 :=
    List.map_map
  have sorted : ((riskFindings policy).map RiskFinding.points).sum =
      (totals.values.map Prod.fst).sum := by
    rw [points, OrderedDict.values, List.map_map]
    exact ((sortBy_perm _ totals.entries).map _).sum_eq
  have counted : (totals.values.map Prod.fst).sum =
      (signals.map Prod.snd).sum :=
    OrderedDict.sum_values_groupFold Prod.fst Prod.snd rfl (fun _ _ => rfl)
      signals
  calc (scorePolicy policy).uncappedScore
      = (signals.map Prod.snd).sum := sorted.trans counted
    _ = (policy.permissions.map Permission.points).sum := by
        rw [List.map_flatMap, List.flatMap_def, List.sum_flatten, List.map_map]
        rfl

end Kuber.Rules
