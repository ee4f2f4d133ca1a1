import Mathlib.Data.Set.Lattice

/-!
# Least grants

A policy is a set of grants; a grant covers requests.  A *least grant* for a
request covers it and covers nothing that another grant covering the request
would leave out.  A set of least grants, one for each request of a given set,
is then the least policy for these requests.
-/

namespace Kuber.Library

variable {Grant Request : Type} (covers : Grant → Request → Prop)

/-- The requests covered by some grant of a policy. -/
def allowed (policy : Set Grant) : Set Request :=
  {request | ∃ grant ∈ policy, covers grant request}

/-- `grant` is the smallest grant that covers `request`. -/
structure IsLeastGrant (request : Request) (grant : Grant) : Prop where
  covers_request : covers grant request
  least : ∀ other, covers other request →
    ∀ covered, covers grant covered → covers other covered

variable {covers}

theorem allowed_mono {small large : Set Grant} (subset : small ⊆ large) :
    allowed covers small ⊆ allowed covers large := by
  rintro request ⟨grant, member, covered⟩
  exact ⟨grant, subset member, covered⟩

theorem IsLeastGrant.covered_allowed {request covered : Request}
    {grant : Grant} (least : IsLeastGrant covers request grant)
    {policy : Set Grant} (requestAllowed : request ∈ allowed covers policy)
    (grantCovers : covers grant covered) :
    covered ∈ allowed covers policy := by
  obtain ⟨other, member, otherCovers⟩ := requestAllowed
  exact ⟨other, member, least.least other otherCovers covered grantCovers⟩

/-- Every grant of `policy` is the least grant of one of `requests`. -/
def LeastGrantsFor (covers : Grant → Request → Prop)
    (requests : Set Request) (policy : Set Grant) : Prop :=
  ∀ grant ∈ policy, ∃ request ∈ requests, IsLeastGrant covers request grant

theorem LeastGrantsFor.mono {requests more : Set Request}
    {policy : Set Grant} (base : LeastGrantsFor covers requests policy)
    (subset : requests ⊆ more) : LeastGrantsFor covers more policy := by
  intro grant member
  obtain ⟨request, requestMember, least⟩ := base grant member
  exact ⟨request, subset requestMember, least⟩

/-- A policy made of least grants allows nothing that a policy allowing the
same requests denies. -/
theorem LeastGrantsFor.allowed_subset {requests : Set Request}
    {policy other : Set Grant} (base : LeastGrantsFor covers requests policy)
    (sufficient : requests ⊆ allowed covers other) :
    allowed covers policy ⊆ allowed covers other := by
  rintro covered ⟨grant, member, grantCovers⟩
  obtain ⟨request, requestMember, least⟩ := base grant member
  exact least.covered_allowed (sufficient requestMember) grantCovers

end Kuber.Library
