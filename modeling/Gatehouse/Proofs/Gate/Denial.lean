import Gatehouse.Proofs.Gate.Front

/-!
# Denials

When a request through the gate is denied. Two requests are about listings: the listing itself, which
passes the coarse check and the check of its filter, and the check of the operation by itself, which
passes the coarse check alone. As long as nobody cancels and the store denies nothing, a denial comes
from the checks.
-/

namespace Gatehouse

open Attempt

namespace Gate

variable {Op : Type} [PipelineSet Op] {K : Resource} {g : Gate Op K} {c : Caller}
  {verify : Option String → Except AuthError (Option Subject)}

theorem answer_list (filter : K.Filter) :
    (StoreCall.list filter).Answer = Except Failure (List K.Entity) := rfl

theorem answer_count (filter : K.Filter) :
    (StoreCall.count filter).Answer = Except Failure Nat := rfl

/-- What a listing does after its checks. -/
def reading (filter : K.Filter) :
    Attempt (gateSignature K)
      (Plan (gateSignature K) K.Entity (Except Failure (Listing K.Entity))) := do
  checkpoint
  let items ← storing (.list filter) (answer_list filter)
  let total ← storing (.count filter) (answer_count filter)
  say (Log.debug "" [("state", "completed"), ("items", toString items.length),
    ("total", toString total)])
  pure (.answer (.ok ⟨items, total⟩))

theorem yields_reading {filter : K.Filter} {t : Trace (gateSignature K)}
    {plan : Plan (gateSignature K) K.Entity (Except Failure (Listing K.Entity))}
    (h : Yields (reading filter) t plan) : ∃ l, plan = .answer (.ok l) := by
  obtain ⟨_, _, _, u₁, rfl, h₁⟩ := yields_bind.mp h
  obtain ⟨items, _, _, u₂, rfl, h₂⟩ := yields_bind.mp h₁
  obtain ⟨total, _, _, u₃, rfl, h₃⟩ := yields_bind.mp h₂
  obtain ⟨_, _, _, u₄, rfl, h₄⟩ := yields_bind.mp h₃
  exact ⟨⟨items, total⟩, (yields_pure.mp h₄).2.symm⟩

/-- A listing that passed its checks fails only because it was cancelled or because the store did. -/
theorem fails_reading {filter : K.Filter} {t : Trace (gateSignature K)} {e : Failure}
    (h : Fails (reading filter) t e) :
    e = .cancelled ∨ ∃ call y, ⟨.store call, y⟩ ∈ t ∧ call.Refuses y e := by
  rcases fails_bind.mp h with h₁ | ⟨_, t₁, _, u₁, rfl, h₁⟩
  · exact .inl (fails_checkpoint.mp h₁).2
  rcases fails_bind.mp h₁ with h₂ | ⟨items, t₂, _, u₂, rfl, h₂⟩
  · obtain ⟨y, rfl, hy⟩ := fails_storing.mp h₂
    exact .inr ⟨.list filter, y, by simp, hy⟩
  rcases fails_bind.mp h₂ with h₃ | ⟨total, t₃, _, u₃, rfl, h₃⟩
  · obtain ⟨y, rfl, hy⟩ := fails_storing.mp h₃
    exact .inr ⟨.count filter, y, by simp, hy⟩
  rcases fails_bind.mp h₃ with h₄ | ⟨_, t₄, _, u₄, rfl, h₄⟩
  · exact absurd h₄ fails_say
  · exact absurd h₄ fails_pure

theorem list_eq (input : Except Failure K.Filter) :
    g.list c input = request (g.admitting c PipelineSet.list fun s => do
      let filter ← given input
      g.authorizeObject s PipelineSet.list (.filter filter)
      reading filter) := rfl

/-- A listing that nobody cancels, with a store that denies nothing, is denied exactly if one of the
two checks is against it. -/
theorem list_denied_iff {filter : K.Filter} {s : Option Subject} {t : Trace (gateSignature K)}
    {x : Except Failure (Listing K.Entity)} (h : (g.list c (.ok filter)).carryOut.Ends t x)
    (ht : Attended verify t) (hv : verify c.token = .ok s)
    (hstore : ∀ call y, ⟨.store call, y⟩ ∈ t → ¬call.Refuses y .permissionDenied) :
    x = .error .permissionDenied ↔ ¬(g.evaluator.operations.allows PipelineSet.list s () ∧
      g.evaluator.objects.allows PipelineSet.list s (.filter filter)) := by
  rw [list_eq] at h
  -- Turned away by the coarse check, or else everything is up to the check of the filter.
  rcases ends_admitting ht h with ⟨f, hf, rfl⟩ | ⟨s', hs', u, rfl, hu⟩
  · obtain ⟨hop, rfl⟩ := (admission_error hv).mp hf
    simp [hop]
  obtain ⟨rfl, hop⟩ := (admission_ok hv).mp hs'
  have hu' : Attended verify u := ht.of_append_right
  rcases ends_carryOut_request.mp hu with ⟨e, he, rfl⟩ | ⟨plan, t₁, hy, t₂, rfl, ht₂⟩
  · rcases fails_bind.mp he with h₁ | ⟨_, t₁, h₁, u₁, rfl, he₁⟩
    · cases (fails_given.mp h₁).2
    obtain ⟨rfl, hfilter⟩ := yields_given.mp h₁
    cases hfilter
    rcases fails_bind.mp he₁ with h₂ | ⟨_, t₂, h₂, u₂, rfl, he₂⟩
    · rcases fails_authorizeObject.mp h₂ with ⟨rfl, rfl⟩ | ⟨hobj, rfl, rfl⟩
      · exact absurd hu' (not_attended_cancelled (t := []))
      · simp [hobj]
    · obtain ⟨hobj, rfl⟩ := yields_authorizeObject.mp h₂
      -- A failure after both checks is no denial.
      have hne : e ≠ .permissionDenied := by
        rintro rfl
        rcases fails_reading he₂ with hcancelled | ⟨call, y, hy, hrefuses⟩
        · cases hcancelled
        · exact hstore call y (by simp [hy]) hrefuses
      simp [hop, hobj, hne]
  · obtain ⟨_, t₃, h₁, u₁, rfl, hy₁⟩ := yields_bind.mp hy
    obtain ⟨rfl, hfilter⟩ := yields_given.mp h₁
    cases hfilter
    obtain ⟨_, t₄, h₂, u₂, rfl, hy₂⟩ := yields_bind.mp hy₁
    obtain ⟨hobj, rfl⟩ := yields_authorizeObject.mp h₂
    obtain ⟨l, rfl⟩ := yields_reading hy₂
    obtain ⟨rfl, rfl⟩ := ht₂
    simp [hop, hobj]

/-- The check of an operation by itself is denied exactly if the coarse check is against it. -/
theorem authorize_denied_iff {op : Op} {s : Option Subject} {t : Trace (gateSignature K)}
    {x : Except Failure (Option Subject)} (h : (g.authorize c op).carryOut.Ends t x)
    (ht : Attended verify t) (hv : verify c.token = .ok s) :
    x = .error .permissionDenied ↔ ¬g.evaluator.operations.allows op s () := by
  rcases ends_admitting ht h with ⟨f, hf, rfl⟩ | ⟨s', hs', u, rfl, hu⟩
  · obtain ⟨hop, rfl⟩ := (admission_error hv).mp hf
    simp [hop]
  · obtain ⟨rfl, hop⟩ := (admission_ok hv).mp hs'
    rcases ends_carryOut_request.mp hu with ⟨e, he, rfl⟩ | ⟨plan, t₁, hy, t₂, rfl, ht₂⟩
    · exact absurd he fails_pure
    · obtain ⟨rfl, rfl⟩ := yields_pure.mp hy
      obtain ⟨rfl, rfl⟩ := ht₂
      simp [hop]

end Gate

end Gatehouse
