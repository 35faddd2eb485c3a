import Gatehouse.Proofs.Company.Effects
import Gatehouse.Proofs.Company.Flaws

/-!
# Patches are checked as the companies that they make

A patch is checked field by field, and only as far as it goes. For a company that is acceptable this
comes to the same as checking the whole company after the change: the fields that the patch leaves alone
have no flaws, so the first flaw of the company is the first flaw of the patch. So an update is refused
exactly if it would make an acceptable company unacceptable, and with the error that a draft with the
same fields gets.
-/

namespace Gatehouse

namespace Company

variable {c : Company} {p : Patch}

/-- A field is checked as it is after the change. A field that is not provided had no flaws before. -/
theorem flaws_getD {α : Type} {flaws : α → Flaws} {old : α} (hold : flaws old = [])
    (provided : Option α) : flaws (provided.getD old) = (provided.map flaws).getD [] := by
  cases provided with
  | none => exact hold
  | some new => rfl

/-- The flaws of a company after the change are those of the patch. -/
theorem flaws_applyTo (hc : c.toDraft.flaws = []) (hid : p.id.isNil = false) :
    (p.applyTo c).toDraft.flaws = p.flaws := by
  obtain ⟨hname, hrest⟩ := List.append_eq_nil_iff.mp hc
  obtain ⟨hdescription, hemployees⟩ := List.append_eq_nil_iff.mp hrest
  change nameFlaws c.name = [] at hname
  change descriptionFlaws c.description = [] at hdescription
  change employeesFlaws c.employees = [] at hemployees
  calc (p.applyTo c).toDraft.flaws
      = nameFlaws (p.name.getD c.name) ++ (descriptionFlaws (p.description.getD c.description) ++
          employeesFlaws (p.employees.getD c.employees)) := rfl
    _ = (p.name.map nameFlaws).getD [] ++ ((p.description.map descriptionFlaws).getD [] ++
          (p.employees.map employeesFlaws).getD []) := by
        rw [flaws_getD hname, flaws_getD hdescription, flaws_getD hemployees]
    _ = p.flaws := by simp [Patch.flaws, hid]

theorem validate_applyTo (hc : c.toDraft.validate = .ok ()) (hid : p.id.isNil = false) :
    (p.applyTo c).toDraft.validate = p.validate := by
  rw [Draft.validate_eq, Flaws.verdict_ok_iff] at hc
  rw [Draft.validate_eq, Patch.validate_eq, flaws_applyTo hc hid]

end Company

namespace Service

variable {r r' : Registry} {u : Trace systemSignature} {c : Company} {p : Company.Patch}
  {x : Except Failure Company}

/-- An update of a stored company fails exactly if the patch is refused. -/
theorem update_error_iff (hr : r.Keyed) (hfind : r.find? p.id = some c)
    (h : Program.Ends (update p).run u x) (hu : Leads Registry.Step r u r') {f : Failure} :
    x = .error f ↔ ∃ e, p.validate = .error e ∧ f = .ofRegistry e := by
  rcases update_effect h hu with ⟨e, hvalid, rfl, -⟩ | ⟨-, hnone, -, -⟩ |
    ⟨c', now, hvalid, hfind', -, hstored⟩
  · simp [hvalid, eq_comm]
  · rw [hfind] at hnone
    cases hnone
  · rw [hfind] at hfind'
    cases hfind'
    rcases hstored with ⟨-, rfl⟩ | ⟨e, he, -, -⟩
    · simp [hvalid]
    · -- the row is stored under its own identifier, so it can be replaced
      have hid : (overwritten p c now).id = p.id := hr p.id c hfind
      have hsome : (r.find? (overwritten p c now).id).isSome := by rw [hid, hfind]; rfl
      obtain ⟨r'', hok⟩ := Registry.replace_ok_iff.mpr hsome
      rw [hok] at he
      cases he

/-- **A patch is checked as the company that it makes.** For a company that is acceptable and a patch
with an identifier, checking the patch gives the result of checking the fields of the company after the
change, the same first error included; and where this company is stored, an update ends with an error
exactly if the company after the change is not acceptable. -/
theorem patch_checked_as_whole (hc : c.toDraft.validate = .ok ()) (hid : p.id.isNil = false) :
    p.validate = (p.applyTo c).toDraft.validate ∧
    ∀ r r' u x, r.Keyed → r.find? p.id = some c → Program.Ends (update p).run u x →
      Leads Registry.Step r u r' →
        ∀ f, x = .error f ↔ ∃ e, (p.applyTo c).toDraft.validate = .error e ∧ f = .ofRegistry e := by
  refine ⟨(Company.validate_applyTo hc hid).symm, fun r r' u x hr hfind h hu f => ?_⟩
  rw [Company.validate_applyTo hc hid]
  exact update_error_iff hr hfind h hu

/-- A patch of the plain company that provides a name of sixteen characters and no employees. -/
def overlongPatch : Company.Patch :=
  { Company.Patch.empty Traffic.plainCompany.id with
    name := some "éééééééééééééééé", employees := some 0 }

/-- Of two bad fields the name is reported, of the patch as of the company. -/
theorem patch_checked_as_whole_overlong :
    Traffic.plainCompany.toDraft.validate = .ok () ∧ overlongPatch.id.isNil = false ∧
    overlongPatch.validate = .error (.invalid "name" "the length must be between 1 and 15") ∧
    ∀ r' u x, Program.Ends (update overlongPatch).run u x →
      Leads Registry.Step (.sole Traffic.plainCompany) u r' →
        x = .error (.ofRegistry (.invalid "name" "the length must be between 1 and 15")) := by
  have hc : Traffic.plainCompany.toDraft.validate = .ok () := by decide
  have hid : overlongPatch.id.isNil = false := by decide
  have hrefused : (overlongPatch.applyTo Traffic.plainCompany).toDraft.validate =
      .error (.invalid "name" "the length must be between 1 and 15") := by decide
  obtain ⟨hvalidate, hruns⟩ := patch_checked_as_whole hc hid
  refine ⟨hc, hid, hvalidate.trans hrefused, fun r' u x h hu => ?_⟩
  exact (hruns _ r' u x (Registry.keyed_sole _) rfl h hu _).mpr ⟨_, hrefused, rfl⟩

end Service

end Gatehouse
