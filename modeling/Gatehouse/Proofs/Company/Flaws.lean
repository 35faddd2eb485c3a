import Gatehouse.Company.Validation

/-!
# What is wrong with a payload

All that is wrong with the fields of a payload, in the order in which they are checked, each with what
is said about it. A payload without flaws is accepted, and of one with flaws the first is reported.
-/

namespace Gatehouse.Company

/-- What is wrong, as the name of a field and what is said about it. -/
abbrev Flaws := List (String × String)

/-- Nothing is wrong, or the first flaw is the error. -/
def Flaws.verdict : Flaws → Except RegistryError Unit
  | [] => .ok ()
  | (field, message) :: _ => .error (.invalid field message)

theorem Flaws.verdict_append (fs gs : Flaws) :
    Flaws.verdict (fs ++ gs) = (fs.verdict >>= fun _ => gs.verdict) := by
  cases fs <;> rfl

theorem Flaws.verdict_ok_iff {fs : Flaws} : fs.verdict = .ok () ↔ fs = [] := by
  cases fs <;> simp [verdict]

theorem Flaws.exists_of_verdict {fs : Flaws} {e : RegistryError} (h : fs.verdict = .error e) :
    ∃ field message rest, fs = (field, message) :: rest ∧ e = .invalid field message := by
  cases fs with
  | nil => cases h
  | cons flaw rest =>
    cases h
    exact ⟨_, _, rest, rfl, rfl⟩

/-- A name of at most fifteen characters, and not without any. -/
def nameFlaws (name : String) : Flaws :=
  if name.length = 0 then [("name", "cannot be blank")]
  else if name.length ≤ 15 then []
  else [("name", "the length must be between 1 and 15")]

/-- A description of at most three thousand characters. -/
def descriptionFlaws (description : String) : Flaws :=
  if description.length ≤ 3000 then []
  else [("description", "the length must be no more than 3000")]

/-- A number of employees that is not zero. -/
def employeesFlaws (employees : Int32) : Flaws :=
  if employees = 0 then [("amount_of_employees", "cannot be blank")] else []

/-- All that is wrong with a draft. -/
def Draft.flaws (d : Draft) : Flaws :=
  nameFlaws d.name ++ (descriptionFlaws d.description ++ employeesFlaws d.employees)

/-- All that is wrong with a patch, which is checked as far as it goes. -/
def Patch.flaws (p : Patch) : Flaws :=
  (if p.id.isNil then [("id", "cannot be blank")] else []) ++
    ((p.name.map nameFlaws).getD [] ++ ((p.description.map descriptionFlaws).getD [] ++
      (p.employees.map employeesFlaws).getD []))

theorem nameFlaws_eq_nil_iff {name : String} :
    nameFlaws name = [] ↔ 1 ≤ name.length ∧ name.length ≤ 15 := by
  unfold nameFlaws
  by_cases hblank : name.length = 0
  · simp [hblank]
  · have hpos : 1 ≤ name.length := Nat.one_le_iff_ne_zero.mpr hblank
    simp [hblank, hpos]

theorem descriptionFlaws_eq_nil_iff {description : String} :
    descriptionFlaws description = [] ↔ description.length ≤ 3000 := by
  unfold descriptionFlaws
  split <;> simp_all

theorem employeesFlaws_eq_nil_iff {employees : Int32} :
    employeesFlaws employees = [] ↔ employees ≠ 0 := by
  unfold employeesFlaws
  split <;> simp_all

theorem checkName_eq (name : String) : checkName name = (nameFlaws name).verdict := by
  unfold checkName nameFlaws
  by_cases hblank : name.length = 0
  · rw [if_pos hblank, if_pos (by simpa using hblank)]
    rfl
  · rw [if_neg hblank, if_neg (by simpa using hblank)]
    by_cases hlong : name.length ≤ 15
    · rw [if_pos hlong, if_neg (by simpa [maxNameLength] using hlong)]
      rfl
    · rw [if_neg hlong, if_pos (by simpa [maxNameLength] using hlong)]
      rfl

theorem checkDescription_eq (description : String) :
    checkDescription description = (descriptionFlaws description).verdict := by
  unfold checkDescription descriptionFlaws
  by_cases hlong : description.length ≤ 3000
  · rw [if_pos hlong, if_neg (by simpa [maxDescriptionLength] using hlong)]
    rfl
  · rw [if_neg hlong, if_pos (by simpa [maxDescriptionLength] using hlong)]
    rfl

theorem checkEmployees_eq (employees : Int32) :
    checkEmployees employees = (employeesFlaws employees).verdict := by
  unfold checkEmployees employeesFlaws
  split <;> rfl

theorem checkProvided_eq {α : Type} {check : α → Except RegistryError Unit} {flaws : α → Flaws}
    (h : ∀ a, check a = (flaws a).verdict) (a : Option α) :
    checkProvided check a = Flaws.verdict ((a.map flaws).getD []) := by
  cases a with
  | none => rfl
  | some a => exact h a

/-- Of a draft the first flaw is reported. -/
theorem Draft.validate_eq (d : Draft) : d.validate = d.flaws.verdict := by
  simp only [validate, flaws, Flaws.verdict_append, checkName_eq, checkDescription_eq,
    checkEmployees_eq]

/-- Of a patch the first flaw is reported. -/
theorem Patch.validate_eq (p : Patch) : p.validate = p.flaws.verdict := by
  simp only [validate, flaws, Flaws.verdict_append, checkProvided_eq checkName_eq,
    checkProvided_eq checkDescription_eq, checkProvided_eq checkEmployees_eq]
  split <;> rfl

end Gatehouse.Company
