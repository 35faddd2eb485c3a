import Gatehouse.Notify.Event
import Gatehouse.Proofs.Json.Forms
import Gatehouse.Proofs.Timestamp
import Gatehouse.Proofs.Uuid

/-!
# Wire shapes and back

What is written for a company, for an event, and for the payloads of requests inside the service is
read back as it was. A stored company and one in an answer have the same members in another order,
and each of the two readers reads both.
-/

namespace Gatehouse

open Json

/-! ## The parts of a company -/

theorem Uuid.faithful : Faithful Uuid.decode Uuid.toJson := by
  refine fun u => ⟨trivial, ?_⟩
  simp only [Uuid.toJson, toTree, Uuid.decode, Uuid.parse?_text]

theorem Timestamp.faithful : Faithful Timestamp.decode Timestamp.toJson := by
  refine fun t => ⟨trivial, ?_⟩
  simp only [Timestamp.toJson, toTree, Timestamp.decode, Timestamp.parse?_text]

theorem LegalForm.faithful : Faithful LegalForm.decode LegalForm.toJson := by
  intro f
  have hsmall : f.code < 2 ^ 8 := by cases f <;> decide
  refine ⟨plain_nat (Nat.lt_trans hsmall (by decide)), ?_⟩
  simp only [toJson, decode, Bind.bind, Except.bind, unsigned_nat hsmall, ofCode?_code]
  rfl

namespace Company

theorem faithful_employees : Faithful decodeEmployees employeesJson := by
  intro n
  have hlow := n.le_toInt
  have hhigh := n.toInt_lt
  refine ⟨isExact_iff.mpr (by omega), ?_⟩
  have hrange : -(Nat.pow 2 (32 - 1) : Nat) ≤ n.toInt ∧
      n.toInt ≤ (Nat.pow 2 (32 - 1) - 1 : Nat) := by
    have hpow : Nat.pow 2 (32 - 1) = 2147483648 := rfl
    omega
  simp only [decodeEmployees, employeesJson, Json.int, toTree, signed, whole, if_pos hrange]
  exact congrArg _ (Int32.ofInt_toInt n)

theorem faithful_count : Faithful decodeCount countJson := by
  intro n
  have hlt := n.toNat_lt
  refine ⟨plain_nat hlt, ?_⟩
  rw [decodeCount, countJson, unsigned_nat hlt]
  exact congrArg _ (UInt64.ofNat_toNat)

/-! ## Companies -/

/-- Members of an object that say all about a company. -/
structure Told (ms : Members) (c : Company) : Prop where
  id : member? ms "id" = some (toTree c.id.toJson)
  createdAt : member? ms "created_at" = some (toTree c.createdAt.toJson)
  updatedAt : member? ms "updated_at" = some (toTree c.updatedAt.toJson)
  name : member? ms "name" = some (toTree (.str c.name))
  description : member? ms "description" = some (toTree (.str c.description))
  employees : member? ms "amount_of_employees" = some (toTree (employeesJson c.employees))
  registered : member? ms "registered" = some (toTree (.bool c.registered))
  legalForm : member? ms "type" = some (toTree c.legalForm.toJson)

theorem told_toJson (c : Company) : Told c.toJson.members c :=
  ⟨rfl, rfl, rfl, rfl, rfl, rfl, rfl, rfl⟩

theorem told_answerJson (c : Company) : Told c.answerJson.members c :=
  ⟨rfl, rfl, rfl, rfl, rfl, rfl, rfl, rfl⟩

section Told

variable {ms : Members} {c : Company}

theorem Told.form_reads (h : Told ms c) : form.Reads ms c := by
  unfold form
  exact ((((((((reads_required h.id (Uuid.faithful _).2).map Company.mk).seq
    (reads_required h.createdAt (Timestamp.faithful _).2)).seq
    (reads_required h.updatedAt (Timestamp.faithful _).2)).seq
    (reads_required h.name (faithful_string _).2)).seq
    (reads_required h.description (faithful_string _).2)).seq
    (reads_required h.employees (faithful_employees _).2)).seq
    (reads_required h.registered (faithful_boolean _).2)).seq
    (reads_required h.legalForm (LegalForm.faithful _).2)

theorem Told.answerForm_reads (h : Told ms c) : answerForm.Reads ms c := by
  unfold answerForm
  exact ((((((((reads_required h.id (Uuid.faithful _).2).map
      fun id updatedAt createdAt => Company.mk id createdAt updatedAt).seq
    (reads_required h.updatedAt (Timestamp.faithful _).2)).seq
    (reads_required h.createdAt (Timestamp.faithful _).2)).seq
    (reads_required h.name (faithful_string _).2)).seq
    (reads_required h.description (faithful_string _).2)).seq
    (reads_required h.employees (faithful_employees _).2)).seq
    (reads_required h.registered (faithful_boolean _).2)).seq
    (reads_required h.legalForm (LegalForm.faithful _).2)

/-- Both readers of companies read an object that says all about a company and nothing else. -/
theorem Told.decode_obj (h : Told ms c) (hnames : (ms.map Prod.fst).Nodup)
    (hknown : ∀ m ∈ ms, m.1 ∈ form.names) :
    decode (toTree (.obj ms)) = .ok c ∧ decodeAnswer (toTree (.obj ms)) = .ok c := by
  refine ⟨h.form_reads.decode "Company" .pass hnames hknown,
    h.answerForm_reads.decode "CompanyDto" .pass hnames fun m hm => ?_⟩
  simpa [form, answerForm, or_assoc, or_left_comm] using hknown m hm

end Told

theorem plain_toJson (c : Company) : Plain c.toJson :=
  ⟨trivial, trivial, trivial, trivial, trivial, (faithful_employees _).1, trivial,
    (LegalForm.faithful _).1, trivial⟩

theorem plain_answerJson (c : Company) : Plain c.answerJson :=
  ⟨trivial, trivial, trivial, trivial, trivial, (faithful_employees _).1, trivial,
    (LegalForm.faithful _).1, trivial⟩

/-- What is stored of a company is read back by both readers. -/
theorem faithful_toJson : Faithful decode toJson ∧ Faithful decodeAnswer toJson := by
  have hread (c : Company) := (told_toJson c).decode_obj (by simp [toJson, members])
    (by simp [toJson, members, form])
  exact ⟨fun c => ⟨plain_toJson c, (hread c).1⟩, fun c => ⟨plain_toJson c, (hread c).2⟩⟩

/-- What is answered about a company is read back by both readers. -/
theorem faithful_answerJson : Faithful decode answerJson ∧ Faithful decodeAnswer answerJson := by
  have hread (c : Company) := (told_answerJson c).decode_obj (by simp [answerJson, members])
    (by simp [answerJson, members, form])
  exact ⟨fun c => ⟨plain_answerJson c, (hread c).1⟩, fun c => ⟨plain_answerJson c, (hread c).2⟩⟩

/-! ## Payloads of requests -/

theorem Draft.faithful : Faithful Draft.decode (Draft.toJson "company_type") := by
  intro d
  have hreads : Draft.form.Reads (d.toJson "company_type").members d := by
    unfold Draft.form
    exact (((((reads_required rfl (faithful_string d.name).2).map Draft.mk).seq
      (reads_required rfl (faithful_string d.description).2)).seq
      (reads_required rfl (faithful_employees d.employees).2)).seq
      (reads_required rfl (faithful_boolean d.registered).2)).seq
      (reads_required rfl (LegalForm.faithful d.legalForm).2)
  refine ⟨⟨trivial, trivial, (faithful_employees _).1, trivial, (LegalForm.faithful _).1,
    trivial⟩, ?_⟩
  exact hreads.decode "CompanyCreate" .pass (by simp [Draft.toJson, members])
    (by simp [Draft.toJson, members, Draft.form])

theorem faithful_text? : Faithful (nullable string) (optional .str) :=
  faithful_nullable faithful_string fun _ => by simp

theorem faithful_flag? : Faithful (nullable boolean) (optional .bool) :=
  faithful_nullable faithful_boolean fun _ => by simp

theorem faithful_employees? : Faithful (nullable decodeEmployees) (optional employeesJson) :=
  faithful_nullable faithful_employees fun _ => by simp [employeesJson, Json.int]

theorem faithful_legalForm? : Faithful (nullable LegalForm.decode) (optional LegalForm.toJson) :=
  faithful_nullable LegalForm.faithful fun _ => by simp [LegalForm.toJson, nat]

theorem faithful_count? : Faithful (nullable decodeCount) (optional countJson) :=
  faithful_nullable faithful_count fun _ => by simp [countJson, nat]

theorem Patch.faithful : Faithful Patch.decode Patch.toJson := by
  intro p
  have hreads : Patch.form.Reads p.toJson.members p := by
    unfold Patch.form
    exact ((((((reads_required rfl (Uuid.faithful p.id).2).map Patch.mk).seq
      (reads_optional rfl (faithful_text? p.name).2)).seq
      (reads_optional rfl (faithful_text? p.description).2)).seq
      (reads_optional rfl (faithful_employees? p.employees).2)).seq
      (reads_optional rfl (faithful_flag? p.registered).2)).seq
      (reads_optional rfl (faithful_legalForm? p.legalForm).2)
  refine ⟨⟨trivial, (faithful_text? _).1, (faithful_text? _).1, (faithful_employees? _).1,
    (faithful_flag? _).1, (faithful_legalForm? _).1, trivial⟩, ?_⟩
  exact hreads.decode "CompanyUpdate" .pass (by simp [Patch.toJson, Patch.changes, members])
    (by simp [Patch.toJson, Patch.changes, members, Patch.form])

theorem Filter.faithful : Faithful Filter.decode Filter.toJson := by
  intro f
  have hids := faithful_list Uuid.faithful f.ids
  have horder := faithful_list faithful_string f.orderBy
  have hforms := faithful_list LegalForm.faithful f.legalForms
  have hreads : Filter.form.Reads f.toJson.members f := by
    unfold Filter.form
    exact (((((((reads_required rfl hids.2).map Filter.mk).seq
      (reads_optional rfl (faithful_count? f.pageSize).2)).seq
      (reads_optional rfl (faithful_count? f.pageNumber).2)).seq
      (reads_required rfl horder.2)).seq
      (reads_optional rfl (faithful_text? f.search).2)).seq
      (reads_required rfl hforms.2)).seq
      (reads_optional rfl (faithful_flag? f.registered).2)
  refine ⟨⟨hids.1, (faithful_count? _).1, (faithful_count? _).1, horder.1, (faithful_text? _).1,
    hforms.1, (faithful_flag? _).1, trivial⟩, ?_⟩
  exact hreads.decode "CompanyFilter" .pass (by simp [Filter.toJson, members])
    (by simp [Filter.toJson, members, Filter.form])

end Company

/-! ## Events -/

theorem Change.faithful : Faithful Change.decode fun c => .str c.name := by
  intro c
  refine ⟨trivial, ?_⟩
  cases c <;> rfl

/-- An event is read back if its resource is. -/
theorem Event.faithful {E : Type} {dec : Decoder E} {encode : E → Json} (h : Faithful dec encode) :
    Faithful ((Event.form dec).decode "ResourceEvent" .pass) (Event.toJson encode) := by
  intro e
  have hreads : (Event.form dec).Reads (e.toJson encode).members e := by
    unfold Event.form
    exact ((reads_required rfl (Change.faithful e.change).2).map Event.mk).seq
      (reads_required rfl (h e.resource).2)
  refine ⟨⟨trivial, (h _).1, trivial⟩, ?_⟩
  exact hreads.decode "ResourceEvent" .pass (by simp [Event.toJson, members])
    (by simp [Event.toJson, members, Event.form])

/-- Reads an event whose company is written as it is stored. -/
def Event.decodeStored : Decoder (Event Company) :=
  (Event.form Company.decode).decode "ResourceEvent" .pass

/-- What is streamed and what is logged of an event is read back by both readers. -/
theorem Event.faithful_both :
    (Faithful Event.decodeAnswer Event.answerJson ∧ Faithful Event.decodeStored Event.answerJson) ∧
      Faithful Event.decodeAnswer Event.logJson ∧ Faithful Event.decodeStored Event.logJson :=
  ⟨⟨Event.faithful Company.faithful_answerJson.2, Event.faithful Company.faithful_answerJson.1⟩,
    Event.faithful Company.faithful_toJson.2, Event.faithful Company.faithful_toJson.1⟩

end Gatehouse
