import Gatehouse.Proofs.Json.Values
import Gatehouse.Proofs.Json.Writing
import Mathlib.Algebra.Ring.Nat
import Mathlib.Data.List.Forall2

/-!
# Decoding what was encoded

A decoder is faithful to an encoder when it reads back every value from the JSON that stands for it.
Faithfulness passes from the parts of a value to the whole: through lists, through values that may
be null, and through records. A record is read by the names of its members, so their order does not
matter, as long as each name comes once and is one that the form knows.

In the other direction, a record that was read tells what the members were. An object that has been
read before is read by a form exactly if each field finds what it wants, and members without a field
are kept as they are.
-/

namespace Gatehouse.Json

variable {α β : Type}

/-- A decoder reads back what an encoder writes. -/
def Faithful (dec : Decoder α) (encode : α → Json) : Prop :=
  ∀ a, Plain (encode a) ∧ dec (toTree (encode a)) = .ok a

/-- **A faithful decoder reads back the text too.** -/
theorem Faithful.decodeText_text {dec : Decoder α} {encode : α → Json} (h : Faithful dec encode)
    (a : α) : decodeText dec (encode a).text = .ok a := by
  rw [Json.decodeText_text dec (h a).1, (h a).2]
  rfl

/-! ## Leaves -/

theorem faithful_string : Faithful string .str := fun _ => ⟨trivial, rfl⟩

theorem faithful_boolean : Faithful boolean .bool := fun _ => ⟨trivial, rfl⟩

theorem unsigned_nat {bits n : Nat} (h : n < 2 ^ bits) :
    unsigned bits (toTree (.nat n)) = .ok n := by
  have hrange : (0 : Int) ≤ n ∧ (n : Int) ≤ (Nat.pow 2 bits - 1 : Nat) := by
    have hpow : Nat.pow 2 bits = 2 ^ bits := rfl
    omega
  simp only [unsigned, toTree, nat, whole, if_pos hrange]
  rfl

theorem plain_nat {n : Nat} (h : n < 2 ^ 64) : Plain (.nat n) := by
  show isExact n = true
  rw [isExact_iff]
  omega

/-! ## Lists and values that may be null -/

theorem faithful_list {dec : Decoder α} {encode : α → Json} (h : Faithful dec encode) :
    Faithful (list dec) fun xs => .arr (xs.map encode) := by
  intro xs
  have hitems (i : Nat) : PlainItems (xs.map encode) ∧
      eachItem dec i (toTrees (xs.map encode)) = .ok xs := by
    induction xs generalizing i with
    | nil => exact ⟨trivial, rfl⟩
    | cons x xs ih =>
      refine ⟨⟨(h x).1, (ih i).1⟩, ?_⟩
      simp only [List.map_cons, toTrees, eachItem, (h x).2, (ih (i + 1)).2]
      rfl
  refine ⟨(hitems 0).1, ?_⟩
  simp only [toTree, list, (hitems 0).2]
  rfl

theorem faithful_nullable {dec : Decoder α} {encode : α → Json} (h : Faithful dec encode)
    (hnull : ∀ a, encode a ≠ .null) : Faithful (nullable dec) (optional encode) := by
  intro o
  cases o with
  | none => exact ⟨trivial, rfl⟩
  | some a =>
    refine ⟨(h a).1, ?_⟩
    have hread := (h a).2
    have hne := hnull a
    rw [optional]
    cases hj : encode a with
    | null => exact absurd hj hne
    | _ =>
      rw [hj] at hread
      simp only [toTree] at hread ⊢
      simp only [nullable, hread]
      rfl

/-! ## Records -/

/-- The members of a value that is an object. -/
def members : Json → Members
  | .obj ms => ms
  | _ => []

/-- The names that a form knows. -/
def Form.names (form : Form α) : List String := form.fields.map Prod.fst

@[simp] theorem Form.names_map (f : α → β) (form : Form α) : (f <$> form).names = form.names := rfl

@[simp] theorem Form.names_seq (g : Form (α → β)) (form : Form α) :
    (g <*> form).names = g.names ++ form.names :=
  List.map_append

@[simp] theorem Form.names_required (name : String) (dec : Decoder α) :
    (Form.required name dec).names = [name] := rfl

@[simp] theorem Form.names_optional (name : String) (dec : Decoder α) :
    (Form.optional name dec).names = [name] := rfl

@[simp] theorem Form.names_withDefault (name : String) (dec : Decoder α) (a : α) :
    (Form.withDefault name dec a).names = [name] := rfl

@[simp] theorem Form.names_absentOk (name : String) (dec : Decoder α) :
    (Form.absentOk name dec).names = [name] := rfl

/-- The value of a member of an object. -/
def member? (ms : List (String × Json)) (name : String) : Option Tree :=
  (Source.ofMembers (toMemberTrees ms)).find name

/-- A form reads a record from the members of an object: each member passes its check, and the
values make up the record. -/
structure Form.Reads (form : Form α) (ms : List (String × Json)) (a : α) : Prop where
  passes : ∀ f ∈ form.fields, ∀ t, member? ms f.1 = some t → f.2 t = .ok ()
  builds : form.build (.ofMembers (toMemberTrees ms)) = .ok a

section Reads

variable {form : Form α} {ms : List (String × Json)} {a : α} {name : String} {dec : Decoder α}

theorem Form.Reads.map (f : α → β) (h : form.Reads ms a) : (f <$> form).Reads ms (f a) := by
  refine ⟨h.passes, ?_⟩
  show (form.build _).map f = _
  rw [h.builds]
  rfl

theorem Form.Reads.seq {g : Form (α → β)} {f : α → β} (hg : g.Reads ms f) (h : form.Reads ms a) :
    (g <*> form).Reads ms (f a) := by
  refine ⟨fun fld hfld => ?_, ?_⟩
  · rcases List.mem_append.mp hfld with hfld | hfld
    · exact hg.passes fld hfld
    · exact h.passes fld hfld
  · show (do
      let k ← g.build (.ofMembers (toMemberTrees ms))
      let x ← form.build (.ofMembers (toMemberTrees ms))
      pure (k x)) = _
    rw [hg.builds, h.builds]
    rfl

theorem reads_field {noMember : Except Mismatch α} {noItem : Option α} {x : Json}
    (hfind : member? ms name = some (toTree x)) (hdec : dec (toTree x) = .ok a) :
    (Form.field name dec noMember noItem).Reads ms a := by
  refine ⟨fun f hf t ht => ?_, ?_⟩
  · cases List.mem_singleton.mp hf
    rw [hfind] at ht
    cases ht
    simp only [hdec]
    rfl
  · have hfind' : (Source.ofMembers (toMemberTrees ms)).find name = some (toTree x) := hfind
    simp only [Form.field, hfind', hdec]
    rfl

theorem reads_absent {noItem : Option α} (hfind : member? ms name = none) :
    (Form.field name dec (.ok a) noItem).Reads ms a := by
  refine ⟨fun f hf t ht => ?_, ?_⟩
  · cases List.mem_singleton.mp hf
    rw [hfind] at ht
    cases ht
  · have hfind' : (Source.ofMembers (toMemberTrees ms)).find name = none := hfind
    simp only [Form.field, hfind']
    rfl

theorem reads_required {x : Json} (hfind : member? ms name = some (toTree x))
    (hdec : dec (toTree x) = .ok a) : (Form.required name dec).Reads ms a :=
  reads_field hfind hdec

theorem reads_optional {o : Option α} {x : Json} (hfind : member? ms name = some (toTree x))
    (hdec : nullable dec (toTree x) = .ok o) : (Form.optional name dec).Reads ms o :=
  reads_field hfind hdec

/-- A field with a default may be left out of an object when its value is the default. -/
theorem reads_withDefault {default : α}
    (h : (∃ x, member? ms name = some (toTree x) ∧ dec (toTree x) = .ok a) ∨
      member? ms name = none ∧ default = a) : (Form.withDefault name dec default).Reads ms a := by
  rcases h with ⟨x, hfind, hdec⟩ | ⟨hfind, rfl⟩
  · exact reads_field hfind hdec
  · exact reads_absent hfind

theorem member?_eq (ms : Members) (name : String) :
    member? ms name = (ms.get? name).map toTree := by
  induction ms with
  | nil => rfl
  | cons m ms ih =>
    simp only [member?, Source.ofMembers, Members.get?, toMemberTrees, List.find?_cons] at ih ⊢
    have hkey : (some m.1 == some name) = (m.1 == name) := rfl
    rw [hkey]
    cases m.1 == name with
    | true => rfl
    | false => exact ih

/-- A member is found under its name, if no other has that name. -/
theorem member?_of_mem {m : String × Json} (hnames : (ms.map Prod.fst).Nodup) (hm : m ∈ ms) :
    member? ms m.1 = some (toTree m.2) := by
  rw [member?_eq, Members.get?, find?_of_mem hnames hm]
  rfl

/-- A member with a field is read on from exactly if it passes its check. -/
theorem scanMembers_field {fields : List (String × (Tree → Except Fault Unit))} {unnamed : Unnamed}
    {seen : List String} {k : String} {f : String × (Tree → Except Fault Unit)} {t : Tree}
    {ts : List (Option String × Tree)} {rest : List (String × Json)}
    (hf : fields.find? (·.1 == k) = some f) (hunseen : k ∉ seen) :
    scanMembers fields unnamed seen ((some k, t) :: ts) = .ok rest ↔
      f.2 t = .ok () ∧ scanMembers fields unnamed (k :: seen) ts = .ok rest := by
  have hcontains : seen.contains k = false := by simpa using hunseen
  simp only [scanMembers, hf, hcontains]
  cases f.2 t with
  | error fault => simp [inside, Except.mapError, Bind.bind, Except.bind]
  | ok u => simp [inside, Except.mapError, Bind.bind, Except.bind]

/-- A member without a field is kept if it can be read. -/
theorem scanMembers_kept {fields : List (String × (Tree → Except Fault Unit))} {depth : Depth}
    {seen : List String} {k : String} {t : Tree} {ts : List (Option String × Tree)}
    {rest : List (String × Json)} (hf : fields.find? (·.1 == k) = none) :
    scanMembers fields (.keep depth) seen ((some k, t) :: ts) = .ok rest ↔
      ∃ x xs, anything depth t = .ok x ∧ scanMembers fields (.keep depth) seen ts = .ok xs ∧
        (k, x) :: xs = rest := by
  simp only [scanMembers, hf]
  constructor
  · intro h
    obtain ⟨x, hx, h⟩ := bind_eq_ok.mp h
    obtain ⟨xs, hxs, h⟩ := bind_eq_ok.mp h
    exact ⟨x, xs, hx, hxs, Except.ok.inj h⟩
  · rintro ⟨x, xs, hx, hxs, rfl⟩
    rw [hx, hxs]
    rfl

/-- No later member has the name of the first, so none is among those seen up to it. -/
theorem not_mem_seen {m : String × Json} {seen : List String}
    (hnames : ((m :: ms).map Prod.fst).Nodup) (hseen : ∀ n ∈ m :: ms, n.1 ∉ seen) :
    ∀ n ∈ ms, n.1 ∉ m.1 :: seen := by
  obtain ⟨hfresh, -⟩ := List.nodup_cons.mp hnames
  intro n hn
  exact List.not_mem_cons_of_ne_of_not_mem (fun heq => hfresh (heq ▸ List.mem_map_of_mem hn))
    (hseen n (List.mem_cons_of_mem m hn))

/-- Members whose names are all different and known, and which all pass their checks, are read to
the end. -/
theorem scanMembers_eq_ok {fields : List (String × (Tree → Except Fault Unit))} {unnamed : Unnamed}
    {seen : List String} (hnames : (ms.map Prod.fst).Nodup) (hseen : ∀ m ∈ ms, m.1 ∉ seen)
    (hpass : ∀ m ∈ ms, ∃ f, fields.find? (·.1 == m.1) = some f ∧ f.2 (toTree m.2) = .ok ()) :
    scanMembers fields unnamed seen (toMemberTrees ms) = .ok [] := by
  induction ms generalizing seen with
  | nil => rfl
  | cons m ms ih =>
    obtain ⟨f, hf, hcheck⟩ := hpass m List.mem_cons_self
    have hrest := ih (List.nodup_cons.mp hnames).2 (not_mem_seen hnames hseen) fun n hn =>
      hpass n (List.mem_cons_of_mem m hn)
    exact (scanMembers_field hf (hseen m List.mem_cons_self)).mpr ⟨hcheck, hrest⟩

/-- **An object is read as the record that the form reads from its members.** -/
theorem Form.Reads.decode (h : form.Reads ms a) (type : String) (unnamed : Unnamed)
    (hnames : (ms.map Prod.fst).Nodup)
    (hknown : ∀ m ∈ ms, m.1 ∈ form.names) :
    form.decode type unnamed (toTree (.obj ms)) = .ok a := by
  have hscan : scanMembers form.fields unnamed [] (toMemberTrees ms) = .ok [] := by
    refine scanMembers_eq_ok hnames (fun _ _ => List.not_mem_nil) fun m hm => ?_
    obtain ⟨g, hg, hgm⟩ := List.mem_map.mp (hknown m hm)
    cases hf : form.fields.find? (·.1 == m.1) with
    | none => exact absurd (beq_iff_eq.mpr hgm) (by simpa using List.find?_eq_none.mp hf g hg)
    | some f =>
      have hname : f.1 = m.1 := by simpa using List.find?_some hf
      refine ⟨f, rfl, h.passes f (List.mem_of_find?_eq_some hf) _ ?_⟩
      rw [hname]
      exact member?_of_mem hnames hm
  simp only [toTree, Form.decode, Form.ofObject, hscan, h.builds]
  rfl

/-! ## What was read -/

theorem Form.reads_map_iff {f : α → β} {b : β} :
    (f <$> form).Reads ms b ↔ ∃ a, form.Reads ms a ∧ f a = b := by
  constructor
  · rintro ⟨hpasses, hbuilds⟩
    obtain ⟨a, ha, h⟩ := map_eq_ok.mp hbuilds
    exact ⟨a, ⟨hpasses, ha⟩, h⟩
  · rintro ⟨a, h, rfl⟩
    exact h.map f

theorem Form.reads_seq_iff {g : Form (α → β)} {b : β} :
    (g <*> form).Reads ms b ↔ ∃ f a, g.Reads ms f ∧ form.Reads ms a ∧ f a = b := by
  constructor
  · rintro ⟨hpasses, hbuilds⟩
    obtain ⟨f, hf, hbuilds⟩ := bind_eq_ok.mp hbuilds
    obtain ⟨a, ha, hbuilds⟩ := bind_eq_ok.mp hbuilds
    cases hbuilds
    exact ⟨f, a, ⟨fun fld hfld => hpasses fld (List.mem_append_left _ hfld), hf⟩,
      ⟨fun fld hfld => hpasses fld (List.mem_append_right _ hfld), ha⟩, rfl⟩
  · rintro ⟨f, a, hf, ha, rfl⟩
    exact hf.seq ha

/-- A field with a default is the value of its member, or the default if there is none. -/
theorem reads_withDefault_iff {ms : Members} {default : α} :
    (Form.withDefault name dec default).Reads ms a ↔
      (∃ x, ms.get? name = some x ∧ dec (toTree x) = .ok a) ∨
        ms.get? name = none ∧ default = a := by
  cases hfind : ms.get? name with
  | none =>
    have hmember : member? ms name = none := by rw [member?_eq, hfind]; rfl
    constructor
    · rintro ⟨-, hbuilds⟩
      have hsource : (Source.ofMembers (toMemberTrees ms)).find name = none := hmember
      simp only [Form.withDefault, Form.field, hsource] at hbuilds
      cases hbuilds
      exact .inr ⟨rfl, rfl⟩
    · rintro (⟨x, hx, -⟩ | ⟨-, rfl⟩)
      · cases hx
      · exact reads_absent hmember
  | some x =>
    have hmember : member? ms name = some (toTree x) := by rw [member?_eq, hfind]; rfl
    constructor
    · rintro ⟨-, hbuilds⟩
      have hsource : (Source.ofMembers (toMemberTrees ms)).find name = some (toTree x) := hmember
      simp only [Form.withDefault, Form.field, hsource] at hbuilds
      refine .inl ⟨x, rfl, ?_⟩
      cases hdec : dec (toTree x) with
      | error fault => simp [hdec, inside, Except.mapError] at hbuilds
      | ok b =>
        rw [hdec] at hbuilds
        cases hbuilds
        rfl
    · rintro (⟨y, hy, hdec⟩ | ⟨hnone, -⟩)
      · cases hy
        exact reads_field hmember hdec
      · cases hnone

/-- A field with a default reads its member, if there is one. -/
theorem Form.Reads.of_withDefault {ms : Members} {default : α} {x : Json}
    (h : (Form.withDefault name dec default).Reads ms a) (hx : ms.get? name = some x) :
    dec (toTree x) = .ok a := by
  rcases reads_withDefault_iff.mp h with ⟨y, hy, hdec⟩ | ⟨hnone, -⟩
  · cases hx.symm.trans hy
    exact hdec
  · cases hx.symm.trans hnone

/-- Members of a value that was read before are read to the end exactly if those with a field pass
its check; the others are kept. -/
theorem scanMembers_keep_eq_ok {fields : List (String × (Tree → Except Fault Unit))}
    {seen : List String} {rest : Members} (hms : Unambiguous (.obj ms))
    (hseen : ∀ m ∈ ms, m.1 ∉ seen) :
    scanMembers fields (.keep .unlimited) seen (toMemberTrees ms) = .ok rest ↔
      (∀ m ∈ ms, ∀ f, fields.find? (·.1 == m.1) = some f → f.2 (toTree m.2) = .ok ()) ∧
        rest = ms.filter fun m => (fields.find? (·.1 == m.1)).isNone := by
  induction ms generalizing seen rest with
  | nil => simp [toMemberTrees, scanMembers, eq_comm]
  | cons m ms ih =>
    obtain ⟨hnames, hvalue, hvalues⟩ := hms
    have hms' : Unambiguous (.obj ms) := ⟨(List.nodup_cons.mp hnames).2, hvalues⟩
    rw [List.forall_mem_cons, toMemberTrees]
    cases hf : fields.find? (·.1 == m.1) with
    | some f =>
      rw [scanMembers_field hf (hseen m List.mem_cons_self), ih hms' (not_mem_seen hnames hseen),
        List.filter_cons_of_neg (by simp [hf]), and_assoc]
      simp only [Option.some.injEq, forall_eq']
    | none =>
      rw [scanMembers_kept hf, List.filter_cons_of_pos (by simp [hf])]
      constructor
      · rintro ⟨x, xs, hx, hxs, rfl⟩
        obtain ⟨hpass, rfl⟩ := (ih hms' fun n hn => hseen n (List.mem_cons_of_mem m hn)).mp hxs
        cases (anything_toTree m.2 hvalue).symm.trans hx
        exact ⟨⟨nofun, hpass⟩, rfl⟩
      · rintro ⟨⟨-, hpass⟩, rfl⟩
        refine ⟨m.2, _, anything_toTree m.2 hvalue, ?_, rfl⟩
        exact (ih hms' fun n hn => hseen n (List.mem_cons_of_mem m hn)).mpr ⟨hpass, rfl⟩

theorem Form.isNone_find?_fields (form : Form α) (name : String) :
    (form.fields.find? (·.1 == name)).isNone = decide (name ∉ form.names) := by
  rw [Bool.eq_iff_iff, Option.isNone_iff_eq_none, List.find?_eq_none, decide_eq_true_eq, Form.names,
    List.mem_map, not_exists]
  simp only [beq_iff_eq, not_and]

/-- The members of an object pass the checks of their fields exactly if the fields find members that
pass. -/
theorem Form.passes_iff (hform : form.names.Nodup) (hnames : (ms.map Prod.fst).Nodup) :
    (∀ m ∈ ms, ∀ f, form.fields.find? (·.1 == m.1) = some f → f.2 (toTree m.2) = .ok ()) ↔
      ∀ f ∈ form.fields, ∀ t, member? ms f.1 = some t → f.2 t = .ok () := by
  constructor
  · intro h f hf t ht
    rw [member?_eq, Members.get?, Option.map_map, Option.map_eq_some_iff] at ht
    obtain ⟨m, hm, rfl⟩ := ht
    have hname : m.1 = f.1 := by simpa using List.find?_some hm
    exact h m (List.mem_of_find?_eq_some hm) f (hname ▸ find?_of_mem hform hf)
  · intro h m hm f hf
    have hname : f.1 = m.1 := by simpa using List.find?_some hf
    exact h f (List.mem_of_find?_eq_some hf) _ (hname ▸ member?_of_mem hnames hm)

/-- **An object that was read before is read by a form exactly if the form reads a record from its
members.** Those without a field are kept as they are. -/
theorem Form.ofObject_eq_ok {rest : Members} (hform : form.names.Nodup)
    (hms : Unambiguous (.obj ms)) :
    form.ofObject (.keep .unlimited) (toMemberTrees ms) none = .ok (a, rest) ↔
      form.Reads ms a ∧ rest = ms.filter fun m => m.1 ∉ form.names := by
  have hscan (kept : Members) :
      scanMembers form.fields (.keep .unlimited) [] (toMemberTrees ms) = .ok kept ↔
        (∀ f ∈ form.fields, ∀ t, member? ms f.1 = some t → f.2 t = .ok ()) ∧
          kept = ms.filter fun m => m.1 ∉ form.names := by
    rw [scanMembers_keep_eq_ok hms fun _ _ => List.not_mem_nil, form.passes_iff hform hms.1]
    simp only [form.isNone_find?_fields]
  constructor
  · intro h
    obtain ⟨kept, hkept, h⟩ := bind_eq_ok.mp h
    obtain ⟨_, -, h⟩ := bind_eq_ok.mp h
    obtain ⟨b, hb, h⟩ := bind_eq_ok.mp h
    cases h
    obtain ⟨hpasses, hrest⟩ := (hscan rest).mp hkept
    exact ⟨⟨hpasses, hb⟩, hrest⟩
  · rintro ⟨⟨hpasses, hbuilds⟩, hrest⟩
    rw [Form.ofObject, (hscan rest).mpr ⟨hpasses, hrest⟩, hbuilds]
    rfl

/-- Members that are read to the end where no others may stand all have a field and pass its check.
-/
theorem scanMembers_refuse {fields : List (String × (Tree → Except Fault Unit))}
    {seen : List String} {rest : List (String × Json)}
    (h : scanMembers fields .refuse seen (toMemberTrees ms) = .ok rest) :
    ∀ m ∈ ms, ∃ f, fields.find? (·.1 == m.1) = some f ∧ f.2 (toTree m.2) = .ok () := by
  induction ms generalizing seen with
  | nil => exact nofun
  | cons m ms ih =>
    rw [toMemberTrees, scanMembers] at h
    cases hf : fields.find? (·.1 == m.1) with
    | none =>
      rw [hf] at h
      cases h
    | some f =>
      simp only [hf] at h
      split at h
      · cases h
      obtain ⟨⟨⟩, hcheck, h⟩ := bind_eq_ok.mp h
      exact List.forall_mem_cons.mpr ⟨⟨f, hf, mapError_eq_ok.mp hcheck⟩, ih h⟩

/-- Where no members without a field may stand, an object that is read as a record is one from whose
members the form reads it. -/
theorem Form.reads_of_extract (hform : form.names.Nodup) (hnames : (ms.map Prod.fst).Nodup)
    {type : String} (h : form.extract type (toTree (.obj ms)) = .ok a) : form.Reads ms a := by
  have hobject : (form.ofObject .refuse (toMemberTrees ms) none).map Prod.fst = .ok a := h
  obtain ⟨⟨b, kept⟩, hread, rfl⟩ := map_eq_ok.mp hobject
  obtain ⟨rest, hscan, hread⟩ := bind_eq_ok.mp hread
  obtain ⟨_, -, hread⟩ := bind_eq_ok.mp hread
  obtain ⟨_, hb, hread⟩ := bind_eq_ok.mp hread
  cases hread
  refine ⟨(form.passes_iff hform hnames).mp fun m hm f hf => ?_, hb⟩
  obtain ⟨g, hg, hpass⟩ := scanMembers_refuse hscan m hm
  cases hf.symm.trans hg
  exact hpass

end Reads

/-! ## Values of members -/

section Values

variable {x : Json} {ms : Members} {name : String}

theorem expected_ne_ok {what : String} {t : Tree} {a : α} : expected what t ≠ .ok a := by
  rw [expected]
  cases t.describe <;> exact nofun

theorem string_eq_ok {s : String} : string (toTree x) = .ok s ↔ x = .str s := by
  cases x with
  | str t => simp [toTree, string]
  | _ => exact iff_of_false expected_ne_ok nofun

theorem whole_eq_ok {what : String} {low high i : Int} :
    whole what low high (toTree x) = .ok i ↔ x = .int i ∧ low ≤ i ∧ i ≤ high := by
  cases x with
  | num number =>
    cases number with
    | int j =>
      simp only [toTree, whole, int, num.injEq, Number.int.injEq]
      split
      · rename_i hj
        constructor
        · intro h
          cases h
          exact ⟨rfl, hj⟩
        · rintro ⟨rfl, -⟩
          rfl
      · rename_i hj
        constructor
        · intro h
          cases h
        · rintro ⟨rfl, hi⟩
          exact absurd hi hj
    | float d => exact iff_of_false expected_ne_ok (by simp [int])
  | _ => exact iff_of_false expected_ne_ok (by simp [int])

theorem nullable_eq_ok {dec : Decoder α} {o : Option α} : nullable dec (toTree x) = .ok o ↔
    (x = .null ∧ o = none) ∨ x ≠ .null ∧ ∃ a, dec (toTree x) = .ok a ∧ some a = o := by
  cases x with
  | null => simp [toTree, nullable, eq_comm]
  | _ =>
    simp only [reduceCtorEq, false_and, false_or, ne_eq, not_false_eq_true, true_and]
    exact map_eq_ok

/-- A list is read item by item. -/
theorem list_eq_ok {dec : Decoder α} {as : List α} : list dec (toTree x) = .ok as ↔
    ∃ xs, x = .arr xs ∧ List.Forall₂ (fun y a => dec (toTree y) = .ok a) xs as := by
  have hitems (i : Nat) (xs : List Json) (bs : List α) : eachItem dec i (toTrees xs) = .ok bs ↔
      List.Forall₂ (fun y a => dec (toTree y) = .ok a) xs bs := by
    induction xs generalizing i bs with
    | nil => simp [toTrees, eachItem, eq_comm]
    | cons y ys ih =>
      simp only [toTrees, eachItem, bind_eq_ok, inside, mapError_eq_ok,
        List.forall₂_cons_left_iff, ih]
      constructor
      · rintro ⟨b, hb, bs', hbs, ⟨⟩⟩
        exact ⟨b, bs', hb, hbs, rfl⟩
      · rintro ⟨b, bs', hb, hbs, rfl⟩
        exact ⟨b, hb, bs', hbs, rfl⟩
  cases x with
  | arr xs =>
    simp only [toTree, list, bind_eq_ok, hitems, arr.injEq, exists_eq_left']
    constructor
    · rintro ⟨bs, hbs, -, -, ⟨⟩⟩
      exact hbs
    · exact fun h => ⟨as, h, (), rfl, rfl⟩
  | _ => exact iff_of_false expected_ne_ok nofun

/-- A name that is known stands for what is named. -/
theorem mem_of_named {names : List (String × α)} {a : α} (h : named names name = .ok a) :
    (name, a) ∈ names := by
  rw [named] at h
  split at h
  · rename_i n b hfind
    cases h
    have hname : n = name := by simpa using List.find?_some hfind
    exact hname ▸ List.mem_of_find?_eq_some hfind
  · cases h

/-- A member that may be null or absent, with the value that it stands for. -/
def Given (ms : Members) (name : String) (encode : α → Json) : Option α → Prop
  | none => ms.get? name = none ∨ ms.get? name = some .null
  | some a => ms.get? name = some (encode a)

/-- A field that may be null or absent is read as what the member stands for. -/
theorem reads_absentOk_iff {dec : Decoder α} {encode : α → Json}
    (hdec : ∀ x a, dec (toTree x) = .ok a ↔ x = encode a) (hnull : ∀ a, encode a ≠ .null)
    {o : Option α} : (Form.absentOk name dec).Reads ms o ↔ Given ms name encode o := by
  rw [Form.absentOk, reads_withDefault_iff]
  simp only [nullable_eq_ok, hdec]
  cases o with
  | none => simp [Given, or_comm]
  | some a =>
    simp only [Given, reduceCtorEq, and_false, false_or, or_false, Option.some.injEq,
      exists_eq_right]
    constructor
    · rintro ⟨x, hx, -, rfl⟩
      exact hx
    · intro hx
      exact ⟨encode a, hx, hnull a, rfl⟩

theorem exists_given_iff {encode : α → Json} : (∃ o, Given ms name encode o) ↔
    ∀ x, ms.get? name = some x → x = .null ∨ ∃ a, x = encode a := by
  constructor
  · rintro ⟨o, ho⟩ x hx
    cases o with
    | none =>
      rcases ho with hnone | hnull
      · cases hnone.symm.trans hx
      · exact .inl (Option.some.inj (hx.symm.trans hnull))
    | some a => exact .inr ⟨a, Option.some.inj (hx.symm.trans ho)⟩
  · intro h
    cases hx : ms.get? name with
    | none => exact ⟨none, .inl hx⟩
    | some x =>
      rcases h x hx with rfl | ⟨a, rfl⟩
      · exact ⟨none, .inr hx⟩
      · exact ⟨some a, hx⟩

end Values

end Gatehouse.Json
