import Gatehouse.Company.ListRequest
import Gatehouse.Company.Order
import Gatehouse.Proofs.Numeral
import Gatehouse.Proofs.Text.Trimming
import Gatehouse.Proofs.Uuid

/-!
# The parameters of a listing

The lists among the parameters of a listing are read back from every way of writing them: with commas,
any blanks around the entries, and any number of blank entries between. What cannot be read is told
apart exactly: an identifier that is none, a number that belongs to no legal form, a key that is no name
of a column, one space, blanks, and a direction in any letter case. The first such entry is the error, and
identifiers come before legal forms.

The vocabulary is `ListRequest.WrittenAs`, a parameter with its entries, `ListRequest.Holds`, the entries
that a parameter has, `SortKey.Spelled`, the grammar of keys, and `FirstWithout`.
-/

namespace Gatehouse

/-! ## Reading one after another -/

/-- The first in a list that does not have a property. -/
def FirstWithout {α : Type} (P : α → Prop) (xs : List α) (x : α) : Prop :=
  ∃ before after, xs = before ++ x :: after ∧ (∀ y ∈ before, P y) ∧ ¬P x

theorem firstWithout_nil {α : Type} {P : α → Prop} {x : α} : ¬FirstWithout P [] x := by
  rintro ⟨before, after, heq, -, -⟩
  cases before <;> cases heq

theorem firstWithout_cons_of_pos {α : Type} {P : α → Prop} {x y : α} {xs : List α} (hx : P x) :
    FirstWithout P (x :: xs) y ↔ FirstWithout P xs y := by
  constructor
  · rintro ⟨before, after, heq, hbefore, hy⟩
    cases before with
    | nil =>
      cases heq
      exact absurd hx hy
    | cons z before =>
      cases heq
      exact ⟨before, after, rfl, (List.forall_mem_cons.mp hbefore).2, hy⟩
  · rintro ⟨before, after, rfl, hbefore, hy⟩
    exact ⟨x :: before, after, rfl, List.forall_mem_cons.mpr ⟨hx, hbefore⟩, hy⟩

theorem firstWithout_cons_of_neg {α : Type} {P : α → Prop} {x y : α} {xs : List α} (hx : ¬P x) :
    FirstWithout P (x :: xs) y ↔ y = x := by
  constructor
  · rintro ⟨before, after, heq, hbefore, hy⟩
    cases before with
    | nil =>
      cases heq
      rfl
    | cons z before =>
      cases heq
      exact absurd (hbefore x List.mem_cons_self) hx
  · rintro rfl
    exact ⟨[], xs, rfl, nofun, hx⟩

namespace ListRequest

section ReadAll

variable {α : Type} {read : String → Except RegistryError α} {value? : String → Option α}
  {complaint : String → RegistryError}

/-- An entry is read as its value, and there is a complaint about an entry without value. -/
def Reads (read : String → Except RegistryError α) (value? : String → Option α)
    (complaint : String → RegistryError) : Prop :=
  ∀ s, read s = (value? s).elim (.error (complaint s)) .ok

theorem Reads.eq_ok_iff (h : Reads read value? complaint) {s : String} {a : α} :
    read s = .ok a ↔ value? s = some a := by
  rw [h s]
  cases value? s <;> simp

theorem readAll_cons_eq_ok_iff {s : String} {ss : List String} {as : List α} :
    readAll read (s :: ss) = .ok as ↔
      ∃ a rest, read s = .ok a ∧ readAll read ss = .ok rest ∧ as = a :: rest := by
  rw [readAll]
  cases read s <;> cases readAll read ss <;>
    simp [Bind.bind, Except.bind, Pure.pure, Except.pure, eq_comm]

/-- A list is read if each entry has a value. -/
theorem readAll_eq_ok_iff (h : Reads read value? complaint) {ss : List String} {as : List α} :
    readAll read ss = .ok as ↔ List.Forall₂ (fun s a => value? s = some a) ss as := by
  induction ss generalizing as with
  | nil => cases as <;> simp [readAll]
  | cons s ss ih =>
    rw [readAll_cons_eq_ok_iff, List.forall₂_cons_left_iff]
    simp only [h.eq_ok_iff, ih]

/-- The first entry without a value is the error. -/
theorem readAll_eq_error_iff (h : Reads read value? complaint) {ss : List String}
    {e : RegistryError} : readAll read ss = .error e ↔
      ∃ s, FirstWithout (fun t => ∃ a, value? t = some a) ss s ∧ e = complaint s := by
  induction ss with
  | nil => simp [readAll, firstWithout_nil]
  | cons s ss ih =>
    rw [readAll, h s]
    cases hs : value? s with
    | none =>
      have hnone : ¬∃ a, value? s = some a := by simp [hs]
      simp [firstWithout_cons_of_neg (P := fun t => ∃ a, value? t = some a) hnone, Bind.bind,
        Except.bind, eq_comm]
    | some a =>
      simp only [firstWithout_cons_of_pos (P := fun t => ∃ a, value? t = some a) ⟨a, hs⟩, ← ih]
      cases readAll read ss <;> simp [Bind.bind, Except.bind, Pure.pure, Except.pure]

/-- A list that is read has a value for each entry, and a list with a value for each entry is read. -/
theorem exists_readAll_iff (h : Reads read value? complaint) {ss : List String} :
    (∃ as, readAll read ss = .ok as) ↔ ∀ s ∈ ss, ∃ a, value? s = some a := by
  constructor
  · rintro ⟨as, has⟩
    have hvalues := (readAll_eq_ok_iff h).mp has
    clear has
    induction hvalues with
    | nil => exact nofun
    | cons ha _ ih => exact List.forall_mem_cons.mpr ⟨⟨_, ha⟩, ih⟩
  · intro hall
    cases hread : readAll read ss with
    | ok as => exact ⟨as, rfl⟩
    | error e =>
      obtain ⟨s, ⟨before, after, rfl, -, hs⟩, -⟩ := (readAll_eq_error_iff h).mp hread
      exact absurd (hall s (by simp)) hs

/-- What is written one by one is read back. -/
theorem readAll_map (h : Reads read value? complaint) {write : α → String}
    (hwrite : ∀ a, value? (write a) = some a) (as : List α) :
    readAll read (as.map write) = .ok as := by
  rw [readAll_eq_ok_iff h, List.forall₂_map_left_iff, List.forall₂_same]
  exact fun a _ => hwrite a

end ReadAll

end ListRequest

/-! ## Keys -/

namespace SortKey

/-- An entry spells a key: without the blanks around it, it is the name of a column, one space, any
blanks, and the word for a direction in any letter case. -/
def Spelled (entry : String) (k : SortKey) : Prop :=
  ∃ front gap word back, Text.Blanks front ∧ Text.Blanks gap ∧ Text.Blanks back ∧
    entry.toList = front ++ (k.field.text.toList ++ ' ' :: (gap ++ word)) ++ back ∧
    Text.InAnyCase word (if k.descending then ['D', 'E', 'S', 'C'] else ['A', 'S', 'C'])

theorem ofText?_eq_some_iff {name : String} {f : SortField} :
    SortField.ofText? name = some f ↔ name = f.text := by
  constructor
  · intro h
    have hname := List.find?_some (show SortField.all.find? (fun g => g.text == name) = some f from h)
    exact (beq_iff_eq.mp hname).symm
  · rintro rfl
    cases f <;> decide

theorem descending?_eq_some_iff {word : List Char} {descending : Bool} :
    descending? word = some descending ↔
      Text.InAnyCase word (if descending then ['D', 'E', 'S', 'C'] else ['A', 'S', 'C']) := by
  have hasc : Text.sameIgnoringCase word ascendingWord = true ↔
      Text.InAnyCase word ['A', 'S', 'C'] :=
    Text.sameIgnoringCase_iff (show Text.Capitals ['A', 'S', 'C'] by decide)
  have hdesc : Text.sameIgnoringCase word descendingWord = true ↔
      Text.InAnyCase word ['D', 'E', 'S', 'C'] :=
    Text.sameIgnoringCase_iff (show Text.Capitals ['D', 'E', 'S', 'C'] by decide)
  have hlength : Text.InAnyCase word ['A', 'S', 'C'] → ¬Text.InAnyCase word ['D', 'E', 'S', 'C'] :=
    fun h₁ h₂ => absurd (h₁.length_eq.symm.trans h₂.length_eq) (by decide)
  rw [descending?]
  by_cases h₁ : Text.InAnyCase word ['A', 'S', 'C']
  · rw [if_pos (hasc.mpr h₁)]
    cases descending <;> simp [h₁, hlength h₁]
  · rw [if_neg (mt hasc.mp h₁)]
    by_cases h₂ : Text.InAnyCase word ['D', 'E', 'S', 'C']
    · rw [if_pos (hdesc.mpr h₂)]
      cases descending <;> simp [h₁, h₂]
    · rw [if_neg (mt hdesc.mp h₂)]
      cases descending <;> simp [h₁, h₂]

/-- A name of a column has no blank. -/
theorem visible_text (f : SortField) : Text.Visible f.text.toList := by
  cases f <;> decide

/-- The word for a direction has at least one character and no blank, whatever its letter case is. -/
theorem visible_direction {word : List Char} {descending : Bool}
    (h : Text.InAnyCase word (if descending then ['D', 'E', 'S', 'C'] else ['A', 'S', 'C'])) :
    word ≠ [] ∧ Text.Visible word := by
  constructor
  · rintro rfl
    cases descending <;> cases h
  · refine h.visible ?_
    cases descending <;> decide

theorem trimmed_spelled (f : SortField) (gap : List Char) {word : List Char} {descending : Bool}
    (h : Text.InAnyCase word (if descending then ['D', 'E', 'S', 'C'] else ['A', 'S', 'C'])) :
    Text.Trimmed (f.text.toList ++ ' ' :: (gap ++ word)) := by
  obtain ⟨hne, hvisible⟩ := visible_direction h
  constructor
  · have hhead : (f.text.toList ++ ' ' :: (gap ++ word)).head? = f.text.toList.head? := by
      cases f <;> rfl
    rw [hhead]
    exact fun c hc => visible_text f c (List.mem_of_mem_head? hc)
  · have hlast : (f.text.toList ++ ' ' :: (gap ++ word)).getLast? = word.getLast? := by
      rw [← List.cons_append, ← List.append_assoc, List.getLast?_append_of_ne_nil _ hne]
    rw [hlast]
    exact fun c hc => hvisible c (List.mem_of_getLast? hc)

/-- **A key is read exactly if the entry spells it.** -/
theorem parse?_eq_some_iff {entry : String} {k : SortKey} :
    parse? entry = some k ↔ Spelled entry k := by
  obtain ⟨f, descending⟩ := k
  simp only [parse?, Option.bind_eq_bind, Option.bind_eq_some_iff, Option.some.injEq, mk.injEq]
  constructor
  · rintro ⟨⟨column, direction⟩, hcut, _, hfield, _, hdirection, rfl, rfl⟩
    obtain ⟨front, back, hfront, hback, hentry⟩ := Text.exists_padding entry.toList
    obtain ⟨gap, rest, hgap, hrest, hpadded⟩ := Text.exists_padding direction
    refine ⟨front, gap, Text.trimChars direction, rest ++ back, hfront, hgap, hrest.append hback, ?_,
      descending?_eq_some_iff.mp hdirection⟩
    have hcolumn := congrArg String.toList (ofText?_eq_some_iff.mp hfield)
    rw [String.toList_ofList] at hcolumn
    change column = _ at hcolumn
    rw [hentry, Text.eq_of_cutAt hcut, hcolumn]
    nth_rewrite 1 [hpadded]
    simp
  · rintro ⟨front, gap, word, back, hfront, hgap, hback, hentry, hword⟩
    obtain ⟨-, hvisible⟩ := visible_direction hword
    have hspace : ' ' ∉ f.text.toList := fun hmem => by cases visible_text f ' ' hmem
    have hdirection : Text.trimChars (gap ++ word) = word := by
      have hpadded := Text.trimChars_padded hgap Text.blanks_nil hvisible.trimmed
      rwa [List.append_nil] at hpadded
    refine ⟨(f.text.toList, gap ++ word), ?_, f, ?_, descending, ?_, rfl, rfl⟩
    · rw [hentry, Text.trimChars_padded hfront hback (trimmed_spelled f gap hword),
        Text.cutAt_append hspace]
    · rw [String.ofList_toList, ofText?_eq_some_iff]
    · rw [hdirection, descending?_eq_some_iff]
      exact hword

/-- Every key is read back from its written form. -/
theorem parse?_text (k : SortKey) : parse? k.text = some k := by
  obtain ⟨f, descending⟩ := k
  rw [parse?_eq_some_iff]
  cases descending
  · refine ⟨[], [], ['A', 'S', 'C'], [], nofun, nofun, nofun, ?_, ?_⟩
    · simp [text]
    · simp [Text.InAnyCase]
  · refine ⟨[], [], ['D', 'E', 'S', 'C'], [], nofun, nofun, nofun, ?_, ?_⟩
    · simp [text]
    · simp [Text.InAnyCase]

theorem reads_parse : ListRequest.Reads parse parse?
    fun s => .invalid "order_by" s!"must be a valid value: '{s}'" := by
  intro s
  rw [parse]
  cases parse? s <;> rfl

theorem parseAll_eq_readAll (entries : List String) :
    parseAll entries = ListRequest.readAll parse entries := by
  induction entries with
  | nil => rfl
  | cons entry entries ih => rw [parseAll, ListRequest.readAll, ih]

/-- Keys that are written and read again are the same keys. -/
theorem parseAll_map_text (keys : List SortKey) : parseAll (keys.map text) = .ok keys := by
  rw [parseAll_eq_readAll]
  exact ListRequest.readAll_map reads_parse parse?_text keys

/-- Keys are read if each entry spells one. -/
theorem parseAll_eq_ok_iff {entries : List String} {keys : List SortKey} :
    parseAll entries = .ok keys ↔ List.Forall₂ Spelled entries keys := by
  rw [parseAll_eq_readAll, ListRequest.readAll_eq_ok_iff reads_parse]
  simp only [parse?_eq_some_iff]

/-- The first entry that spells no key is the error. -/
theorem parseAll_eq_error_iff {entries : List String} {e : RegistryError} :
    parseAll entries = .error e ↔ ∃ s, FirstWithout (fun t => ∃ k, Spelled t k) entries s ∧
      e = .invalid "order_by" s!"must be a valid value: '{s}'" := by
  rw [parseAll_eq_readAll, ListRequest.readAll_eq_error_iff reads_parse]
  simp only [parse?_eq_some_iff]

end SortKey

/-! ## Identifiers and legal forms -/

theorem LegalForm.ofCode?_eq_some_iff {n : Nat} {f : LegalForm} :
    ofCode? n = some f ↔ n = f.code := by
  constructor
  · intro h
    unfold ofCode? at h
    split at h <;> cases h <;> rfl
  · rintro rfl
    exact ofCode?_code f

namespace ListRequest

/-- The legal form with the number that an entry spells. -/
def legalForm? (raw : String) : Option LegalForm :=
  (Numeral.read 0 255 raw.toList).toOption.bind fun n => LegalForm.ofCode? n.toNat

theorem legalForm?_eq_some_iff {raw : String} {f : LegalForm} :
    legalForm? raw = some f ↔ Numeral.Spells raw.toList f.code := by
  have hread : ∀ n, (Numeral.read 0 255 raw.toList).toOption = some n ↔
      ∃ m ≤ 255, Numeral.Spells raw.toList m ∧ n = m := by
    intro n
    rw [← Numeral.read_eq_ok_iff]
    cases Numeral.read 0 255 raw.toList <;> simp [Except.toOption]
  have hcode : f.code ≤ 255 := by cases f <;> decide
  simp only [legalForm?, Option.bind_eq_some_iff, hread, LegalForm.ofCode?_eq_some_iff]
  constructor
  · rintro ⟨_, ⟨m, -, hspells, rfl⟩, hm⟩
    rwa [← hm]
  · intro hspells
    exact ⟨_, ⟨f.code, hcode, hspells, rfl⟩, rfl⟩

theorem reads_id : Reads readId Uuid.parse?
    fun s => .invalid "ids" s!"'{s}' is not a valid UUID" := by
  intro s
  rw [readId]
  cases Uuid.parse? s <;> rfl

theorem reads_legalForm : Reads readLegalForm legalForm?
    fun s => .invalid "types" s!"'{s}' is not a company type" := by
  intro s
  rw [readLegalForm, ← legalForm?]
  cases legalForm? s <;> rfl

theorem legalForm?_toString (f : LegalForm) : legalForm? (toString f.code) = some f := by
  cases f <;> decide

/-! ## Written lists -/

/-- A parameter is one of the ways to write some entries: with commas, blanks around the entries, and
blank entries anywhere. The empty list may also be left out. -/
def WrittenAs (raw : Option String) (es : List String) : Prop :=
  ∃ ps, Text.Padded ps (es.map String.toList) ∧ (raw.getD "").toList = [','].intercalate ps

/-- These are the entries of a parameter, without the blanks around them. -/
structure Holds (raw : Option String) (es : List String) : Prop where
  entry : ∀ e ∈ es, Text.Entry e.toList
  written : WrittenAs raw es

theorem entries_eq (raw : Option String) : entries raw =
    (Text.visibleParts (Text.parts ',' (raw.getD "").toList)).map String.ofList := rfl

/-- **The entries of a parameter are those that it is written with.** -/
theorem entries_eq_iff {raw : Option String} {es : List String} :
    entries raw = es ↔ Holds raw es := by
  rw [entries_eq]
  constructor
  · rintro rfl
    refine ⟨fun e he => ?_, Text.parts ',' (raw.getD "").toList, ?_, ?_⟩
    · obtain ⟨part, hpart, rfl⟩ := List.mem_map.mp he
      rw [String.toList_ofList]
      exact Text.entry_of_mem_visibleParts hpart
    · simpa [Function.comp_def] using
        Text.padded_visibleParts (Text.parts ',' (raw.getD "").toList)
    · rw [Text.parts_eq_splitOn, List.intercalate_splitOn]
  · rintro ⟨hentry, ps, hpadded, hraw⟩
    have hentries : ∀ e ∈ es.map String.toList, Text.Entry e := List.forall_mem_map.mpr hentry
    rw [hraw, Text.visibleParts_intercalate (hpadded.not_mem hentries),
      hpadded.visibleParts_eq hentries]
    simp [Function.comp_def]

theorem entry_uuid (u : Uuid) : Text.Entry u.text.toList := by
  rw [Uuid.text, String.toList_ofList]
  refine ⟨?_, Text.Visible.trimmed fun c hc => ?_, fun hcomma => ?_⟩
  · rw [← List.length_pos_iff, Uuid.length_chars]
    decide
  · have hbounds := Uuid.bounds_of_mem_chars hc
    exact Text.not_isBlank_of_bounds (by omega) (by omega)
  · exact absurd (Uuid.bounds_of_mem_chars hcomma).1 (by decide)

theorem entry_code (f : LegalForm) : Text.Entry (toString f.code).toList := by
  cases f <;> exact ⟨by decide, by decide, by decide⟩

theorem entry_key (k : SortKey) : Text.Entry k.text.toList := by
  obtain ⟨f, descending⟩ := k
  cases f <;> cases descending <;> exact ⟨by decide, by decide, by decide⟩

/-- The entries of a parameter that is written with some values are these values. -/
theorem entries_map {α : Type} {write : α → String} (hwrite : ∀ a, Text.Entry (write a).toList)
    {raw : Option String} {as : List α} (h : WrittenAs raw (as.map write)) :
    entries raw = as.map write :=
  entries_eq_iff.mpr ⟨List.forall_mem_map.mpr fun a _ => hwrite a, h⟩

/-! ## Requests -/

/-- Lists are read back from every way of writing them. -/
theorem toFilter_written {q : ListRequest} {ids : List Uuid} {forms : List LegalForm}
    {keys : List SortKey} (hids : WrittenAs q.ids (ids.map Uuid.text))
    (hforms : WrittenAs q.legalForms (forms.map fun f => toString f.code))
    (hkeys : WrittenAs q.orderBy (keys.map SortKey.text)) :
    q.toFilter = .ok ⟨ids, q.pageSize, q.pageNumber, keys.map SortKey.text, q.search, forms,
      q.registered⟩ := by
  rw [toFilter, entries_map entry_uuid hids, entries_map entry_code hforms,
    entries_map entry_key hkeys, readAll_map reads_id Uuid.parse?_text,
    readAll_map reads_legalForm legalForm?_toString]
  rfl

/-- A request is refused for its first bad identifier, or if there is none for its first bad number of
a legal form. -/
theorem toFilter_eq_error_iff {q : ListRequest} {e : RegistryError} : q.toFilter = .error e ↔
    (∃ s, FirstWithout (fun t => ∃ id, Uuid.parse? t = some id) (entries q.ids) s ∧
        e = .invalid "ids" s!"'{s}' is not a valid UUID") ∨
      ((∀ t ∈ entries q.ids, ∃ id, Uuid.parse? t = some id) ∧
        ∃ s, FirstWithout (fun t => ∃ f : LegalForm, Numeral.Spells t.toList f.code)
            (entries q.legalForms) s ∧
          e = .invalid "types" s!"'{s}' is not a company type") := by
  have hforms : readAll readLegalForm (entries q.legalForms) = .error e ↔ _ :=
    readAll_eq_error_iff reads_legalForm
  simp only [legalForm?_eq_some_iff] at hforms
  rw [← readAll_eq_error_iff reads_id, ← exists_readAll_iff reads_id, ← hforms, toFilter]
  cases readAll readId (entries q.ids) with
  | error e' => simp [Bind.bind, Except.bind]
  | ok ids =>
    cases readAll readLegalForm (entries q.legalForms) <;>
      simp [Bind.bind, Except.bind, Pure.pure, Except.pure]

/-- **Lists of parameters are read back, and refused exactly where they have to be.** -/
theorem list_query_codec :
    -- a parameter holds one list of entries
    (∀ raw, ∃ es, ∀ es', Holds raw es' ↔ es' = es) ∧
    -- whatever is written, with whatever blanks and blank entries, is read back
    (∀ (q : ListRequest) ids forms keys, WrittenAs q.ids (ids.map Uuid.text) →
      WrittenAs q.legalForms (forms.map fun f => toString f.code) →
      WrittenAs q.orderBy (keys.map SortKey.text) →
        ∃ orderBy, q.toFilter =
            .ok ⟨ids, q.pageSize, q.pageNumber, orderBy, q.search, forms, q.registered⟩ ∧
          SortKey.parseAll orderBy = .ok keys) ∧
    -- what is refused, and with which error
    (∀ (q : ListRequest) ids forms, Holds q.ids ids → Holds q.legalForms forms →
      ∀ e, q.toFilter = .error e ↔
        (∃ s, FirstWithout (fun t => ∃ id, Uuid.parse? t = some id) ids s ∧
            e = .invalid "ids" s!"'{s}' is not a valid UUID") ∨
          ((∀ t ∈ ids, ∃ id, Uuid.parse? t = some id) ∧
            ∃ s, FirstWithout (fun t => ∃ f : LegalForm, Numeral.Spells t.toList f.code) forms s ∧
              e = .invalid "types" s!"'{s}' is not a company type")) ∧
    (∀ entries keys, SortKey.parseAll entries = .ok keys ↔
      List.Forall₂ SortKey.Spelled entries keys) ∧
    (∀ entries e, SortKey.parseAll entries = .error e ↔
      ∃ s, FirstWithout (fun t => ∃ k, SortKey.Spelled t k) entries s ∧
        e = .invalid "order_by" s!"must be a valid value: '{s}'") ∧
    -- keys that are accepted are the same when they are written and read again
    ∀ entries keys, SortKey.parseAll entries = .ok keys →
      SortKey.parseAll (keys.map SortKey.text) = .ok keys := by
  refine ⟨fun raw => ⟨entries raw, fun es => ?_⟩, fun q ids forms keys hids hforms hkeys => ?_,
    fun q ids forms hids hforms e => ?_, fun _ _ => SortKey.parseAll_eq_ok_iff,
    fun _ _ => SortKey.parseAll_eq_error_iff, fun _ keys _ => SortKey.parseAll_map_text keys⟩
  · rw [← entries_eq_iff, eq_comm]
  · exact ⟨_, toFilter_written hids hforms hkeys, SortKey.parseAll_map_text keys⟩
  · rw [← entries_eq_iff] at hids hforms
    rw [toFilter_eq_error_iff, hids, hforms]

/-- A request with two legal forms and two keys between blanks and blank entries. -/
def paddedRequest : ListRequest :=
  { empty with legalForms := some " 2 ,,\t4", orderBy := some ",type DESC , name ASC" }

/-- The blanks and the blank entries do not count, and an identifier that is none is named. -/
theorem list_query_codec_padded :
    (∃ orderBy, paddedRequest.toFilter = .ok ⟨[], none, none, orderBy, none,
        [.nonProfit, .soleProprietorship], none⟩ ∧
      SortKey.parseAll orderBy = .ok [⟨.legalForm, true⟩, ⟨.name, false⟩]) ∧
    { paddedRequest with ids := some " , x" }.toFilter =
      .error (.invalid "ids" "'x' is not a valid UUID") := by
  obtain ⟨-, hwritten, hrefused, -⟩ := list_query_codec
  have hforms : Holds paddedRequest.legalForms ["2", "4"] := entries_eq_iff.mp (by decide)
  have hkeys : Holds paddedRequest.orderBy ["type DESC", "name ASC"] :=
    entries_eq_iff.mp (by decide)
  have hids : Holds (some " , x") ["x"] := entries_eq_iff.mp (by decide)
  refine ⟨hwritten paddedRequest [] _ _ ⟨[], .nil, rfl⟩ hforms.written hkeys.written, ?_⟩
  refine (hrefused { paddedRequest with ids := some " , x" } ["x"] ["2", "4"] hids hforms _).mpr
    (.inl ⟨"x", ⟨[], [], rfl, nofun, ?_⟩, rfl⟩)
  rintro ⟨id, hid⟩
  cases hid

end ListRequest

end Gatehouse
