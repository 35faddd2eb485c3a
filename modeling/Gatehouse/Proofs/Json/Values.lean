import Gatehouse.Json.Decode
import Mathlib.Data.List.Nodup

/-!
# Values

A value that was read names no member of an object twice: a later mention of a member has replaced
the value of the first. Reading such a value again gives the value itself, however deep it is.
-/

namespace Gatehouse

/-- Two steps succeed when the first does and the second does with what the first has found. -/
theorem bind_eq_ok {ε α β : Type} {x : Except ε α} {f : α → Except ε β} {b : β} :
    (x >>= f) = .ok b ↔ ∃ a, x = .ok a ∧ f a = .ok b := by
  cases x <;> simp [Bind.bind, Except.bind]

theorem map_eq_ok {ε α β : Type} {x : Except ε α} {f : α → β} {b : β} :
    x.map f = .ok b ↔ ∃ a, x = .ok a ∧ f a = b := by
  cases x <;> simp [Except.map]

theorem mapError_eq_ok {ε δ α : Type} {x : Except ε α} {f : ε → δ} {a : α} :
    x.mapError f = .ok a ↔ x = .ok a := by
  cases x <;> simp [Except.mapError]

theorem toOption_eq_some {ε α : Type} {x : Except ε α} {a : α} :
    x.toOption = some a ↔ x = .ok a := by
  cases x <;> simp [Except.toOption]

/-- Among pairs with different first parts, each is found by its own. -/
theorem find?_of_mem {β : Type} {ps : List (String × β)} {p : String × β}
    (h : (ps.map Prod.fst).Nodup) (hp : p ∈ ps) : ps.find? (·.1 == p.1) = some p := by
  induction ps with
  | nil => cases hp
  | cons q ps ih =>
    obtain ⟨hfresh, h⟩ := List.nodup_cons.mp h
    rcases List.mem_cons.mp hp with rfl | hp
    · simp
    · have hne : (q.1 == p.1) = false := by
        simpa using fun heq : q.1 = p.1 => hfresh (heq ▸ List.mem_map_of_mem hp)
      rw [List.find?_cons, hne]
      exact ih h hp

/-! ## Members -/

namespace Members

variable {ms : Members} {m : String × Json} {name : String} {value : Json}

theorem map_fst_put (name : String) (value : Json) (ms : Members) :
    (put name value ms).map Prod.fst =
      if name ∈ ms.map Prod.fst then ms.map Prod.fst else ms.map Prod.fst ++ [name] := by
  induction ms with
  | nil => simp [put]
  | cons m ms ih =>
    by_cases h : m.1 = name
    · simp [put, h]
    · rw [put, if_neg h, List.map_cons, ih]
      by_cases hmem : name ∈ ms.map Prod.fst
      · rw [if_pos hmem, List.map_cons, if_pos (List.mem_cons_of_mem _ hmem)]
      · have hnot : name ∉ m.1 :: ms.map Prod.fst :=
          List.not_mem_cons_of_ne_of_not_mem (Ne.symm h) hmem
        rw [if_neg hmem, List.map_cons, if_neg hnot, List.cons_append]

theorem put_of_not_mem (h : name ∉ ms.map Prod.fst) : put name value ms = ms ++ [(name, value)] := by
  induction ms with
  | nil => rfl
  | cons m ms ih =>
    obtain ⟨hne, hnot⟩ := List.ne_and_not_mem_of_not_mem_cons h
    rw [put, if_neg (Ne.symm hne), ih hnot, List.cons_append]

theorem mem_of_mem_put (h : m ∈ put name value ms) : m = (name, value) ∨ m ∈ ms := by
  induction ms with
  | nil => exact .inl (List.mem_singleton.mp h)
  | cons n ms ih =>
    rw [put] at h
    split at h
    · exact (List.mem_cons.mp h).imp_right (List.mem_cons_of_mem n)
    · rcases List.mem_cons.mp h with rfl | h
      · exact .inr List.mem_cons_self
      · exact (ih h).imp_right (List.mem_cons_of_mem n)

/-- Each name is mentioned once in the end. -/
theorem nodup_ofMentions (ms : Members) : ((ofMentions ms).map Prod.fst).Nodup := by
  have hrun (acc : Members) (hacc : (acc.map Prod.fst).Nodup) :
      ((ms.foldl (fun acc m => put m.1 m.2 acc) acc).map Prod.fst).Nodup := by
    induction ms generalizing acc with
    | nil => exact hacc
    | cons m ms ih =>
      refine ih (put m.1 m.2 acc) ?_
      rw [map_fst_put]
      split
      · exact hacc
      · rename_i hnot
        exact List.nodup_append_comm.mp (List.nodup_cons.mpr ⟨hnot, hacc⟩)
  exact hrun [] List.nodup_nil

/-- Nothing is made up. -/
theorem mem_of_mem_ofMentions (h : m ∈ ofMentions ms) : m ∈ ms := by
  have hrun (ms acc : Members) (hm : m ∈ ms.foldl (fun acc m => put m.1 m.2 acc) acc) :
      m ∈ acc ∨ m ∈ ms := by
    induction ms generalizing acc with
    | nil => exact .inl hm
    | cons n ms ih =>
      rcases ih (put n.1 n.2 acc) hm with hput | hlater
      · exact (mem_of_mem_put hput).symm.imp_right fun heq : m = n => heq ▸ List.mem_cons_self
      · exact .inr (List.mem_cons_of_mem n hlater)
  exact (hrun ms [] h).resolve_left List.not_mem_nil

/-- Members that are each mentioned once stay as they are. -/
theorem ofMentions_of_nodup (h : (ms.map Prod.fst).Nodup) : ofMentions ms = ms := by
  have hrun (ms acc : Members) (hacc : ((acc ++ ms).map Prod.fst).Nodup) :
      ms.foldl (fun acc m => put m.1 m.2 acc) acc = acc ++ ms := by
    induction ms generalizing acc with
    | nil => exact (List.append_nil acc).symm
    | cons m ms ih =>
      have hnot : m.1 ∉ acc.map Prod.fst := by
        rw [List.map_append, List.map_cons] at hacc
        exact fun hmem => (List.nodup_append.mp hacc).2.2 _ hmem _ List.mem_cons_self rfl
      rw [List.append_cons] at hacc ⊢
      rw [List.foldl_cons, put_of_not_mem hnot]
      exact ih _ hacc
  exact hrun ms [] h

/-- Members without some names are found under all others. -/
theorem get?_filter (names : List String) (ms : Members) (name : String) :
    get? name (ms.filter fun m => m.1 ∉ names) = if name ∈ names then none else get? name ms := by
  induction ms with
  | nil => simp
  | cons m ms ih =>
    by_cases hm : m.1 ∈ names
    · rw [List.filter_cons_of_neg (by simpa using hm), ih]
      by_cases hname : name ∈ names
      · simp [hname]
      · have hne : (m.1 == name) = false := by
          simpa using fun heq : m.1 = name => hname (heq ▸ hm)
        simp [hname, get?, hne]
    · rw [List.filter_cons_of_pos (by simpa using hm)]
      by_cases heq : m.1 = name
      · simp [get?, heq, heq ▸ hm]
      · simpa [get?, heq] using ih

end Members

namespace Json

/-! ## Values without second mentions -/

mutual

/-- No object in the value, at whatever depth, names a member twice. -/
def Unambiguous : Json → Prop
  | .arr items => UnambiguousItems items
  | .obj members => (members.map Prod.fst).Nodup ∧ UnambiguousMembers members
  | .null | .bool _ | .num _ | .str _ => True

/-- No object in the items names a member twice. -/
def UnambiguousItems : List Json → Prop
  | [] => True
  | x :: xs => Unambiguous x ∧ UnambiguousItems xs

/-- No object in the values of the members names a member twice. -/
def UnambiguousMembers : List (String × Json) → Prop
  | [] => True
  | (_, x) :: ms => Unambiguous x ∧ UnambiguousMembers ms

end

theorem unambiguousMembers_iff {ms : Members} :
    UnambiguousMembers ms ↔ ∀ m ∈ ms, Unambiguous m.2 := by
  induction ms with
  | nil => simp [UnambiguousMembers]
  | cons m ms ih => simp [UnambiguousMembers, ih]

theorem unambiguous_ofMentions {ms : Members} (h : UnambiguousMembers ms) :
    Unambiguous (.obj (Members.ofMentions ms)) := by
  refine ⟨Members.nodup_ofMentions ms, unambiguousMembers_iff.mpr fun m hm => ?_⟩
  exact unambiguousMembers_iff.mp h m (Members.mem_of_mem_ofMentions hm)

/-! ## Reading any value -/

mutual

/-- **What is read is unambiguous**, from whatever text and at whatever depth. -/
theorem unambiguous_of_anything {depth : Depth} (t : Tree) {x : Json}
    (h : anything depth t = .ok x) : Unambiguous x :=
  match t with
  | .null | .bool _ | .num (some _) | .str (some _) => by
    cases h
    trivial
  | .num none | .str none | .cut _ _ _ => by cases h
  | .arr items tail => by
    rw [anything] at h
    split at h
    · cases h
    obtain ⟨xs, hitems, h⟩ := bind_eq_ok.mp h
    obtain ⟨_, -, h⟩ := bind_eq_ok.mp h
    cases h
    exact unambiguous_of_anyItems items hitems
  | .obj members tail => by
    rw [anything] at h
    split at h
    · cases h
    obtain ⟨ms, hmembers, h⟩ := bind_eq_ok.mp h
    obtain ⟨_, -, h⟩ := bind_eq_ok.mp h
    cases h
    exact unambiguous_ofMentions (unambiguous_of_anyMembers members hmembers)

theorem unambiguous_of_anyItems {depth : Depth} (ts : List Tree) {xs : List Json}
    (h : anyItems depth ts = .ok xs) : UnambiguousItems xs :=
  match ts with
  | [] => by
    cases h
    trivial
  | t :: ts => by
    rw [anyItems] at h
    obtain ⟨x, hx, h⟩ := bind_eq_ok.mp h
    obtain ⟨xs, hxs, h⟩ := bind_eq_ok.mp h
    cases h
    exact ⟨unambiguous_of_anything t hx, unambiguous_of_anyItems ts hxs⟩

theorem unambiguous_of_anyMembers {depth : Depth} (ts : List (Option String × Tree)) {ms : Members}
    (h : anyMembers depth ts = .ok ms) : UnambiguousMembers ms :=
  match ts with
  | [] => by
    cases h
    trivial
  | (none, _) :: _ => by cases h
  | (some k, t) :: ts => by
    rw [anyMembers] at h
    obtain ⟨x, hx, h⟩ := bind_eq_ok.mp h
    obtain ⟨ms, hms, h⟩ := bind_eq_ok.mp h
    cases h
    exact ⟨unambiguous_of_anything t hx, unambiguous_of_anyMembers ts hms⟩

end

mutual

/-- **Reading a value again changes nothing.** -/
theorem anything_toTree (x : Json) (h : Unambiguous x) :
    anything .unlimited (toTree x) = .ok x :=
  match x with
  | .null | .bool _ | .num _ | .str _ => rfl
  | .arr items => by
    rw [toTree, anything, Depth.inner, anyItems_toTrees items h]
    rfl
  | .obj members => by
    rw [toTree, anything, Depth.inner, anyMembers_toMemberTrees members h.2]
    show Except.ok (Json.obj (Members.ofMentions members)) = _
    rw [Members.ofMentions_of_nodup h.1]

theorem anyItems_toTrees (xs : List Json) (h : UnambiguousItems xs) :
    anyItems .unlimited (toTrees xs) = .ok xs :=
  match xs with
  | [] => rfl
  | x :: xs => by
    rw [toTrees, anyItems, anything_toTree x h.1, anyItems_toTrees xs h.2]
    rfl

theorem anyMembers_toMemberTrees (ms : Members) (h : UnambiguousMembers ms) :
    anyMembers .unlimited (toMemberTrees ms) = .ok ms :=
  match ms with
  | [] => rfl
  | (k, x) :: ms => by
    rw [toMemberTrees, anyMembers, anything_toTree x h.1, anyMembers_toMemberTrees ms h.2]
    rfl

end

/-- What a whole text says is unambiguous. -/
theorem unambiguous_of_decodeChars {depth : Depth} {cs : List Char} {x : Json}
    (h : decodeChars (anything depth) cs = .ok x) : Unambiguous x := by
  obtain ⟨y, hread, h⟩ := bind_eq_ok.mp h
  obtain ⟨_, -, h⟩ := bind_eq_ok.mp h
  cases h
  cases hroot : anything depth (Document.ofChars cs).root with
  | error fault => simp [hroot, Except.mapError] at hread
  | ok z =>
    rw [hroot] at hread
    cases hread
    exact unambiguous_of_anything _ hroot

end Json

end Gatehouse
