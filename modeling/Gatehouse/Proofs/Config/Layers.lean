import Gatehouse.Config.Layer
import Gatehouse.Proofs.Json.Values
import Mathlib.Data.List.Induction

/-!
# What layers say

A setting is found at the end of a path of names. When layers are laid over each other, the setting
is what the highest layer that names it gives, as long as the way to it is clear: a layer that has
no table where the path leads on takes away what lies under it.

A layer over others has its names in order, at whatever depth; so it names nothing twice, which is
what the finding of settings rests on.
-/

namespace Gatehouse

/-! ## Members in order -/

namespace Members

variable {ms : Members} {name : String} {value : Json} {m : String × Json}

/-- A member that is found is there. -/
theorem mem_of_get? (h : get? name ms = some value) : (name, value) ∈ ms := by
  obtain ⟨m, hm, rfl⟩ := Option.map_eq_some_iff.mp h
  have hname : m.1 = name := by simpa using List.find?_some hm
  exact hname ▸ List.mem_of_find?_eq_some hm

theorem get?_eq_none (h : name ∉ ms.map Prod.fst) : get? name ms = none := by
  by_contra hsome
  obtain ⟨x, hx⟩ := Option.ne_none_iff_exists'.mp hsome
  have hmem := List.mem_map_of_mem (f := Prod.fst) (mem_of_get? hx)
  exact h hmem

theorem get?_cons_self (h : m.1 = name) : get? name (m :: ms) = some m.2 := by simp [get?, h]

theorem get?_cons_of_ne (h : m.1 ≠ name) : get? name (m :: ms) = get? name ms := by simp [get?, h]

/-- The names are in strictly ascending order. -/
def Ascending (ms : Members) : Prop := (ms.map Prod.fst).Pairwise (· < ·)

theorem Ascending.nodup (h : Ascending ms) : (ms.map Prod.fst).Nodup := by
  refine List.Pairwise.imp (fun {a b} hlt heq => ?_) h
  rw [heq] at hlt
  exact String.lt_irrefl b hlt

theorem mem_of_mem_insert (h : m ∈ insert name value ms) :
    m = (name, value) ∨ m ∈ ms := by
  induction ms with
  | nil => exact .inl (List.mem_singleton.mp h)
  | cons n ms ih =>
    rw [insert] at h
    split at h
    · exact (List.mem_cons.mp h).imp_right (List.mem_cons_of_mem n)
    · split at h
      · exact List.mem_cons.mp h
      · rcases List.mem_cons.mp h with rfl | h
        · exact .inr List.mem_cons_self
        · exact (ih h).imp_right (List.mem_cons_of_mem n)

theorem ascending_insert (h : Ascending ms) : Ascending (insert name value ms) := by
  induction ms with
  | nil => exact List.pairwise_singleton _ _
  | cons m ms ih =>
    obtain ⟨hfirst, hrest⟩ := List.pairwise_cons.mp h
    rw [insert]
    split
    · rename_i heq
      exact List.pairwise_cons.mpr ⟨heq ▸ hfirst, hrest⟩
    · rename_i hne
      split
      · rename_i hlt
        refine List.pairwise_cons.mpr ⟨fun n hn => ?_, h⟩
        rcases List.mem_cons.mp hn with rfl | hn
        · exact hlt
        · exact String.lt_trans hlt (hfirst n hn)
      · rename_i hge
        refine List.pairwise_cons.mpr ⟨fun n hn => ?_, ih hrest⟩
        obtain ⟨p, hp, rfl⟩ := List.mem_map.mp hn
        rcases mem_of_mem_insert hp with rfl | hp
        · exact Std.lt_of_le_of_ne (String.not_lt.mp hge) (Ne.symm hne)
        · exact hfirst _ (List.mem_map_of_mem hp)

end Members

/-! ## Values in order -/

namespace Json

mutual

/-- The members of each object in the value, at whatever depth, are in the order of their names. -/
def Ordered : Json → Prop
  | .arr items => OrderedItems items
  | .obj members => Members.Ascending members ∧ OrderedMembers members
  | .null | .bool _ | .num _ | .str _ => True

/-- The members of each object in the items are in the order of their names. -/
def OrderedItems : List Json → Prop
  | [] => True
  | x :: xs => Ordered x ∧ OrderedItems xs

/-- The members of each object in the values of the members are in the order of their names. -/
def OrderedMembers : List (String × Json) → Prop
  | [] => True
  | (_, x) :: ms => Ordered x ∧ OrderedMembers ms

end

theorem orderedMembers_iff {ms : Members} : OrderedMembers ms ↔ ∀ m ∈ ms, Ordered m.2 := by
  induction ms with
  | nil => simp [OrderedMembers]
  | cons m ms ih => simp [OrderedMembers, ih]

mutual

theorem Ordered.unambiguous : (x : Json) → Ordered x → Unambiguous x
  | .arr xs, h => OrderedItems.unambiguous xs h
  | .obj ms, h => ⟨h.1.nodup, OrderedMembers.unambiguous ms h.2⟩
  | .null, _ | .bool _, _ | .num _, _ | .str _, _ => trivial

theorem OrderedItems.unambiguous : (xs : List Json) → OrderedItems xs → UnambiguousItems xs
  | [], _ => trivial
  | x :: xs, h => ⟨Ordered.unambiguous x h.1, OrderedItems.unambiguous xs h.2⟩

theorem OrderedMembers.unambiguous : (ms : List (String × Json)) → OrderedMembers ms →
    UnambiguousMembers ms
  | [], _ => trivial
  | (_, x) :: ms, h => ⟨Ordered.unambiguous x h.1, OrderedMembers.unambiguous ms h.2⟩

end

theorem ordered_insert {ms : Members} {name : String} {value : Json} (hms : Ordered (.obj ms))
    (hvalue : Ordered value) : Ordered (.obj (ms.insert name value)) := by
  refine ⟨Members.ascending_insert hms.1, orderedMembers_iff.mpr fun m hm => ?_⟩
  rcases Members.mem_of_mem_insert hm with rfl | hm
  · exact hvalue
  · exact orderedMembers_iff.mp hms.2 m hm

theorem ordered_get? {ms : Members} (h : Ordered (.obj ms)) (name : String) :
    Ordered ((Members.get? name ms).getD .null) := by
  cases hfind : Members.get? name ms with
  | none => trivial
  | some x => exact orderedMembers_iff.mp h.2 _ (Members.mem_of_get? hfind)

end Json

namespace Layer

open Json

theorem ordered_membersOf {x : Json} (h : Ordered x) : Ordered (.obj (membersOf x)) := by
  cases x with
  | obj ms => exact h
  | _ => exact ⟨List.Pairwise.nil, trivial⟩

mutual

/-- **A layer over others in order is in order**, whatever its own order is. -/
theorem ordered_overlay {under : Json} (h : Ordered under) : (x : Json) → Ordered (overlay under x)
  | .obj ms => ordered_overlayMembers (ordered_membersOf h) ms
  | .arr xs => ordered_items xs
  | .null | .bool _ | .num _ | .str _ => trivial

theorem ordered_overlayMembers {under : Members} (h : Ordered (.obj under)) :
    (ms : List (String × Json)) → Ordered (.obj (overlayMembers under ms))
  | [] => h
  | (k, x) :: ms =>
    ordered_overlayMembers (ordered_insert h (ordered_overlay (ordered_get? h k) x)) ms

theorem ordered_items : (xs : List Json) → OrderedItems (items xs)
  | [] => trivial
  | x :: xs => ⟨ordered_overlay (show Ordered .null from trivial) x, ordered_items xs⟩

end

theorem ordered_foldl {under : Json} (h : Ordered under) (layers : List Json) :
    Ordered (layers.foldl overlay under) := by
  induction layers generalizing under with
  | nil => exact h
  | cons l ls ih => exact ih (ordered_overlay h l)

/-! ## Lists -/

theorem items_eq_map (xs : List Json) : items xs = xs.map (overlay .null) := by
  induction xs with
  | nil => rfl
  | cons x xs ih => rw [items, ih, List.map_cons]

/-- A list comes from a list: what lies under it does not matter. -/
theorem overlay_eq_arr {under x : Json} {ys : List Json} :
    overlay under x = .arr ys ↔ ∃ xs, x = .arr xs ∧ ys = xs.map (overlay .null) := by
  cases x with
  | arr xs =>
    rw [overlay, items_eq_map]
    constructor
    · rintro ⟨⟩
      exact ⟨xs, rfl, rfl⟩
    · rintro ⟨xs, ⟨⟩, rfl⟩
      rfl
  | _ => simp [overlay]

/-! ## Settings of one layer -/

/-- The value at the end of a path of names, if a layer names it. -/
def at? : List String → Json → Option Json
  | [], x => some x
  | k :: ks, .obj ms => (Members.get? k ms).bind (at? ks)
  | _ :: _, _ => none

theorem at?_cons_eq_some {k : String} {ks : List String} {x y : Json} :
    at? (k :: ks) x = some y ↔
      ∃ ms z, x = .obj ms ∧ Members.get? k ms = some z ∧ at? ks z = some y := by
  cases x with
  | obj ms =>
    rw [at?, Option.bind_eq_some_iff]
    constructor
    · rintro ⟨z, hz, hy⟩
      exact ⟨ms, z, rfl, hz, hy⟩
    · rintro ⟨_, z, ⟨⟩, hz, hy⟩
      exact ⟨z, hz, hy⟩
  | _ => exact iff_of_false nofun nofun

/-- Wherever the path leads on in a layer, there is a table. -/
def TablesTo : List String → Json → Prop
  | [], _ => True
  | k :: ks, .obj ms =>
    match Members.get? k ms with
    | some x => TablesTo ks x
    | none => True
  | _ :: _, _ => False

instance decidableTablesTo : (path : List String) → (l : Json) → Decidable (TablesTo path l)
  | [], _ => .isTrue trivial
  | k :: ks, .obj ms =>
    match h : Members.get? k ms with
    | some x =>
      have := decidableTablesTo ks x
      decidable_of_iff (TablesTo ks x) (by simp only [TablesTo, h])
    | none => .isTrue (by simp only [TablesTo, h])
  | _ :: _, .null | _ :: _, .bool _ | _ :: _, .num _ | _ :: _, .str _ | _ :: _, .arr _ =>
    .isFalse nofun

theorem get?_overlayMembers {under ms : Members} (h : (ms.map Prod.fst).Nodup) (name : String) :
    Members.get? name (overlayMembers under ms) = match Members.get? name ms with
      | some x => some (overlay ((Members.get? name under).getD .null) x)
      | none => Members.get? name under := by
  induction ms generalizing under with
  | nil => rfl
  | cons m ms ih =>
    obtain ⟨hfresh, hms⟩ := List.nodup_cons.mp h
    rw [overlayMembers, ih hms]
    by_cases hname : m.1 = name
    · subst hname
      rw [Members.get?_eq_none hfresh, Members.get?_cons_self rfl]
      exact Members.get?_insert_self ..
    · rw [Members.get?_cons_of_ne hname, Members.get?_insert_of_ne _ _ (Ne.symm hname)]

/-- What a layer names lies over what is under it there, and what it does not name is as it was. -/
theorem at?_overlay {path : List String} {under l : Json} (hl : Unambiguous l)
    (htables : TablesTo path l) : at? path (overlay under l) = match at? path l with
      | some x => some (overlay ((at? path under).getD .null) x)
      | none => at? path under := by
  induction path generalizing under l with
  | nil => rfl
  | cons k ks ih =>
    cases l with
    | obj ms =>
      rw [overlay, at?, get?_overlayMembers hl.1]
      have hunder : at? (k :: ks) under = (Members.get? k (membersOf under)).bind (at? ks) := by
        cases under <;> rfl
      rw [hunder, at?]
      cases hx : Members.get? k ms with
      | none => rfl
      | some x =>
        have hunambiguous : Unambiguous x :=
          unambiguousMembers_iff.mp hl.2 _ (Members.mem_of_get? hx)
        show at? ks (overlay _ x) = _
        have hbelow : TablesTo ks x := by simpa only [TablesTo, hx] using htables
        rw [ih hunambiguous hbelow]
        cases Members.get? k (membersOf under) with
        | some z => rfl
        | none => cases ks <;> rfl
    | _ => cases htables

/-! ## Settings of several layers -/

/-- What the highest of the layers that name a setting gives it. The lowest layer comes first. -/
def topmost? (path : List String) (layers : List Json) : Option Json :=
  layers.reverse.findSome? (at? path)

/-- The way to a setting is clear: a layer without a table where the path leads on lies under one
that names the setting. -/
def Clear (path : List String) (layers : List Json) : Prop :=
  ∀ lower l higher, layers = lower ++ l :: higher → ¬TablesTo path l →
    ∃ h ∈ higher, (at? path h).isSome

theorem clear_of_tablesTo {path : List String} {layers : List Json}
    (h : ∀ l ∈ layers, TablesTo path l) : Clear path layers := by
  rintro lower l higher rfl hblocked
  exact absurd (h l (by simp)) hblocked

theorem topmost?_concat (path : List String) (layers : List Json) (l : Json) :
    topmost? path (layers ++ [l]) = (at? path l).or (topmost? path layers) := by
  rw [topmost?, List.reverse_concat, List.findSome?_cons]
  cases at? path l <;> rfl

theorem topmost?_eq_some_iff {path : List String} {layers : List Json} {x : Json} :
    topmost? path layers = some x ↔ ∃ lower l higher, layers = lower ++ l :: higher ∧
      at? path l = some x ∧ ∀ h ∈ higher, at? path h = none := by
  rw [topmost?, List.findSome?_eq_some_iff]
  constructor
  · rintro ⟨higher, l, lower, hlayers, hl, hhigher⟩
    refine ⟨lower.reverse, l, higher.reverse, ?_, hl, by simpa using hhigher⟩
    rw [List.reverse_eq_iff.mp hlayers]
    simp
  · rintro ⟨lower, l, higher, rfl, hl, hhigher⟩
    exact ⟨higher.reverse, l, lower.reverse, by simp, hl, by simpa using hhigher⟩

theorem Clear.tablesTo_last {path : List String} {layers : List Json} {l : Json}
    (h : Clear path (layers ++ [l])) : TablesTo path l := by
  by_contra hblocked
  obtain ⟨_, hmem, -⟩ := h layers l [] rfl hblocked
  cases hmem

theorem Clear.of_concat {path : List String} {layers : List Json} {l : Json}
    (h : Clear path (layers ++ [l])) (hl : at? path l = none) : Clear path layers := by
  rintro lower b higher rfl hblocked
  obtain ⟨n, hn, hnames⟩ := h lower b (higher ++ [l]) (by simp) hblocked
  rcases List.mem_append.mp hn with hn | hn
  · exact ⟨n, hn, hnames⟩
  · cases List.mem_singleton.mp hn
    rw [hl] at hnames
    cases hnames

/-- **The highest layer that names a setting decides**, if the way to it is clear: what it gives
lies over what the others have left there. If none names the setting, it is as it was. -/
theorem at?_foldl {path : List String} {layers : List Json} (under : Json)
    (hlayers : ∀ l ∈ layers, Unambiguous l) (hclear : Clear path layers) :
    match topmost? path layers with
    | some x => ∃ v, at? path (layers.foldl overlay under) = some (overlay v x)
    | none => at? path (layers.foldl overlay under) = at? path under := by
  induction layers using List.reverseRecOn with
  | nil => rfl
  | append_singleton layers l ih =>
    rw [List.forall_mem_append] at hlayers
    have hl := hlayers.2 l (List.mem_singleton_self l)
    rw [List.foldl_append, List.foldl_cons, List.foldl_nil, at?_overlay hl hclear.tablesTo_last,
      topmost?_concat]
    cases hx : at? path l with
    | some x => exact ⟨_, rfl⟩
    | none => exact ih hlayers.1 (hclear.of_concat hx)

end Layer

end Gatehouse
