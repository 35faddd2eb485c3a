import Gatehouse.Proofs.Yaml.Scanning

/-!
# Legible values

A value whose names can stand plain before a colon, and whose numbers are whole and exact, is
written as a text that the scanner can take apart: the tokens are those of the value, member by
member and item by item, with a mark where each block begins and ends.
-/

namespace Gatehouse.Yaml

/-! ## Legible values -/

/-- A name that stands plain before a colon: it is short, and has only letters, digits and
underscores. -/
def isName (k : String) : Bool :=
  isPlain k.toList && k.toList.all isNameChar && k.toList.length ≤ 1024

mutual

/-- A value that can be read back from its text, with room for `room` levels of lists and tables:
every member has a name of its own, and every number is whole and exact. -/
def Legible (room : Nat) : Json → Prop
  | .num (.int i) => Json.isExact i = true
  | .num (.float _) => False
  | .arr xs => 0 < room ∧ LegibleItems (room - 1) xs
  | .obj ms => 0 < room ∧ (ms.map Prod.fst).Nodup ∧ LegibleMembers (room - 1) ms
  | .null | .bool _ | .str _ => True

/-- Items that are all such values. -/
def LegibleItems (room : Nat) : List Json → Prop
  | [] => True
  | x :: xs => Legible room x ∧ LegibleItems room xs

/-- Members that are all such values. -/
def LegibleMembers (room : Nat) : List (String × Json) → Prop
  | [] => True
  | (k, x) :: ms => isName k = true ∧ Legible room x ∧ LegibleMembers room ms

end

theorem legibleItems_iff {room : Nat} {xs : List Json} :
    LegibleItems room xs ↔ ∀ x ∈ xs, Legible room x := by
  induction xs with
  | nil => simp [LegibleItems]
  | cons x xs ih => simp [LegibleItems, ih]

theorem legibleMembers_iff {room : Nat} {ms : Members} :
    LegibleMembers room ms ↔ ∀ m ∈ ms, isName m.1 = true ∧ Legible room m.2 := by
  induction ms with
  | nil => simp [LegibleMembers]
  | cons m ms ih => simp [LegibleMembers, ih, and_assoc]

mutual

/-- The tokens of a value. -/
def valueTokens : Json → List Token
  | .obj [] => [.opening .curly, .closing .curly]
  | .arr [] => [.opening .square, .closing .square]
  | .obj (m :: ms) => .tableStart :: memberTokens (m :: ms) ++ [.blockEnd]
  | .arr (x :: xs) => .listStart :: itemTokens (x :: xs) ++ [.blockEnd]
  | .str s => [.scalar (isPlain s.toList) s.toList]
  | .null => [.scalar true (Json.write .null)]
  | .bool b => [.scalar true (Json.write (.bool b))]
  | .num n => [.scalar true (Json.write (.num n))]

/-- The tokens of members. -/
def memberTokens : List (String × Json) → List Token
  | [] => []
  | (k, x) :: ms => .key :: .scalar true k.toList :: .value :: valueTokens x ++ memberTokens ms

/-- The tokens of items. -/
def itemTokens : List Json → List Token
  | [] => []
  | x :: xs => .item :: valueTokens x ++ itemTokens xs

end

namespace Scanner

/-- The next line, if there is one, is not deeper than a level. -/
structure Follows (level : Nat) (text : List Char) : Prop where
  tells : Tells (body text)
  indent : indentOf text ≤ 2 * level

theorem follows_nil (level : Nat) : Follows level [] := ⟨by rintro _ ⟨⟩, Nat.zero_le _⟩

theorem follows_line {level : Nat} {c : Char} (hc : c ∉ [' ', '\t', '\n', '#']) (rest : List Char) :
    Follows level (margin level ++ c :: rest) := by
  have hspace : c ≠ ' ' := by
    rintro rfl
    simp at hc
  refine ⟨?_, (indentOf_spaces hspace).le⟩
  have hbody : body (margin level ++ c :: rest) = c :: rest := body_spaces hspace
  rw [hbody]
  rintro _ ⟨⟩
  exact hc

/-- A value at a level is scanned: its tokens come next, and then the line behind it. -/
def Scans (level : Nat) (x : Json) : Prop :=
  ∀ (s : Scanner) (is : List Nat) (ts : List Token) (tail : List Char),
    Inside s (writeAfterKey level x ++ tail) (2 * level :: is) ts → Follows level tail →
      ∃ t, Reaches s t ∧ Before t tail (2 * level :: is) (ts ++ valueTokens x)

section Values

variable {s : Scanner} {level : Nat} {is js : List Nat} {ts opened : List Token} {tail : List Char}

theorem scans_str (level : Nat) (text : String) : Scans level (.str text) := by
  intro s is ts tail h htail
  cases hplain : isPlain text.toList with
  | true =>
    simp only [writeAfterKey, writeText, hplain, if_true, List.append_assoc,
      List.singleton_append] at h
    simpa only [valueTokens, hplain] using h.plain (bare_of_isPlain hplain) htail.tells htail.indent
  | false =>
    simp only [writeAfterKey, writeText, hplain, Bool.false_eq_true, if_false, List.cons_append,
      List.append_assoc, List.nil_append] at h
    simpa only [valueTokens, hplain] using h.quoted htail.tells

theorem scans_plain (x : Json) (hx : Bare x.write)
    (htext : writeAfterKey level x = ' ' :: x.write ++ ['\n'])
    (htokens : valueTokens x = [.scalar true x.write]) : Scans level x := by
  intro s is ts tail h htail
  rw [htext, List.append_assoc, List.singleton_append] at h
  rw [htokens]
  exact h.plain hx htail.tells htail.indent

theorem scans_brackets (x : Json) (b : Bracket)
    (htext : writeAfterKey level x = [' ', b.opener, b.closer, '\n'])
    (htokens : valueTokens x = [.opening b, .closing b]) : Scans level x := by
  intro s is ts tail h htail
  rw [htext] at h
  rw [htokens]
  exact h.brackets b htail.tells

theorem endsWord_writeAfterKey (x : Json) (tail : List Char) :
    endsWord (writeAfterKey level x ++ tail) = true := by
  cases x with
  | arr xs => cases xs <;> rfl
  | obj ms => cases ms <;> rfl
  | _ => rfl

theorem exists_name {k : String} (h : isName k = true) : ∃ c cs, k.toList = c :: cs ∧
    writeText k = c :: cs ∧ (∀ d ∈ c :: cs, isNameChar d = true) ∧ (c :: cs).length ≤ 1024 := by
  simp only [isName, Bool.and_eq_true, List.all_eq_true, decide_eq_true_eq] at h
  obtain ⟨⟨hplain, hall⟩, hlength⟩ := h
  obtain ⟨c, cs, hcons, -⟩ := (bare_of_isPlain hplain).opens
  rw [hcons] at hall hlength
  exact ⟨c, cs, hcons, by rw [writeText, if_pos hplain, hcons], hall, hlength⟩

theorem follows_members {room : Nat} (ms : Members) (hms : LegibleMembers room ms)
    (htail : Follows level tail) : Follows level (writeMembers level ms ++ tail) := by
  match ms, hms with
  | [], _ => exact htail
  | (k, x) :: ms, hms =>
    obtain ⟨c, cs, -, hwrite, hname, -⟩ := exists_name hms.1
    have hc := hname c List.mem_cons_self
    simp only [writeMembers, hwrite, List.append_assoc, List.cons_append]
    refine follows_line (fun hmem => ?_) _
    have hsigns : ∀ d ∈ [' ', '\t', '\n', '#'], isNameChar d = false := by simp [isNameChar]
    cases hc.symm.trans (hsigns c hmem)

theorem follows_items (xs : List Json) (htail : Follows level tail) :
    Follows level (writeItems level xs ++ tail) := by
  cases xs with
  | nil => exact htail
  | cons x xs =>
    simp only [writeItems, List.append_assoc, List.cons_append]
    exact follows_line (by decide) _

/-- A member is scanned: its name, its value, and then the line behind it. -/
theorem Scans.member {k : String} {x : Json} {ms : Members} (hx : Scans level x)
    (hk : isName k = true) (hopens : Opens .tableStart (2 * level) js (2 * level :: is) opened)
    (hrest : Follows level (writeMembers level ms ++ tail))
    (h : Before s (writeMembers level ((k, x) :: ms) ++ tail) js ts) :
    ∃ t, Reaches s t ∧ Before t (writeMembers level ms ++ tail) (2 * level :: is)
      (ts ++ opened ++ .key :: .scalar true k.toList :: .value :: valueTokens x) := by
  obtain ⟨c, cs, hcons, hwrite, hname, hlength⟩ := exists_name hk
  have htext : writeMembers level ((k, x) :: ms) ++ tail = spaces (2 * level) ++
      (c :: cs ++ ':' :: (writeAfterKey level x ++ (writeMembers level ms ++ tail))) := by
    simp only [writeMembers, hwrite, margin, List.append_assoc, List.cons_append]
  rw [htext] at h
  obtain ⟨t, hreaches, hinside⟩ := h.key hopens hname hlength (endsWord_writeAfterKey x _)
  obtain ⟨u, hreaches', hbefore⟩ := hx _ _ _ _ hinside hrest
  refine ⟨u, hreaches.trans hreaches', ?_⟩
  simpa [hcons] using hbefore

/-- An item is scanned: its dash, its value, and then the line behind it. -/
theorem Scans.item {x : Json} {xs : List Json} (hx : Scans level x)
    (hopens : Opens .listStart (2 * level) js (2 * level :: is) opened)
    (hrest : Follows level (writeItems level xs ++ tail))
    (h : Before s (writeItems level (x :: xs) ++ tail) js ts) :
    ∃ t, Reaches s t ∧ Before t (writeItems level xs ++ tail) (2 * level :: is)
      (ts ++ opened ++ .item :: valueTokens x) := by
  have htext : writeItems level (x :: xs) ++ tail = spaces (2 * level) ++
      '-' :: (writeAfterKey level x ++ (writeItems level xs ++ tail)) := by
    simp only [writeItems, margin, List.append_assoc, List.cons_append]
  rw [htext] at h
  obtain ⟨t, hreaches, hinside⟩ := h.item hopens (endsWord_writeAfterKey x _)
  obtain ⟨u, hreaches', hbefore⟩ := hx _ _ _ _ hinside hrest
  refine ⟨u, hreaches.trans hreaches', ?_⟩
  simpa using hbefore

theorem Follows.deeper (h : Follows level tail) : Follows (level + 1) tail :=
  ⟨h.tells, by have := h.indent; omega⟩

theorem opens_deeper (opener : Token) (level : Nat) (is : List Nat) :
    Opens opener (2 * (level + 1)) (2 * level :: is) (2 * (level + 1) :: 2 * level :: is)
      [opener] := by
  refine .anew _ ?_
  rintro _ ⟨⟩
  omega

end Values

mutual

/-- **A legible value is scanned**, whatever stands behind it. -/
theorem scans (x : Json) {room level : Nat} (hx : Legible room x) : Scans level x :=
  match x with
  | .null => scans_plain .null (bare_of_names (List.all_eq_true.mp rfl)) rfl rfl
  | .bool true => scans_plain (.bool true) (bare_of_names (List.all_eq_true.mp rfl)) rfl rfl
  | .bool false => scans_plain (.bool false) (bare_of_names (List.all_eq_true.mp rfl)) rfl rfl
  | .num (.int i) => scans_plain (.num (.int i)) (bare_writeInt i) rfl rfl
  | .num (.float _) => hx.elim
  | .str text => scans_str level text
  | .arr [] => scans_brackets (.arr []) .square rfl rfl
  | .obj [] => scans_brackets (.obj []) .curly rfl rfl
  | .arr (x :: xs) => fun s is ts tail h htail => by
    have hitems := follows_items xs htail.deeper
    have hall := follows_items (x :: xs) htail.deeper
    obtain ⟨t, hreaches, hbefore⟩ := (scans x hx.2.1).item (opens_deeper ..) hitems
      (h.before_line hall.tells)
    obtain ⟨u, hreaches', hbefore⟩ := scans_items xs hx.2.2 hbefore htail.deeper
    refine ⟨u, hreaches.trans hreaches', ?_⟩
    have hclose := hbefore.close (by have := htail.indent; omega)
    simpa [valueTokens, itemTokens] using hclose
  | .obj ((k, x) :: ms) => fun s is ts tail h htail => by
    have hmembers := follows_members ms hx.2.2.2.2 htail.deeper
    have hall := follows_members ((k, x) :: ms) hx.2.2 htail.deeper
    obtain ⟨t, hreaches, hbefore⟩ := (scans x hx.2.2.2.1).member hx.2.2.1 (opens_deeper ..)
      hmembers (h.before_line hall.tells)
    obtain ⟨u, hreaches', hbefore⟩ := scans_members ms hx.2.2.2.2 hbefore htail.deeper
    refine ⟨u, hreaches.trans hreaches', ?_⟩
    have hclose := hbefore.close (by have := htail.indent; omega)
    simpa [valueTokens, memberTokens] using hclose

/-- Legible members are scanned. -/
theorem scans_members (ms : Members) {room level : Nat} (hms : LegibleMembers room ms)
    {s : Scanner} {is : List Nat} {ts : List Token} {tail : List Char}
    (h : Before s (writeMembers level ms ++ tail) (2 * level :: is) ts)
    (htail : Follows level tail) :
    ∃ t, Reaches s t ∧ Before t tail (2 * level :: is) (ts ++ memberTokens ms) :=
  match ms with
  | [] => ⟨s, .refl s, by simpa [writeMembers, memberTokens] using h⟩
  | (k, x) :: ms => by
    obtain ⟨t, hreaches, hbefore⟩ := (scans x hms.2.1).member hms.1 (.already is)
      (follows_members ms hms.2.2 htail) h
    obtain ⟨u, hreaches', hbefore⟩ := scans_members ms hms.2.2 hbefore htail
    exact ⟨u, hreaches.trans hreaches', by simpa [memberTokens] using hbefore⟩

/-- Legible items are scanned. -/
theorem scans_items (xs : List Json) {room level : Nat} (hxs : LegibleItems room xs)
    {s : Scanner} {is : List Nat} {ts : List Token} {tail : List Char}
    (h : Before s (writeItems level xs ++ tail) (2 * level :: is) ts) (htail : Follows level tail) :
    ∃ t, Reaches s t ∧ Before t tail (2 * level :: is) (ts ++ itemTokens xs) :=
  match xs with
  | [] => ⟨s, .refl s, by simpa [writeItems, itemTokens] using h⟩
  | x :: xs => by
    obtain ⟨t, hreaches, hbefore⟩ := (scans x hxs.1).item (.already is) (follows_items xs htail) h
    obtain ⟨u, hreaches', hbefore⟩ := scans_items xs hxs.2 hbefore htail
    exact ⟨u, hreaches.trans hreaches', by simpa [itemTokens] using hbefore⟩

end

/-- At the beginning of a text. -/
theorem before_start {text : List Char} (htext : Tells (body text)) :
    Before ⟨⟨text, 0, 0, 0⟩, #[], [], true, none, []⟩ text [] [] := by
  have harrive : arrive ⟨⟨spaces (indentOf text) ++ body text, 0, 0, 0⟩, #[], [], true, none, []⟩ =
      _ := arrive_inline htext
  rw [spaces_append_body, Nat.zero_add] at harrive
  exact ⟨length_body_le text, 0, indentOf text, #[], [], harrive, by simp, rfl⟩

/-- Where the text ends, the last block does. -/
theorem Before.finish {s : Scanner} {ts : List Token} (h : Before s [] [0] ts) (fuel : Nat) :
    s.run (fuel + 1) = some (ts ++ [.blockEnd]) := by
  obtain ⟨line, offset, out, rfl, hrun⟩ := h.run (by simp [indentOf])
  rw [hrun]
  show Option.bind (endBlocks _) _ = _
  simp [endBlocks, unindent, inFlow, closeBlocks, dropKey, body]

end Scanner

/-! ## Whole texts -/

theorem Bare.isAllowed {cs : List Char} (h : Bare cs) : ∀ c ∈ cs, isAllowed c = true :=
  fun _ hc => (of_mem_smooth h.smooth hc).2

theorem isAllowed_of_mem_writeText (text : String) : ∀ c ∈ writeText text, isAllowed c = true := by
  rw [writeText]
  split
  case isTrue hplain => exact (bare_of_isPlain hplain).isAllowed
  case isFalse =>
    have hescaped : ∀ c ∈ text.toList.flatMap escapeChar, isAllowed c = true := by
      intro c hc
      obtain ⟨d, -, hc⟩ := List.mem_flatMap.mp hc
      exact (escaped_escapeChar d).isAllowed c hc
    have hopening : ∀ c ∈ '"' :: text.toList.flatMap escapeChar, isAllowed c = true :=
      List.forall_mem_cons.mpr ⟨rfl, hescaped⟩
    exact List.forall_mem_append.mpr ⟨hopening, List.all_eq_true.mp rfl⟩

theorem isAllowed_of_mem_margin (level : Nat) : ∀ c ∈ margin level, isAllowed c = true :=
  fun _ hc => List.eq_of_mem_replicate hc ▸ rfl

mutual

theorem isAllowed_of_mem_value {room : Nat} (level : Nat) (x : Json) (hx : Legible room x) :
    ∀ c ∈ writeAfterKey level x, isAllowed c = true :=
  match x with
  | .null | .bool true | .bool false => List.all_eq_true.mp rfl
  | .num (.int i) => by
    have hint := (bare_writeInt i).isAllowed
    simpa [writeAfterKey, Json.write, Json.writeNumber, or_imp, forall_and] using ⟨rfl, hint, rfl⟩
  | .num (.float _) => hx.elim
  | .str text => by
    have htext := isAllowed_of_mem_writeText text
    simpa [writeAfterKey, or_imp, forall_and] using ⟨rfl, htext, rfl⟩
  | .arr [] | .obj [] => List.all_eq_true.mp rfl
  | .arr (x :: xs) => List.forall_mem_cons.mpr ⟨rfl, isAllowed_of_mem_items _ (x :: xs) hx.2⟩
  | .obj (m :: ms) => List.forall_mem_cons.mpr ⟨rfl, isAllowed_of_mem_members _ (m :: ms) hx.2.2⟩

theorem isAllowed_of_mem_members {room : Nat} (level : Nat) (ms : Members)
    (hms : LegibleMembers room ms) :
    ∀ c ∈ writeMembers level ms, isAllowed c = true :=
  match ms with
  | [] => nofun
  | (k, x) :: ms => by
    have hname := isAllowed_of_mem_writeText k
    have hvalue := isAllowed_of_mem_value level x hms.2.1
    have hmembers := isAllowed_of_mem_members level ms hms.2.2
    have hmargin := isAllowed_of_mem_margin level
    simp only [writeMembers, List.forall_mem_append, List.forall_mem_cons]
    exact ⟨⟨⟨hmargin, hname⟩, rfl, hvalue⟩, hmembers⟩

theorem isAllowed_of_mem_items {room : Nat} (level : Nat) (xs : List Json)
    (hxs : LegibleItems room xs) :
    ∀ c ∈ writeItems level xs, isAllowed c = true :=
  match xs with
  | [] => nofun
  | x :: xs => by
    have hvalue := isAllowed_of_mem_value level x hxs.1
    have hitems := isAllowed_of_mem_items level xs hxs.2
    have hmargin := isAllowed_of_mem_margin level
    simp only [writeItems, List.forall_mem_append, List.forall_mem_cons]
    exact ⟨⟨hmargin, rfl, hvalue⟩, hitems⟩

end

theorem unifyBreaks_of_allowed {cs : List Char} (h : ∀ c ∈ cs, isAllowed c = true) :
    unifyBreaks cs = cs := by
  induction cs with
  | nil => rfl
  | cons c cs ih =>
    obtain ⟨hc, hcs⟩ := List.forall_mem_cons.mp h
    have hreturn : c ≠ '\r' := by
      rintro rfl
      cases hc
    have hnext : c ≠ '\u0085' := by
      rintro rfl
      cases hc
    rw [unifyBreaks.eq_def]
    split
    case h_1 heq => cases heq
    case h_2 heq => exact absurd (List.cons.inj heq).1 hreturn
    case h_3 heq =>
      cases heq
      rw [if_neg (by simp [hreturn, hnext]), ih hcs]

theorem start_of_allowed {c : Char} {cs : List Char} (h : ∀ d ∈ c :: cs, isAllowed d = true)
    (hmark : c ≠ '\uFEFF') : Place.start (c :: cs) = ⟨c :: cs, 0, 0, 0⟩ := by
  rw [Place.start, unifyBreaks_of_allowed h]
  rintro _ heq
  exact hmark (List.cons.inj heq).1

/-- **The tokens of a written table** are those of its members, inside of one block. -/
theorem tokens?_writeMembers {room : Nat} {m : String × Json} {ms : Members}
    (h : LegibleMembers room (m :: ms)) : tokens? (writeMembers 0 (m :: ms)) =
      some (.tableStart :: memberTokens (m :: ms) ++ [.blockEnd]) := by
  obtain ⟨k, x⟩ := m
  have hallowed := isAllowed_of_mem_members 0 ((k, x) :: ms) h
  have hfollows : Scanner.Follows 0 (writeMembers 0 ((k, x) :: ms) ++ []) :=
    Scanner.follows_members _ h (Scanner.follows_nil 0)
  have hrest : Scanner.Follows 0 (writeMembers 0 ms ++ []) :=
    Scanner.follows_members ms h.2.2 (Scanner.follows_nil 0)
  have hplace : Place.start (writeMembers 0 ((k, x) :: ms)) =
      ⟨writeMembers 0 ((k, x) :: ms), 0, 0, 0⟩ := by
    obtain ⟨c, cs, -, hwrite, hname, -⟩ := Scanner.exists_name h.1
    have hcons : writeMembers 0 ((k, x) :: ms) =
        c :: (cs ++ ':' :: (writeAfterKey 0 x ++ writeMembers 0 ms)) := by
      simp [writeMembers, hwrite, margin]
    rw [hcons] at hallowed ⊢
    exact start_of_allowed hallowed (ne_of_nameChar (hname c List.mem_cons_self) rfl)
  rw [List.append_nil] at hfollows
  let s : Scanner := ⟨⟨writeMembers 0 ((k, x) :: ms), 0, 0, 0⟩, #[], [], true, none, []⟩
  have hbefore : s.Before (writeMembers 0 ((k, x) :: ms) ++ []) [] [] := by
    rw [List.append_nil]
    exact Scanner.before_start hfollows.tells
  obtain ⟨t, hreaches, hbefore⟩ := (Scanner.scans x h.2.1).member h.1 (.anew [] nofun) hrest hbefore
  obtain ⟨u, hreaches', hbefore⟩ := Scanner.scans_members ms h.2.2 hbefore (Scanner.follows_nil 0)
  obtain ⟨n, hn, hrun⟩ := hreaches.trans hreaches'
  have hlength : n ≤ (writeMembers 0 ((k, x) :: ms)).length := by
    have : n + u.place.rest.length ≤ (writeMembers 0 ((k, x) :: ms)).length := hn
    omega
  have hstart : Scanner.start (writeMembers 0 ((k, x) :: ms)) = s := by rw [Scanner.start, hplace]
  have hall : s.place.rest.all isAllowed = true := List.all_eq_true.mpr hallowed
  have hfuel : (writeMembers 0 ((k, x) :: ms)).length + 2 =
      ((writeMembers 0 ((k, x) :: ms)).length - n + 1) + 1 + n := by omega
  simp only [tokens?, hstart, hall, if_true]
  rw [hfuel, hrun, hbefore.finish]
  simp [memberTokens]

end Gatehouse.Yaml
