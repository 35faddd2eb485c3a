import Gatehouse.Config.Address
import Gatehouse.Proofs.Json.Forms
import Gatehouse.Proofs.Numeral

/-!
# The written form of a socket address

Every address with a port is read back from what is written for it: four numbers with points between
them, or eight groups in brackets, the longest run of zero groups left out. A text of groups has no
point, so no group is taken for the beginning of an address of version 4.
-/

namespace Gatehouse.SocketAddress

/-! ## Numbers -/

/-- What can stand behind a number without becoming part of it. -/
def EndsNumber (base : Nat) (rest : List Char) : Prop :=
  ∀ c, rest.head? = some c → Numeral.digit? base c = none

theorem endsNumber_nil (base : Nat) : EndsNumber base [] := nofun

theorem endsNumber_cons {base : Nat} {c : Char} (h : Numeral.digit? base c = none)
    (rest : List Char) : EndsNumber base (c :: rest) := by
  rintro _ ⟨⟩
  exact h

section Numbers

variable {base most limit n : Nat} {leadingZero : Bool} {rest : List Char}

theorem takeWhile_toDigits (hbase : 1 < base) (hmost : base ≤ 16) (hrest : EndsNumber base rest) :
    (Nat.toDigits base n ++ rest).takeWhile (fun c => (Numeral.digit? base c).isSome) =
      Nat.toDigits base n := by
  have hstop : rest.takeWhile (fun c => (Numeral.digit? base c).isSome) = [] := by
    cases rest with
    | nil => rfl
    | cons c rest =>
      have hnone := hrest c rfl
      simp [hnone]
  rw [List.takeWhile_append_of_pos fun _ hc => Numeral.isSome_digit?_of_mem hbase hmost hc, hstop,
    List.append_nil]

/-- A number is read from its digits, whatever stands behind it. Only in base ten a leading zero may
be forbidden, and no number has one there. -/
theorem readNumber?_toDigits (hbase : 1 < base) (hbound : base ≤ 16)
    (hzero : leadingZero = true ∨ base = 10) (hlength : (Nat.toDigits base n).length ≤ most)
    (hlimit : n < limit) (hrest : EndsNumber base rest) :
    readNumber? base most limit leadingZero (Nat.toDigits base n ++ rest) = some (n, rest) := by
  have hempty : (Nat.toDigits base n).isEmpty = false :=
    List.isEmpty_eq_false_iff.mpr Nat.toDigits_ne_nil
  have hlead : (!leadingZero && (Nat.toDigits base n).head? = some '0' &&
      1 < (Nat.toDigits base n).length) = false := by
    rcases hzero with rfl | rfl
    · rfl
    · rcases Nat.eq_zero_or_pos n with rfl | hn
      · simp [Nat.toDigits_zero]
      · simp [Json.head?_toDigits_ne hn]
  simp only [readNumber?, takeWhile_toDigits hbase hbound hrest, hempty, hlead,
    Numeral.value_toDigits hbase hbound, List.drop_left]
  simp [Nat.not_lt.mpr hlength, Nat.not_le.mpr hlimit]

/-- No number begins with another character than a digit. -/
theorem readNumber?_of_endsNumber (hrest : EndsNumber base rest) :
    readNumber? base most limit leadingZero rest = none := by
  cases rest with
  | nil => rfl
  | cons c rest =>
    have hnone := hrest c rfl
    simp [readNumber?, hnone]

theorem not_mem_of_readNumber? {cs : List Char} {c : Char} (hc : c ∉ cs)
    (h : readNumber? base most limit leadingZero cs = some (n, rest)) : c ∉ rest := by
  simp only [readNumber?] at h
  split at h
  · cases h
  · cases h
    exact fun hmem => hc (List.mem_of_mem_drop hmem)

/-- A number below 256 in base ten. -/
theorem readNumber?_byte (b : UInt8) (hrest : EndsNumber 10 rest) :
    readNumber? 10 3 256 false (decimal b.toNat ++ rest) = some (b.toNat, rest) := by
  have hlt : b.toNat < 256 := b.toNat_lt
  refine readNumber?_toDigits (by decide) (by decide) (.inr rfl) ?_ hlt hrest
  exact (Nat.length_toDigits_le_iff (by decide) (by decide)).mpr (by omega)

/-- A group in base sixteen. -/
theorem readNumber?_group (g : UInt16) (hrest : EndsNumber 16 rest) :
    readNumber? 16 4 65536 true (hexadecimal g.toNat ++ rest) = some (g.toNat, rest) := by
  have hlt : g.toNat < 65536 := g.toNat_lt
  refine readNumber?_toDigits (by decide) (by decide) (.inl rfl) ?_ hlt hrest
  exact (Nat.length_toDigits_le_iff (by decide) (by decide)).mpr (by omega)

end Numbers

/-- A separator is read where it stands, and nowhere else. -/
theorem after?_cons (c x : Char) (cs : List Char) :
    after? c (x :: cs) = if x = c then some cs else none := rfl

theorem after?_of_not_mem {c : Char} {cs : List Char} (h : c ∉ cs) : after? c cs = none := by
  cases cs with
  | nil => rfl
  | cons x cs => exact if_neg fun heq : x = c => h (heq ▸ List.mem_cons_self)

theorem digit?_colon : Numeral.digit? 10 ':' = none ∧ Numeral.digit? 16 ':' = none := by decide

/-! ## Version 4 -/

theorem readV4?_v4Chars (a b c d : UInt8) {rest : List Char} (hrest : EndsNumber 10 rest) :
    readV4? (v4Chars a b c d ++ rest) = some ([a.toNat, b.toNat, c.toNat, d.toNat], rest) := by
  have hpoint (cs : List Char) : EndsNumber 10 ('.' :: cs) := endsNumber_cons (by decide) cs
  simp [readV4?, v4Chars, readNumber?_byte, hpoint, hrest, after?_cons]

/-- Without a point there is no address of version 4. -/
theorem readV4?_of_not_mem {cs : List Char} (h : '.' ∉ cs) : readV4? cs = none := by
  rw [readV4?]
  cases hread : readNumber? 10 3 256 false cs with
  | none => rfl
  | some r =>
    have hnone := after?_of_not_mem (not_mem_of_readNumber? h hread)
    simp [hnone]

/-! ## Version 6 -/

/-- Groups with a colon before each. -/
def colonGroups (gs : List UInt16) : List Char := gs.flatMap fun g => ':' :: hexadecimal g.toNat

theorem groupChars_cons (g : UInt16) (gs : List UInt16) :
    groupChars (g :: gs) = hexadecimal g.toNat ++ colonGroups gs := by
  induction gs generalizing g with
  | nil => exact (List.append_nil _).symm
  | cons h gs ih =>
    rw [groupChars, ih h]
    rfl

theorem point_not_mem_toDigits {base : Nat} (hbase : 1 < base) (hmost : base ≤ 16) (n : Nat) :
    '.' ∉ Nat.toDigits base n := fun h => by
  have hnone : Numeral.digit? base '.' = none := if_neg (Nat.lt_irrefl base)
  have hdigit := Numeral.isSome_digit?_of_mem hbase hmost h
  rw [hnone] at hdigit
  cases hdigit

theorem point_not_mem_hexadecimal (n : Nat) : '.' ∉ hexadecimal n :=
  point_not_mem_toDigits (by decide) (by decide) n

theorem point_not_mem_decimal (n : Nat) : '.' ∉ decimal n :=
  point_not_mem_toDigits (by decide) (by decide) n

theorem point_not_mem_colonGroups (gs : List UInt16) : '.' ∉ colonGroups gs := by
  simp [colonGroups, point_not_mem_hexadecimal]

theorem endsNumber_colonGroups {gs : List UInt16} {rest : List Char} (h : EndsNumber 16 rest) :
    EndsNumber 16 (colonGroups gs ++ rest) := by
  cases gs with
  | nil => exact h
  | cons g gs => exact endsNumber_cons (by decide) _

/-- Where a group begins: here if it is the first, or behind a colon. -/
def groupStart? (first : Bool) (cs : List Char) : Option (List Char) :=
  if first then some cs else after? ':' cs

section Groups

variable {rest : List Char} {room : Nat} {first : Bool}

/-- No group begins here. -/
theorem readGroups_of_none {cs : List Char}
    (h : ∀ start, groupStart? first cs = some start → '.' ∉ start ∧ EndsNumber 16 start) :
    readGroups room first cs = ([], false, cs) := by
  cases room with
  | zero => rfl
  | succ room =>
    rw [readGroups, ← groupStart?]
    cases hstart : groupStart? first cs with
    | none => simp
    | some start =>
      obtain ⟨hpoint, hends⟩ := h start hstart
      simp [readV4?_of_not_mem hpoint, readNumber?_of_endsNumber hends]

/-- A group is read, and then those behind it. -/
theorem readGroups_group {g : UInt16} {cs : List Char}
    (hstart : groupStart? first cs = some (hexadecimal g.toNat ++ rest))
    (hends : EndsNumber 16 rest) (hv4 : readV4? (hexadecimal g.toNat ++ rest) = none) :
    readGroups (room + 1) first cs =
      (g.toNat :: (readGroups room false rest).1, (readGroups room false rest).2.1,
        (readGroups room false rest).2.2) := by
  rw [readGroups, ← groupStart?, hstart]
  simp [hv4, readNumber?_group g hends]

/-- What can stand behind groups without becoming part of them. -/
structure EndsGroups (rest : List Char) : Prop where
  pointless : '.' ∉ rest
  endsNumber : EndsNumber 16 rest
  noGroup : ∀ cs, after? ':' rest = some cs → EndsNumber 16 cs

/-- A group ends where others follow, and does not begin an address of version 4. -/
theorem ends_group (g : UInt16) (gs : List UInt16) (hrest : EndsGroups rest) :
    EndsNumber 16 (colonGroups gs ++ rest) ∧
      readV4? (hexadecimal g.toNat ++ (colonGroups gs ++ rest)) = none := by
  refine ⟨endsNumber_colonGroups hrest.endsNumber, readV4?_of_not_mem ?_⟩
  simp [point_not_mem_hexadecimal, point_not_mem_colonGroups, hrest.pointless]

theorem readGroups_colonGroups (gs : List UInt16) (hroom : gs.length ≤ room)
    (hrest : EndsGroups rest) :
    readGroups room false (colonGroups gs ++ rest) = (gs.map UInt16.toNat, false, rest) := by
  induction gs generalizing room with
  | nil =>
    refine readGroups_of_none fun start hstart => ?_
    have hafter : after? ':' rest = some start := hstart
    have hsuffix : start.Sublist rest := by
      cases rest with
      | nil => cases hafter
      | cons c cs =>
        rw [after?_cons] at hafter
        split at hafter
        · cases hafter
          exact List.sublist_cons_self c start
        · cases hafter
    exact ⟨fun h => hrest.pointless (hsuffix.subset h), hrest.noGroup start hafter⟩
  | cons g gs ih =>
    obtain ⟨room, rfl⟩ : ∃ r, room = r + 1 := ⟨room - 1, by simp at hroom; omega⟩
    obtain ⟨hends, hv4⟩ := ends_group g gs hrest
    have hstart : groupStart? false (colonGroups (g :: gs) ++ rest) =
        some (hexadecimal g.toNat ++ (colonGroups gs ++ rest)) := by
      simp [groupStart?, colonGroups, after?_cons]
    rw [readGroups_group hstart hends hv4, ih (Nat.le_of_succ_le_succ hroom)]
    rfl

/-- Groups are read to the last. -/
theorem readGroups_groupChars (gs : List UInt16) (hroom : gs.length ≤ room)
    (hrest : EndsGroups rest) :
    readGroups room true (groupChars gs ++ rest) = (gs.map UInt16.toNat, false, rest) := by
  cases gs with
  | nil =>
    refine readGroups_of_none fun start hstart => ?_
    cases hstart
    exact ⟨hrest.pointless, hrest.endsNumber⟩
  | cons g gs =>
    obtain ⟨room, rfl⟩ : ∃ r, room = r + 1 := ⟨room - 1, by simp at hroom; omega⟩
    obtain ⟨hends, hv4⟩ := ends_group g gs hrest
    have hstart : groupStart? true (groupChars (g :: gs) ++ rest) =
        some (hexadecimal g.toNat ++ (colonGroups gs ++ rest)) := by
      rw [groupChars_cons, List.append_assoc]
      rfl
    rw [readGroups_group hstart hends hv4,
      readGroups_colonGroups gs (Nat.le_of_succ_le_succ hroom) hrest]
    rfl

end Groups

/-! ### Zero groups -/

theorem take_zeroRun (gs : List UInt16) (n : Nat) (h : n ≤ zeroRun gs) :
    gs.take n = List.replicate n 0 := by
  have hzeros : gs.takeWhile (· == 0) = List.replicate (zeroRun gs) 0 := by
    refine List.eq_replicate_iff.mpr ⟨rfl, fun g hg => ?_⟩
    simpa using List.all_eq_true.mp List.all_takeWhile g hg
  have htake : gs.take n = (gs.takeWhile (· == 0)).take n := by
    have hsplit : gs.takeWhile (· == 0) ++ gs.dropWhile (· == 0) = gs :=
      List.takeWhile_append_dropWhile
    conv_lhs => rw [← hsplit]
    rw [List.take_append_of_le_length h]
  rw [htake, hzeros, List.take_replicate, Nat.min_eq_left h]

/-- The longest run is one of zeros. -/
theorem longestRun_le (gs : List UInt16) :
    (longestRun gs).2 ≤ zeroRun (gs.drop (longestRun gs).1) := by
  let Starts (best : Nat × Nat) : Prop := best.2 ≤ zeroRun (gs.drop best.1)
  refine List.foldlRecOn (motive := Starts) _ _ (Nat.zero_le _) fun best hbest i _ => ?_
  dsimp only
  split
  · exact Nat.le_refl _
  · exact hbest

/-- The groups before and behind the longest run, with its zeros between them, are all. -/
theorem around_longestRun (gs : List UInt16) :
    gs.take (longestRun gs).1 ++ (List.replicate (longestRun gs).2 0 ++
      gs.drop ((longestRun gs).1 + (longestRun gs).2)) = gs := by
  rw [← take_zeroRun _ _ (longestRun_le gs), ← List.drop_drop, List.take_append_drop,
    List.take_append_drop]

/-! ### Whole addresses -/

theorem point_not_mem_groupChars (gs : List UInt16) : '.' ∉ groupChars gs := by
  cases gs with
  | nil => exact List.not_mem_nil
  | cons g gs =>
    rw [groupChars_cons]
    simp [point_not_mem_hexadecimal, point_not_mem_colonGroups]

theorem halves_toNat (g : UInt16) : (halves g).1.toNat * 256 + (halves g).2.toNat = g.toNat := by
  have hlt : g.toNat < 65536 := g.toNat_lt
  simp only [halves, UInt16.toNat_toUInt8, UInt16.toNat_shiftRight, Nat.shiftRight_eq_div_pow]
  have hshift : (8 : UInt16).toNat % 16 = 8 := rfl
  rw [hshift]
  omega

/-- An address of version 4 that is embedded in one of version 6 is read as two groups. -/
theorem readV6?_mapped (g h : UInt16) {rest : List Char} (hrest : EndsNumber 10 rest) :
    readV6? (':' :: ':' :: 'f' :: 'f' :: 'f' :: 'f' :: ':' ::
      (v4Chars (halves g).1 (halves g).2 (halves h).1 (halves h).2 ++ rest)) =
        some ([0, 0, 0, 0, 0, 0xFFFF, g.toNat, h.toNat], rest) := by
  let tail := v4Chars (halves g).1 (halves g).2 (halves h).1 (halves h).2 ++ rest
  have hv4 : readV4? tail = some _ := readV4?_v4Chars _ _ _ _ hrest
  have hhead : readGroups 8 true (':' :: ':' :: 'f' :: 'f' :: 'f' :: 'f' :: ':' :: tail) =
      ([], false, ':' :: ':' :: 'f' :: 'f' :: 'f' :: 'f' :: ':' :: tail) := rfl
  have hgroups : readGroups 6 false (':' :: tail) = ([g.toNat, h.toNat], true, rest) := by
    rw [readGroups]
    simp [after?_cons, hv4, halves_toNat]
  have htail : readGroups 7 true ('f' :: 'f' :: 'f' :: 'f' :: ':' :: tail) =
      (0xFFFF :: (readGroups 6 false (':' :: tail)).1, (readGroups 6 false (':' :: tail)).2.1,
        (readGroups 6 false (':' :: tail)).2.2) :=
    readGroups_group (g := 0xFFFF) rfl (endsNumber_cons digit?_colon.2 _) rfl
  show readV6? (':' :: ':' :: 'f' :: 'f' :: 'f' :: 'f' :: ':' :: tail) = _
  rw [readV6?, hhead]
  simp [after?_cons, htail, hgroups]

/-- **Eight groups are read back**, however they are written. -/
theorem readV6?_v6Chars {groups : List UInt16} (hlength : groups.length = 8) {rest : List Char}
    (hrest : EndsGroups rest) (hends : EndsNumber 10 rest) :
    readV6? (v6Chars groups ++ rest) = some (groups.map UInt16.toNat, rest) := by
  rw [v6Chars.eq_def]
  split
  case h_1 g h => exact readV6?_mapped g h hends
  case h_2 =>
  dsimp only
  split
  case isFalse =>
    rw [readV6?, readGroups_groupChars groups (Nat.le_of_eq hlength) hrest]
    simp [hlength]
  case isTrue hlong =>
    have hsplit := around_longestRun groups
    generalize groups.take (longestRun groups).1 = front at hsplit ⊢
    generalize groups.drop ((longestRun groups).1 + (longestRun groups).2) = back at hsplit ⊢
    generalize (longestRun groups).2 = zeros at hlong hsplit
    subst hsplit
    simp only [List.length_append, List.length_replicate] at hlength
    have hbehind : EndsGroups (':' :: ':' :: (groupChars back ++ rest)) := by
      refine ⟨?_, endsNumber_cons digit?_colon.2 _, ?_⟩
      · simp [point_not_mem_groupChars, hrest.pointless]
      · rintro _ ⟨⟩
        exact endsNumber_cons digit?_colon.2 _
    have hfits : front.length ≤ 8 ∧ back.length ≤ 7 - front.length := by omega
    have hfront := readGroups_groupChars front hfits.1 hbehind
    have hback := readGroups_groupChars back hfits.2 hrest
    have hcount : 8 - front.length - back.length = zeros := by omega
    rw [readV6?, List.append_assoc, List.cons_append, List.cons_append, hfront]
    simp [after?_cons, hback, hcount, show front.length ≠ 8 by omega]

/-! ## Addresses with a port -/

theorem readPort?_decimal (port : UInt16) : readPort? (':' :: decimal port.toNat) = some port := by
  have hlt : port.toNat < 65536 := port.toNat_lt
  have hread : readNumber? 10 (':' :: decimal port.toNat).length 65536 true
      (decimal port.toNat ++ []) = some (port.toNat, []) :=
    readNumber?_toDigits (by decide) (by decide) (.inl rfl) (Nat.le_succ _) hlt (endsNumber_nil 10)
  rw [List.append_nil] at hread
  simp only [readPort?, after?_cons, if_true, Option.bind_eq_bind, Option.bind_some, hread]
  exact congrArg some UInt16.ofNat_toNat

/-- The scope of an address and its closing bracket. -/
def scopeChars (scope : UInt32) : List Char :=
  if scope = 0 then [] else '%' :: decimal scope.toNat

theorem readScope_scopeChars (scope : UInt32) (rest : List Char) :
    readScope (scopeChars scope ++ ']' :: rest) = (scope, ']' :: rest) := by
  unfold scopeChars
  split
  case isTrue hzero => rw [hzero]; rfl
  case isFalse =>
    have hlt : scope.toNat < 0x100000000 := scope.toNat_lt
    have hread : readNumber? 10 (decimal scope.toNat ++ ']' :: rest).length 0x100000000 true
        (decimal scope.toNat ++ ']' :: rest) = some (scope.toNat, ']' :: rest) := by
      refine readNumber?_toDigits (by decide) (by decide) (.inl rfl) ?_ hlt
        (endsNumber_cons (by decide) rest)
      rw [List.length_append]
      exact Nat.le_add_right _ _
    simp only [readScope, List.cons_append, after?_cons, if_true, hread]
    exact congrArg (·, ']' :: rest) UInt32.ofNat_toNat

/-- Neither a scope nor a bracket is taken for a part of the groups before it. -/
theorem ends_scopeChars (scope : UInt32) (port : Nat) :
    EndsGroups (scopeChars scope ++ ']' :: ':' :: decimal port) ∧
      EndsNumber 10 (scopeChars scope ++ ']' :: ':' :: decimal port) := by
  unfold scopeChars
  split
  all_goals
    refine ⟨⟨?_, endsNumber_cons (by decide) _, nofun⟩, endsNumber_cons (by decide) _⟩
    simp [point_not_mem_decimal]

/-- **Every address is read back from its written form.** -/
theorem ofChars?_chars (a : SocketAddress) : ofChars? a.chars = some a := by
  obtain ⟨ip, port⟩ := a
  cases ip with
  | v4 x y z w =>
    have hread := readV4?_v4Chars x y z w (endsNumber_cons digit?_colon.1 (decimal port.toNat))
    simp only [chars, ofChars?, hread, readPort?_decimal, Option.bind_eq_bind, Option.bind_some]
    simp
  | v6 groups scope =>
    obtain ⟨hgroups, hnumber⟩ := ends_scopeChars scope port.toNat
    have hread := readV6?_v6Chars groups.length_toList hgroups hnumber
    have hwords : (groups.toList.map UInt16.toNat).map Nat.toUInt16 = groups.toList := by
      rw [List.map_map]
      exact (List.map_congr_left fun g _ => UInt16.ofNat_toNat).trans (List.map_id _)
    have hnone (cs : List Char) : readV4? ('[' :: cs) = none := rfl
    have hchars : chars ⟨.v6 groups scope, port⟩ = '[' :: (v6Chars groups.toList ++
        (scopeChars scope ++ ']' :: ':' :: decimal port.toNat)) := by
      simp [chars, scopeChars]
    rw [hchars, ofChars?, hnone]
    simp only [after?_cons, if_true, Option.bind_eq_bind, Option.bind_some, hread,
      readScope_scopeChars, readPort?_decimal, hwords]
    obtain ⟨words, hsize⟩ := groups
    simp [Vector.toList, hsize]

theorem faithful_text : Json.Faithful decode fun a => .str a.text := by
  refine fun a => ⟨trivial, ?_⟩
  simp only [Json.toTree, decode, text, String.toList_ofList, ofChars?_chars]

end Gatehouse.SocketAddress
