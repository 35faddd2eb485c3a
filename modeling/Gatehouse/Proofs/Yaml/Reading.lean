import Gatehouse.Proofs.Json.Values
import Gatehouse.Proofs.Yaml.Legible
import Gatehouse.Yaml.Value

/-!
# Reading tables back

The tokens of a legible value are those of its node, and the node stands for the value. So a written
table is read back as its members, in their order, as long as each has a name of its own.
-/

namespace Gatehouse.Yaml

mutual

/-- The node that the tokens of a value describe. -/
def nodeOf : Json → Node
  | .obj ms => .table none (entryNodes ms)
  | .arr xs => .list none (itemNodes xs)
  | .str s => .scalar none (isPlain s.toList) s.toList
  | .null => .scalar none true (Json.write .null)
  | .bool b => .scalar none true (Json.write (.bool b))
  | .num n => .scalar none true (Json.write (.num n))

/-- The entries of members. -/
def entryNodes : List (String × Json) → List (Node × Node)
  | [] => []
  | (k, x) :: ms => (.scalar none true k.toList, nodeOf x) :: entryNodes ms

/-- The nodes of items. -/
def itemNodes : List Json → List Node
  | [] => []
  | x :: xs => nodeOf x :: itemNodes xs

end

namespace Reader

variable {fuel : Nat} {flush : Bool} {ts : List Token} {n : Node} {r : Reading}

theorem node_scalar (plain : Bool) (text : List Char) :
    (node (fuel + 1) true flush).run ⟨.scalar plain text :: ts, []⟩ =
      some (.scalar none plain text, ⟨ts, []⟩) := by
  cases flush <;> rfl

theorem node_tableStart {es : List (Node × Node)}
    (h : (blockEntries fuel).run ⟨ts, []⟩ = some (es, r)) :
    (node (fuel + 1) true flush).run ⟨.tableStart :: ts, []⟩ = some (.table none es, r) := by
  cases flush
  all_goals
    show Option.bind (Option.bind ((blockEntries fuel).run ⟨ts, []⟩) _) _ = _
    rw [h]
    rfl

theorem node_listStart {ns : List Node} (h : (blockItems fuel).run ⟨ts, []⟩ = some (ns, r)) :
    (node (fuel + 1) true flush).run ⟨.listStart :: ts, []⟩ = some (.list none ns, r) := by
  cases flush
  all_goals
    show Option.bind (Option.bind ((blockItems fuel).run ⟨ts, []⟩) _) _ = _
    rw [h]
    rfl

theorem node_curly :
    (node (fuel + 2) true flush).run ⟨.opening .curly :: .closing .curly :: ts, []⟩ =
      some (.table none [], ⟨ts, []⟩) := by
  cases flush <;> rfl

theorem node_square :
    (node (fuel + 2) true flush).run ⟨.opening .square :: .closing .square :: ts, []⟩ =
      some (.list none [], ⟨ts, []⟩) := by
  cases flush <;> rfl

theorem blockEntries_end :
    (blockEntries (fuel + 1)).run ⟨.blockEnd :: ts, []⟩ = some ([], ⟨ts, []⟩) :=
  rfl

theorem blockItems_end : (blockItems (fuel + 1)).run ⟨.blockEnd :: ts, []⟩ = some ([], ⟨ts, []⟩) :=
  rfl

theorem unlessNext_of_not {isEnd : Token → Bool} {t : Token} (h : isEnd t = false)
    (read : Reader Node) : (unlessNext isEnd read).run ⟨t :: ts, []⟩ = read.run ⟨t :: ts, []⟩ := by
  show (if isEnd t then pure Node.absent else read : Reader Node).run _ = _
  rw [h]
  rfl

theorem blockItems_item {t : Token} {ns : List Node} {r' : Reading} (ht : endsItem t = false)
    (hitem : (node fuel true false).run ⟨t :: ts, []⟩ = some (n, r))
    (hitems : (blockItems fuel).run r = some (ns, r')) :
    (blockItems (fuel + 1)).run ⟨.item :: t :: ts, []⟩ = some (n :: ns, r') := by
  show Option.bind ((unlessNext endsItem (node fuel true false)).run ⟨t :: ts, []⟩) _ = _
  rw [unlessNext_of_not ht, hitem]
  show Option.bind ((blockItems fuel).run r) _ = _
  rw [hitems]
  rfl

theorem blockEntries_entry {t : Token} {k : List Char} {es : List (Node × Node)} {r' : Reading}
    (ht : endsEntry t = false) (hvalue : (node fuel true true).run ⟨t :: ts, []⟩ = some (n, r))
    (hentries : (blockEntries (fuel + 1)).run r = some (es, r')) :
    (blockEntries (fuel + 2)).run ⟨.key :: .scalar true k :: .value :: t :: ts, []⟩ =
      some ((.scalar none true k, n) :: es, r') := by
  show Option.bind ((unlessNext endsEntry (node fuel true true)).run ⟨t :: ts, []⟩) _ = _
  rw [unlessNext_of_not ht, hvalue]
  show Option.bind ((blockEntries (fuel + 1)).run r) _ = _
  rw [hentries]
  rfl

/-- A value begins with a token that ends nothing. -/
theorem exists_first (x : Json) :
    ∃ t ts, valueTokens x = t :: ts ∧ endsItem t = false ∧ endsEntry t = false :=
  match x with
  | .null | .bool _ | .num _ | .str _ | .arr [] | .obj [] | .arr (_ :: _) | .obj (_ :: _) =>
    ⟨_, _, rfl, rfl, rfl⟩

-- A reader that calls another has fuel for it, since at least one token lies between the two.
mutual

/-- **The tokens of a value are read as its node**, whatever stands behind them. -/
theorem node_valueTokens (x : Json) {fuel : Nat} (hfuel : (valueTokens x).length ≤ fuel)
    (flush : Bool) (rest : List Token) :
    (node fuel true flush).run ⟨valueTokens x ++ rest, []⟩ = some (nodeOf x, ⟨rest, []⟩) := by
  obtain ⟨_, _, hfirst, -⟩ := exists_first x
  have hpos : 0 < (valueTokens x).length := by simp [hfirst]
  obtain ⟨fuel, rfl⟩ : ∃ k, fuel = k + 1 := ⟨fuel - 1, by omega⟩
  match x with
  | .null | .bool _ | .num _ | .str _ => exact node_scalar ..
  | .arr [] =>
    obtain ⟨fuel, rfl⟩ : ∃ k, fuel = k + 1 := ⟨fuel - 1, by simp [valueTokens] at hfuel; omega⟩
    exact node_square
  | .obj [] =>
    obtain ⟨fuel, rfl⟩ : ∃ k, fuel = k + 1 := ⟨fuel - 1, by simp [valueTokens] at hfuel; omega⟩
    exact node_curly
  | .arr (x :: xs) =>
    simp only [valueTokens, List.length_append, List.length_cons, List.length_nil] at hfuel
    simp only [valueTokens, List.cons_append, List.append_assoc, List.nil_append]
    exact node_listStart (blockItems_itemTokens (x :: xs) (by omega) rest)
  | .obj (m :: ms) =>
    simp only [valueTokens, List.length_append, List.length_cons, List.length_nil] at hfuel
    simp only [valueTokens, List.cons_append, List.append_assoc, List.nil_append]
    exact node_tableStart (blockEntries_memberTokens (m :: ms) (by omega) rest)

/-- The tokens of items are read to the end of their block. -/
theorem blockItems_itemTokens (xs : List Json) {fuel : Nat}
    (hfuel : (itemTokens xs).length + 1 ≤ fuel) (rest : List Token) :
    (blockItems fuel).run ⟨itemTokens xs ++ .blockEnd :: rest, []⟩ =
      some (itemNodes xs, ⟨rest, []⟩) := by
  obtain ⟨fuel, rfl⟩ : ∃ k, fuel = k + 1 := ⟨fuel - 1, by omega⟩
  match xs with
  | [] => exact blockItems_end
  | x :: xs =>
    simp only [itemTokens, List.length_append, List.length_cons] at hfuel
    obtain ⟨t, ts, hfirst, ht, -⟩ := exists_first x
    have hfits : (valueTokens x).length ≤ fuel ∧ (itemTokens xs).length + 1 ≤ fuel := by omega
    have hitem := node_valueTokens x hfits.1 false (itemTokens xs ++ .blockEnd :: rest)
    have hitems := blockItems_itemTokens xs hfits.2 rest
    rw [hfirst] at hitem
    simp only [itemTokens, hfirst, List.cons_append, List.append_assoc] at hitem ⊢
    exact blockItems_item ht hitem hitems

/-- The tokens of members are read to the end of their block. -/
theorem blockEntries_memberTokens (ms : Members) {fuel : Nat}
    (hfuel : (memberTokens ms).length + 1 ≤ fuel) (rest : List Token) :
    (blockEntries fuel).run ⟨memberTokens ms ++ .blockEnd :: rest, []⟩ =
      some (entryNodes ms, ⟨rest, []⟩) := by
  match ms with
  | [] =>
    obtain ⟨fuel, rfl⟩ : ∃ k, fuel = k + 1 := ⟨fuel - 1, by omega⟩
    exact blockEntries_end
  | (k, x) :: ms =>
    simp only [memberTokens, List.length_append, List.length_cons] at hfuel
    obtain ⟨fuel, rfl⟩ : ∃ k, fuel = k + 2 := ⟨fuel - 2, by omega⟩
    obtain ⟨t, ts, hfirst, -, ht⟩ := exists_first x
    have hfits : (valueTokens x).length ≤ fuel ∧ (memberTokens ms).length + 1 ≤ fuel + 1 := by
      omega
    have hvalue := node_valueTokens x hfits.1 true (memberTokens ms ++ .blockEnd :: rest)
    have hentries := blockEntries_memberTokens ms hfits.2 rest
    rw [hfirst] at hvalue
    simp only [memberTokens, hfirst, List.cons_append, List.append_assoc] at hvalue ⊢
    exact blockEntries_entry ht hvalue hentries

end

end Reader

/-- The text of a table describes its node. -/
theorem ofChars?_writeMembers {room : Nat} {m : String × Json} {ms : Members}
    (h : LegibleMembers room (m :: ms)) :
    Node.ofChars? (writeMembers 0 (m :: ms)) = some (.table none (entryNodes (m :: ms))) := by
  let tokens := Token.tableStart :: memberTokens (m :: ms) ++ [.blockEnd]
  have hnode : (Reader.node (2 * tokens.length + 2) true false).run ⟨tokens ++ [], []⟩ =
      some (.table none (entryNodes (m :: ms)), ⟨[], []⟩) := by
    have hfuel : tokens.length ≤ 2 * tokens.length + 2 := by omega
    exact Reader.node_valueTokens (.obj (m :: ms)) hfuel false []
  rw [List.append_nil] at hnode
  have hdocument : (Reader.document (2 * tokens.length + 2)).run ⟨tokens, []⟩ =
      some (.table none (entryNodes (m :: ms)), ⟨[], []⟩) := by
    show Option.bind ((Reader.node (2 * tokens.length + 2) true false).run ⟨tokens, []⟩) _ = _
    rw [hnode]
    rfl
  rw [Node.ofChars?, tokens?_writeMembers h]
  show Option.bind ((Reader.document (2 * tokens.length + 2)).run ⟨tokens, []⟩) _ = _
  rw [hdocument]
  rfl

/-! ## Values -/

/-- A text stands for itself, written plain or between quotes. -/
theorem scalarValue?_text (text : String) :
    scalarValue? none (isPlain text.toList) text.toList = some (.str text) := by
  rw [scalarValue?]
  cases hplain : isPlain text.toList with
  | true => rw [if_pos rfl, resolve_of_isPlain hplain, String.ofList_toList]
  | false => rw [if_neg (by decide), String.ofList_toList]

/-- Where there is room for a list or a table, it is not refused. -/
theorem guard_room {room : Nat} (hroom : 0 < room) :
    (guard (isReadable none && 0 < room) : Option Unit) = some () :=
  if_pos (by simpa [isReadable] using hroom)

theorem value?_list {room : Nat} {ns : List Node} {xs : List Json} (hroom : 0 < room)
    (h : itemValues? (room - 1) ns = some xs) :
    (Node.list none ns).value? room = some (.arr xs) :=
  Option.bind_eq_some_iff.mpr
    ⟨(), guard_room hroom, Option.bind_eq_some_iff.mpr ⟨xs, h, rfl⟩⟩

theorem value?_table {room : Nat} {es : List (Node × Node)} {ms : Members} (hroom : 0 < room)
    (hnames : (ms.map Prod.fst).Nodup) (h : entryValues? (room - 1) es = some ms) :
    (Node.table none es).value? room = some (.obj ms) := by
  have hsame : some (Json.obj (Members.ofMentions ms)) = some (.obj ms) := by
    rw [Members.ofMentions_of_nodup hnames]
  exact Option.bind_eq_some_iff.mpr
    ⟨(), guard_room hroom, Option.bind_eq_some_iff.mpr ⟨ms, h, hsame⟩⟩

mutual

/-- **The node of a legible value stands for it.** -/
theorem value?_nodeOf (x : Json) {room : Nat} (hx : Legible room x) :
    (nodeOf x).value? room = some x := by
  match x with
  | .null => rfl
  | .bool true => rfl
  | .bool false => rfl
  | .num (.int i) => exact congrArg some (resolve_writeInt hx)
  | .num (.float _) => exact hx.elim
  | .str text => exact scalarValue?_text text
  | .arr xs => exact value?_list hx.1 (itemValues?_itemNodes xs hx.2)
  | .obj ms => exact value?_table hx.1 hx.2.1 (entryValues?_entryNodes ms hx.2.2)

theorem itemValues?_itemNodes (xs : List Json) {room : Nat} (hxs : LegibleItems room xs) :
    itemValues? room (itemNodes xs) = some xs := by
  match xs with
  | [] => rfl
  | x :: xs =>
    rw [itemNodes, itemValues?, value?_nodeOf x hxs.1, itemValues?_itemNodes xs hxs.2]
    rfl

theorem entryValues?_entryNodes (ms : Members) {room : Nat} (hms : LegibleMembers room ms) :
    entryValues? room (entryNodes ms) = some ms := by
  match ms with
  | [] => rfl
  | (k, x) :: ms =>
    have hkey : (Node.scalar none true k.toList).key? = some k := congrArg some String.ofList_toList
    rw [entryNodes, entryValues?, hkey, value?_nodeOf x hms.2.1, entryValues?_entryNodes ms hms.2.2]
    rfl

end

/-- **A written table is read back.** -/
theorem members?_text {m : String × Json} {ms : Members} (hnames : ((m :: ms).map Prod.fst).Nodup)
    (h : LegibleMembers (maxDepth - 1) (m :: ms)) : members? (text (m :: ms)) = some (m :: ms) := by
  rw [members?, text, String.toList_ofList, ofChars?_writeMembers h]
  show (entryValues? (maxDepth - 1) (entryNodes (m :: ms))).map Members.ofMentions = _
  rw [entryValues?_entryNodes (m :: ms) h, Option.map_some, Members.ofMentions_of_nodup hnames]

end Gatehouse.Yaml
