import Gatehouse.Proofs.Config.Loading
import Gatehouse.Proofs.Gate.Gapless

/-!
# Overriding policies

A layer that names the chain of an operation replaces it: the chain is the list that the highest
such layer gives, never joined with what lies under it, and the standard one if no layer names it.
So a loaded policy has a chain for every operation at both levels, and an empty one only if a layer
asks for it. All this holds as long as no layer takes a whole table away, by a list or a plain value
in its place.
-/

namespace Gatehouse

/-! ## Chains -/

/-- The name of a level in settings. -/
def PolicyLevel.key : PolicyLevel → String
  | operation => "operations"
  | object => "objects"

/-- The path of a chain. -/
def chainPath (level : PolicyLevel) (op : Operation) : List String :=
  ["policy", level.key, op.name]

/-- The chains of a level. -/
def PolicySettings.chains (p : PolicySettings) : PolicyLevel → Chains
  | .operation => p.operations
  | .object => p.objects

/-- How a stock checker is read from layers. -/
abbrev readBuiltin : Json.Decoder Builtin := Json.choiceOrPlace Builtin.names

/-- A value of a layer is a list, and its items stand for these stock checkers, one by one. -/
def ListsCheckers (x : Json) (bs : List Builtin) : Prop :=
  ∃ xs, x = .arr xs ∧
    List.Forall₂ (fun y b => readBuiltin (Layer.overlay .null y).toTree = .ok b) xs bs

/-- What lies under a list does not matter to how it is read. -/
theorem read_overlay_iff {u x : Json} {bs : List Builtin} :
    Json.list readBuiltin (Layer.overlay u x).toTree = .ok bs ↔ ListsCheckers x bs := by
  rw [Json.list_eq_ok]
  constructor
  · rintro ⟨ys, hys, hitems⟩
    obtain ⟨xs, rfl, rfl⟩ := Layer.overlay_eq_arr.mp hys
    exact ⟨xs, rfl, List.forall₂_map_left_iff.mp hitems⟩
  · rintro ⟨xs, rfl, hitems⟩
    exact ⟨_, Layer.overlay_eq_arr.mpr ⟨xs, rfl, rfl⟩, List.forall₂_map_left_iff.mpr hitems⟩

instance (x : Json) (bs : List Builtin) : Decidable (ListsCheckers x bs) :=
  decidable_of_iff (Json.list readBuiltin (Layer.overlay .null x).toTree = .ok bs) read_overlay_iff

theorem ListsCheckers.unique {x : Json} {bs bs' : List Builtin} (h : ListsCheckers x bs)
    (h' : ListsCheckers x bs') : bs = bs' :=
  Except.ok.inj ((read_overlay_iff.mpr h).symm.trans (read_overlay_iff (u := .null).mpr h'))

theorem ListsCheckers.eq_nil_iff {x : Json} {bs : List Builtin} (h : ListsCheckers x bs) :
    bs = [] ↔ x = .arr [] := by
  obtain ⟨xs, rfl, hitems⟩ := h
  cases hitems with
  | nil => simp
  | cons _ _ => simp

/-- The chain that layers give an operation. -/
inductive GivesChain (layers : List Json) (level : PolicyLevel) (op : Operation)
    (bs : List Builtin) : Prop
  /-- The highest layer that names the chain lists it. -/
  | named (x : Json) (top : Layer.topmost? (chainPath level op) layers = some x)
    (lists : ListsCheckers x bs)
  /-- No layer names the chain. -/
  | unnamed (top : Layer.topmost? (chainPath level op) layers = none)
    (isStandard : Chains.standard.of op = some bs)

section GivesChain

variable {layers layers' : List Json} {level : PolicyLevel} {op : Operation} {bs bs' : List Builtin}

theorem givesChain_iff_of_some {x : Json}
    (h : Layer.topmost? (chainPath level op) layers = some x) :
    GivesChain layers level op bs ↔ ListsCheckers x bs := by
  constructor
  · rintro (⟨y, top, lists⟩ | ⟨top, -⟩)
    · cases h.symm.trans top
      exact lists
    · cases h.symm.trans top
  · exact .named x h

theorem givesChain_iff_of_none (h : Layer.topmost? (chainPath level op) layers = none) :
    GivesChain layers level op bs ↔ Chains.standard.of op = some bs := by
  constructor
  · rintro (⟨y, top, -⟩ | ⟨-, isStandard⟩)
    · cases h.symm.trans top
    · exact isStandard
  · exact .unnamed h

instance : Decidable (GivesChain layers level op bs) :=
  match h : Layer.topmost? (chainPath level op) layers with
  | some x => decidable_of_iff (ListsCheckers x bs) (givesChain_iff_of_some h).symm
  | none => decidable_of_iff (Chains.standard.of op = some bs) (givesChain_iff_of_none h).symm

theorem GivesChain.unique (h : GivesChain layers level op bs)
    (h' : GivesChain layers level op bs') : bs = bs' := by
  cases h with
  | named x top lists => exact lists.unique ((givesChain_iff_of_some top).mp h')
  | unnamed top isStandard =>
    exact Option.some.inj (isStandard.symm.trans ((givesChain_iff_of_none top).mp h'))

/-- What layers give depends only on what the highest of them that names the chain does. -/
theorem GivesChain.congr (h : GivesChain layers level op bs)
    (hsame : Layer.topmost? (chainPath level op) layers' =
      Layer.topmost? (chainPath level op) layers) : GivesChain layers' level op bs := by
  cases h with
  | named x top lists => exact .named x (hsame.trans top) lists
  | unnamed top isStandard => exact .unnamed (hsame.trans top) isStandard

theorem Chains.standard_ne_nil (h : standard.of op = some bs) : bs ≠ [] := by
  cases op <;> cases h <;> exact nofun

theorem GivesChain.eq_nil_iff (h : GivesChain layers level op bs) :
    bs = [] ↔ Layer.topmost? (chainPath level op) layers = some (.arr []) := by
  cases h with
  | named x top lists => rw [lists.eq_nil_iff, top, Option.some.injEq]
  | unnamed top isStandard =>
    rw [top]
    exact iff_of_false (Chains.standard_ne_nil isStandard) nofun

end GivesChain

/-- Checkers that are listed by their names. -/
theorem read_names (bs : List Builtin) :
    Json.list readBuiltin (Json.toTree (.arr (bs.map fun b => .str b.name))) = .ok bs := by
  have hname : ∀ b : Builtin, readBuiltin (Json.toTree (.str b.name)) = .ok b := by
    intro b
    cases b <;> rfl
  exact Json.list_eq_ok.mpr ⟨_, rfl, List.forall₂_map_left_iff.mpr
    (List.forall₂_same.mpr fun b _ => hname b)⟩

theorem Operation.name_injective {op o : Operation} (h : op.name = o.name) : op = o := by
  have hread := congrArg ofName? h
  simpa using hread

namespace Chains

theorem eq_name_of_named {k : String} {op : Operation} (h : Json.named Operation.names k = .ok op) :
    k = op.name := by
  obtain ⟨o, -, ho⟩ := List.mem_map.mp (Json.mem_of_named h)
  cases ho
  rfl

/-- Members without second mentions set the chains of their operations and no others. -/
theorem of_ofMembers {builtin : Json.Decoder Builtin} {ms : Members} {c₀ c : Chains}
    (hnames : (ms.map Prod.fst).Nodup)
    (h : ofMembers builtin c₀ (Json.toMemberTrees ms) = .ok c) (op : Operation) :
    match Members.get? op.name ms with
    | some x => ∃ bs, Json.list builtin x.toTree = .ok bs ∧ c.of op = some bs
    | Option.none => c.of op = c₀.of op := by
  induction ms generalizing c₀ with
  | nil =>
    cases h
    rfl
  | cons m ms ih =>
    obtain ⟨hfresh, hnames⟩ := List.nodup_cons.mp hnames
    obtain ⟨o, ho, h⟩ := bind_eq_ok.mp h
    obtain ⟨bs, hbs, h⟩ := bind_eq_ok.mp h
    have hname : m.1 = o.name := eq_name_of_named (mapError_eq_ok.mp ho)
    have hrest := ih hnames h
    by_cases hop : o = op
    · subst hop
      rw [Members.get?_eq_none (hname ▸ hfresh)] at hrest
      rw [Members.get?_cons_self hname]
      exact ⟨bs, mapError_eq_ok.mp hbs, hrest.trans (if_pos rfl)⟩
    · have hne : m.1 ≠ op.name := fun heq => hop (Operation.name_injective (hname.symm.trans heq))
      have hkept : (c₀.set o bs).of op = c₀.of op := if_neg (Ne.symm hop)
      rw [hkept] at hrest
      rw [Members.get?_cons_of_ne hne]
      exact hrest

theorem of_decodeWith {builtin : Json.Decoder Builtin} {ms : Members} {c : Chains}
    (hnames : (ms.map Prod.fst).Nodup) (h : decodeWith builtin (Json.toTree (.obj ms)) = .ok c)
    {op : Operation} {x : Json} (hx : Members.get? op.name ms = some x) :
    ∃ bs, Json.list builtin x.toTree = .ok bs ∧ c.of op = some bs := by
  obtain ⟨c', hmembers, h⟩ := bind_eq_ok.mp h
  cases h
  have hop := of_ofMembers hnames hmembers op
  rw [hx] at hop
  exact hop

end Chains

/-! ## Policies -/

/-- How a policy is read from layers. -/
abbrev PolicySettings.layeredForm : Json.Form PolicySettings := formWith readBuiltin

/-- A section of the whole is read on its own. -/
theorem Settings.policy_of_read {ms : Members} {x : Json} {s : Settings}
    (hnames : (ms.map Prod.fst).Nodup)
    (h : layeredForm.extract "AppConfig" (Json.toTree (.obj ms)) = .ok s)
    (hx : ms.get? "policy" = some x) :
    PolicySettings.layeredForm.extract "PolicyConfig" x.toTree = .ok s.policy := by
  have hreads := Json.Form.reads_of_extract (by decide) hnames h
  simp only [layeredForm, Json.Form.reads_seq_iff, Json.Form.reads_map_iff] at hreads
  obtain ⟨_, companies, ⟨_, policy, ⟨_, auth, ⟨_, logging, ⟨server, -, rfl⟩, -, rfl⟩, -, rfl⟩,
    hpolicy, rfl⟩, -, rfl⟩ := hreads
  exact hpolicy.of_withDefault hx

theorem PolicySettings.chains_of_read {ms : Members} {x : Json} {p : PolicySettings}
    (hnames : (ms.map Prod.fst).Nodup)
    (h : layeredForm.extract "PolicyConfig" (Json.toTree (.obj ms)) = .ok p) (level : PolicyLevel)
    (hx : ms.get? level.key = some x) :
    Chains.decodeWith readBuiltin x.toTree = .ok (p.chains level) := by
  have hreads := Json.Form.reads_of_extract (by decide) hnames h
  simp only [layeredForm, formWith, Json.Form.reads_seq_iff, Json.Form.reads_map_iff] at hreads
  obtain ⟨_, objects, ⟨operations, hoperations, rfl⟩, hobjects, rfl⟩ := hreads
  cases level with
  | operation => exact hoperations.of_withDefault hx
  | object => exact hobjects.of_withDefault hx

namespace Settings

variable {file : Option String} {env : Environment} {s : Settings} {layers : List Json}

/-- A chain that the whole has is read on its own. -/
theorem chain_of_stacked {level : PolicyLevel} {op : Operation} {y : Json}
    (h : layeredForm.extract "AppConfig" (stacked layers).toTree = .ok s)
    (hy : Layer.at? (chainPath level op) (stacked layers) = some y) :
    ∃ bs, Json.list readBuiltin y.toTree = .ok bs ∧ (s.policy.chains level).of op = some bs := by
  obtain ⟨ms, policy, hwhole, hpolicy, hy⟩ := Layer.at?_cons_eq_some.mp hy
  obtain ⟨ps, chains, rfl, hchains, hy⟩ := Layer.at?_cons_eq_some.mp hy
  obtain ⟨cs, z, rfl, hz, ⟨⟩⟩ := Layer.at?_cons_eq_some.mp hy
  have hordered := ordered_stacked layers
  rw [hwhole] at h hordered
  have hordered' := Json.orderedMembers_iff.mp hordered.2 _ (Members.mem_of_get? hpolicy)
  have hordered'' := Json.orderedMembers_iff.mp hordered'.2 _ (Members.mem_of_get? hchains)
  have hread := policy_of_read hordered.1.nodup h hpolicy
  have hdecoded := PolicySettings.chains_of_read hordered'.1.nodup hread level hchains
  exact Chains.of_decodeWith hordered''.1.nodup hdecoded hz

/-- The standard settings have the standard chains, given by the names of their checkers. -/
theorem at?_standard (level : PolicyLevel) (op : Operation) :
    ∃ bs, Chains.standard.of op = some bs ∧
      Layer.at? (chainPath level op) (Layer.overlay (.obj []) standard.toJson) =
        some (.arr (bs.map fun b => .str b.name)) := by
  cases level <;> cases op <;> exact ⟨_, rfl, rfl⟩

/-- **Each chain is what the layers give**, if the way to it is clear. -/
theorem chain_of_read (hlayers : ∀ l ∈ layers, Json.Unambiguous l) {level : PolicyLevel}
    {op : Operation} (h : layeredForm.extract "AppConfig" (stacked layers).toTree = .ok s)
    (hclear : Layer.Clear (chainPath level op) layers) :
    ∃ bs, (s.policy.chains level).of op = some bs ∧ GivesChain layers level op bs := by
  have hwhole := Layer.at?_foldl (Layer.overlay (.obj []) standard.toJson) hlayers hclear
  cases htop : Layer.topmost? (chainPath level op) layers with
  | some x =>
    rw [htop] at hwhole
    obtain ⟨under, hat⟩ := hwhole
    obtain ⟨bs, hread, hchain⟩ := chain_of_stacked h hat
    exact ⟨bs, hchain, .named x htop (read_overlay_iff.mp hread)⟩
  | none =>
    rw [htop] at hwhole
    obtain ⟨standardChain, hstandard, hat⟩ := at?_standard level op
    obtain ⟨bs, hread, hchain⟩ := chain_of_stacked h (hwhole.trans hat)
    cases (read_names standardChain).symm.trans hread
    exact ⟨standardChain, hchain, .unnamed htop hstandard⟩

end Settings

/-! ## Refused policies -/

theorem Evaluator.lacks_tables {R : Resource} {p : PolicySettings} {level : PolicyLevel}
    {op : Operation} : (p.tables R).Lacks level op ↔ ((p.chains level).of op).getD [] = [] := by
  cases level with
  | operation =>
    exact (Chains.checkers_table Unit p.operations op).congr_left.trans List.map_eq_nil_iff
  | object =>
    exact (Chains.checkers_table (Target R) p.objects op).congr_left.trans List.map_eq_nil_iff

/-- A policy is refused exactly if some operation has no checkers at some level. -/
theorem PolicySettings.evaluator_eq_error {R : Resource} {p : PolicySettings} :
    (∃ why, p.evaluator R = .error why) ↔
      ∃ level op, ((p.chains level).of op).getD [] = [] := by
  have hrefused : (∃ why, p.evaluator R = .error why) ↔ (p.tables R).ensureComplete ≠ .ok () := by
    rw [evaluator]
    cases (p.tables R).ensureComplete <;> simp [Bind.bind, Except.bind, Pure.pure, Except.pure]
  rw [hrefused, Ne, Evaluator.ensureComplete_eq_ok]
  simp only [Evaluator.lacks_tables]
  constructor
  · intro h
    by_contra hnone
    exact h fun op _ level hempty => hnone ⟨level, op, hempty⟩
  · rintro ⟨level, op, hempty⟩ h
    exact h op (Operation.mem_all op) level hempty

/-- **Overrides of a policy replace.** Whenever settings are loaded, each chain to which the way is
clear is what the highest layer that names it lists, item by item, and the standard chain if no
layer names it. So two servers whose highest layers give a chain the same value have the same chain,
whatever else their layers name. If the ways to all chains are clear, the policy has no evaluator
exactly if some layer gives a chain the empty list and no higher one names this chain. -/
theorem policy_overrides_replace {file : Option String} {env : Environment} {s : Settings}
    (h : Settings.load file env = .ok s) :
    (∀ level op, Layer.Clear (chainPath level op) (Settings.overrides file env) →
      ∃ bs, (s.policy.chains level).of op = some bs ∧
        GivesChain (Settings.overrides file env) level op bs) ∧
    (∀ {file' env' s'} level op, Settings.load file' env' = .ok s' →
      Layer.Clear (chainPath level op) (Settings.overrides file env) →
      Layer.Clear (chainPath level op) (Settings.overrides file' env') →
      Layer.topmost? (chainPath level op) (Settings.overrides file' env') =
        Layer.topmost? (chainPath level op) (Settings.overrides file env) →
      (s'.policy.chains level).of op = (s.policy.chains level).of op) ∧
    ((∀ level op, Layer.Clear (chainPath level op) (Settings.overrides file env)) → ∀ R,
      ((∃ why, s.policy.evaluator R = .error why) ↔ ∃ level op lower l higher,
        Settings.overrides file env = lower ++ l :: higher ∧
        Layer.at? (chainPath level op) l = some (.arr []) ∧
        ∀ m ∈ higher, Layer.at? (chainPath level op) m = none)) := by
  have hchain {file : Option String} {env : Environment} {s : Settings}
      (h : Settings.load file env = .ok s) {level : PolicyLevel} {op : Operation}
      (hclear : Layer.Clear (chainPath level op) (Settings.overrides file env)) :=
    Settings.chain_of_read (Settings.unambiguous_overrides file env) (Settings.read_of_load h)
      hclear
  refine ⟨fun level op hclear => hchain h hclear, ?_, ?_⟩
  · intro file' env' s' level op h' hclear hclear' hsame
    obtain ⟨bs, hbs, hgives⟩ := hchain h hclear
    obtain ⟨bs', hbs', hgives'⟩ := hchain h' hclear'
    rw [hbs, hbs', hgives'.unique (hgives.congr hsame)]
  · intro hclear R
    rw [PolicySettings.evaluator_eq_error]
    refine exists_congr fun level => exists_congr fun op => ?_
    obtain ⟨bs, hbs, hgives⟩ := hchain h (hclear level op)
    rw [← Layer.topmost?_eq_some_iff, ← hgives.eq_nil_iff, hbs, Option.getD_some]

/-- The layers of a file that names one chain, and of an environment that names two others, one of
them as empty. -/
def sampleFile : String := "policy: \x7bobjects: \x7bcompany_delete: [admin]\x7d\x7d"

def sampleEnvironment : Environment :=
  [("APP__POLICY__OPERATIONS__COMPANY_LIST", "[user, admin, user]"),
    ("APP__POLICY__OBJECTS__COMPANY_UPDATE", "[]")]

/-- The chain that the file names and the ones that the environment names are theirs, in their order
and with repetitions; another one is the standard chain. For the empty one the policy is refused. -/
theorem policy_overrides_replace_sample : ∃ s, Settings.load sampleFile sampleEnvironment = .ok s ∧
    s.policy.objects.of .delete = some [.admin] ∧
    s.policy.operations.of .list = some [.user, .admin, .user] ∧
    s.policy.objects.of .list = some [.anybody] ∧
    ∃ why, s.policy.evaluator Company.resource = .error why := by
  have hloads : (Settings.load sampleFile sampleEnvironment).toOption.isSome = true := by
    decide +kernel
  obtain ⟨s, hsome⟩ := Option.isSome_iff_exists.mp hloads
  have hs := toOption_eq_some.mp hsome
  obtain ⟨hchain, -, hrefused⟩ := policy_overrides_replace hs
  have htables : ∀ op ∈ Operation.all, ∀ l ∈ Settings.overrides sampleFile sampleEnvironment,
      Layer.TablesTo (chainPath .operation op) l ∧ Layer.TablesTo (chainPath .object op) l := by
    decide +kernel
  have hclear (level : PolicyLevel) (op : Operation) :
      Layer.Clear (chainPath level op) (Settings.overrides sampleFile sampleEnvironment) := by
    refine Layer.clear_of_tablesTo fun l hl => ?_
    have hl := htables op (Operation.mem_all op) l hl
    cases level with
    | operation => exact hl.1
    | object => exact hl.2
  have hgiven {level : PolicyLevel} {op : Operation} {bs : List Builtin}
      (h : GivesChain (Settings.overrides sampleFile sampleEnvironment) level op bs) :
      (s.policy.chains level).of op = some bs := by
    obtain ⟨bs', hbs', hgives⟩ := hchain level op (hclear level op)
    rw [hbs', hgives.unique h]
  obtain ⟨hdelete, hlist, hother, hempty⟩ :
      let layers := Settings.overrides sampleFile sampleEnvironment
      GivesChain layers .object .delete [.admin] ∧
        GivesChain layers .operation .list [.user, .admin, .user] ∧
        GivesChain layers .object .list [.anybody] ∧ GivesChain layers .object .update [] := by
    decide +kernel
  refine ⟨s, hs, hgiven hdelete, hgiven hlist, hgiven hother, (hrefused hclear _).mpr ?_⟩
  exact ⟨.object, .update, Layer.topmost?_eq_some_iff.mp (hempty.eq_nil_iff.mp rfl)⟩

/-- An environment that names the chain of listings. -/
def listingEnvironment : Environment := [("APP__POLICY__OPERATIONS__COMPANY_LIST", "[user]")]

/-- A file that gives the policy no value takes the standard chains away: if the environment then
names one chain, it is the only one at its level, where the layers give the others their standard
chains. -/
theorem policy_nulled_keeps_no_chain :
    let layers := Settings.overrides (some "policy: null") listingEnvironment
    ∃ s, Settings.load (some "policy: null") listingEnvironment = .ok s ∧
      GivesChain layers .operation .list [.user] ∧ s.policy.operations.of .list = some [.user] ∧
      GivesChain layers .operation .detail [.anybody] ∧ s.policy.operations.of .detail = none := by
  intro layers
  have hloads : ((Settings.load (some "policy: null") listingEnvironment).toOption.map fun s =>
      (s.policy.operations.of .list, s.policy.operations.of .detail)) =
        some (some [.user], none) := by
    decide +kernel
  obtain ⟨s, hs, hchains⟩ := Option.map_eq_some_iff.mp hloads
  obtain ⟨hlist, hdetail⟩ := Prod.mk.inj hchains
  have hgives : GivesChain layers .operation .list [.user] ∧
      GivesChain layers .operation .detail [.anybody] := by
    decide +kernel
  exact ⟨s, toOption_eq_some.mp hs, hgives.1, hlist, hgives.2, hdetail⟩

end Gatehouse
