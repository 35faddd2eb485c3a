import Gatehouse.Proofs.Auth.Rewriting
import Gatehouse.Proofs.Company.Shapes
import Gatehouse.Proofs.Config.Address
import Gatehouse.Proofs.Config.Policy

/-!
# Settings over the standard ones

When written settings are loaded, they lie over the standard ones. Each section is read from both as
it was written: a value that is there takes the place of what lies under it, and a key source that
is left out lies over none. Only in a policy does something of the standard settings show: an
operation without a chain gets the standard one.
-/

namespace Gatehouse

/-! ## Layers over tables -/

namespace Layer

open Json

/-- A value that takes the place of what lies under it and stays as it is. -/
def Solid (x : Json) : Prop := ∀ under, overlay under x = x

theorem solid_arr {xs : List Json} (h : ∀ x ∈ xs, Solid x) : Solid (.arr xs) := by
  intro under
  rw [overlay, items_eq_map, List.map_congr_left fun x hx => h x hx .null, List.map_id']

section Tables

variable {under ms : Members} {name : String}

/-- A table that is laid over another names only what one of them does. -/
theorem mem_overlayMembers {m : String × Json} (h : m ∈ overlayMembers under ms) :
    m.1 ∈ under.map Prod.fst ∨ m.1 ∈ ms.map Prod.fst := by
  induction ms generalizing under with
  | nil => exact .inl (List.mem_map_of_mem h)
  | cons n ms ih =>
    rcases ih h with hunder | hms
    · obtain ⟨p, hp, hname⟩ := List.mem_map.mp hunder
      rw [← hname]
      rcases Members.mem_of_mem_insert hp with rfl | hp
      · exact .inr List.mem_cons_self
      · exact .inl (List.mem_map_of_mem hp)
    · exact .inr (List.mem_cons_of_mem n.1 hms)

theorem member?_overlayMembers {x : Json} (hms : (ms.map Prod.fst).Nodup)
    (hx : ms.get? name = some x) : member? (overlayMembers under ms) name =
      some (overlay ((under.get? name).getD .null) x).toTree := by
  rw [member?_eq, get?_overlayMembers hms, hx]
  rfl

theorem member?_overlayMembers_solid {x : Json} (hms : (ms.map Prod.fst).Nodup)
    (hx : ms.get? name = some x) (hsolid : Solid x) :
    member? (overlayMembers under ms) name = some x.toTree := by
  rw [member?_overlayMembers hms hx, hsolid]

theorem member?_overlayMembers_none (hms : (ms.map Prod.fst).Nodup)
    (hunder : under.get? name = none) (hnone : ms.get? name = none) :
    member? (overlayMembers under ms) name = none := by
  rw [member?_eq, get?_overlayMembers hms, hnone, hunder]
  rfl

end Tables

section Records

variable {α : Type} {under ms : Members} {name : String} {dec : Decoder α} {default a : α}

/-- A field whose member does not depend on what lies under it is read from this member. -/
theorem reads_solid {x : Json} (hms : (ms.map Prod.fst).Nodup) (hx : ms.get? name = some x)
    (hsolid : Solid x) (hdec : dec x.toTree = .ok a) :
    (Form.withDefault name dec default).Reads (overlayMembers under ms) a :=
  reads_withDefault (.inl ⟨x, member?_overlayMembers_solid hms hx hsolid, hdec⟩)

/-- A value that can lie under a section: its parts are in order, and the section knows all that it
names. -/
structure Section (names : List String) (u : Json) : Prop where
  ordered : Ordered u
  known : ∀ name ∈ (membersOf u).map Prod.fst, name ∈ names

/-- **A table over another is read as the record that the form reads from both**, if the form knows
all that they name. -/
theorem extract_overlay {form : Form α} {u : Json} (hform : form.names.Nodup)
    (hu : Section form.names u) (hms : (ms.map Prod.fst).Sublist form.names)
    (h : (ms.map Prod.fst).Nodup → form.Reads (overlayMembers (membersOf u) ms) a)
    (type : String) : form.extract type (overlay u (.obj ms)).toTree = .ok a := by
  have hordered : Ordered (overlay u (.obj ms)) := ordered_overlay hu.ordered _
  refine (h (hms.nodup hform)).decode type .refuse hordered.1.nodup fun m hm => ?_
  rcases mem_overlayMembers hm with hname | hname
  · exact hu.known m.1 hname
  · exact hms.subset hname

end Records

end Layer

open Json Layer

/-! ## Sections -/

theorem solid_names {α : Type} (xs : List α) (name : α → String) :
    Solid (.arr (xs.map fun x => .str (name x))) := by
  refine solid_arr fun y hy => ?_
  obtain ⟨x, -, rfl⟩ := List.mem_map.mp hy
  exact fun _ => rfl

theorem ServerSettings.faithful_capacity :
    Faithful decodeCapacity fun n => .nat n.toNat := by
  intro n
  have hlt : n.toNat < 2 ^ 64 := n.toNat_lt
  refine ⟨plain_nat hlt, ?_⟩
  have hrange : (0 : Int) ≤ n.toNat ∧ (n.toNat : Int) ≤ 0xFFFFFFFFFFFFFFFF := by omega
  simp only [decodeCapacity, nat, toTree, whole, if_pos hrange]
  exact congrArg _ UInt64.ofNat_toNat

theorem ServerSettings.extract_over (s : ServerSettings) {u : Json}
    (hu : Section form.names u) :
    form.extract "ServerConfig" (overlay u s.toJson).toTree = .ok s := by
  refine extract_overlay (by decide) hu (List.Sublist.refl _) (fun hnames => ?_) _
  exact ((reads_solid hnames rfl (fun _ => rfl) (SocketAddress.faithful_text _).2).map mk).seq
    (reads_solid hnames rfl (fun _ => rfl) (faithful_capacity _).2)

theorem PagingSettings.extract_over (s : PagingSettings) {u : Json}
    (hu : Section form.names u) :
    form.extract "CompaniesConfig" (overlay u s.toJson).toTree = .ok s := by
  refine extract_overlay (by decide) hu (List.Sublist.refl _) (fun hnames => ?_) _
  exact ((reads_solid hnames rfl (fun _ => rfl) (Company.faithful_count _).2).map mk).seq
    (reads_solid hnames rfl (fun _ => rfl) (Company.faithful_count _).2)

/-- How settings of the log are read from layers. -/
abbrev LogSettings.layeredForm : Form LogSettings := formWith (choiceOrPlace LogFormat.names)

theorem LogSettings.extract_over (s : LogSettings) {u : Json} (hu : Section layeredForm.names u) :
    layeredForm.extract "LoggingConfig" (overlay u s.toJson).toTree = .ok s := by
  have hformat : choiceOrPlace LogFormat.names (toTree (.str s.format.name)) = .ok s.format := by
    cases s.format <;> rfl
  refine extract_overlay (by decide) hu (List.Sublist.refl _) (fun hnames => ?_) _
  exact ((reads_solid hnames rfl (fun _ => rfl) (faithful_string _).2).map mk).seq
    (reads_solid hnames rfl (fun _ => rfl) hformat)

/-- How settings of token verification are read from layers. -/
abbrev AuthSettings.layeredForm : Form AuthSettings := formWith (choiceOrPlace Algorithm.names)

theorem read_algorithms (as : List Algorithm) : list (choiceOrPlace Algorithm.names)
    (toTree (.arr (as.map fun a => .str a.name))) = .ok as := by
  have hname (a : Algorithm) : choiceOrPlace Algorithm.names (toTree (.str a.name)) = .ok a := by
    cases a with
    | hmac h | rsaPkcs1 h | rsaPss h => cases h <;> rfl
    | es256 | es384 | edDsa => rfl
  exact list_eq_ok.mpr ⟨_, rfl, List.forall₂_map_left_iff.mpr
    (List.forall₂_same.mpr fun a _ => hname a)⟩

/-- A key source is read if it is given, and none is made up if none lies under it. -/
theorem reads_keySource {under ms : Members} {name : String} {o : Option String}
    (hms : (ms.map Prod.fst).Nodup) (hunder : under.get? name = none)
    (hget : ms.get? name = o.map .str) :
    (Form.absentOk name Json.string).Reads (overlayMembers under ms) o := by
  cases o with
  | none => exact reads_withDefault (.inr ⟨member?_overlayMembers_none hms hunder hget, rfl⟩)
  | some text => exact reads_solid hms hget (fun _ => rfl) rfl

theorem AuthSettings.extract_over (s : AuthSettings) {u : Json} (hu : Section layeredForm.names u)
    (hpem : (membersOf u).get? "public_key_pem" = none)
    (hpath : (membersOf u).get? "public_key_path" = none) :
    layeredForm.extract "AuthConfig" (overlay u s.toJson).toTree = .ok s := by
  obtain ⟨pem, path, algorithms, audience, leeway, requireExpiry⟩ := s
  have hseconds := Claims.decodeSeconds_eq_ok.mpr (rfl : _ = Claims.secondsJson leeway)
  refine extract_overlay (by decide) hu ?_ (fun hnames => ?_) _
  · simp only [List.map_append]
    exact (Claims.map_fst_member.append Claims.map_fst_member).append (List.Sublist.refl _)
  · cases pem <;> cases path <;>
      exact ((((((reads_keySource hnames hpem rfl).map mk).seq
        (reads_keySource hnames hpath rfl)).seq
        (reads_solid hnames rfl (solid_names _ _) (read_algorithms _))).seq
        (reads_solid hnames rfl (fun _ => rfl) (faithful_string _).2)).seq
        (reads_solid hnames rfl (fun _ => rfl) hseconds)).seq
        (reads_solid hnames rfl (fun _ => rfl) (faithful_boolean _).2)

/-! ## Policies -/

/-- The written form of a chain. -/
def checkersJson (bs : List Builtin) : Json := .arr (bs.map fun b => .str b.name)

namespace Chains

/-- The chains with the standard one for each operation that has none. -/
def completed (c : Chains) : Chains := ⟨fun op => (c.of op).or (standard.of op)⟩

theorem completed_of (c : Chains) (op : Operation) :
    c.completed.of op = (c.of op).or (standard.of op) := rfl

theorem exists_completed_of (c : Chains) (op : Operation) : ∃ bs, c.completed.of op = some bs := by
  obtain ⟨bs, hbs⟩ : ∃ bs, standard.of op = some bs := by cases op <;> exact ⟨_, rfl⟩
  rw [completed_of, hbs]
  cases c.of op with
  | none => exact ⟨bs, rfl⟩
  | some bs' => exact ⟨bs', rfl⟩

theorem completed_eq_self_iff {c : Chains} : c.completed = c ↔ ∀ op, (c.of op).isSome := by
  constructor
  · intro h op
    obtain ⟨bs, hbs⟩ := c.exists_completed_of op
    rw [← h, hbs]
    rfl
  · intro h
    have hof : c.completed.of = c.of := funext fun op => by
      obtain ⟨bs, hbs⟩ := Option.isSome_iff_exists.mp (h op)
      rw [completed_of, hbs, Option.some_or]
    exact congrArg mk hof

/-- The members that are written for chains. -/
def told (c : Chains) : Members := c.entries.map fun e => (e.1.name, checkersJson e.2)

theorem get?_told (c : Chains) (op : Operation) :
    c.told.get? op.name = (c.of op).map checkersJson := by
  have hall (ops : List Operation) :
      Members.get? op.name ((ops.filterMap fun o => (c.of o).map fun bs => (o, bs)).map
        fun e => (e.1.name, checkersJson e.2)) =
          if op ∈ ops then (c.of op).map checkersJson else Option.none := by
    induction ops with
    | nil => rfl
    | cons o ops ih =>
      by_cases hop : o = op
      · subst hop
        cases ho : c.of o with
        | none => simpa [ho] using ih
        | some bs => simp [ho, Members.get?]
      · have hne : o.name ≠ op.name := fun heq => hop (Operation.name_injective heq)
        cases ho : c.of o with
        | none => simpa [ho, Ne.symm hop] using ih
        | some bs => simpa [ho, Members.get?_cons_of_ne, hne, Ne.symm hop] using ih
  exact (hall Operation.all).trans (if_pos (Operation.mem_all op))

theorem names_told (c : Chains) :
    (c.told.map Prod.fst).Sublist (Operation.all.map Operation.name) := by
  have hnames : c.told.map Prod.fst =
      (Operation.all.filter fun op => (c.of op).isSome).map Operation.name := by
    rw [told, entries]
    generalize Operation.all = ops
    induction ops with
    | nil => rfl
    | cons o ops ih => cases ho : c.of o <;> simpa [ho] using ih
  rw [hnames]
  exact List.filter_sublist.map _

/-- Members that name operations and list checkers are read to the end. -/
theorem exists_ofMembers (builtin : Decoder Builtin) (ms : Members)
    (h : ∀ m ∈ ms, ∃ op bs, m.1 = Operation.name op ∧ list builtin m.2.toTree = .ok bs)
    (c₀ : Chains) : ∃ c, ofMembers builtin c₀ (toMemberTrees ms) = .ok c := by
  induction ms generalizing c₀ with
  | nil => exact ⟨c₀, rfl⟩
  | cons m ms ih =>
    obtain ⟨op, bs, hname, hlist⟩ := h m List.mem_cons_self
    obtain ⟨c, hc⟩ := ih (fun n hn => h n (List.mem_cons_of_mem m hn)) (c₀.set op bs)
    have hop : named Operation.names m.1 = .ok op := by
      rw [hname]
      cases op <;> rfl
    refine ⟨c, bind_eq_ok.mpr ⟨op, mapError_eq_ok.mpr hop, ?_⟩⟩
    exact bind_eq_ok.mpr ⟨bs, mapError_eq_ok.mpr hlist, hc⟩

/-- A value under chains that has the standard ones. -/
structure Under (u : Json) : Prop where
  isSection : Section (Operation.all.map Operation.name) u
  chain : ∀ op, (membersOf u).get? op.name = (standard.of op).map checkersJson

section Over

variable {u : Json} (hu : Under u) (c : Chains)
include hu

theorem get?_over {op : Operation} {bs : List Builtin} (hbs : c.completed.of op = some bs) :
    Members.get? op.name (overlayMembers (membersOf u) c.told) = some (checkersJson bs) := by
  rw [get?_overlayMembers ((names_told c).nodup (by decide)), get?_told]
  cases hop : c.of op with
  | none =>
    rw [completed_of, hop, Option.none_or] at hbs
    rw [Option.map_none, hu.chain, hbs]
    rfl
  | some bs' =>
    rw [completed_of, hop] at hbs
    cases hbs
    exact congrArg some (solid_names bs Builtin.name _)

theorem nodup_over : ((overlayMembers (membersOf u) c.told).map Prod.fst).Nodup :=
  (ordered_overlay hu.isSection.ordered (.obj c.told)).1.nodup

theorem mem_over {m : String × Json} (hm : m ∈ overlayMembers (membersOf u) c.told) :
    ∃ op bs, m.1 = Operation.name op ∧ list readBuiltin m.2.toTree = .ok bs := by
  have hname : m.1 ∈ Operation.all.map Operation.name := by
    rcases mem_overlayMembers hm with hname | hname
    · exact hu.isSection.known m.1 hname
    · exact (names_told c).subset hname
  obtain ⟨op, -, hop⟩ := List.mem_map.mp hname
  obtain ⟨bs, hbs⟩ := exists_completed_of c op
  have hfound : Members.get? op.name (overlayMembers (membersOf u) c.told) = some m.2 := by
    rw [hop, Members.get?, find?_of_mem (nodup_over hu c) hm]
    rfl
  refine ⟨op, bs, hop.symm, ?_⟩
  rw [← Option.some.inj ((get?_over hu c hbs).symm.trans hfound)]
  exact read_names bs

/-- **Chains over the standard ones are read as they are**, with the standard ones where they have
none. -/
theorem decode_over : decodeWith readBuiltin (overlay u c.toJson).toTree = .ok c.completed := by
  obtain ⟨c', hc'⟩ := exists_ofMembers readBuiltin _ (fun m hm => mem_over hu c hm) none
  have hread : decodeWith readBuiltin (toTree (.obj (overlayMembers (membersOf u) c.told))) =
      .ok c' := bind_eq_ok.mpr ⟨c', hc', rfl⟩
  have hof : c'.of = c.completed.of := by
    funext op
    obtain ⟨bs, hbs⟩ := exists_completed_of c op
    obtain ⟨bs', hlist, hof⟩ := of_decodeWith (nodup_over hu c) hread (get?_over hu c hbs)
    cases (read_names bs).symm.trans hlist
    rw [hof, hbs]
  have hwhole : overlay u c.toJson = .obj (overlayMembers (membersOf u) c.told) := rfl
  rw [hwhole, hread]
  cases c'
  exact congrArg (fun chains => Except.ok (mk chains)) hof

end Over

end Chains

namespace PolicySettings

/-- The policy with the standard chain for each operation that a level has none for. -/
def completed (p : PolicySettings) : PolicySettings := ⟨p.operations.completed, p.objects.completed⟩

/-- A value under a policy that has the standard chains at each level. -/
structure Under (u : Json) : Prop where
  isSection : Section layeredForm.names u
  chains : ∀ level : PolicyLevel, Chains.Under (((membersOf u).get? level.key).getD .null)

theorem extract_over (p : PolicySettings) {u : Json} (hu : Under u) :
    layeredForm.extract "PolicyConfig" (overlay u p.toJson).toTree = .ok p.completed := by
  refine extract_overlay (by decide) hu.isSection (List.Sublist.refl _) (fun hnames => ?_) _
  have hread (level : PolicyLevel)
      (hget : Members.get? level.key
        [("operations", p.operations.toJson), ("objects", p.objects.toJson)] =
          some (p.chains level).toJson) :
      (Form.withDefault level.key (Chains.decodeWith readBuiltin) .standard).Reads
        (overlayMembers (membersOf u) _) (p.chains level).completed :=
    reads_withDefault (.inl ⟨_, member?_overlayMembers hnames hget,
      Chains.decode_over (hu.chains level) _⟩)
  exact ((hread .operation rfl).map mk).seq (hread .object rfl)

end PolicySettings

namespace Settings

/-- The settings with the standard chain for each operation that the policy has none for. -/
def completed (s : Settings) : Settings := { s with policy := s.policy.completed }

/-- What lies under all layers: the standard settings. -/
def ground : Json := overlay (.obj []) standard.toJson

theorem ordered_ground : Ordered ground := ordered_overlay ordered_empty _

/-- What lies under a section. -/
def groundOf (name : String) : Json := ((membersOf ground).get? name).getD .null

theorem section_groundOf (name : String) {names : List String}
    (h : ∀ k ∈ (membersOf (groundOf name)).map Prod.fst, k ∈ names) :
    Section names (groundOf name) :=
  ⟨ordered_get? (ordered_membersOf ordered_ground) name, h⟩

theorem under_policy : PolicySettings.Under (groundOf "policy") := by
  have hsection : Section PolicySettings.layeredForm.names (groundOf "policy") :=
    section_groundOf "policy" (by decide +kernel)
  refine ⟨hsection, fun level => ⟨⟨?_, ?_⟩, fun op => ?_⟩⟩
  · exact ordered_get? (ordered_membersOf hsection.ordered) level.key
  · cases level <;> decide +kernel
  · cases level <;> cases op <;> rfl

/-- **Settings over the standard ones are read as they are**, with a chain for every operation. -/
theorem extract_over_ground (s : Settings) :
    layeredForm.extract "AppConfig" (overlay ground s.toJson).toTree = .ok s.completed := by
  have hground : Section layeredForm.names ground := ⟨ordered_ground, by decide +kernel⟩
  refine extract_overlay (by decide) hground (List.Sublist.refl _) (fun hnames => ?_) _
  have hread {α : Type} {dec : Decoder α} {default a : α} {name : String} {x : Json}
      (hx : Members.get? name [("server", s.server.toJson), ("logging", s.logging.toJson),
        ("auth", s.auth.toJson), ("policy", s.policy.toJson), ("companies", s.companies.toJson)] =
          some x) (hdec : dec (overlay (groundOf name) x).toTree = .ok a) :
      (Form.withDefault name dec default).Reads (overlayMembers (membersOf ground) _) a :=
    reads_withDefault (.inl ⟨_, member?_overlayMembers hnames hx, hdec⟩)
  have hserver := s.server.extract_over (section_groundOf "server" (by decide +kernel))
  have hlogging := s.logging.extract_over (section_groundOf "logging" (by decide +kernel))
  have hauth := s.auth.extract_over (section_groundOf "auth" (by decide +kernel))
    (Members.get?_eq_none (by decide +kernel)) (Members.get?_eq_none (by decide +kernel))
  have hpolicy := s.policy.extract_over under_policy
  have hcompanies :=
    s.companies.extract_over (section_groundOf "companies" (by decide +kernel))
  exact (((((hread rfl hserver).map mk).seq (hread rfl hlogging)).seq (hread rfl hauth)).seq
    (hread rfl hpolicy)).seq (hread rfl hcompanies)

/-- An environment that names no setting is no layer of its own. -/
theorem layer_eq_empty {env : Environment} (h : ∀ v ∈ env, Environment.path? v.1 = none) :
    env.layer = .obj [] := by
  have hnone : env.filterMap Environment.setting? = [] :=
    List.filterMap_eq_nil_iff.mpr fun v hv => Option.map_eq_none_iff.mpr (h v hv)
  rw [Environment.layer, hnone]
  rfl

theorem stacked_empty (ms : Members) :
    stacked [.obj ms, .obj []] = overlay ground (.obj ms) := rfl

theorem load_of_members? {file : String} {ms : Members} (h : Yaml.members? file = some ms)
    (env : Environment) : load (some file) env =
      (layeredForm.extract "AppConfig" (stacked [.obj ms, env.layer]).toTree).mapError .misfit := by
  simp only [load, fileLayer, h]
  rfl

/-- **The written form of settings is loaded as these settings**, with a chain for every
operation. -/
theorem load_written {file : String} {env : Environment} {s : Settings}
    (hfile : Yaml.members? file = some (membersOf s.toJson))
    (henv : ∀ v ∈ env, Environment.path? v.1 = none) : load (some file) env = .ok s.completed := by
  have hobj : Json.obj (membersOf s.toJson) = s.toJson := rfl
  rw [load_of_members? hfile, layer_eq_empty henv, stacked_empty, hobj, extract_over_ground]
  rfl

/-- Nothing is added to settings that have a chain, be it empty, for every operation. -/
theorem completed_eq_self_iff {s : Settings} :
    s.completed = s ↔ ∀ level op, ((s.policy.chains level).of op).isSome := by
  obtain ⟨server, logging, auth, ⟨operations, objects⟩, companies⟩ := s
  simp only [completed, PolicySettings.completed, mk.injEq, PolicySettings.mk.injEq, true_and,
    and_true, Chains.completed_eq_self_iff]
  constructor
  · rintro ⟨hoperations, hobjects⟩ level
    cases level with
    | operation => exact hoperations
    | object => exact hobjects
  · exact fun h => ⟨h .operation, h .object⟩

end Settings

end Gatehouse
