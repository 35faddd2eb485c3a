import Gatehouse.Proofs.Config.Ground
import Gatehouse.Proofs.Yaml.Reading
import Gatehouse.Server.App

/-!
# Printed settings

Settings are legible: their names are known ones, and their numbers are exact up to the ends of
their ranges. So the printed text is read back as what was printed, and settings that are loaded,
changed from the command line and printed are loaded again as they are, as long as no operation
lacks a chain. One that does gets the standard chain.
-/

namespace Gatehouse

open Json Layer

/-! ## Legible settings -/

section Legible

open Yaml

/-- A table is legible if a form knows its members by names that can stand plain. -/
theorem legible_table {room : Nat} {ms : Members} (names : List String) (hnames : names.Nodup)
    (hfit : ∀ name ∈ names, isName name = true) (hms : (ms.map Prod.fst).Sublist names)
    (hvalues : ∀ m ∈ ms, Legible room m.2) : Legible (room + 1) (.obj ms) :=
  ⟨room.succ_pos, hms.nodup hnames, legibleMembers_iff.mpr fun m hm =>
    ⟨hfit m.1 (hms.subset (List.mem_map_of_mem hm)), hvalues m hm⟩⟩

theorem legible_names {α : Type} {room : Nat} (xs : List α) (name : α → String) :
    Legible (room + 1) (.arr (xs.map fun x => .str (name x))) := by
  refine ⟨room.succ_pos, legibleItems_iff.mpr fun y hy => ?_⟩
  obtain ⟨x, -, rfl⟩ := List.mem_map.mp hy
  trivial

theorem legible_member {α : Type} {room : Nat} {encode : α → Json} {name : String} {o : Option α}
    (h : ∀ a, Legible room (encode a)) : ∀ m ∈ Claims.member name encode o, Legible room m.2 := by
  cases o with
  | none => nofun
  | some a => exact List.forall_mem_singleton.mpr (h a)

theorem legible_seconds {room : Nat} (n : Int64) : Legible room (Claims.secondsJson n) := by
  have hlow := n.le_toInt
  have hhigh := n.toInt_lt
  exact isExact_iff.mpr (by omega)

theorem ServerSettings.legible {room : Nat} (s : ServerSettings) : Legible (room + 1) s.toJson := by
  refine legible_table form.names (by decide) (by decide +kernel) (List.Sublist.refl _) ?_
  simp only [List.forall_mem_cons]
  exact ⟨trivial, (faithful_capacity _).1, List.forall_mem_nil _⟩

theorem PagingSettings.legible {room : Nat} (s : PagingSettings) : Legible (room + 1) s.toJson := by
  refine legible_table form.names (by decide) (by decide +kernel) (List.Sublist.refl _) ?_
  simp only [List.forall_mem_cons]
  exact ⟨(Company.faithful_count _).1, (Company.faithful_count _).1, List.forall_mem_nil _⟩

theorem LogSettings.legible {room : Nat} (s : LogSettings) : Legible (room + 1) s.toJson := by
  refine legible_table layeredForm.names (by decide) (by decide +kernel) (List.Sublist.refl _) ?_
  simp only [List.forall_mem_cons]
  exact ⟨trivial, trivial, List.forall_mem_nil _⟩

theorem AuthSettings.legible {room : Nat} (s : AuthSettings) : Legible (room + 2) s.toJson := by
  refine legible_table layeredForm.names (by decide) (by decide +kernel) ?_ ?_
  · simp only [List.map_append]
    exact (Claims.map_fst_member.append Claims.map_fst_member).append (List.Sublist.refl _)
  · simp only [List.forall_mem_append, List.forall_mem_cons]
    exact ⟨⟨legible_member fun _ => trivial, legible_member fun _ => trivial⟩,
      legible_names _ _, trivial, legible_seconds _, trivial, List.forall_mem_nil _⟩

theorem Chains.legible {room : Nat} (c : Chains) : Legible (room + 2) c.toJson := by
  refine legible_table _ (by decide) (by decide +kernel) (names_told c) fun m hm => ?_
  obtain ⟨e, -, rfl⟩ := List.mem_map.mp hm
  exact legible_names _ _

theorem PolicySettings.legible {room : Nat} (p : PolicySettings) : Legible (room + 3) p.toJson := by
  refine legible_table layeredForm.names (by decide) (by decide +kernel)
    (List.Sublist.refl _) ?_
  simp only [List.forall_mem_cons]
  exact ⟨p.operations.legible, p.objects.legible, List.forall_mem_nil _⟩

namespace Settings

theorem legible (s : Settings) : Legible Yaml.maxDepth s.toJson := by
  refine legible_table layeredForm.names (by decide) (by decide +kernel)
    (List.Sublist.refl _) ?_
  simp only [List.forall_mem_cons]
  exact ⟨s.server.legible, s.logging.legible, s.auth.legible, s.policy.legible,
    s.companies.legible, List.forall_mem_nil _⟩

/-- **The printed text is read back as what was printed.** -/
theorem members?_dump (s : Settings) : Yaml.members? s.dump = some (membersOf s.toJson) :=
  Yaml.members?_text s.legible.2.1 s.legible.2.2

/-- **Printed settings are loaded as they were**, with a chain for every operation. -/
theorem load_dump {env : Environment} (s : Settings)
    (henv : ∀ v ∈ env, Environment.path? v.1 = none) : load (some s.dump) env = .ok s.completed :=
  load_written s.members?_dump henv

end Settings

end Legible

/-! ## Printed settings -/

/-- **Printed settings are loaded again**, whatever they were loaded from: in every section they are
the same, but an operation that has no chain at a level gets the standard one. So nothing changes if
no operation lacks a chain, be it empty, and none does if the layers leave the ways to the chains
clear. -/
theorem printed_settings_reload {file : Option String} {env env' : Environment} {s : Settings}
    (h : Settings.load file env = .ok s) (port : Option UInt16) (verbosity : Nat)
    (henv : ∀ v ∈ env', Environment.path? v.1 = none) :
    let c := s.override port verbosity
    Settings.load (some c.dump) env' = .ok c.completed ∧
    (Settings.load (some c.dump) env' = .ok c ↔
      ∀ level op, ((c.policy.chains level).of op).isSome) ∧
    ((∀ level op, Layer.Clear (chainPath level op) (Settings.overrides file env)) →
      Settings.load (some c.dump) env' = .ok c) := by
  intro c
  have hreload : Settings.load (some c.dump) env' = .ok c.completed := c.load_dump henv
  have hsame : Settings.load (some c.dump) env' = .ok c ↔
      ∀ level op, ((c.policy.chains level).of op).isSome := by
    rw [hreload, Except.ok.injEq, Settings.completed_eq_self_iff]
  refine ⟨hreload, hsame, fun hclear => hsame.mpr fun level op => ?_⟩
  obtain ⟨bs, hbs, -⟩ := Settings.chain_of_read (Settings.unambiguous_overrides file env)
    (Settings.read_of_load h) (hclear level op)
  exact Option.isSome_iff_exists.mpr ⟨bs, hbs⟩

/-- A file with numbers at the ends of their ranges, and an empty chain. -/
def extremeFile : String :=
  "auth: \x7bleeway_seconds: -9223372036854775808\x7d\n" ++
  "policy: \x7bobjects: \x7bcompany_delete: []\x7d\x7d\n" ++
  "companies: \x7bmax_page_size: 18446744073709551615\x7d"

/-- Its settings, with another port and the most detailed log, are loaded again. -/
theorem printed_settings_reload_extreme : ∃ s, Settings.load extremeFile [] = .ok s ∧
    s.companies.maxSize = 18446744073709551615 ∧ s.auth.leeway = -9223372036854775808 ∧
    s.policy.objects.of .delete = some [] ∧
    Settings.load (s.override (some 8088) 3).dump [("PATH", "/bin")] =
      .ok (s.override (some 8088) 3) := by
  have hloads : ((Settings.load extremeFile []).toOption.map fun s =>
      (s.companies.maxSize, s.auth.leeway, s.policy.objects.of .delete)) =
        some (18446744073709551615, -9223372036854775808, some []) := by
    decide +kernel
  obtain ⟨s, hs, hsettings⟩ := Option.map_eq_some_iff.mp hloads
  obtain ⟨hsize, hsettings⟩ := Prod.mk.inj hsettings
  obtain ⟨hleeway, hdelete⟩ := Prod.mk.inj hsettings
  have hs := toOption_eq_some.mp hs
  refine ⟨s, hs, hsize, hleeway, hdelete, ?_⟩
  have htables : ∀ op ∈ Operation.all, ∀ l ∈ Settings.overrides extremeFile [],
      Layer.TablesTo (chainPath .operation op) l ∧ Layer.TablesTo (chainPath .object op) l := by
    decide +kernel
  have hclear (level : PolicyLevel) (op : Operation) :
      Layer.Clear (chainPath level op) (Settings.overrides extremeFile []) := by
    refine Layer.clear_of_tablesTo fun l hl => ?_
    have hl := htables op (Operation.mem_all op) l hl
    cases level with
    | operation => exact hl.1
    | object => exact hl.2
  have hnone : ∀ v ∈ [("PATH", "/bin")], Environment.path? v.1 = none := by decide +kernel
  obtain ⟨-, -, hsame⟩ := printed_settings_reload hs (some 8088) 3 hnone
  exact hsame hclear

/-- A file that gives the policy no value takes the standard chains away. If the environment then
names one chain, what is printed has only this one at its level, and when it is loaded again, the
others are the standard ones. -/
theorem printed_settings_gain_chains :
    ∃ s r, Settings.load (some "policy: null") listingEnvironment = .ok s ∧
      Settings.load (some (s.override none 0).dump) [] = .ok r ∧
      (s.override none 0).policy.operations.of .detail = none ∧
      r.policy.operations.of .detail = some [.anybody] := by
  have hloads : ((Settings.load (some "policy: null") listingEnvironment).toOption.map fun s =>
      (s.override none 0).policy.operations.of .detail) = some none := by
    decide +kernel
  obtain ⟨s, hs, hdetail⟩ := Option.map_eq_some_iff.mp hloads
  refine ⟨s, _, toOption_eq_some.mp hs, (s.override none 0).load_dump nofun, hdetail, ?_⟩
  show ((s.override none 0).policy.operations.of .detail).or (Chains.standard.of .detail) = _
  rw [hdetail]
  rfl

end Gatehouse
