import Gatehouse.Config.Load
import Gatehouse.Proofs.Config.Layers
import Gatehouse.Proofs.Json.Forms

/-!
# Loading from layers

What is loaded is read from one value: the standard settings with the layer of the file and that of
the environment over them. No layer names a setting twice, since later mentions in a file replace
earlier ones and the environment is itself a stack of layers; and the whole is in order. So each
section of the settings is read from the one value that the whole has for it.
-/

namespace Gatehouse

/-! ## Files -/

namespace Yaml

open Json

theorem unambiguous_wholeNumber (i : Int) : Unambiguous (wholeNumber i) := by
  rw [wholeNumber]
  split <;> trivial

theorem unambiguous_resolve (cs : List Char) : Unambiguous (resolve cs) := by
  rw [resolve]
  split
  · trivial
  · split
    · trivial
    · exact unambiguous_wholeNumber _
    · trivial
    · trivial

theorem unambiguous_of_scalarValue? {tag : Option Tag} {plain : Bool} {text : List Char} {x : Json}
    (h : scalarValue? tag plain text = some x) : Unambiguous x := by
  rw [scalarValue?.eq_def] at h
  split at h
  · cases h
  · obtain ⟨_, -, rfl⟩ := Option.map_eq_some_iff.mp h
    trivial
  · obtain ⟨_, -, rfl⟩ := Option.map_eq_some_iff.mp h
    exact unambiguous_wholeNumber _
  · obtain ⟨_, -, rfl⟩ := Option.map_eq_some_iff.mp h
    trivial
  · split at h
    · cases h
      trivial
    · cases h
  · cases h
    trivial
  · cases h
    trivial
  · cases h
    split
    · exact unambiguous_resolve _
    · trivial

mutual

theorem unambiguous_of_value? {room : Nat} (n : Node) {x : Json} (h : n.value? room = some x) :
    Unambiguous x :=
  match n with
  | .scalar _ _ _ => unambiguous_of_scalarValue? h
  | .list tag items => by
    obtain ⟨_, -, h⟩ := Option.bind_eq_some_iff.mp h
    obtain ⟨xs, hxs, h⟩ := Option.bind_eq_some_iff.mp h
    cases h
    exact unambiguous_of_itemValues? items hxs
  | .table tag entries => by
    obtain ⟨_, -, h⟩ := Option.bind_eq_some_iff.mp h
    obtain ⟨ms, hms, h⟩ := Option.bind_eq_some_iff.mp h
    cases h
    exact unambiguous_ofMentions (unambiguous_of_entryValues? entries hms)

theorem unambiguous_of_itemValues? {room : Nat} (ns : List Node) {xs : List Json}
    (h : itemValues? room ns = some xs) : UnambiguousItems xs :=
  match ns with
  | [] => by
    cases h
    trivial
  | n :: ns => by
    rw [itemValues?] at h
    obtain ⟨x, hx, h⟩ := Option.bind_eq_some_iff.mp h
    obtain ⟨xs, hxs, h⟩ := Option.bind_eq_some_iff.mp h
    cases h
    exact ⟨unambiguous_of_value? n hx, unambiguous_of_itemValues? ns hxs⟩

theorem unambiguous_of_entryValues? {room : Nat} (es : List (Node × Node)) {ms : Members}
    (h : entryValues? room es = some ms) : UnambiguousMembers ms :=
  match es with
  | [] => by
    cases h
    trivial
  | (k, n) :: es => by
    rw [entryValues?] at h
    obtain ⟨_, -, h⟩ := Option.bind_eq_some_iff.mp h
    obtain ⟨x, hx, h⟩ := Option.bind_eq_some_iff.mp h
    obtain ⟨ms, hms, h⟩ := Option.bind_eq_some_iff.mp h
    cases h
    exact ⟨unambiguous_of_value? n hx, unambiguous_of_entryValues? es hms⟩

end

/-- **A file names nothing twice**: later mentions have replaced earlier ones. -/
theorem unambiguous_of_members? {file : String} {ms : Members} (h : members? file = some ms) :
    Unambiguous (.obj ms) := by
  obtain ⟨root, -, h⟩ := Option.bind_eq_some_iff.mp h
  split at h
  · cases h
    exact ⟨List.nodup_nil, trivial⟩
  · obtain ⟨entries, hentries, rfl⟩ := Option.map_eq_some_iff.mp h
    exact unambiguous_ofMentions (unambiguous_of_entryValues? _ hentries)
  · cases h

end Yaml

/-! ## Layers of a server -/

namespace Settings

/-- The layers over the standard settings: that of the file, if there is one, and that of the
environment. -/
def overrides (file : Option String) (env : Environment) : List Json :=
  ((file.bind Yaml.members?).map Json.obj).toList ++ [env.layer]

/-- All layers on top of each other. -/
def stacked (overrides : List Json) : Json :=
  overrides.foldl Layer.overlay (Layer.overlay (.obj []) standard.toJson)

theorem ordered_empty : Json.Ordered (.obj []) := ⟨List.Pairwise.nil, trivial⟩

theorem ordered_stacked (overrides : List Json) : Json.Ordered (stacked overrides) :=
  Layer.ordered_foldl (Layer.ordered_overlay ordered_empty _) overrides

theorem unambiguous_overrides (file : Option String) (env : Environment) :
    ∀ l ∈ overrides file env, Json.Unambiguous l := by
  intro l hl
  rcases List.mem_append.mp hl with hl | hl
  · obtain ⟨ms, hms, rfl⟩ := Option.map_eq_some_iff.mp (Option.mem_toList.mp hl)
    obtain ⟨text, -, hms⟩ := Option.bind_eq_some_iff.mp hms
    exact Yaml.unambiguous_of_members? hms
  · cases List.mem_singleton.mp hl
    exact (Layer.ordered_foldl ordered_empty _).unambiguous

/-- Settings are loaded by reading the whole. -/
theorem read_of_load {file : Option String} {env : Environment} {s : Settings}
    (h : load file env = .ok s) :
    layeredForm.extract "AppConfig" (stacked (overrides file env)).toTree = .ok s := by
  cases file with
  | none => exact mapError_eq_ok.mp h
  | some text =>
    simp only [load, fileLayer, overrides, Option.bind_some] at h ⊢
    cases hms : Yaml.members? text with
    | none =>
      rw [hms] at h
      cases h
    | some ms =>
      rw [hms] at h
      exact mapError_eq_ok.mp h

end Settings

end Gatehouse
