import Gatehouse.Proofs.Auth.Payload

/-!
# Claims that are written down again

Claims that were read, from a text or from a value, can be written and read again, and they are the
same claims. No extra claim has the name of one with a meaning, so none is shadowed and none is
lost. The written form is not always the one that was read: a single audience becomes a list of one,
null is left out where a claim may be absent, an empty list of audiences is left out too, and the
flag of administrators is always there. To whoever reads it this makes no difference, so a verifier
that rewrites payloads gives the answers of one that does not.

The vocabulary of the statement is `Proper`, claims that can have been read, `Rewritten`, members
and what becomes of them, and `rewrite`, a payload in the form in which its claims are written.
-/

namespace Gatehouse

namespace Members

/-- A member of joined members is one of the first, or one of the others if those have none. -/
theorem get?_append (name : String) (ms ns : Members) :
    get? name (ms ++ ns) = (get? name ms).or (get? name ns) := by
  rw [get?, List.find?_append, Option.map_or]
  rfl

theorem get?_eq_none_iff {name : String} {ms : Members} :
    get? name ms = none ↔ ∀ m ∈ ms, m.1 ≠ name := by
  simp [get?]

end Members

/-! ## Members that are kept -/

/-- A member that a form keeps has none of its names and a value that names no member twice. -/
theorem Json.mem_of_scanMembers {fields : List (String × (Json.Tree → Except Json.Fault Unit))}
    {depth : Json.Depth} {seen : List String} {ts : List (Option String × Json.Tree)}
    {rest : Members}
    (h : Json.scanMembers fields (.keep depth) seen ts = .ok rest) :
    ∀ m ∈ rest, fields.find? (·.1 == m.1) = none ∧ m.2.Unambiguous := by
  induction ts generalizing seen rest with
  | nil =>
    cases h
    exact nofun
  | cons t ts ih =>
    obtain ⟨key, t⟩ := t
    cases key with
    | none => cases h
    | some k =>
      cases hf : fields.find? (·.1 == k) with
      | some f =>
        simp only [Json.scanMembers, hf] at h
        split at h
        · cases h
        · obtain ⟨_, -, h⟩ := bind_eq_ok.mp h
          exact ih h
      | none =>
        obtain ⟨x, xs, hx, hxs, rfl⟩ := (Json.scanMembers_kept hf).mp h
        intro m hm
        rcases List.mem_cons.mp hm with rfl | hm
        · exact ⟨hf, Json.unambiguous_of_anything t hx⟩
        · exact ih hxs m hm

section Build

variable {α β : Type} {src : Json.Source} {b : β}

theorem Json.Form.build_map_eq_ok {form : Json.Form α} {f : α → β} :
    (f <$> form).build src = .ok b ↔ ∃ a, form.build src = .ok a ∧ f a = b :=
  map_eq_ok

theorem Json.Form.build_seq_eq_ok {g : Json.Form (α → β)} {form : Json.Form α} :
    (g <*> form).build src = .ok b ↔
      ∃ f a, g.build src = .ok f ∧ form.build src = .ok a ∧ f a = b := by
  constructor
  · intro h
    obtain ⟨f, hf, h⟩ := bind_eq_ok.mp h
    obtain ⟨a, ha, h⟩ := bind_eq_ok.mp h
    exact ⟨f, a, hf, ha, Except.ok.inj h⟩
  · intro h
    obtain ⟨f, a, hf, ha, rfl⟩ := h
    exact bind_eq_ok.mpr ⟨f, hf, bind_eq_ok.mpr ⟨a, ha, rfl⟩⟩

end Build

namespace Claims

open Json

variable {c : Claims}

/-- Claims that can have been read: no extra claim has the name of a claim with a meaning, and no
object among the extra claims, nor they themselves, name a member twice. -/
structure Proper (c : Claims) : Prop where
  unregistered : ∀ m ∈ c.extras, m.1 ∉ registered
  unambiguous : Unambiguous (.obj c.extras)

/-- The extra claims are those that the form is given. -/
theorem extras_of_build {depth : Depth} {src : Source} {make : Members → Claims}
    (h : (form depth).build src = .ok make) (extras : Members) : (make extras).extras = extras := by
  simp only [form, Form.build_seq_eq_ok, Form.build_map_eq_ok] at h
  obtain ⟨_, _, ⟨_, _, ⟨_, _, ⟨_, _, ⟨_, _, ⟨_, _, ⟨_, -, rfl⟩, -, rfl⟩, -, rfl⟩, -, rfl⟩, -, rfl⟩,
    -, rfl⟩, -, rfl⟩ := h
  rfl

/-- **Claims that were read are proper**, at whatever depth they stood. -/
theorem proper_of_decodeAt {depth : Depth} {t : Tree} (h : decodeAt depth t = .ok c) :
    Proper c := by
  cases t with
  | obj members tail =>
    obtain ⟨⟨make, rest⟩, hread, h⟩ := bind_eq_ok.mp h
    cases h
    obtain ⟨rest, hscan, hread⟩ := bind_eq_ok.mp hread
    obtain ⟨_, -, hread⟩ := bind_eq_ok.mp hread
    obtain ⟨make, hbuild, hread⟩ := bind_eq_ok.mp hread
    cases hread
    have hkept := mem_of_scanMembers hscan
    have hextras := extras_of_build hbuild (Members.ofMentions rest)
    constructor
    · intro m hm hname
      rw [hextras] at hm
      obtain ⟨hnone, -⟩ := hkept m (Members.mem_of_mem_ofMentions hm)
      have hfresh : decide (m.1 ∉ (form depth).names) = true := by
        rw [← Form.isNone_find?_fields, hnone]
        rfl
      exact of_decide_eq_true hfresh hname
    · rw [hextras]
      apply unambiguous_ofMentions
      rw [unambiguousMembers_iff]
      intro m hm
      exact (hkept m hm).2
  | _ => exact absurd h expected_ne_ok

/-! ## Members that are written -/

/-- The audiences, unless there are none. -/
def named? (audiences : List String) : Option (List String) :=
  if audiences.isEmpty then none else some audiences

/-- The written form of audiences. -/
def audiencesJson (audiences : List String) : Json := .arr (audiences.map .str)

/-- The members with a meaning that are written for claims. -/
def told (c : Claims) : Members :=
  member "sub" .str c.subject ++ member "aud" audiencesJson (named? c.audiences) ++
    member "exp" secondsJson c.expiry ++ member "nbf" secondsJson c.notBefore ++
    member "iat" secondsJson c.issuedAt ++ member "jti" .str c.tokenId ++
    member "admin" .bool (some c.admin)

theorem toJson_eq (c : Claims) : c.toJson = .obj (c.told ++ c.extras) := by
  have haudiences : (if c.audiences.isEmpty then ([] : Members)
      else [("aud", .arr (c.audiences.map .str))]) =
        member "aud" audiencesJson (named? c.audiences) := by
    cases c.audiences <;> rfl
  rw [toJson, haudiences]
  rfl

section Member

variable {α : Type} {encode : α → Json} {o : Option α} {name : String}

theorem get?_member (other : String) : Members.get? other (member name encode o) =
    if name = other then o.map encode else none := by
  cases o with
  | none => simp [member]
  | some a =>
    by_cases h : name = other
    · simp [member, Members.get?, h]
    · simp [member, Members.get?, h]

theorem mem_member {m : String × Json} :
    m ∈ member name encode o ↔ ∃ a, o = some a ∧ (name, encode a) = m := by
  cases o <;> simp [member, eq_comm]

theorem map_fst_member : ((member name encode o).map Prod.fst).Sublist [name] := by
  cases o with
  | none => exact List.nil_sublist _
  | some a => exact List.Sublist.refl _

end Member

/-- Each name is written once at most, and in the order of the claims. -/
theorem map_fst_told (c : Claims) : (c.told.map Prod.fst).Sublist registered := by
  simp only [told, List.map_append]
  exact (((((map_fst_member.append map_fst_member).append map_fst_member).append
    map_fst_member).append map_fst_member).append map_fst_member).append map_fst_member

theorem unambiguousItems_map_str (ss : List String) : UnambiguousItems (ss.map .str) := by
  induction ss with
  | nil => exact trivial
  | cons s ss ih => exact ⟨trivial, ih⟩

theorem unambiguous_of_mem_told {m : String × Json} (h : m ∈ c.told) : m.2.Unambiguous := by
  simp only [told, List.mem_append, mem_member] at h
  rcases h with (((((⟨s, -, rfl⟩ | ⟨ss, -, rfl⟩) | ⟨n, -, rfl⟩) | ⟨n, -, rfl⟩) | ⟨n, -, rfl⟩) |
    ⟨s, -, rfl⟩) | ⟨b, -, rfl⟩
  case inl.inl.inl.inl.inl.inr => exact unambiguousItems_map_str ss
  all_goals trivial

/-- The members that are written for proper claims name nothing twice. -/
theorem Proper.unambiguous_toJson (h : Proper c) : c.toJson.Unambiguous := by
  rw [toJson_eq]
  constructor
  · rw [List.map_append, List.nodup_append]
    refine ⟨(map_fst_told c).nodup (by decide), h.unambiguous.1, ?_⟩
    intro name hname other hother heq
    obtain ⟨m, hm, rfl⟩ := List.mem_map.mp hother
    rw [heq] at hname
    exact h.unregistered m hm ((map_fst_told c).subset hname)
  · rw [unambiguousMembers_iff]
    intro m hm
    rcases List.mem_append.mp hm with hm | hm
    · exact unambiguous_of_mem_told hm
    · exact unambiguousMembers_iff.mp h.unambiguous.2 m hm

/-- Members that tell of claims what is written of them. -/
structure Tells (ms : Members) (c : Claims) : Prop where
  subject : ms.get? "sub" = c.subject.map .str
  audiences : ms.get? "aud" = (named? c.audiences).map audiencesJson
  expiry : ms.get? "exp" = c.expiry.map secondsJson
  notBefore : ms.get? "nbf" = c.notBefore.map secondsJson
  issuedAt : ms.get? "iat" = c.issuedAt.map secondsJson
  tokenId : ms.get? "jti" = c.tokenId.map .str
  admin : ms.get? "admin" = some (.bool c.admin)
  others : ∀ name, name ∉ registered → ms.get? name = c.extras.get? name

theorem Proper.tells (h : Proper c) : Tells (c.told ++ c.extras) c := by
  have htold (name : String) (hname : name ∈ registered) :
      Members.get? name (c.told ++ c.extras) = Members.get? name c.told := by
    have hextras : c.extras.get? name = none := by
      rw [Members.get?_eq_none_iff]
      intro m hm heq
      exact h.unregistered m hm (heq ▸ hname)
    rw [Members.get?_append, hextras, Option.or_none]
  constructor
  case others =>
    intro name hname
    have hnone : Members.get? name c.told = none := by
      rw [Members.get?_eq_none_iff]
      intro m hm heq
      apply hname
      apply (map_fst_told c).subset
      exact heq ▸ List.mem_map_of_mem hm
    rw [Members.get?_append, hnone, Option.none_or]
  all_goals
    rw [htold _ (by decide)]
    simp [told, Members.get?_append, get?_member]

theorem given_of_get? {α : Type} {ms : Members} {name : String} {encode : α → Json} {o : Option α}
    (h : ms.get? name = o.map encode) : Given ms name encode o := by
  cases o with
  | none => exact .inl h
  | some a => exact h

/-- **Proper claims are read back from what is written of them.** -/
theorem Proper.ofJson_toJson (h : Proper c) : ofJson c.toJson = .ok c := by
  have hms := h.unambiguous_toJson
  rw [toJson_eq] at hms ⊢
  rw [ofJson_obj_eq_ok hms]
  have htells := h.tells
  have haudiences : Audiences (c.told ++ c.extras) c.audiences := by
    have hget := htells.audiences
    cases haud : c.audiences with
    | nil =>
      rw [haud] at hget
      exact .inl ⟨.inl hget, rfl⟩
    | cons s ss =>
      rw [haud] at hget
      exact .inr (.inr hget)
  have hextras : c.extras = (c.told ++ c.extras).filter fun m => m.1 ∉ registered := by
    have hnone : (c.told.filter fun m => m.1 ∉ registered) = [] := by
      rw [List.filter_eq_nil_iff]
      intro m hm
      simpa using (map_fst_told c).subset (List.mem_map_of_mem hm)
    have hall : (c.extras.filter fun m => m.1 ∉ registered) = c.extras := by
      rw [List.filter_eq_self]
      intro m hm
      simpa using h.unregistered m hm
    rw [List.filter_append, hnone, hall, List.nil_append]
  exact ⟨given_of_get? htells.subject, haudiences, given_of_get? htells.expiry,
    given_of_get? htells.notBefore, given_of_get? htells.issuedAt, given_of_get? htells.tokenId,
    by simp [htells.admin], hextras⟩

/-! ## Members before and after -/

/-- Members before and after they are read as claims and written again. Null is left out where a
claim may be absent, and so is an empty list of audiences; one audience becomes a list of one; the
flag of administrators is there, and true if it was; all other members are as they were. -/
structure Rewritten (old new : Members) : Prop where
  kept : ∀ name ∈ ["sub", "exp", "nbf", "iat", "jti"], ∀ x,
    new.get? name = some x ↔ old.get? name = some x ∧ x ≠ .null
  audiences : ∀ x, new.get? "aud" = some x ↔ ∃ s ss, x = audiencesJson (s :: ss) ∧
    (old.get? "aud" = some x ∨ ss = [] ∧ old.get? "aud" = some (.str s))
  admin : ∃ b, new.get? "admin" = some (.bool b) ∧
    (b = true ↔ old.get? "admin" = some (.bool true))
  others : ∀ name, name ∉ registered → new.get? name = old.get? name

section Rewritten

variable {old new : Members}

theorem kept_of_given {α : Type} {name : String} {encode : α → Json} {o : Option α}
    (hnull : ∀ a, encode a ≠ .null) (hold : Given old name encode o)
    (hnew : new.get? name = o.map encode) (x : Json) :
    new.get? name = some x ↔ old.get? name = some x ∧ x ≠ .null := by
  rw [hnew]
  cases o with
  | none =>
    rcases hold with hnone | hsome
    · simp [hnone]
    · simp [hsome, eq_comm]
  | some a =>
    have hvalue : old.get? name = some (encode a) := hold
    rw [hvalue]
    constructor
    · intro h
      cases h
      exact ⟨rfl, hnull a⟩
    · intro h
      exact h.1

theorem audiences_of_says {audiences : List String} (hold : Audiences old audiences)
    (hnew : new.get? "aud" = (named? audiences).map audiencesJson) (x : Json) :
    new.get? "aud" = some x ↔ ∃ s ss, x = audiencesJson (s :: ss) ∧
      (old.get? "aud" = some x ∨ ss = [] ∧ old.get? "aud" = some (.str s)) := by
  rw [hnew]
  rcases hold with ⟨habsent, rfl⟩ | ⟨s, hone, rfl⟩ | hlist
  · constructor
    · intro h
      cases h
    · intro h
      obtain ⟨s, ss, rfl, hold | ⟨-, hold⟩⟩ := h
      all_goals
        rcases habsent with hnone | hnull
        · cases hnone.symm.trans hold
        · cases hnull.symm.trans hold
  · constructor
    · intro h
      cases h
      exact ⟨s, [], rfl, .inr ⟨rfl, hone⟩⟩
    · intro h
      obtain ⟨s', ss, rfl, hold | ⟨rfl, hold⟩⟩ := h
      · cases hone.symm.trans hold
      · cases hone.symm.trans hold
        rfl
  · constructor
    · intro h
      cases audiences with
      | nil => cases h
      | cons s ss =>
        cases h
        exact ⟨s, ss, rfl, .inl hlist⟩
    · intro h
      obtain ⟨s, ss, rfl, hold | ⟨-, hold⟩⟩ := h
      · cases audiences with
        | nil => cases hlist.symm.trans hold
        | cons s' ss' => exact hlist.symm.trans hold
      · cases hlist.symm.trans hold

theorem rewritten_of_says (hold : Says old c) (hnew : Tells new c) : Rewritten old new := by
  have htext (s : String) : Json.str s ≠ .null := nofun
  have htime (n : Int64) : secondsJson n ≠ .null := nofun
  refine ⟨?_, audiences_of_says hold.audiences hnew.audiences, ?_, ?_⟩
  · intro name hname x
    simp only [List.mem_cons, List.not_mem_nil, or_false] at hname
    rcases hname with rfl | rfl | rfl | rfl | rfl
    · exact kept_of_given htext hold.subject hnew.subject x
    · exact kept_of_given htime hold.expiry hnew.expiry x
    · exact kept_of_given htime hold.notBefore hnew.notBefore x
    · exact kept_of_given htime hold.issuedAt hnew.issuedAt x
    · exact kept_of_given htext hold.tokenId hnew.tokenId x
  · exact ⟨c.admin, hnew.admin, hold.admin⟩
  · intro name hname
    rw [hnew.others name hname, hold.extras, Members.get?_filter, if_neg hname]

end Rewritten

/-! ## Payloads that are rewritten -/

/-- A payload in the form in which its claims are written. One without claims stays as it is. -/
def rewrite (x : Json) : Json :=
  match ofJson x with
  | .ok c => c.toJson
  | .error _ => x

theorem rewrite_of_ok {x : Json} (h : ofJson x = .ok c) : rewrite x = c.toJson := by
  rw [rewrite, h]

/-- Nobody reads anything else from a payload that was rewritten. -/
theorem ofJson_rewrite (x : Json) : ofJson (rewrite x) = ofJson x := by
  cases h : ofJson x with
  | ok c => rw [rewrite_of_ok h, (proper_of_decodeAt h).ofJson_toJson]
  | error fault => rw [rewrite, h, h]

/-- A payload is rewritten once and for all. -/
theorem rewrite_rewrite (x : Json) : rewrite (rewrite x) = rewrite x := by
  cases h : ofJson x with
  | ok c => rw [rewrite_of_ok ((ofJson_rewrite x).trans h), rewrite_of_ok h]
  | error fault =>
    have hsame : rewrite x = x := by rw [rewrite, h]
    rw [hsame, hsame]

end Claims

namespace TokenVerifier

/-- The same verifier with every payload rewritten before it is looked at. -/
def rewriting (v : TokenVerifier) : TokenVerifier :=
  { v with payload? := fun a text => (v.payload? a text).map Claims.rewrite }

/-- **Rewriting payloads changes no answer.** -/
theorem verify_rewriting (v : TokenVerifier) (now : Int64) (raw : Option String) :
    v.rewriting.verify now raw = v.verify now raw := by
  have hsubject (token : Token) : v.rewriting.subjectOf now token = v.subjectOf now token := by
    cases header : SignedToken.algorithm? token.text with
    | none => simp [subjectOf, header]
    | some a =>
      cases signature : v.payload? a token.text with
      | none => simp [subjectOf, rewriting, header, signature]
      | some payload => simp [subjectOf, rewriting, header, signature, Claims.ofJson_rewrite]
  rw [verify, verify]
  cases Token.parse? raw with
  | none => rfl
  | some token => simp only [hsubject]

end TokenVerifier

namespace Claims

/-! ## The headline -/

/-- **Claims that are written down again are the same claims.** Claims that were read, from whatever
text or value, have no extra claim with the name of one with a meaning, and what is written of them
is read as these very claims. A single audience is written as a list, null and an empty list of
audiences are left out, and a flag that is not literally true is written as false; the other members
are as they were. A payload that is rewritten is read as before, so its subject and the answers to
all demands are the same, and rewriting it again changes nothing; and a verifier that rewrites each
payload answers as one that does not. -/
theorem claims_kept_when_rewritten :
    (∀ depth t c, decodeAt depth t = .ok c →
      (∀ m ∈ c.extras, m.1 ∉ ["sub", "aud", "exp", "nbf", "iat", "jti", "admin"]) ∧
        c.toJson.Unambiguous ∧ ofJson c.toJson = .ok c) ∧
    (∀ (ms : Members) c, Json.Unambiguous (.obj ms) → ofJson (.obj ms) = .ok c →
      Rewritten ms c.toJson.members) ∧
    (∀ x c, ofJson x = .ok c → ∃ c', ofJson (rewrite x) = .ok c' ∧ c'.toSubject = c.toSubject ∧
      ∀ (demands : ClaimCheck) now, demands.check c' now = demands.check c now) ∧
    (∀ x, rewrite (rewrite x) = rewrite x) ∧
    ∀ (v : TokenVerifier) now raw, v.rewriting.verify now raw = v.verify now raw := by
  refine ⟨?_, ?_, ?_, rewrite_rewrite, TokenVerifier.verify_rewriting⟩
  · intro depth t c h
    have hproper := proper_of_decodeAt h
    exact ⟨hproper.unregistered, hproper.unambiguous_toJson, hproper.ofJson_toJson⟩
  · intro ms c hms h
    rw [toJson_eq]
    exact rewritten_of_says ((ofJson_obj_eq_ok hms).mp h) (proper_of_decodeAt h).tells
  · intro x c h
    exact ⟨c, (ofJson_rewrite x).trans h, rfl, fun _ _ => rfl⟩

/-- Members that are not written as they were read: one audience, a null, and a flag that is a text.
The extra claim is null too, and is kept. -/
def looseMembers : Members :=
  [("aud", .str "access"), ("team", .null), ("exp", .null), ("admin", .str "yes")]

/-- What is written of these members says the same in fewer words. -/
theorem claims_kept_when_rewritten_loose : ∃ c, ofJson (.obj looseMembers) = .ok c ∧
    c.toJson = .obj [("aud", .arr [.str "access"]), ("admin", .bool false), ("team", .null)] ∧
    ofJson c.toJson = .ok c ∧ Rewritten looseMembers c.toJson.members ∧
    ∃ c', ofJson (rewrite (.obj looseMembers)) = .ok c' ∧ c'.toSubject = c.toSubject := by
  obtain ⟨hproper, hrewritten, hsame, -, -⟩ := claims_kept_when_rewritten
  have hread : ofJson (.obj looseMembers) =
      .ok ⟨none, ["access"], none, none, none, none, false, [("team", .null)]⟩ := rfl
  have hms : Json.Unambiguous (.obj looseMembers) := by
    simp [looseMembers, Json.Unambiguous, Json.UnambiguousMembers]
  obtain ⟨c', hagain, hsubject, -⟩ := hsame _ _ hread
  exact ⟨_, hread, rfl, (hproper _ _ _ hread).2.2, hrewritten _ _ hms hread, c', hagain, hsubject⟩

end Claims

end Gatehouse
