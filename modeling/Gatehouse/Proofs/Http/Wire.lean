import Gatehouse.Http.Endpoint
import Gatehouse.Proofs.Company.Shapes
import Gatehouse.Proofs.Http.Streaming

/-!
# What goes over the wire comes back

Every value that is sent or logged is read back from its text: companies, events, the payloads of
requests, and problem documents, of which some members are left out when they say nothing. What the
service answers, streams and logs consists of these texts.
-/

namespace Gatehouse

open Json

/-! ## Problem documents -/

theorem StatusCode.faithful : Faithful StatusCode.decode fun s => .nat s.number := by
  intro s
  have hsmall : s.number < 2 ^ 16 := Nat.lt_trans s.lt_thousand (by decide)
  have hof : StatusCode.of? s.number = some s := dif_pos ⟨s.hundred_le, s.lt_thousand⟩
  refine ⟨plain_nat (Nat.lt_trans hsmall (by decide)), ?_⟩
  simp only [StatusCode.decode, Bind.bind, Except.bind, unsigned_nat hsmall, hof]
  rfl

theorem Violation.faithful : Faithful Violation.decode Violation.toJson := by
  intro v
  have hfield : member? v.toJson.members "field" = some (toTree (.str v.field)) := rfl
  have hmessage : member? v.toJson.members "message" = some (toTree (.str v.message)) := rfl
  have hreads := ((reads_required hfield (faithful_string _).2).map Violation.mk).seq
    (reads_required hmessage (faithful_string _).2)
  refine ⟨⟨trivial, trivial, trivial⟩, ?_⟩
  exact hreads.decode "ValidationViolation" .pass (by simp [Violation.toJson, members])
    (by simp [Violation.toJson, members])

namespace Problem

theorem faithful_violations : Faithful (nullable (list Violation.decode))
    (optional fun vs => .arr (vs.map Violation.toJson)) :=
  faithful_nullable (faithful_list Violation.faithful) fun _ => by simp

/-- The occurrence stands in the object unless it is empty. -/
theorem member?_instance (p : Problem) :
    (∃ x, member? p.toJson.members "instance" = some (toTree x) ∧
        string (toTree x) = .ok p.occurrence) ∨
      member? p.toJson.members "instance" = none ∧ "" = p.occurrence := by
  by_cases h : p.occurrence.isEmpty
  · refine .inr ⟨?_, (String.isEmpty_iff.mp h).symm⟩
    cases he : p.errors <;>
      simp [member?, Source.ofMembers, toJson, members, toMemberTrees, h, he]
  · refine .inl ⟨.str p.occurrence, ?_, rfl⟩
    simp [member?, Source.ofMembers, toJson, members, toMemberTrees, h]

/-- The errors stand in the object unless there are none to speak of; an empty list of them does. -/
theorem member?_errors (p : Problem) :
    (∃ x, member? p.toJson.members "errors" = some (toTree x) ∧
        nullable (list Violation.decode) (toTree x) = .ok p.errors) ∨
      member? p.toJson.members "errors" = none ∧ none = p.errors := by
  cases he : p.errors with
  | none =>
    refine .inr ⟨?_, rfl⟩
    by_cases h : p.occurrence.isEmpty <;>
      simp [member?, Source.ofMembers, toJson, members, toMemberTrees, h, he]
  | some vs =>
    refine .inl ⟨.arr (vs.map Violation.toJson), ?_, (faithful_violations (some vs)).2⟩
    by_cases h : p.occurrence.isEmpty <;>
      simp [member?, Source.ofMembers, toJson, members, toMemberTrees, h, he]

theorem member?_code (p : Problem) :
    member? p.toJson.members "code" = some (toTree (.str p.code)) := by
  by_cases h : p.occurrence.isEmpty <;>
    simp [member?, Source.ofMembers, toJson, members, toMemberTrees, h]

theorem plain_toJson (p : Problem) : Plain p.toJson := by
  have hstatus : Plain (.nat p.status.number) := (StatusCode.faithful p.status).1
  have herrors (vs : List Violation) : PlainItems (vs.map Violation.toJson) :=
    (faithful_violations (some vs)).1
  by_cases h : p.occurrence.isEmpty <;> cases he : p.errors <;>
    simp [toJson, Plain, PlainMembers, h, he, hstatus, herrors]

/-- A problem document is read back, with and without the members that may be left out. -/
theorem faithful : Faithful Problem.decode Problem.toJson := by
  intro p
  have hreads : form.Reads p.toJson.members p := by
    unfold form
    exact (((((((reads_required rfl (faithful_string p.type).2).map Problem.mk).seq
      (reads_required rfl (faithful_string p.title).2)).seq
      (reads_required rfl (StatusCode.faithful p.status).2)).seq
      (reads_required rfl (faithful_string p.detail).2)).seq
      (reads_withDefault p.member?_instance)).seq
      (reads_required p.member?_code (faithful_string p.code).2)).seq
      (reads_withDefault p.member?_errors)
  refine ⟨p.plain_toJson, hreads.decode "Problem" .pass ?_ ?_⟩
  all_goals
    by_cases h : p.occurrence.isEmpty <;> cases he : p.errors <;>
      simp [toJson, members, form, h, he]

end Problem

namespace Http

open EventStream (frame)

/-- **What goes over the wire comes back.** The text of a company, stored or answered, of an event,
of a payload and of a problem document is read back as the very same value. What is answered about a
company, or about some companies, is read as the stored companies too; and what is streamed and what
is logged of an event are read as the same event, by either reader of its company. -/
theorem wire_shapes_round_trip :
    (∀ c, decodeText Company.decode c.toJson.text = .ok c) ∧
    (∀ c, decodeText Company.decodeAnswer c.answerJson.text = .ok c) ∧
    (∀ e, decodeText Event.decodeAnswer e.answerJson.text = .ok e) ∧
    (∀ d, decodeText Company.Draft.decode (d.toJson "company_type").text = .ok d) ∧
    (∀ p, decodeText Company.Patch.decode p.toJson.text = .ok p) ∧
    (∀ f, decodeText Company.Filter.decode f.toJson.text = .ok f) ∧
    (∀ p, decodeText Problem.decode p.toJson.text = .ok p) ∧
    (∀ status c, ∃ j, (shownOne status c).body = .json j ∧
      decodeText Company.decode j.text = .ok c ∧ decodeText Company.decodeAnswer j.text = .ok c) ∧
    (∀ l : Listing Company, ∃ j, (listReply l).response.body = .json j ∧
      decodeText (list Company.decode) j.text = .ok l.items ∧
      decodeText (list Company.decodeAnswer) j.text = .ok l.items) ∧
    (∀ e : Event Company, ∃ line, frame e = s!"event: {e.change.name}\ndata: {line}\n\n" ∧
      decodeText Event.decodeStored line = .ok e ∧ decodeText Event.decodeAnswer line = .ok e) ∧
    ∀ e : Event Company, ∃ line, LogSink.send (fun c => some c.toJson) e =
        (.ok (), [Log.info "resource event" [("operation", e.change.name), ("event", line)]]) ∧
      decodeText Event.decodeStored line = .ok e ∧ decodeText Event.decodeAnswer line = .ok e := by
  have hstored := Company.faithful_toJson
  have hanswer := Company.faithful_answerJson
  have hevent := Event.faithful_both
  refine ⟨hstored.1.decodeText_text, hanswer.2.decodeText_text, hevent.1.1.decodeText_text,
    Company.Draft.faithful.decodeText_text, Company.Patch.faithful.decodeText_text,
    Company.Filter.faithful.decodeText_text, Problem.faithful.decodeText_text, ?_, ?_, ?_, ?_⟩
  · intro status c
    exact ⟨_, rfl, hanswer.1.decodeText_text c, hanswer.2.decodeText_text c⟩
  · intro l
    exact ⟨_, rfl, (faithful_list hanswer.1).decodeText_text l.items,
      (faithful_list hanswer.2).decodeText_text l.items⟩
  · intro e
    exact ⟨_, rfl, hevent.1.2.decodeText_text e, hevent.1.1.decodeText_text e⟩
  · intro e
    exact ⟨_, rfl, hevent.2.2.decodeText_text e, hevent.2.1.decodeText_text e⟩

/-- A company of the last moment that can be written, as far west as there is an offset, with all
that a text has to escape. -/
def outermost : Company where
  id := default
  createdAt := default
  updatedAt :=
    ⟨⟨9999, 12, 31, by decide, by decide, by decide⟩, 23, 59, 59, 1, -(23 * 60 + 59), by decide,
      by decide, by decide, by decide, by decide⟩
  name := "\"Acme\"\r\n\\\x00 🏢"
  description := ""
  employees := -2147483648
  registered := true
  legalForm := default

/-- It is read back from an answer and from the log, and so is a problem that names no errors but
could. -/
theorem wire_shapes_round_trip_outermost :
    outermost.updatedAt.text = "9999-12-31T23:59:59.000000001-23:59" ∧
      decodeText Company.decode outermost.answerJson.text = .ok outermost ∧
      (∃ line, LogSink.send (fun c => some c.toJson) ⟨.deleted, outermost⟩ =
          (.ok (), [Log.info "resource event" [("operation", "deleted"), ("event", line)]]) ∧
        decodeText Event.decodeAnswer line = .ok ⟨.deleted, outermost⟩) ∧
      let p := { Problem.of .notFound "Not Found" "no \"company\"" with errors := some [] }
      decodeText Problem.decode p.toJson.text = .ok p := by
  obtain ⟨-, -, -, -, -, -, hproblem, hshown, -, -, hlogged⟩ := wire_shapes_round_trip
  obtain ⟨j, hj, hread, -⟩ := hshown .ok outermost
  obtain ⟨line, hline, -, hevent⟩ := hlogged ⟨.deleted, outermost⟩
  cases hj
  exact ⟨by decide +kernel, hread, ⟨line, hline, hevent⟩, hproblem _⟩

end Http

end Gatehouse
