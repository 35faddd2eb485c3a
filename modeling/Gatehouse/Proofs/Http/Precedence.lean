import Gatehouse.Proofs.Http.Answer

/-!
# Refusals come before input

A request whose credential does not verify, or whose caller is turned away by the coarse check, gets
the problem document of that refusal, however malformed its query, its headers or its body are. There
is one exception: an identifier in the path whose bytes are no text is answered before the gate hears
of the request, so that refused requests with such an identifier can be told from others.
-/

namespace Gatehouse.Http

variable {verify : Option String → Except AuthError (Option Subject)} {s : PagingSettings}
  {g : CompanyGate} {r : Request} {a : Action} {op : Operation} {f : Failure}

theorem illegalSegment_ne_problem : illegalSegment ≠ .problem f := by
  intro h
  have hbody : Body.text _ = Body.json _ := congrArg Response.body h
  cases hbody

/-- The one answer to a refused request. -/
def refusalResponse (a : Action) (f : Failure) : Response :=
  if a.legible then .problem f else illegalSegment

theorem refusalResponse_inj {b : Action} :
    refusalResponse a f = refusalResponse b f ↔ a.legible = b.legible := by
  cases ha : a.legible <;> cases hb : b.legible <;>
    simp [refusalResponse, ha, hb, illegalSegment_ne_problem, illegalSegment_ne_problem.symm]

/-- Nothing but the refusal and the identifier has a say in how a refused request is answered. -/
theorem answers_refused (ha : r.action? = some a) (hop : a.operation? = some op)
    (hf : Refused verify g r op f) (response : Response) :
    Answers verify s g r response ↔ response = refusalResponse a f := by
  have hunique : ∀ {response}, Answers verify s g r response → response = refusalResponse a f := by
    intro response h
    rw [refusalResponse]
    split
    · rename_i hl
      exact h.eq_problem ha hop hl hf
    · rename_i hl
      exact h.eq_illegalSegment ha (by simpa using hl)
  constructor
  · exact hunique
  · -- There is some answer, and by uniqueness it is this one.
    rintro rfl
    obtain ⟨response, h⟩ := exists_answers g r verify s
    exact hunique h ▸ h

/-- **Credentials and the coarse policy win over input, but not over the identifier.** A refused
request is always answered, and by the problem document of its refusal exactly if the identifier in
its path, if there is one, is text; whatever its query, its other headers and its body are. Two
refused requests with the same credential, for the same operation, get the same answer exactly if
their identifiers are both text or both not. -/
theorem refusal_precedes_input (ha : r.action? = some a) (hop : a.operation? = some op)
    (hf : Refused verify g r op f) :
    (∀ response, Answers verify s g r response ↔
      response = if a.legible then .problem f else illegalSegment) ∧
    ((∀ response, Answers verify s g r response → response = .problem f) ↔ a.legible) ∧
    ∀ (r' : Request) (a' : Action), r'.action? = some a' → a'.operation? = some op →
      r'.credential? = r.credential? →
      ((∀ response, Answers verify s g r' response ↔ Answers verify s g r response) ↔
        a'.legible = a.legible) := by
  have hanswers := answers_refused (s := s) ha hop hf
  refine ⟨hanswers, ⟨fun h => ?_, fun hl response h => ?_⟩, fun r' a' ha' hop' hc => ?_⟩
  · by_contra hl
    have hillegal : Answers verify s g r illegalSegment :=
      (hanswers _).mpr (by simp [refusalResponse, hl])
    exact illegalSegment_ne_problem (h _ hillegal)
  · rw [(hanswers response).mp h, refusalResponse, if_pos hl]
  · have hf' : Refused verify g r' op f := by simpa only [Refused, hc] using hf
    have hanswers' := answers_refused (s := s) ha' hop' hf'
    simp only [hanswers, hanswers']
    constructor
    · intro h
      exact refusalResponse_inj.mp ((h _).mp rfl)
    · intro hl response
      rw [refusalResponse_inj.mpr hl]

/-! ## The exception -/

/-- A verifier that knows nobody: every credential that is presented has expired. -/
def distrusting : Option String → Except AuthError (Option Subject)
  | none => .ok none
  | some _ => .error (.invalidToken .expired)

/-- A request for the company with an identifier, by somebody who presents a credential. -/
def lookUp (segment : List Char) : Request where
  method := "GET"
  target := ⟨['/', 'c', 'o', 'm', 'p', 'a', 'n', 'i', 'e', 's', '/'] ++ segment, none⟩
  headers := [("authorization", ⟨"Bearer mallory".toUTF8.toList, by decide +kernel⟩)]
  body := []

theorem refused_lookUp (g : CompanyGate) (segment : List Char) :
    Refused distrusting g (lookUp segment) .detail .badToken := by
  have hc : (lookUp segment).credential? = some "mallory" := by
    show (lookUp []).credential? = some "mallory"
    decide +kernel
  exact .inl ⟨.expired, by rw [hc, distrusting], rfl⟩

/-- Two refused look-ups, one of a company that cannot exist and one of bytes that are no text. -/
theorem refusal_precedes_input_lookUp :
    ∃ g, CompanyGate.ofSettings .standard = .ok g ∧
      (∀ response, Answers distrusting .standard g (lookUp ['4', '2']) response ↔
        response = .problem .badToken) ∧
      ¬∀ response, Answers distrusting .standard g (lookUp ['%', 'F', 'F']) response ↔
        Answers distrusting .standard g (lookUp ['4', '2']) response := by
  obtain ⟨g, hg⟩ : ∃ g, CompanyGate.ofSettings .standard = .ok g := ⟨_, rfl⟩
  have hrefusal := refusal_precedes_input (s := .standard) (r := lookUp ['4', '2'])
    (a := .get ['4', '2']) (by decide) rfl (refused_lookUp g ['4', '2'])
  refine ⟨g, hg, ?_, ?_⟩
  · have hl : (Action.get ['4', '2']).legible = true := by decide +kernel
    simpa only [hl, if_true] using hrefusal.1
  · intro hsame
    have hl : (Action.get ['%', 'F', 'F']).legible = (Action.get ['4', '2']).legible :=
      (hrefusal.2.2 (lookUp ['%', 'F', 'F']) _ (by decide) rfl rfl).mp hsame
    revert hl
    decide +kernel

/-- A bad credential is not what the answer is about when the identifier is no text. -/
theorem illegible_lookUp_not_refused :
    ∃ g, CompanyGate.ofSettings .standard = .ok g ∧
      (lookUp ['%', 'F', 'F']).action? = some (.get ['%', 'F', 'F']) ∧
      Refused distrusting g (lookUp ['%', 'F', 'F']) .detail .badToken ∧
      Answers distrusting .standard g (lookUp ['%', 'F', 'F']) illegalSegment ∧
      ¬Answers distrusting .standard g (lookUp ['%', 'F', 'F']) (.problem .badToken) := by
  obtain ⟨g, hg⟩ : ∃ g, CompanyGate.ofSettings .standard = .ok g := ⟨_, rfl⟩
  have haction : (lookUp ['%', 'F', 'F']).action? = some (.get ['%', 'F', 'F']) := by decide
  have hl : (Action.get ['%', 'F', 'F']).legible = false := by decide +kernel
  have hrefused := refused_lookUp g ['%', 'F', 'F']
  refine ⟨g, hg, haction, hrefused, ?_, fun h => ?_⟩
  · refine (answers_refused haction rfl hrefused _).mpr ?_
    rw [refusalResponse, hl, if_neg Bool.false_ne_true]
  · exact illegalSegment_ne_problem (h.eq_illegalSegment haction hl).symm

end Gatehouse.Http
