import Gatehouse.Proofs.Company.Shapes
import Gatehouse.Proofs.Http.Streaming
import Gatehouse.Proofs.Json.Controls
import Gatehouse.Proofs.Text.Trimming

/-!
# Events that cannot be forged

What a client makes of a stream is told here as the standard of such streams tells it, with no word
of who wrote it: a text falls into lines, the lines up to an empty one are a block of fields, and a
block that has data is a message. Names and descriptions of companies come from outside and may say
anything, also what looks like lines of another event. Still the client gets one message for each
event that is written, with the name of its change and its JSON, and nothing else.

The reason is that no control character stands in written JSON, so the only ends of lines are the
three that end the parts of an event.
-/

namespace Gatehouse.Http.EventStream

open Channel Received

/-! ## Reading a stream -/

/-- The lines of a text, and what stands behind the last of them and has no end yet. A line ends
with a carriage return, a line feed, or the one followed by the other. -/
def lines : List Char → List (List Char) × List Char
  | [] => ([], [])
  | '\r' :: '\n' :: cs | '\r' :: cs | '\n' :: cs => ([] :: (lines cs).1, (lines cs).2)
  | c :: cs =>
    match lines cs with
    | ([], rest) => ([], c :: rest)
    | (l :: ls, rest) => ((c :: l) :: ls, rest)

/-- The name of a field up to the first colon of a line, and its value behind that colon and one
space. A line without a colon is a name. -/
def field (line : List Char) : String × String :=
  match Text.cutAt ':' line with
  | some (name, ' ' :: value) | some (name, value) => (String.ofList name, String.ofList value)
  | none => (String.ofList line, "")

/-- The fields of lines with no empty line among them. -/
abbrev Block := List (String × String)

/-- The blocks that some lines complete, given the fields said before. -/
def blocksFrom (said : Block) : List (List Char) → List Block
  | [] => []
  | [] :: ls => said :: blocksFrom [] ls
  | l :: ls => blocksFrom (said ++ [field l]) ls

/-- The blocks of a text. What no empty line has ended is none yet. -/
def blocks (cs : List Char) : List Block := blocksFrom [] (lines cs).1

/-- What a client is told. -/
structure Message where
  name : String
  data : String
  deriving DecidableEq

namespace Block

/-- The values of the fields of a name. -/
def values (name : String) (b : Block) : List String :=
  (b.filter (·.1 == name)).map Prod.snd

/-- The message of a block: the lines of its data under the name said last. Without a name it is
called just that, a message; without data there is none. -/
def message? (b : Block) : Option Message :=
  match b.values "data" with
  | [] => none
  | data =>
    let name := (b.values "event").getLast?.getD ""
    some ⟨if name = "" then "message" else name, "\n".intercalate data⟩

end Block

/-- What a client makes of a text. -/
def messages (cs : List Char) : List Message := (blocks cs).filterMap Block.message?

section Reading

variable {line rest : List Char}

/-- A text in which no line ends. -/
def Unbroken (cs : List Char) : Prop := '\r' ∉ cs ∧ '\n' ∉ cs

theorem unbroken_append {cs ds : List Char} : Unbroken (cs ++ ds) ↔ Unbroken cs ∧ Unbroken ds := by
  simp only [Unbroken, List.mem_append, not_or]
  exact and_and_and_comm

/-- A carriage return ends a line, whether or not a line feed follows. -/
theorem lines_return (rest : List Char) : ∃ ls, (lines ('\r' :: rest)).1 = [] :: ls := by
  rw [lines.eq_def]
  split
  case h_1 h => cases h
  case h_2 | h_3 | h_4 => exact ⟨_, rfl⟩
  case h_5 hr _ heq => exact absurd (List.cons.inj heq).1.symm hr

theorem lines_cons {c : Char} (hr : c ≠ '\r') (hn : c ≠ '\n') :
    lines (c :: rest) =
      match lines rest with
      | ([], tail) => ([], c :: tail)
      | (l :: ls, tail) => ((c :: l) :: ls, tail) := by
  rw [lines]
  · exact fun _ h _ => hr h
  · exact hr
  · exact hn

/-- A line feed ends the line before it. -/
theorem lines_append (h : Unbroken line) :
    lines (line ++ '\n' :: rest) = (line :: (lines rest).1, (lines rest).2) := by
  induction line with
  | nil => simp [lines]
  | cons c cs ih =>
    simp only [Unbroken, List.mem_cons, not_or] at h
    obtain ⟨⟨hr, hrs⟩, hn, hns⟩ := h
    rw [List.cons_append, lines_cons (Ne.symm hr) (Ne.symm hn), ih ⟨hrs, hns⟩]

/-- The line of a field. -/
def fieldLine (name value : String) : String := name ++ ": " ++ value

theorem field_fieldLine {name : String} (h : ':' ∉ name.toList) (value : String) :
    field (fieldLine name value).toList = (name, value) := by
  have hline : (fieldLine name value).toList = name.toList ++ ':' :: ' ' :: value.toList := by
    simp [fieldLine]
  rw [hline, field, Text.cutAt_append h]
  simp only [String.ofList_toList]

theorem blocksFrom_line {said : Block} {ls : List (List Char)} (h : line ≠ []) :
    blocksFrom said (line :: ls) = blocksFrom (said ++ [field line]) ls := by
  cases line with
  | nil => exact absurd rfl h
  | cons c cs => rfl

/-- Lines that follow add blocks to those there are. -/
theorem blocksFrom_append (said : Block) (ls more : List (List Char)) :
    ∃ left, blocksFrom said (ls ++ more) = blocksFrom said ls ++ blocksFrom left more := by
  induction ls generalizing said with
  | nil => exact ⟨said, rfl⟩
  | cons l ls ih =>
    cases l with
    | nil =>
      obtain ⟨left, hleft⟩ := ih []
      exact ⟨left, congrArg (said :: ·) hleft⟩
    | cons c cs => exact ih _

/-- What is read of a text remains when the text goes on. -/
theorem lines_prefix (cs more : List Char) : (lines cs).1 <+: (lines (cs ++ more)).1 := by
  fun_induction lines cs with
  | case1 => exact List.nil_prefix
  | case2 cs ih => simpa [lines] using ih
  | case3 cs hfeed ih =>
    cases cs with
    | nil =>
      -- a line feed may still come, but the line has ended without it
      obtain ⟨ls, hls⟩ := lines_return more
      exact ⟨ls, hls.symm⟩
    | cons c cs =>
      rw [List.cons_append, List.cons_append, lines]
      · simpa using ih
      · simpa using hfeed
  | case4 cs ih => simpa [lines] using ih
  | case5 c cs => exact List.nil_prefix
  | case6 c cs _ hr hn l ls rest hcs ih =>
    rw [List.cons_append, lines_cons hr hn]
    obtain ⟨new, hnew⟩ := ih
    cases hmore : lines (cs ++ more) with | mk found tail =>
    rw [hcs, hmore] at hnew
    simp only at hnew
    subst hnew
    exact ⟨new, rfl⟩

/-- A client whose text has been cut has the first of the messages. -/
theorem messages_prefix {got cs : List Char} (h : got <+: cs) : messages got <+: messages cs := by
  obtain ⟨more, rfl⟩ := h
  obtain ⟨new, hnew⟩ := lines_prefix got more
  obtain ⟨left, hleft⟩ := blocksFrom_append [] (lines got).1 new
  rw [messages, messages, blocks, blocks, ← hnew, hleft, List.filterMap_append]
  exact List.prefix_append _ _

-- a text that is not escaped can say two things, and what is cut off it says neither
example : messages "event: created\rdata: Acme\n\nevent: deleted\ndata:all of it\n\ndata:".toList =
    [⟨"created", "Acme"⟩, ⟨"deleted", "all of it"⟩] := by
  decide +kernel

end Reading

/-! ## Events in a stream -/

section Events

/-- What a client is to be told of an event. -/
def announcement (e : Event Company) : Message := ⟨e.change.name, e.answerJson.text⟩

/-- The text of some events, one after the other. -/
def written (es : List (Event Company)) : List Char := (es.map frame).flatMap String.toList

theorem unbroken_answer (e : Event Company) : Unbroken e.answerJson.text.toList := by
  rw [Json.text, String.toList_ofList]
  exact (Json.graphic_write e.answerJson).unbroken

/-- A field of one of the two names of an event is a line if its value is. -/
theorem unbroken_fieldLine {name value : String} (hname : name ∈ ["event", "data"])
    (hvalue : Unbroken value.toList) : Unbroken (fieldLine name value).toList := by
  have hlabel : Unbroken (name ++ ": ").toList := by
    simp only [List.mem_cons, List.not_mem_nil, or_false] at hname
    rcases hname with rfl | rfl <;> exact ⟨by decide, by decide⟩
  rw [fieldLine, String.toList_append]
  exact unbroken_append.mpr ⟨hlabel, hvalue⟩

theorem toList_frame (e : Event Company) :
    (frame e).toList = (fieldLine "event" e.change.name).toList ++
      '\n' :: ((fieldLine "data" e.answerJson.text).toList ++ '\n' :: ['\n']) := by
  have htext :
      frame e = "event: " ++ e.change.name ++ "\ndata: " ++ e.answerJson.text ++ "\n\n" := rfl
  have hevent : "event: ".toList = "event".toList ++ ": ".toList := rfl
  have hdata : "\ndata: ".toList = '\n' :: ("data".toList ++ ": ".toList) := rfl
  have hend : "\n\n".toList = ['\n', '\n'] := rfl
  simp only [htext, fieldLine, String.toList_append, hevent, hdata, hend, List.append_assoc,
    List.cons_append]

/-- The text of an event is three lines whatever the event is, and whatever follows. -/
theorem lines_frame (e : Event Company) (rest : List Char) :
    lines ((frame e).toList ++ rest) =
      ((fieldLine "event" e.change.name).toList :: (fieldLine "data" e.answerJson.text).toList ::
        [] :: (lines rest).1, (lines rest).2) := by
  have hname : Unbroken e.change.name.toList := by
    cases e.change <;> exact ⟨by decide, by decide⟩
  have hevent := unbroken_fieldLine (by decide : "event" ∈ ["event", "data"]) hname
  have hdata := unbroken_fieldLine (by decide : "data" ∈ ["event", "data"]) (unbroken_answer e)
  rw [toList_frame, List.append_assoc, List.cons_append, lines_append hevent, List.append_assoc,
    List.cons_append, lines_append hdata]
  rfl

/-- The text of an event is one block of two fields. -/
theorem blocks_frame (e : Event Company) (rest : List Char) :
    blocks ((frame e).toList ++ rest) =
      [("event", e.change.name), ("data", e.answerJson.text)] :: blocks rest := by
  have hline (name value : String) : (fieldLine name value).toList ≠ [] := by simp [fieldLine]
  rw [blocks, lines_frame, blocksFrom_line (hline _ _), blocksFrom_line (hline _ _),
    field_fieldLine (by decide), field_fieldLine (by decide)]
  rfl

theorem name_ne_empty (c : Change) : c.name ≠ "" := by
  cases c <;> decide

theorem message?_fields {name : String} (h : name ≠ "") (data : String) :
    Block.message? [("event", name), ("data", data)] = some ⟨name, data⟩ := by
  simp [Block.message?, Block.values, h]

theorem messages_frame (e : Event Company) (rest : List Char) :
    messages ((frame e).toList ++ rest) = announcement e :: messages rest := by
  have hmessage := message?_fields (name_ne_empty e.change) e.answerJson.text
  rw [messages, blocks_frame, List.filterMap_cons_some hmessage]
  rfl

/-- Of events one after the other, a client is told of each, in order. -/
theorem messages_written (es : List (Event Company)) :
    messages (written es) = es.map announcement := by
  induction es with
  | nil => rfl
  | cons e es ih =>
    rw [written, List.map_cons, List.flatMap_cons, messages_frame, List.map_cons]
    exact congrArg _ ih

end Events

/-- **No text of a company can forge an event of a stream.** An event is one line that names the
change, one line of data, and an empty line, and nothing else, whatever its company is; its data has
no end of a line in it and is read back as this change of this company. A client to whom some events
are written is given one message for each, in this order, and none besides. So is the client of
every subscriber, of what the subscriber is given in the course of any history; and wherever its
text has been cut, the messages it has are the first of these. -/
theorem events_never_forged :
    (∀ e : Event Company,
      lines (frame e).toList = ([(fieldLine "event" e.change.name).toList,
        (fieldLine "data" e.answerJson.text).toList, []], []) ∧
      blocks (frame e).toList = [[("event", e.change.name), ("data", e.answerJson.text)]] ∧
      messages (frame e).toList = [announcement e] ∧
      Unbroken e.answerJson.text.toList ∧
      Json.decodeText Event.decodeAnswer e.answerJson.text = .ok e) ∧
    (∀ es : List (Event Company), messages (written es) = es.map announcement) ∧
    ∀ n c turns, ∃ steps, AmountsTo c turns steps ∧
      let heard := (events (told n c steps)).map announcement
      messages ((delivered n c turns).flatMap String.toList) = heard ∧
      ∀ got, got <+: (delivered n c turns).flatMap String.toList → messages got <+: heard := by
  refine ⟨?_, messages_written, ?_⟩
  · intro e
    have hlines := lines_frame e []
    have hblocks := blocks_frame e []
    have hmessages := messages_frame e []
    rw [List.append_nil] at hlines hblocks hmessages
    exact ⟨hlines, hblocks, hmessages, unbroken_answer e,
      Event.faithful_both.1.1.decodeText_text e⟩
  · intro n c turns
    -- what the stream gives is the text of the events that its subscriber is given
    obtain ⟨steps, hsteps⟩ := exists_amountsTo c turns
    have hall := messages_written (events (told n c steps))
    rw [written, ← hsteps.given n] at hall
    refine ⟨steps, hsteps, hall, ?_⟩
    intro got hgot
    rw [← hall]
    exact messages_prefix hgot

/-- A company that calls itself what would be the deletion of all there is, if it could end a
line. -/
def forger : Company :=
  { (default : Company) with
    name := "Acme\r\n\r\nevent: deleted\r\ndata: all of it\r\n\r\n"
    description := "\\\"\x00\x0b\n:" }

/-- Its client is told of one event, and of no other when the line is cut in the middle of what the
company calls itself. -/
theorem events_never_forged_attempt :
    let e : Event Company := ⟨.created, forger⟩
    let c : Channel (Event Company) := ⟨4, [], 0, []⟩
    messages (frame e).toList = [announcement e] ∧
      messages (written [⟨.deleted, default⟩, e]) = [announcement ⟨.deleted, default⟩,
        announcement e] ∧
      messages (((delivered 0 c.subscribe [.send e, .receive 0]).flatMap String.toList).take 60) <+:
        [announcement e] := by
  intro e c
  obtain ⟨-, -, hmessages, -⟩ := events_never_forged.1 e
  have hwritten := events_never_forged.2.1 [⟨.deleted, default⟩, e]
  have hready : ∀ e, (ready 0 (c.subscribe.send e)).1 = [frame e] := fun _ => rfl
  have hstream : delivered 0 c.subscribe [.send e, .receive 0] = [frame e] :=
    (List.append_nil _).trans (hready e)
  obtain ⟨steps, -, hall, hcut⟩ := events_never_forged.2.2 0 c.subscribe [.send e, .receive 0]
  have hheard := hcut _ (List.take_prefix 60 _)
  rw [← hall, hstream, List.flatMap_singleton, hmessages] at hheard
  rw [hstream, List.flatMap_singleton]
  exact ⟨hmessages, hwritten, hheard⟩

end Gatehouse.Http.EventStream
