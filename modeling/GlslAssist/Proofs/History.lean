import GlslAssist.Proofs.AcceptedFiles
import GlslAssist.Server.Encoding
import Mathlib.Data.List.Induction
import Mathlib.Tactic.SplitIfs

/-!
# What the server remembers

The server's documents are a table that every event updates. What it answers about a URI can be
read off the earlier events about that URI alone: `CurrentText` looks back through them for the
text that counts, and an answer is that of a server which has never seen anything but this text
(`answer_of_history`). Which openings count is a matter of the language and of the path in the URI;
its scheme alone decides nothing (`exists_answer_without_file_scheme`).

Both sides are compared event by event. `Since` is how one looks back: it holds after one more
event if that event begins it, or if it held before and the event does not end it.
-/

namespace GlslAssist

namespace Server

/-- What can be asked about a document. -/
inductive Question where
  | hover
  | completion
  | signatureHelp
  deriving DecidableEq, Repr

def Question.event (uri : Uri) (pos : Position) : Question → Event
  | hover => .hover uri pos
  | completion => .completion uri pos
  | signatureHelp => .signatureHelp uri pos

/-- The answer about a document, whatever happened before. -/
def Question.answer (settings : Settings) (doc : Option Document) (pos : Position) :
    Question → Answer
  | hover => .hover (doc.bind fun d => Hover.find settings.registry d pos)
  | completion => .completion (doc.map fun d => Completion.find settings.registry d pos)
  | signatureHelp =>
    .signatureHelp (doc.bind fun d => SignatureHelp.find settings.registry settings.lookback d pos)

def Event.uri : Event → Uri
  | .opened uri _ _ => uri
  | .changed uri _ => uri
  | .closed uri => uri
  | .hover uri _ => uri
  | .completion uri _ => uri
  | .signatureHelp uri _ => uri

/-- The state after a history of events. -/
def run (settings : Settings) (history : List Event) : State :=
  history.foldl (fun s e => (step settings s e).state) .start

/-- At some event of the history `P` held, and `Q` has held of every event after it. -/
def Since (P : List Event → Event → Prop) (Q : Event → Prop) (history : List Event) : Prop :=
  ∃ before e after, history = before ++ e :: after ∧ P before e ∧ ∀ x ∈ after, Q x

/-- What looks back takes as a parameter which URIs are accepted, with what language. -/
abbrev Acceptance := Uri → String → Prop

/-- The event is an accepted opening of the document, with that text. -/
def OpensWith (accepted : Acceptance) (uri : Uri) (text : String) (e : Event) : Prop :=
  ∃ language, e = .opened uri language text ∧ accepted uri language

/-- The event is a change of the document, and the last of its texts is that one. -/
def ChangesTo (uri : Uri) (text : String) (e : Event) : Prop :=
  ∃ texts, e = .changed uri texts ∧ texts.getLast? = some text

/-- The document was opened and not closed since. -/
def IsOpen (accepted : Acceptance) (uri : Uri) (history : List Event) : Prop :=
  Since (fun _ e => ∃ text, OpensWith accepted uri text e) (· ≠ .closed uri) history

/-- The latest accepted opening of the document or change of it has the text. The document was not
closed after that; and a change counts only if the document was open. -/
def CurrentText (accepted : Acceptance) (uri : Uri) (text : String) (history : List Event) :
    Prop :=
  Since (fun before e => OpensWith accepted uri text e
      ∨ ChangesTo uri text e ∧ IsOpen accepted uri before)
    (fun e => (∀ t, ¬ OpensWith accepted uri t e) ∧ (∀ t, ¬ ChangesTo uri t e) ∧ e ≠ .closed uri)
    history

/-- Events that are nothing to a document, after those before. -/
inductive Idle (accepted : Acceptance) (uri : Uri) (before : List Event) : Event → Prop
  | elsewhere {e : Event} (h : e.uri ≠ uri) : Idle accepted uri before e
  | rejected {u : Uri} {language text : String} (h : ¬ accepted u language) :
    Idle accepted uri before (.opened u language text)
  | unchanged {u : Uri} : Idle accepted uri before (.changed u [])
  | notOpen {texts : List String} (h : ¬ IsOpen accepted uri before) :
    Idle accepted uri before (.changed uri texts)
  | asked {u : Uri} {pos : Position} (question : Question) :
    Idle accepted uri before (question.event u pos)

/-- The text with which an event opens a document, if it is accepted. -/
def openedText? (settings : Settings) (uri : Uri) : Event → Option String
  | .opened u language text => if u = uri ∧ accepts settings u language then some text else none
  | _ => none

/-- The text to which an event changes a document, if there is a change at all. -/
def changedText? (uri : Uri) : Event → Option String
  | .changed u texts => if u = uri then texts.getLast? else none
  | _ => none

theorem openedText?_eq_some_iff {settings : Settings} {uri : Uri} {e : Event} {text : String} :
    openedText? settings uri e = some text ↔ OpensWith (Accepted settings) uri text e := by
  cases e with
  | opened u language t =>
    simp only [openedText?, Option.ite_none_right_eq_some, Option.some.injEq, OpensWith,
      Event.opened.injEq, accepts_iff]
    constructor
    · rintro ⟨⟨rfl, haccepted⟩, rfl⟩
      exact ⟨language, ⟨rfl, rfl, rfl⟩, haccepted⟩
    · rintro ⟨_, ⟨rfl, rfl, rfl⟩, haccepted⟩
      exact ⟨⟨rfl, haccepted⟩, rfl⟩
  | _ => simp [openedText?, OpensWith]

theorem changedText?_eq_some_iff {uri : Uri} {e : Event} {text : String} :
    changedText? uri e = some text ↔ ChangesTo uri text e := by
  cases e with
  | changed u texts =>
    simp only [changedText?, Option.ite_none_right_eq_some, ChangesTo, Event.changed.injEq]
    constructor
    · rintro ⟨rfl, htexts⟩
      exact ⟨texts, ⟨rfl, rfl⟩, htexts⟩
    · rintro ⟨_, ⟨rfl, rfl⟩, htexts⟩
      exact ⟨rfl, htexts⟩
  | _ => simp [changedText?, ChangesTo]

theorem document?_close (s : State) (uri u : Uri) :
    (s.close u).document? uri = if u = uri then none else s.document? uri := by
  simp only [State.document?, State.close, List.find?_filter]
  split_ifs with h
  · subst h
    rw [Option.map_eq_none_iff, List.find?_eq_none]
    simp
  · congr 2
    funext d
    by_cases hd : d.1 = uri
    · simp [hd, Ne.symm h]
    · simp [hd]

theorem document?_store (s : State) (uri u : Uri) (doc : Document) :
    (s.store u doc).document? uri = if u = uri then some doc else s.document? uri := by
  have hc := document?_close s uri u
  simp only [State.document?, State.store, List.find?_cons] at hc ⊢
  by_cases h : u = uri
  · simp [h]
  · rw [if_neg h] at hc ⊢
    simpa [h] using hc

/-! ## One event more -/

theorem run_concat (settings : Settings) (history : List Event) (e : Event) :
    run settings (history ++ [e]) = (step settings (run settings history) e).state := by
  rw [run, List.foldl_append, run]
  rfl

theorem not_since_nil {P : List Event → Event → Prop} {Q : Event → Prop} : ¬ Since P Q [] := by
  rintro ⟨before, e, after, h, -⟩
  simp at h

theorem since_concat {P : List Event → Event → Prop} {Q : Event → Prop} {history : List Event}
    {e : Event} : Since P Q (history ++ [e]) ↔ P history e ∨ Q e ∧ Since P Q history := by
  constructor
  · rintro ⟨before, x, after, heq, hP, hQ⟩
    rcases List.eq_nil_or_concat after with rfl | ⟨after, y, rfl⟩
    · obtain ⟨rfl, h⟩ := List.append_inj' heq rfl
      simp only [List.cons.injEq, and_true] at h
      exact Or.inl (h ▸ hP)
    · rw [List.concat_eq_append, ← List.cons_append, ← List.append_assoc] at heq
      obtain ⟨rfl, h⟩ := List.append_inj' heq rfl
      simp only [List.cons.injEq, and_true] at h
      subst h
      exact Or.inr ⟨hQ e (by simp), before, x, after, rfl, hP,
        fun z hz => hQ z (by simp [hz])⟩
  · rintro (hP | ⟨hQe, before, x, after, rfl, hP, hQ⟩)
    · exact ⟨history, e, [], rfl, hP, by simp⟩
    · refine ⟨before, x, after ++ [e], by simp, hP, fun z hz => ?_⟩
      rcases List.mem_append.1 hz with hz | hz
      · exact hQ z hz
      · rw [List.mem_singleton.1 hz]
        exact hQe

/-- What an event does to the text of one document. -/
def nextText (settings : Settings) (uri : Uri) (e : Event) (text : Option String) : Option String :=
  match openedText? settings uri e, changedText? uri e with
  | some opened, _ => some opened
  | none, some changed => text.map fun _ => changed
  | none, none => if e = .closed uri then none else text

/-- The server keeps, for every document, the text that the events about it make. -/
theorem document?_step (settings : Settings) (uri : Uri) (s : State) (e : Event)
    (text : Option String) (h : s.document? uri = text.map Document.ofText) :
    (step settings s e).state.document? uri
      = (nextText settings uri e text).map Document.ofText := by
  cases e with
  | opened u language t =>
    by_cases ha : accepts settings u language = true
    · by_cases hu : u = uri
      · subst hu
        simp [step, ha, document?_store, nextText, openedText?]
      · simp [step, ha, document?_store, hu, nextText, openedText?, changedText?, h]
    · simp [step, ha, nextText, openedText?, changedText?, h]
  | changed u texts =>
    by_cases hu : u = uri
    · subst hu
      rcases ht : texts.getLast? with _ | t
      · simp [step, ht, nextText, openedText?, changedText?, h]
      · rcases text with _ | old
        · simp only [Option.map_none] at h
          simp [step, ht, h, nextText, openedText?, changedText?]
        · simp only [Option.map_some] at h
          simp [step, ht, h, document?_store, nextText, openedText?, changedText?]
    · have hstep : (step settings s (.changed u texts)).state.document? uri
          = s.document? uri := by
        simp only [step]
        split
        · rw [document?_store, if_neg hu]
        · rfl
      rw [hstep, h]
      simp [nextText, openedText?, changedText?, hu]
  | closed u =>
    by_cases hu : u = uri
    · simp [step, document?_close, hu, nextText, openedText?, changedText?]
    · simp [step, document?_close, hu, nextText, openedText?, changedText?, h]
  | hover u pos => simpa [step, nextText, openedText?, changedText?] using h
  | completion u pos =>
    have hstep : (step settings s (.completion u pos)).state.documents = s.documents := by
      simp only [step]
      split
      · rfl
      · rw [ready]
        split <;> rfl
    rw [State.document?, hstep]
    simpa [nextText, openedText?, changedText?, State.document?] using h
  | signatureHelp u pos => simpa [step, nextText, openedText?, changedText?] using h

/-! ## A whole history -/

section Histories

variable {settings : Settings} {uri : Uri} {history : List Event}

/-- The text of one document after a history. -/
def textAfter (settings : Settings) (uri : Uri) (history : List Event) : Option String :=
  history.foldl (fun text e => nextText settings uri e text) none

theorem textAfter_concat (e : Event) :
    textAfter settings uri (history ++ [e])
      = nextText settings uri e (textAfter settings uri history) := by
  rw [textAfter, List.foldl_append, textAfter]
  rfl

theorem document?_run (settings : Settings) (uri : Uri) (history : List Event) :
    (run settings history).document? uri
      = (textAfter settings uri history).map Document.ofText := by
  induction history using List.reverseRecOn with
  | nil => rfl
  | append_singleton history e ih =>
    rw [run_concat, textAfter_concat, document?_step settings uri _ e _ ih]

theorem openedText?_of_changedText? {e : Event} {text : String}
    (h : changedText? uri e = some text) : openedText? settings uri e = none := by
  cases e <;> simp [changedText?] at h
  rfl

theorem isOpen_iff :
    IsOpen (Accepted settings) uri history ↔ (textAfter settings uri history).isSome := by
  induction history using List.reverseRecOn with
  | nil => simp [IsOpen, not_since_nil, textAfter]
  | append_singleton history e ih =>
    rw [IsOpen] at ih
    rw [IsOpen, since_concat, ih, textAfter_concat, nextText]
    simp only [← openedText?_eq_some_iff]
    rcases ho : openedText? settings uri e with _ | opened
    · rcases hc : changedText? uri e with _ | changed
      · by_cases he : e = .closed uri
        · simp [he]
        · simp [he]
      · have he : e ≠ .closed uri := by
          rintro rfl
          simp [changedText?] at hc
        simp [he]
    · simp

theorem currentText_iff {text : String} :
    CurrentText (Accepted settings) uri text history
      ↔ textAfter settings uri history = some text := by
  induction history using List.reverseRecOn with
  | nil => simp [CurrentText, not_since_nil, textAfter]
  | append_singleton history e ih =>
    rw [CurrentText] at ih
    rw [CurrentText, since_concat, ih, isOpen_iff, textAfter_concat, nextText]
    simp only [← openedText?_eq_some_iff, ← changedText?_eq_some_iff]
    rcases ho : openedText? settings uri e with _ | opened
    · rcases hc : changedText? uri e with _ | changed
      · by_cases he : e = .closed uri
        · simp [he]
        · simp [he]
      · rcases textAfter settings uri history with _ | old <;> simp
    · have hc : changedText? uri e = none := by
        rcases hc : changedText? uri e with _ | changed
        · rfl
        · rw [openedText?_of_changedText? hc] at ho
          simp at ho
      simp [hc]

/-- The candidates are kept as they were built, and always the same ones. -/
theorem candidates_run (settings : Settings) (history : List Event) :
    (run settings history).candidates = none
      ∨ (run settings history).candidates = some (Candidate.ranked settings.registry) := by
  induction history using List.reverseRecOn with
  | nil => exact Or.inl rfl
  | append_singleton history e ih =>
    rw [run_concat]
    cases e with
    | opened u language text =>
      simp only [step]
      split_ifs
      · exact ih
      · exact ih
    | changed u texts =>
      simp only [step]
      split
      · exact ih
      · exact ih
    | closed u => exact ih
    | hover u pos => exact ih
    | completion u pos =>
      simp only [step, ready]
      split
      · exact ih
      · split
        · exact ih
        · exact Or.inr rfl
    | signatureHelp u pos => exact ih

theorem answer_step (s : State) (question : Question) (pos : Position)
    (h : s.candidates = none ∨ s.candidates = some (Candidate.ranked settings.registry)) :
    (step settings s (question.event uri pos)).answer
      = question.answer settings (s.document? uri) pos := by
  cases question with
  | hover => rfl
  | completion =>
    simp only [Question.event, step, Question.answer]
    rcases s.document? uri with _ | doc
    · rfl
    · rcases h with h | h <;> simp [ready, h, Completion.find]
  | signatureHelp => rfl

theorem answer_run (question : Question) (pos : Position) :
    (step settings (run settings history) (question.event uri pos)).answer
      = question.answer settings ((textAfter settings uri history).map Document.ofText) pos := by
  rw [answer_step _ question pos (candidates_run settings history), document?_run]

theorem toReply_answer_none (settings : Settings) (question : Question) (pos : Position) :
    (question.answer settings none pos).toReply = .null := by
  cases question <;> rfl

theorem textAfter_insert_idle {before after : List Event} {e : Event}
    (h : Idle (Accepted settings) uri before e) :
    textAfter settings uri (before ++ e :: after) = textAfter settings uri (before ++ after) := by
  have hnext : nextText settings uri e (textAfter settings uri before)
      = textAfter settings uri before := by
    cases h with
    | elsewhere h => cases e <;> simp_all [Event.uri, nextText, openedText?, changedText?]
    | rejected h =>
      rw [← accepts_iff, Bool.not_eq_true] at h
      simp [nextText, openedText?, changedText?, h]
    | unchanged => simp [nextText, openedText?, changedText?]
    | notOpen h =>
      rw [isOpen_iff, Option.not_isSome_iff_eq_none] at h
      rw [h, nextText]
      rcases changedText? uri (.changed uri _) with _ | changed <;> simp [openedText?]
    | asked question =>
      cases question <;> simp [Question.event, nextText, openedText?, changedText?]
  rw [textAfter, List.foldl_append, List.foldl_cons, ← textAfter, hnext, textAfter,
    ← List.foldl_append, ← textAfter]

/-- A question about a document is answered from its current text alone, with null if it has none,
and nothing that is idle for the document changes the answer. -/
theorem answer_of_history (settings : Settings) (history : List Event) (uri : Uri)
    (question : Question) (pos : Position) :
    let accepted := Accepted settings
    let answer := (step settings (run settings history) (question.event uri pos)).answer
    (∀ text, CurrentText accepted uri text history →
        answer = question.answer settings (some (.ofText text)) pos)
      ∧ ((¬ ∃ text, CurrentText accepted uri text history) → answer.toReply = .null)
      ∧ ∀ before after e, history = before ++ after → Idle accepted uri before e →
        (step settings (run settings (before ++ e :: after)) (question.event uri pos)).answer
          = answer := by
  refine ⟨fun text h => ?_, fun h => ?_, fun before after e hh hidle => ?_⟩
  · rw [answer_run, currentText_iff.1 h]
    rfl
  · have hnone : textAfter settings uri history = none := by
      rw [Option.eq_none_iff_forall_ne_some]
      exact fun text ht => h ⟨text, currentText_iff.2 ht⟩
    rw [answer_run, hnone]
    exact toReply_answer_none settings question pos
  · rw [answer_run, answer_run, textAfter_insert_idle hidle, hh]

theorem currentText_opened {accepted : Acceptance} {language text t : String} :
    CurrentText accepted uri text [.opened uri language t] ↔ t = text ∧ accepted uri language := by
  rw [CurrentText, ← List.nil_append [_], since_concat]
  simp only [not_since_nil, and_false, or_false, OpensWith, ChangesTo, Event.opened.injEq,
    true_and, reduceCtorEq, false_and, exists_false]
  exact ⟨fun ⟨_, ⟨hlanguage, ht⟩, h⟩ => ⟨ht, hlanguage ▸ h⟩, fun ⟨ht, h⟩ => ⟨_, ⟨rfl, ht⟩, h⟩⟩

/-- An opening by the extension, in a path with an escape; and one by the language, after which one
that is rejected changes nothing, and a closing everything. -/
theorem answer_after_rejected_opening :
    let file : Uri := ⟨"file", some ⟨"", none, none⟩, "/a%2Efrag", none, none⟩
    let uri : Uri := ⟨"untitled", none, "a", none, none⟩
    let history : List Event := [.opened uri "glsl" "sin", .changed uri ["x", "cos"]]
    let asked (events : List Event) (uri : Uri) :=
      (step .default (run .default events) (.hover uri ⟨0, 1⟩)).answer
    CurrentText (Accepted .default) file "tan" [.opened file "text" "tan"]
      ∧ asked [.opened file "text" "tan"] file
        = Question.hover.answer .default (some (.ofText "tan")) ⟨0, 1⟩
      ∧ CurrentText (Accepted .default) uri "cos" history
      ∧ asked history uri = Question.hover.answer .default (some (.ofText "cos")) ⟨0, 1⟩
      ∧ asked (history ++ [.opened uri "text" "sin"]) uri = asked history uri
      ∧ (¬ ∃ text, CurrentText (Accepted .default) uri text (history ++ [.closed uri]))
      ∧ (asked (history ++ [.closed uri]) uri).toReply = .null := by
  intro file uri history asked
  have hpath : file.path.toList = ['/', 'a', '%', '2', 'E', 'f', 'r', 'a', 'g'] := by decide
  have hspelled : Uri.Spells file.path.toList (Path.ofText "/a.frag") := by
    rw [hpath]
    exact .cons (by decide) (.cons (by decide) (.escaped (x := 2) (y := 14) (by decide) (by decide)
      (Uri.spells_bytes (by decide))))
  have hfile : Accepted .default file "text" :=
    .inr ⟨Path.ofText "/a.frag", ⟨by simp [file], by decide, hspelled⟩, "frag", by decide,
      [0x61], by decide, by decide, by decide, by decide⟩
  have htan : CurrentText (Accepted .default) file "tan" [.opened file "text" "tan"] :=
    currentText_opened.2 ⟨rfl, hfile⟩
  have hcos : CurrentText (Accepted .default) uri "cos" history := currentText_iff.2 (by decide)
  have hidle : Idle (Accepted .default) uri history (.opened uri "text" "sin") :=
    .rejected (by rw [← accepts_iff]; decide)
  have hclosed : ¬ ∃ text, CurrentText (Accepted .default) uri text (history ++ [.closed uri]) := by
    rintro ⟨text, h⟩
    rw [currentText_iff, textAfter_concat] at h
    simp [nextText, openedText?, changedText?] at h
  obtain ⟨hopened, -, -⟩ :=
    answer_of_history .default [.opened file "text" "tan"] file .hover ⟨0, 1⟩
  obtain ⟨hanswer, -, hinsert⟩ := answer_of_history .default history uri .hover ⟨0, 1⟩
  obtain ⟨-, hnull, -⟩ :=
    answer_of_history .default (history ++ [.closed uri]) uri .hover ⟨0, 1⟩
  exact ⟨htan, hopened "tan" htan, hcos, hanswer "cos" hcos, hinsert history [] _ (by simp) hidle,
    hclosed, hnull hclosed⟩

/-- Acceptance by the scheme in place of the host: of a document that is no file of the scheme, but
in the language; or of a file with an extension on whatever host. -/
def AcceptedByScheme (settings : Settings) : Acceptance := fun uri language =>
  language = "glsl" ∨ uri.scheme = "file" ∧ ∃ file, Uri.Spells uri.path.toList file
    ∧ ∃ name ∈ settings.extensions, Path.HasExtension file (Path.ofText name)

/-- Answers do not go by the scheme: there is one about a document of another scheme, whose path has
an extension, and there is none about a file of another host. -/
theorem exists_answer_without_file_scheme :
    let untitled : Uri := ⟨"untitled", none, "/a.glsl", none, none⟩
    let remote : Uri := ⟨"file", some ⟨"", some (.name "server"), none⟩, "/a.glsl", none, none⟩
    let accepted := AcceptedByScheme .default
    let opened (uri : Uri) : List Event := [.opened uri "text" "sin"]
    let asked (uri : Uri) := (step .default (run .default (opened uri)) (.hover uri ⟨0, 1⟩)).answer
    untitled.text = "untitled:/a.glsl" ∧ remote.text = "file://server/a.glsl"
      ∧ (¬ ∃ text, CurrentText accepted untitled text (opened untitled))
      ∧ (asked untitled).toReply ≠ .null
      ∧ CurrentText accepted remote "sin" (opened remote)
      ∧ asked remote ≠ Question.hover.answer .default (some (.ofText "sin")) ⟨0, 1⟩ := by
  intro untitled remote accepted opened asked
  have hspelled : Uri.Spells "/a.glsl".toList (Path.ofText "/a.glsl") := Uri.spells_bytes (by decide)
  have hending : Path.HasExtension (Path.ofText "/a.glsl") (Path.ofText "glsl") :=
    ⟨[0x61], by decide, by decide, by decide, by decide⟩
  have huntitled : CurrentText (Accepted .default) untitled "sin" (opened untitled) :=
    currentText_opened.2 ⟨rfl, .inr ⟨Path.ofText "/a.glsl",
      ⟨by simp [untitled], by decide, hspelled⟩, "glsl", by decide, hending⟩⟩
  have hremote : textAfter .default remote (opened remote) = none := by
    have hnone : ¬ ∃ text, CurrentText (Accepted .default) remote text (opened remote) := by
      rintro ⟨text, h⟩
      rcases (currentText_opened.1 h).2 with hlanguage | ⟨file, hfile, -⟩
      · exact absurd hlanguage (by decide)
      · exact absurd (hfile.here _ rfl _ rfl) (by decide)
    rw [Option.eq_none_iff_forall_ne_some]
    exact fun text h => hnone ⟨text, currentText_iff.2 h⟩
  refine ⟨by decide, by decide, ?_, ?_, currentText_opened.2 ⟨rfl, .inr ⟨rfl, _, hspelled, "glsl",
    by decide, hending⟩⟩, ?_⟩
  · rintro ⟨text, h⟩
    rcases (currentText_opened.1 h).2 with hlanguage | ⟨hscheme, -⟩
    · exact absurd hlanguage (by decide)
    · exact absurd hscheme (by decide)
  · have hanswer : asked untitled
        = Question.hover.answer .default (some (.ofText "sin")) ⟨0, 1⟩ := by
      rw [← Option.map_some, ← currentText_iff.1 huntitled]
      exact answer_run .hover ⟨0, 1⟩
    obtain ⟨hover, hhover⟩ := Option.isSome_iff_exists.1
      (by decide : (Hover.find Settings.default.registry (.ofText "sin") ⟨0, 1⟩).isSome = true)
    rw [hanswer, Question.answer, Option.bind_some, hhover]
    nofun
  · have hanswer : asked remote = Question.hover.answer .default none ⟨0, 1⟩ := by
      rw [← Option.map_none, ← hremote]
      exact answer_run .hover ⟨0, 1⟩
    rw [hanswer]
    decide

end Histories

end Server

end GlslAssist
