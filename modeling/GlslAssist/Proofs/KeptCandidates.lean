import GlslAssist.Proofs.History

/-!
# The candidates are built once

The list of candidates is built when a completion is first asked for about a document that the
server has, and it is kept from then on. Building is told in the log, so where it happens can be
read off the records of one step (`builds_iff`); and that the list is kept is an invariant of every
run (`isSome_candidates_run`), which no opening, change or closing of a document breaks.

What is kept answers every later completion as it is, whatever list it is (`step_kept`). It is the
list that would be built anew, so an answer is that of a server which builds it just for this
question, and the replies to two questions are one but for the range to replace
(`candidates_built_once`).
-/

namespace GlslAssist

namespace Server

/-- A completion is asked for, of a document that is stored. -/
def State.Asks (s : State) (e : Event) : Prop :=
  ∃ uri pos, e = .completion uri pos ∧ (s.document? uri).isSome

/-- The event, after those before it, makes the server build the candidates. -/
def BuildsAt (settings : Settings) (before : List Event) (e : Event) : Prop :=
  ∃ items, builtRecord items ∈ (step settings (run settings before) e).log

/-- At some event of the history a completion was asked for of a document stored then. -/
def HasAsked (settings : Settings) (history : List Event) : Prop :=
  Since (fun before e => (run settings before).Asks e) (fun _ => True) history

variable {settings : Settings} {history : List Event} {s : State} {items : List Candidate}
  {e : Event}

/-! ## One step -/

theorem step_completion_some {uri : Uri} {pos : Position} {doc : Document}
    (h : s.document? uri = some doc) :
    step settings s (.completion uri pos) = ⟨(ready settings s).2.1,
      .completion (some (.ofCandidates (ready settings s).1 doc pos)), (ready settings s).2.2⟩ := by
  simp only [step, h]

/-- Only a completion of a stored document touches the candidates or tells of them. -/
theorem step_of_not_asks (h : ¬ s.Asks e) :
    (step settings s e).state.candidates = s.candidates
      ∧ ∀ items, builtRecord items ∉ (step settings s e).log := by
  cases e with
  | opened uri language text =>
    simp only [step]
    split <;> simp [builtRecord, State.store, State.close]
  | changed uri texts =>
    simp only [step]
    split <;> exact ⟨rfl, by simp⟩
  | closed uri => exact ⟨rfl, by simp [step]⟩
  | hover uri pos => exact ⟨rfl, by simp [step]⟩
  | completion uri pos =>
    have hnone : s.document? uri = none := by
      rw [← Option.not_isSome_iff_eq_none]
      exact fun hsome => h ⟨uri, pos, rfl, hsome⟩
    simp [step, hnone]
  | signatureHelp uri pos => exact ⟨rfl, by simp [step]⟩

theorem step_of_asks (h : s.Asks e) :
    (step settings s e).state.candidates = some (ready settings s).1
      ∧ (step settings s e).log = (ready settings s).2.2 := by
  obtain ⟨uri, pos, rfl, hsome⟩ := h
  obtain ⟨doc, hdoc⟩ := Option.isSome_iff_exists.1 hsome
  rw [step_completion_some hdoc]
  refine ⟨?_, rfl⟩
  rcases hs : s.candidates with _ | items <;> simp [ready, hs]

theorem isSome_candidates_step :
    (step settings s e).state.candidates.isSome ↔ s.Asks e ∨ s.candidates.isSome := by
  by_cases h : s.Asks e
  · simp [(step_of_asks h).1, h]
  · simp [(step_of_not_asks h).1, h]

theorem built_step_iff :
    (∃ items, builtRecord items ∈ (step settings s e).log) ↔ s.Asks e ∧ s.candidates = none := by
  by_cases h : s.Asks e
  · rw [(step_of_asks h).2]
    rcases hs : s.candidates with _ | items <;> simp [ready, hs, h]
  · simp [(step_of_not_asks h).2, h]

/-- Kept candidates stay, and completions are answered from them, whatever they are. -/
theorem step_kept (h : s.candidates = some items) :
    (step settings s e).state.candidates = some items
      ∧ ∀ uri pos, (step settings s (.completion uri pos)).answer
        = .completion ((s.document? uri).map fun doc => .ofCandidates items doc pos) := by
  have hready : ready settings s = (items, s, []) := by
    simp only [ready, h]
  constructor
  · by_cases hasks : s.Asks e
    · rw [(step_of_asks hasks).1, hready]
    · rw [(step_of_not_asks hasks).1, h]
  · intro uri pos
    rcases hdoc : s.document? uri with _ | doc
    · simp [step, hdoc]
    · rw [step_completion_some hdoc, hready]
      rfl

/-! ## A whole run -/

/-- The candidates are there as soon as they were asked for. -/
theorem isSome_candidates_run :
    (run settings history).candidates.isSome ↔ HasAsked settings history := by
  induction history using List.reverseRecOn with
  | nil => simp [HasAsked, not_since_nil, run, State.start]
  | append_singleton history e ih =>
    rw [HasAsked] at ih
    rw [run_concat, isSome_candidates_step, HasAsked, since_concat, ih, true_and]

theorem builds_iff :
    BuildsAt settings history e
      ↔ (run settings history).Asks e ∧ ¬ HasAsked settings history := by
  rw [BuildsAt, built_step_iff, ← isSome_candidates_run, Option.not_isSome_iff_eq_none]

theorem not_builds_later {before between : List Event} {later : Event}
    (h : BuildsAt settings before e) : ¬ BuildsAt settings (before ++ e :: between) later :=
  fun hlater => (builds_iff.1 hlater).2
    ⟨before, e, between, rfl, (builds_iff.1 h).1, fun _ _ => trivial⟩

/-- Two places of one history at which the candidates are built are the same place. -/
theorem eq_of_builds {before after before' after' : List Event} {e' : Event}
    (heq : before ++ e :: after = before' ++ e' :: after') (h : BuildsAt settings before e)
    (h' : BuildsAt settings before' e') : before = before' := by
  rcases List.append_eq_append_iff.1 heq with ⟨between, rfl, hrest⟩ | ⟨between, rfl, hrest⟩
  · rcases between with _ | ⟨x, between⟩
    · rw [List.append_nil]
    · obtain rfl := (List.cons.inj hrest).1
      exact absurd h' (not_builds_later h)
  · rcases between with _ | ⟨x, between⟩
    · rw [List.append_nil]
    · obtain rfl := (List.cons.inj hrest).1
      exact absurd h (not_builds_later h')

theorem answer_completion_run (settings : Settings) (history : List Event) (uri : Uri)
    (pos : Position) :
    (step settings (run settings history) (.completion uri pos)).answer
      = .completion (((run settings history).document? uri).map fun doc =>
        Completion.find settings.registry doc pos) :=
  answer_step (run settings history) .completion pos (candidates_run settings history)

theorem items_of_answer {uri : Uri} {pos : Position} {c : Completion}
    (h : (step settings (run settings history) (.completion uri pos)).answer
      = .completion (some c)) : c.items = Candidate.ranked settings.registry := by
  rw [answer_completion_run, Answer.completion.injEq, Option.map_eq_some_iff] at h
  obtain ⟨doc, -, rfl⟩ := h
  rfl

/-- The candidates are built exactly at the first completion of a stored document, so at one place
of a history at most, and from then on they are there. Once there they stay, and answers are made of
them without a look at the settings. A completion is answered as by a server that builds them just
then, and two replies are the same but for the range to replace. -/
theorem candidates_built_once (settings : Settings) (history : List Event) :
    (∀ e, BuildsAt settings history e
        ↔ (run settings history).Asks e ∧ ¬ HasAsked settings history)
      ∧ (∀ before e after before' e' after', history = before ++ e :: after →
        history = before' ++ e' :: after' → BuildsAt settings before e →
        BuildsAt settings before' e' → before = before')
      ∧ ((run settings history).candidates.isSome ↔ HasAsked settings history)
      ∧ (∀ s items e, s.candidates = some items →
        (step settings s e).state.candidates = some items
          ∧ ∀ uri pos, (step settings s (.completion uri pos)).answer
            = .completion ((s.document? uri).map fun doc => .ofCandidates items doc pos))
      ∧ (∀ uri pos, (step settings (run settings history) (.completion uri pos)).answer
        = .completion (((run settings history).document? uri).map fun doc =>
          Completion.find settings.registry doc pos))
      ∧ ∀ later uri pos uri' pos' c c',
        (step settings (run settings history) (.completion uri pos)).answer
            = .completion (some c) →
        (step settings (run settings later) (.completion uri' pos')).answer
            = .completion (some c') →
        c'.toReply = Completion.toReply { c with range := c'.range } := by
  refine ⟨fun e => builds_iff, fun before e after before' e' after' h h' => ?_,
    isSome_candidates_run, fun s items e => step_kept, answer_completion_run settings history,
    fun later uri pos uri' pos' c c' hc hc' => ?_⟩
  · exact eq_of_builds (h.symm.trans h')
  · rw [Completion.toReply, Completion.toReply, items_of_answer hc, items_of_answer hc']

/-- A completion of a document that is not there builds nothing, nor does a hover; the first one of
a document that is there does. A change and a second completion build nothing again. -/
theorem candidates_built_once_reopened :
    let uri : Uri := ⟨"untitled", none, "a", none, none⟩
    let early : List Event :=
      [.completion uri ⟨0, 0⟩, .opened uri "glsl" "si", .hover uri ⟨0, 0⟩]
    let asked : Event := .completion uri ⟨0, 1⟩
    let late : List Event := [.closed uri, .opened uri "glsl" "é co"]
    BuildsAt .default early asked
      ∧ ¬ BuildsAt .default [] (.completion uri ⟨0, 0⟩)
      ∧ ¬ BuildsAt .default (early ++ asked :: late) (.completion uri ⟨0, 4⟩)
      ∧ (step .default (run .default (early ++ asked :: late)) (.completion uri ⟨0, 4⟩)).answer
        = .completion (some (Completion.find (Settings.registry .default) (.ofText "é co") ⟨0, 4⟩))
      := by
  intro uri early asked late
  obtain ⟨hfirst, -, hkept, -⟩ := candidates_built_once .default early
  obtain ⟨hnothing, -⟩ := candidates_built_once .default []
  obtain ⟨hagain, -, -, -, hanswer, -⟩ := candidates_built_once .default (early ++ asked :: late)
  have hearly : (run .default early).Asks asked := ⟨uri, ⟨0, 1⟩, rfl, by decide⟩
  have hnone : ¬ HasAsked .default early := by
    rw [← hkept]
    decide
  refine ⟨(hfirst asked).2 ⟨hearly, hnone⟩, fun h => ?_, fun h => ?_, ?_⟩
  · obtain ⟨⟨_, _, he, hsome⟩, -⟩ := (hnothing _).1 h
    cases he
    cases hsome
  · exact ((hagain _).1 h).2 ⟨early, asked, late, rfl, hearly, fun _ _ => trivial⟩
  · rw [hanswer, document?_run]
    rfl

end Server

end GlslAssist
