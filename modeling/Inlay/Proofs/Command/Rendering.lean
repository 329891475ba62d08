/-
# `Inlay.Proofs.Command.Rendering` — the command line prints what `renderWith` gives

A command that adds a template of its document and a call of `renderWith` come to
the same page in different ways:

                  command line                        `renderWith`
    options       defaults, and overrides said        defaults merged beforehand
    target        its first node only                 all that the selector finds
    call          `dispatch`, with a word             `add`
    result        what the outcome stands for         the document, always

Each line is a fact of its own: options may be said at the call or before
(`answer_preset`), nothing is read of a target but its first node
(`add_document_first`), and where fragments are added to the document the outcome
is the target, whether anything was added or not (`add_outcome`).
-/
import Inlay.Command.Run
import Inlay.Proofs.Dispatch.Preset
import Inlay.Proofs.Dispatch.Reachable

namespace Inlay

open Dispatcher

variable {τ : Type} {e : Engine τ} {s : Dispatcher τ} {d : Document} {target : Selection}
  {key : String} {data : Data.Value} {o : Options} {p : Overrides}

/-! ## Only the first node of a target counts -/

theorem prepare_first (d : Document) (target : Selection) (key : String) (o : Options) :
    prepare d target.first key o = prepare d target key o := by
  unfold prepare
  rw [target.first?_first]

theorem isFilled_first (d : Document) (target : Selection) (key : String) (o : Options) :
    isFilled d target.first key o = isFilled d target key o := by
  unfold isFilled
  rw [target.first?_first]

theorem place_document_first (e : Engine τ) (d : Document) (target : Selection) (key : String)
    (t : τ) (data : Data.Value) (o : Options) :
    (place e d target.first key t data o).1 = (place e d target key t data o).1 := by
  unfold place
  cases e.render t data with
  | none => rfl
  | some fragment =>
      show (deliver d target.first key fragment o).1 = (deliver d target key fragment o).1
      rw [deliver_document, deliver_document, target.first?_first]

theorem renderInto_document_first (e : Engine τ) (s : Dispatcher τ) (d : Document)
    (target : Selection) (key : String) (data : Data.Value) (o : Options) :
    (renderInto e s d target.first key data o).document =
      (renderInto e s d target key data o).document := by
  cases hc : s.cache.get? key with
  | some t =>
      rw [renderInto_eq hc, renderInto_eq hc, prepare_first]
      simp only [isFilled_first]
      split
      · rfl
      · exact place_document_first e _ target key t data o
  | none =>
      unfold renderInto
      rw [hc, prepare_first]
      simp only
      split <;> split <;> rfl

/-- An add for a selection does to the document what it does for the first node alone. -/
theorem add_document_first (e : Engine τ) (s : Dispatcher τ) (d : Document) (target : Selection)
    (t : TemplateRef) (data : Data.Value) (p : Overrides) :
    (s.add e d target.first t data p).document = (s.add e d target t data p).document := by
  unfold add
  simp only
  split
  · rfl
  · cases t.key? with
    | none => rfl
    | some key =>
        simp only
        split
        · exact renderInto_document_first e s d target key data _
        · cases t.source? d with
          | none => rfl
          | some source =>
              simp only
              cases compileInto e s key (d.inner source) with
              | none => rfl
              | some s' => exact renderInto_document_first e s' d target key data _

/-! ## What is answered where fragments are added to the document -/

theorem place_outcome (ho : o.output = .append) (e : Engine τ) (d : Document) (target : Selection)
    (key : String) (t : τ) (data : Data.Value) :
    (place e d target key t data o).2 = .target target := by
  unfold place
  cases e.render t data with
  | none => rfl
  | some fragment =>
      simp only [deliver, ho]
      cases target.first? <;> rfl

/-- The target is answered, whatever becomes of the add. -/
theorem add_outcome (ho : (s.defaults.merge p).output = .append) (e : Engine τ) (d : Document)
    (target : Selection) (t : TemplateRef) (data : Data.Value) :
    (s.add e d target t data p).outcome = .target target := by
  obtain ⟨asked, s', -, hends⟩ := add_ends e s d target t data p
  cases hr : Adding.ready? e s ⟨target, t.key?, (t.source? d).map d.inner, data, p⟩ with
  | none => rw [hends.stops hr]
  | some kt =>
      obtain ⟨key, tm⟩ := kt
      rw [hends.eq_of_ready hr]
      simp only
      split
      · rfl
      · exact place_outcome ho e _ target key tm data

/-! ## The command line -/

namespace Command

/-- What a command has read before it acts. -/
structure Reads (c : Command) (read : FileReader) (standard : StandardInput)
    (o : Options) (p : Overrides) (data : Data.Value) (html : String) : Prop where
  defaults : c.defaults read = .ok o
  overrides : c.overrides = .ok p
  data : c.dataOf read = .ok data
  document : c.documentText read standard = .ok html

/-- A command that adds a template of its document. -/
structure Adds (c : Command) (key : String) : Prop where
  action : Action.named? ((c.value? .action).getD "add") = some .add
  noSource : c.value? .source = none
  template : c.value? .template = some key

/-- The selector of the node that a command is about. -/
def targetText (c : Command) : String := (c.value? .target).getD "body"

variable {c : Command} {read : FileReader} {standard : StandardInput} {html : String}

/-- A document that was read was there to read. -/
theorem checkInput_of_documentText (h : c.documentText read standard = .ok html) :
    c.checkInput standard = .ok () := by
  unfold documentText at h
  unfold checkInput
  cases hinput : c.input with
  | some path => rfl
  | none =>
      rw [hinput] at h
      cases standard with
      | terminal => cases h
      | text text => rfl

/-- A command that has read all it needs prints what its action answers. -/
theorem Reads.run (h : c.Reads read standard o p data html) :
    c.run read standard = .ok (printed (c.act read o p data (Document.parse html))) := by
  unfold Command.run
  rw [checkInput_of_documentText h.document, h.defaults, h.overrides, h.data, h.document]
  rfl

/-- Its action is an add for the first node that the selector finds. -/
theorem Adds.act (h : c.Adds key) (read : FileReader) (o : Options) (p : Overrides)
    (data : Data.Value) (d : Document) :
    c.act read o p data d = Dispatcher.add CompiledTemplate.engine ⟨Cache.empty, o⟩ d
      (d.select c.targetText).first (.key key) data p := by
  unfold Command.act
  simp only [h.noSource, h.template, Dispatcher.dispatch, h.action]
  rfl

/-- An answer that is the target is printed as the document. -/
theorem printed_target {a : Answer CompiledTemplate} (h : a.outcome = .target target) :
    printed a = a.document.write ++ "\n" := by
  unfold printed
  rw [h]
  simp [String.join]

/-- Where fragments are added to the document, such a command prints what `renderWith` gives under
the merged options. -/
theorem Adds.printed (h : c.Adds key) (ho : (o.merge p).output = .append) (read : FileReader)
    (data : Data.Value) (html : String) :
    Command.printed (c.act read o p data (Document.parse html)) =
      renderWith html c.targetText key data (o.merge p) ++ "\n" := by
  have hpreset := add_preset CompiledTemplate.engine ⟨Cache.empty, o⟩ (Document.parse html)
    ((Document.parse html).select c.targetText) (.key key) data p
  have hdocument : (c.act read o p data (Document.parse html)).document.write =
      renderWith html c.targetText key data (o.merge p) := by
    rw [h.act, add_document_first]
    exact congrArg (·.document.write) hpreset.symm
  have houtcome : (c.act read o p data (Document.parse html)).outcome =
      .target ((Document.parse html).select c.targetText).first := by
    rw [h.act]
    exact add_outcome ho _ _ _ _ _
  rw [printed_target houtcome, hdocument]

end Command

/-- A command line that adds a template of its document, under options that add fragments to it,
ends well and prints what `renderWith` gives under the merged options, with a line feed behind it,
whether anything was rendered or not.  And for any engine, a dispatcher that has overrides among its
options answers calls that say nothing as one without them answers calls that say them, call by call
and over a run. -/
theorem command_prints_rendering :
    (∀ arguments c read standard o p data html key, Command.ofArguments arguments = .ok c →
      c.Reads read standard o p data html → c.Adds key → (o.merge p).output = .append →
      Command.report arguments read standard =
        ⟨0, renderWith html c.targetText key data (o.merge p) ++ "\n", ""⟩) ∧
    (∀ (τ : Type) (e : Engine τ) (s : Dispatcher τ) (d : Document) (p : Overrides) (c : Call),
      (c.saying {}).answer e (s.preset p) d = ((c.saying p).answer e s d).preset p) ∧
    ∀ (τ : Type) (e : Engine τ) (s : Dispatcher τ) (d : Document) (p : Overrides) (cs : List Call),
      answers e (s.preset p) d (cs.map (.saying {})) =
        (answers e s d (cs.map (.saying p))).map (.preset · p) := by
  refine ⟨?_, fun τ e s d p c => answer_preset e s d p c, fun τ e s d p cs =>
    answers_preset e p cs s d⟩
  intro arguments c read standard o p data html key hc hreads hadds ho
  unfold Command.report
  rw [hc]
  simp only
  rw [hreads.run, hadds.printed ho]

/-- A command line that renders a text into a page. -/
def greeting : List String :=
  ["--template", "#t", "--target", "#out", "--data-json", "\"x\"", "--no-store"]

/-- What it asks for. -/
def greetingCommand : Command where
  settings := [(.template, "#t"), (.target, "#out"), (.dataText, "\"x\"")]
  switches := [.noStore]

/-- Its standard input. -/
def greetingPage : String := "<p id=t>\x7b\x7bthis\x7d\x7d</p><div id=out></div>"

/-- There are no files. -/
def noFiles : FileReader := fun _ => .error .missing

theorem greeting_printed :
    Command.ofArguments greeting = .ok greetingCommand ∧
    greetingCommand.Reads noFiles (.text (.ok greetingPage)) {} { storeCompiled := some false }
      (.string "x") greetingPage ∧ greetingCommand.Adds "#t" ∧
    (Command.report greeting noFiles (.text (.ok greetingPage))).code = 0 ∧
    (Command.report greeting noFiles (.text (.ok greetingPage))).output =
      "<p id=\"t\">\x7b\x7bthis\x7d\x7d</p><div id=\"out\"><div data-template-id=\"#t\">x</div></div>\n" := by
  have hc : Command.ofArguments greeting = .ok greetingCommand := by decide +kernel
  have hreads : greetingCommand.Reads noFiles (.text (.ok greetingPage)) {}
      { storeCompiled := some false } (.string "x") greetingPage :=
    ⟨rfl, rfl, rfl, rfl⟩
  have hadds : greetingCommand.Adds "#t" := ⟨by decide +kernel, rfl, rfl⟩
  have hreport := command_prints_rendering.1 _ _ _ _ _ _ _ _ _ hc hreads hadds rfl
  rw [hreport]
  exact ⟨hc, hreads, hadds, rfl, by decide +kernel⟩

end Inlay
