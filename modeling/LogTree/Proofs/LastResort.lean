import Mathlib
import LogTree.Proofs.ParentWalks
import LogTree.Proofs.RecordTraces

namespace LogTree

/-- What the last resort writes for a message. A message that cannot be rendered has no text. -/
def Message.lastLines : Message → Stream
  | .text line => [{ writer := .lastResort, octets := Text.Utf8.encode (line ++ "\n") }]
  | .failing => []

theorem Message.filter_lastLines (message : Message) :
    (message.lastLines.filter fun piece => piece.writer = .lastResort) = message.lastLines := by
  cases message <;> rfl

namespace Registry

/-- So many generations above a logger there is another one, and all loggers below that one on the
way propagate. -/
def Propagates (registry : Registry) (id : LoggerId) (generations : Nat) (outer : LoggerId) :
    Prop :=
  registry.climb? id generations = some outer ∧
    ∀ lower < generations, ∀ between, registry.climb? id lower = some between →
      registry.propagate between = true

/-- A handler, whatever its threshold, is attached to a logger or to an ancestor to which the logger
propagates. -/
def Reaches (registry : Registry) (id : LoggerId) (handler : Handler) : Prop :=
  ∃ generations outer, registry.Propagates id generations outer ∧
    handler ∈ registry.handlers outer

theorem mem_visited_iff {registry : Registry} {id outer : LoggerId} :
    outer ∈ registry.visited id ↔ ∃ generations, registry.Propagates id generations outer := by
  have hstops : ∀ (i : Nat) (h : i < (registry.ancestry id).length),
      registry.climb? id i = some (registry.ancestry id)[i] := by
    intro i h
    rw [climb?_eq_getElem?, List.getElem?_eq_getElem h]
  constructor
  · intro hmem
    obtain ⟨generations, houter⟩ := List.mem_iff_getElem?.mp hmem
    rw [visited, List.getElem?_take] at houter
    split at houter
    · next hlt =>
        refine ⟨generations, (registry.climb?_eq_getElem? id generations).trans houter, ?_⟩
        intro lower hlower between hbetween
        have hbefore : lower < (registry.ancestry id).findIdx
            (fun logger => !registry.propagate logger) := by
          omega
        have hpropagates := List.not_of_lt_findIdx hbefore
        have hlength := Nat.lt_of_lt_of_le hbefore List.findIdx_le_length
        rw [hstops lower hlength, Option.some.injEq] at hbetween
        rw [hbetween] at hpropagates
        simpa using hpropagates
    · cases houter
  · rintro ⟨generations, houter, hpropagates⟩
    rw [climb?_eq_getElem?] at houter
    refine List.mem_iff_getElem?.mpr ⟨generations, ?_⟩
    rw [visited, List.getElem?_take, if_pos, houter]
    -- The first logger that does not propagate cannot stand below the one that is reached.
    refine Nat.lt_succ_of_le (Nat.le_of_not_lt fun hlt => ?_)
    have hlength := (List.getElem?_eq_some_iff.mp houter).1
    have hstop := List.findIdx_getElem (w := Nat.lt_trans hlt hlength)
    have hgoes := hpropagates _ hlt _ (hstops _ (Nat.lt_trans hlt hlength))
    rw [hgoes] at hstop
    cases hstop

theorem hasHandlers_iff_exists_reaches {registry : Registry} {id : LoggerId} :
    registry.hasHandlers id = true ↔ ∃ handler, registry.Reaches id handler := by
  rw [hasHandlers_eq_any, List.any_eq_true]
  constructor
  · rintro ⟨outer, hvisited, hown⟩
    obtain ⟨generations, hpropagates⟩ := mem_visited_iff.mp hvisited
    have hne : registry.handlers outer ≠ [] := by
      simpa [hasOwnHandlers] using hown
    obtain ⟨handler, hhandler⟩ := List.exists_mem_of_ne_nil _ hne
    exact ⟨handler, generations, outer, hpropagates, hhandler⟩
  · rintro ⟨handler, generations, outer, hpropagates, hhandler⟩
    refine ⟨outer, mem_visited_iff.mpr ⟨generations, hpropagates⟩, ?_⟩
    simpa [hasOwnHandlers] using List.ne_nil_of_mem hhandler

theorem passed_eq_nil_iff {registry : Registry} {id : LoggerId} :
    registry.passed id = [] ↔ registry.hasHandlers id = false := by
  rw [hasHandlers_eq_any, List.any_eq_false, passed, List.flatMap_eq_nil_iff]
  simp [hasOwnHandlers]

end Registry

theorem Outputs.outputs_lastResort (outputs : Outputs) (record : Record) :
    (outputs.lastResort record).outputs =
      outputs.append .standardError record.message.lastLines := by
  rw [lastResort]
  cases record.message with
  | text text => rfl
  | failing => simp [rendering, Message.lastLines, append]

theorem Delivery.aborted_finish_iff {delivery : Delivery} (h : delivery.aborted = false)
    {record : Record} : (delivery.finish record).aborted = true ↔
      (Level.warning ≤ record.level ∧ delivery.reached = false) ∧ record.message = .failing := by
  have hlast : (delivery.outputs.lastResort record).aborted = true ↔
      record.message = .failing := by
    rw [Outputs.lastResort]
    cases record.message <;> simp [Outputs.rendering]
  rw [finish, h]
  cases delivery.reached with
  | true => simp [h]
  | false =>
      by_cases hlevel : Level.warning ≤ record.level
      · simp [hlevel, hlast]
      · simp [hlevel, h]

namespace Registry

section

variable {registry : Registry} {id : LoggerId} {level : Level} {failure : Option Failure}
  {draft : Draft} {outputs : Outputs} {record : Record}
  (hrecord : Record.ofDraft (registry.name id) level failure draft = record)
  (hnone : outputs.NoneAborts record (registry.accepting id level))

include hrecord hnone

theorem outputs_emit_of_not_hasHandlers (hlevel : Level.warning ≤ level)
    (hhandlers : registry.hasHandlers id = false) :
    (registry.emit id level failure draft outputs).outputs =
      outputs.append .standardError draft.message.lastLines := by
  have hpassed := passed_eq_nil_iff.mpr hhandlers
  have haccepting : registry.accepting id level = [] := by
    rw [accepting_eq_filter, hpassed, List.filter_nil]
  have houtputs := (emit_of_noneAborts hrecord hnone).2
  rw [if_pos ⟨hpassed, hlevel⟩, haccepting, Outputs.outputs_lastResort, ← hrecord] at houtputs
  exact houtputs

theorem outputs_emit_of_hasHandlers
    (h : ¬(Level.warning ≤ level ∧ registry.hasHandlers id = false)) :
    (registry.emit id level failure draft outputs).outputs =
      outputs.handleAll record (registry.accepting id level) := by
  refine (emit_of_noneAborts hrecord hnone).2.trans (if_neg ?_)
  rintro ⟨hpassed, hlevel⟩
  exact h ⟨hlevel, passed_eq_nil_iff.mp hpassed⟩

theorem aborted_emit_iff : (registry.emit id level failure draft outputs).aborted = true ↔
    (Level.warning ≤ level ∧ registry.hasHandlers id = false) ∧ draft.message = .failing := by
  subst hrecord
  rw [accepting_eq_filter] at hnone
  obtain ⟨haborted, -, -, hreached⟩ :=
    @Delivery.foldl_offer_of_noneAborts { outputs } _ _ rfl hnone
  rw [← dispatch_eq_foldl_offer] at haborted hreached
  have hunreached : (registry.dispatch (.ofDraft (registry.name id) level failure draft) id
      { outputs }).reached = false ↔ registry.hasHandlers id = false := by
    rw [← passed_eq_nil_iff, ← Bool.not_eq_true, hreached]
    simp
  exact (Delivery.aborted_finish_iff haborted).trans (by rw [hunreached]; rfl)

end

end Registry

namespace Session

/-- In every state of a run, a logger has handlers if one is attached where its records come past.
A record in which no handler aborts goes to the last resort if it is at least a warning and the
logger has none: then the message is written, alone, once and on a line of its own, and nothing else
happens. A message that cannot be rendered has no text to write and aborts the call there. Where
there is a handler, the last resort writes nothing, even if the handler does not accept the
record. -/
theorem last_resort_without_handlers (moment : Moment) (commands : List Command) (key : String)
    (id : LoggerId) (level : Level) (failure : Option Failure) (message : Message)
    (thread : Option String) :
    let session := (run { moment } commands).1
    let registry := session.registry key
    let draft : Draft := { message, thread, moment := session.moment }
    let record := Record.ofDraft (registry.name id) level failure draft
    let delivery := registry.emit id level failure draft session.outputs
    let due := Level.warning ≤ level ∧ registry.hasHandlers id = false
    session.outputs.NoneAborts record (registry.accepting id level) →
      (registry.hasHandlers id = true ↔ ∃ handler, registry.Reaches id handler) ∧
        (due → delivery.outputs =
          session.outputs.append .standardError message.lastLines) ∧
        (¬due → delivery.outputs =
          session.outputs.handleAll record (registry.accepting id level)) ∧
        (delivery.outputs.lastResortLines = session.outputs.lastResortLines ++
          if Level.warning ≤ level ∧ registry.hasHandlers id = false then message.lastLines
          else []) ∧
        (delivery.aborted = true ↔ due ∧ message = .failing) ∧
        ∀ handler, registry.Reaches id handler →
          delivery.outputs.lastResortLines = session.outputs.lastResortLines := by
  intro session registry draft record delivery due hnone
  have halone : due → delivery.outputs =
      session.outputs.append .standardError message.lastLines :=
    fun hdue => Registry.outputs_emit_of_not_hasHandlers rfl hnone hdue.1 hdue.2
  have hhandled : ¬due → delivery.outputs =
      session.outputs.handleAll record (registry.accepting id level) :=
    Registry.outputs_emit_of_hasHandlers rfl hnone
  have hlines : ¬due → delivery.outputs.lastResortLines = session.outputs.lastResortLines := by
    intro hnot
    rw [hhandled hnot]
    exact (Ledger.lastResort.read_handleAll hnone).trans (by simp [Ledger.lastResort])
  refine ⟨Registry.hasHandlers_iff_exists_reaches, halone, hhandled, ?_, ?_, ?_⟩
  · split
    · next hdue =>
        rw [halone hdue, Outputs.lastResortLines, Outputs.append, List.filter_append,
          message.filter_lastLines]
        rfl
    · next hnot => rw [hlines hnot, List.append_nil]
  · exact Registry.aborted_emit_iff rfl hnone
  · intro handler hreaches
    apply hlines
    rintro ⟨-, hnohandlers⟩
    rw [Registry.hasHandlers_iff_exists_reaches.mpr ⟨handler, hreaches⟩] at hnohandlers
    cases hnohandlers

/-- A handler that takes errors only keeps a warning from the last resort. A logger that is cut off
from it has nowhere else to go. -/
theorem deaf_handler_spares_last_resort :
    let session := (run { moment := { instant := { seconds := 0 } } } [
      .handler "errors" (.make .error (.journal "errors")),
      .logger { registry := "main", name := "" } (.attach "errors"),
      .logger { registry := "main", name := "app" } .report,
      .logger { registry := "main", name := "alone" } (.setPropagate false)]).1
    let registry := session.registry "main"
    let draft : Draft := { message := .text "full", thread := none, moment := session.moment }
    let delivery := fun id => registry.emit id .warning none draft session.outputs
    (∀ id ∈ [1, 2], session.outputs.NoneAborts
        (Record.ofDraft (registry.name id) .warning none draft)
        (registry.accepting id .warning)) ∧
      registry.hasHandlers 1 = true ∧
      (delivery 1).outputs.lastResortLines = session.outputs.lastResortLines ∧
      registry.hasHandlers 2 = false ∧
      (delivery 2).outputs = session.outputs.append .standardError
        [{ writer := .lastResort, octets := Text.Utf8.encode "full\n" }] := by
  have hstate : ∀ session, session = (run { moment := { instant := { seconds := 0 } } } [
      .handler "errors" (.make .error (.journal "errors")),
      .logger { registry := "main", name := "" } (.attach "errors"),
      .logger { registry := "main", name := "app" } .report,
      .logger { registry := "main", name := "alone" } (.setPropagate false)]).1 →
      let registry := session.registry "main"
      (registry.accepting 1 .warning = [] ∧ registry.accepting 2 .warning = []) ∧
        registry.hasHandlers 1 = true ∧ registry.hasHandlers 2 = false := by
    rintro session rfl
    cbv
  intro session registry draft delivery
  obtain ⟨⟨hfirst, hsecond⟩, hhas, hhasnot⟩ := hstate session rfl
  have hnone : ∀ id ∈ [1, 2], session.outputs.NoneAborts
      (Record.ofDraft (registry.name id) .warning none draft)
      (registry.accepting id .warning) := by
    intro id hid
    have haccepting : registry.accepting id .warning = [] := by
      rcases List.mem_cons.mp hid with rfl | hid
      · exact hfirst
      · rw [List.mem_singleton.mp hid, hsecond]
    rw [haccepting]
    trivial
  obtain ⟨hreaches, -, -, -, -, hspared⟩ := last_resort_without_handlers _ _ "main" 1 .warning none
    (.text "full") none (hnone 1 (by decide))
  obtain ⟨-, hwritten, -⟩ := last_resort_without_handlers _ _ "main" 2 .warning none
    (.text "full") none (hnone 2 (by decide))
  obtain ⟨handler, hhandler⟩ := hreaches.mp hhas
  exact ⟨hnone, hhas, hspared handler hhandler, hhasnot, hwritten ⟨by decide, hhasnot⟩⟩

end Session

end LogTree
