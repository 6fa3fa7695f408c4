import Mathlib
import LogTree.Proofs.CallAdditions
import LogTree.Proofs.FailingWriters
import LogTree.Proofs.HandlerHomes

/-!
Registries side by side. As long as no handler and nothing that handlers write to is used in two
registries, what is done in one of them is none of the business of another: each could as well be
alone.
-/

namespace LogTree

namespace Session

theorem place?_of_placed? {session : Session} {command : Command} {place : String}
    {object : Owned Instance} (h : session.placed? command = some (place, object)) :
    session.place? command = some object.registry := by
  unfold placed? at h
  split at h
  · obtain ⟨-, rfl⟩ := Prod.mk.inj (Option.some.inj h)
    rfl
  · obtain ⟨held, hheld, heq⟩ := Option.map_eq_some_iff.mp h
    obtain ⟨-, rfl⟩ := Prod.mk.inj heq
    rw [place?, homeOf, hheld]
    rfl
  · obtain ⟨held, hheld, heq⟩ := Option.map_eq_some_iff.mp h
    obtain ⟨-, rfl⟩ := Prod.mk.inj heq
    rw [place?, homeOf, hheld]
    rfl
  · obtain ⟨held, hheld, heq⟩ := Option.map_eq_some_iff.mp h
    obtain ⟨-, rfl⟩ := Prod.mk.inj heq
    rw [place?, homeOf, hheld]
    rfl
  · cases h

theorem get?_holdings_step (session : Session) (command : Command) (key : String) :
    (session.step command).1.holdings.get? key =
      match session.held? command with
      | none => session.holdings.get? key
      | some (place, holding) =>
          if key = place then some holding else session.holdings.get? key := by
  rw [(session.holdsAfter_step command).holdings_eq]
  cases session.held? command with
  | none => rfl
  | some held => exact NameMap.get?_insert _ _ _ _

theorem place?_of_held? {session : Session} {command : Command} {place : String}
    {holding : Owned Holding} (h : session.held? command = some (place, holding)) :
    session.place? command = some holding.registry := by
  unfold held? at h
  split at h
  · obtain ⟨id, -, heq⟩ := Option.map_eq_some_iff.mp h
    obtain ⟨-, rfl⟩ := Prod.mk.inj heq
    rfl
  · obtain ⟨id, -, heq⟩ := Option.map_eq_some_iff.mp h
    obtain ⟨-, rfl⟩ := Prod.mk.inj heq
    rfl
  · obtain ⟨-, rfl⟩ := Prod.mk.inj (Option.some.inj h)
    rfl
  · obtain ⟨handler, -, heq⟩ := Option.map_eq_some_iff.mp h
    obtain ⟨-, rfl⟩ := Prod.mk.inj heq
    rfl
  · obtain ⟨held, hheld, heq⟩ := Option.map_eq_some_iff.mp h
    obtain ⟨-, rfl⟩ := Prod.mk.inj heq
    rw [place?, hheld]
    rfl
  · cases h

/-- Every handler is made and attached in the registry that it belongs to. -/
structure Housed (homes : Homes) (session : Session) : Prop where
  names : session.NamesHandlers
  keeps : ∀ place handler, session.handlers.get? place = some handler →
    homes.Keeps (homes.handler place) handler.destination
  admits : ∀ place id, ∀ handler ∈ (session.registry place).handlers id,
    homes.Admits place handler

theorem housed_fresh (homes : Homes) (moment : Moment) (classes : NameMap Unit) :
    Housed homes { moment, loggedClasses := classes } := by
  refine ⟨?_, ?_, ?_⟩
  · rintro place handler ⟨⟩
  · rintro place handler ⟨⟩
  · intro place id handler hmem
    cases id <;> cases hmem

theorem Housed.home_of_journal? {homes : Homes} {session : Session} (h : session.Housed homes)
    {place : String} {handler : Handler} (hhandler : session.handlers.get? place = some handler)
    {journal : String} (hjournal : handler.journal? = some journal) :
    homes.journal journal = homes.handler place := by
  have hkeeps := h.keeps place handler hhandler
  rw [Handler.journal?] at hjournal
  split at hjournal
  · next store hstore =>
      rw [hstore] at hkeeps
      rw [← Option.some.inj hjournal]
      exact hkeeps
  · cases hjournal

theorem home_of_handler? {homes : Homes} {session : Session} {command : Command}
    {place key : String} (hrespects : homes.Respects command)
    (hhandler : command.handler? = some key)
    (hplace : session.place? command = some place) : homes.handler key = place := by
  unfold Command.handler? at hhandler
  split at hhandler
  · obtain rfl := Option.some.inj hhandler
    exact Eq.trans hrespects (Option.some.inj hplace)
  · obtain rfl := Option.some.inj hhandler
    exact Eq.trans hrespects (Option.some.inj hplace)
  · obtain rfl := Option.some.inj hhandler
    exact Eq.trans hrespects (Option.some.inj hplace)
  · obtain rfl := hhandler
    exact Eq.trans hrespects (Option.some.inj hplace)
  · cases hhandler

theorem Housed.step {homes : Homes} {session : Session} (h : session.Housed homes)
    {command : Command} (hrespects : homes.Respects command) :
    (session.step command).1.Housed homes := by
  refine ⟨h.names.step command, ?_, ?_⟩
  · intro place handler hhandler
    rw [handlers_step] at hhandler
    split at hhandler
    · exact h.keeps place handler hhandler
    · next key made hmade =>
        rw [NameMap.get?_insert] at hhandler
        split at hhandler
        · next heq =>
            obtain rfl := Option.some.inj hhandler
            unfold made? at hmade
            split at hmade
            · split at hmade
              · cases hmade
              · obtain ⟨rfl, rfl⟩ := Prod.mk.inj (Option.some.inj hmade)
                rw [heq]
                exact hrespects
            · cases hmade
        · exact h.keeps place handler hhandler
  · intro place id handler hmem
    rcases mem_handlers_step hmem with hheld | ⟨hplace, hstandard | ⟨key, hkey, hhandler⟩⟩
    · exact h.admits place id handler hheld
    · exact .inl hstandard
    · have hhome := home_of_handler? hrespects hkey hplace
      refine .inr ⟨?_, ?_⟩
      · rw [h.names key handler hhandler]
        exact decide_eq_true hhome
      · rw [← hhome]
        exact h.keeps key handler hhandler

/-- The registry that a command is addressed to: the one that it goes through, or the one that its
handler or its buffer belongs to. To compare objects of two registries is to address neither. -/
def addressed? (homes : Homes) (session : Session) : Command → Option String
  | .handler key _ => some (homes.handler key)
  | .buffer key _ => some (homes.buffer key)
  | command => session.place? command

theorem addressed?_of_place? {homes : Homes} {session : Session} {command : Command} {key : String}
    (h : session.place? command = some key) : session.addressed? homes command = some key := by
  cases command with
  | handler place command => cases h
  | buffer place command => cases h
  | _ => exact h

/-- The commands addressed to a registry, with what they are answered. -/
def stepsOf (homes : Homes) (key : String) (session : Session) :
    List Command → List (Command × Except Refusal Answer)
  | [] => []
  | command :: rest =>
      let (next, result) := session.step command
      let later := next.stepsOf homes key rest
      if session.addressed? homes command = some key then (command, result) :: later else later

/-- A session in which a registry is alone is like another one as far as the registry goes. -/
structure Isolates (homes : Homes) (key : String) (session alone : Session) : Prop where
  housed : session.Housed homes
  moment_eq : alone.moment = session.moment
  registry_eq : alone.registry key = session.registry key
  handler_eq : ∀ place, homes.handler place = key →
    alone.handlers.get? place = session.handlers.get? place
  object_eq : ∀ place object, session.objects.get? place = some object → object.registry = key →
    alone.objects.get? place = some object
  holding_eq : ∀ place holding, session.holdings.get? place = some holding →
    holding.registry = key → alone.holdings.get? place = some holding
  outputs : homes.Agree key session.outputs alone.outputs

section

variable {homes : Homes} {key : String} {session alone : Session}
  (h : Isolates homes key session alone)

include h

theorem Isolates.object_eq_of_homeOf {place : String} (hhome : session.homeOf place = some key) :
    alone.objects.get? place = session.objects.get? place := by
  obtain ⟨object, hobject, hregistry⟩ := Option.map_eq_some_iff.mp hhome
  rw [hobject]
  exact h.object_eq place object hobject hregistry

theorem Isolates.holding_eq_of_home {place : String}
    (hhome : (session.holdings.get? place).map Owned.registry = some key) :
    alone.holdings.get? place = session.holdings.get? place := by
  obtain ⟨holding, hholding, hregistry⟩ := Option.map_eq_some_iff.mp hhome
  rw [hholding]
  exact h.holding_eq place holding hholding hregistry

theorem Isolates.sees {command : Command} (hrespects : homes.Respects command)
    (haddressed : session.addressed? homes command = some key) :
    Sees .none command session alone := by
  have hplace : ∀ place, session.place? command = some place → place = key := by
    intro place hplace
    exact Option.some.inj ((addressed?_of_place? hplace).symm.trans haddressed)
  refine ⟨?_, ?_, ?_, ?_⟩
  · intro place hgoes
    rw [hplace place hgoes, Registry.exchange_none]
    exact h.registry_eq
  · intro place hhandler
    have hhome : homes.handler place = key := by
      have hgoes : session.place? command = some key := by
        unfold Command.handler? at hhandler
        split at hhandler
        · exact haddressed
        · exact haddressed
        · exact haddressed
        · exact haddressed
        · cases hhandler
      exact home_of_handler? hrespects hhandler hgoes
    rw [h.handler_eq place hhome]
    exact Option.map_id'.symm
  · intro place hmem
    apply h.object_eq_of_homeOf
    unfold Command.objects at hmem
    split at hmem
    · rw [List.mem_singleton.mp hmem]
      exact haddressed
    · rw [List.mem_singleton.mp hmem]
      exact haddressed
    · rw [List.mem_singleton.mp hmem]
      exact haddressed
    · rw [List.mem_singleton.mp hmem]
      exact haddressed
    · rw [List.mem_singleton.mp hmem]
      exact haddressed
    · next first second =>
        have hgoes : session.place? (.object first (.sameLogger second)) = some key := haddressed
        rw [place?] at hgoes
        split at hgoes
        · next hsame =>
            rcases List.mem_cons.mp hmem with rfl | hsecond
            · exact hgoes
            · rw [List.mem_singleton.mp hsecond, ← hsame]
              exact hgoes
        · cases hgoes
    · cases hmem
  · intro place hholding
    apply h.holding_eq_of_home
    unfold Command.holding? at hholding
    split at hholding
    · rw [← Option.some.inj hholding]
      exact haddressed
    · rw [← Option.some.inj hholding]
      exact haddressed
    · rw [← Option.some.inj hholding]
      exact haddressed
    · cases hholding

theorem Isolates.step_of_outputs {command : Command} (hrespects : homes.Respects command)
    (haddressed : session.addressed? homes command = some key)
    (houtputs : homes.Agree key (session.step command).1.outputs (alone.step command).1.outputs) :
    Isolates homes key (session.step command).1 (alone.step command).1 := by
  have hsees := h.sees hrespects haddressed
  have hsession := session.holdsAfter_step command
  have halone := alone.holdsAfter_step command
  refine ⟨h.housed.step hrespects, ?_, ?_, ?_, ?_, ?_, houtputs⟩
  · rw [hsession.moment_eq, halone.moment_eq, h.moment_eq]
  · rw [registry_step, registry_step, hsees.operations_eq, h.registry_eq]
    have hexchange := (session.registry key).performAll_exchange .none
      (session.operations key command)
    rw [Registry.exchange_none, Registry.exchange_none] at hexchange
    exact hexchange
  · intro place hplace
    have hmade : alone.made? command = session.made? command := by
      cases command with
      | handler made command =>
          cases command with
          | make threshold destination =>
              have hhome : homes.handler made = key := Option.some.inj haddressed
              rw [made?, made?, NameMap.contains, NameMap.contains, h.handler_eq made hhome]
          | drain => rfl
      | _ => rfl
    rw [handlers_step, handlers_step, hmade]
    split
    · exact h.handler_eq place hplace
    · rw [NameMap.get?_insert, NameMap.get?_insert, h.handler_eq place hplace]
  · intro place object hobject hregistry
    rw [get?_objects_step] at hobject ⊢
    rw [hsees.placed?_eq]
    split at hobject
    · exact h.object_eq place object hobject hregistry
    · next put held hput =>
        by_cases heq : place = put
        · rw [if_pos heq] at hobject ⊢
          exact hobject
        · rw [if_neg heq] at hobject ⊢
          exact h.object_eq place object hobject hregistry
  · intro place holding hholding hregistry
    rw [get?_holdings_step] at hholding ⊢
    rw [hsees.held?_eq]
    split at hholding
    · exact h.holding_eq place holding hholding hregistry
    · next put held hput =>
        by_cases heq : place = put
        · rw [if_pos heq] at hholding ⊢
          exact hholding
        · rw [if_neg heq] at hholding ⊢
          exact h.holding_eq place holding hholding hregistry

theorem Isolates.step_drain {place : String} (hplace : homes.handler place = key) :
    let command := Command.handler place .drain
    (alone.step command).2 = (session.step command).2 ∧
      homes.Agree key (session.step command).1.outputs (alone.step command).1.outputs := by
  intro command
  have hjournal : (alone.handlers.get? place).bind Handler.journal? =
      (session.handlers.get? place).bind Handler.journal? := by
    rw [h.handler_eq place hplace]
  cases hkept : (session.handlers.get? place).bind Handler.journal? with
  | none =>
      rw [step_drain_of_none hkept, step_drain_of_none (hjournal.trans hkept)]
      exact ⟨rfl, h.outputs⟩
  | some journal =>
      obtain ⟨handler, hheld, hkeeps⟩ := Option.bind_eq_some_iff.mp hkept
      have hhome : homes.journal journal = key :=
        (h.housed.home_of_journal? hheld hkeeps).trans hplace
      rw [step_drain_of_some hkept, step_drain_of_some (hjournal.trans hkept)]
      refine ⟨by simp only [answer, h.outputs.journal_eq journal hhome], ?_⟩
      refine ⟨?_, h.outputs.tally_eq, h.outputs.buffer_eq, h.outputs.events_eq,
        h.outputs.standardOutput_eq, h.outputs.standardError_eq, h.outputs.aborted_iff⟩
      intro store hstore
      simp only [answer, Outputs.drain, Outputs.journal, NameMap.getD, NameMap.get?_insert]
      split
      · rfl
      · exact h.outputs.journal_eq store hstore

theorem Isolates.step_buffer (place : String) (command : BufferCommand) :
    (alone.step (.buffer place command)).2 = (session.step (.buffer place command)).2 ∧
      homes.Agree key (session.step (.buffer place command)).1.outputs
        (alone.step (.buffer place command)).1.outputs := by
  cases command with
  | write octets => exact ⟨rfl, h.outputs.append (.buffer place) _⟩
  | clear =>
      refine ⟨rfl, h.outputs.journal_eq, h.outputs.tally_eq, ?_, h.outputs.events_eq,
        h.outputs.standardOutput_eq, h.outputs.standardError_eq, h.outputs.aborted_iff⟩
      intro store hstore
      have hfirst := session.outputs.stream_clear place (.buffer store)
      have hsecond := alone.outputs.stream_clear place (.buffer store)
      refine hsecond.trans (Eq.trans ?_ hfirst.symm)
      congr 1
      exact h.outputs.buffer_eq store hstore

theorem Isolates.step_make {place : String} (hplace : homes.handler place = key)
    (threshold : Level) (destination : Destination) :
    let command := Command.handler place (.make threshold destination)
    (alone.step command).2 = (session.step command).2 ∧
      homes.Agree key (session.step command).1.outputs (alone.step command).1.outputs := by
  have hcontains : alone.handlers.contains place = session.handlers.contains place := by
    rw [NameMap.contains, NameMap.contains, h.handler_eq place hplace]
  simp only [step, stepHandler, hcontains]
  split
  · exact ⟨rfl, h.outputs⟩
  · refine ⟨rfl, ?_⟩
    cases destination with
    | stream sink layout fault =>
        cases sink with
        | buffer buffer => exact h.outputs.append (.buffer buffer) []
        | standardOutput => exact h.outputs
        | standardError => exact h.outputs
    | _ => exact h.outputs

theorem Isolates.step {command : Command} (hrespects : homes.Respects command)
    (haddressed : session.addressed? homes command = some key) :
    (alone.step command).2 = (session.step command).2 ∧
      Isolates homes key (session.step command).1 (alone.step command).1 := by
  have hsees := h.sees hrespects haddressed
  have hquiet : command.touchesOutputs = false → (∀ asked, command ≠ .classes asked) →
      (alone.step command).2 = (session.step command).2 ∧
        homes.Agree key (session.step command).1.outputs (alone.step command).1.outputs := by
    intro htouches hclasses
    refine ⟨hsees.answer_eq htouches hclasses, ?_⟩
    rw [(session.holdsAfter_step command).outputs_eq htouches,
      (alone.holdsAfter_step command).outputs_eq htouches]
    exact h.outputs
  have hboth : (alone.step command).2 = (session.step command).2 ∧
      homes.Agree key (session.step command).1.outputs (alone.step command).1.outputs := by
    cases command with
    | handler place command =>
        have hplace : homes.handler place = key := Option.some.inj haddressed
        cases command with
        | make threshold destination => exact h.step_make hplace threshold destination
        | drain => exact h.step_drain hplace
    | buffer place command => exact h.step_buffer place command
    | target target command =>
        cases command with
        | log submission message thread =>
            refine hsees.step_log (fun record _ _ hagree => hagree.lastResort record) h.moment_eq
              h.outputs ?_
            intro place hplace id handler hmem
            have hkey : place = key :=
              Option.some.inj ((addressed?_of_place? hplace).symm.trans haddressed)
            exact (hkey ▸ h.housed.admits place id handler hmem).pairs
        | _ => exact hquiet rfl fun _ heq => by cases heq
    | classes asked => cases haddressed
    | _ => exact hquiet rfl fun _ heq => by cases heq
  exact ⟨hboth.1, h.step_of_outputs hrespects haddressed hboth.2⟩

theorem Isolates.agree_step_elsewhere {command : Command}
    (haddressed : session.addressed? homes command ≠ some key) :
    homes.Agree key session.outputs (session.step command).1.outputs := by
  have hquiet : command.touchesOutputs = false →
      homes.Agree key session.outputs (session.step command).1.outputs := by
    intro htouches
    rw [(session.holdsAfter_step command).outputs_eq htouches]
    exact Homes.agree_refl _
  cases command with
  | handler place command =>
      have hplace : homes.handler place ≠ key := fun heq => haddressed (congrArg some heq)
      cases command with
      | make threshold destination =>
          rcases session.outputs_make place threshold destination with
            houtputs | ⟨buffer, houtputs⟩
          · rw [houtputs]
            exact Homes.agree_refl _
          · rw [houtputs]
            exact Homes.agree_append_nil _ _
      | drain =>
          cases hkept : (session.handlers.get? place).bind Handler.journal? with
          | none =>
              rw [step_drain_of_none hkept]
              exact Homes.agree_refl _
          | some journal =>
              rw [step_drain_of_some hkept]
              obtain ⟨handler, hheld, hjournal⟩ := Option.bind_eq_some_iff.mp hkept
              have hhome := h.housed.home_of_journal? hheld hjournal
              exact Homes.agree_setJournal (by rw [hhome]; exact hplace) _ []
  | buffer place command =>
      have hplace : homes.buffer place ≠ key := fun heq => haddressed (congrArg some heq)
      cases command with
      | write octets =>
          exact Homes.agree_setBuffer hplace session.outputs _
      | clear => exact Homes.agree_setBuffer hplace session.outputs []
  | target target command =>
      cases command with
      | log submission message thread =>
          -- Beside itself, the session hands the record to the same handlers, none of them of the
          -- registry.
          have hself : Sees .none (.target target (.log submission message thread)) session
              session :=
            ⟨fun place _ => (Registry.exchange_none _).symm, fun _ _ => Option.map_id'.symm,
              fun _ _ => rfl, fun _ _ => rfl⟩
          let Related : Outputs → Outputs → Prop := fun outputs other =>
            other = outputs ∧ homes.Agree key session.outputs outputs
          have hlast : ∀ record outputs other, Related outputs other →
              (outputs.lastResort record).Matches Related (other.lastResort record) := by
            rintro record outputs other ⟨rfl, hagree⟩
            exact ⟨⟨rfl, hagree.trans (Homes.agree_lastResort _ _)⟩, rfl, rfl⟩
          have hpairs : ∀ place, session.place?
              (.target target (.log submission message thread)) = some place →
              ∀ id, ∀ handler ∈ (session.registry place).handlers id,
                handler.Pairs Related (HandlerChange.none.apply handler) := by
            rintro place hplace id handler hmem record outputs other ⟨rfl, hagree⟩
            have hne : place ≠ key := by
              rintro rfl
              exact haddressed (addressed?_of_place? hplace)
            have hadmits := h.housed.admits place id handler hmem
            exact ⟨⟨rfl, hagree.trans (Homes.agree_handle hadmits hne _ _)⟩, rfl, rfl⟩
          have hstep := hself.step_log hlast rfl ⟨rfl, Homes.agree_refl _⟩ hpairs
          exact hstep.2.2
      | _ => exact hquiet rfl
  | _ => exact hquiet rfl

theorem Isolates.step_elsewhere {command : Command} (hrespects : homes.Respects command)
    (haddressed : session.addressed? homes command ≠ some key) :
    Isolates homes key (session.step command).1 alone := by
  have hplace : session.place? command ≠ some key :=
    fun hplace => haddressed (addressed?_of_place? hplace)
  refine ⟨h.housed.step hrespects, ?_, ?_, ?_, ?_, ?_, ?_⟩
  · rw [h.moment_eq, (session.holdsAfter_step command).moment_eq]
  · rw [h.registry_eq, registry_step_of_place?_ne hplace]
  · intro place hhome
    rw [h.handler_eq place hhome, handlers_step]
    split
    · rfl
    · next made handler hmade =>
        have hne : place ≠ made := by
          rintro rfl
          unfold made? at hmade
          split at hmade
          · split at hmade
            · cases hmade
            · obtain ⟨rfl, -⟩ := Prod.mk.inj (Option.some.inj hmade)
              exact haddressed (congrArg some hhome)
          · cases hmade
        rw [NameMap.get?_insert, if_neg hne]
  · intro place object hobject hregistry
    rw [get?_objects_step] at hobject
    split at hobject
    · exact h.object_eq place object hobject hregistry
    · next put held hput =>
        split at hobject
        · obtain rfl := Option.some.inj hobject
          rw [← hregistry] at hplace
          exact absurd (place?_of_placed? hput) hplace
        · exact h.object_eq place object hobject hregistry
  · intro place holding hholding hregistry
    rw [get?_holdings_step] at hholding
    split at hholding
    · exact h.holding_eq place holding hholding hregistry
    · next put held hput =>
        split at hholding
        · obtain rfl := Option.some.inj hholding
          rw [← hregistry] at hplace
          exact absurd (place?_of_held? hput) hplace
        · exact h.holding_eq place holding hholding hregistry
  · exact (h.agree_step_elsewhere haddressed).symm.trans h.outputs

theorem Isolates.run {commands : List Command}
    (hrespects : ∀ command ∈ commands, homes.Respects command) :
    let kept := session.stepsOf homes key commands
    (alone.run (kept.map Prod.fst)).2 = kept.map Prod.snd ∧
      Isolates homes key (session.run commands).1 (alone.run (kept.map Prod.fst)).1 := by
  induction commands generalizing session alone with
  | nil => exact ⟨rfl, h⟩
  | cons command rest ih =>
      obtain ⟨hfirst, hrest⟩ := List.forall_mem_cons.mp hrespects
      simp only [stepsOf, run_cons_fst]
      by_cases haddressed : session.addressed? homes command = some key
      · obtain ⟨hanswer, hnext⟩ := h.step hfirst haddressed
        obtain ⟨hanswers, hlast⟩ := ih hnext hrest
        rw [if_pos haddressed, List.map_cons, List.map_cons, run_cons_snd, run_cons_fst, hanswer,
          hanswers]
        exact ⟨rfl, hlast⟩
      · rw [if_neg haddressed]
        exact ih (h.step_elsewhere hfirst haddressed) hrest

end

/-- Run commands over any number of registries, none of which shares a handler, or what its handlers
write to, with another one, and run those alone that are addressed to one registry, with whatever
classes logged before. They are answered as in company, and the registry, its objects, its outlets
and what its handlers have kept and written come to the same. -/
theorem registries_are_isolated (moment : Moment) (classes others : NameMap Unit) (homes : Homes)
    (key : String) {commands : List Command}
    (hrespects : ∀ command ∈ commands, homes.Respects command) :
    let start : Session := { moment, loggedClasses := classes }
    let kept := start.stepsOf homes key commands
    let company := (start.run commands).1
    let alone := run { moment, loggedClasses := others } (kept.map Prod.fst)
    alone.2 = kept.map Prod.snd ∧
      alone.1.registry key = company.registry key ∧
      (∀ place object, company.objects.get? place = some object → object.registry = key →
        alone.1.objects.get? place = some object) ∧
      (∀ place holding, company.holdings.get? place = some holding → holding.registry = key →
        alone.1.holdings.get? place = some holding) ∧
      homes.Agree key company.outputs alone.1.outputs := by
  have hstart : Isolates homes key { moment, loggedClasses := classes }
      { moment, loggedClasses := others } := by
    refine ⟨housed_fresh homes moment classes, rfl, rfl, fun _ _ => rfl, ?_, ?_,
      Homes.agree_refl _⟩
    · rintro place object ⟨⟩
    · rintro place holding ⟨⟩
  obtain ⟨hanswers, hisolates⟩ := hstart.run hrespects
  exact ⟨hanswers, hisolates.registry_eq, hisolates.object_eq, hisolates.holding_eq,
    hisolates.outputs⟩

/-- Information goes out in one registry, whose root has been told so, and stays away in another one
with loggers of the same names. -/
theorem registry_alone_hears_errors_only :
    let homes : Homes :=
      { handler := fun place => if place = "here" then "main" else "other"
        journal := fun place => if place = "here" then "main" else "other"
        tally := fun _ => "main"
        buffer := fun _ => "main" }
    let here : Target := .logger { registry := "main", name := "app" }
    let there : Target := .logger { registry := "other", name := "app" }
    let commands : List Command :=
      [.handler "here" (.make .notset (.journal "here")),
        .handler "there" (.make .notset (.journal "there")),
        .logger { registry := "main", name := "" } (.attach "here"),
        .logger { registry := "other", name := "" } (.attach "there"),
        .logger { registry := "other", name := "" } (.setLevel .debug),
        checkedCall there .info (.text "told there") none,
        checkedCall here .info (.text "untold") none,
        checkedCall here .error (.text "told") none,
        .handler "here" .drain]
    let told : Captured :=
      { level := .error, logger := "app", message := "told", thread := none, error := none }
    let start : Session := { moment := { instant := { seconds := 0 } } }
    let kept := start.stepsOf homes "main" commands
    let alone := start.run (kept.map Prod.fst)
    (∀ command ∈ commands, homes.Respects command) ∧
      alone.2 = kept.map Prod.snd ∧
      kept.map Prod.snd =
        [.ok (.level .notset), .ok (.attachment true [.named "here"]), .ok (.logged 0 false),
          .ok (.logged 1 false),
          .ok (.drained false [told])] := by
  have hkept : (stepsOf
      { handler := fun place => if place = "here" then "main" else "other"
        journal := fun place => if place = "here" then "main" else "other"
        tally := fun _ => "main"
        buffer := fun _ => "main" } "main" { moment := { instant := { seconds := 0 } } }
      [.handler "here" (.make .notset (.journal "here")),
        .handler "there" (.make .notset (.journal "there")),
        .logger { registry := "main", name := "" } (.attach "here"),
        .logger { registry := "other", name := "" } (.attach "there"),
        .logger { registry := "other", name := "" } (.setLevel .debug),
        checkedCall (.logger { registry := "other", name := "app" }) .info (.text "told there")
          none,
        checkedCall (.logger { registry := "main", name := "app" }) .info (.text "untold") none,
        checkedCall (.logger { registry := "main", name := "app" }) .error (.text "told") none,
        .handler "here" .drain]).map Prod.snd =
      [.ok (.level .notset), .ok (.attachment true [.named "here"]), .ok (.logged 0 false),
        .ok (.logged 1 false),
        .ok (.drained false
          [{ level := .error, logger := "app", message := "told", thread := none,
             error := none }])] := by
    cbv
  intro homes here there commands told start kept alone
  have hrespects : ∀ command ∈ commands, homes.Respects command := by
    simp [commands, homes, here, there, checkedCall, Homes.Respects, Homes.Keeps]
  exact ⟨hrespects, (registries_are_isolated _ ∅ ∅ homes "main" hrespects).1, hkept⟩

end Session

end LogTree
