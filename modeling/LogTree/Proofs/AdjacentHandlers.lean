import LogTree.Proofs.DispatchHistory

namespace LogTree

/-- Wherever one of two handlers stands on a list, the other one stands next to it. -/
inductive SideBySide (first second : Handler) : List Handler → Prop
  | nil : SideBySide first second []
  | pair {rest : List Handler} : SideBySide first second rest →
      SideBySide first second (first :: second :: rest)
  | swapped {rest : List Handler} : SideBySide first second rest →
      SideBySide first second (second :: first :: rest)
  | other {handler : Handler} {rest : List Handler} : handler ≠ first → handler ≠ second →
      SideBySide first second rest → SideBySide first second (handler :: rest)

namespace SideBySide

section

variable {first second : Handler} {handlers : List Handler}
  (h : SideBySide first second handlers)

include h

theorem symm : SideBySide second first handlers := by
  induction h with
  | nil => exact .nil
  | pair _ ih => exact .swapped ih
  | swapped _ ih => exact .pair ih
  | other hfirst hsecond _ ih => exact .other hsecond hfirst ih

theorem append {later : List Handler} (hlater : SideBySide first second later) :
    SideBySide first second (handlers ++ later) := by
  induction h with
  | nil => exact hlater
  | pair _ ih => exact .pair ih
  | swapped _ ih => exact .swapped ih
  | other hfirst hsecond _ ih => exact .other hfirst hsecond ih

theorem mem_iff : first ∈ handlers ↔ second ∈ handlers := by
  induction h with
  | nil => exact iff_of_false List.not_mem_nil List.not_mem_nil
  | pair _ _ => exact iff_of_true (by simp) (by simp)
  | swapped _ _ => exact iff_of_true (by simp) (by simp)
  | other hfirst hsecond _ ih =>
      rw [List.mem_cons, List.mem_cons, ih, or_iff_right hfirst.symm, or_iff_right hsecond.symm]

theorem filter {keep : Handler → Bool} (hfirst : keep first = true)
    (hsecond : keep second = true) : SideBySide first second (handlers.filter keep) := by
  induction h with
  | nil => exact .nil
  | pair _ ih =>
      rw [List.filter_cons_of_pos hfirst, List.filter_cons_of_pos hsecond]
      exact .pair ih
  | swapped _ ih =>
      rw [List.filter_cons_of_pos hsecond, List.filter_cons_of_pos hfirst]
      exact .swapped ih
  | @other handler rest hne hother _ ih =>
      rw [List.filter_cons]
      split
      · exact .other hne hother ih
      · exact ih

theorem erase_erase (hne : first ≠ second) :
    SideBySide first second ((handlers.erase first).erase second) := by
  induction h with
  | nil => exact .nil
  | pair hrest _ =>
      rw [List.erase_cons_head, List.erase_cons_head]
      exact hrest
  | swapped hrest _ =>
      rw [List.erase_cons_tail (by simpa using hne.symm), List.erase_cons_head,
        List.erase_cons_head]
      exact hrest
  | other hfirst hsecond _ ih =>
      rw [List.erase_cons_tail (by simpa using hfirst),
        List.erase_cons_tail (by simpa using hsecond)]
      exact .other hfirst hsecond ih

theorem attach_attach (hne : first ≠ second) :
    let one := if first ∈ handlers then handlers else handlers ++ [first]
    SideBySide first second (if second ∈ one then one else one ++ [second]) := by
  intro one
  by_cases hfirst : first ∈ handlers
  · have hone : one = handlers := if_pos hfirst
    rw [hone, if_pos (h.mem_iff.mp hfirst)]
    exact h
  · have hone : one = handlers ++ [first] := if_neg hfirst
    have hsecond : second ∉ handlers ++ [first] := by
      rw [List.mem_append, List.mem_singleton, not_or]
      exact ⟨fun hmem => hfirst (h.mem_iff.mpr hmem), hne.symm⟩
    rw [hone, if_neg hsecond, List.append_assoc]
    exact h.append (.pair .nil)

end

theorem flatMap {α : Type} {first second : Handler} {handlers : α → List Handler} (places : List α)
    (h : ∀ place, SideBySide first second (handlers place)) :
    SideBySide first second (places.flatMap handlers) := by
  induction places with
  | nil => exact .nil
  | cons place rest ih =>
      rw [List.flatMap_cons]
      exact (h place).append ih

theorem apply {first second : Handler} {adjustment : Adjustment} {settings : Settings}
    (h : SideBySide first second settings.handlers)
    (hoffered : ∀ handler, adjustment.offered? = some handler →
      handler.id ≠ first.id ∧ handler.id ≠ second.id)
    (hdetached : ∀ id, adjustment = .detach id → id ≠ first.id ∧ id ≠ second.id) :
    SideBySide first second (adjustment.apply settings).handlers := by
  have hsingle : ∀ handler, adjustment.offered? = some handler →
      SideBySide first second [handler] := by
    intro handler hhandler
    obtain ⟨hfirst, hsecond⟩ := hoffered handler hhandler
    exact .other (fun heq => hfirst (congrArg Handler.id heq))
      (fun heq => hsecond (congrArg Handler.id heq)) .nil
  cases adjustment with
  | attach handler =>
      rw [Adjustment.apply, Settings.attach]
      split
      · exact h
      · exact h.append (hsingle handler rfl)
  | detach id =>
      obtain ⟨hfirst, hsecond⟩ := hdetached id rfl
      exact h.filter (decide_eq_true hfirst.symm) (decide_eq_true hsecond.symm)
  | setDefaultLevel =>
      rw [Adjustment.apply]
      split <;> exact h
  | offer offered =>
      cases offered with
      | none => exact h
      | some handler =>
          rw [Adjustment.apply]
          split
          · exact hsingle handler rfl
          · exact h
  | _ => exact h

end SideBySide

namespace Session

theorem handler_of_detach {session : Session} {command : Command} {place name : String}
    {generations : Nat} {id : HandlerId}
    (h : .adjust name generations (.detach id) ∈ session.operations place command) :
    ∃ key handler, command.handler? = some key ∧ session.handlers.get? key = some handler ∧
      handler.id = id := by
  rcases of_mem_operations h with
    ⟨inner, -, hinner⟩ | ⟨address, inner, rfl, -, heq⟩ | ⟨name, generations, heq⟩ |
      ⟨build, -, heq⟩
  · rcases RegistryCommand.of_mem_operations hinner with
      ⟨config, -, hmem⟩ | ⟨name, -, heq⟩ | ⟨level, -, heq⟩ | ⟨name, heq⟩
    · rcases Registry.mem_configuring_iff.mp hmem with
        ⟨level, -, heq⟩ | ⟨name, level, -, heq⟩ | ⟨level, -, heq⟩ <;> cases heq
    all_goals cases heq
  · have hdetach := (Registry.Operation.adjust.inj heq).2.2
    cases inner with
    | detach key =>
        rw [LoggerCommand.adjustment] at hdetach
        split at hdetach
        · cases hdetach
        · next handler hhandler =>
            exact ⟨key, handler, rfl, hhandler, (Adjustment.detach.inj hdetach).symm⟩
    | attach key | offer key fails =>
        rw [LoggerCommand.adjustment] at hdetach
        split at hdetach <;> cases hdetach
    | _ => cases hdetach
  · cases heq
  · rw [Registry.building] at heq
    split at heq <;> cases heq

/-- On all loggers two handlers stand side by side where one of them stands. -/
def StandTogether (session : Session) (first second : Handler) : Prop :=
  ∀ key id, SideBySide first second ((session.registry key).handlers id)

theorem standTogether_fresh (moment : Moment) (first second : Handler) :
    StandTogether { moment } first second := by
  intro key id
  rw [registry_fresh]
  cases id <;> exact .nil

theorem StandTogether.symm {session : Session} {first second : Handler}
    (h : session.StandTogether first second) : session.StandTogether second first :=
  fun key id => (h key id).symm

theorem StandTogether.of_keeps {session next : Session} {first second : Handler}
    (h : session.StandTogether first second) (hkeeps : session.KeepsHandlers next) :
    next.StandTogether first second := by
  intro key id
  rw [hkeeps]
  exact h key id

theorem StandTogether.of_sets {session next : Session} {first second : Handler}
    (h : session.StandTogether first second) {key : String} {id : LoggerId}
    {handlers : List Handler} (hsets : session.SetsHandlers next key id handlers)
    (hhandlers : SideBySide first second handlers) : next.StandTogether first second := by
  intro other place
  rw [hsets]
  split
  · exact hhandlers
  · exact h other place

theorem StandTogether.step_apart {session : Session} {first second : Handler}
    (h : session.StandTogether first second) (hnames : session.NamesHandlers)
    {firstKey secondKey : String} (hfirst : first.id = .named firstKey)
    (hsecond : second.id = .named secondKey) {command : Command}
    (hapart : command.handler? ≠ some firstKey ∧ command.handler? ≠ some secondKey) :
    (session.step command).1.StandTogether first second := by
  have hnamed : ∀ key handler, command.handler? = some key →
      session.handlers.get? key = some handler →
      handler.id ≠ first.id ∧ handler.id ≠ second.id := by
    intro key handler hkey hhandler
    rw [hnames key handler hhandler, hfirst, hsecond]
    constructor
    · rintro ⟨⟩
      exact hapart.1 hkey
    · rintro ⟨⟩
      exact hapart.2 hkey
  intro place id
  rw [registry_step]
  refine Registry.settings_performAll_induction
    (motive := fun settings => SideBySide first second settings.handlers) ?_ (h place id)
  intro name generations adjustment hoperation settings hsettings
  refine hsettings.apply ?_ ?_
  · intro handler hoffered
    rcases handler_of_offered? hoperation hoffered with rfl | ⟨key, hkey, hhandler⟩
    · rw [hfirst, hsecond]
      constructor <;> rintro ⟨⟩
    · exact hnamed key handler hkey hhandler
  · rintro id rfl
    obtain ⟨key, handler, hkey, hhandler, rfl⟩ := handler_of_detach hoperation
    exact hnamed key handler hkey hhandler

theorem locate_step_logger (session : Session) (address : Address) (command : LoggerCommand) :
    ((session.step (.logger address command)).1.locate address).2 =
      (session.locate address).2 := by
  rcases hlocate : session.locate address with ⟨located, _ | id⟩
  · have hstep : (session.step (.logger address command)).1 = located := by
      simp only [step, hlocate, refuse]
    have hlookup := (session.registry address.registry).lookup?_obtain_self address.name
    rw [hstep]
    obtain ⟨rfl, hnone⟩ := Prod.mk.inj hlocate
    simp only [locate, registry_setRegistry_self, Registry.obtain_eq_of_lookup? hlookup]
    exact hnone
  · obtain ⟨next, hnext⟩ := exists_locate_step_logger hlocate command
    rw [hnext]

theorem step_refused_of_locate_none {session : Session} {address : Address}
    (h : (session.locate address).2 = none) (command : LoggerCommand) :
    (session.step (.logger address command)).2 = .error .noParent := by
  rcases hlocate : session.locate address with ⟨located, found⟩
  rw [hlocate] at h
  obtain rfl := h
  simp only [step, hlocate, refuse]

theorem SetsHandlers.trans {session middle next : Session} {key : String} {id : LoggerId}
    {handlers later : List Handler} (h : session.SetsHandlers middle key id handlers)
    (hnext : middle.SetsHandlers next key id later) : session.SetsHandlers next key id later := by
  intro other place
  rw [hnext, h]
  split <;> rfl

/-- Two commands that attach two handlers to a logger, or detach them from it. -/
inductive MovesBoth (firstKey secondKey : String) : Command → Command → Prop
  | attach (address : Address) : MovesBoth firstKey secondKey
      (.logger address (.attach firstKey)) (.logger address (.attach secondKey))
  | detach (address : Address) : MovesBoth firstKey secondKey
      (.logger address (.detach firstKey)) (.logger address (.detach secondKey))

theorem StandTogether.step_logger_of_locate_none {session : Session} {first second : Handler}
    (h : session.StandTogether first second) {address : Address}
    (hnone : (session.locate address).2 = none) (one two : LoggerCommand) :
    ((session.step (.logger address one)).1.step (.logger address two)).1.StandTogether
      first second := by
  have hstill := (session.locate_step_logger address one).trans hnone
  exact (h.of_keeps (keepsHandlers_of_refused (step_refused_of_locate_none hnone one))).of_keeps
    (keepsHandlers_of_refused (step_refused_of_locate_none hstill two))

theorem StandTogether.step_movesBoth {session : Session} {first second : Handler}
    (h : session.StandTogether first second) (hne : first ≠ second) {firstKey secondKey : String}
    (hfirst : session.handlers.get? firstKey = some first)
    (hsecond : session.handlers.get? secondKey = some second) {one two : Command}
    (hmoves : MovesBoth firstKey secondKey one two) (hlists : session.ListsHandlers)
    (hnext : (session.step one).1.ListsHandlers) :
    ((session.step one).1.step two).1.StandTogether first second := by
  have hstill := get?_handlers_step hsecond one
  cases hmoves with
  | attach address =>
      rcases hlocate : session.locate address with ⟨located, _ | id⟩
      · exact h.step_logger_of_locate_none (by rw [hlocate]) _ _
      · obtain ⟨again, hagain⟩ := exists_locate_step_logger hlocate (.attach firstKey)
        have hone := (hlists.step_attach hlocate hfirst).1
        have htwo := (hnext.step_attach hagain hstill).1
        rw [hone.self] at htwo
        exact h.of_sets (hone.trans htwo) ((h _ id).attach_attach hne)
  | detach address =>
      rcases hlocate : session.locate address with ⟨located, _ | id⟩
      · exact h.step_logger_of_locate_none (by rw [hlocate]) _ _
      · obtain ⟨again, hagain⟩ := exists_locate_step_logger hlocate (.detach firstKey)
        have hone := (hlists.step_detach hlocate hfirst).1
        have htwo := (hnext.step_detach hagain hstill).1
        rw [hone.self] at htwo
        exact h.of_sets (hone.trans htwo) ((h _ id).erase_erase hne)

/-- Commands that attach two handlers, and detach them, one right after the other only. -/
inductive MovedTogether (firstKey secondKey : String) : List Command → Prop
  | nil : MovedTogether firstKey secondKey []
  | both {one two : Command} {rest : List Command} :
      MovesBoth firstKey secondKey one two ∨ MovesBoth secondKey firstKey one two →
      MovedTogether firstKey secondKey rest → MovedTogether firstKey secondKey (one :: two :: rest)
  | apart {command : Command} {rest : List Command} :
      command.handler? ≠ some firstKey ∧ command.handler? ≠ some secondKey →
      MovedTogether firstKey secondKey rest → MovedTogether firstKey secondKey (command :: rest)

/-- Two handlers stand side by side whenever handlers are handed a record. -/
def DispatchesTogether (first second : Handler) (session : Session) : List Command → Prop
  | [] => True
  | command :: rest =>
      (session.dispatches command ≠ [] → session.StandTogether first second) ∧
        (session.step command).1.DispatchesTogether first second rest

theorem DispatchesTogether.append {session : Session} {first second : Handler}
    {before after : List Command} (hbefore : session.DispatchesTogether first second before)
    (hafter : (session.run before).1.DispatchesTogether first second after) :
    session.DispatchesTogether first second (before ++ after) := by
  induction before generalizing session with
  | nil => exact hafter
  | cons command rest ih => exact ⟨hbefore.1, ih hbefore.2 hafter⟩

theorem StandTogether.run_apart {session : Session} {first second : Handler}
    (h : session.StandTogether first second) (hnames : session.NamesHandlers)
    {firstKey secondKey : String} (hfirst : first.id = .named firstKey)
    (hsecond : second.id = .named secondKey) {commands : List Command}
    (hapart : ∀ command ∈ commands,
      command.handler? ≠ some firstKey ∧ command.handler? ≠ some secondKey) :
    session.DispatchesTogether first second commands ∧
      (session.run commands).1.StandTogether first second := by
  induction commands generalizing session with
  | nil => exact ⟨trivial, h⟩
  | cons command rest ih =>
      obtain ⟨hcommand, hrest⟩ := List.forall_mem_cons.mp hapart
      obtain ⟨hlater, hlast⟩ :=
        ih (h.step_apart hnames hfirst hsecond hcommand) (hnames.step command) hrest
      exact ⟨⟨fun _ => h, hlater⟩, hlast⟩

section

variable {moment : Moment} {firstKey secondKey : String} {first second : Handler}
  {before after : List Command}
  (hfirst : (run { moment } before).1.handlers.get? firstKey = some first)
  (hsecond : (run { moment } before).1.handlers.get? secondKey = some second)
  (hne : first ≠ second) (hmoved : MovedTogether firstKey secondKey after)

include hfirst hsecond hne hmoved

theorem StandTogether.dispatchesTogether
    (h : (run { moment } before).1.StandTogether first second) :
    (run { moment } before).1.DispatchesTogether first second after := by
  have hkept : ∀ {before : List Command} {key : String} {handler : Handler} (command : Command),
      (run { moment } before).1.handlers.get? key = some handler →
      (run { moment } (before ++ [command])).1.handlers.get? key = some handler := by
    intro before key handler command hhandler
    rw [run_append_singleton_fst]
    exact get?_handlers_step hhandler command
  induction hmoved generalizing before with
  | nil => trivial
  | @both one two rest hmoves _ ih =>
      have hquiet : ∀ session : Session,
          session.dispatches one = [] ∧ session.dispatches two = [] := by
        intro session
        rcases hmoves with hmoves | hmoves <;> cases hmoves <;> exact ⟨rfl, rfl⟩
      have hlists := listsHandlers_run moment before
      have hnext := listsHandlers_run moment (before ++ [one])
      rw [run_append_singleton_fst] at hnext
      have htogether :
          (run { moment } (before ++ [one] ++ [two])).1.StandTogether first second := by
        rw [run_append_singleton_fst, run_append_singleton_fst]
        rcases hmoves with hmoves | hmoves
        · exact h.step_movesBoth hne hfirst hsecond hmoves hlists hnext
        · exact (h.symm.step_movesBoth hne.symm hsecond hfirst hmoves hlists hnext).symm
      have hlater := ih (hkept two (hkept one hfirst)) (hkept two (hkept one hsecond)) htogether
      rw [run_append_singleton_fst, run_append_singleton_fst] at hlater
      exact ⟨fun hsome => absurd (hquiet _).1 hsome, fun hsome => absurd (hquiet _).2 hsome, hlater⟩
  | @apart command rest hapart _ ih =>
      have hnames := (listsHandlers_run moment before).names
      have htogether : (run { moment } (before ++ [command])).1.StandTogether first second := by
        rw [run_append_singleton_fst]
        exact h.step_apart hnames (hnames _ _ hfirst) (hnames _ _ hsecond) hapart
      have hlater := ih (hkept command hfirst) (hkept command hsecond) htogether
      rw [run_append_singleton_fst] at hlater
      exact ⟨fun _ => h, hlater⟩

/-- Handlers that nothing names before they are moved together stand together. -/
theorem dispatchesTogether_of_movedTogether
    (hbefore : ∀ command ∈ before,
      command.handler? ≠ some firstKey ∧ command.handler? ≠ some secondKey) :
    DispatchesTogether first second { moment } (before ++ after) := by
  have hnames := (listsHandlers_run moment before).names
  obtain ⟨hapart, htogether⟩ := (standTogether_fresh moment first second).run_apart
    (namesHandlers_fresh moment) (hnames _ _ hfirst) (hnames _ _ hsecond) hbefore
  exact hapart.append (htogether.dispatchesTogether hfirst hsecond hne hmoved)

end

end Session

end LogTree
