import LogTree.Proofs.DispatchHistory

namespace LogTree

/-- The handler writes to the stream, and its writer takes all octets in the end and aborts no
calls. -/
def Handler.WritesTo (handler : Handler) (sink : Sink) : Prop :=
  ∃ layout fault, handler.destination = .stream sink layout fault ∧
    fault ≠ some .refusesWrites ∧ fault ≠ some .abortsOnce

/-- What a handler writes of a record. A message that cannot be rendered aborts the call before
there is anything to write. -/
def Handler.written (handler : Handler) (record : Record) : List UInt8 :=
  match handler.destination, record.message with
  | .stream _ layout _, .text text => Text.Utf8.encode (layout.render record text)
  | _, _ => []

/-- The octets that a handler has brought into a stream. -/
def Outputs.broughtBy (outputs : Outputs) (id : HandlerId) (sink : Sink) : List UInt8 :=
  (outputs.stream sink).contribution (.handler id)

namespace Outputs

theorem broughtBy_append (outputs : Outputs) (id : HandlerId) (sink other : Sink)
    (pieces : Stream) :
    (outputs.append other pieces).broughtBy id sink =
      outputs.broughtBy id sink ++
        if sink = other then pieces.contribution (.handler id) else [] := by
  rw [broughtBy, stream_append, Stream.contribution_append, broughtBy]
  congr 1
  split <;> rfl

theorem broughtBy_append_of_ne (outputs : Outputs) {id : HandlerId} {pieces : Stream}
    (h : ∀ piece ∈ pieces, piece.writer ≠ .handler id) (sink other : Sink) :
    (outputs.append other pieces).broughtBy id sink = outputs.broughtBy id sink := by
  have hnone : pieces.contribution (.handler id) = [] := by
    rw [Stream.contribution, List.filter_eq_nil_iff.mpr fun piece hpiece => by
      simpa using h piece hpiece]
    rfl
  rw [broughtBy_append, hnone, ite_self, List.append_nil]

theorem broughtBy_handle_of_ne {handler : Handler} {id : HandlerId} (h : handler.id ≠ id)
    (outputs : Outputs) (record : Record) (sink : Sink) :
    (outputs.handle handler record).outputs.broughtBy id sink = outputs.broughtBy id sink := by
  rcases haborted : (outputs.handle handler record).aborted with _ | _
  · rcases handle_cases haborted with ⟨key, -, heq⟩ | ⟨key, text, -, -, heq⟩ | ⟨text, -, -, heq⟩ |
      ⟨other, layout, fault, text, -, -, heq⟩
    · rw [heq]
      cases sink <;> rfl
    · rw [heq]
      cases sink <;> rfl
    · rw [heq]
      cases sink <;> rfl
    · rw [heq]
      refine outputs.broughtBy_append_of_ne ?_ sink other
      intro piece hpiece hwriter
      rw [WriterFault.writer_of_mem_writeAll hpiece] at hwriter
      exact h (Writer.handler.inj hwriter)
  · rcases outputs_handle_of_aborted haborted with heq | heq
    · rw [heq]
    · rw [heq]
      cases sink <;> rfl

/-- Nothing of a text is lost on the way to the stream. -/
theorem broughtBy_handle {handler : Handler} {sink : Sink} (h : handler.WritesTo sink)
    (outputs : Outputs) (record : Record) :
    (outputs.handle handler record).outputs.broughtBy handler.id sink =
      outputs.broughtBy handler.id sink ++ handler.written record := by
  obtain ⟨layout, fault, hdestination, hrefuses, haborts⟩ := h
  rcases hmessage : record.message with text | _
  · have hhandled : (outputs.handle handler record).outputs = outputs.append sink
        (WriterFault.writeAll fault (.handler handler.id)
          (Text.Utf8.encode (layout.render record text))) := by
      simp only [handle, hdestination, rendering, hmessage, write]
      rw [if_neg fun habort => haborts habort.1]
    rw [hhandled, broughtBy_append, if_pos rfl, WriterFault.contribution_writeAll hrefuses,
      if_pos rfl, Handler.written, hdestination, hmessage]
  · simp [handle, hdestination, rendering, hmessage, Handler.written]

end Outputs

theorem gathers_broughtBy {handler : Handler} {sink : Sink} (h : handler.WritesTo sink) :
    Gathers (fun outputs => outputs.broughtBy handler.id sink)
      (fun other record => if other = handler then handler.written record else [])
      fun other => other.id = handler.id → other = handler where
  read_handle := by
    intro outputs other record hkind
    split
    · next heq =>
        rw [heq]
        exact Outputs.broughtBy_handle h outputs record
    · next hne =>
        rw [List.append_nil]
        exact Outputs.broughtBy_handle_of_ne (fun hid => hne (hkind hid)) outputs record sink
  read_lastResort := by
    intro outputs record
    rcases hmessage : record.message with text | _
    · simp only [Outputs.lastResort, Outputs.rendering, hmessage]
      refine outputs.broughtBy_append_of_ne ?_ sink _
      intro piece hpiece hwriter
      rw [List.mem_singleton.mp hpiece] at hwriter
      cases hwriter
    · simp only [Outputs.lastResort, Outputs.rendering, hmessage]

theorem Handler.flatMap_written_filter (handler : Handler) (dispatches : List Dispatch) :
    (dispatches.filter fun dispatch => dispatch.handler = handler).flatMap
        (fun dispatch => handler.written dispatch.record) =
      dispatches.flatMap fun dispatch =>
        if dispatch.handler = handler then handler.written dispatch.record else [] := by
  induction dispatches with
  | nil => rfl
  | cons dispatch rest ih =>
      rw [List.filter_cons, List.flatMap_cons, ← ih]
      by_cases h : dispatch.handler = handler <;> simp [h]

namespace Session

section

variable {handler : Handler} {sink : Sink} (h : handler.WritesTo sink)

include h

theorem broughtBy_step {session : Session}
    (honly : ∀ key id, ∀ other ∈ (session.registry key).handlers id,
      other.id = handler.id → other = handler)
    {command : Command}
    (hkept : ∀ buffer, command = .buffer buffer .clear → sink ≠ .buffer buffer) :
    (session.step command).1.outputs.broughtBy handler.id sink =
      session.outputs.broughtBy handler.id sink ++
        (session.dispatches command).flatMap fun dispatch =>
          if dispatch.handler = handler then handler.written dispatch.record else [] := by
  refine read_step (gathers_broughtBy h) honly fun hcall => ?_
  rcases outputs_step_cases hcall with heq | ⟨buffer, pieces, heq, howner⟩ |
    ⟨key, journal, -, heq⟩ | ⟨buffer, hclear, heq⟩
  · rw [heq]
  · rw [heq]
    refine session.outputs.broughtBy_append_of_ne ?_ sink _
    intro piece hpiece hwriter
    rw [howner piece hpiece] at hwriter
    cases hwriter
  · rw [heq]
    cases sink <;> rfl
  · rw [heq, Outputs.broughtBy, Outputs.stream_clear, if_neg (hkept buffer hclear)]
    rfl

theorem broughtBy_run {session : Session} {commands : List Command}
    (honly : ∀ before after, commands = before ++ after → ∀ key id,
      ∀ other ∈ ((session.run before).1.registry key).handlers id,
        other.id = handler.id → other = handler)
    (hkept : ∀ buffer, .buffer buffer .clear ∈ commands → sink ≠ .buffer buffer) :
    (session.run commands).1.outputs.broughtBy handler.id sink =
      session.outputs.broughtBy handler.id sink ++
        (session.runDispatches commands).flatMap fun dispatch =>
          if dispatch.handler = handler then handler.written dispatch.record else [] := by
  induction commands generalizing session with
  | nil => exact (List.append_nil _).symm
  | cons command rest ih =>
      have hfirst := @broughtBy_step handler sink h session (honly [] _ rfl) command
        fun buffer heq => hkept buffer (heq ▸ List.mem_cons_self)
      have hrest := @ih (session.step command).1
        (fun before after heq => honly (command :: before) after (by rw [heq]; rfl))
        fun buffer hmem => hkept buffer (List.mem_cons_of_mem _ hmem)
      rw [run_cons_fst, hrest, hfirst, runDispatches, List.flatMap_append, List.append_assoc]

end

/-- Whoever else writes to a stream and whatever fails there, a handler whose writer takes octets
has brought into it the whole renderings of the records that it was handed, one after another. -/
theorem writers_bring_whole_texts (moment : Moment) (commands : List Command) {key : String}
    {handler : Handler} {sink : Sink}
    (hhandler : (run { moment } commands).1.handlers.get? key = some handler)
    (h : handler.WritesTo sink)
    (hkept : ∀ buffer, .buffer buffer .clear ∈ commands → sink ≠ .buffer buffer) :
    ((run { moment } commands).1.outputs.stream sink).contribution (.handler handler.id) =
      ((runDispatches { moment } commands).filter fun dispatch =>
        dispatch.handler = handler).flatMap fun dispatch => handler.written dispatch.record := by
  have honly : ∀ before after, commands = before ++ after → ∀ place id,
      ∀ other ∈ ((run { moment } before).1.registry place).handlers id,
        other.id = handler.id → other = handler := by
    rintro before after rfl place id other hmem hid
    have hmade := isMade_run ((listsHandlers_run moment before).made place id other hmem) after
    rw [← run_append_fst] at hmade
    exact (listsHandlers_run moment (before ++ after)).eq_of_id_eq hhandler hmade hid
  have hrun := broughtBy_run h honly hkept
  have hnone : Outputs.broughtBy ({ moment } : Session).outputs handler.id sink = [] := by
    cases sink <;> rfl
  rw [hnone, List.nil_append] at hrun
  rw [Handler.flatMap_written_filter]
  exact hrun

end Session

end LogTree
