import Mathlib
import LogTree.Proofs.DispatchHistory
import LogTree.Proofs.LastResort
import LogTree.Text.Utf8.Decode

namespace LogTree

namespace Text.Utf8

theorem encode_append (first second : String) :
    encode (first ++ second) = encode first ++ encode second := by
  rw [encode, String.toList_append, List.flatMap_append, encode, encode]

theorem encode_join (texts : List String) : encode (String.join texts) = texts.flatMap encode := by
  induction texts with
  | nil => rfl
  | cons text rest ih => rw [String.join_cons, encode_append, ih, List.flatMap_cons]

end Text.Utf8

/-- A record as a line without a timestamp, with the error on lines of its own behind it. -/
def Record.line (record : Record) (mode : LineMode) (message : String) : String :=
  record.level.text ++ " " ++ record.logger ++ " " ++ message ++
    record.error.elim "" ("\n" ++ ·) ++ if mode = .withNewline then "\n" else ""

theorem Layout.render_of_not_timestamps {layout : Layout} (h : layout.timestamps = false)
    (record : Record) (message : String) :
    layout.render record message = record.line layout.lineMode message := by
  have hterminator : layout.lineMode.terminator =
      if layout.lineMode = .withNewline then "\n" else "" := by
    cases layout.lineMode <;> rfl
  rw [render, h, hterminator, Record.line, if_neg Bool.false_ne_true, String.empty_append]
  cases record.error <;> rfl

/-- What a handler writes to a buffer. A message that cannot be rendered is not written. -/
def Dispatch.line? (buffer : String) (dispatch : Dispatch) : Option String :=
  match dispatch.handler.destination, dispatch.record.message with
  | .stream (.buffer key) layout _, .text text =>
      if key = buffer then some (dispatch.record.line layout.lineMode text) else none
  | _, _ => none

/-- If the handler writes to the buffer, it writes no timestamps, and its writer neither refuses
octets nor aborts calls. -/
def Handler.IsPlainOn (buffer : String) (handler : Handler) : Prop :=
  ∀ layout fault, handler.destination = .stream (.buffer buffer) layout fault →
    layout.timestamps = false ∧ fault ≠ some .refusesWrites ∧ fault ≠ some .abortsOnce

inductive BufferEntry where
  | written (octets : List UInt8)
  | rendered (text : String)
  | cleared
deriving DecidableEq

namespace BufferEntry

def octets : BufferEntry → List UInt8
  | written octets => octets
  | rendered text => Text.Utf8.encode text
  | cleared => []

def apply (held : List UInt8) (entry : BufferEntry) : List UInt8 :=
  if entry = cleared then [] else held ++ entry.octets

theorem foldl_apply_rendered (held : List UInt8) (texts : List String) :
    (texts.map rendered).foldl apply held = held ++ texts.flatMap Text.Utf8.encode := by
  induction texts generalizing held with
  | nil => exact (List.append_nil held).symm
  | cons text rest ih =>
      have hfirst : apply held (rendered text) = held ++ Text.Utf8.encode text :=
        if_neg fun h => by cases h
      rw [List.map_cons, List.foldl_cons, ih, hfirst, List.append_assoc, List.flatMap_cons]

theorem foldl_apply (entries : List BufferEntry) :
    entries.foldl apply [] =
      (entries.rtakeWhile fun entry => entry ≠ cleared).flatMap octets := by
  induction entries using List.reverseRecOn with
  | nil => rfl
  | append_singleton entries entry ih =>
      rw [List.foldl_append, ih, List.foldl_cons, List.foldl_nil, apply, List.rtakeWhile_concat]
      by_cases h : entry = cleared
      · simp [h]
      · simp [h]

end BufferEntry

theorem WriterFault.octets_writeAll {fault : Option WriterFault} (h : fault ≠ some .refusesWrites)
    (writer : Writer) (octets : List UInt8) :
    (writeAll fault writer octets).octets = octets := by
  have hsigned : ∀ stream : Stream, stream.octets = stream.signed.map Prod.snd := by
    intro stream
    simp [Stream.octets, Stream.signed, List.map_flatMap, Function.comp_def]
  rw [hsigned, signed_writeAll h, List.map_map]
  exact List.map_id' _

def Outputs.octetsIn (outputs : Outputs) (buffer : String) : List UInt8 :=
  (outputs.buffer buffer).octets

theorem Outputs.octetsIn_append (outputs : Outputs) (sink : Sink) (pieces : Stream)
    (buffer : String) :
    (outputs.append sink pieces).octetsIn buffer =
      outputs.octetsIn buffer ++ if .buffer buffer = sink then pieces.octets else [] := by
  have hstream := outputs.stream_append sink (.buffer buffer) pieces
  change (outputs.append sink pieces).buffer buffer = _ at hstream
  rw [octetsIn, hstream, Stream.octets, List.flatMap_append, octetsIn]
  congr 1
  split <;> rfl

theorem Handler.IsPlainOn.line?_of_aborted {buffer : String} {handler : Handler}
    (h : handler.IsPlainOn buffer) {outputs : Outputs} {record : Record}
    (haborted : (outputs.handle handler record).aborted = true) :
    Dispatch.line? buffer { handler, record } = none := by
  unfold Dispatch.line?
  split
  · next key layout fault text hdestination hmessage =>
      refine if_neg ?_
      rintro rfl
      obtain ⟨-, -, hfault⟩ := h layout fault hdestination
      change record.message = .text text at hmessage
      change handler.destination = _ at hdestination
      simp only [Outputs.handle, hdestination, Outputs.rendering, hmessage,
        Outputs.write] at haborted
      rw [if_neg fun habort => hfault habort.1] at haborted
      cases haborted
  · rfl

theorem gathers_octetsIn (buffer : String) :
    Gathers (fun outputs => outputs.octetsIn buffer)
      (fun handler record => (Dispatch.line? buffer { handler, record }).elim []
        Text.Utf8.encode) (Handler.IsPlainOn buffer) where
  read_handle := by
    intro outputs handler record hplain
    rcases haborted : (outputs.handle handler record).aborted with _ | _
    · rcases Outputs.handle_cases haborted with ⟨key, hdestination, heq⟩ |
        ⟨key, text, hdestination, -, heq⟩ | ⟨text, hdestination, -, heq⟩ |
        ⟨sink, layout, fault, text, hdestination, hmessage, heq⟩
      · simp only [heq, Dispatch.line?, hdestination]
        exact (List.append_nil _).symm
      · simp only [heq, Dispatch.line?, hdestination]
        exact (List.append_nil _).symm
      · simp only [heq, Dispatch.line?, hdestination]
        exact (List.append_nil _).symm
      · simp only [heq, Outputs.octetsIn_append, Dispatch.line?, hdestination, hmessage]
        congr 1
        rcases sink with key | _ | _
        · rcases Decidable.em (key = buffer) with rfl | hne
          · obtain ⟨htimestamps, hrefuses, -⟩ := hplain layout fault hdestination
            simp only [if_true, Option.elim_some, WriterFault.octets_writeAll hrefuses,
              Layout.render_of_not_timestamps htimestamps]
          · have hsink : Sink.buffer buffer ≠ .buffer key :=
              fun h => hne (Sink.buffer.inj h).symm
            simp only [if_neg hne, if_neg hsink, Option.elim_none]
        · rfl
        · rfl
    · simp only [hplain.line?_of_aborted haborted, Option.elim_none, List.append_nil]
      rcases Outputs.outputs_handle_of_aborted haborted with heq | heq
      · rw [heq]
      · rw [heq]
        rfl
  read_lastResort := by
    intro outputs record
    simp only [Outputs.outputs_lastResort, Outputs.octetsIn_append]
    exact List.append_nil _

namespace Session

/-- What a command does to a buffer, by itself or by the records that it hands to handlers. -/
def bufferEntries (session : Session) (buffer : String) : Command → List BufferEntry
  | .buffer key (.write octets) => if key = buffer then [.written octets] else []
  | .buffer key .clear => if key = buffer then [.cleared] else []
  | command => ((session.dispatches command).filterMap (Dispatch.line? buffer)).map .rendered

def runBufferEntries (session : Session) (buffer : String) : List Command → List BufferEntry
  | [] => []
  | command :: rest =>
      session.bufferEntries buffer command ++ (session.step command).1.runBufferEntries buffer rest

theorem bufferEntries_of_not_touchesOutputs {session : Session} {buffer : String}
    {command : Command} (h : command.touchesOutputs = false) :
    session.bufferEntries buffer command = [] := by
  unfold bufferEntries
  split
  · cases h
  · cases h
  · rw [dispatches_of_not_touchesOutputs h, List.filterMap_nil, List.map_nil]

theorem octetsIn_step_log {session : Session} {buffer : String}
    (hplain : ∀ key id, ∀ handler ∈ (session.registry key).handlers id, handler.IsPlainOn buffer)
    (target : Target) (submission : Submission) (message : Message) (thread : Option String) :
    let command := Command.target target (.log submission message thread)
    (session.step command).1.outputs.octetsIn buffer =
      (session.bufferEntries buffer command).foldl BufferEntry.apply
        (session.outputs.octetsIn buffer) := by
  intro command
  have hlines : ∀ dispatches : List Dispatch,
      (dispatches.flatMap fun dispatch => (dispatch.line? buffer).elim [] Text.Utf8.encode) =
        (dispatches.filterMap (Dispatch.line? buffer)).flatMap Text.Utf8.encode := by
    intro dispatches
    rw [List.filterMap_eq_flatMap_toList, List.flatMap_assoc]
    apply List.flatMap_congr
    intro dispatch _
    cases dispatch.line? buffer <;> simp
  have hentries : session.bufferEntries buffer command =
      ((session.dispatches command).filterMap (Dispatch.line? buffer)).map .rendered := rfl
  rw [hentries, BufferEntry.foldl_apply_rendered, ← hlines]
  exact read_step_log (gathers_octetsIn buffer) hplain target submission message thread

theorem octetsIn_step_buffer (session : Session) (buffer key : String) (command : BufferCommand) :
    (session.step (.buffer key command)).1.outputs.octetsIn buffer =
      (session.bufferEntries buffer (.buffer key command)).foldl BufferEntry.apply
        (session.outputs.octetsIn buffer) := by
  cases command with
  | write octets =>
      have hstep : (session.step (.buffer key (.write octets))).1.outputs =
          session.outputs.append (.buffer key) [{ writer := .owner, octets }] := rfl
      rw [hstep, Outputs.octetsIn_append, bufferEntries]
      rcases Decidable.em (key = buffer) with rfl | hne
      · rw [if_pos rfl, if_pos rfl]
        simp [BufferEntry.apply, BufferEntry.octets, Stream.octets]
      · rw [if_neg fun h => hne (Sink.buffer.inj h).symm, if_neg hne, List.append_nil]
        rfl
  | clear =>
      have hstep : (session.step (.buffer key .clear)).1.outputs.octetsIn buffer =
          Stream.octets ((session.outputs.clear key).stream (.buffer buffer)) := rfl
      rw [hstep, Outputs.stream_clear, bufferEntries]
      rcases Decidable.em (key = buffer) with rfl | hne
      · rw [if_pos rfl, if_pos rfl]
        rfl
      · rw [if_neg fun h => hne (Sink.buffer.inj h).symm, if_neg hne]
        rfl

theorem octetsIn_step {session : Session} {buffer : String}
    (hplain : ∀ key id, ∀ handler ∈ (session.registry key).handlers id, handler.IsPlainOn buffer)
    (command : Command) :
    (session.step command).1.outputs.octetsIn buffer =
      (session.bufferEntries buffer command).foldl BufferEntry.apply
        (session.outputs.octetsIn buffer) := by
  have hquiet : command.touchesOutputs = false →
      (session.step command).1.outputs.octetsIn buffer =
        (session.bufferEntries buffer command).foldl BufferEntry.apply
          (session.outputs.octetsIn buffer) := by
    intro htouches
    rw [(session.holdsAfter_step command).outputs_eq htouches,
      bufferEntries_of_not_touchesOutputs htouches, List.foldl_nil]
  cases command with
  | target target command =>
      cases command with
      | log submission message thread =>
          exact octetsIn_step_log hplain target submission message thread
      | _ => exact hquiet rfl
  | buffer key command => exact session.octetsIn_step_buffer buffer key command
  | handler key command =>
      have hnone : session.bufferEntries buffer (.handler key command) = [] := rfl
      rw [hnone, List.foldl_nil]
      cases command with
      | make threshold destination =>
          rcases session.outputs_make key threshold destination with heq | ⟨place, heq⟩
          · rw [heq]
          · rw [heq, Outputs.octetsIn_append]
            split <;> exact List.append_nil _
      | drain =>
          simp only [step, stepHandler]
          split <;> rfl
  | _ => exact hquiet rfl

theorem octetsIn_run {session : Session} {buffer : String} {commands : List Command}
    (hplain : ∀ before after, commands = before ++ after → ∀ key id,
      ∀ handler ∈ ((session.run before).1.registry key).handlers id, handler.IsPlainOn buffer) :
    (session.run commands).1.outputs.octetsIn buffer =
      (session.runBufferEntries buffer commands).foldl BufferEntry.apply
        (session.outputs.octetsIn buffer) := by
  induction commands generalizing session with
  | nil => rfl
  | cons command rest ih =>
      have hrest := @ih (session.step command).1 fun before after heq =>
        hplain (command :: before) after (by rw [heq]; rfl)
      have hfirst := @octetsIn_step session buffer (hplain [] _ rfl) command
      rw [run_cons_fst, hrest, hfirst, runBufferEntries, List.foldl_append]

/-- Run some commands in which handlers write to a buffer without timestamps and with writers that
neither refuse octets nor abort calls; they may have any levels and line modes, and any of them may
be attached to several loggers. The octets in the buffer are those that its owner wrote and the
renderings of the records that were handed to the handlers, one after another, since the buffer was
last cleared. If only handlers have written since then, the contents are the texts, whatever
characters are in them. -/
theorem buffers_are_what_was_written (moment : Moment) (commands : List Command)
    (buffer : String)
    (hplain : ∀ key handler, (run { moment } commands).1.handlers.get? key = some handler →
      handler.IsPlainOn buffer) :
    let stream := (run { moment } commands).1.outputs.buffer buffer
    let recent := (runBufferEntries { moment } buffer commands).rtakeWhile fun entry =>
      entry ≠ .cleared
    stream.octets = recent.flatMap BufferEntry.octets ∧
      ∀ texts, recent = texts.map .rendered → stream.contents = String.join texts := by
  intro stream recent
  have hoctets : stream.octets = recent.flatMap BufferEntry.octets := by
    rw [← BufferEntry.foldl_apply]
    refine octetsIn_run ?_
    rintro before after rfl key id handler hattached
    have hmade := (listsHandlers_run moment before).made key id handler hattached
    rcases isMade_run hmade after with rfl | ⟨place, -, hhandler⟩
    · intro layout fault hdestination
      cases hdestination
    · rw [← run_append_fst] at hhandler
      exact hplain place handler hhandler
  refine ⟨hoctets, ?_⟩
  intro texts hrendered
  have htexts : stream.octets = Text.Utf8.encode (String.join texts) := by
    rw [hoctets, hrendered, List.flatMap_map, Text.Utf8.encode_join]
    rfl
  rw [Stream.contents, htexts, Text.Utf8.decodeLossy_encode]

/-- Two handlers with different line modes write to one buffer; an octet that is no text has been
cleared away before. -/
theorem two_handlers_write_to_one_buffer :
    let lines : Handler :=
      { id := .named "lines"
        destination := .stream (.buffer "out") { timestamps := false } none }
    let words : Handler :=
      { id := .named "words"
        threshold := .error
        destination := .stream (.buffer "out")
          { timestamps := false, lineMode := .withoutNewline } none }
    let session := (run { moment := { instant := { seconds := 0 } } } [
      .handler "lines" (.make lines.threshold lines.destination),
      .handler "words" (.make words.threshold words.destination),
      .logger { registry := "main", name := "" } (.attach "lines"),
      .logger { registry := "main", name := "app" } (.attach "words"),
      .buffer "out" (.write [0xff]),
      .buffer "out" .clear,
      .target (.logger { registry := "main", name := "app" })
        (.log (.checked (.exception { message := "Größe", causes := [] })) (.text "zu groß") none),
      .target (.logger { registry := "main", name := "app" })
        (.log (.checked .warning) (.text "läuft") none)]).1
    (∀ key handler, session.handlers.get? key = some handler → handler.IsPlainOn "out") ∧
      (session.outputs.buffer "out").contents =
        String.join ["ERROR app zu groß\nerror: Größe", "ERROR app zu groß\nerror: Größe\n",
          "WARNING app läuft\n"] := by
  intro lines words session
  have hhandlers : session.handlers =
      ((∅ : NameMap Handler).insert "lines" lines).insert "words" words := rfl
  have hplain : ∀ key handler, session.handlers.get? key = some handler →
      handler.IsPlainOn "out" := by
    intro key handler hhandler
    rw [hhandlers, NameMap.get?_insert, NameMap.get?_insert, NameMap.get?_empty] at hhandler
    split at hhandler
    · obtain rfl := Option.some.inj hhandler
      rintro layout fault ⟨⟩
      exact ⟨rfl, by decide, by decide⟩
    · split at hhandler
      · obtain rfl := Option.some.inj hhandler
        rintro layout fault ⟨⟩
        exact ⟨rfl, by decide, by decide⟩
      · cases hhandler
  refine ⟨hplain, (buffers_are_what_was_written _ _ "out" hplain).2 _ ?_⟩
  cbv

end Session

end LogTree
