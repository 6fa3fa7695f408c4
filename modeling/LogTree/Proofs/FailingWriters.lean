import LogTree.Proofs.RecordPairs
import LogTree.Proofs.RecordTraces

namespace LogTree

namespace Stream

/-- The octets of a stream, each with its writer. -/
def signed (stream : Stream) : List (Writer × UInt8) :=
  stream.flatMap fun piece => piece.octets.map fun octet => (piece.writer, octet)

@[simp] theorem signed_append (stream other : Stream) :
    signed (stream ++ other) = signed stream ++ signed other :=
  List.flatMap_append

theorem writer_of_mem_signed {stream : Stream} {octet : Writer × UInt8}
    (h : octet ∈ stream.signed) : ∃ piece ∈ stream, octet.1 = piece.writer := by
  obtain ⟨piece, hpiece, hoctet⟩ := List.mem_flatMap.mp h
  obtain ⟨value, -, rfl⟩ := List.mem_map.mp hoctet
  exact ⟨piece, hpiece, rfl⟩

theorem contribution_eq_signed (stream : Stream) (writer : Writer) :
    stream.contribution writer =
      (stream.signed.filter fun octet => octet.1 = writer).map Prod.snd := by
  induction stream with
  | nil => rfl
  | cons piece rest ih =>
      have hsigned : signed (piece :: rest) =
          (piece.octets.map fun octet => (piece.writer, octet)) ++ signed rest := rfl
      rw [hsigned, List.filter_append, List.map_append, ← ih, contribution, contribution,
        List.filter_cons, List.filter_map, List.map_map]
      have hfilter : (piece.octets.filter ((fun octet : Writer × UInt8 => decide
          (octet.1 = writer)) ∘ fun octet => (piece.writer, octet))) =
          if piece.writer = writer then piece.octets else [] := by
        by_cases h : piece.writer = writer
        · simp [Function.comp_def, h]
        · simp [Function.comp_def, h]
      rw [hfilter]
      by_cases h : piece.writer = writer
      · simp [octets, h, Function.comp_def]
      · simp [octets, h]

theorem contribution_append (stream other : Stream) (writer : Writer) :
    contribution (stream ++ other) writer =
      contribution stream writer ++ contribution other writer := by
  rw [contribution, List.filter_append, octets, List.flatMap_append]
  rfl

theorem contribution_of_signed_eq {stream other : Stream} {heard : Writer → Bool}
    (h : stream.signed = other.signed.filter fun octet => heard octet.1) (writer : Writer) :
    stream.contribution writer = if heard writer = true then other.contribution writer else [] := by
  rw [contribution_eq_signed, h, List.filter_filter, contribution_eq_signed]
  split
  · next hheard =>
      congr 2
      funext octet
      by_cases heq : octet.1 = writer
      · simp [heq, hheard]
      · simp [heq]
  · next hsilent =>
      have hnone : (other.signed.filter fun octet =>
          decide (octet.1 = writer) && heard octet.1) = [] := by
        refine List.filter_eq_nil_iff.mpr ?_
        intro octet _
        by_cases heq : octet.1 = writer
        · simpa [heq] using hsilent
        · simp [heq]
      rw [hnone, List.map_nil]

end Stream

namespace WriterFault

/-- A writer that refuses nothing gets all octets in the end, however few it takes at a time. -/
theorem signed_writeAll {fault : Option WriterFault} (h : fault ≠ some .refusesWrites)
    (writer : Writer) (octets : List UInt8) :
    (writeAll fault writer octets).signed = octets.map fun octet => (writer, octet) := by
  have haccepted : ∀ offered, accepted fault offered = 0 → offered = 0 := by
    intro offered hzero
    unfold accepted at hzero
    split at hzero
    · exact absurd rfl h
    · omega
    all_goals exact hzero
  induction octets using writeAll.induct fault with
  | case1 octets count hcount =>
      rw [writeAll, if_pos hcount, List.eq_nil_of_length_eq_zero (haccepted _ hcount)]
      rfl
  | case2 octets count hcount ih =>
      rw [writeAll, if_neg hcount]
      have hsigned : Stream.signed ({ writer, octets := octets.take count } ::
          writeAll fault writer (octets.drop count)) =
          ((octets.take count).map fun octet => (writer, octet)) ++
            (writeAll fault writer (octets.drop count)).signed := rfl
      rw [hsigned, ih, ← List.map_append, List.take_append_drop]

theorem contribution_writeAll {fault : Option WriterFault} (h : fault ≠ some .refusesWrites)
    (writer other : Writer) (octets : List UInt8) :
    (writeAll fault writer octets).contribution other = if writer = other then octets else [] := by
  rw [Stream.contribution_eq_signed, signed_writeAll h, List.filter_map, List.map_map]
  split
  · next heq =>
      have hall : octets.filter ((fun octet : Writer × UInt8 => decide (octet.1 = other)) ∘
          fun octet => (writer, octet)) = octets := by
        simp [Function.comp_def, heq]
      rw [hall]
      exact List.map_id' octets
  · next hne => simp [Function.comp_def, hne]

theorem writeAll_refusesWrites (writer : Writer) (octets : List UInt8) :
    writeAll (some .refusesWrites) writer octets = [] := by
  rw [writeAll]
  rfl

end WriterFault

def Handler.journal? (handler : Handler) : Option String :=
  match handler.destination with
  | .journal key => some key
  | _ => none

namespace Session

theorem step_drain_of_none {session : Session} {key : String}
    (h : (session.handlers.get? key).bind Handler.journal? = none) :
    session.step (.handler key .drain) = session.refuse .unknown := by
  rw [step, stepHandler]
  split
  · next journal hjournal =>
      obtain ⟨handler, hhandler, hdestination⟩ := Option.map_eq_some_iff.mp hjournal
      rw [hhandler, Option.bind_some, Handler.journal?, hdestination] at h
      cases h
  · rfl

theorem step_drain_of_some {session : Session} {key journal : String}
    (h : (session.handlers.get? key).bind Handler.journal? = some journal) :
    session.step (.handler key .drain) =
      { session with outputs := session.outputs.drain journal }.answer
        (.drained (session.outputs.journal journal).isEmpty (session.outputs.journal journal)) := by
  obtain ⟨handler, hhandler, hkept⟩ := Option.bind_eq_some_iff.mp h
  have hdestination : handler.destination = .journal journal := by
    rw [Handler.journal?] at hkept
    split at hkept
    · next place hplace =>
        rw [hplace, Option.some.inj hkept]
    · cases hkept
  simp only [step, stepHandler, hhandler, Option.map_some, hdestination]

end Session

/-- The destination with a writer that takes everything. A writer that aborts calls is no matter of
failing and stays. -/
def Destination.sound : Destination → Destination
  | .stream sink layout (some .abortsOnce) => .stream sink layout (some .abortsOnce)
  | .stream sink layout _ => .stream sink layout none
  | destination => destination

/-- The command with a sound writer under the handler that it makes. -/
def Command.sound : Command → Command
  | .handler key (.make threshold destination) => .handler key (.make threshold destination.sound)
  | command => command

def HandlerChange.sound : HandlerChange where
  destination := fun handler => handler.destination.sound
  standard_eq := rfl

namespace Handler

def refuses (handler : Handler) : Bool :=
  match handler.destination with
  | .stream _ _ (some .refusesWrites) => true
  | _ => false

theorem journal?_sound (handler : Handler) :
    (HandlerChange.sound.apply handler).journal? = handler.journal? := by
  obtain ⟨id, threshold, destination⟩ := handler
  cases destination with
  | stream sink layout fault => rcases fault with _ | _ | _ | _ | _ <;> rfl
  | _ => rfl

end Handler

/-- Nothing keeps the octets of a writer from coming out. -/
def Writer.isHeard (handlers : NameMap Handler) : Writer → Bool
  | .handler (.named key) =>
      match handlers.get? key with
      | none => true
      | some held => !held.refuses
  | .handler .standard | .lastResort | .owner => true

/-- A handler is the standard one, or one that has been made under the key that it bears. -/
def Handler.IsMade (handlers : NameMap Handler) (handler : Handler) : Prop :=
  handler = .standard ∨ ∃ key, handler.id = .named key ∧ handlers.get? key = some handler

theorem Handler.IsMade.mono {handlers other : NameMap Handler} {handler : Handler}
    (h : handler.IsMade handlers)
    (hkept : ∀ key made, handlers.get? key = some made → other.get? key = some made) :
    handler.IsMade other := by
  rcases h with hstandard | ⟨key, hid, hmade⟩
  · exact .inl hstandard
  · exact .inr ⟨key, hid, hkept key handler hmade⟩

theorem Handler.IsMade.isHeard {handlers : NameMap Handler} {handler : Handler}
    (h : handler.IsMade handlers) :
    Writer.isHeard handlers (.handler handler.id) = !handler.refuses := by
  rcases h with rfl | ⟨key, hid, hhandler⟩
  · rfl
  · rw [hid, Writer.isHeard, hhandler]

/-- The outputs of two runs, the first one with failing writers and the second one without. Handlers
that do not write to streams have kept the same, and in the streams the octets of the writers that
refuse them are missing. -/
structure Outputs.Spoilt (handlers : NameMap Handler) (outputs sound : Outputs) : Prop where
  journals_eq : sound.journals = outputs.journals
  tallies_eq : sound.tallies = outputs.tallies
  events_eq : sound.events = outputs.events
  aborted_eq : sound.aborted = outputs.aborted
  signed_eq : ∀ sink, (outputs.stream sink).signed =
    (sound.stream sink).signed.filter fun octet => octet.1.isHeard handlers
  /-- Those who have written are there. -/
  made : ∀ sink, ∀ octet ∈ (sound.stream sink).signed, ∀ key, octet.1 = .handler (.named key) →
    handlers.contains key = true

namespace Outputs.Spoilt

section

variable {handlers : NameMap Handler} {outputs sound : Outputs} (h : Spoilt handlers outputs sound)

include h

theorem append (writer : Writer) {pieces twin : Stream}
    (hwriter : ∀ piece ∈ twin, piece.writer = writer)
    (hmade : ∀ key, writer = .handler (.named key) → handlers.contains key = true)
    (hpieces : pieces.signed = if writer.isHeard handlers = true then twin.signed else [])
    (sink : Sink) : Spoilt handlers (outputs.append sink pieces) (sound.append sink twin) := by
  have hsigned : ∀ octet ∈ twin.signed, octet.1 = writer := by
    intro octet hoctet
    obtain ⟨piece, hpiece, heq⟩ := Stream.writer_of_mem_signed hoctet
    rw [heq, hwriter piece hpiece]
  refine ⟨?_, ?_, ?_, ?_, ?_, ?_⟩
  · cases sink <;> exact h.journals_eq
  · cases sink <;> exact h.tallies_eq
  · cases sink <;> exact h.events_eq
  · cases sink <;> exact h.aborted_eq
  · intro place
    rw [stream_append, stream_append, Stream.signed_append, Stream.signed_append,
      List.filter_append, h.signed_eq]
    congr 1
    split
    · rw [hpieces]
      split
      · next hheard =>
          refine (List.filter_eq_self.mpr ?_).symm
          intro octet hoctet
          rw [hsigned octet hoctet, hheard]
      · next hsilent =>
          refine (List.filter_eq_nil_iff.mpr ?_).symm
          intro octet hoctet
          rw [hsigned octet hoctet]
          exact hsilent
    · rfl
  · intro place octet hoctet key hkey
    rw [stream_append, Stream.signed_append, List.mem_append] at hoctet
    rcases hoctet with hbefore | hadded
    · exact h.made place octet hbefore key hkey
    · split at hadded
      · exact hmade key ((hsigned octet hadded).symm.trans hkey)
      · cases hadded

theorem lastResort (record : Record) :
    (outputs.lastResort record).Matches (Spoilt handlers) (sound.lastResort record) := by
  refine rendering_matches h ?_ record.message
  intro text
  refine ⟨h.append .lastResort ?_ (fun _ hkey => by cases hkey) (if_pos rfl).symm .standardError,
    rfl, rfl⟩
  intro piece hpiece
  rw [List.mem_singleton.mp hpiece]

theorem write {id : HandlerId} {fault : Option WriterFault} (hfault : fault ≠ some .abortsOnce)
    (hheard : Writer.isHeard handlers (.handler id) = true ↔ fault ≠ some .refusesWrites)
    (hmade : ∀ key, id = .named key → handlers.contains key = true) (sink : Sink)
    (text : String) :
    (outputs.write id sink fault text).Matches (Spoilt handlers)
      (sound.write id sink none text) := by
  have hsound : (none : Option WriterFault) ≠ some .refusesWrites := fun heq => by cases heq
  have hsigned : (WriterFault.writeAll fault (.handler id) (Text.Utf8.encode text)).signed =
      if Writer.isHeard handlers (.handler id) = true then
        (WriterFault.writeAll none (.handler id) (Text.Utf8.encode text)).signed
      else [] := by
    rw [WriterFault.signed_writeAll hsound]
    split
    · next hwrites => exact WriterFault.signed_writeAll (hheard.mp hwrites) _ _
    · next hsilent =>
        have hrefuses := Decidable.not_not.mp fun hne => hsilent (hheard.mpr hne)
        rw [hrefuses, WriterFault.writeAll_refusesWrites]
        rfl
  rw [Outputs.write, if_neg fun habort => hfault habort.1, Outputs.write,
    if_neg fun habort => by cases habort.1]
  refine ⟨h.append (.handler id) (fun _ => WriterFault.writer_of_mem_writeAll) ?_ hsigned sink,
    rfl, rfl⟩
  intro key hkey
  exact hmade key (Writer.handler.inj hkey)

theorem write_same {id : HandlerId} (hheard : Writer.isHeard handlers (.handler id) = true)
    (hmade : ∀ key, id = .named key → handlers.contains key = true) (sink : Sink)
    (fault : Option WriterFault) (text : String) :
    (outputs.write id sink fault text).Matches (Spoilt handlers)
      (sound.write id sink fault text) := by
  rw [Outputs.write, Outputs.write, h.aborted_eq]
  split
  · exact ⟨⟨h.journals_eq, h.tallies_eq, h.events_eq, rfl, h.signed_eq, h.made⟩, rfl, rfl⟩
  · refine ⟨h.append (.handler id) (fun _ => WriterFault.writer_of_mem_writeAll) ?_
      (if_pos hheard).symm sink, rfl, rfl⟩
    intro key hkey
    exact hmade key (Writer.handler.inj hkey)

end

end Outputs.Spoilt

/-- Whatever is wrong with the writer under a handler, nobody but its stream is the worse for it. -/
theorem Handler.IsMade.pairs_sound {handlers : NameMap Handler} {handler : Handler}
    (hmade : handler.IsMade handlers) :
    handler.Pairs (Outputs.Spoilt handlers) (HandlerChange.sound.apply handler) := by
  intro record outputs sound h
  have hheard := hmade.isHeard
  have hcontains : ∀ key, handler.id = .named key → handlers.contains key = true := by
    intro key hkey
    rcases hmade with rfl | ⟨place, hid, hhandler⟩
    · cases hkey
    · rw [hkey] at hid
      rw [NameMap.contains, HandlerId.named.inj hid, hhandler]
      rfl
  obtain ⟨id, threshold, destination⟩ := handler
  cases destination with
  | tally key =>
      refine ⟨⟨h.journals_eq, ?_, h.events_eq, h.aborted_eq, h.signed_eq, h.made⟩, rfl, rfl⟩
      change sound.tallies.insert key (sound.tally key + 1) =
        outputs.tallies.insert key (outputs.tally key + 1)
      rw [Outputs.tally, Outputs.tally, h.tallies_eq]
  | journal key =>
      refine Outputs.rendering_matches h ?_ record.message
      intro text
      refine ⟨⟨?_, h.tallies_eq, h.events_eq, h.aborted_eq, h.signed_eq, h.made⟩, rfl, rfl⟩
      simp only [Outputs.keep, Outputs.journal, h.journals_eq]
  | trace =>
      refine Outputs.rendering_matches h ?_ record.message
      intro text
      refine ⟨⟨h.journals_eq, h.tallies_eq, ?_, h.aborted_eq, h.signed_eq, h.made⟩, rfl, rfl⟩
      simp only [Outputs.publish, h.events_eq]
      rfl
  | stream sink layout fault =>
      have hsound : ∀ {fault : Option WriterFault}, fault ≠ some .abortsOnce →
          (Writer.isHeard handlers (.handler id) = true ↔ fault ≠ some .refusesWrites) →
          ∀ text, (outputs.write id sink fault text).Matches (Outputs.Spoilt handlers)
            (sound.write id sink none text) :=
        fun hfault hheard text => h.write hfault hheard hcontains sink text
      rcases fault with _ | fault
      · exact Outputs.rendering_matches h
          (fun _ => hsound (by simp) (by simp [hheard, refuses]) _) record.message
      · cases fault with
        | abortsOnce =>
            exact Outputs.rendering_matches h
              (fun _ => h.write_same (by rw [hheard]; rfl) hcontains sink _ _) record.message
        | _ =>
            exact Outputs.rendering_matches h
              (fun _ => hsound (by simp) (by simp [hheard, refuses]) _) record.message

theorem Outputs.Spoilt.insert {handlers : NameMap Handler} {outputs sound : Outputs}
    (h : Spoilt handlers outputs sound) {key : String} (hfresh : handlers.contains key = false)
    (handler : Handler) : Spoilt (handlers.insert key handler) outputs sound := by
  have hcontains : ∀ place, handlers.contains place = true → place ≠ key ∧
      (handlers.insert key handler).get? place = handlers.get? place := by
    intro place hplace
    have hne : place ≠ key := by
      rintro rfl
      rw [hfresh] at hplace
      cases hplace
    exact ⟨hne, by rw [NameMap.get?_insert, if_neg hne]⟩
  refine ⟨h.journals_eq, h.tallies_eq, h.events_eq, h.aborted_eq, ?_, ?_⟩
  · intro sink
    rw [h.signed_eq]
    apply List.filter_congr
    intro octet hoctet
    have hmade := h.made sink octet hoctet
    rcases hwriter : octet.1 with id | _ | _
    · cases id with
      | named place =>
          have hkept := (hcontains place (hmade place hwriter)).2
          simp only [Writer.isHeard, hkept]
      | standard => rfl
    · rfl
    · rfl
  · intro sink octet hoctet place hplace
    have hmade := h.made sink octet hoctet place hplace
    rw [NameMap.contains, (hcontains place hmade).2]
    exact hmade

namespace Session

/-- Two sessions as the same commands leave them, the second one with sound writers. -/
structure Ails (session sound : Session) : Prop where
  moment_eq : sound.moment = session.moment
  registry_eq : ∀ key, sound.registry key = (session.registry key).exchange .sound
  handlers_eq : ∀ key, sound.handlers.get? key =
    (session.handlers.get? key).map HandlerChange.sound.apply
  objects_eq : sound.objects = session.objects
  holdings_eq : sound.holdings = session.holdings
  loggedClasses_eq : sound.loggedClasses = session.loggedClasses
  outputs : Outputs.Spoilt session.handlers session.outputs sound.outputs
  names : session.NamesHandlers
  made : ∀ key id, ∀ handler ∈ (session.registry key).handlers id,
    handler.IsMade session.handlers

section

variable {session sound : Session} (h : session.Ails sound)

include h

theorem Ails.sees (command : Command) : Sees .sound command session sound where
  registry_eq := fun place _ => h.registry_eq place
  handler_eq := fun key _ => h.handlers_eq key
  object_eq := fun key _ => by rw [h.objects_eq]
  holding_eq := fun key _ => by rw [h.holdings_eq]

theorem Ails.step_of_outputs {command : Command} (hmade : session.made? command = none)
    (hsound : sound.made? command = none)
    (houtputs : Outputs.Spoilt session.handlers (session.step command).1.outputs
      (sound.step command).1.outputs) :
    (session.step command).1.Ails (sound.step command).1 := by
  have hsees := h.sees command
  have hfirst := session.holdsAfter_step command
  have hsecond := sound.holdsAfter_step command
  have hhandlers : (session.step command).1.handlers = session.handlers := by
    rw [handlers_step, hmade]
  refine ⟨?_, ?_, ?_, ?_, ?_, ?_, ?_, h.names.step command, ?_⟩
  · rw [hfirst.moment_eq, hsecond.moment_eq, h.moment_eq]
  · intro key
    rw [registry_step, registry_step, hsees.operations_eq, h.registry_eq,
      Registry.performAll_exchange]
  · intro key
    rw [hhandlers, handlers_step, hsound, h.handlers_eq]
  · rw [objects_step, objects_step, hsees.placed?_eq, h.objects_eq]
  · rw [hfirst.holdings_eq, hsecond.holdings_eq, hsees.held?_eq, h.holdings_eq]
  · rw [loggedClasses_step, loggedClasses_step, h.loggedClasses_eq]
  · rw [hhandlers]
    exact houtputs
  · rw [hhandlers]
    intro key id handler hmem
    rcases mem_handlers_step hmem with hheld | ⟨-, hstandard | ⟨place, -, hhandler⟩⟩
    · exact h.made key id handler hheld
    · exact .inl hstandard
    · exact .inr ⟨place, h.names place handler hhandler, hhandler⟩

theorem Ails.step_log (target : Target) (submission : Submission) (message : Message)
    (thread : Option String) :
    let command := Command.target target (.log submission message thread)
    (sound.step command).2 = (session.step command).2 ∧
      (session.step command).1.Ails (sound.step command).1 := by
  intro command
  obtain ⟨hanswer, houtputs⟩ := (h.sees command).step_log
    (fun record _ _ hspoilt => hspoilt.lastResort record) h.moment_eq h.outputs
    fun place _ id handler hmem => (h.made place id handler hmem).pairs_sound
  exact ⟨hanswer, h.step_of_outputs rfl rfl houtputs⟩

theorem Ails.step_drain (key : String) :
    let command := Command.handler key .drain
    (sound.step command).2 = (session.step command).2 ∧
      (session.step command).1.Ails (sound.step command).1 := by
  intro command
  have hjournal : (sound.handlers.get? key).bind Handler.journal? =
      (session.handlers.get? key).bind Handler.journal? := by
    rw [h.handlers_eq, Option.bind_map]
    congr 1
    funext handler
    exact handler.journal?_sound
  cases hkept : (session.handlers.get? key).bind Handler.journal? with
  | none =>
      have hfirst := step_drain_of_none hkept
      have hsecond := step_drain_of_none (hjournal.trans hkept)
      refine ⟨by rw [hfirst, hsecond]; rfl, h.step_of_outputs rfl rfl ?_⟩
      rw [hfirst, hsecond]
      exact h.outputs
  | some journal =>
      have hfirst := step_drain_of_some hkept
      have hsecond := step_drain_of_some (hjournal.trans hkept)
      have hrecords : sound.outputs.journal journal = session.outputs.journal journal := by
        rw [Outputs.journal, Outputs.journal, h.outputs.journals_eq]
      refine ⟨by rw [hfirst, hsecond, hrecords]; rfl, h.step_of_outputs rfl rfl ?_⟩
      rw [hfirst, hsecond]
      refine ⟨?_, h.outputs.tallies_eq, h.outputs.events_eq, h.outputs.aborted_eq,
        h.outputs.signed_eq, h.outputs.made⟩
      simp only [answer, Outputs.drain, h.outputs.journals_eq]

theorem Ails.step_buffer (key : String) (command : BufferCommand) :
    (sound.step (.buffer key command)).2 = (session.step (.buffer key command)).2 ∧
      (session.step (.buffer key command)).1.Ails (sound.step (.buffer key command)).1 := by
  cases command with
  | write octets =>
      refine ⟨rfl, h.step_of_outputs rfl rfl (h.outputs.append .owner ?_
        (fun _ hkey => by cases hkey) (if_pos rfl).symm (.buffer key))⟩
      intro piece hpiece
      rw [List.mem_singleton.mp hpiece]
  | clear =>
      refine ⟨rfl, h.step_of_outputs rfl rfl ⟨h.outputs.journals_eq, h.outputs.tallies_eq,
        h.outputs.events_eq, h.outputs.aborted_eq, ?_, ?_⟩⟩
      · intro sink
        change ((session.outputs.clear key).stream sink).signed =
          ((sound.outputs.clear key).stream sink).signed.filter _
        rw [Outputs.stream_clear, Outputs.stream_clear]
        split
        · rfl
        · exact h.outputs.signed_eq sink
      · intro sink octet hoctet
        change octet ∈ ((sound.outputs.clear key).stream sink).signed at hoctet
        rw [Outputs.stream_clear] at hoctet
        split at hoctet
        · cases hoctet
        · exact h.outputs.made sink octet hoctet

theorem Ails.outputs_make (key : String) (threshold : Level) (destination : Destination) :
    Outputs.Spoilt session.handlers (session.makeHandler key threshold destination).outputs
      (sound.makeHandler key threshold destination.sound).outputs := by
  have hbuffer : ∀ buffer, Outputs.Spoilt session.handlers
      (session.outputs.append (.buffer buffer) []) (sound.outputs.append (.buffer buffer) []) :=
    fun buffer => h.outputs.append .owner (fun _ hpiece => by cases hpiece)
      (fun _ hkey => by cases hkey) (if_pos rfl).symm _
  cases destination with
  | stream sink layout fault =>
      cases sink with
      | buffer buffer => rcases fault with _ | _ | _ | _ | _ <;> exact hbuffer buffer
      | standardOutput => rcases fault with _ | _ | _ | _ | _ <;> exact h.outputs
      | standardError => rcases fault with _ | _ | _ | _ | _ <;> exact h.outputs
  | _ => exact h.outputs

theorem Ails.step_make (key : String) (threshold : Level) (destination : Destination) :
    let command := Command.handler key (.make threshold destination)
    (sound.step command.sound).2 = (session.step command).2 ∧
      (session.step command).1.Ails (sound.step command.sound).1 := by
  have hcontains : sound.handlers.contains key = session.handlers.contains key := by
    rw [NameMap.contains, NameMap.contains, h.handlers_eq, Option.isSome_map]
  simp only [Command.sound, step, stepHandler, hcontains]
  split
  · exact ⟨rfl, h⟩
  · next hfresh =>
      rw [Bool.not_eq_true] at hfresh
      refine ⟨rfl, ⟨h.moment_eq, h.registry_eq, ?_, h.objects_eq, h.holdings_eq,
        h.loggedClasses_eq, (h.outputs_make key threshold destination).insert hfresh _, ?_, ?_⟩⟩
      · intro place
        simp only [answer, makeHandler, NameMap.get?_insert]
        split
        · rfl
        · exact h.handlers_eq place
      · intro place handler hhandler
        simp only [answer, makeHandler, NameMap.get?_insert] at hhandler
        split at hhandler
        · next heq =>
            obtain rfl := Option.some.inj hhandler
            rw [heq]
        · exact h.names place handler hhandler
      · intro place id handler hmem
        rcases h.made place id handler hmem with hstandard | ⟨held, hid, hhandler⟩
        · exact .inl hstandard
        · refine .inr ⟨held, hid, ?_⟩
          have hne : held ≠ key := by
            rintro rfl
            rw [NameMap.contains, hhandler] at hfresh
            cases hfresh
          simp only [answer, makeHandler, NameMap.get?_insert, if_neg hne]
          exact hhandler

theorem Ails.step (command : Command) :
    (sound.step command.sound).2 = (session.step command).2 ∧
      (session.step command).1.Ails (sound.step command.sound).1 := by
  have hkept : ∀ command : Command, command.touchesOutputs = false →
      session.made? command = none → sound.made? command = none →
      (session.step command).1.Ails (sound.step command).1 := by
    intro command htouches hmade hsound
    apply h.step_of_outputs hmade hsound
    rw [(session.holdsAfter_step command).outputs_eq htouches,
      (sound.holdsAfter_step command).outputs_eq htouches]
    exact h.outputs
  have hquiet : ∀ command : Command, command.touchesOutputs = false →
      (∀ asked, command ≠ .classes asked) →
      (sound.step command).2 = (session.step command).2 :=
    fun command htouches hclasses => (h.sees command).answer_eq htouches hclasses
  cases command with
  | handler key command =>
      cases command with
      | make threshold destination => exact h.step_make key threshold destination
      | drain => exact h.step_drain key
  | buffer key command => exact h.step_buffer key command
  | target target command =>
      cases command with
      | log submission message thread => exact h.step_log target submission message thread
      | _ => exact ⟨hquiet _ rfl (fun _ heq => by cases heq), hkept _ rfl rfl rfl⟩
  | classes asked =>
      refine ⟨?_, hkept _ rfl rfl rfl⟩
      cases asked <;> simp only [Command.sound, Session.step, stepClasses, answer,
        h.loggedClasses_eq]
  | _ => exact ⟨hquiet _ rfl (fun _ heq => by cases heq), hkept _ rfl rfl rfl⟩

theorem Ails.run (commands : List Command) :
    (sound.run (commands.map Command.sound)).2 = (session.run commands).2 ∧
      (session.run commands).1.Ails (sound.run (commands.map Command.sound)).1 := by
  induction commands generalizing session sound with
  | nil => exact ⟨rfl, h⟩
  | cons command rest ih =>
      obtain ⟨hanswer, hnext⟩ := h.step command
      obtain ⟨hanswers, hlast⟩ := ih hnext
      refine ⟨?_, hlast⟩
      rw [List.map_cons, run_cons_snd, run_cons_snd, hanswer, hanswers]

end

theorem ails_fresh (moment : Moment) : Ails { moment } { moment } := by
  refine ⟨rfl, fun key => rfl, fun key => rfl, rfl, rfl, rfl, ⟨rfl, rfl, rfl, rfl, ?_, ?_⟩,
    namesHandlers_fresh moment, ?_⟩
  · intro sink
    cases sink <;> rfl
  · intro sink octet hoctet
    cases sink <;> cases hoctet
  · intro key id handler hmem
    cases id <;> cases hmem

/-- Run some commands, whatever faults they bring along for the writers under handlers, and run them
again with sound writers. Both runs have the same answers and end with the same registries, objects,
outlets and classes, up to the faults themselves. Handlers that do not write to streams have kept
the same. What comes out of the streams, octet by octet with its writer, is what comes out with
sound writers, less the octets of the writers that refuse them: those come to nothing, and everybody
else contributes the same. -/
theorem failing_writers_affect_nobody_else (moment : Moment) (commands : List Command) :
    let failing := run { moment } commands
    let sound := run { moment } (commands.map Command.sound)
    sound.2 = failing.2 ∧
      (∀ key, sound.1.registry key = (failing.1.registry key).exchange .sound) ∧
      sound.1.objects = failing.1.objects ∧ sound.1.holdings = failing.1.holdings ∧
      sound.1.loggedClasses = failing.1.loggedClasses ∧
      Outputs.Spoilt failing.1.handlers failing.1.outputs sound.1.outputs ∧
      ∀ sink writer, (failing.1.outputs.stream sink).contribution writer =
        if writer.isHeard failing.1.handlers = true then
          (sound.1.outputs.stream sink).contribution writer
        else [] := by
  obtain ⟨hanswers, hails⟩ := (ails_fresh moment).run commands
  refine ⟨hanswers, hails.registry_eq, hails.objects_eq, hails.holdings_eq,
    hails.loggedClasses_eq, hails.outputs, ?_⟩
  intro sink writer
  exact Stream.contribution_of_signed_eq (hails.outputs.signed_eq sink) writer

end Session

end LogTree
