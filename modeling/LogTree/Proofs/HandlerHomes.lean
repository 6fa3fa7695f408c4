import LogTree.Proofs.RecordPairs
import LogTree.Proofs.RecordTraces

namespace LogTree

/-- The registries that handlers, and what they write to, belong to. -/
structure Homes where
  handler : String → String
  journal : String → String
  tally : String → String
  buffer : String → String

namespace Homes

variable (homes : Homes) (key : String)

/-- A handler belongs to a registry. The standard handler belongs to none. -/
def owns : HandlerId → Bool
  | .named place => homes.handler place = key
  | .standard => false

def wrote : Writer → Bool
  | .handler id => homes.owns key id
  | .lastResort | .owner => false

/-- What a handler of a registry writes to belongs to the registry too. The streams of the process
belong to none. -/
def Keeps : Destination → Prop
  | .journal place => homes.journal place = key
  | .tally place => homes.tally place = key
  | .stream (.buffer place) _ _ => homes.buffer place = key
  | .stream .standardOutput _ _ | .stream .standardError _ _ | .trace => True

/-- A handler may be attached in a registry. -/
def Admits (handler : Handler) : Prop :=
  handler = .standard ∨ homes.owns key handler.id = true ∧ homes.Keeps key handler.destination

/-- A command uses handlers where they belong. -/
def Respects : Command → Prop
  | .handler place (.make _ destination) => homes.Keeps (homes.handler place) destination
  | .logger address (.attach place) | .logger address (.detach place)
  | .logger address (.offer place _) => homes.handler place = address.registry
  | .holding _ (.build registry _ _ (some place)) => homes.handler place = registry
  | _ => True

/-- Two outputs are the same as far as they belong to a registry. -/
structure Agree (outputs other : Outputs) : Prop where
  journal_eq : ∀ place, homes.journal place = key → other.journal place = outputs.journal place
  tally_eq : ∀ place, homes.tally place = key → other.tally place = outputs.tally place
  buffer_eq : ∀ place, homes.buffer place = key → other.buffer place = outputs.buffer place
  events_eq : (other.events.filter fun published => homes.owns key published.handler) =
    outputs.events.filter fun published => homes.owns key published.handler
  standardOutput_eq : (other.standardOutput.filter fun piece => homes.wrote key piece.writer) =
    outputs.standardOutput.filter fun piece => homes.wrote key piece.writer
  standardError_eq : (other.standardError.filter fun piece => homes.wrote key piece.writer) =
    outputs.standardError.filter fun piece => homes.wrote key piece.writer
  aborted_iff : ∀ id, homes.owns key id = true → (id ∈ other.aborted ↔ id ∈ outputs.aborted)

variable {homes} {key}

theorem agree_refl (outputs : Outputs) : homes.Agree key outputs outputs :=
  ⟨fun _ _ => rfl, fun _ _ => rfl, fun _ _ => rfl, rfl, rfl, rfl, fun _ _ => Iff.rfl⟩

theorem Agree.symm {outputs other : Outputs} (h : homes.Agree key outputs other) :
    homes.Agree key other outputs where
  journal_eq := fun place hplace => (h.journal_eq place hplace).symm
  tally_eq := fun place hplace => (h.tally_eq place hplace).symm
  buffer_eq := fun place hplace => (h.buffer_eq place hplace).symm
  events_eq := h.events_eq.symm
  standardOutput_eq := h.standardOutput_eq.symm
  standardError_eq := h.standardError_eq.symm
  aborted_iff := fun id hid => (h.aborted_iff id hid).symm

theorem Agree.trans {first second third : Outputs} (h : homes.Agree key first second)
    (h' : homes.Agree key second third) : homes.Agree key first third where
  journal_eq := fun place hplace => (h'.journal_eq place hplace).trans (h.journal_eq place hplace)
  tally_eq := fun place hplace => (h'.tally_eq place hplace).trans (h.tally_eq place hplace)
  buffer_eq := fun place hplace => (h'.buffer_eq place hplace).trans (h.buffer_eq place hplace)
  events_eq := h'.events_eq.trans h.events_eq
  standardOutput_eq := h'.standardOutput_eq.trans h.standardOutput_eq
  standardError_eq := h'.standardError_eq.trans h.standardError_eq
  aborted_iff := fun id hid => (h'.aborted_iff id hid).trans (h.aborted_iff id hid)

theorem agree_count {place : String} (h : homes.tally place ≠ key) (outputs : Outputs) :
    homes.Agree key outputs (outputs.count place) := by
  refine ⟨fun _ _ => rfl, ?_, fun _ _ => rfl, rfl, rfl, rfl, fun _ _ => Iff.rfl⟩
  intro other hother
  have hne : other ≠ place := by
    rintro rfl
    exact h hother
  rw [Outputs.tally, Outputs.count, NameMap.getD, NameMap.get?_insert, if_neg hne]
  rfl

theorem agree_setJournal {place : String} (h : homes.journal place ≠ key) (outputs : Outputs)
    (records : List Captured) :
    homes.Agree key outputs { outputs with journals := outputs.journals.insert place records } := by
  refine ⟨?_, fun _ _ => rfl, fun _ _ => rfl, rfl, rfl, rfl, fun _ _ => Iff.rfl⟩
  intro other hother
  have hne : other ≠ place := by
    rintro rfl
    exact h hother
  rw [Outputs.journal, NameMap.getD, NameMap.get?_insert, if_neg hne]
  rfl

theorem agree_publish {id : HandlerId} (h : homes.owns key id = false) (outputs : Outputs)
    (event : Event) : homes.Agree key outputs (outputs.publish id event) := by
  refine ⟨fun _ _ => rfl, fun _ _ => rfl, fun _ _ => rfl, ?_, rfl, rfl, fun _ _ => Iff.rfl⟩
  simp [Outputs.publish, h]

theorem agree_setBuffer {place : String} (h : homes.buffer place ≠ key) (outputs : Outputs)
    (stream : Stream) :
    homes.Agree key outputs { outputs with buffers := outputs.buffers.insert place stream } := by
  refine ⟨fun _ _ => rfl, fun _ _ => rfl, ?_, rfl, rfl, rfl, fun _ _ => Iff.rfl⟩
  intro other hother
  have hne : other ≠ place := by
    rintro rfl
    exact h hother
  rw [Outputs.buffer, NameMap.getD, NameMap.get?_insert, if_neg hne]
  rfl

theorem agree_append {sink : Sink} {pieces : Stream}
    (hbuffer : ∀ place, sink = .buffer place → homes.buffer place ≠ key)
    (hpieces : ∀ piece ∈ pieces, homes.wrote key piece.writer = false) (outputs : Outputs) :
    homes.Agree key outputs (outputs.append sink pieces) := by
  have hnone : pieces.filter (fun piece => homes.wrote key piece.writer) = [] := by
    refine List.filter_eq_nil_iff.mpr ?_
    intro piece hpiece
    rw [hpieces piece hpiece]
    decide
  cases sink with
  | buffer place => exact agree_setBuffer (hbuffer place rfl) outputs _
  | standardOutput =>
      refine ⟨fun _ _ => rfl, fun _ _ => rfl, fun _ _ => rfl, rfl, ?_, rfl, fun _ _ => Iff.rfl⟩
      rw [Outputs.append, List.filter_append, hnone, List.append_nil]
  | standardError =>
      refine ⟨fun _ _ => rfl, fun _ _ => rfl, fun _ _ => rfl, rfl, rfl, ?_, fun _ _ => Iff.rfl⟩
      rw [Outputs.append, List.filter_append, hnone, List.append_nil]

theorem agree_append_nil (outputs : Outputs) (sink : Sink) :
    homes.Agree key outputs (outputs.append sink []) := by
  cases sink with
  | buffer place =>
      refine ⟨fun _ _ => rfl, fun _ _ => rfl, ?_, rfl, rfl, rfl, fun _ _ => Iff.rfl⟩
      intro other _
      have hstream := outputs.stream_append (.buffer place) (.buffer other) []
      rw [ite_self, List.append_nil] at hstream
      exact hstream
  | standardOutput =>
      rw [Outputs.append, List.append_nil]
      exact agree_refl outputs
  | standardError =>
      rw [Outputs.append, List.append_nil]
      exact agree_refl outputs

theorem agree_rendering {outputs : Outputs} {store : String → Handled}
    (h : ∀ text, homes.Agree key outputs (store text).outputs) (message : Message) :
    homes.Agree key outputs (outputs.rendering message store).outputs := by
  cases message with
  | text text => exact h text
  | failing => exact agree_refl outputs

theorem agree_lastResort (outputs : Outputs) (record : Record) :
    homes.Agree key outputs (outputs.lastResort record).outputs := by
  refine agree_rendering (fun text => ?_) record.message
  have hbuffer : ∀ place, Sink.standardError = .buffer place → homes.buffer place ≠ key :=
    fun _ heq => by cases heq
  refine agree_append hbuffer ?_ outputs
  intro piece hpiece
  rw [List.mem_singleton.mp hpiece]
  rfl

theorem agree_write {id : HandlerId} (hid : homes.owns key id = false) {sink : Sink}
    (hbuffer : ∀ place, sink = .buffer place → homes.buffer place ≠ key) (outputs : Outputs)
    (fault : Option WriterFault) (text : String) :
    homes.Agree key outputs (outputs.write id sink fault text).outputs := by
  rw [Outputs.write]
  split
  · refine ⟨fun _ _ => rfl, fun _ _ => rfl, fun _ _ => rfl, rfl, rfl, rfl, ?_⟩
    intro other hother
    have hne : other ≠ id := by
      rintro rfl
      rw [hid] at hother
      cases hother
    simp [hne]
  · refine agree_append hbuffer ?_ outputs
    intro piece hpiece
    rw [WriterFault.writer_of_mem_writeAll hpiece]
    exact hid

theorem agree_handle {place : String} {handler : Handler} (h : homes.Admits place handler)
    (hplace : place ≠ key) (outputs : Outputs) (record : Record) :
    homes.Agree key outputs (outputs.handle handler record).outputs := by
  have hid : homes.owns key handler.id = false := by
    rcases h with rfl | ⟨howns, -⟩
    · rfl
    · cases hid : handler.id with
      | standard => rfl
      | named name =>
          rw [hid, owns, decide_eq_true_eq] at howns
          rw [owns, howns]
          exact decide_eq_false hplace
  have hkeeps : homes.Keeps place handler.destination := by
    rcases h with rfl | ⟨-, hkeeps⟩
    · trivial
    · exact hkeeps
  have helsewhere : ∀ {home : String}, home = place → home ≠ key := by
    rintro home rfl
    exact hplace
  obtain ⟨id, threshold, destination⟩ := handler
  cases destination with
  | tally store => exact agree_count (helsewhere hkeeps) outputs
  | journal store =>
      exact agree_rendering (fun _ => agree_setJournal (helsewhere hkeeps) outputs _) record.message
  | trace => exact agree_rendering (fun _ => agree_publish hid outputs _) record.message
  | stream sink layout fault =>
      refine agree_rendering (fun text => agree_write hid ?_ outputs fault _) record.message
      rintro store rfl
      exact helsewhere hkeeps

theorem Agree.count {outputs other : Outputs} (h : homes.Agree key outputs other)
    (place : String) : homes.Agree key (outputs.count place) (other.count place) := by
  refine ⟨h.journal_eq, ?_, h.buffer_eq, h.events_eq, h.standardOutput_eq, h.standardError_eq,
    h.aborted_iff⟩
  intro store hstore
  simp only [Outputs.tally, Outputs.count, NameMap.getD, NameMap.get?_insert]
  split
  · next heq =>
      rw [heq] at hstore
      exact congrArg (· + 1) (h.tally_eq place hstore)
  · exact h.tally_eq store hstore

theorem Agree.keep {outputs other : Outputs} (h : homes.Agree key outputs other) (place : String)
    (captured : Captured) :
    homes.Agree key (outputs.keep place captured) (other.keep place captured) := by
  refine ⟨?_, h.tally_eq, h.buffer_eq, h.events_eq, h.standardOutput_eq, h.standardError_eq,
    h.aborted_iff⟩
  intro store hstore
  rw [Outputs.journal_keep, Outputs.journal_keep, h.journal_eq store hstore]

theorem Agree.publish {outputs other : Outputs} (h : homes.Agree key outputs other)
    (id : HandlerId) (event : Event) :
    homes.Agree key (outputs.publish id event) (other.publish id event) := by
  refine ⟨h.journal_eq, h.tally_eq, h.buffer_eq, ?_, h.standardOutput_eq, h.standardError_eq,
    h.aborted_iff⟩
  rw [Outputs.publish, Outputs.publish, List.filter_append, List.filter_append, h.events_eq]

theorem Agree.append {outputs other : Outputs} (h : homes.Agree key outputs other) (sink : Sink)
    (pieces : Stream) :
    homes.Agree key (outputs.append sink pieces) (other.append sink pieces) := by
  cases sink with
  | buffer place =>
      refine ⟨h.journal_eq, h.tally_eq, ?_, h.events_eq, h.standardOutput_eq, h.standardError_eq,
        h.aborted_iff⟩
      intro store hstore
      have hfirst := outputs.stream_append (.buffer place) (.buffer store) pieces
      have hsecond := other.stream_append (.buffer place) (.buffer store) pieces
      refine hsecond.trans (Eq.trans ?_ hfirst.symm)
      congr 1
      exact h.buffer_eq store hstore
  | standardOutput =>
      refine ⟨h.journal_eq, h.tally_eq, h.buffer_eq, h.events_eq, ?_, h.standardError_eq,
        h.aborted_iff⟩
      rw [Outputs.append, Outputs.append, List.filter_append, List.filter_append,
        h.standardOutput_eq]
  | standardError =>
      refine ⟨h.journal_eq, h.tally_eq, h.buffer_eq, h.events_eq, h.standardOutput_eq, ?_,
        h.aborted_iff⟩
      rw [Outputs.append, Outputs.append, List.filter_append, List.filter_append,
        h.standardError_eq]

theorem Agree.write {outputs other : Outputs} (h : homes.Agree key outputs other)
    {id : HandlerId} {fault : Option WriterFault}
    (hid : fault = none ∨ homes.owns key id = true) (sink : Sink) (text : String) :
    (outputs.write id sink fault text).Matches (homes.Agree key)
      (other.write id sink fault text) := by
  have haborts : fault = some .abortsOnce ∧ id ∉ other.aborted ↔
      fault = some .abortsOnce ∧ id ∉ outputs.aborted := by
    rcases hid with rfl | howns
    · exact ⟨(fun habort => by cases habort.1), (fun habort => by cases habort.1)⟩
    · rw [h.aborted_iff id howns]
  simp only [Outputs.write, haborts]
  split
  · refine ⟨⟨h.journal_eq, h.tally_eq, h.buffer_eq, h.events_eq, h.standardOutput_eq,
      h.standardError_eq, ?_⟩, rfl, rfl⟩
    intro place hplace
    simp only [List.mem_append, h.aborted_iff place hplace]
  · exact ⟨h.append sink _, rfl, rfl⟩

theorem Admits.pairs {handler : Handler} (h : homes.Admits key handler) :
    handler.Pairs (homes.Agree key) handler := by
  intro record outputs other hagree
  have hid : ∀ sink layout fault, handler.destination = .stream sink layout fault →
      fault = none ∨ homes.owns key handler.id = true := by
    rcases h with rfl | ⟨howns, -⟩
    · rintro sink layout fault ⟨rfl⟩
      exact .inl rfl
    · exact fun _ _ _ _ => .inr howns
  obtain ⟨id, threshold, destination⟩ := handler
  cases destination with
  | tally store => exact ⟨hagree.count store, rfl, rfl⟩
  | journal store =>
      refine Outputs.rendering_matches hagree ?_ record.message
      exact fun _ => ⟨hagree.keep store _, rfl, rfl⟩
  | trace =>
      refine Outputs.rendering_matches hagree ?_ record.message
      exact fun _ => ⟨hagree.publish id _, rfl, rfl⟩
  | stream sink layout fault =>
      exact Outputs.rendering_matches hagree
        (fun _ => hagree.write (hid sink layout fault rfl) sink _) record.message

theorem Agree.lastResort {outputs other : Outputs} (h : homes.Agree key outputs other)
    (record : Record) :
    (outputs.lastResort record).Matches (homes.Agree key) (other.lastResort record) := by
  refine Outputs.rendering_matches h ?_ record.message
  exact fun _ => ⟨h.append .standardError _, rfl, rfl⟩

end Homes

end LogTree
