import LogTree.Proofs.RecordDispatch

namespace LogTree

namespace WriterFault

theorem writer_of_mem_writeAll {fault : Option WriterFault} {writer : Writer}
    {octets : List UInt8} {piece : Piece} (h : piece ∈ writeAll fault writer octets) :
    piece.writer = writer := by
  induction octets using writeAll.induct fault with
  | case1 octets count hcount =>
      rw [writeAll, if_pos hcount] at h
      cases h
  | case2 octets count hcount ih =>
      rw [writeAll, if_neg hcount] at h
      rcases List.mem_cons.mp h with rfl | hrest
      · rfl
      · exact ih hrest

theorem filter_writeAll {writer other : Writer} (h : writer ≠ other)
    (fault : Option WriterFault) (octets : List UInt8) :
    (writeAll fault writer octets).filter (fun piece => piece.writer = other) = [] := by
  rw [List.filter_eq_nil_iff]
  intro piece hpiece
  rw [writer_of_mem_writeAll hpiece]
  simpa using h

end WriterFault

namespace Outputs

theorem handle_cases {outputs : Outputs} {handler : Handler} {record : Record}
    (h : (outputs.handle handler record).aborted = false) :
    (∃ key, handler.destination = .tally key ∧
      (outputs.handle handler record).outputs = outputs.count key) ∨
    (∃ key text, handler.destination = .journal key ∧ record.message = .text text ∧
      (outputs.handle handler record).outputs = outputs.keep key (record.capture text)) ∨
    (∃ text, handler.destination = .trace ∧ record.message = .text text ∧
      (outputs.handle handler record).outputs =
        outputs.publish handler.id (Event.ofRecord record text)) ∨
    (∃ sink layout fault text, handler.destination = .stream sink layout fault ∧
      record.message = .text text ∧
      (outputs.handle handler record).outputs = outputs.append sink
        (WriterFault.writeAll fault (.handler handler.id)
          (Text.Utf8.encode (layout.render record text)))) := by
  obtain ⟨id, threshold, destination⟩ := handler
  cases destination with
  | tally key => exact .inl ⟨key, rfl, rfl⟩
  | journal key =>
      cases hmessage : record.message with
      | failing => simp [handle, rendering, hmessage] at h
      | text text => exact .inr (.inl ⟨key, text, rfl, rfl, by simp [handle, rendering, hmessage]⟩)
  | trace =>
      cases hmessage : record.message with
      | failing => simp [handle, rendering, hmessage] at h
      | text text =>
          exact .inr (.inr (.inl ⟨text, rfl, rfl, by simp [handle, rendering, hmessage]⟩))
  | stream sink layout fault =>
      cases hmessage : record.message with
      | failing => simp [handle, rendering, hmessage] at h
      | text text =>
          refine .inr (.inr (.inr ⟨sink, layout, fault, text, rfl, rfl, ?_⟩))
          simp only [handle, rendering, hmessage, write] at h ⊢
          split at h
          · cases h
          · next hfault => rw [if_neg hfault]

theorem aborted_outputs_handle {outputs : Outputs} {handler : Handler} {record : Record}
    (h : (outputs.handle handler record).aborted = false) :
    (outputs.handle handler record).outputs.aborted = outputs.aborted := by
  rcases handle_cases h with ⟨key, -, heq⟩ | ⟨key, text, -, -, heq⟩ | ⟨text, -, -, heq⟩ |
    ⟨sink, layout, fault, text, -, -, heq⟩
  · rw [heq]
    rfl
  · rw [heq]
    rfl
  · rw [heq]
    rfl
  · rw [heq]
    cases sink <;> rfl

theorem aborted_handle_congr {outputs other : Outputs} (h : other.aborted = outputs.aborted)
    (handler : Handler) (record : Record) :
    (other.handle handler record).aborted = (outputs.handle handler record).aborted := by
  obtain ⟨id, threshold, destination⟩ := handler
  rcases hmessage : record.message with text | _
  · cases destination with
    | stream sink layout fault =>
        simp only [handle, rendering, hmessage, write, h]
        split <;> rfl
    | _ => simp [handle, rendering, hmessage]
  · cases destination <;> simp [handle, rendering, hmessage]

theorem NoneAborts.congr {outputs other : Outputs} {record : Record} {handlers : List Handler}
    (hnone : outputs.NoneAborts record handlers) (h : other.aborted = outputs.aborted) :
    other.NoneAborts record handlers := by
  induction handlers generalizing outputs other with
  | nil => trivial
  | cons handler rest ih =>
      obtain ⟨hfirst, hrest⟩ := hnone
      have hother := (aborted_handle_congr h handler record).trans hfirst
      refine ⟨hother, ih hrest ?_⟩
      rw [aborted_outputs_handle hother, aborted_outputs_handle hfirst, h]

theorem NoneAborts.aborted_handleAll {outputs : Outputs} {record : Record}
    {handlers : List Handler} (h : outputs.NoneAborts record handlers) :
    (outputs.handleAll record handlers).aborted = outputs.aborted := by
  induction handlers generalizing outputs with
  | nil => rfl
  | cons handler rest ih => exact (ih h.2).trans (aborted_outputs_handle h.1)

theorem aborted_outputs_lastResort (outputs : Outputs) (record : Record) :
    (outputs.lastResort record).outputs.aborted = outputs.aborted := by
  cases hmessage : record.message <;> simp [lastResort, rendering, hmessage, append]

theorem journal_keep (outputs : Outputs) (place key : String) (captured : Captured) :
    (outputs.keep place captured).journal key =
      outputs.journal key ++ if place = key then [captured] else [] := by
  rw [journal, keep, NameMap.getD, NameMap.get?_insert]
  by_cases h : key = place
  · rw [if_pos h, if_pos h.symm, h]
    rfl
  · rw [if_neg h, if_neg (Ne.symm h), List.append_nil]
    rfl

theorem journal_append (outputs : Outputs) (sink : Sink) (pieces : Stream) (key : String) :
    (outputs.append sink pieces).journal key = outputs.journal key := by
  cases sink <;> rfl

theorem journal_drain (outputs : Outputs) (place key : String) :
    (outputs.drain place).journal key = if key = place then [] else outputs.journal key := by
  rw [journal, drain, NameMap.getD, NameMap.get?_insert]
  split <;> rfl

end Outputs

namespace Delivery

theorem noneAborts_of_foldl_offer {delivery : Delivery} {record : Record}
    {handlers : List Handler}
    (h : (handlers.foldl (Delivery.offer · record ·) delivery).aborted = false) :
    delivery.aborted = false ∧ delivery.outputs.NoneAborts record
      (handlers.filter (Handler.accepts · record.level)) := by
  induction handlers generalizing delivery with
  | nil => exact ⟨h, trivial⟩
  | cons handler rest ih =>
      rw [List.foldl_cons] at h
      obtain ⟨hoffered, hrest⟩ := ih h
      -- A delivery that has aborted offers nothing more and stays so.
      have haborted : delivery.aborted = false := by
        cases haborted : delivery.aborted with
        | false => rfl
        | true =>
            rw [offer_of_aborted haborted] at hoffered
            exact haborted.symm.trans hoffered
      refine ⟨haborted, ?_⟩
      cases haccepts : handler.accepts record.level with
      | false =>
          rw [offer_of_not_accepts haborted haccepts] at hrest
          rw [List.filter_cons_of_neg (by rw [haccepts]; decide)]
          exact hrest
      | true =>
          have hfilter : (handler :: rest).filter (Handler.accepts · record.level) =
              handler :: rest.filter (Handler.accepts · record.level) :=
            List.filter_cons_of_pos haccepts
          rw [offer_of_accepts haborted haccepts] at hoffered hrest
          rw [hfilter]
          exact ⟨hoffered, hrest⟩

theorem aborted_of_aborted_finish {delivery : Delivery} {record : Record}
    (h : (delivery.finish record).aborted = false) : delivery.aborted = false := by
  cases haborted : delivery.aborted with
  | false => rfl
  | true =>
      rw [finish, haborted] at h
      exact haborted.symm.trans h

end Delivery

theorem Registry.noneAborts_of_emit {registry : Registry} {id : LoggerId} {level : Level}
    {failure : Option Failure} {draft : Draft} {outputs : Outputs} {record : Record}
    (hrecord : Record.ofDraft (registry.name id) level failure draft = record)
    (h : (registry.emit id level failure draft outputs).aborted = false) :
    outputs.NoneAborts record (registry.accepting id level) := by
  have hlevel : record.level = level := by
    rw [← hrecord]
    rfl
  rw [emit, hrecord] at h
  have hdispatch := Delivery.aborted_of_aborted_finish h
  rw [dispatch_eq_foldl_offer] at hdispatch
  rw [accepting_eq_filter, ← hlevel]
  exact (Delivery.noneAborts_of_foldl_offer hdispatch).2

/-- The lines that the last resort has written to the standard error. -/
def Outputs.lastResortLines (outputs : Outputs) : List Piece :=
  outputs.standardError.filter fun piece => piece.writer = .lastResort

/-- A part of the outputs that records are added to, each by the handlers that it is handed to or by
the last resort, and that everything else leaves as it is or empties. -/
structure Ledger (α : Type) where
  read : Outputs → List α
  adds : Handler → Record → List α
  lastAdds : Record → List α
  read_handle : ∀ {outputs handler record}, (outputs.handle handler record).aborted = false →
    read (outputs.handle handler record).outputs = read outputs ++ adds handler record
  read_lastResort : ∀ outputs record,
    read (outputs.lastResort record).outputs = read outputs ++ lastAdds record
  read_append : ∀ outputs key pieces, read (outputs.append (.buffer key) pieces) = read outputs
  read_clear : ∀ outputs key, read (outputs.clear key) = read outputs
  read_drain : ∀ outputs key,
    read (outputs.drain key) = read outputs ∨ read (outputs.drain key) = []

namespace Ledger

variable {α : Type} (ledger : Ledger α)

theorem read_handleAll {outputs : Outputs} {record : Record} {handlers : List Handler}
    (h : outputs.NoneAborts record handlers) :
    ledger.read (outputs.handleAll record handlers) =
      ledger.read outputs ++ handlers.flatMap (ledger.adds · record) := by
  induction handlers generalizing outputs with
  | nil => simp [Outputs.handleAll]
  | cons handler rest ih =>
      have hrest := ih h.2
      rw [ledger.read_handle h.1, List.append_assoc] at hrest
      exact hrest

/-- What a record adds when it is handed to a logger. -/
def entries (registry : Registry) (id : LoggerId) (record : Record) : List α :=
  (registry.accepting id record.level).flatMap (ledger.adds · record) ++
    if registry.passed id = [] ∧ Level.warning ≤ record.level then ledger.lastAdds record else []

theorem read_emit {registry : Registry} {id : LoggerId} {level : Level}
    {failure : Option Failure} {draft : Draft} {outputs : Outputs} {record : Record}
    (hrecord : Record.ofDraft (registry.name id) level failure draft = record)
    (hnone : outputs.NoneAborts record (registry.accepting id level)) :
    ledger.read (registry.emit id level failure draft outputs).outputs =
      ledger.read outputs ++ ledger.entries registry id record := by
  have hlevel : record.level = level := by
    rw [← hrecord]
    rfl
  rw [(Registry.emit_of_noneAborts hrecord hnone).2, entries, hlevel]
  split
  · rw [ledger.read_lastResort, ledger.read_handleAll hnone, List.append_assoc]
  · rw [ledger.read_handleAll hnone, List.append_nil]

end Ledger

theorem Registry.aborted_outputs_emit {registry : Registry} {id : LoggerId} {level : Level}
    {failure : Option Failure} {draft : Draft} {outputs : Outputs} {record : Record}
    (hrecord : Record.ofDraft (registry.name id) level failure draft = record)
    (hnone : outputs.NoneAborts record (registry.accepting id level)) :
    (registry.emit id level failure draft outputs).outputs.aborted = outputs.aborted := by
  rw [(emit_of_noneAborts hrecord hnone).2]
  split
  · rw [Outputs.aborted_outputs_lastResort, hnone.aborted_handleAll]
  · exact hnone.aborted_handleAll

theorem Registry.SameRoutes.entries_eq {registry other : Registry} (h : registry.SameRoutes other)
    {α : Type} (ledger : Ledger α) (id : LoggerId) (record : Record) :
    ledger.entries other id record = ledger.entries registry id record := by
  rw [Ledger.entries, Ledger.entries, accepting_eq_filter, accepting_eq_filter, h.passed_eq]

namespace Ledger

/-- The records that a handler keeps for the program. -/
def journal (key : String) : Ledger Captured where
  read := fun outputs => outputs.journal key
  adds := fun handler record =>
    match handler.destination, record.message with
    | .journal place, .text text => if place = key then [record.capture text] else []
    | _, _ => []
  lastAdds := fun _ => []
  read_handle := by
    intro outputs handler record h
    rcases Outputs.handle_cases h with ⟨place, hdestination, heq⟩ |
      ⟨place, text, hdestination, hmessage, heq⟩ | ⟨text, hdestination, hmessage, heq⟩ |
      ⟨sink, layout, fault, text, hdestination, hmessage, heq⟩
    · rw [heq, hdestination, List.append_nil]
      rfl
    · rw [heq, hdestination, hmessage]
      exact Outputs.journal_keep _ _ _ _
    · rw [heq, hdestination, List.append_nil]
      rfl
    · rw [heq, hdestination, List.append_nil]
      exact Outputs.journal_append _ _ _ _
  read_lastResort := by
    intro outputs record
    cases hmessage : record.message with
    | text text =>
        simp only [Outputs.lastResort, Outputs.rendering, hmessage, List.append_nil]
        exact Outputs.journal_append _ _ _ _
    | failing => simp [Outputs.lastResort, Outputs.rendering, hmessage]
  read_append := fun _ _ _ => rfl
  read_clear := fun _ _ => rfl
  read_drain := by
    intro outputs place
    rw [Outputs.journal_drain]
    split
    · exact .inr rfl
    · exact .inl rfl

theorem level_of_mem_entries_journal {key : String} {registry : Registry} {id : LoggerId}
    {record : Record} {captured : Captured}
    (h : captured ∈ (journal key).entries registry id record) : captured.level = record.level := by
  rw [entries, List.mem_append] at h
  rcases h with hadded | hlast
  · obtain ⟨handler, -, hcaptured⟩ := List.mem_flatMap.mp hadded
    simp only [journal] at hcaptured
    split at hcaptured
    · split at hcaptured
      · rw [List.mem_singleton.mp hcaptured]
        rfl
      · cases hcaptured
    · cases hcaptured
  · simp [journal] at hlast

def lastResort : Ledger Piece where
  read := Outputs.lastResortLines
  adds := fun _ _ => []
  lastAdds := fun record =>
    match record.message with
    | .text text => [{ writer := .lastResort, octets := Text.Utf8.encode (text ++ "\n") }]
    | .failing => []
  read_handle := by
    intro outputs handler record h
    rcases Outputs.handle_cases h with ⟨place, -, heq⟩ | ⟨place, text, -, -, heq⟩ |
      ⟨text, -, -, heq⟩ | ⟨sink, layout, fault, text, -, -, heq⟩
    · rw [heq, List.append_nil]
      rfl
    · rw [heq, List.append_nil]
      rfl
    · rw [heq, List.append_nil]
      rfl
    · rw [heq, List.append_nil]
      cases sink with
      | standardError =>
          have hwriter : Writer.handler handler.id ≠ .lastResort := nofun
          rw [Outputs.lastResortLines, Outputs.append, List.filter_append,
            WriterFault.filter_writeAll hwriter, List.append_nil]
          rfl
      | _ => rfl
  read_lastResort := by
    intro outputs record
    cases hmessage : record.message with
    | text text =>
        simp [Outputs.lastResort, Outputs.rendering, hmessage, Outputs.append,
          Outputs.lastResortLines]
    | failing => simp [Outputs.lastResort, Outputs.rendering, hmessage]
  read_append := fun _ _ _ => rfl
  read_clear := fun _ _ => rfl
  read_drain := fun _ _ => .inl rfl

end Ledger

end LogTree
