import CallGate.Proofs.Machine.Cells

/-! What each instruction of the exchange routine makes of the words it works on. -/

namespace CallGate.Machine

/-- Instructions go on where those before them stopped. -/
theorem Processor.steps_append (processor : Processor) (region : UInt64 → Processor → Processor)
    (returnAddress : UInt64) (first second : List Step) :
    processor.steps region returnAddress (first ++ second) =
      (processor.steps region returnAddress first).steps region returnAddress second :=
  List.foldl_append ..

/-- A call hands over to the code it finds, with the return address on the stack. -/
theorem Processor.steps_call (processor : Processor) (region : UInt64 → Processor → Processor)
    (returnAddress : UInt64) (target : Place) (rest : List Step) :
    processor.steps region returnAddress (.call target :: rest) =
      (region (processor.word (processor.address target))
        (processor.pushValue returnAddress)).steps region returnAddress rest := rfl

namespace Swap

variable {layout : Layout} {view : View}

/-- An action leads from processors that look like one view to such that look like another. It
neither reads nor writes a byte that belongs to none of the words. -/
structure Leads (layout : Layout) (before : View) (act : Processor → Processor) (after : View) :
    Prop where
  shows {processor : Processor} (shows : Shows layout processor before) :
    Shows layout (act processor) after
  spares {processor : Processor} (shows : Shows layout processor before) {place : UInt64}
    (spared : layout.Spares place) (byte : UInt8) :
    act (processor.poke place byte) = (act processor).poke place byte

namespace Leads

section Actions

variable (layout view)

/-- An action that replaces a register leads to the view with that register replaced. -/
theorem setRegister (register : Register) (value : UInt64) :
    Leads layout view (·.setRegister register value) (view.setRegister register value) where
  shows shows := shows.setRegister register value
  spares _ _ _ _ := rfl

/-- An action that replaces the flags leads to the view with other flags. -/
theorem setFlags (value : UInt64) :
    Leads layout view (fun processor => { processor with flags := value })
      { view with flags := value } where
  shows shows := ⟨shows.registers, rfl, shows.stackPointer, shows.cells⟩
  spares _ _ _ _ := rfl

/-- An action that stores into one of the words leads to the view with that word replaced. -/
theorem storeWord (cell : Cell) (value : UInt64) :
    Leads layout view (·.storeWord (cell.address layout) value) (view.setCell cell value) where
  -- The view follows the store, and a byte apart from the word may be written before or after it.
  shows shows := shows.storeWord cell value
  spares _ _ spared byte := Processor.storeWord_poke byte value (spared cell)

/-- An action that discards the top of the stack leads to the view that is one word less deep. -/
theorem discard : Leads layout view (·.popValue.2) view.pop where
  shows shows := shows.popValue_snd
  spares _ _ _ _ := rfl

variable {layout view}

/-- An action that pushes a word leads to the view that has it on top. -/
theorem pushValue {place : Fin 5} (depth : view.depth = place + 1) (value : UInt64) :
    Leads layout view (·.pushValue value) (view.push place value) where
  shows shows := shows.pushValue depth value
  spares shows _ spared byte := by
    -- The word below the top is one that the byte is apart from, so the push does not meet it.
    have apart := spared (.stack place)
    rw [← shows.below depth] at apart
    exact Processor.pushValue_poke byte value apart

end Actions

variable {before midway after : View} {act next : Processor → Processor}

/-- One action after the other. -/
theorem andThen (one : Leads layout before act midway) (two : Leads layout midway next after) :
    Leads layout before (fun processor => next (act processor)) after where
  shows shows := two.shows (one.shows shows)
  spares shows _ spared byte := by
    -- The byte commutes with the first action and then, from the view in between, with the second.
    rw [one.spares shows spared byte]
    exact two.spares (one.shows shows) spared byte

/-- Views that are the same can be named in either way. -/
theorem seen {other : View} (leads : Leads layout before act after) (same : after = other) :
    Leads layout before act other := same ▸ leads

/-- A byte that is not written is what it was. -/
theorem memory (leads : Leads layout before act after) {processor : Processor}
    (shows : Shows layout processor before) {place : UInt64} (spared : layout.Spares place) :
    (act processor).memory place = processor.memory place := by
  -- Writing the byte that is there already changes nothing, before the action or after it.
  have same := leads.spares shows spared (processor.memory place)
  rw [Processor.poke_self] at same
  rw [same]
  simp [Processor.poke]

/-- What an action does to processors that look otherwise does not matter. -/
theorem congr (leads : Leads layout before act after)
    (same : ∀ processor, Shows layout processor before → next processor = act processor) :
    Leads layout before next after where
  shows {processor} shows := by
    rw [same processor shows]
    exact leads.shows shows
  spares {processor} shows _ spared byte := by
    -- The processor with the other byte looks the same.
    rw [same processor shows, same _ (shows.poke spared byte)]
    exact leads.spares shows spared byte

variable {region : UInt64 → Processor → Processor} {returnAddress : UInt64}

/-- No instructions lead nowhere else. -/
theorem nil : Leads layout view (·.steps region returnAddress []) view where
  shows shows := shows
  spares _ _ _ _ := rfl

/-- Instructions lead on from where the first one led. -/
theorem cons {step : Step} {rest : List Step}
    (one : Leads layout before (·.step region returnAddress step) midway)
    (two : Leads layout midway (·.steps region returnAddress rest) after) :
    Leads layout before (·.steps region returnAddress (step :: rest)) after :=
  one.andThen two

/-- Instructions lead on from where those before them led. -/
theorem append {first second : List Step}
    (one : Leads layout before (·.steps region returnAddress first) midway)
    (two : Leads layout midway (·.steps region returnAddress second) after) :
    Leads layout before (·.steps region returnAddress (first ++ second)) after :=
  (one.andThen two).congr fun processor _ => processor.steps_append ..

end Leads

section Instructions

variable {region : UInt64 → Processor → Processor} {returnAddress : UInt64}
  {operand : Place} {cell : Cell}

/-- Pushing the flags leads to the view that has them on top. -/
theorem leads_pushFlags (place : Fin 5) (depth : view.depth = place + 1) :
    Leads layout view (·.step region returnAddress .pushFlags) (view.push place view.flags) :=
  -- The flags that are pushed are the ones that the view shows.
  (Leads.pushValue depth view.flags).congr fun processor shows => by
    rw [Processor.step, shows.flags]

/-- Pushing a register leads to the view that has it on top. -/
theorem leads_push (register : Register) (place : Fin 5) (depth : view.depth = place + 1) :
    Leads layout view (·.step region returnAddress (.push register))
      (view.push place (view.registers register)) :=
  (Leads.pushValue depth (view.registers register)).congr fun processor shows => by
    rw [Processor.step, shows.registers]

/-- Pushing an operand leads to the view that has the operand's word on top. -/
theorem leads_pushWord (finds : Finds layout view operand cell) (place : Fin 5)
    (depth : view.depth = place + 1) :
    Leads layout view (·.step region returnAddress (.pushWord operand))
      (view.push place (view.cells cell)) :=
  -- An operand is a word of the view, so the word that is pushed is known from it.
  (Leads.pushValue depth (view.cells cell)).congr fun processor shows => by
    rw [Processor.step, shows.address finds, shows.cells]

/-- Popping the flags leads to the view whose flags were on top. -/
theorem leads_popFlags (place : Fin 5) (depth : view.depth = place) :
    Leads layout view (·.step region returnAddress .popFlags)
      { view.pop with flags := view.cells (.stack place) } :=
  -- The top is read before it is discarded, and the view still knows it.
  ((Leads.discard layout view).andThen (.setFlags layout _ (view.cells (.stack place)))).congr
    fun processor shows => by
      rw [← shows.popValue_fst depth]
      rfl

/-- Popping a register leads to the view whose register was on top. -/
theorem leads_pop (register : Register) (place : Fin 5) (depth : view.depth = place) :
    Leads layout view (·.step region returnAddress (.pop register))
      (view.pop.setRegister register (view.cells (.stack place))) :=
  -- The top is read before it is discarded, and the view still knows it.
  ((Leads.discard layout view).andThen
    (.setRegister layout _ register (view.cells (.stack place)))).congr fun processor shows => by
      rw [← shows.popValue_fst depth]
      rfl

/-- Popping an operand leads to the view whose word was on top. -/
theorem leads_popWord (finds : Finds layout view.pop operand cell) (place : Fin 5)
    (depth : view.depth = place) :
    Leads layout view (·.step region returnAddress (.popWord operand))
      (view.pop.setCell cell (view.cells (.stack place))) :=
  -- The operand is looked up once the top is gone, so it is found from the popped view.
  ((Leads.discard layout view).andThen
    (.storeWord layout _ cell (view.cells (.stack place)))).congr fun processor shows => by
      rw [← shows.popValue_fst depth, ← shows.popValue_snd.address finds]
      rfl

/-- A move leads to the view with the source in the target. -/
theorem leads_move (target source : Register) :
    Leads layout view (·.step region returnAddress (.move target source))
      (view.setRegister target (view.registers source)) :=
  (Leads.setRegister layout view target (view.registers source)).congr fun processor shows => by
    rw [Processor.step, shows.registers]

/-- A load leads to the view with the operand's word in the target. -/
theorem leads_load (target : Register) (finds : Finds layout view operand cell) :
    Leads layout view (·.step region returnAddress (.load target operand))
      (view.setRegister target (view.cells cell)) :=
  (Leads.setRegister layout view target (view.cells cell)).congr fun processor shows => by
    rw [Processor.step, shows.address finds, shows.cells]

/-- A store leads to the view with the source in the operand's word. -/
theorem leads_store (source : Register) (finds : Finds layout view operand cell) :
    Leads layout view (·.step region returnAddress (.store operand source))
      (view.setCell cell (view.registers source)) :=
  (Leads.storeWord layout view cell (view.registers source)).congr fun processor shows => by
    rw [Processor.step, shows.address finds, shows.registers]

/-- An exchange leads to the view in which the register and the operand's word have changed places.
-/
theorem leads_exchange (register : Register) (finds : Finds layout view operand cell) :
    Leads layout view (·.step region returnAddress (.exchange register operand))
      ((view.setCell cell (view.registers register)).setRegister register (view.cells cell)) :=
  -- The word and the register change places, both as the view knew them before.
  ((Leads.storeWord layout view cell (view.registers register)).andThen
    (.setRegister layout _ register (view.cells cell))).congr fun processor shows => by
      rw [Processor.step]
      simp only [shows.address finds, shows.registers, shows.cells]

/-- A return takes the return address off the stack. -/
theorem leads_ret : Leads layout view (·.step region returnAddress .ret) view.pop :=
  Leads.discard layout view

end Instructions

end Swap

end CallGate.Machine
